/-! # Types that all models share -/

namespace ChatsEngine

abbrev Uuid := Nat

/-- Microseconds on the server's clock. -/
abbrev Instant := Nat

/-- Users are referred to by email. -/
abbrev UserEmail := String

/-- A JSON value, of which the models read nothing. -/
abbrev Json := String

end ChatsEngine
