import ChatsEngine.Foundation.JsonRoundTrip

/-! # Users and their cached texts

The two caches of users, as `chats/core/cache_utils.py` writes and reads them: the id of a user
as a decimal number, and the user as a JSON object; `-1` says that there is none. -/

namespace ChatsEngine.Accounts

open JsonText

/-- The columns of a user that are cached. Ids count from one. -/
structure User where
  id : Nat
  id_pos : 0 < id
  email : Text
  firstName : Text
  lastName : Text
  isStaff : Bool
  isActive : Bool
  isSuperuser : Bool
  language : Option Text
  photoUrl : Option Text
  deriving DecidableEq, Repr

structure Users where
  rows : List User
  idsDistinct : (rows.map User.id).Nodup
  emailsDistinct : (rows.map User.email).Nodup

namespace Users

variable {users : Users} {user : User} {email : Text} {pk : Nat}

/-- `User.objects.get(email=email)` -/
def getByEmail (users : Users) (email : Text) : Option User :=
  users.rows.find? fun user => user.email = email

/-- `User.objects.filter(pk=pk).exists()` -/
def hasPk (users : Users) (pk : Nat) : Bool :=
  users.rows.any fun user => user.id = pk

def empty : Users where
  rows := []
  idsDistinct := List.nodup_nil
  emailsDistinct := List.nodup_nil

theorem getByEmail_eq_some_iff :
    users.getByEmail email = some user ↔ user ∈ users.rows ∧ user.email = email := by
  constructor
  · intro found
    exact ⟨List.mem_of_find?_eq_some found, by simpa using List.find?_some found⟩
  · intro given
    rcases given with ⟨member, rfl⟩
    cases found : users.getByEmail user.email with
    | none => exact absurd (decide_eq_true rfl) (List.find?_eq_none.mp found user member)
    | some other =>
        have sameEmail : other.email = user.email := by simpa using List.find?_some found
        rw [List.inj_on_of_nodup_map users.emailsDistinct (List.mem_of_find?_eq_some found) member
          sameEmail]

theorem getByEmail_eq_none_iff :
    users.getByEmail email = none ↔ ∀ user ∈ users.rows, user.email ≠ email := by
  simp [getByEmail]

theorem hasPk_of_getByEmail (found : users.getByEmail email = some user) :
    users.hasPk user.id = true := by
  simp only [hasPk, List.any_eq_true, decide_eq_true_eq]
  exact ⟨user, (getByEmail_eq_some_iff.mp found).1, rfl⟩

/-- `User.objects.get(pk=pk)` -/
def getByPk (users : Users) (pk : Nat) : Option User :=
  users.rows.find? fun user => user.id = pk

def Taken (users : Users) (saved : User) : Prop :=
  ∃ user ∈ users.rows, user.id ≠ saved.id ∧ user.email = saved.email

instance (users : Users) (saved : User) : Decidable (users.Taken saved) :=
  inferInstanceAs (Decidable (∃ user ∈ users.rows, _))

def others (users : Users) (pk : Nat) : List User :=
  users.rows.filter fun user => user.id ≠ pk

theorem mem_others : user ∈ users.others pk ↔ user ∈ users.rows ∧ user.id ≠ pk := by
  simp [others]

/-- `DELETE ... WHERE id = pk` -/
def delete (users : Users) (pk : Nat) : Users where
  rows := users.others pk
  idsDistinct := users.idsDistinct.sublist (List.filter_sublist.map _)
  emailsDistinct := users.emailsDistinct.sublist (List.filter_sublist.map _)

def save (users : Users) (saved : User) : Users :=
  if taken : users.Taken saved then
    users
  else
    { rows := saved :: users.others saved.id
      idsDistinct := by
        rw [List.map_cons, List.nodup_cons]
        refine ⟨fun member => ?_, users.idsDistinct.sublist (List.filter_sublist.map _)⟩
        rcases List.mem_map.mp member with ⟨user, other, same⟩
        exact (mem_others.mp other).2 same
      emailsDistinct := by
        rw [List.map_cons, List.nodup_cons]
        refine ⟨fun member => ?_, users.emailsDistinct.sublist (List.filter_sublist.map _)⟩
        rcases List.mem_map.mp member with ⟨user, other, same⟩
        exact taken ⟨user, (mem_others.mp other).1, (mem_others.mp other).2, same⟩ }

end Users

/-! ## Texts in the cache -/

section Texts

variable {Real : Type} (floats : FloatFormat Real)

/-- The text that says that there is no such user. -/
def negative : Text := intText (-1)

/-- What `setex` stores for an id, or for none. -/
def idText : Option Nat → Text
  | some pk => intText pk
  | none => negative

/-- `int(cached_value)`, of texts that consist of digits. -/
def int (cached : Text) : Option Nat :=
  match readDigits cached with
  | some (digits, []) => some digits.value
  | _ => none

/-- What `_check_cache_for_user_id` reads from the text; no value where it raises. -/
def readId (cached : Text) : Option (Option Nat) :=
  if cached = negative then some none else (int cached).map some

theorem int_intText (pk : Nat) : int (intText pk) = some pk := by
  have digits : readDigits (digitsText (wholeDigits pk).toList ++ []) =
      some (wholeDigits pk, []) :=
    readDigits_digitsText _ fun _ impossible => by cases impossible
  rw [List.append_nil] at digits
  have text : intText (pk : Int) = digitsText (wholeDigits pk).toList := rfl
  rw [int, text, digits]
  simp only [value_wholeDigits]

theorem intText_ne_negative (pk : Nat) : intText pk ≠ negative := by
  intro same
  have read := int_intText pk
  rw [same] at read
  have unread : int negative = none := by decide
  rw [unread] at read
  cases read

theorem readId_idText (found : Option Nat) : readId (idText found) = some found := by
  cases found with
  | none => rfl
  | some pk => rw [idText, readId, if_neg (intText_ne_negative pk), int_intText]; rfl

def optionalText : Option Text → Value Real
  | none => .null
  | some text => .string text

/-- The object that `_serialize_user_for_cache` writes. -/
def userFields (user : User) : Fields Real :=
  [(text "id", .int user.id), (text "email", .string user.email),
    (text "first_name", .string user.firstName), (text "last_name", .string user.lastName),
    (text "is_staff", .bool user.isStaff), (text "is_active", .bool user.isActive),
    (text "is_superuser", .bool user.isSuperuser), (text "language", optionalText user.language),
    (text "photo_url", optionalText user.photoUrl)]

def serializeUserForCache (user : User) : Text :=
  dumps floats none false (.object (userFields user))

/-- `user_data.get(key)` for a nullable text. -/
def getText (fields : Fields Real) (key : Text) : Option (Option Text) :=
  match fields.get key with
  | none | some .null => some none
  | some (.string text) => some (some text)
  | some _ => none

/-- `_build_user_from_cache`; no user where a key is missing. -/
def buildUserFromCache (fields : Fields Real) : Option User :=
  match fields.get (text "id"), fields.get (text "email"), fields.get (text "first_name"),
    fields.get (text "last_name"), fields.get (text "is_staff"), fields.get (text "is_active"),
    fields.get (text "is_superuser"), getText fields (text "language"),
    getText fields (text "photo_url") with
  | some (.int (.ofNat id)), some (.string email), some (.string firstName),
    some (.string lastName), some (.bool isStaff), some (.bool isActive),
    some (.bool isSuperuser), some language, some photoUrl =>
      if id_pos : 0 < id then
        some { id, id_pos, email, firstName, lastName, isStaff, isActive, isSuperuser, language,
               photoUrl }
      else
        none
  | _, _, _, _, _, _, _, _, _ => none

def userText : Option User → Text
  | some user => serializeUserForCache floats user
  | none => negative

/-- What `_get_user_from_cache` reads from the text; no value where it deletes the entry. -/
def readUser (cached : Text) : Option (Option User) :=
  if cached = negative then
    some none
  else
    match loads floats cached with
    | some (.object fields) => (buildUserFromCache fields).map some
    | _ => none

theorem wellFormed_userFields (user : User) :
    (Value.object (userFields user) : Value Real).WellFormed := by
  rw [wellFormed_object_iff]
  refine ⟨by simp [Fields.Distinct, userFields, text, units], fun field member => ?_⟩
  simp only [userFields, List.mem_cons, List.not_mem_nil, or_false] at member
  rcases member with rfl | rfl | rfl | rfl | rfl | rfl | rfl | rfl | rfl
  all_goals try trivial
  · cases user.language <;> trivial
  · cases user.photoUrl <;> trivial

theorem buildUserFromCache_userFields (user : User) :
    buildUserFromCache (userFields user : Fields Real) = some user := by
  have language : getText (userFields user : Fields Real) (text "language") =
      some user.language := by
    cases given : user.language <;>
      simp [getText, userFields, Fields.get, optionalText, text, units, given]
  have photoUrl : getText (userFields user : Fields Real) (text "photo_url") =
      some user.photoUrl := by
    cases given : user.photoUrl <;>
      simp [getText, userFields, Fields.get, optionalText, text, units, given]
  rw [buildUserFromCache, language, photoUrl]
  simp [userFields, Fields.get, text, units, user.id_pos]

theorem serializeUserForCache_ne_negative (user : User) :
    serializeUserForCache floats user ≠ negative := by
  intro same
  have written : (serializeUserForCache floats user).head? = some 123 := rfl
  rw [same] at written
  exact absurd written (by decide)

theorem readUser_userText (found : Option User) :
    readUser floats (userText floats found) = some found := by
  cases found with
  | none => rfl
  | some user =>
      rw [userText, readUser, if_neg (serializeUserForCache_ne_negative floats user),
        serializeUserForCache, loads_dumps floats none false (wellFormed_userFields user)]
      simp only [Bool.false_eq_true, if_false, buildUserFromCache_userFields]
      rfl

end Texts

end ChatsEngine.Accounts
