import ChatsEngine.Accounts.CachedUsers
import ChatsEngine.Foundation.CachedLookup

/-! # Lookups of users by email

`get_user_id_by_email_cached` and `get_cached_user` look users up through the cache, and the
signals of the users delete cached keys. A cached id is only answered if its user still exists. -/

namespace ChatsEngine.Accounts

open JsonText

/-- `user:email:...` and `user:object:...` -/
inductive UserKey
  | email (email : Text)
  | object (email : Text)
  deriving DecidableEq, Repr

inductive UserRequest
  | getUserIdByEmailCached (email : Option Text)
  | getCachedUser (email : Option Text)
  deriving DecidableEq, Repr

inductive UserAnswer
  | id (found : Option Nat)
  | object (found : Option User)
  deriving DecidableEq, Repr

inductive UserWrite
  | save (user : User)
  /-- `UserManager.update_email`, for the instance that it has loaded. -/
  | updateEmail (loaded : User) (newEmail : Text)
  | delete (loaded : User)
  /-- `invalidate_cached_user`, which the authentication calls after a save. -/
  | invalidateCachedUser (email : Text)
  deriving DecidableEq, Repr

/-- The settings of the caches, and `str.strip` and `str.lower`. -/
structure UserCacheSettings where
  emailLookupTtl : Nat
  emailLookupNegTtl : Nat
  userObjectCacheTtl : Nat
  emailLookupCacheEnabled : Bool
  userObjectCacheEnabled : Bool
  strip : Text → Text
  lower : Text → Text
  normalizeEmail : Text → Text

namespace UserCacheSettings

variable {Real : Type} (settings : UserCacheSettings) (floats : FloatFormat Real)

/-- `_normalize_email`; what is empty counts as none. -/
def normalized (email : Option Text) : Option Text :=
  match email with
  | none => none
  | some email =>
      if email = [] then
        none
      else if settings.lower (settings.strip email) = [] then
        none
      else
        some (settings.lower (settings.strip email))

def entry : UserRequest → LookupEntry UserKey
  | .getUserIdByEmailCached email =>
      match settings.normalized email with
      | none => .refused
      | some email =>
          if settings.emailLookupCacheEnabled then .cached (.email email) else .direct (.email email)
  | .getCachedUser email =>
      match settings.normalized email with
      | none => .refused
      | some email =>
          if settings.userObjectCacheEnabled then
            .cached (.object email)
          else
            .direct (.object email)

/-- `_get_user_id_from_db` and `_get_user_from_db` -/
def load (users : Users) : UserKey → UserAnswer
  | .email email => .id ((users.getByEmail email).map User.id)
  | .object email => .object (users.getByEmail email)

def encode : UserAnswer → Text
  | .id found => idText found
  | .object found => userText floats found

def decode (key : UserKey) (cached : Text) : Option UserAnswer :=
  match key with
  | .email _ => (readId cached).map .id
  | .object _ => (readUser floats cached).map .object

def ttl : UserAnswer → Option Nat
  | .id (some _) => some settings.emailLookupTtl
  | .object (some _) => some settings.userObjectCacheTtl
  | .id none | .object none => some settings.emailLookupNegTtl

/-- `_validate_cached_user_id` -/
def passes (users : Users) : UserAnswer → Bool
  | .id (some pk) => users.hasPk pk
  | _ => true

def invalidateUserEmailCache (email : Text) : List UserKey :=
  if settings.emailLookupCacheEnabled then
    match settings.normalized (some email) with
    | none => []
    | some email => [.email email]
  else
    []

def invalidateCachedUser (email : Text) : List UserKey :=
  if settings.userObjectCacheEnabled then
    match settings.normalized (some email) with
    | none => []
    | some normalized => .object normalized :: settings.invalidateUserEmailCache email
  else
    []

/-- `invalidate_user_cache_on_save`, with the email that `capture_old_email` has found. A user
that has been created is not invalidated. -/
def invalidateUserCacheOnSave (old : Option User) (saved : User) : List UserKey :=
  match old with
  | none => []
  | some old =>
      settings.invalidateCachedUser saved.email ++
        if old.email ≠ [] ∧ old.email ≠ saved.email then
          settings.invalidateUserEmailCache old.email
        else
          []

end UserCacheSettings

namespace UserWrite

variable (settings : UserCacheSettings)

def updated (loaded : User) (newEmail : Text) : User :=
  { loaded with email := settings.normalizeEmail newEmail }

def apply (users : Users) : UserWrite → Users
  | .save user => users.save user
  | .updateEmail loaded newEmail => users.save (updated settings loaded newEmail)
  | .delete loaded => users.delete loaded.id
  | .invalidateCachedUser _ => users

/-- The keys that are deleted after a save; none if it raises, as the email is taken. -/
def keysOfSave (users : Users) (user : User) : List UserKey :=
  if users.Taken user then
    []
  else
    settings.invalidateUserCacheOnSave (users.getByPk user.id) user

def invalidates (users : Users) : UserWrite → List UserKey
  | .save user => keysOfSave settings users user
  | .updateEmail loaded newEmail =>
      if users.Taken (updated settings loaded newEmail) then
        []
      else
        keysOfSave settings users (updated settings loaded newEmail) ++
          settings.invalidateUserEmailCache loaded.email ++
          settings.invalidateUserEmailCache newEmail
  | .delete loaded => settings.invalidateUserEmailCache loaded.email
  | .invalidateCachedUser email => settings.invalidateCachedUser email

end UserWrite

variable {Real : Type} (settings : UserCacheSettings) (floats : FloatFormat Real)

def userLookup : CachedLookup Users UserRequest UserKey UserAnswer Text UserWrite where
  entry := settings.entry
  load := UserCacheSettings.load
  encode := UserCacheSettings.encode floats
  decode := UserCacheSettings.decode floats
  discards
    | .email _ => false
    | .object _ => true
  ttl := settings.ttl
  checks
    | .id (some _) => true
    | _ => false
  passes := UserCacheSettings.passes
  apply := UserWrite.apply settings
  invalidates := UserWrite.invalidates settings
  decode_load := by
    intro users key
    cases key with
    | email email => simp [UserCacheSettings.load, UserCacheSettings.encode,
        UserCacheSettings.decode, readId_idText]
    | object email => simp [UserCacheSettings.load, UserCacheSettings.encode,
        UserCacheSettings.decode, readUser_userText]
  passes_load := by
    intro users key _
    cases key with
    | object email => rfl
    | email email =>
        rw [UserCacheSettings.load]
        cases found : users.getByEmail email with
        | none => rfl
        | some user => exact Users.hasPk_of_getByEmail found

/-! ## How old an answer may be -/

variable {settings floats} {Pid : Type} [DecidableEq Pid] {delay now read checked : Nat}
  {users : Users} {pid : Pid} {email : Text} {key : UserKey} {value : UserAnswer}
  {middle final : Pool Pid (LookupTables Users UserKey Text)
    (LookupProgress UserKey UserAnswer UserWrite)}

/-- The runs in which a lookup stores what it has loaded within the delay. -/
abbrev ReachesWithin (settings : UserCacheSettings) (floats : FloatFormat Real) (delay : Nat)
    (initial final : Pool Pid (LookupTables Users UserKey Text)
      (LookupProgress UserKey UserAnswer UserWrite)) : Prop :=
  (userLookup settings floats).program.machine.Reaches
    (fun pool event => pool.OwnStep (CachedLookup.StoresWithin delay) event) initial final

/-- At some instant that is at most this long before the answer was read, the users were so. -/
def WasTrue (tables : LookupTables Users UserKey Text) (read age : Nat)
    (Holds : Users → Prop) : Prop :=
  ∃ given number, given ≤ read ∧ read ≤ given + age ∧ tables.source.InForce number given ∧
    Holds (tables.source.state number)

/-- An id that is answered was the one of the email a short time ago, and its user still exists
when it is answered. Where none is answered, no user had the email an even shorter time ago. -/
theorem user_id_answers
    (reaches : ReachesWithin settings floats delay (Pool.idle (CachedLookup.fresh now users)) final)
    (answered : final.process pid = some (.answered (.email email) value read checked)) :
    (∃ pk, value = .id (some pk) ∧
        WasTrue final.shared read (settings.emailLookupTtl + delay)
          (fun users => ∃ user ∈ users.rows, user.email = email ∧ user.id = pk) ∧
        ∃ number, read ≤ checked ∧ checked ≤ final.shared.now ∧
          final.shared.source.InForce number checked ∧
          ∃ user ∈ (final.shared.source.state number).rows, user.id = pk) ∨
      value = .id none ∧ WasTrue final.shared read (settings.emailLookupNegTtl + delay)
        fun users => ∀ user ∈ users.rows, user.email ≠ email := by
  rcases CachedLookup.answers_recent now users reaches answered with
    ⟨⟨given, number, order, recent, inForce, loaded⟩, tested⟩
  change UserAnswer.id _ = value at loaded
  cases found : (final.shared.source.state number).getByEmail email with
  | none =>
      rw [found] at loaded
      subst loaded
      refine .inr ⟨rfl, given, number, order, ?_, inForce, Users.getByEmail_eq_none_iff.mp found⟩
      rw [← Nat.add_assoc]
      exact recent
  | some user =>
      rw [found] at loaded
      subst loaded
      rcases tested.passed rfl with ⟨later, stillInForce, passes⟩
      rcases Users.getByEmail_eq_some_iff.mp found with ⟨member, hasEmail⟩
      refine .inl ⟨user.id, rfl, ⟨given, number, order, ?_, inForce, user, member, hasEmail, rfl⟩,
        later, tested.read_le, tested.checked_le, stillInForce, ?_⟩
      · rw [← Nat.add_assoc]
        exact recent
      · have stillThere : Users.hasPk _ user.id = true := passes
        simpa [Users.hasPk] using stillThere

def exampleUserSettings : UserCacheSettings where
  emailLookupTtl := 300
  emailLookupNegTtl := 60
  userObjectCacheTtl := 300
  emailLookupCacheEnabled := true
  userObjectCacheEnabled := true
  strip := id
  lower := id
  normalizeEmail := id

def ada (lastName : String) : User where
  id := 7
  id_pos := by decide
  email := text "ada"
  firstName := text "Ada"
  lastName := text lastName
  isStaff := false
  isActive := true
  isSuperuser := false
  language := none
  photoUrl := none

def onlyAda : Users where
  rows := [ada "King"]
  idsDistinct := List.nodup_singleton _
  emailsDistinct := List.nodup_singleton _

def twoLookups (request : UserRequest) :
    List (PoolEvent Bool (LookupTask UserRequest UserWrite) LookupChoice
      (LookupAmbient Users UserKey)) :=
  [.start false (.lookup request), .advance false .proceed, .advance false .proceed,
    .surround (.tick 2), .advance false .proceed, .start true (.lookup request),
    .advance true .proceed, .surround (.tick 3), .advance true .proceed]

/-- The second lookup finds the id in the cache and checks its user. -/
theorem ada_id_is_cached :
    ∃ final : Pool Bool (LookupTables Users UserKey Text)
        (LookupProgress UserKey UserAnswer UserWrite),
      final.process true = some (.answered (.email (text "ada")) (.id (some 7)) 2 5) ∧
        WasTrue final.shared 2 (300 + 2)
          fun users => ∃ user ∈ users.rows, user.email = text "ada" ∧ user.id = 7 := by
  have answers : ((userLookup exampleUserSettings FloatFormat.literal).program.machine.runMeeting
      (fun pool event => pool.OwnStep (CachedLookup.StoresWithin 2) event)
      (Pool.idle (CachedLookup.fresh 0 onlyAda))
      (twoLookups (.getUserIdByEmailCached (some (text "ada"))))).map
        (fun pool => pool.process true) =
      some (some (.answered (.email (text "ada")) (.id (some 7)) 2 5)) := by
    decide +kernel
  rcases Option.map_eq_some_iff.mp answers with ⟨final, ran, answered⟩
  have known := user_id_answers (.of_runMeeting ran) answered
  rcases known with ⟨pk, same, wasTrue, _⟩ | ⟨impossible, _⟩
  · cases same
    exact ⟨final, answered, wasTrue⟩
  · cases impossible

/-- A user that is answered had all of its cached columns a short time ago. -/
theorem user_object_answers
    (reaches : ReachesWithin settings floats delay (Pool.idle (CachedLookup.fresh now users)) final)
    (answered : final.process pid = some (.answered (.object email) value read checked)) :
    (∃ user, value = .object (some user) ∧
        WasTrue final.shared read (settings.userObjectCacheTtl + delay)
          fun users => user ∈ users.rows ∧ user.email = email) ∨
      value = .object none ∧ WasTrue final.shared read (settings.emailLookupNegTtl + delay)
        fun users => ∀ user ∈ users.rows, user.email ≠ email := by
  rcases CachedLookup.answers_recent now users reaches answered with
    ⟨⟨given, number, order, recent, inForce, loaded⟩, _⟩
  change UserAnswer.object _ = value at loaded
  rw [Nat.add_assoc] at recent
  cases found : (final.shared.source.state number).getByEmail email with
  | none =>
      rw [found] at loaded
      subst loaded
      exact .inr ⟨rfl, given, number, order, recent, inForce, Users.getByEmail_eq_none_iff.mp found⟩
  | some user =>
      rw [found] at loaded
      subst loaded
      exact .inl ⟨user, rfl, given, number, order, recent, inForce,
        Users.getByEmail_eq_some_iff.mp found⟩

/-- The second lookup reads the user from its text. -/
theorem ada_object_is_cached :
    ∃ final : Pool Bool (LookupTables Users UserKey Text)
        (LookupProgress UserKey UserAnswer UserWrite),
      final.process true =
          some (.answered (.object (text "ada")) (.object (some (ada "King"))) 2 2) ∧
        WasTrue final.shared 2 (300 + 2)
          fun users => ada "King" ∈ users.rows ∧ (ada "King").email = text "ada" := by
  have answers : ((userLookup exampleUserSettings FloatFormat.literal).program.machine.runMeeting
      (fun pool event => pool.OwnStep (CachedLookup.StoresWithin 2) event)
      (Pool.idle (CachedLookup.fresh 0 onlyAda))
      ((twoLookups (.getCachedUser (some (text "ada")))).dropLast)).map
        (fun pool => pool.process true) =
      some (some (.answered (.object (text "ada")) (.object (some (ada "King"))) 2 2)) := by
    decide +kernel
  rcases Option.map_eq_some_iff.mp answers with ⟨final, ran, answered⟩
  have known := user_object_answers (.of_runMeeting ran) answered
  rcases known with ⟨user, same, wasTrue⟩ | ⟨impossible, _⟩
  · cases same
    exact ⟨final, answered, wasTrue⟩
  · cases impossible

/-! ## After a save -/

/-- The save of a user that exists deletes the id and the object of the email that it has now, and
the id of the email that it had before. The object of the old email stays. -/
theorem mem_invalidates_save_iff (emailEnabled : settings.emailLookupCacheEnabled = true)
    (objectEnabled : settings.userObjectCacheEnabled = true) {user old : User}
    (stored : users.getByPk user.id = some old) (free : ¬users.Taken user) :
    key ∈ UserWrite.invalidates settings users (.save user) ↔
      (∃ email, settings.normalized (some user.email) = some email ∧
          (key = .object email ∨ key = .email email)) ∨
        old.email ≠ [] ∧ old.email ≠ user.email ∧
          ∃ email, settings.normalized (some old.email) = some email ∧ key = .email email := by
  rw [UserWrite.invalidates, UserWrite.keysOfSave, if_neg free, stored]
  simp only [UserCacheSettings.invalidateUserCacheOnSave, UserCacheSettings.invalidateCachedUser,
    UserCacheSettings.invalidateUserEmailCache, emailEnabled, objectEnabled, if_true,
    List.mem_append]
  apply or_congr
  · cases settings.normalized (some user.email) <;> simp
  · by_cases changed : old.email ≠ [] ∧ old.email ≠ user.email
    · rw [if_pos changed]
      cases settings.normalized (some old.email) <;> simp [changed.1, changed.2]
    · rw [if_neg changed]
      simp only [List.not_mem_nil, false_iff]
      intro given
      exact changed ⟨given.1, given.2.1⟩

def oneLookup (pid : Bool) (request : UserRequest) :
    List (PoolEvent Bool (LookupTask UserRequest UserWrite) LookupChoice
      (LookupAmbient Users UserKey)) :=
  .start pid (.lookup request) :: List.replicate 3 (.advance pid .proceed)

end ChatsEngine.Accounts
