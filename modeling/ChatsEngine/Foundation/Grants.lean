import Mathlib.Data.List.Pairwise

/-! # Grants

A key is granted a role at most once. A part of the keys is hidden: their grants are kept,
but neither found nor removed. -/

namespace ChatsEngine

structure Grant (Key : Type u) where
  key : Key
  role : Nat
deriving DecidableEq, Repr

namespace Grant

variable {Key : Type u} [DecidableEq Key] {Hidden : Key → Prop} [DecidablePred Hidden]
  {grants after : List (Grant Key)} {grant : Grant Key} {key : Key} {keys : List Key}
  {role : Nat}

/-- Whether the key can get the role: it has the role already, and is not hidden, or it has
no role at all. -/
def Settable (Hidden : Key → Prop) (role : Nat) (grants : List (Grant Key)) (key : Key) :
    Prop :=
  { key, role } ∈ grants ∧ ¬Hidden key ∨ ∀ grant ∈ grants, grant.key ≠ key

instance (role : Nat) (grants : List (Grant Key)) :
    DecidablePred (Settable Hidden role grants) :=
  fun _ => inferInstanceAs (Decidable (_ ∨ _))

/-- Find the grant of a key, or grant it the role. A second grant of the key violates the
constraint of the table. -/
def getOrCreate (Hidden : Key → Prop) [DecidablePred Hidden] (role : Nat)
    (grants : List (Grant Key)) (key : Key) : Option (List (Grant Key)) :=
  if { key, role } ∈ grants ∧ ¬Hidden key then some grants
  else if ∃ grant ∈ grants, grant.key = key then none
  else some ({ key, role } :: grants)

/-- `getOrCreate` for one key after the other. -/
def setAll (Hidden : Key → Prop) [DecidablePred Hidden] (role : Nat) :
    List (Grant Key) → List Key → Option (List (Grant Key))
  | grants, [] => some grants
  | grants, key :: keys =>
      (getOrCreate Hidden role grants key).bind fun after => setAll Hidden role after keys

def removeAll (Hidden : Key → Prop) [DecidablePred Hidden] (role : Nat)
    (grants : List (Grant Key)) (keys : List Key) : List (Grant Key) :=
  grants.filter fun grant => ¬(grant.key ∈ keys ∧ grant.role = role ∧ ¬Hidden grant.key)

theorem mem_getOrCreate_iff (set : getOrCreate Hidden role grants key = some after) :
    grant ∈ after ↔ grant ∈ grants ∨ grant = { key, role } := by
  rw [getOrCreate] at set
  split at set
  · next found =>
      cases set
      constructor
      · exact .inl
      · rintro (kept | rfl)
        · exact kept
        · exact found.1
  · split at set
    · cases set
    · cases set
      rw [List.mem_cons, or_comm]

theorem mem_setAll_iff (set : setAll Hidden role grants keys = some after) :
    grant ∈ after ↔ grant ∈ grants ∨ grant.key ∈ keys ∧ grant.role = role := by
  induction keys generalizing grants with
  | nil =>
      cases set
      simp
  | cons first keys induction =>
      rcases Option.bind_eq_some_iff.mp set with ⟨middle, setFirst, setRest⟩
      rw [induction setRest, mem_getOrCreate_iff setFirst]
      cases grant
      simp only [Grant.mk.injEq, List.mem_cons]
      grind

theorem mem_removeAll_iff : grant ∈ removeAll Hidden role grants keys ↔
    grant ∈ grants ∧ ¬(grant.key ∈ keys ∧ grant.role = role ∧ ¬Hidden grant.key) := by
  rw [removeAll, List.mem_filter, decide_eq_true_iff]

theorem getOrCreate_isSome_iff :
    (getOrCreate Hidden role grants key).isSome ↔ Settable Hidden role grants key := by
  rw [getOrCreate, Settable]
  split
  · next found => exact ⟨fun _ => .inl found, fun _ => rfl⟩
  · next missing =>
      split
      · next taken =>
          rcases taken with ⟨grant, granted, isKey⟩
          constructor
          · intro impossible
            cases impossible
          · rintro (found | unused)
            · exact absurd found missing
            · exact absurd isKey (unused grant granted)
      · next free =>
          constructor
          · intro _
            exact .inr fun grant granted isKey => free ⟨grant, granted, isKey⟩
          · intro _
            rfl

theorem settable_getOrCreate_iff {other : Key} (different : other ≠ key)
    (set : getOrCreate Hidden role grants key = some after) :
    Settable Hidden role after other ↔ Settable Hidden role grants other := by
  have same : ∀ grant : Grant Key, grant.key = other → (grant ∈ after ↔ grant ∈ grants) := by
    intro grant equal
    subst equal
    rw [mem_getOrCreate_iff set]
    constructor
    · rintro (kept | rfl)
      · exact kept
      · exact absurd rfl different
    · exact .inl
  apply or_congr
  · rw [same _ rfl]
  · constructor
    · intro unused grant granted isOther
      exact unused grant ((same grant isOther).mpr granted) isOther
    · intro unused grant granted isOther
      exact unused grant ((same grant isOther).mp granted) isOther

theorem setAll_isSome_iff (nodup : keys.Nodup) :
    (setAll Hidden role grants keys).isSome ↔ ∀ key ∈ keys, Settable Hidden role grants key := by
  induction keys generalizing grants with
  | nil => simp [setAll]
  | cons first keys induction =>
      rw [List.nodup_cons] at nodup
      rw [setAll, List.forall_mem_cons, ← getOrCreate_isSome_iff]
      cases set : getOrCreate Hidden role grants first with
      | none => simp
      | some middle =>
          rw [Option.bind_some, induction nodup.2]
          have others : ∀ key ∈ keys,
              (Settable Hidden role middle key ↔ Settable Hidden role grants key) := by
            intro key listed
            apply settable_getOrCreate_iff _ set
            intro same
            subst same
            exact nodup.1 listed
          simpa using forall₂_congr others

end Grant

end ChatsEngine
