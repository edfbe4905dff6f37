import Mathlib.Data.Option.Basic
import Mathlib.Logic.Function.Basic

/-! # A store whose values expire

Every value is stored together with the time at which it expires, and is read as
absent from that time on. -/

namespace ChatsEngine

/-- The value of each key that has been set, and its time of expiry. -/
abbrev TtlStore (Key Value : Type) := Key → Option (Value × Nat)

namespace TtlStore

variable {Key Value : Type} {store : TtlStore Key Value} {now later ttl : Nat}
  {key other : Key} {value : Value}

def get (store : TtlStore Key Value) (now : Nat) (key : Key) : Option Value :=
  ((store key).filter fun entry => decide (now < entry.2)).map Prod.fst

def Unexpired (store : TtlStore Key Value) (time : Nat) (key : Key) : Prop :=
  ∀ entry ∈ store key, time < entry.2

instance (store : TtlStore Key Value) (time : Nat) (key : Key) :
    Decidable (store.Unexpired time key) :=
  inferInstanceAs (Decidable (∀ entry ∈ store key, _))

theorem get_of_unexpired (unexpired : store.Unexpired now key) :
    store.get now key = (store key).map Prod.fst := by
  rw [get]
  cases found : store key with
  | none => rfl
  | some entry =>
      have alive : now < entry.2 := unexpired entry found
      simp [Option.filter, alive]

theorem get_later (unexpired : store.Unexpired later key) (order : now ≤ later) :
    store.get later key = store.get now key := by
  have unexpiredNow : store.Unexpired now key := by
    intro entry found
    have alive := unexpired entry found
    omega
  rw [get_of_unexpired unexpired, get_of_unexpired unexpiredNow]

theorem get_eq_some_iff : store.get now key = some value ↔
    ∃ expiry, store key = some (value, expiry) ∧ now < expiry := by
  rw [get, Option.map_eq_some_iff]
  constructor
  · intro given
    rcases given with ⟨entry, filtered, rfl⟩
    rcases Option.filter_eq_some_iff.mp filtered with ⟨stored, alive⟩
    exact ⟨entry.2, stored, of_decide_eq_true alive⟩
  · intro given
    rcases given with ⟨expiry, stored, alive⟩
    exact ⟨(value, expiry), Option.filter_eq_some_iff.mpr ⟨stored, decide_eq_true alive⟩, rfl⟩

theorem get_earlier (found : store.get later key = some value) (order : now ≤ later) :
    store.get now key = some value := by
  rcases get_eq_some_iff.mp found with ⟨expiry, stored, alive⟩
  exact get_eq_some_iff.mpr ⟨expiry, stored, Nat.lt_of_le_of_lt order alive⟩

theorem get_congr {others : TtlStore Key Value} (same : others key = store key) :
    others.get now key = store.get now key := by
  rw [get, get, same]

variable [DecidableEq Key]

def set (store : TtlStore Key Value) (now : Nat) (key : Key) (value : Value) (ttl : Nat) :
    TtlStore Key Value :=
  Function.update store key (some (value, now + ttl))

/-- Set the value, unless the key has one. -/
def setNx (store : TtlStore Key Value) (now : Nat) (key : Key) (value : Value) (ttl : Nat) :
    Option (TtlStore Key Value) :=
  match store.get now key with
  | some _ => none
  | none => some (store.set now key value ttl)

def delete (store : TtlStore Key Value) (key : Key) : TtlStore Key Value :=
  Function.update store key none

@[simp] theorem get_set_self (positive : 0 < ttl) :
    (store.set now key value ttl).get now key = some value := by
  simp [get, set, positive, Option.filter]

@[simp] theorem get_delete_self : (store.delete key).get now key = none := by
  simp [get, delete, Option.filter]

theorem set_other (different : key ≠ other) : store.set now other value ttl key = store key :=
  Function.update_of_ne different _ _

theorem delete_other (different : key ≠ other) : store.delete other key = store key :=
  Function.update_of_ne different _ _

theorem get_set_other (different : key ≠ other) :
    (store.set now other value ttl).get now key = store.get now key :=
  get_congr (Function.update_of_ne different _ _)

theorem get_delete_other (different : key ≠ other) :
    (store.delete other).get now key = store.get now key :=
  get_congr (Function.update_of_ne different _ _)

theorem setNx_eq_some {added : TtlStore Key Value}
    (adds : store.setNx now key value ttl = some added) :
    store.get now key = none ∧ added = store.set now key value ttl := by
  rw [setNx] at adds
  split at adds
  · cases adds
  · next free => exact ⟨free, (Option.some.inj adds).symm⟩

theorem setNx_of_free (free : store.get now key = none) :
    store.setNx now key value ttl = some (store.set now key value ttl) := by
  rw [setNx, free]

end TtlStore

end ChatsEngine
