import Mathlib.Data.Option.Basic
import Mathlib.Logic.Function.Basic

/-! # A cache whose keys expire

Every key that is present has the time at which it expires. The key counts from
the moment it is added until just before that time. -/

namespace ChatsEngine

/-- The time of expiry of each key that has been added. -/
abbrev TtlCache (Key : Type) := Key → Option Nat

namespace TtlCache

variable {Key : Type} {cache added : TtlCache Key} {now later ttl : Nat} {key other : Key}

def Alive (cache : TtlCache Key) (now : Nat) (key : Key) : Prop :=
  ∃ expiry ∈ cache key, now < expiry

instance (cache : TtlCache Key) (now : Nat) (key : Key) :
    Decidable (cache.Alive now key) := by
  unfold Alive
  infer_instance

variable [DecidableEq Key]

/-- Add a key, unless it is there already. -/
def add (cache : TtlCache Key) (now : Nat) (key : Key) (ttl : Nat) :
    Option (TtlCache Key) :=
  if cache.Alive now key then none
  else some (Function.update cache key (some (now + ttl)))

def delete (cache : TtlCache Key) (key : Key) : TtlCache Key :=
  Function.update cache key none

theorem add_eq_none_iff : cache.add now key ttl = none ↔ cache.Alive now key := by
  simp [add]

theorem not_alive_of_add (adds : cache.add now key ttl = some added) :
    ¬cache.Alive now key := by
  intro alive
  rw [add_eq_none_iff.mpr alive] at adds
  cases adds

theorem added_eq (adds : cache.add now key ttl = some added) :
    added = Function.update cache key (some (now + ttl)) := by
  rw [add, if_neg (not_alive_of_add adds)] at adds
  exact (Option.some.inj adds).symm

theorem added_self (adds : cache.add now key ttl = some added) :
    added key = some (now + ttl) := by
  rw [added_eq adds, Function.update_self]

theorem added_other (adds : cache.add now key ttl = some added) (different : other ≠ key) :
    added other = cache other := by
  rw [added_eq adds, Function.update_of_ne different]

omit [DecidableEq Key] in
theorem alive_iff_of_eq (same : added key = cache key) :
    added.Alive now key ↔ cache.Alive now key := by
  rw [Alive, Alive, same]

theorem delete_other (different : other ≠ key) : cache.delete key other = cache other := by
  rw [delete, Function.update_of_ne different]

end TtlCache

end ChatsEngine
