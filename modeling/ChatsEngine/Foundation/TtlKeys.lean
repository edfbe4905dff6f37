import ChatsEngine.Foundation.Table

/-! # Keys that expire, and can be listed

A table of keys with their times of expiry. A key counts until just before that time.
Unlike a cache, the keys that are there can be listed. -/

namespace ChatsEngine

abbrev TtlKeys (Key : Type) := Table Key Nat

namespace TtlKeys

variable {Key : Type} [DecidableEq Key]

def Alive (keys : TtlKeys Key) (now : Nat) (key : Key) : Prop :=
  ∃ expiry ∈ keys.lookup key, now < expiry

def Until (keys : TtlKeys Key) (time : Nat) (key : Key) : Prop :=
  ∃ expiry ∈ keys.lookup key, time ≤ expiry

instance (keys : TtlKeys Key) (now : Nat) (key : Key) : Decidable (Alive keys now key) :=
  inferInstanceAs (Decidable (∃ expiry ∈ keys.lookup key, _))

def listed (keys : TtlKeys Key) (now : Nat) : List Key :=
  keys.keys.filter fun key => Alive keys now key

/-- Set a key, unless it is there already. -/
def setNx (keys : TtlKeys Key) (now : Nat) (key : Key) (ttl : Nat) : Option (TtlKeys Key) :=
  if Alive keys now key then none else some (keys.insert key (now + ttl))

def expire (keys : TtlKeys Key) (now : Nat) (key : Key) (ttl : Nat) : TtlKeys Key :=
  if Alive keys now key then keys.insert key (now + ttl) else keys

variable {keys after : TtlKeys Key} {now later time ttl : Nat} {key other : Key}

theorem mem_listed_iff : key ∈ listed keys now ↔ Alive keys now key := by
  rw [listed, List.mem_filter, decide_eq_true_eq]
  constructor
  · exact fun both => both.2
  · intro given
    rcases given with ⟨expiry, stored, alive⟩
    exact ⟨AList.lookup_isSome.mp (Option.isSome_of_mem stored), expiry, stored, alive⟩

theorem nodup_listed : (listed keys now).Nodup :=
  keys.keys_nodup.sublist List.filter_sublist

theorem Until.alive (holds : Until keys time key) (early : now < time) : Alive keys now key := by
  rcases holds with ⟨expiry, stored, bound⟩
  exact ⟨expiry, stored, Nat.lt_of_lt_of_le early bound⟩

theorem Alive.earlier (alive : Alive keys later key) (order : now ≤ later) :
    Alive keys now key := by
  rcases alive with ⟨expiry, stored, bound⟩
  exact ⟨expiry, stored, Nat.lt_of_le_of_lt order bound⟩

theorem Until.congr (same : after.lookup key = keys.lookup key) (holds : Until keys time key) :
    Until after time key := by
  rcases holds with ⟨expiry, stored, bound⟩
  exact ⟨expiry, same.trans stored, bound⟩

theorem Until.insert (bound : time ≤ now) : Until (keys.insert key now) time key :=
  ⟨now, AList.lookup_insert _, bound⟩

theorem alive_of_setNx_eq_none (refused : setNx keys now key ttl = none) : Alive keys now key := by
  by_contra gone
  rw [setNx, if_neg gone] at refused
  cases refused

theorem setNx_eq_some (set : setNx keys now key ttl = some after) :
    ¬Alive keys now key ∧ after = keys.insert key (now + ttl) := by
  rw [setNx] at set
  split at set
  · cases set
  · next gone => exact ⟨gone, (Option.some.inj set).symm⟩

theorem expire_eq (alive : Alive keys now key) :
    expire keys now key ttl = keys.insert key (now + ttl) := by
  rw [expire, if_pos alive]

def SameExcept (keys after : TtlKeys Key) (changed : Key) : Prop :=
  ∀ key, key ≠ changed → after.lookup key = keys.lookup key

theorem sameExcept_insert (expiry : Nat) : SameExcept keys (keys.insert key expiry) key :=
  fun _ different => AList.lookup_insert_ne different

theorem sameExcept_erase : SameExcept keys (keys.erase key) key :=
  fun _ different => AList.lookup_erase_ne different

theorem not_alive_erase : ¬Alive (keys.erase key) now key := by
  intro given
  rcases given with ⟨expiry, stored, _⟩
  rw [AList.lookup_erase] at stored
  cases stored

end TtlKeys

end ChatsEngine
