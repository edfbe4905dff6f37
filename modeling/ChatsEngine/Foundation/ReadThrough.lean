import ChatsEngine.Foundation.TtlStore

/-! # Read-through caches

A request is answered from the cache if its key is there, and otherwise it is computed and
stored. What is computed may depend on more than the key tells. -/

namespace ChatsEngine

structure ReadThrough (Request Key Value : Type) where
  key : Request → Option Key
  compute : Request → Option Value
  /-- Only these values are taken from the cache. -/
  usable : Value → Bool
  readAt : Request → Nat
  storedAt : Request → Nat
  key_isSome : ∀ {request value}, compute request = some value → (key request).isSome
  usable_compute : ∀ {request value}, compute request = some value → usable value = true

namespace ReadThrough

variable {Request Key Value : Type} [DecidableEq Key]
  {cache : ReadThrough Request Key Value} {ttl bound : Nat} {store : TtlStore Key Value}
  {request later : Request}

def serve (cache : ReadThrough Request Key Value) (ttl : Nat) (store : TtlStore Key Value)
    (request : Request) : Option Value × TtlStore Key Value :=
  match cache.key request with
  | none => (none, store)
  | some key =>
      match (store.get (cache.readAt request) key).filter cache.usable with
      | some value => (some value, store)
      | none =>
          match cache.compute request with
          | none => (none, store)
          | some value => (some value, store.set (cache.storedAt request) key value ttl)

def serveAll (cache : ReadThrough Request Key Value) (ttl : Nat) :
    TtlStore Key Value → List Request → List (Option Value)
  | _, [] => []
  | store, request :: requests =>
      (cache.serve ttl store request).1 ::
        cache.serveAll ttl (cache.serve ttl store request).2 requests

/-- A later request with the same key computes the same, unless the request has failed. -/
def Agree (cache : ReadThrough Request Key Value) (request later : Request) : Prop :=
  cache.key request = cache.key later →
    ∀ value ∈ cache.compute request, cache.compute later = some value

/-- What the store has for the key of the request is what the request computes. -/
def AgreesWith (cache : ReadThrough Request Key Value) (store : TtlStore Key Value)
    (request : Request) : Prop :=
  ∀ key ∈ cache.key request, ∀ entry ∈ store key, cache.compute request = some entry.1

/-- The entries of the store do not expire before the bound, and can be used. -/
def Fresh (cache : ReadThrough Request Key Value) (bound : Nat) (store : TtlStore Key Value) :
    Prop :=
  ∀ key, ∀ entry ∈ store key, bound ≤ entry.2 ∧ cache.usable entry.1 = true

omit [DecidableEq Key] in
theorem get_of_fresh (fresh : cache.Fresh bound store) {now : Nat} (early : now < bound)
    (key : Key) : (store.get now key).filter cache.usable = (store key).map Prod.fst := by
  have unexpired : store.Unexpired now key := by
    intro entry found
    exact Nat.lt_of_lt_of_le early (fresh key entry found).1
  rw [TtlStore.get_of_unexpired unexpired]
  cases found : store key with
  | none => rfl
  | some entry => simp [Option.filter, (fresh key entry found).2]

inductive Served (cache : ReadThrough Request Key Value) (ttl : Nat)
    (store : TtlStore Key Value) (request : Request) :
    Option Value × TtlStore Key Value → Prop
  | failed : cache.compute request = none →
      (∀ key ∈ cache.key request, store key = none) →
      Served cache ttl store request (none, store)
  | hit (key : Key) (entry : Value × Nat) : cache.key request = some key →
      store key = some entry → Served cache ttl store request (some entry.1, store)
  | missed (key : Key) (value : Value) : cache.key request = some key →
      store key = none → cache.compute request = some value →
      Served cache ttl store request
        (some value, store.set (cache.storedAt request) key value ttl)

theorem served (ttl : Nat) (fresh : cache.Fresh bound store) (early : cache.readAt request < bound) :
    cache.Served ttl store request (cache.serve ttl store request) := by
  rw [serve]
  split
  · next absent =>
      apply Served.failed
      · cases computed : cache.compute request with
        | none => rfl
        | some value => simpa [absent] using cache.key_isSome computed
      · simp [absent]
  · next key present =>
      rw [get_of_fresh fresh early]
      cases found : store key with
      | some entry => exact .hit key entry present found
      | none =>
          dsimp only [Option.map_none]
          cases computed : cache.compute request with
          | none =>
              apply Served.failed computed
              intro own same
              rw [present, Option.mem_some] at same
              exact same ▸ found
          | some value => exact .missed key value present found computed

theorem Fresh.serve (fresh : cache.Fresh bound store) (early : cache.readAt request < bound)
    (late : bound ≤ cache.storedAt request + ttl) :
    cache.Fresh bound (cache.serve ttl store request).2 := by
  have effect := served ttl fresh early
  generalize cache.serve ttl store request = result at effect ⊢
  cases effect with
  | failed => exact fresh
  | hit => exact fresh
  | missed key value present absent computed =>
      intro own entry found
      dsimp only at found
      by_cases same : own = key
      · subst same
        rw [TtlStore.set, Function.update_self, Option.mem_some] at found
        subst found
        exact ⟨late, cache.usable_compute computed⟩
      · rw [TtlStore.set, Function.update_of_ne same] at found
        exact fresh own entry found

theorem serve_eq_iff (fresh : cache.Fresh bound store) (early : cache.readAt request < bound) :
    (cache.serve ttl store request).1 = cache.compute request ↔
      cache.AgreesWith store request := by
  have effect := served ttl fresh early
  generalize cache.serve ttl store request = result at effect ⊢
  cases effect with
  | failed computed absent =>
      simp only [computed, true_iff]
      intro key present entry found
      rw [absent key present] at found
      cases found
  | hit key entry present found =>
      simp only [AgreesWith, present, found, Option.mem_some, forall_eq', eq_comm]
  | missed key value present absent computed =>
      simp [AgreesWith, present, absent, computed]

/-- A request that has been answered rightly leaves a store with which a later request
agrees exactly if it did before, and agrees with the request as well. -/
theorem agreesWith_serve_iff (fresh : cache.Fresh bound store)
    (early : cache.readAt request < bound) (agrees : cache.AgreesWith store request) :
    cache.AgreesWith (cache.serve ttl store request).2 later ↔
      cache.AgreesWith store later ∧ cache.Agree request later := by
  have effect := served ttl fresh early
  generalize cache.serve ttl store request = result at effect ⊢
  cases effect with
  | failed computed absent => simp [Agree, computed]
  | hit key entry present found =>
      have computed := agrees key present entry found
      constructor
      · intro laterAgrees
        refine ⟨laterAgrees, ?_⟩
        intro same value own
        rw [computed, Option.mem_some] at own
        subst own
        exact laterAgrees key (same ▸ present) entry found
      · exact fun both => both.1
  | missed key value present absent computed =>
      by_cases same : cache.key later = some key
      · simp [AgreesWith, Agree, present, absent, same, computed, TtlStore.set]
      · have apart : cache.key request ≠ cache.key later := by
          rw [present]
          exact Ne.symm same
        have others : ∀ own ∈ cache.key later,
            store.set (cache.storedAt request) key value ttl own = store own := by
          intro own isKey
          apply Function.update_of_ne
          intro isSame
          subst isSame
          exact same isKey
        constructor
        · intro laterAgrees
          refine ⟨?_, fun equal => absurd equal apart⟩
          intro own isKey entry found
          exact laterAgrees own isKey entry ((others own isKey).trans found)
        · intro both own isKey entry found
          exact both.1 own isKey entry ((others own isKey).symm.trans found)

theorem serveAll_from_eq_iff (requests : List Request) (fresh : cache.Fresh bound store)
    (within : ∀ request ∈ requests, cache.readAt request < bound ∧
      bound ≤ cache.storedAt request + ttl) :
    cache.serveAll ttl store requests = requests.map cache.compute ↔
      (∀ request ∈ requests, cache.AgreesWith store request) ∧ requests.Pairwise cache.Agree := by
  induction requests generalizing store with
  | nil => simp [serveAll]
  | cons request requests induction =>
      rcases within request List.mem_cons_self with ⟨early, late⟩
      have rest := induction (fresh.serve early late) fun other member =>
        within other (List.mem_cons_of_mem request member)
      rw [serveAll, List.map_cons, List.cons.injEq, serve_eq_iff fresh early, rest,
        List.forall_mem_cons, List.pairwise_cons]
      constructor
      · intro given
        rcases given with ⟨agrees, others, pairwise⟩
        have split := fun other member =>
          (agreesWith_serve_iff fresh early agrees).mp (others other member)
        exact ⟨⟨agrees, fun other member => (split other member).1⟩,
          fun other member => (split other member).2, pairwise⟩
      · intro given
        rcases given with ⟨⟨agrees, others⟩, here, pairwise⟩
        refine ⟨agrees, ?_, pairwise⟩
        intro other member
        exact (agreesWith_serve_iff fresh early agrees).mpr ⟨others other member, here other member⟩

/-- While no entry expires, all requests are answered as if there were no cache, exactly if
any two with the same key agree. -/
theorem serveAll_eq_iff (start : Nat) (requests : List Request)
    (within : ∀ request ∈ requests, cache.readAt request < start + ttl ∧
      start ≤ cache.storedAt request) :
    cache.serveAll ttl (fun _ => none) requests = requests.map cache.compute ↔
      requests.Pairwise cache.Agree := by
  have empty : cache.Fresh (start + ttl) fun _ => none := by
    intro key entry found
    cases found
  rw [serveAll_from_eq_iff requests empty]
  · constructor
    · exact fun both => both.2
    · intro pairwise
      refine ⟨?_, pairwise⟩
      intro request member key isKey entry found
      cases found
  · intro request member
    rcases within request member with ⟨early, late⟩
    exact ⟨early, Nat.add_le_add_right late ttl⟩

end ReadThrough

end ChatsEngine
