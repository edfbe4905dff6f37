import ChatsEngine.Foundation.Pool
import ChatsEngine.Foundation.Timeline
import ChatsEngine.Foundation.TtlStore

/-! # Lookups through a cache that expires

A lookup takes its value from a cache, or else loads it from the source and stores it. Lookups
and writers run concurrently: a value that was loaded before a write may be stored after it, and
after the writer has deleted the key. Two things remain true. No answer is older than the
lifetime of its entry and the time between a load and its store. And an answer given after the
deletion of a key has been loaded after it, as long as no lookup had read the key before. -/

namespace ChatsEngine

/-- What a lookup does with a request. -/
inductive LookupEntry (Key : Type)
  /-- There is no key to look up. -/
  | refused
  /-- The cache is disabled. -/
  | direct (key : Key)
  | cached (key : Key)
  deriving DecidableEq, Repr

structure CachedLookup (Source Request Key Value Stored Write : Type) where
  entry : Request → LookupEntry Key
  load : Source → Key → Value
  encode : Value → Stored
  decode : Key → Stored → Option Value
  /-- A stored text that cannot be decoded is deleted; otherwise the lookup raises. -/
  discards : Key → Bool
  /-- How long a value stays in the cache, if it is stored at all. -/
  ttl : Value → Option Nat
  /-- A cached value that is only answered if it still passes against the source. -/
  checks : Value → Bool
  passes : Source → Value → Bool
  apply : Source → Write → Source
  /-- The keys that a writer deletes once it has written, in this order. -/
  invalidates : Source → Write → List Key
  decode_load : ∀ source key, decode key (encode (load source key)) = some (load source key)
  passes_load : ∀ source key, checks (load source key) = true →
    passes source (load source key) = true

structure LookupTables (Source Key Stored : Type) where
  now : Nat
  source : Timeline Source
  store : TtlStore Key Stored

inductive LookupTask (Request Write : Type)
  | lookup (request : Request)
  | write (change : Write)
  deriving DecidableEq, Repr

inductive LookupProgress (Key Value Write : Type)
  | refused
  | starting (key : Key)
  | checking (key : Key) (value : Value) (read : Nat)
  | discarding (key : Key)
  | loading (key : Key) (connected : Bool)
  | storing (key : Key) (value : Value) (loaded : Nat)
  | answered (key : Key) (value : Value) (read : Nat) (checked : Nat)
  | writing (change : Write)
  | deleting (keys : List Key)
  deriving DecidableEq, Repr

def LookupProgress.holds {Key Value Write : Type} : LookupProgress Key Value Write → Option Key
  | .checking key _ _ | .storing key _ _ | .answered key _ _ _ => some key
  | .refused | .starting _ | .discarding _ | .loading _ _ | .writing _ | .deleting _ => none

inductive LookupChoice
  | proceed
  /-- The cache cannot be reached, or the check raises. -/
  | fails
  deriving DecidableEq, Repr

inductive LookupAmbient (Source Key : Type)
  | tick (amount : Nat)
  | evict (key : Key)
  /-- The source is changed by something that does not delete keys. -/
  | change (source : Source)

namespace CachedLookup

variable {Source Request Key Value Stored Write : Type}

def advance [DecidableEq Key] (cache : CachedLookup Source Request Key Value Stored Write)
    (tables : LookupTables Source Key Stored) :
    LookupProgress Key Value Write → LookupChoice →
      Option (LookupTables Source Key Stored × Option (LookupProgress Key Value Write))
  | .starting key, .proceed =>
      match tables.store.get tables.now key with
      | none => some (tables, some (.loading key true))
      | some stored =>
          match cache.decode key stored with
          | none => if cache.discards key then some (tables, some (.discarding key)) else none
          | some value =>
              if cache.checks value then
                some (tables, some (.checking key value tables.now))
              else
                some (tables, some (.answered key value tables.now tables.now))
  | .starting key, .fails => some (tables, some (.loading key false))
  | .checking key value read, .proceed =>
      if cache.passes tables.source.current value then
        some (tables, some (.answered key value read tables.now))
      else
        some (tables, some (.discarding key))
  | .checking key _ _, .fails => some (tables, some (.loading key true))
  | .discarding key, .proceed =>
      some ({ tables with store := tables.store.delete key }, some (.loading key true))
  | .discarding key, .fails => some (tables, some (.loading key true))
  | .loading key connected, .proceed =>
      if connected ∧ (cache.ttl (cache.load tables.source.current key)).isSome then
        some (tables, some (.storing key (cache.load tables.source.current key) tables.now))
      else
        some (tables, some
          (.answered key (cache.load tables.source.current key) tables.now tables.now))
  | .storing key value loaded, .proceed =>
      some ({ tables with
        store := tables.store.set tables.now key (cache.encode value)
          ((cache.ttl value).getD 0) },
        some (.answered key value loaded loaded))
  | .writing change, .proceed =>
      some ({ tables with
        source := tables.source.change tables.now (cache.apply tables.source.current change) },
        some (.deleting (cache.invalidates tables.source.current change)))
  | .deleting (key :: keys), .proceed =>
      some ({ tables with store := tables.store.delete key }, some (.deleting keys))
  | .deleting (_ :: keys), .fails => some (tables, some (.deleting keys))
  | .deleting [], .proceed | .refused, .proceed | .answered _ _ _ _, .proceed =>
      some (tables, none)
  | .deleting [], .fails | .refused, .fails | .answered _ _ _ _, .fails | .loading _ _, .fails
  | .storing _ _ _, .fails | .writing _, .fails => none

def enter (cache : CachedLookup Source Request Key Value Stored Write) :
    LookupTask Request Write → LookupProgress Key Value Write
  | .lookup request =>
      match cache.entry request with
      | .refused => .refused
      | .direct key => .loading key false
      | .cached key => .starting key
  | .write change => .writing change

def surround [DecidableEq Key] (tables : LookupTables Source Key Stored) :
    LookupAmbient Source Key → Option (LookupTables Source Key Stored)
  | .tick amount => some { tables with now := tables.now + amount }
  | .evict key => some { tables with store := tables.store.delete key }
  | .change source => some { tables with source := tables.source.change tables.now source }

def program [DecidableEq Key] (cache : CachedLookup Source Request Key Value Stored Write) :
    Program (LookupTables Source Key Stored) (LookupProgress Key Value Write)
      (LookupTask Request Write) LookupChoice (LookupAmbient Source Key) where
  enter := cache.enter
  advance := cache.advance
  surround := surround

def StoresWithin (delay : Nat) (tables : LookupTables Source Key Stored) :
    LookupProgress Key Value Write → LookupChoice → Prop
  | .storing _ _ loaded, _ => tables.now ≤ loaded + delay
  | _, _ => True

instance (delay : Nat) (tables : LookupTables Source Key Stored) :
    (progress : LookupProgress Key Value Write) → (choice : LookupChoice) →
      Decidable (StoresWithin delay tables progress choice)
  | .storing _ _ _, _ => inferInstanceAs (Decidable (_ ≤ _))
  | .refused, _ | .starting _, _ | .checking _ _ _, _ | .discarding _, _ | .loading _ _, _
  | .answered _ _ _ _, _ | .writing _, _ | .deleting _, _ => inferInstanceAs (Decidable True)

/-- How long the cache may answer with a value that it has been given. -/
def lifetime (cache : CachedLookup Source Request Key Value Stored Write) (value : Value) : Nat :=
  (cache.ttl value).getD 0

variable {cache : CachedLookup Source Request Key Value Stored Write}
  {tables after : LookupTables Source Key Stored} {floor : Key → Nat} {delay : Nat}

/-! ## What the cache and the lookups know -/

/-- The source gave the value at an instant that is not longer ago than the value may be kept, in
a state that is not before the floor of the key. -/
structure Recent (cache : CachedLookup Source Request Key Value Stored Write)
    (floor : Key → Nat) (delay : Nat) (tables : LookupTables Source Key Stored) (key : Key)
    (value : Value) (time given number : Nat) : Prop where
  inForce : tables.source.InForce number given
  load_eq : cache.load (tables.source.state number) key = value
  floor_le : floor key ≤ number
  given_le : given ≤ tables.now
  time_le : time ≤ given + cache.lifetime value + delay

/-- Every entry holds a value that the source gave, until it is too old. -/
structure Invariant (cache : CachedLookup Source Request Key Value Stored Write)
    (floor : Key → Nat) (delay : Nat) (tables : LookupTables Source Key Stored) : Prop where
  current : tables.source.Until tables.now
  floor_le : ∀ key, floor key ≤ tables.source.changes
  stored : ∀ key stored expiry, tables.store key = some (stored, expiry) →
    ∃ value given number, stored = cache.encode value ∧
      cache.Recent floor delay tables key value expiry given number

structure Read (cache : CachedLookup Source Request Key Value Stored Write)
    (floor : Key → Nat) (delay : Nat) (tables : LookupTables Source Key Stored) (key : Key)
    (value : Value) (read : Nat) : Prop where
  read_le : read ≤ tables.now
  recent : ∃ given number, given ≤ read ∧
    cache.Recent floor delay tables key value read given number

structure Checked (cache : CachedLookup Source Request Key Value Stored Write)
    (tables : LookupTables Source Key Stored) (value : Value) (read checked : Nat) : Prop where
  read_le : read ≤ checked
  checked_le : checked ≤ tables.now
  passed : cache.checks value = true → ∃ number, tables.source.InForce number checked ∧
    cache.passes (tables.source.state number) value = true

def Assertion (cache : CachedLookup Source Request Key Value Stored Write)
    (floor : Key → Nat) (delay : Nat) (tables : LookupTables Source Key Stored) :
    LookupProgress Key Value Write → Prop
  | .checking key value read => cache.Read floor delay tables key value read
  | .storing key value loaded =>
      loaded ≤ tables.now ∧ ∃ number, tables.source.InForce number loaded ∧
        floor key ≤ number ∧ cache.load (tables.source.state number) key = value
  | .answered key value read checked =>
      cache.Read floor delay tables key value read ∧ cache.Checked tables value read checked
  | _ => True

/-- Time goes on, and the past of the source stays what it was. -/
structure Proceeds (tables after : LookupTables Source Key Stored) : Prop where
  now_le : tables.now ≤ after.now
  source : tables.source.Extends after.source tables.now

theorem Proceeds.refl (tables : LookupTables Source Key Stored) : Proceeds tables tables where
  now_le := Nat.le_refl _
  source := .refl _ _

section Stable

variable {key : Key} {value : Value} {time given number read checked : Nat}

theorem Recent.stable (proceeds : Proceeds tables after)
    (recent : cache.Recent floor delay tables key value time given number) :
    cache.Recent floor delay after key value time given number where
  inForce := proceeds.source.inForce _ _ recent.given_le recent.inForce
  load_eq := by
    rw [proceeds.source.state_eq _ recent.inForce.1]
    exact recent.load_eq
  floor_le := recent.floor_le
  given_le := Nat.le_trans recent.given_le proceeds.now_le
  time_le := recent.time_le

theorem Read.stable (proceeds : Proceeds tables after)
    (holds : cache.Read floor delay tables key value read) :
    cache.Read floor delay after key value read where
  read_le := Nat.le_trans holds.read_le proceeds.now_le
  recent := by
    rcases holds.recent with ⟨given, number, order, recent⟩
    exact ⟨given, number, order, recent.stable proceeds⟩

theorem Checked.stable (proceeds : Proceeds tables after)
    (holds : cache.Checked tables value read checked) :
    cache.Checked after value read checked where
  read_le := holds.read_le
  checked_le := Nat.le_trans holds.checked_le proceeds.now_le
  passed := by
    intro needed
    rcases holds.passed needed with ⟨number, inForce, passes⟩
    refine ⟨number, proceeds.source.inForce _ _ holds.checked_le inForce, ?_⟩
    rw [proceeds.source.state_eq _ inForce.1]
    exact passes

theorem Assertion.stable {progress : LookupProgress Key Value Write}
    (proceeds : Proceeds tables after) (holds : cache.Assertion floor delay tables progress) :
    cache.Assertion floor delay after progress := by
  cases progress with
  | checking key value read => exact Read.stable proceeds holds
  | storing key value loaded =>
      rcases holds with ⟨loaded_le, number, inForce, above, load_eq⟩
      refine ⟨Nat.le_trans loaded_le proceeds.now_le, number,
        proceeds.source.inForce _ _ loaded_le inForce, above, ?_⟩
      rw [proceeds.source.state_eq _ inForce.1]
      exact load_eq
  | answered key value read checked =>
      exact ⟨holds.1.stable proceeds, holds.2.stable proceeds⟩
  | _ => trivial

end Stable

/-! ## What each statement keeps -/

section Steps

variable {key : Key} {value : Value} {read loaded : Nat}

theorem proceeds_store (store : TtlStore Key Stored) :
    Proceeds tables { tables with store } where
  now_le := Nat.le_refl _
  source := .refl _ _

theorem proceeds_change (source : Source) :
    Proceeds tables { tables with source := tables.source.change tables.now source } where
  now_le := Nat.le_refl _
  source := Timeline.extends_change _ _ _

theorem Invariant.change (invariant : cache.Invariant floor delay tables) (source : Source) :
    cache.Invariant floor delay
      { tables with source := tables.source.change tables.now source } where
  current := Timeline.until_change _ _
  floor_le := fun key => Nat.le_succ_of_le (invariant.floor_le key)
  stored := by
    intro key stored expiry found
    rcases invariant.stored key stored expiry found with ⟨value, given, number, text, recent⟩
    exact ⟨value, given, number, text, recent.stable (proceeds_change source)⟩

theorem proceeds_tick (amount : Nat) :
    Proceeds tables { tables with now := tables.now + amount } where
  now_le := Nat.le_add_right _ _
  source := .refl _ _

theorem Invariant.tick (invariant : cache.Invariant floor delay tables) (amount : Nat) :
    cache.Invariant floor delay { tables with now := tables.now + amount } where
  current := invariant.current.later (Nat.le_add_right _ _)
  floor_le := invariant.floor_le
  stored := by
    intro key stored expiry found
    rcases invariant.stored key stored expiry found with ⟨value, given, number, text, recent⟩
    exact ⟨value, given, number, text, recent.stable (proceeds_tick amount)⟩

theorem Invariant.found (invariant : cache.Invariant floor delay tables) {stored : Stored}
    (found : tables.store.get tables.now key = some stored) :
    ∃ value, cache.decode key stored = some value ∧
      cache.Read floor delay tables key value tables.now := by
  rcases TtlStore.get_eq_some_iff.mp found with ⟨expiry, entry, alive⟩
  rcases invariant.stored key stored expiry entry with ⟨value, given, number, rfl, recent⟩
  refine ⟨value, recent.load_eq ▸ cache.decode_load _ key, Nat.le_refl _, ?_⟩
  refine ⟨given, number, recent.given_le, { recent with time_le := ?_ }⟩
  exact Nat.le_trans (Nat.le_of_lt alive) recent.time_le

theorem answered_of_storing
    (holds : cache.Assertion floor delay tables (.storing key value loaded)) :
    cache.Assertion floor delay tables (.answered key value loaded loaded) := by
  rcases holds with ⟨loaded_le, number, inForce, above, rfl⟩
  refine ⟨⟨loaded_le, ?_⟩, Nat.le_refl _, loaded_le, fun needed => ?_⟩
  · refine ⟨loaded, number, Nat.le_refl _, inForce, rfl, above, loaded_le, ?_⟩
    omega
  · exact ⟨number, inForce, cache.passes_load _ key needed⟩

theorem Invariant.justLoaded (invariant : cache.Invariant floor delay tables) (key : Key) :
    cache.Assertion floor delay tables
      (.storing key (cache.load tables.source.current key) tables.now) :=
  ⟨Nat.le_refl _, _, invariant.current.inForce, invariant.floor_le key, rfl⟩

variable [DecidableEq Key]

theorem Invariant.delete (invariant : cache.Invariant floor delay tables) (key : Key) :
    cache.Invariant floor delay { tables with store := tables.store.delete key } where
  current := invariant.current
  floor_le := invariant.floor_le
  stored := by
    intro other stored expiry found
    by_cases same : other = key
    · subst other
      simp [TtlStore.delete] at found
    · change tables.store.delete key other = _ at found
      rw [TtlStore.delete_other same] at found
      rcases invariant.stored other stored expiry found with ⟨value, given, number, text, recent⟩
      exact ⟨value, given, number, text, recent.stable (proceeds_store _)⟩

theorem Invariant.set (invariant : cache.Invariant floor delay tables)
    (holds : cache.Assertion floor delay tables (.storing key value loaded))
    (soon : tables.now ≤ loaded + delay) :
    cache.Invariant floor delay { tables with
      store := tables.store.set tables.now key (cache.encode value)
        ((cache.ttl value).getD 0) } where
  current := invariant.current
  floor_le := invariant.floor_le
  stored := by
    intro other stored expiry found
    by_cases same : other = key
    · subst other
      rcases holds with ⟨loaded_le, number, inForce, above, load_eq⟩
      simp only [TtlStore.set, Function.update_self, Option.some.injEq, Prod.mk.injEq] at found
      rcases found with ⟨rfl, rfl⟩
      refine ⟨value, loaded, number, rfl, inForce, load_eq, above, loaded_le, ?_⟩
      rw [lifetime]
      omega
    · change tables.store.set _ key _ _ other = _ at found
      rw [TtlStore.set_other same] at found
      rcases invariant.stored other stored expiry found with ⟨value, given, number, text, recent⟩
      exact ⟨value, given, number, text, recent.stable (proceeds_store _)⟩

end Steps

/-! ## The outline -/

variable [DecidableEq Key]

/-- What a statement keeps, and what its process knows afterwards. -/
def Keeps (cache : CachedLookup Source Request Key Value Stored Write) (floor : Key → Nat)
    (delay : Nat) (tables after : LookupTables Source Key Stored)
    (rest : Option (LookupProgress Key Value Write)) : Prop :=
  cache.Invariant floor delay after ∧ Proceeds tables after ∧
    ∀ remaining, rest = some remaining → cache.Assertion floor delay after remaining

section Stages

variable {key : Key} {value : Value} {read loaded : Nat} {choice : LookupChoice}
  {remaining : LookupProgress Key Value Write} {rest : Option (LookupProgress Key Value Write)}
  (invariant : cache.Invariant floor delay tables)

omit [DecidableEq Key] in
theorem keeps_of_asserts {tables after : LookupTables Source Key Stored}
    (invariant : cache.Invariant floor delay after) (proceeds : Proceeds tables after)
    (asserts : cache.Assertion floor delay after remaining) :
    cache.Keeps floor delay tables after (some remaining) := by
  refine ⟨invariant, proceeds, ?_⟩
  intro next isNext
  cases isNext
  exact asserts

include invariant

omit [DecidableEq Key] in
theorem Invariant.reads (asserts : cache.Assertion floor delay tables remaining) :
    cache.Keeps floor delay tables tables (some remaining) :=
  keeps_of_asserts invariant (.refl tables) asserts

omit [DecidableEq Key] in
theorem Invariant.ends : cache.Keeps floor delay tables tables none :=
  ⟨invariant, .refl tables, fun _ impossible => by cases impossible⟩

theorem starting_keeps
    (advanced : cache.advance tables (.starting key) choice = some (after, rest)) :
    cache.Keeps floor delay tables after rest := by
  cases choice with
  | fails =>
      cases advanced
      exact invariant.reads trivial
  | proceed =>
      simp only [advance] at advanced
      split at advanced
      · cases advanced
        exact invariant.reads trivial
      · next stored found =>
          rcases invariant.found found with ⟨value, decoded, read⟩
          rw [decoded] at advanced
          simp only at advanced
          split at advanced
          · cases advanced
            exact invariant.reads read
          · next unchecked =>
              cases advanced
              apply invariant.reads
              exact ⟨read, Nat.le_refl _, Nat.le_refl _, fun needed => absurd needed unchecked⟩

theorem checking_keeps (holds : cache.Read floor delay tables key value read)
    (advanced : cache.advance tables (.checking key value read) choice = some (after, rest)) :
    cache.Keeps floor delay tables after rest := by
  cases choice with
  | fails =>
      cases advanced
      exact invariant.reads trivial
  | proceed =>
      simp only [advance] at advanced
      split at advanced
      · next passes =>
          cases advanced
          apply invariant.reads
          exact ⟨holds, holds.read_le, Nat.le_refl _, fun _ =>
            ⟨_, invariant.current.inForce, passes⟩⟩
      · cases advanced
        exact invariant.reads trivial

theorem loading_keeps {connected : Bool}
    (advanced : cache.advance tables (.loading key connected) choice = some (after, rest)) :
    cache.Keeps floor delay tables after rest := by
  cases choice with
  | fails => cases advanced
  | proceed =>
      simp only [advance] at advanced
      split at advanced
      · cases advanced
        exact invariant.reads (invariant.justLoaded key)
      · cases advanced
        exact invariant.reads (answered_of_storing (invariant.justLoaded key))

theorem storing_keeps (holds : cache.Assertion floor delay tables (.storing key value loaded))
    (soon : tables.now ≤ loaded + delay)
    (advanced : cache.advance tables (.storing key value loaded) choice = some (after, rest)) :
    cache.Keeps floor delay tables after rest := by
  cases choice with
  | fails => cases advanced
  | proceed =>
      cases advanced
      exact keeps_of_asserts (invariant.set holds soon) (proceeds_store _)
        ((answered_of_storing holds).stable (proceeds_store _))

theorem deleting_keeps {keys : List Key}
    (advanced : cache.advance tables (.deleting keys) choice = some (after, rest)) :
    cache.Keeps floor delay tables after rest := by
  cases keys with
  | nil =>
      cases choice with
      | fails => cases advanced
      | proceed =>
          cases advanced
          exact invariant.ends
  | cons key keys =>
      cases choice with
      | fails =>
          cases advanced
          exact invariant.reads trivial
      | proceed =>
          cases advanced
          exact keeps_of_asserts (invariant.delete key) (proceeds_store _) trivial

theorem advance_keeps {progress : LookupProgress Key Value Write}
    (holds : cache.Assertion floor delay tables progress)
    (within : StoresWithin delay tables progress choice)
    (advanced : cache.advance tables progress choice = some (after, rest)) :
    cache.Keeps floor delay tables after rest := by
  cases progress with
  | starting key => exact starting_keeps invariant advanced
  | checking key value read => exact checking_keeps invariant holds advanced
  | discarding key =>
      cases choice with
      | fails =>
          cases advanced
          exact invariant.reads trivial
      | proceed =>
          cases advanced
          exact keeps_of_asserts (invariant.delete key) (proceeds_store _) trivial
  | loading key connected => exact loading_keeps invariant advanced
  | storing key value loaded => exact storing_keeps invariant holds within advanced
  | writing change =>
      cases choice with
      | fails => cases advanced
      | proceed =>
          cases advanced
          exact keeps_of_asserts (invariant.change _) (proceeds_change _) trivial
  | deleting keys => exact deleting_keeps invariant advanced
  | refused | answered _ _ _ _ =>
      cases choice with
      | fails => cases advanced
      | proceed =>
          cases advanced
          exact invariant.ends

end Stages

theorem surround_keeps {event : LookupAmbient Source Key}
    (invariant : cache.Invariant floor delay tables)
    (surrounded : surround tables event = some after) :
    cache.Invariant floor delay after ∧ Proceeds tables after := by
  cases event with
  | tick amount =>
      cases surrounded
      exact ⟨invariant.tick amount, proceeds_tick amount⟩
  | evict key =>
      cases surrounded
      exact ⟨invariant.delete key, proceeds_store _⟩
  | change source =>
      cases surrounded
      exact ⟨invariant.change source, proceeds_change source⟩

/-- Lookups and writers keep the cache recent among each other. -/
def outline (cache : CachedLookup Source Request Key Value Stored Write) (floor : Key → Nat)
    (delay : Nat) {Pid : Type} :
    Outline cache.program (fun (pool : Pool Pid (LookupTables Source Key Stored)
      (LookupProgress Key Value Write)) event => pool.OwnStep (StoresWithin delay) event) where
  Invariant := cache.Invariant floor delay
  Assertion := cache.Assertion floor delay
  Guarantee := Proceeds
  enter := by
    intro tables task _
    change cache.Assertion floor delay tables (cache.enter task)
    cases task with
    | lookup request =>
        rw [enter]
        split <;> trivial
    | write change => trivial
  advance := by
    intro pool pid choice progress shared rest meets running invariant holds advanced
    exact advance_keeps invariant holds (meets.allowed running) advanced
  surround := fun _ invariant surrounded => surround_keeps invariant surrounded
  stable := fun proceeds holds => holds.stable proceeds

section Runs

variable {Pid : Type} [DecidableEq Pid]
  {middle final : Pool Pid (LookupTables Source Key Stored) (LookupProgress Key Value Write)}
  {pid : Pid} {key : Key} {value : Value} {read checked : Nat}

def fresh (now : Nat) (source : Source) : LookupTables Source Key Stored where
  now := now
  source := .start now source
  store := fun _ => none

omit [DecidableEq Key] in
theorem invariant_fresh (now : Nat) (source : Source) :
    cache.Invariant (fun _ => 0) delay (fresh now source) where
  current := Timeline.until_start now source
  floor_le := fun _ => Nat.zero_le _
  stored := fun _ _ _ found => nomatch found

theorem holds_of_reaches (now : Nat) (source : Source)
    (reaches : cache.program.machine.Reaches
      (fun pool event => pool.OwnStep (StoresWithin delay) event)
      (Pool.idle (fresh now source)) final) :
    (cache.outline (fun _ => 0) delay).Holds final :=
  (cache.outline _ delay).holds_of_reaches reaches
    ((cache.outline _ delay).holds_idle (invariant_fresh now source))

/-- Every answer is what the source gave at an instant at most the lifetime of the answer and
the time between a load and its store ago; and it has passed its check, if it needs one, at an
instant between its reading and the present. -/
theorem answers_recent (now : Nat) (source : Source)
    (reaches : cache.program.machine.Reaches
      (fun pool event => pool.OwnStep (StoresWithin delay) event)
      (Pool.idle (fresh now source)) final)
    (answered : final.process pid = some (.answered key value read checked)) :
    (∃ given number, given ≤ read ∧ read ≤ given + cache.lifetime value + delay ∧
        final.shared.source.InForce number given ∧
        cache.load (final.shared.source.state number) key = value) ∧
      cache.Checked final.shared value read checked := by
  have known : cache.Assertion _ delay final.shared (.answered key value read checked) :=
    (holds_of_reaches now source reaches).locals pid _ answered
  rcases known.1.recent with ⟨given, number, order, recent⟩
  exact ⟨⟨given, number, order, recent.time_le, recent.inForce, recent.load_eq⟩, known.2⟩

/-- No lookup has read the key and is still under way. -/
def NoneHolds (pool : Pool Pid (LookupTables Source Key Stored)
    (LookupProgress Key Value Write)) (key : Key) : Prop :=
  ∀ pid progress, pool.process pid = some progress → progress.holds ≠ some key

omit [DecidableEq Pid] in
theorem holds_floor (holds : (cache.outline (fun _ => 0) delay).Holds middle)
    (absent : middle.shared.store key = none) (noneHolds : NoneHolds middle key) :
    (cache.outline (Function.update (fun _ => 0) key middle.shared.source.changes)
      delay).Holds middle where
  shared := by
    have invariant : cache.Invariant (fun _ => 0) delay middle.shared := holds.shared
    refine ⟨invariant.current, fun other => ?_, fun other stored expiry found => ?_⟩
    · by_cases same : other = key
      · subst other
        rw [Function.update_self]
      · rw [Function.update_of_ne same]
        exact Nat.zero_le _
    · have different : other ≠ key := by
        intro same
        subst other
        rw [absent] at found
        cases found
      rcases invariant.stored other stored expiry found with ⟨value, given, number, text, recent⟩
      refine ⟨value, given, number, text, { recent with floor_le := ?_ }⟩
      rw [Function.update_of_ne different]
      exact Nat.zero_le _
  locals := by
    intro pid progress running
    have known : cache.Assertion (fun _ => 0) delay middle.shared progress :=
      holds.locals pid progress running
    have free : ∀ other, progress.holds = some other →
        ∀ number, Function.update (fun _ => 0) key middle.shared.source.changes other ≤ number := by
      intro other held number
      have different : other ≠ key := by
        intro same
        subst other
        exact noneHolds pid progress running held
      rw [Function.update_of_ne different]
      exact Nat.zero_le _
    cases progress with
    | checking other value read =>
        rcases known.recent with ⟨given, number, order, recent⟩
        exact ⟨known.read_le, given, number, order, { recent with floor_le := free other rfl _ }⟩
    | storing other value loaded =>
        rcases known with ⟨loaded_le, number, inForce, above, load_eq⟩
        exact ⟨loaded_le, number, inForce, free other rfl _, load_eq⟩
    | answered other value read checked =>
        rcases known.1.recent with ⟨given, number, order, recent⟩
        exact ⟨⟨known.1.read_le, given, number, order,
          { recent with floor_le := free other rfl _ }⟩, known.2⟩
    | _ => trivial
  compatible := fun _ _ _ _ _ _ _ => trivial

/-- What is answered after the deletion of a key is what the source gave in its state at the
deletion or in a later one, unless a lookup had read the key before. -/
theorem answers_since (now : Nat) (source : Source)
    (before : cache.program.machine.Reaches
      (fun pool event => pool.OwnStep (StoresWithin delay) event)
      (Pool.idle (fresh now source)) middle)
    (absent : middle.shared.store key = none) (noneHolds : NoneHolds middle key)
    (reaches : cache.program.machine.Reaches
      (fun pool event => pool.OwnStep (StoresWithin delay) event) middle final)
    (answered : final.process pid = some (.answered key value read checked)) :
    ∃ given number, given ≤ read ∧ middle.shared.source.changes ≤ number ∧
      final.shared.source.InForce number given ∧
      cache.load (final.shared.source.state number) key = value := by
  have holds := (cache.outline _ delay).holds_of_reaches reaches
    (holds_floor (holds_of_reaches now source before) absent noneHolds)
  have known : cache.Assertion _ delay final.shared (.answered key value read checked) :=
    holds.locals pid _ answered
  rcases known.1.recent with ⟨given, number, order, recent⟩
  have above := recent.floor_le
  rw [Function.update_self] at above
  exact ⟨given, number, order, above, recent.inForce, recent.load_eq⟩

def written (cache : CachedLookup Source Request Key Value Stored Write)
    (tables : LookupTables Source Key Stored) (change : Write) :
    LookupTables Source Key Stored where
  now := tables.now
  source := tables.source.change tables.now (cache.apply tables.source.current change)
  store := (cache.invalidates tables.source.current change).foldl TtlStore.delete tables.store

theorem absent_foldl_delete {keys : List Key} {store : TtlStore Key Stored}
    (absent : key ∈ keys ∨ store key = none) : keys.foldl TtlStore.delete store key = none := by
  induction keys generalizing store with
  | nil => simpa using absent
  | cons first keys induction =>
      rw [List.foldl_cons]
      apply induction
      by_cases same : key = first
      · subst first
        exact .inr (Function.update_self _ _ _)
      · rw [TtlStore.delete_other same]
        simpa [same] using absent

theorem reaches_deleting {keys : List Key} (running : middle.process pid = some (.deleting keys)) :
    cache.program.machine.Reaches (fun pool event => pool.OwnStep (StoresWithin delay) event)
      middle ({ middle with shared := { middle.shared with
        store := keys.foldl TtlStore.delete middle.shared.store } }.set pid none) := by
  induction keys generalizing middle with
  | nil =>
      refine @Machine.Reaches.of_step _ _ _ _ _ _ (.advance pid .proceed) ?_ ?_
      · simp [Pool.OwnStep, running, StoresWithin]
      · simp [Program.machine, Program.step, running, program, advance]
  | cons key keys induction =>
      have deleted : cache.program.machine.step middle (.advance pid .proceed) =
          some ({ middle with shared := { middle.shared with
            store := middle.shared.store.delete key } }.set pid (some (.deleting keys))) := by
        simp [Program.machine, Program.step, running, program, advance]
      have rest := induction (Pool.set_process_self { middle with shared := { middle.shared with
        store := middle.shared.store.delete key } } pid (some (.deleting keys)))
      have first : cache.program.machine.Reaches
          (fun pool event => pool.OwnStep (StoresWithin delay) event) middle _ :=
        .of_step (by simp [Pool.OwnStep, running, StoresWithin]) deleted
      have reached := first.trans rest
      simpa [Pool.set] using reached

theorem reaches_written (free : middle.process pid = none) (change : Write) :
    cache.program.machine.Reaches (fun pool event => pool.OwnStep (StoresWithin delay) event)
      middle { middle with shared := cache.written middle.shared change } := by
  have started : cache.program.machine.step middle (.start pid (.write change)) =
      some (middle.set pid (some (.writing change))) := by
    simp [Program.machine, Program.step, free, program, enter]
  have changed : cache.program.machine.step (middle.set pid (some (.writing change)))
      (.advance pid .proceed) = some (({ middle with shared := { middle.shared with
        source := middle.shared.source.change middle.shared.now
          (cache.apply middle.shared.source.current change) } }).set pid (some
            (.deleting (cache.invalidates middle.shared.source.current change)))) := by
    simp [Program.machine, Program.step, program, advance, Pool.set]
  have first : cache.program.machine.Reaches
      (fun pool event => pool.OwnStep (StoresWithin delay) event) middle _ :=
    @Machine.Reaches.of_step _ _ _ _ _ _ (.start pid (.write change)) trivial started
  have second := first.step (by simp [Pool.OwnStep, StoresWithin]) changed
  have reached := second.trans (reaches_deleting (Pool.set_process_self _ _ _))
  have unchanged : Function.update middle.process pid none = middle.process :=
    Function.update_eq_self_iff.mpr free.symm
  simpa [Pool.set, written, unchanged] using reached

/-- After a writer that nothing has interrupted, the keys that it has deleted are answered from
the source as it has been written, or as it was written later. -/
theorem answers_after_write (now : Nat) (source : Source) {change : Write}
    (before : cache.program.machine.Reaches
      (fun pool event => pool.OwnStep (StoresWithin delay) event)
      (Pool.idle (fresh now source)) middle)
    (free : middle.process pid = none) (noneHolds : NoneHolds middle key)
    (deleted : key ∈ cache.invalidates middle.shared.source.current change)
    (reaches : cache.program.machine.Reaches
      (fun pool event => pool.OwnStep (StoresWithin delay) event)
      { middle with shared := cache.written middle.shared change } final) {asker : Pid}
    (answered : final.process asker = some (.answered key value read checked)) :
    ∃ given number, given ≤ read ∧ middle.shared.source.changes < number ∧
      final.shared.source.InForce number given ∧
      cache.load (final.shared.source.state number) key = value :=
  answers_since now source (before.trans (reaches_written free change))
    (absent_foldl_delete (.inl deleted)) noneHolds reaches answered

end Runs

end CachedLookup

end ChatsEngine
