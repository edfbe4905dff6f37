import Mathlib.Data.Nat.Count
import Mathlib.Data.List.Chain

/-! # Histories that switch something on and off

Each change of a history says from when on something is on or off, until the next change. How
long it has been on is the number of instants at which the latest change has switched it on. -/

namespace ChatsEngine

section Switches

variable {Change : Type u} (time : Change → Nat) (on : Change → Bool)

def lastAt (history : List Change) (instant : Nat) : Option Change :=
  (history.filter fun change => time change ≤ instant).getLast?

def onAt (history : List Change) (instant : Nat) : Bool :=
  (lastAt time history instant).any on

/-- How many of the instants before the end it has been on. -/
def onTime (history : List Change) (ending : Nat) : Nat :=
  Nat.count (fun instant => onAt time on history instant = true) ending

def lastOff (history : List Change) : Nat :=
  (((history.filter fun change => !on change).getLast?).map time).getD 0

def Chronological (history : List Change) : Prop :=
  history.Pairwise fun change later => time change ≤ time later

variable {time on} {history : List Change} {change : Change} {instant : Nat}

theorem chronological_concat :
    Chronological time (history ++ [change]) ↔
      Chronological time history ∧ ∀ earlier ∈ history, time earlier ≤ time change := by
  unfold Chronological
  rw [List.pairwise_append]
  constructor
  · intro parts
    exact ⟨parts.1, fun earlier member =>
      parts.2.2 earlier member change (List.mem_singleton.mpr rfl)⟩
  · intro parts
    refine ⟨parts.1, List.pairwise_singleton _ _, fun earlier member other new => ?_⟩
    rw [List.mem_singleton.mp new]
    exact parts.2 earlier member

theorem onAt_concat :
    onAt time on (history ++ [change]) instant =
      if time change ≤ instant then on change else onAt time on history instant := by
  unfold onAt lastAt
  rw [List.filter_append]
  by_cases made : time change ≤ instant
  · rw [if_pos made, List.filter_cons_of_pos (by simpa using made), List.filter_nil,
      List.getLast?_append, List.getLast?_singleton]
    rfl
  · rw [if_neg made, List.filter_cons_of_neg (by simpa using made), List.filter_nil,
      List.append_nil]

theorem lastOff_concat :
    lastOff time on (history ++ [change]) =
      if on change then lastOff time on history else time change := by
  unfold lastOff
  rw [List.filter_append]
  cases isOn : on change with
  | false =>
      rw [List.filter_cons_of_pos (by rw [isOn]; rfl), List.filter_nil, List.getLast?_append,
        List.getLast?_singleton]
      rfl
  | true =>
      rw [List.filter_cons_of_neg (by rw [isOn]; decide), List.filter_nil, List.append_nil]
      rfl

theorem lastOff_le {bound : Nat} (made : ∀ change ∈ history, time change ≤ bound) :
    lastOff time on history ≤ bound := by
  unfold lastOff
  cases found : (history.filter fun change => !on change).getLast? with
  | none => exact Nat.zero_le _
  | some change =>
      have member := List.mem_of_getLast? found
      exact made change (List.mem_filter.mp member).1

theorem onTime_concat {ending : Nat} (before : ending ≤ time change) :
    onTime time on (history ++ [change]) ending = onTime time on history ending := by
  unfold onTime
  induction ending with
  | zero => rfl
  | succ ending induction =>
      have later : ¬time change ≤ ending := by omega
      rw [Nat.count_succ, Nat.count_succ, induction (Nat.le_of_succ_le before), onAt_concat,
        if_neg later]

theorem onTime_of_off {first ending : Nat}
    (off : ∀ instant, first ≤ instant → instant < ending →
      ¬onAt time on history instant = true)
    (order : first ≤ ending) : onTime time on history ending = onTime time on history first := by
  induction ending with
  | zero => rw [Nat.le_zero.mp order]
  | succ ending induction =>
      by_cases same : first = ending + 1
      · rw [same]
      · have before : onTime time on history ending = onTime time on history first :=
          induction (fun instant after within => off instant after (by omega)) (by omega)
        rw [← before, onTime, Nat.count_succ, if_neg (off ending (by omega) (by omega))]
        rfl

theorem onTime_of_on {since : Nat}
    (isOn : ∀ instant, since ≤ instant → onAt time on history instant = true) (length : Nat) :
    onTime time on history (since + length) = onTime time on history since + length := by
  induction length with
  | zero => rfl
  | succ length induction =>
      rw [← Nat.add_assoc, onTime, Nat.count_succ, if_pos (isOn _ (Nat.le_add_right _ _)),
        ← onTime, induction]
      rfl

theorem onTime_add {first since ending : Nat}
    (onIff : ∀ instant, first ≤ instant → (onAt time on history instant = true ↔
      since ≤ instant))
    (order : first ≤ since) (ends : since ≤ ending) :
    onTime time on history ending = onTime time on history first + (ending - since) := by
  have untilSince : onTime time on history since = onTime time on history first := by
    apply onTime_of_off _ order
    intro instant after within
    rw [onIff instant after]
    exact Nat.not_le_of_lt within
  have untilEnd : onTime time on history (since + (ending - since)) =
      onTime time on history since + (ending - since) :=
    onTime_of_on (fun instant after => (onIff instant (order.trans after)).mpr after) _
  rw [Nat.add_sub_cancel' ends] at untilEnd
  rw [untilEnd, untilSince]

/-! ## Summing up the intervals -/

/-- How far the sum of the intervals has got: their length so far, and since when it is on. -/
structure Tally where
  total : Int
  since : Option Nat
  deriving DecidableEq, Repr

structure Tally.Counts (time : Change → Nat) (on : Change → Bool) (tally : Tally)
    (history : List Change) : Prop where
  total_eq : tally.total = onTime time on history (lastOff time on history)
  onIff : ∀ instant, lastOff time on history ≤ instant →
    (onAt time on history instant = true ↔ ∃ since ∈ tally.since, since ≤ instant)
  since_mem : ∀ since ∈ tally.since, ∃ change ∈ history, time change = since
  lastOff_le : ∀ since ∈ tally.since, lastOff time on history ≤ since

theorem Tally.counts_nil : Tally.Counts time on ⟨0, none⟩ [] where
  total_eq := rfl
  onIff := fun _ _ => ⟨nofun, nofun⟩
  since_mem := nofun
  lastOff_le := nofun

def Tally.add (time : Change → Nat) (on : Change → Bool) (tally : Tally) (change : Change) :
    Tally :=
  match on change, tally.since with
  | true, none => { tally with since := some (time change) }
  | false, some since => ⟨tally.total + ((time change : Int) - since), none⟩
  | _, _ => tally

/-- The intervals that have ended, and the one that is still open. -/
def Tally.closed (tally : Tally) (ending : Nat) : Int :=
  match tally.since with
  | none => tally.total
  | some since => tally.total + ((ending : Int) - since)

theorem Tally.Counts.closed_eq {tally : Tally} (counts : tally.Counts time on history)
    {ending : Nat} (made : ∀ change ∈ history, time change ≤ ending) :
    tally.closed ending = onTime time on history ending := by
  have offBefore : ChatsEngine.lastOff time on history ≤ ending := ChatsEngine.lastOff_le made
  rcases tally with ⟨total, since⟩
  cases since with
  | none =>
      rw [Tally.closed, onTime_of_off ?_ offBefore]
      · exact counts.total_eq
      · intro instant after _ isOnThen
        rcases (counts.onIff instant after).mp isOnThen with ⟨_, no, _⟩
        cases no
  | some since =>
      rcases counts.since_mem since rfl with ⟨first, member, isFirst⟩
      have sinceBefore : since ≤ ending := by
        rw [← isFirst]
        exact made first member
      rw [Tally.closed, onTime_add ?_ (counts.lastOff_le since rfl) sinceBefore]
      · have soFar := counts.total_eq
        simp only at soFar ⊢
        rw [soFar]
        omega
      · intro instant after
        rw [counts.onIff instant after]
        constructor
        · intro isOnThen
          rcases isOnThen with ⟨other, same, reached⟩
          cases same
          exact reached
        · intro reached
          exact ⟨since, rfl, reached⟩

theorem Tally.add_of_on {tally : Tally} (isOn : on change = true) :
    tally.add time on change = ⟨tally.total, some (tally.since.getD (time change))⟩ := by
  rcases tally with ⟨total, since⟩
  rw [Tally.add, isOn]
  cases since <;> rfl

theorem Tally.add_of_off {tally : Tally} (isOff : on change = false) :
    tally.add time on change = ⟨tally.closed (time change), none⟩ := by
  rcases tally with ⟨total, since⟩
  rw [Tally.add, isOff]
  cases since <;> rfl

section Add

variable {tally : Tally} (counts : tally.Counts time on history)
  (last : ∀ earlier ∈ history, time earlier ≤ time change)
include counts last

theorem Tally.Counts.opened :
    tally.since.getD (time change) ≤ time change ∧
      ChatsEngine.lastOff time on history ≤ tally.since.getD (time change) ∧
        ∃ first ∈ history ++ [change], time first = tally.since.getD (time change) := by
  cases isSince : tally.since with
  | none =>
      exact ⟨Nat.le_refl _, ChatsEngine.lastOff_le last, change,
        List.mem_append_right _ (List.mem_singleton_self _), rfl⟩
  | some since =>
      rcases counts.since_mem since isSince with ⟨first, member, rfl⟩
      exact ⟨last first member, counts.lastOff_le _ isSince, first,
        List.mem_append_left _ member, rfl⟩

theorem Tally.Counts.add_on (isOn : on change = true) :
    (tally.add time on change).Counts time on (history ++ [change]) := by
  have sameOff : ChatsEngine.lastOff time on (history ++ [change]) =
      ChatsEngine.lastOff time on history := by
    rw [lastOff_concat, isOn, if_pos rfl]
  rcases counts.opened last with ⟨notLater, notEarlier, first, member, isFirst⟩
  rw [Tally.add_of_on isOn]
  refine ⟨?_, ?_, ?_, ?_⟩
  · rw [sameOff, onTime_concat (ChatsEngine.lastOff_le last)]
    exact counts.total_eq
  · intro instant after
    rw [sameOff] at after
    rw [onAt_concat]
    split
    · next made => exact ⟨fun _ => ⟨_, rfl, notLater.trans made⟩, fun _ => isOn⟩
    · next notMade =>
        rw [counts.onIff instant after]
        cases isSince : tally.since with
        | none =>
            refine ⟨nofun, ?_⟩
            rintro ⟨_, ⟨⟩, made⟩
            exact absurd made notMade
        | some since => exact Iff.rfl
  · rintro _ ⟨⟩
    exact ⟨first, member, isFirst⟩
  · rintro _ ⟨⟩
    rw [sameOff]
    exact notEarlier

theorem Tally.Counts.add_off (isOff : on change = false) :
    (tally.add time on change).Counts time on (history ++ [change]) := by
  have newOff : ChatsEngine.lastOff time on (history ++ [change]) = time change := by
    rw [lastOff_concat, isOff, if_neg Bool.false_ne_true]
  rw [Tally.add_of_off isOff]
  refine ⟨?_, ?_, nofun, nofun⟩
  · rw [newOff, onTime_concat (Nat.le_refl _)]
    exact counts.closed_eq last
  · intro instant after
    rw [newOff] at after
    rw [onAt_concat, if_pos after, isOff]
    exact ⟨nofun, nofun⟩

theorem Tally.Counts.add : (tally.add time on change).Counts time on (history ++ [change]) := by
  cases isOn : on change with
  | true => exact counts.add_on last isOn
  | false => exact counts.add_off last isOn

end Add

theorem Tally.counts_foldl (chronological : Chronological time history) :
    (history.foldl (Tally.add time on) ⟨0, none⟩).Counts time on history := by
  induction history using List.reverseRecOn with
  | nil => exact Tally.counts_nil
  | append_singleton history change induction =>
      rcases chronological_concat.mp chronological with ⟨before, last⟩
      rw [List.foldl_append]
      exact (induction before).add last

/-! ## Changes that repeat the one before them -/

theorem Tally.since_foldl_concat {tally : Tally} :
    ((history ++ [change]).foldl (Tally.add time on) tally).since.isSome = on change := by
  rw [List.foldl_append]
  generalize history.foldl (Tally.add time on) tally = before
  rcases before with ⟨total, since⟩
  change (Tally.add time on ⟨total, since⟩ change).since.isSome = on change
  rw [Tally.add]
  cases on change <;> cases since <;> rfl

theorem Tally.add_of_repeats {tally : Tally} (repeats : tally.since.isSome = on change) :
    tally.add time on change = tally := by
  rcases tally with ⟨total, since⟩
  rw [Tally.add]
  cases isOn : on change with
  | true =>
      cases since with
      | none =>
          rw [isOn] at repeats
          cases repeats
      | some since => rfl
  | false =>
      cases since with
      | none => rfl
      | some since =>
          rw [isOn] at repeats
          cases repeats

end Switches

end ChatsEngine
