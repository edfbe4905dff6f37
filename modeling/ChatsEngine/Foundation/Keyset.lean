import Mathlib.Data.List.Pairwise
import Mathlib.Data.List.Sort
import Mathlib.Data.List.Nodup
import Mathlib.Data.Prod.Lex

/-! # Keyset pagination

A table is read in pages, each page holding the rows that follow the last key of
the page before. The table may lose rows between two pages: what the pages give
is still the ordered table as long as no row that is yet to come has been
lost. -/

namespace ChatsEngine.Keyset

variable {Row : Type u} {Key : Type v} (key : Row → Key)

def lastKey (rows : List Row) : Option Key := rows.getLast?.map key

@[simp] theorem lastKey_nil : lastKey key ([] : List Row) = none := rfl

theorem lastKey_append {read next : List Row} (nonempty : next ≠ []) :
    lastKey key (read ++ next) = lastKey key next := by
  rw [lastKey, lastKey, List.getLast?_append_of_ne_nil _ nonempty]

variable [LinearOrder Key]

/-- `ORDER BY key`. -/
def orderBy (rows : List Row) : List Row :=
  rows.insertionSort fun left right => key left ≤ key right

/-- The rows that follow the last key read, all of them when nothing has been
read yet. -/
def IsAfter (last : Option Key) (row : Row) : Prop :=
  ∀ read, last = some read → read < key row

instance (last : Option Key) (row : Row) : Decidable (IsAfter key last row) :=
  match last with
  | none => isTrue fun _ impossible => by cases impossible
  | some read =>
      decidable_of_iff (read < key row)
        ⟨fun before _ same => Option.some.inj same ▸ before, fun after => after read rfl⟩

def page (size : Nat) (last : Option Key) (rows : List Row) : List Row :=
  (orderBy key (rows.filter fun row => IsAfter key last row)).take size

@[simp] theorem mem_orderBy {rows : List Row} {row : Row} :
    row ∈ orderBy key rows ↔ row ∈ rows := by
  simp [orderBy]

@[simp] theorem isAfter_none (row : Row) : IsAfter key none row := by
  intro _ impossible
  cases impossible

@[simp] theorem isAfter_some (read : Key) (row : Row) :
    IsAfter key (some read) row ↔ read < key row := by
  simp [IsAfter]

theorem orderBy_perm (rows : List Row) : (orderBy key rows).Perm rows :=
  List.perm_insertionSort _ _

theorem orderBy_ordered (rows : List Row) :
    (orderBy key rows).Pairwise fun left right => key left ≤ key right :=
  List.pairwise_insertionSort _ rows

/-- The order is stable: rows that are listed in order stay as they are listed. -/
theorem filter_orderBy_of_ordered {rows : List Row} (selects : Row → Bool)
    (ordered : (rows.filter selects).Pairwise fun left right => key left ≤ key right) :
    (orderBy key rows).filter selects = rows.filter selects := by
  have sublist : (rows.filter selects).Sublist (orderBy key rows) :=
    List.sublist_insertionSort ordered List.filter_sublist
  have selected : (rows.filter selects).Sublist ((orderBy key rows).filter selects) := by
    have filtered := sublist.filter selects
    rwa [List.filter_filter, List.filter_congr fun row _ => Bool.and_self (selects row)]
      at filtered
  exact (selected.eq_of_length ((orderBy_perm key rows).filter selects).length_eq.symm).symm

theorem orderBy_strict {rows : List Row} (distinct : (rows.map key).Nodup) :
    (orderBy key rows).Pairwise fun left right => key left < key right := by
  have ordered := orderBy_ordered key rows
  have different : (orderBy key rows).Pairwise fun left right => key left ≠ key right := by
    rw [← List.pairwise_map]
    exact ((orderBy_perm key rows).map key).nodup_iff.mpr distinct
  exact ordered.imp₂ (fun _ _ le ne => lt_of_le_of_ne le ne) different

theorem eq_of_strict {left right : List Row}
    (leftStrict : left.Pairwise fun first second => key first < key second)
    (rightStrict : right.Pairwise fun first second => key first < key second)
    (members : ∀ row, row ∈ left ↔ row ∈ right) : left = right := by
  have : Std.Irrefl fun first second : Row => key first < key second :=
    ⟨fun row => lt_irrefl (key row)⟩
  have : Std.Asymm fun first second : Row => key first < key second :=
    ⟨fun _ _ before after => lt_asymm before after⟩
  exact leftStrict.eq_of_mem_iff rightStrict members

theorem pairwise_orderBy_iff {rows : List Row} (distinct : (rows.map key).Nodup)
    (Related : Row → Row → Prop) :
    (orderBy key rows).Pairwise Related ↔
      ∀ left ∈ rows, ∀ right ∈ rows, key left < key right → Related left right := by
  have strict := orderBy_strict key distinct
  constructor
  · intro pairwise left isLeft right isRight before
    let Both : Row → Row → Prop := fun first second =>
      (key first < key second → Related first second) ∧
        (key second < key first → Related second first)
    have : Std.Symm Both := ⟨fun _ _ both => both.symm⟩
    have both : (orderBy key rows).Pairwise Both :=
      (strict.and pairwise).imp fun related =>
        ⟨fun _ => related.2, fun after => absurd after (lt_asymm related.1)⟩
    have same : ∀ row ∈ orderBy key rows, Both row row := fun row _ =>
      ⟨fun impossible => absurd impossible (lt_irrefl _),
        fun impossible => absurd impossible (lt_irrefl _)⟩
    exact (both.forall_of_forall same ((mem_orderBy key).mpr isLeft)
      ((mem_orderBy key).mpr isRight)).1 before
  · intro related
    refine strict.imp_of_mem ?_
    intro left right isLeft isRight before
    exact related left ((mem_orderBy key).mp isLeft) right ((mem_orderBy key).mp isRight) before

theorem isAfter_lastKey_iff {read rest : List Row}
    (strict : (read ++ rest).Pairwise fun left right => key left < key right)
    {row : Row} (member : row ∈ read ++ rest) :
    IsAfter key (lastKey key read) row ↔ row ∈ rest := by
  rw [List.pairwise_append] at strict
  rcases List.eq_nil_or_concat read with rfl | ⟨front, final, rfl⟩
  · simpa using member
  · have lastIs : lastKey key (front ++ [final]) = some (key final) := by
      simp [lastKey]
    rw [List.concat_eq_append] at *
    rw [lastIs, isAfter_some]
    constructor
    · intro after
      rcases List.mem_append.mp member with inRead | inRest
      · exfalso
        rcases List.mem_append.mp inRead with inFront | isFinal
        · have before : key row < key final :=
            (List.pairwise_append.mp strict.1).2.2 row inFront final (by simp)
          exact lt_asymm after before
        · rw [List.mem_singleton.mp isFinal] at after
          exact lt_irrefl _ after
      · exact inRest
    · intro inRest
      exact strict.2.2 final (by simp) row inRest

/-- One page after `read`: as long as the store keeps every row that is yet to
come, what follows the last key is exactly the rest of the ordered table. -/
theorem orderBy_after {table stored read rest : List Row}
    (distinct : (table.map key).Nodup)
    (split : orderBy key table = read ++ rest)
    (sub : stored.Sublist table)
    (kept : ∀ row, row ∈ rest → row ∈ stored) :
    orderBy key (stored.filter fun row => IsAfter key (lastKey key read) row) = rest := by
  have strict := orderBy_strict key distinct
  rw [split] at strict
  have storedDistinct :
      ((stored.filter fun row => IsAfter key (lastKey key read) row).map key).Nodup :=
    distinct.sublist ((List.filter_sublist.trans sub).map key)
  apply eq_of_strict key (orderBy_strict key storedDistinct)
    (List.pairwise_append.mp strict).2.1
  intro row
  simp only [mem_orderBy, List.mem_filter, decide_eq_true_eq]
  constructor
  · intro both
    rcases both with ⟨inStored, after⟩
    have inTable : row ∈ read ++ rest := by
      rw [← split, mem_orderBy]
      exact sub.subset inStored
    exact (isAfter_lastKey_iff key strict inTable).mp after
  · intro inRest
    exact ⟨kept row inRest, (isAfter_lastKey_iff key strict (by simp [inRest])).mpr inRest⟩

theorem page_eq_take {table stored read rest : List Row} (size : Nat)
    (distinct : (table.map key).Nodup)
    (split : orderBy key table = read ++ rest)
    (sub : stored.Sublist table)
    (kept : ∀ row, row ∈ rest → row ∈ stored) :
    page key size (lastKey key read) stored = rest.take size := by
  rw [page, orderBy_after key distinct split sub kept]

end ChatsEngine.Keyset
