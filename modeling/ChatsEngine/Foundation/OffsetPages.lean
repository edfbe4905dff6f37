import Mathlib.Data.List.Basic

/-! # Limit and offset pagination

A list is read in pages of a limited length, each page starting where the one before has
ended. For each page the list is made anew, and may be in another order. -/

namespace ChatsEngine.OffsetPages

variable {Row : Type u}

def page (limit offset : Nat) (rows : List Row) : List Row :=
  (rows.drop offset).take limit

def next (limit offset count : Nat) : Option Nat :=
  if offset + limit < count then some (offset + limit) else none

/-- The pages from an offset on, of which at most the first `fuel` are read. -/
def pagesFrom (limit : Nat) (listing : Nat → List Row) : Nat → Nat → List (List Row)
  | 0, _ => []
  | fuel + 1, offset =>
      page limit offset (listing offset) ::
        match next limit offset (listing offset).length with
        | none => []
        | some later => pagesFrom limit listing fuel later

/-- All pages: as many as there are rows are enough when pages are not empty, and there is one
page in any case. -/
def pages (limit : Nat) (listing : Nat → List Row) : List (List Row) :=
  pagesFrom limit listing ((listing 0).length + 1) 0

theorem flatten_pagesFrom {limit fuel offset : Nat} {rows : List Row} (positive : 0 < limit)
    (enough : rows.length < offset + fuel) :
    (pagesFrom limit (fun _ => rows) fuel offset).flatten = rows.drop offset := by
  induction fuel generalizing offset with
  | zero =>
      rw [List.drop_eq_nil_of_le (by omega)]
      rfl
  | succ fuel induction =>
      rw [pagesFrom, List.flatten_cons, page, next]
      by_cases more : offset + limit < rows.length
      · rw [if_pos more]
        dsimp only
        rw [induction (by omega), ← List.drop_drop, List.take_append_drop]
      · rw [if_neg more]
        have last : (rows.drop offset).length ≤ limit := by
          rw [List.length_drop]
          omega
        rw [List.take_of_length_le last, List.flatten_nil, List.append_nil]

theorem flatten_pages {limit : Nat} (positive : 0 < limit) (rows : List Row) :
    (pages limit fun _ => rows).flatten = rows := by
  rw [pages, flatten_pagesFrom positive (by omega), List.drop_zero]

end ChatsEngine.OffsetPages
