import Mathlib.Data.List.Basic

/-! # Query strings

`quote_plus` and `urlencode` of the standard library, and that no two dictionaries have one
query string. -/

namespace ChatsEngine.UrlText

def isUnreserved (char : Char) : Bool :=
  char.isAlphanum || char = '_' || char = '.' || char = '-' || char = '~'

def hexDigit (digit : Nat) : Char := (Nat.digitChar digit).toUpper

def quoteByte (byte : UInt8) : List Char :=
  ['%', hexDigit (byte.toNat / 16), hexDigit (byte.toNat % 16)]

def quoteChar (char : Char) : List Char :=
  if isUnreserved char then [char]
  else if char = ' ' then ['+']
  else (String.utf8EncodeChar char).flatMap quoteByte

/-- `quote_plus`, over the bytes of the text. -/
def quotePlus (text : String) : String := String.ofList (text.toList.flatMap quoteChar)

def urlencodeItem (item : String × String) : String :=
  quotePlus item.1 ++ "=" ++ quotePlus item.2

def urlencode (items : List (String × String)) : String :=
  "&".intercalate (items.map urlencodeItem)

/-! ## Quoted texts -/

theorem hexDigit_injOn : ∀ first < 16, ∀ second < 16,
    hexDigit first = hexDigit second → first = second := by
  decide

theorem hexDigit_ne : ∀ digit < 16, hexDigit digit ≠ '&' ∧ hexDigit digit ≠ '=' := by
  decide

theorem quoteByte_injective {first second : UInt8} (same : quoteByte first = quoteByte second) :
    first = second := by
  simp only [quoteByte, List.cons.injEq, true_and, and_true] at same
  have high := hexDigit_injOn _ (by have := first.toNat_lt; omega) _
    (by have := second.toNat_lt; omega) same.1
  have low := hexDigit_injOn _ (Nat.mod_lt _ (by decide)) _ (Nat.mod_lt _ (by decide)) same.2
  apply UInt8.toNat_inj.mp
  omega

theorem prefix_or_prefix_of_quoted {first second : List UInt8} {rest other : List Char}
    (same : first.flatMap quoteByte ++ rest = second.flatMap quoteByte ++ other) :
    first <+: second ∨ second <+: first := by
  induction first generalizing second with
  | nil => exact .inl List.nil_prefix
  | cons byte bytes induction =>
      cases second with
      | nil => exact .inr List.nil_prefix
      | cons own owns =>
          rw [List.flatMap_cons, List.flatMap_cons, List.append_assoc, List.append_assoc] at same
          rcases List.append_inj same rfl with ⟨head, tail⟩
          rw [quoteByte_injective head]
          simpa only [List.prefix_cons_inj] using induction tail

theorem eq_of_prefix_utf8EncodeChar {first second : Char}
    (begins : String.utf8EncodeChar first <+: String.utf8EncodeChar second) : first = second := by
  rcases begins with ⟨rest, joined⟩
  have decoded := ByteArray.utf8DecodeChar?_utf8EncodeChar_append (b := ∅) (c := second)
  rw [← joined, List.toByteArray_append, ByteArray.append_assoc,
    ByteArray.utf8DecodeChar?_utf8EncodeChar_append] at decoded
  exact Option.some.inj decoded

def isPlain (char : Char) : Bool := isUnreserved char || char = ' '

theorem quoteChar_of_isPlain {char : Char} (plain : isPlain char = true) :
    quoteChar char = [if char = ' ' then '+' else char] := by
  rw [quoteChar]
  by_cases space : char = ' '
  · subst space
    rfl
  · have kept : isUnreserved char = true := by simpa [isPlain, space] using plain
    rw [if_pos kept, if_neg space]

theorem quoteChar_of_not_isPlain {char : Char} (escaped : ¬isPlain char = true) :
    quoteChar char = (String.utf8EncodeChar char).flatMap quoteByte := by
  simp only [isPlain, Bool.or_eq_true, decide_eq_true_eq, not_or] at escaped
  rw [quoteChar, if_neg escaped.1, if_neg escaped.2]

theorem quoteChar_ne_nil (char : Char) : quoteChar char ≠ [] := by
  by_cases plain : isPlain char = true
  · simp [quoteChar_of_isPlain plain]
  · rcases List.exists_cons_of_ne_nil (String.utf8EncodeChar_ne_nil (c := char)) with
      ⟨byte, bytes, encoded⟩
    simp [quoteChar_of_not_isPlain plain, encoded, quoteByte]

theorem quoteChar_begins_escape {char : Char} (escaped : ¬isPlain char = true) :
    ∃ rest, quoteChar char = '%' :: rest := by
  rw [quoteChar_of_not_isPlain escaped]
  cases bytes : String.utf8EncodeChar char with
  | nil => exact absurd bytes String.utf8EncodeChar_ne_nil
  | cons byte bytes => exact ⟨_, rfl⟩

theorem plain_ne_escape {plain escaped : Char} {rest other : List Char}
    (isPlain₁ : isPlain plain = true) (isPlain₂ : ¬isPlain escaped = true) :
    quoteChar plain ++ rest ≠ quoteChar escaped ++ other := by
  rcases quoteChar_begins_escape isPlain₂ with ⟨tail, begins⟩
  rw [quoteChar_of_isPlain isPlain₁, begins]
  intro same
  have head := (List.cons.inj same).1
  split at head
  · exact absurd head (by decide)
  · subst head
    exact absurd isPlain₁ (by decide)

theorem quoteChar_append_inj {first second : Char} {rest other : List Char}
    (same : quoteChar first ++ rest = quoteChar second ++ other) :
    first = second ∧ rest = other := by
  suffices first = second by
    subst this
    exact ⟨rfl, List.append_cancel_left same⟩
  by_cases plain : isPlain first = true <;> by_cases plain' : isPlain second = true
  · rw [quoteChar_of_isPlain plain, quoteChar_of_isPlain plain'] at same
    have head := (List.cons.inj same).1
    split at head <;> split at head
    · simp_all
    · exact absurd plain' (by rw [← head]; decide)
    · exact absurd plain (by rw [head]; decide)
    · exact head
  · exact absurd same (plain_ne_escape plain plain')
  · exact absurd same.symm (plain_ne_escape plain' plain)
  · rw [quoteChar_of_not_isPlain plain, quoteChar_of_not_isPlain plain'] at same
    rcases prefix_or_prefix_of_quoted same with begins | begins
    · exact eq_of_prefix_utf8EncodeChar begins
    · exact (eq_of_prefix_utf8EncodeChar begins).symm

theorem quotePlus_injective : Function.Injective quotePlus := by
  intro first second same
  have quoted := String.ofList_injective same
  apply String.toList_injective
  generalize first.toList = chars at quoted ⊢
  generalize second.toList = others at quoted ⊢
  induction chars generalizing others with
  | nil =>
      cases others with
      | nil => rfl
      | cons other others => simp [quoteChar_ne_nil] at quoted
  | cons char chars induction =>
      cases others with
      | nil => simp [quoteChar_ne_nil] at quoted
      | cons other others =>
          rcases quoteChar_append_inj quoted with ⟨rfl, rest⟩
          rw [induction others rest]

def isSeparator (char : Char) : Prop := char = '&' ∨ char = '='

theorem separator_notMem_quoteChar {separator : Char} (isSeparator : isSeparator separator)
    (char : Char) : separator ∉ quoteChar char := by
  by_cases plain : isPlain char = true
  · rw [quoteChar_of_isPlain plain, List.mem_singleton]
    rintro rfl
    split at isSeparator
    · rcases isSeparator with other | other <;> exact absurd other (by decide)
    · rcases isSeparator with rfl | rfl <;> exact absurd plain (by decide)
  · rw [quoteChar_of_not_isPlain plain, List.mem_flatMap]
    rintro ⟨byte, _, inByte⟩
    have high := hexDigit_ne (byte.toNat / 16) (by have := byte.toNat_lt; omega)
    have low := hexDigit_ne (byte.toNat % 16) (Nat.mod_lt _ (by decide))
    simp only [quoteByte, List.mem_cons, List.not_mem_nil, or_false] at inByte
    rcases isSeparator with rfl | rfl <;> rcases inByte with is | is | is
    · exact absurd is (by decide)
    · exact high.1 is.symm
    · exact low.1 is.symm
    · exact absurd is (by decide)
    · exact high.2 is.symm
    · exact low.2 is.symm

theorem separator_notMem_quotePlus {separator : Char} (isSeparator : isSeparator separator)
    (text : String) : separator ∉ (quotePlus text).toList := by
  rw [quotePlus, String.toList_ofList, List.mem_flatMap]
  rintro ⟨char, _, inChar⟩
  exact separator_notMem_quoteChar isSeparator char inChar

/-! ## Dictionaries -/

theorem toList_urlencodeItem (item : String × String) :
    (urlencodeItem item).toList = (quotePlus item.1).toList ++ '=' :: (quotePlus item.2).toList := by
  simp [urlencodeItem, String.toList_append]

theorem urlencodeItem_injective : Function.Injective urlencodeItem := by
  intro first second same
  have texts := congrArg String.toList same
  rw [toList_urlencodeItem, toList_urlencodeItem,
    List.append_cons_inj_of_notMem (separator_notMem_quotePlus (.inr rfl) _)
      (separator_notMem_quotePlus (.inr rfl) _)] at texts
  exact Prod.ext (quotePlus_injective (String.toList_injective texts.1))
    (quotePlus_injective (String.toList_injective texts.2.2))

theorem ampersand_notMem_urlencodeItem (item : String × String) :
    '&' ∉ (urlencodeItem item).toList := by
  rw [toList_urlencodeItem, List.mem_append, List.mem_cons]
  rintro (inKey | separator | inValue)
  · exact separator_notMem_quotePlus (.inl rfl) item.1 inKey
  · exact absurd separator (by decide)
  · exact separator_notMem_quotePlus (.inl rfl) item.2 inValue

theorem splitOn_urlencode {items : List (String × String)} (nonempty : items ≠ []) :
    (urlencode items).toList.splitOn '&' = items.map fun item => (urlencodeItem item).toList := by
  rw [urlencode, String.toList_intercalate, List.map_map]
  apply List.splitOn_intercalate
  · intro text member
    rcases List.mem_map.mp member with ⟨item, _, rfl⟩
    exact ampersand_notMem_urlencodeItem item
  · simpa using nonempty

theorem urlencode_injective {items others : List (String × String)} (nonempty : items ≠ [])
    (nonempty' : others ≠ []) (same : urlencode items = urlencode others) : items = others := by
  have parts := splitOn_urlencode nonempty
  rw [same, splitOn_urlencode nonempty'] at parts
  apply List.map_injective_iff.mpr _ parts.symm
  intro item other texts
  exact urlencodeItem_injective (String.toList_injective texts)

end ChatsEngine.UrlText
