import Mathlib

namespace RustyCrew.Library.Text

open List

/-! ## Blank texts -/

/-- The characters with the Unicode property `White_Space`. -/
def isWhitespace (c : Char) : Bool :=
  (9 ≤ c.toNat && c.toNat ≤ 13) || (0x2000 ≤ c.toNat && c.toNat ≤ 0x200A) ||
    [0x20, 0x85, 0xA0, 0x1680, 0x2028, 0x2029, 0x202F, 0x205F, 0x3000].contains c.toNat

def isBlank (text : String) : Bool := text.toList.all isWhitespace

def trim (text : String) : String :=
  String.ofList ((text.toList.dropWhile isWhitespace).reverse.dropWhile isWhitespace).reverse

def stripStem (stem text : String) : Option String :=
  (text.toList.dropPrefix? stem.toList).map String.ofList

/-! ## Letter case -/

def toAsciiLowercase (text : String) : String := String.ofList (text.toList.map Char.toLower)

def eqIgnoreAsciiCase (a b : String) : Bool := toAsciiLowercase a = toAsciiLowercase b

theorem toAsciiLowercase_idem (text : String) :
    toAsciiLowercase (toAsciiLowercase text) = toAsciiLowercase text := by
  simp [toAsciiLowercase, Function.comp_def]

def beginsLike (stem text : String) : Bool :=
  (toAsciiLowercase stem).toList.isPrefixOf (toAsciiLowercase text).toList

/-! ## Decimal numerals -/

/-- An unsigned number below `bound` as it is read from text: digits, perhaps after one plus. -/
def parseUnsigned (bound : Nat) (text : List Char) : Option Nat :=
  let digits := (text.dropPrefix? ['+']).getD text
  let value := Nat.ofDigitChars 10 digits 0
  if digits ≠ [] ∧ digits.all Char.isDigit ∧ value < bound then some value else none

theorem isDigit_of_mem_toString {n : Nat} {c : Char} (member : c ∈ (toString n).toList) :
    c.isDigit = true := by
  rw [Nat.toString_eq_ofList_toDigits, String.toList_ofList] at member
  exact Nat.isDigit_of_mem_toDigits (by decide) (by decide) member

theorem parseUnsigned_toString {bound n : Nat} (small : n < bound) :
    parseUnsigned bound (toString n).toList = some n := by
  have unsigned : (toString n).toList.dropPrefix? ['+'] = none := by
    cases found : (toString n).toList.dropPrefix? ['+'] with
    | none => rfl
    | some rest =>
      obtain ⟨plus, split, isPlus⟩ := dropPrefix?_eq_some_iff.mp found
      rw [beq_iff_eq.mp isPlus] at split
      have member : '+' ∈ (toString n).toList := by
        rw [split]
        exact mem_cons_self
      have digit : '+'.isDigit = true := isDigit_of_mem_toString member
      exact absurd digit (by decide)
  have value : Nat.ofDigitChars 10 (toString n).toList 0 = n := by
    rw [Nat.toString_eq_ofList_toDigits, String.toList_ofList]
    exact Nat.ofDigitChars_toDigits (by decide) (by decide)
  have nonempty : (toString n).toList ≠ [] := by
    rw [Nat.toString_eq_ofList_toDigits, String.toList_ofList]
    exact Nat.toDigits_ne_nil
  have digits : (toString n).toList.all Char.isDigit = true :=
    all_eq_true.mpr fun _ member => isDigit_of_mem_toString member
  simp only [parseUnsigned, unsigned, Option.getD_none, value]
  exact if_pos ⟨nonempty, digits, small⟩

theorem mem_of_parseUnsigned (parsed : parseUnsigned bound text = some n) (member : c ∈ text) :
    c = '+' ∨ c.isDigit = true := by
  simp only [parseUnsigned, Option.ite_none_right_eq_some] at parsed
  have digits := all_eq_true.mp parsed.1.2.1
  cases found : text.dropPrefix? ['+'] with
  | none =>
    rw [found, Option.getD_none] at digits
    exact .inr (digits c member)
  | some rest =>
    obtain ⟨plus, split, isPlus⟩ := dropPrefix?_eq_some_iff.mp found
    rw [beq_iff_eq.mp isPlus] at split
    rw [found, Option.getD_some] at digits
    rw [split, singleton_append, mem_cons] at member
    exact member.imp_right (digits c)

theorem toString_injective {n m : Nat} (same : toString n = toString m) : n = m := by
  have parsed := parseUnsigned_toString (Nat.lt_succ_of_le (Nat.le_max_left n m))
  rw [same, parseUnsigned_toString (Nat.lt_succ_of_le (Nat.le_max_right n m))] at parsed
  exact (Option.some.inj parsed).symm

/-! ## Text with separators -/

theorem append_separator_inj {α : Type} {separator : α} {front front' back back' : List α}
    (absent : separator ∉ back) (absent' : separator ∉ back')
    (same : front ++ separator :: back = front' ++ separator :: back') :
    front = front' ∧ back = back' := by
  rcases append_eq_append_iff.mp same with ⟨rest, longer, tail⟩ | ⟨rest, longer, tail⟩
  · cases rest with
    | nil =>
      rw [nil_append, List.cons.injEq] at tail
      exact ⟨by rw [longer, append_nil], tail.2⟩
    | cons first rest =>
      rw [cons_append, List.cons.injEq] at tail
      exact (absent (tail.2 ▸ mem_append_right rest mem_cons_self)).elim
  · cases rest with
    | nil =>
      rw [nil_append, List.cons.injEq] at tail
      exact ⟨by rw [longer, append_nil], tail.2.symm⟩
    | cons first rest =>
      rw [cons_append, List.cons.injEq] at tail
      exact (absent' (tail.2 ▸ mem_append_right rest mem_cons_self)).elim

end RustyCrew.Library.Text
