import Deduction.Proofs.Encoding
import Mathlib.Data.String.Basic

/-!
Texts in the order of their bytes. The bytes of a character are the digits of its code point, the
highest first, and the first byte is marked with their number: the more bytes, the greater the mark.
So two characters are told apart by their own bytes, in the order of their code points, whatever
comes after them. Two texts are told apart where their characters first differ.
-/

namespace Deduction.Text

def codePoints (text : String) : List Nat :=
  text.toList.map Char.toNat

def bytes (text : String) : List Nat :=
  text.toUTF8.toList.map UInt8.toNat

def Before (left right : String) : Prop :=
  List.Lex (· < ·) (bytes left) (bytes right)

/-! Comparisons. -/

theorem compareLex_eq_lt_iff {α : Type} {order : α → α → Ordering} {before : α → α → Prop}
    [Std.LawfulEqCmp order] (decides : ∀ left right, order left right = .lt ↔ before left right)
    (left right : List α) :
    List.compareLex order left right = .lt ↔ List.Lex before left right := by
  induction left generalizing right with
  | nil => cases right <;> simp [List.compareLex_nil_nil, List.compareLex_nil_cons]
  | cons first left ih =>
      cases right with
      | nil => simp [List.compareLex_cons_nil]
      | cons other right =>
          rw [List.compareLex_cons_cons, Ordering.then_eq_lt, decides, ih,
            Std.LawfulEqCmp.compare_eq_iff_eq, List.cons_lex_cons_iff]

theorem compare_eq_lt_iff (left right : List Nat) :
    compare left right = .lt ↔ List.Lex (· < ·) left right := by
  rw [List.compare_eq_compareLex]
  exact compareLex_eq_lt_iff (fun _ _ => Nat.compare_eq_lt) left right

/-- A map that keeps what comes first keeps every comparison. -/
theorem compare_map {α β : Type} [Ord α] [Ord β] [Std.OrientedOrd α] [Std.LawfulEqOrd α]
    [Std.OrientedOrd β] {f : α → β}
    (keeps : ∀ left right, compare left right = .lt → compare (f left) (f right) = .lt)
    (left right : α) : compare (f left) (f right) = compare left right := by
  cases compared : compare left right with
  | lt => exact keeps left right compared
  | eq => rw [Std.LawfulEqCmp.eq_of_compare compared, Std.compare_self]
  | gt =>
      apply Std.OrientedCmp.gt_of_lt
      apply keeps
      exact Std.OrientedCmp.lt_of_gt compared

/-! The bytes of one character. -/

/-- The bytes after the first one: digits to the base 64, the lowest one last. -/
def followers : Nat → Nat → List Nat
  | 0, _ => []
  | count + 1, value => followers count (value / 64) ++ [value % 64 + 0x80]

/-- A first byte, in which the highest digit stands behind a mark, and the bytes after it. -/
def byteSequence (mark count value : Nat) : List Nat :=
  (value / 64 ^ count + mark) :: followers count value

/-- The lengths of characters: a mark, a number of bytes after the first one, and the code points
that are encoded so. -/
inductive Sized : Nat → Nat → Nat → Prop where
  | one {value : Nat} : value < 0x80 → Sized 0 0 value
  | two {value : Nat} : 0x80 ≤ value → value < 0x800 → Sized 0xc0 1 value
  | three {value : Nat} : 0x800 ≤ value → value < 0x10000 → Sized 0xe0 2 value
  | four {value : Nat} : 0x10000 ≤ value → value < 0x110000 → Sized 0xf0 3 value

theorem byteSequence_succ (mark count value : Nat) :
    byteSequence mark (count + 1) value =
      byteSequence mark count (value / 64) ++ [value % 64 + 0x80] := by
  rw [byteSequence, byteSequence, followers, Nat.pow_succ', Nat.div_div_eq_div_mul,
    List.cons_append]

theorem toNat_lt (c : Char) : c.toNat < 0x110000 := by
  rcases c.valid with low | ⟨_, high⟩
  · exact Nat.lt_trans low (by decide)
  · exact high

theorem exists_sized (c : Char) :
    ∃ mark count, Sized mark count c.toNat ∧
      (String.utf8EncodeChar c).map UInt8.toNat = byteSequence mark count c.toNat := by
  have bound := toNat_lt c
  have value : c.val.toNat = c.toNat := rfl
  simp only [String.utf8EncodeChar, value]
  split_ifs with one two three
  · refine ⟨0, 0, .one (by omega), ?_⟩
    simp [byteSequence, followers]
    omega
  · refine ⟨0xc0, 1, .two (by omega) (by omega), ?_⟩
    simp [byteSequence, followers]
    omega
  · refine ⟨0xe0, 2, .three (by omega) (by omega), ?_⟩
    simp [byteSequence, followers]
    omega
  · refine ⟨0xf0, 3, .four (by omega) bound, ?_⟩
    simp [byteSequence, followers]
    omega

/-- Of two code points with the same number of bytes, the smaller one has the earlier bytes. -/
theorem byteSequence_ordered (mark count : Nat) {value other : Nat} (lt : value < other)
    (front back : List Nat) :
    List.Lex (· < ·) (byteSequence mark count value ++ front)
      (byteSequence mark count other ++ back) := by
  induction count generalizing value other front back with
  | zero =>
      apply List.Lex.rel
      simpa using lt
  | succ count ih =>
      rw [byteSequence_succ, byteSequence_succ, List.append_assoc, List.append_assoc]
      have le : value / 64 ≤ other / 64 := Nat.div_le_div_right (Nat.le_of_lt lt)
      -- the lowest digit decides only where the digits before it agree
      rcases Nat.lt_or_eq_of_le le with higher | same
      · exact ih higher _ _
      · rw [same]
        apply List.Lex.append_left
        apply List.Lex.rel
        omega

theorem Sized.ordered {mark count value otherMark otherCount other : Nat}
    (sized : Sized mark count value) (otherSized : Sized otherMark otherCount other)
    (lt : value < other) :
    (mark = otherMark ∧ count = otherCount) ∨
      value / 64 ^ count + mark < other / 64 ^ otherCount + otherMark := by
  cases sized <;> cases otherSized <;> omega

theorem utf8EncodeChar_ordered {c d : Char} (lt : c < d) (front back : List Nat) :
    List.Lex (· < ·) ((String.utf8EncodeChar c).map UInt8.toNat ++ front)
      ((String.utf8EncodeChar d).map UInt8.toNat ++ back) := by
  obtain ⟨mark, count, sized, shape⟩ := exists_sized c
  obtain ⟨otherMark, otherCount, otherSized, otherShape⟩ := exists_sized d
  rw [shape, otherShape]
  -- characters of different lengths differ in the first byte already
  rcases sized.ordered otherSized lt with ⟨rfl, rfl⟩ | first
  · exact byteSequence_ordered mark count lt front back
  · exact .rel first

/-! Texts. -/

/-- A code orders texts as it orders characters, if it does so whatever comes after them. -/
theorem lex_flatMap {code : Char → List Nat} (nonempty : ∀ c, code c ≠ [])
    (ordered : ∀ c d front back, c < d → List.Lex (· < ·) (code c ++ front) (code d ++ back))
    {left right : List Char} (lex : List.Lex (· < ·) left right) :
    List.Lex (· < ·) (left.flatMap code) (right.flatMap code) := by
  induction lex with
  | @nil c rest =>
      obtain ⟨first, more, shape⟩ := List.exists_cons_of_ne_nil (nonempty c)
      rw [List.flatMap_cons, shape]
      exact .nil
  | rel lt => exact ordered _ _ _ _ lt
  | @cons c _ _ _ ih => exact List.Lex.append_left _ ih (code c)

theorem codePoints_eq_flatMap (text : String) :
    codePoints text = text.toList.flatMap fun c => [c.toNat] :=
  List.map_eq_flatMap

theorem bytes_eq_flatMap (text : String) :
    bytes text = text.toList.flatMap fun c => (String.utf8EncodeChar c).map UInt8.toNat := by
  rw [bytes, toList_toUTF8, encoded, List.map_flatMap]

theorem lex_of_compare {left right : String} (lt : compare left right = .lt) :
    List.Lex (· < ·) left.toList right.toList :=
  String.lt_iff_toList_lt.mp (Std.LawfulLTCmp.eq_lt_iff_lt.mp lt)

theorem compare_codePoints (left right : String) :
    compare (codePoints left) (codePoints right) = compare left right := by
  apply compare_map
  intro left right lt
  rw [compare_eq_lt_iff, codePoints_eq_flatMap, codePoints_eq_flatMap]
  apply lex_flatMap (fun c => List.cons_ne_nil c.toNat [])
  · intro c d front back lt
    exact .rel lt
  · exact lex_of_compare lt

theorem compare_bytes (left right : String) :
    compare (bytes left) (bytes right) = compare left right := by
  apply compare_map
  intro left right lt
  rw [compare_eq_lt_iff, bytes_eq_flatMap, bytes_eq_flatMap]
  apply lex_flatMap
  · intro c empty
    exact String.utf8EncodeChar_ne_nil (List.map_eq_nil_iff.mp empty)
  · intro c d front back lt
    exact utf8EncodeChar_ordered lt front back
  · exact lex_of_compare lt

theorem compare_eq_lt_iff_before (left right : String) :
    compare left right = .lt ↔ Before left right := by
  rw [← compare_bytes, compare_eq_lt_iff, Before]

end Deduction.Text
