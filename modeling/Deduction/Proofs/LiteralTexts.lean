import Deduction.Json.Document
import Deduction.Proofs.Encoding

/-!
The texts that string literals denote. The reader of literals first puts their bytes together and
then looks whether these are the bytes of a text. Seen from the text, every character is given in
one of three ways: by its bytes, by its code unit, or by the two surrogates of its pair. Both ways
of looking agree, because a byte within a character is never the first byte of one: what begins with
bytes of the literal cannot go on with a code unit.
-/

namespace Deduction.Json.Literal

open Text (encoded encoded_cons)

def paired (high low : Nat) : Char :=
  Char.ofNat (0x10000 + (high - 0xD800) * 0x400 + (low - 0xDC00))

inductive Denotes : Literal → List Char → Prop where
  | nil : Denotes [] []
  | plain {c : Char} {rest : Literal} {text : List Char} (later : Denotes rest text) :
      Denotes ((String.utf8EncodeChar c).map .byte ++ rest) (c :: text)
  | unit {unit : Nat} {rest : Literal} {text : List Char} (single : unit < 0xD800 ∨ 0xE000 ≤ unit)
      (later : Denotes rest text) : Denotes (.unit unit :: rest) (Char.ofNat unit :: text)
  | pair {high low : Nat} {rest : Literal} {text : List Char}
      (highFirst : 0xD800 ≤ high ∧ high < 0xDC00) (lowSecond : 0xDC00 ≤ low ∧ low < 0xE000)
      (later : Denotes rest text) :
      Denotes (.unit high :: .unit low :: rest) (paired high low :: text)

def plain (text : List Char) : Literal :=
  (encoded text).map .byte

theorem plain_denotes (text : List Char) : Denotes (plain text) text := by
  induction text with
  | nil => exact .nil
  | cons c rest ih =>
      rw [plain, encoded_cons, List.map_append]
      exact .plain ih

theorem isHigh_iff {unit : Nat} : isHigh unit = true ↔ 0xD800 ≤ unit ∧ unit < 0xDC00 := by
  simp [isHigh]

theorem isLow_iff {unit : Nat} : isLow unit = true ↔ 0xDC00 ≤ unit ∧ unit < 0xE000 := by
  simp [isLow]

theorem bytes?_plain (bytes : List UInt8) (rest : Literal) :
    bytes? (bytes.map .byte ++ rest) = (bytes? rest).map (bytes ++ ·) := by
  induction bytes with
  | nil => simp
  | cons byte others ih =>
      rw [List.map_cons, List.cons_append, bytes?, ih, Option.map_map]
      rfl

theorem bytes?_unit {unit : Nat} (single : unit < 0xD800 ∨ 0xE000 ≤ unit) (rest : Literal) :
    bytes? (.unit unit :: rest) =
      (bytes? rest).map (String.utf8EncodeChar (Char.ofNat unit) ++ ·) := by
  have notHigh : ¬ isHigh unit = true := by
    rw [isHigh_iff]
    omega
  have notLow : ¬ isLow unit = true := by
    rw [isLow_iff]
    omega
  conv => lhs; unfold bytes?
  exact (if_neg notHigh).trans (if_neg notLow)

theorem bytes?_pair {high low : Nat} (highFirst : 0xD800 ≤ high ∧ high < 0xDC00)
    (lowSecond : 0xDC00 ≤ low ∧ low < 0xE000) (rest : Literal) :
    bytes? (.unit high :: .unit low :: rest) =
      (bytes? rest).map (String.utf8EncodeChar (paired high low) ++ ·) := by
  conv => lhs; unfold bytes?
  exact (if_pos (isHigh_iff.mpr highFirst)).trans (if_pos (isLow_iff.mpr lowSecond))

theorem Denotes.found {literal : Literal} {text : List Char} (denotes : Denotes literal text) :
    bytes? literal = some (encoded text) := by
  induction denotes with
  | nil => rfl
  | plain _ ih => rw [bytes?_plain, ih]; rfl
  | unit single _ ih => rw [bytes?_unit single, ih]; rfl
  | pair highFirst lowSecond _ ih => rw [bytes?_pair highFirst lowSecond, ih]; rfl

/-- The first piece of a literal that stands for bytes is a byte, or a character begins with it. -/
theorem bytes?_cons {piece : Piece} {rest : Literal} {bytes : List UInt8}
    (found : bytes? (piece :: rest) = some bytes) :
    (∃ byte later, piece = .byte byte ∧ bytes? rest = some later ∧ bytes = byte :: later) ∨
    ∃ c remaining later, bytes? remaining = some later ∧
      bytes = String.utf8EncodeChar c ++ later ∧
      ∀ text, Denotes remaining text → Denotes (piece :: rest) (c :: text) := by
  cases piece with
  | byte value =>
      obtain ⟨later, foundRest, same⟩ := Option.map_eq_some_iff.mp found
      exact .inl ⟨value, later, rfl, foundRest, same.symm⟩
  | unit unit =>
      right
      by_cases single : unit < 0xD800 ∨ 0xE000 ≤ unit
      · rw [bytes?_unit single] at found
        obtain ⟨later, foundRest, same⟩ := Option.map_eq_some_iff.mp found
        exact ⟨_, rest, later, foundRest, same.symm, fun _ => .unit single⟩
      · -- A surrogate is the first of a pair, or the literal stands for nothing.
        unfold bytes? at found
        split at found
        · next high =>
            split at found
            · next low after =>
                split at found
                · next isLow =>
                    obtain ⟨later, foundAfter, same⟩ := Option.map_eq_some_iff.mp found
                    exact ⟨_, after, later, foundAfter, same.symm,
                      fun _ => .pair (isHigh_iff.mp high) (isLow_iff.mp isLow)⟩
                · contradiction
            · contradiction
        · next notHigh =>
            split at found
            · contradiction
            · next notLow =>
                rw [isHigh_iff] at notHigh
                rw [isLow_iff] at notLow
                omega

/-- Bytes within a character stand in a literal as bytes. -/
theorem plain_of_inner {inner later : List UInt8} {literal : Literal}
    (within : ∀ byte ∈ inner, ¬ byte.IsUTF8FirstByte)
    (found : bytes? literal = some (inner ++ later)) :
    ∃ remaining, literal = inner.map .byte ++ remaining ∧ bytes? remaining = some later := by
  induction inner generalizing literal with
  | nil => exact ⟨literal, rfl, found⟩
  | cons byte others ih =>
      obtain ⟨notFirst, othersWithin⟩ := List.forall_mem_cons.mp within
      cases literal with
      | nil => simp [bytes?] at found
      | cons piece rest =>
          rcases bytes?_cons found with ⟨value, after, rfl, foundRest, same⟩ |
            ⟨c, _, after, _, same, _⟩
          · obtain ⟨rfl, rfl⟩ := List.cons.inj same
            obtain ⟨remaining, rfl, foundRemaining⟩ := ih othersWithin foundRest
            exact ⟨remaining, rfl, foundRemaining⟩
          · obtain ⟨first, inner, encoded, isFirst, _⟩ := Text.utf8EncodeChar_cons c
            rw [encoded] at same
            obtain ⟨rfl, _⟩ := List.cons.inj same
            exact absurd isFirst notFirst

theorem denotes_of_found {literal : Literal} {text : List Char}
    (found : bytes? literal = some (encoded text)) :
    Denotes literal text := by
  induction text generalizing literal with
  | nil =>
      cases literal with
      | nil => exact .nil
      | cons piece rest =>
          rcases bytes?_cons found with ⟨_, _, _, _, same⟩ | ⟨c, _, _, _, same, _⟩
          · contradiction
          · exact absurd (List.append_eq_nil_iff.mp same.symm).1 String.utf8EncodeChar_ne_nil
  | cons c text ih =>
      rw [encoded_cons] at found
      obtain ⟨first, inner, encoded, isFirst, within⟩ := Text.utf8EncodeChar_cons c
      cases literal with
      | nil => simp [bytes?, encoded] at found
      | cons piece rest =>
          rcases bytes?_cons found with ⟨value, after, rfl, foundRest, same⟩ |
            ⟨d, remaining, after, foundRemaining, same, denotes⟩
          · rw [encoded] at same
            obtain ⟨rfl, rfl⟩ := List.cons.inj same
            obtain ⟨remaining, rfl, foundRemaining⟩ := plain_of_inner within foundRest
            have whole := Denotes.plain (c := c) (ih foundRemaining)
            rwa [encoded] at whole
          · obtain ⟨rfl, rfl⟩ := Text.utf8EncodeChar_inj same
            exact denotes text (ih foundRemaining)

theorem text?_eq_some {literal : Literal} {text : String} :
    literal.text? = some text ↔ Denotes literal text.toList := by
  simp only [text?, Option.bind_eq_some_iff, Text.fromUTF8?_bytes]
  constructor
  · rintro ⟨_, found, rfl⟩
    exact denotes_of_found found
  · exact fun denotes => ⟨_, denotes.found, rfl⟩

end Deduction.Json.Literal
