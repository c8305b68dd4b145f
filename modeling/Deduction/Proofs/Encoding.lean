/-!
The bytes of texts. The bytes of a character tell where it ends: only its first byte is a first
byte, and what is encoded is read back whatever follows.
-/

namespace Deduction.Text

def encoded (text : List Char) : List UInt8 :=
  text.flatMap String.utf8EncodeChar

theorem encoded_cons (c : Char) (text : List Char) :
    encoded (c :: text) = String.utf8EncodeChar c ++ encoded text :=
  List.flatMap_cons

theorem encoded_append (front back : List Char) :
    encoded (front ++ back) = encoded front ++ encoded back :=
  List.flatMap_append

theorem toList_loop (content : ByteArray) (position : Nat) (read : List UInt8) :
    ByteArray.toList.loop content position read =
      read.reverse ++ content.data.toList.drop position := by
  fun_induction ByteArray.toList.loop content position read with
  | case1 position read inside ih =>
      have bound : position < content.data.toList.length := by simpa using inside
      rw [ih, List.drop_eq_getElem_cons bound]
      simp [ByteArray.get!, inside]
  | case2 position read outside =>
      have bound : content.data.toList.length ≤ position := by simpa using outside
      rw [List.drop_eq_nil_of_le bound, List.append_nil]

theorem toList_toByteArray (bytes : List UInt8) : bytes.toByteArray.toList = bytes := by
  rw [ByteArray.toList, toList_loop]
  simp

theorem toUTF8_eq (text : String) : text.toUTF8 = (encoded text.toList).toByteArray := by
  rw [String.toUTF8_eq_toByteArray]
  exact (congrArg String.toByteArray String.ofList_toList).symm.trans String.toByteArray_ofList

theorem toList_toUTF8 (text : String) : text.toUTF8.toList = encoded text.toList := by
  rw [toUTF8_eq, toList_toByteArray]

theorem fromUTF8?_eq_some {content : ByteArray} {text : String} :
    String.fromUTF8? content = some text ↔ content = text.toUTF8 := by
  unfold String.fromUTF8?
  constructor
  · intro found
    split at found
    · cases found
      rfl
    · contradiction
  · rintro rfl
    rw [String.toUTF8_eq_toByteArray, dif_pos text.isValidUTF8]
    rfl

theorem fromUTF8?_bytes {bytes : List UInt8} {text : String} :
    String.fromUTF8? ⟨bytes.toArray⟩ = some text ↔ bytes = encoded text.toList := by
  rw [fromUTF8?_eq_some, toUTF8_eq, ByteArray.ext_iff, List.data_toByteArray]
  exact ⟨List.toArray_inj, congrArg List.toArray⟩

theorem utf8EncodeChar_inj {c d : Char} {front back : List UInt8}
    (same : String.utf8EncodeChar c ++ front = String.utf8EncodeChar d ++ back) :
    c = d ∧ front = back := by
  have sameBytes := congrArg List.toByteArray same
  simp only [List.toByteArray_append] at sameBytes
  have first := ByteArray.utf8DecodeChar?_utf8EncodeChar_append (b := front.toByteArray) (c := c)
  rw [sameBytes, ByteArray.utf8DecodeChar?_utf8EncodeChar_append] at first
  cases first
  exact ⟨rfl, List.append_cancel_left same⟩

theorem utf8EncodeChar_cons (c : Char) :
    ∃ first rest, String.utf8EncodeChar c = first :: rest ∧ first.IsUTF8FirstByte ∧
      ∀ byte ∈ rest, ¬ byte.IsUTF8FirstByte := by
  have only : ∀ (i : Nat) (h : i < (String.utf8EncodeChar c).length),
      (String.utf8EncodeChar c)[i].IsUTF8FirstByte ↔ i = 0 :=
    fun _ _ => UInt8.isUTF8FirstByte_getElem_utf8EncodeChar
  cases encoded : String.utf8EncodeChar c with
  | nil => exact absurd encoded String.utf8EncodeChar_ne_nil
  | cons first rest =>
      simp only [encoded] at only
      refine ⟨first, rest, rfl, (only 0 (Nat.succ_pos _)).mpr rfl, ?_⟩
      intro byte member
      obtain ⟨position, bound, rfl⟩ := List.mem_iff_getElem.mp member
      exact fun isFirst => nomatch (only (position + 1) (Nat.succ_lt_succ bound)).mp isFirst

/-- A byte of a character is all of it, or it is none of the seven bits. -/
theorem utf8EncodeChar_bytes {c : Char} {byte : UInt8} (member : byte ∈ String.utf8EncodeChar c) :
    byte.toNat = c.toNat ∨ 0x80 ≤ byte.toNat := by
  have value : c.val.toNat = c.toNat := rfl
  simp only [String.utf8EncodeChar, value] at member
  split at member
  · left
    rw [List.mem_singleton.mp member, UInt8.toNat_ofNat']
    omega
  right
  split at member
  · simp only [List.mem_cons, List.not_mem_nil, or_false] at member
    rcases member with rfl | rfl <;> rw [UInt8.toNat_ofNat'] <;> omega
  split at member <;> simp only [List.mem_cons, List.not_mem_nil, or_false] at member
  · rcases member with rfl | rfl | rfl <;> rw [UInt8.toNat_ofNat'] <;> omega
  · rcases member with rfl | rfl | rfl | rfl <;> rw [UInt8.toNat_ofNat'] <;> omega

theorem utf8EncodeChar_ofUInt8 {byte : UInt8} (ascii : byte.toNat < 0x80) :
    String.utf8EncodeChar (Char.ofUInt8 byte) = [byte] := by
  have value : (Char.ofUInt8 byte).val.toNat = byte.toNat := rfl
  simp [String.utf8EncodeChar, value, Nat.le_of_lt_succ ascii]

end Deduction.Text
