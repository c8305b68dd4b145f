import Deduction.Json.Document
import Deduction.Proofs.JsonReading
import Deduction.Proofs.LiteralTexts

/-!
Documents written and read again. The text of a document spells it: the escapes of the writer are
escapes of the grammar, and everything else stands for itself. So the reader gives the document
back, with literals for texts, and each literal denotes the text that it was written for.
-/

namespace Deduction.Json

open Text (encoded encoded_cons encoded_append)

/-! What a document says. -/

mutual

/-- A document with the texts that its literals denote. A literal that denotes none spoils it. -/
def Value.texts? : Document → Option (Value String)
  | .null => some .null
  | .bool value => some (.bool value)
  | .number digits => some (.number digits)
  | .string literal => literal.text?.map .string
  | .array items => (itemTexts? items).map .array
  | .object members => (memberTexts? members).map .object

def itemTexts? : List Document → Option (List (Value String))
  | [] => some []
  | item :: rest => item.texts?.bind fun said => (itemTexts? rest).map (said :: ·)

def memberTexts? : List Member → Option (List (String × Value String))
  | [] => some []
  | (literal, value) :: rest =>
      literal.text?.bind fun name => value.texts?.bind fun said =>
        (memberTexts? rest).map ((name, said) :: ·)

end

mutual

def Value.Numeric : Value String → Prop
  | .number digits => Number digits
  | .array items => ItemsNumeric items
  | .object members => MembersNumeric members
  | _ => True

def ItemsNumeric : List (Value String) → Prop
  | [] => True
  | item :: rest => item.Numeric ∧ ItemsNumeric rest

def MembersNumeric : List (String × Value String) → Prop
  | [] => True
  | (_, value) :: rest => value.Numeric ∧ MembersNumeric rest

end

/-! Characters. -/

theorem encoded_byte (c : Char) (byte : UInt8) (single : String.utf8EncodeChar c = [byte])
    (text : List Char) : encoded (c :: text) = byte :: encoded text := by
  rw [encoded_cons, single, List.singleton_append]

theorem SpellsPieces.append {front back : Literal} {text others : List UInt8}
    (first : SpellsPieces front text) (later : SpellsPieces back others) :
    SpellsPieces (front ++ back) (text ++ others) := by
  induction first with
  | nil => exact later
  | cons piece _ ih => simpa using SpellsPieces.cons piece ih

theorem spellsPieces_plain {bytes : List UInt8}
    (plain : ∀ byte ∈ bytes, 0x20 ≤ byte ∧ byte ≠ 0x22 ∧ byte ≠ 0x5C) :
    SpellsPieces (bytes.map .byte) bytes := by
  induction bytes with
  | nil => exact .nil
  | cons byte rest ih =>
      obtain ⟨⟨control, quote, slash⟩, later⟩ := List.forall_mem_cons.mp plain
      exact .cons (.plain control quote slash) (ih later)

/-- Bytes that may stand in a literal for a character: they are read as pieces that give it. -/
def SpellsChar (c : Char) (bytes : List UInt8) : Prop :=
  ∃ pieces, SpellsPieces pieces bytes ∧
    ∀ rest text, Literal.Denotes rest text → Literal.Denotes (pieces ++ rest) (c :: text)

theorem letter_spells (c letter : Char) {meaning byte : UInt8}
    (means : String.utf8EncodeChar c = [meaning]) (single : String.utf8EncodeChar letter = [byte])
    (listed : (byte, meaning) ∈ letters) : SpellsChar c (encoded ['\\', letter]) := by
  refine ⟨[.byte meaning], ?_, fun rest text denotes => ?_⟩
  · rw [encoded_byte '\\' 0x5C rfl, encoded_byte letter byte single]
    exact .cons (.letter listed) .nil
  · have plain := Literal.Denotes.plain (c := c) denotes
    rwa [means] at plain

theorem hexDigit_listed {value : Nat} (small : value < 16) :
    ∃ byte, String.utf8EncodeChar (hexDigit value) = [byte] ∧ (byte, value) ∈ hexDigits := by
  have all : ∀ value < 16,
      String.utf8EncodeChar (hexDigit value) = [UInt8.ofNat (hexDigit value).toNat] ∧
        (UInt8.ofNat (hexDigit value).toNat, value) ∈ hexDigits := by decide
  exact ⟨_, all value small⟩

theorem control_spells {c : Char} (control : c.toNat < 0x20) :
    SpellsChar c
      (encoded ['\\', 'u', '0', '0', hexDigit (c.toNat / 16), hexDigit (c.toNat % 16)]) := by
  obtain ⟨third, thirdSingle, thirdListed⟩ := hexDigit_listed (by omega : c.toNat / 16 < 16)
  obtain ⟨fourth, fourthSingle, fourthListed⟩ :=
    hexDigit_listed (Nat.mod_lt c.toNat (by decide : 0 < 16))
  have zero : ((0x30 : UInt8), 0) ∈ hexDigits := by decide
  refine ⟨[.unit c.toNat], ?_, fun rest text denotes => ?_⟩
  · have piece := SpellsPiece.unit zero zero thirdListed fourthListed
    have value : ((0 * 16 + 0) * 16 + c.toNat / 16) * 16 + c.toNat % 16 = c.toNat := by omega
    rw [value] at piece
    rw [encoded_byte '\\' 0x5C rfl, encoded_byte 'u' 0x75 rfl, encoded_byte '0' 0x30 rfl,
      encoded_byte '0' 0x30 rfl, encoded_byte _ third thirdSingle,
      encoded_byte _ fourth fourthSingle]
    exact .cons piece .nil
  · have unit := Literal.Denotes.unit (.inl (by omega : c.toNat < 0xD800)) denotes
    rwa [Char.ofNat_toNat] at unit

theorem raw_spells {c : Char} (control : ¬ c.toNat < 0x20) (quote : c ≠ '"') (slash : c ≠ '\\') :
    SpellsChar c (encoded [c]) := by
  refine ⟨(String.utf8EncodeChar c).map .byte, ?_, fun _ _ => .plain⟩
  rw [encoded_cons, encoded, List.flatMap_nil, List.append_nil]
  apply spellsPieces_plain
  have notQuote : c.toNat ≠ 0x22 := fun same => quote (Char.toNat_inj.mp same)
  have notSlash : c.toNat ≠ 0x5C := fun same => slash (Char.toNat_inj.mp same)
  intro byte member
  have value := Text.utf8EncodeChar_bytes member
  rw [UInt8.le_iff_toNat_le, Ne, Ne, ← UInt8.toNat_inj, ← UInt8.toNat_inj]
  change 32 ≤ byte.toNat ∧ ¬ byte.toNat = 34 ∧ ¬ byte.toNat = 92
  omega

theorem escape_spells (c : Char) : SpellsChar c (encoded (escape c)) := by
  unfold escape
  split
  · next same => exact same ▸ letter_spells '"' '"' rfl rfl (by decide)
  split
  · next same => exact same ▸ letter_spells '\\' '\\' rfl rfl (by decide)
  split
  · next same => exact same ▸ letter_spells '\x08' 'b' rfl rfl (by decide)
  split
  · next same => exact same ▸ letter_spells '\x0c' 'f' rfl rfl (by decide)
  split
  · next same => exact same ▸ letter_spells '\n' 'n' rfl rfl (by decide)
  split
  · next same => exact same ▸ letter_spells '\r' 'r' rfl rfl (by decide)
  split
  · next same => exact same ▸ letter_spells '\t' 't' rfl rfl (by decide)
  split
  · next control => exact control_spells control
  · next control => exact raw_spells control ‹_› ‹_›

theorem quote_spells (text : String) :
    ∃ literal, Quoted literal (encoded (quote text)) ∧ literal.text? = some text := by
  have inside : ∀ characters : List Char, ∃ literal,
      SpellsPieces literal (encoded (characters.flatMap escape)) ∧
        Literal.Denotes literal characters := by
    intro characters
    induction characters with
    | nil => exact ⟨[], .nil, .nil⟩
    | cons c rest ih =>
        obtain ⟨pieces, spelled, denotes⟩ := escape_spells c
        obtain ⟨literal, spelledRest, denotesRest⟩ := ih
        refine ⟨pieces ++ literal, ?_, denotes literal rest denotesRest⟩
        rw [List.flatMap_cons, encoded_append]
        exact spelled.append spelledRest
  obtain ⟨literal, spelled, denotes⟩ := inside text.toList
  refine ⟨literal, ?_, Literal.text?_eq_some.mpr denotes⟩
  rw [quote, encoded_byte '"' 0x22 rfl, encoded_append]
  exact .quotes spelled

/-! Numbers. -/

theorem Digits.ascii {digits : List UInt8} (all : Digits digits) :
    ∀ byte ∈ digits, byte.toNat < 0x80 := by
  intro byte member
  have digit := all byte member
  simp only [isDigit, Bool.and_eq_true, decide_eq_true_eq, UInt8.le_iff_toNat_le] at digit
  exact Nat.lt_of_le_of_lt digit.2 (by decide)

theorem Sign.ascii {sign : List UInt8} (signed : Sign sign) : ∀ byte ∈ sign, byte.toNat < 0x80 := by
  cases signed <;> simp

theorem Whole.ascii {digits : List UInt8} (whole : Whole digits) :
    ∀ byte ∈ digits, byte.toNat < 0x80 := by
  cases whole with
  | zero => simp
  | digits digit _ later => exact Digits.ascii (List.forall_mem_cons.mpr ⟨digit, later⟩)

theorem Fraction.ascii {digits : List UInt8} (fraction : Fraction digits) :
    ∀ byte ∈ digits, byte.toNat < 0x80 := by
  cases fraction with
  | absent => simp
  | digits digit later =>
      exact List.forall_mem_cons.mpr
        ⟨by decide, Digits.ascii (List.forall_mem_cons.mpr ⟨digit, later⟩)⟩

theorem ExponentSign.ascii {sign : List UInt8} (signed : ExponentSign sign) :
    ∀ byte ∈ sign, byte.toNat < 0x80 := by
  cases signed <;> simp

theorem Exponent.ascii {digits : List UInt8} (exponent : Exponent digits) :
    ∀ byte ∈ digits, byte.toNat < 0x80 := by
  cases exponent with
  | absent => simp
  | digits marked signed digit later =>
      refine List.forall_mem_cons.mpr ⟨?_, List.forall_mem_append.mpr ⟨signed.ascii, ?_⟩⟩
      · rcases marked with rfl | rfl <;> decide
      · exact Digits.ascii (List.forall_mem_cons.mpr ⟨digit, later⟩)

theorem Number.ascii {digits : List UInt8} (number : Number digits) :
    ∀ byte ∈ digits, byte.toNat < 0x80 := by
  obtain ⟨signed, begins, divided, scaled⟩ := number
  simp only [List.forall_mem_append]
  exact ⟨signed.ascii, begins.ascii, divided.ascii, scaled.ascii⟩

theorem encoded_number {digits : List UInt8} (number : Number digits) :
    encoded (digits.map fun digit => Char.ofUInt8 digit) = digits := by
  have ascii := number.ascii
  clear number
  induction digits with
  | nil => rfl
  | cons digit rest ih =>
      obtain ⟨first, later⟩ := List.forall_mem_cons.mp ascii
      rw [List.map_cons, encoded_byte _ digit (Text.utf8EncodeChar_ofUInt8 first), ih later]

/-! Documents. -/

mutual

theorem write_spells : ∀ {value : Value String}, value.Numeric →
    ∃ document, Spells (.text document) (encoded value.write) ∧ document.texts? = some value
  | .null, _ => ⟨.null, Spells.null.bare, rfl⟩
  | .bool true, _ => ⟨.bool true, Spells.true.bare, rfl⟩
  | .bool false, _ => ⟨.bool false, Spells.false.bare, rfl⟩
  | .number digits, numeric => by
      refine ⟨.number digits, ?_, rfl⟩
      rw [Value.write, encoded_number numeric]
      exact (Spells.number numeric).bare
  | .string text, _ => by
      obtain ⟨literal, quoted, denotes⟩ := quote_spells text
      exact ⟨.string literal, (Spells.string quoted).bare, by simp [Value.texts?, denotes]⟩
  | .array [], _ => ⟨.array [], (Spells.noItems blanks_nil).bare, rfl⟩
  | .array (item :: rest), numeric => by
      obtain ⟨document, spelled, said⟩ := write_spells numeric.1
      obtain ⟨documents, inside, text, saidRest, later⟩ := writeItems_spells numeric.2
      refine ⟨.array (document :: documents), ?_,
        by simp [Value.texts?, itemTexts?, said, saidRest]⟩
      rw [Value.write, encoded_byte '[' 0x5B rfl, encoded_append, text, ← List.append_assoc]
      exact (Spells.array (later document _ spelled)).bare
  | .object [], _ => ⟨.object [], (Spells.noMembers blanks_nil).bare, rfl⟩
  | .object ((name, value) :: rest), numeric => by
      obtain ⟨literal, named, denotes⟩ := quote_spells name
      obtain ⟨document, spelled, said⟩ := write_spells numeric.1
      obtain ⟨members, inside, text, saidRest, later⟩ := writeMembers_spells numeric.2
      refine ⟨.object ((literal, document) :: members), ?_,
        by simp [Value.texts?, memberTexts?, denotes, said, saidRest]⟩
      have spelledAll := Spells.object (later literal _ document _ named spelled)
      rw [Value.write, encoded_byte '\x7b' 0x7B rfl, encoded_append, encoded_byte ':' 0x3A rfl,
        encoded_append, text]
      simpa using spelledAll.bare

-- The writer puts a comma before an item and the grammar behind one. So what is written of the
-- later items is shown to follow any first item.
theorem writeItems_spells : ∀ {items : List (Value String)}, ItemsNumeric items →
    ∃ documents inside, encoded (writeItems items) = inside ++ [0x5D] ∧
      itemTexts? documents = some items ∧
      ∀ document text, Spells (.text document) text →
        Spells (.items (document :: documents)) (text ++ inside)
  | [], _ => ⟨[], [], rfl, rfl, fun _ _ spelled => by simpa using Spells.lastItem spelled⟩
  | item :: rest, numeric => by
      obtain ⟨document, spelled, said⟩ := write_spells numeric.1
      obtain ⟨documents, inside, text, saidRest, later⟩ := writeItems_spells numeric.2
      refine ⟨document :: documents, 0x2C :: (encoded item.write ++ inside), ?_,
        by simp [itemTexts?, said, saidRest], fun first _ before => ?_⟩
      · rw [writeItems, encoded_byte ',' 0x2C rfl, encoded_append, text, ← List.append_assoc,
          List.cons_append]
      · exact .item before (later document _ spelled)

theorem writeMembers_spells : ∀ {members : List (String × Value String)}, MembersNumeric members →
    ∃ read inside, encoded (writeMembers members) = inside ++ [0x7D] ∧
      memberTexts? read = some members ∧
      ∀ name quoted document text, Quoted name quoted → Spells (.text document) text →
        Spells (.members ((name, document) :: read)) (quoted ++ 0x3A :: (text ++ inside))
  | [], _ => ⟨[], [], rfl, rfl, fun _ _ _ _ named spelled => by
      simpa using Spells.lastMember blanks_nil named blanks_nil spelled⟩
  | (name, value) :: rest, numeric => by
      obtain ⟨literal, named, denotes⟩ := quote_spells name
      obtain ⟨document, spelled, said⟩ := write_spells numeric.1
      obtain ⟨read, inside, text, saidRest, later⟩ := writeMembers_spells numeric.2
      refine ⟨(literal, document) :: read,
        0x2C :: (encoded (quote name) ++ 0x3A :: (encoded value.write ++ inside)), ?_,
        by simp [memberTexts?, denotes, said, saidRest], fun first _ _ _ firstNamed before => ?_⟩
      · rw [writeMembers, encoded_byte ',' 0x2C rfl, encoded_append, encoded_byte ':' 0x3A rfl,
          encoded_append, text]
        simp
      · have laterMembers := later literal _ document _ named spelled
        simpa using Spells.member blanks_nil firstNamed blanks_nil before laterMembers

end

end Deduction.Json
