import Deduction.Proofs.JsonGrammar

/-!
The second half of the agreement between the reader and the grammar: what is read was spelled. For
each state there is a shape that the bytes read so far have. The shape has a part for each array and
object that is open and one for the mode; one byte leads from shape to shape. With the first half, a
text is read exactly if the grammar spells it, and it spells one document only.
-/

namespace Deduction.Json

/-! Numbers. -/

inductive Scanned : NumberPart → List UInt8 → Prop where
  | sign : Scanned .sign [0x2D]
  | zero {sign : List UInt8} (signed : Sign sign) : Scanned .zero (sign ++ [0x30])
  | whole {sign rest : List UInt8} {first : UInt8} (signed : Sign sign)
      (digit : isDigit first = true) (positive : first ≠ 0x30) (digits : Digits rest) :
      Scanned .whole (sign ++ first :: rest)
  | point {sign whole : List UInt8} (signed : Sign sign) (begins : Whole whole) :
      Scanned .point (sign ++ (whole ++ [0x2E]))
  | fraction {sign whole rest : List UInt8} {first : UInt8} (signed : Sign sign)
      (begins : Whole whole) (digit : isDigit first = true) (digits : Digits rest) :
      Scanned .fraction (sign ++ (whole ++ 0x2E :: first :: rest))
  | exponent {sign whole fraction : List UInt8} {mark : UInt8} (signed : Sign sign)
      (begins : Whole whole) (divided : Fraction fraction) (marked : mark = 0x65 ∨ mark = 0x45) :
      Scanned .exponent (sign ++ (whole ++ (fraction ++ [mark])))
  | exponentSign {sign whole fraction second : List UInt8} {mark : UInt8} (signed : Sign sign)
      (begins : Whole whole) (divided : Fraction fraction) (marked : mark = 0x65 ∨ mark = 0x45)
      (signedToo : ExponentSign second) :
      Scanned .exponentSign (sign ++ (whole ++ (fraction ++ mark :: second)))
  | exponentDigits {sign whole fraction second rest : List UInt8} {mark first : UInt8}
      (signed : Sign sign) (begins : Whole whole) (divided : Fraction fraction)
      (marked : mark = 0x65 ∨ mark = 0x45) (signedToo : ExponentSign second)
      (digit : isDigit first = true) (digits : Digits rest) :
      Scanned .exponentDigits (sign ++ (whole ++ (fraction ++ mark :: (second ++ first :: rest))))

theorem digits_nil : Digits [] := nofun

theorem Digits.snoc {digits : List UInt8} {byte : UInt8} (all : Digits digits)
    (digit : isDigit byte = true) : Digits (digits ++ [byte]) := by
  intro other member
  rcases List.mem_append.mp member with old | new
  · exact all other old
  · exact List.mem_singleton.mp new ▸ digit

theorem Scanned.number {part : NumberPart} {text : List UInt8} (scanned : Scanned part text)
    (complete : part.isComplete = true) : Number text := by
  cases scanned with
  | zero signed => simpa using Number.parts signed .zero .absent .absent
  | whole signed digit positive digits =>
      simpa using Number.parts signed (.digits digit positive digits) .absent .absent
  | fraction signed begins digit digits =>
      simpa using Number.parts signed begins (.digits digit digits) .absent
  | exponentDigits signed begins divided marked signedToo digit digits =>
      exact .parts signed begins divided (.digits marked signedToo digit digits)
  | _ => contradiction

theorem mark_of_isExponentMark {byte : UInt8} (marks : NumberPart.isExponentMark byte = true) :
    byte = 0x65 ∨ byte = 0x45 := by
  simpa [NumberPart.isExponentMark] using marks

theorem Scanned.next {part next : NumberPart} {text : List UInt8} {byte : UInt8}
    (scanned : Scanned part text) (advances : part.next? byte = some next) :
    Scanned next (text ++ [byte]) := by
  -- A part of digits goes on with a digit; the point and the marks lead from it to the next part.
  cases scanned <;> simp only [NumberPart.next?] at advances
  case sign =>
    split at advances
    · next zero =>
        cases advances
        exact eq_of_beq zero ▸ .zero .minus
    · next positive =>
        split at advances <;> cases advances
        next digit => exact .whole .minus digit (by simpa using positive) digits_nil
  case zero signed =>
    split at advances
    · next point =>
        cases advances
        simpa [eq_of_beq point] using Scanned.point signed .zero
    · split at advances <;> cases advances
      next marks =>
        simpa using Scanned.exponent signed .zero .absent (mark_of_isExponentMark marks)
  case whole signed digit positive digits =>
    have begins := Whole.digits digit positive digits
    split at advances
    · next another =>
        cases advances
        simpa using Scanned.whole signed digit positive (digits.snoc another)
    · split at advances
      · next point =>
          cases advances
          simpa [eq_of_beq point] using Scanned.point signed begins
      · split at advances <;> cases advances
        next marks =>
          simpa using Scanned.exponent signed begins .absent (mark_of_isExponentMark marks)
  case point signed begins =>
    split at advances <;> cases advances
    next digit => simpa using Scanned.fraction signed begins digit digits_nil
  case fraction signed begins digit digits =>
    split at advances
    · next another =>
        cases advances
        simpa using Scanned.fraction signed begins digit (digits.snoc another)
    · split at advances <;> cases advances
      next marks =>
        simpa using Scanned.exponent signed begins (.digits digit digits)
          (mark_of_isExponentMark marks)
  case exponent signed begins divided marked =>
    split at advances
    · next signs =>
        cases advances
        rcases Bool.or_eq_true_iff.mp signs with plus | minus
        · simpa [eq_of_beq plus] using Scanned.exponentSign signed begins divided marked .plus
        · simpa [eq_of_beq minus] using Scanned.exponentSign signed begins divided marked .minus
    · split at advances <;> cases advances
      next digit =>
        simpa using Scanned.exponentDigits signed begins divided marked .absent digit digits_nil
  case exponentSign signed begins divided marked signedToo =>
    split at advances <;> cases advances
    next digit =>
      simpa using Scanned.exponentDigits signed begins divided marked signedToo digit digits_nil
  case exponentDigits signed begins divided marked signedToo digit digits =>
    split at advances <;> cases advances
    next another =>
      simpa using Scanned.exponentDigits signed begins divided marked signedToo digit
        (digits.snoc another)

/-! Literals. -/

theorem forall_byte {p : UInt8 → Prop} (all : ∀ code : Fin 256, p (UInt8.ofNat code))
    (byte : UInt8) : p byte := by
  simpa using all ⟨byte.toNat, byte.toNat_lt⟩

theorem mem_hexDigits {digit : UInt8} {value : Nat} (found : hexValue? digit = some value) :
    (digit, value) ∈ hexDigits := by
  have listed : ∀ byte, (hexValue? byte).all fun value => (byte, value) ∈ hexDigits :=
    forall_byte (by decide +kernel)
  simpa [found] using listed digit

theorem mem_letters {letter meaning : UInt8} (found : escaped? letter = some meaning) :
    (letter, meaning) ∈ letters := by
  have listed : ∀ byte, (escaped? byte).all fun meaning => (byte, meaning) ∈ letters :=
    forall_byte (by decide +kernel)
  simpa [found] using listed letter

theorem SpellsPieces.snoc {literal : Literal} {text more : List UInt8} {piece : Piece}
    (spelled : SpellsPieces literal text) (last : SpellsPiece piece more) :
    SpellsPieces (literal ++ [piece]) (text ++ more) := by
  induction spelled with
  | nil => simpa using SpellsPieces.cons last .nil
  | cons first _ ih => simpa using SpellsPieces.cons first ih

theorem pieces_nil : SpellsPieces (List.reverse []) [] := .nil

/-- The digits read of a code unit: how many are missing and what the others stand for. -/
inductive HexRead : Nat → Nat → List UInt8 → Prop where
  | none : HexRead 4 0 []
  | one {a : UInt8} {p : Nat} (first : (a, p) ∈ hexDigits) : HexRead 3 p [a]
  | two {a b : UInt8} {p q : Nat} (first : (a, p) ∈ hexDigits) (second : (b, q) ∈ hexDigits) :
      HexRead 2 (p * 16 + q) [a, b]
  | three {a b c : UInt8} {p q r : Nat} (first : (a, p) ∈ hexDigits)
      (second : (b, q) ∈ hexDigits) (third : (c, r) ∈ hexDigits) :
      HexRead 1 ((p * 16 + q) * 16 + r) [a, b, c]

/-! Arrays and objects that are open. -/

/-- The items of an open array that have been read, last first. A comma follows each. -/
inductive ItemsRead : List Document → List UInt8 → Prop where
  | nil : ItemsRead [] []
  | cons {document : Document} {items : List Document} {front text : List UInt8}
      (before : ItemsRead items front) (spelled : Spells (.text document) text) :
      ItemsRead (document :: items) (front ++ (text ++ [0x2C]))

inductive MembersRead : List Member → List UInt8 → Prop where
  | nil : MembersRead [] []
  | cons {name : Literal} {document : Document} {members : List Member}
      {front before quoted after text : List UInt8} (earlier : MembersRead members front)
      (blankBefore : Blanks before) (named : Quoted name quoted) (blankAfter : Blanks after)
      (spelled : Spells (.text document) text) :
      MembersRead ((name, document) :: members)
        (front ++ (before ++ (quoted ++ (after ++ 0x3A :: (text ++ [0x2C])))))

theorem ItemsRead.items {items rest : List Document} {front text : List UInt8}
    (before : ItemsRead items front) (spelled : Spells (.items rest) text) :
    Spells (.items (items.reverse ++ rest)) (front ++ text) := by
  induction before generalizing rest text with
  | nil => exact spelled
  | cons _ item ih => simpa using ih (.item item spelled)

theorem MembersRead.members {members rest : List Member} {front text : List UInt8}
    (before : MembersRead members front) (spelled : Spells (.members rest) text) :
    Spells (.members (members.reverse ++ rest)) (front ++ text) := by
  induction before generalizing rest text with
  | nil => exact spelled
  | cons _ blankBefore named blankAfter value ih =>
      simpa using ih (.member blankBefore named blankAfter value spelled)

inductive Opened : List Frame → List UInt8 → Prop where
  | top : Opened [] []
  | array {outer : List Frame} {items : List Document} {front blanks inside : List UInt8}
      (opened : Opened outer front) (blank : Blanks blanks) (read : ItemsRead items inside) :
      Opened (.array items :: outer) (front ++ (blanks ++ 0x5B :: inside))
  | object {outer : List Frame} {members : List Member} {name : Literal}
      {front blanks inside before quoted after : List UInt8} (opened : Opened outer front)
      (blank : Blanks blanks) (read : MembersRead members inside) (blankBefore : Blanks before)
      (named : Quoted name quoted) (blankAfter : Blanks after) :
      Opened (.object members name :: outer)
        (front ++ (blanks ++ 0x7B :: (inside ++ (before ++ (quoted ++ (after ++ [0x3A]))))))

inductive BeforeQuote : List Frame → Role → List UInt8 → Prop where
  | value {stack : List Frame} {front blanks : List UInt8} (opened : Opened stack front)
      (blank : Blanks blanks) : BeforeQuote stack .value (front ++ blanks)
  | name {stack : List Frame} {members : List Member} {front blanks inside before : List UInt8}
      (opened : Opened stack front) (blank : Blanks blanks) (read : MembersRead members inside)
      (blankBefore : Blanks before) :
      BeforeQuote stack (.name members) (front ++ (blanks ++ 0x7B :: (inside ++ before)))

inductive Reached : State → List UInt8 → Prop where
  | value {stack : List Frame} {front blanks : List UInt8} (opened : Opened stack front)
      (blank : Blanks blanks) : Reached ⟨stack, .value⟩ (front ++ blanks)
  | firstItem {outer : List Frame} {front blanks inside : List UInt8} (opened : Opened outer front)
      (blank : Blanks blanks) (blankInside : Blanks inside) :
      Reached ⟨.array [] :: outer, .firstItem⟩ (front ++ (blanks ++ 0x5B :: inside))
  | firstMember {stack : List Frame} {front blanks inside : List UInt8}
      (opened : Opened stack front) (blank : Blanks blanks) (blankInside : Blanks inside) :
      Reached ⟨stack, .firstMember⟩ (front ++ (blanks ++ 0x7B :: inside))
  | member {stack : List Frame} {members : List Member} {front blanks inside before : List UInt8}
      (opened : Opened stack front) (blank : Blanks blanks) (read : MembersRead members inside)
      (blankBefore : Blanks before) :
      Reached ⟨stack, .member members⟩ (front ++ (blanks ++ 0x7B :: (inside ++ before)))
  | colon {stack : List Frame} {members : List Member} {name : Literal}
      {front blanks inside before quoted after : List UInt8} (opened : Opened stack front)
      (blank : Blanks blanks) (read : MembersRead members inside) (blankBefore : Blanks before)
      (named : Quoted name quoted) (blankAfter : Blanks after) :
      Reached ⟨stack, .colon members name⟩
        (front ++ (blanks ++ 0x7B :: (inside ++ (before ++ (quoted ++ after)))))
  | string {stack : List Frame} {role : Role} {pieces : Literal} {front inside : List UInt8}
      (begins : BeforeQuote stack role front) (spelled : SpellsPieces pieces.reverse inside) :
      Reached ⟨stack, .string role pieces⟩ (front ++ 0x22 :: inside)
  | escape {stack : List Frame} {role : Role} {pieces : Literal} {front inside : List UInt8}
      (begins : BeforeQuote stack role front) (spelled : SpellsPieces pieces.reverse inside) :
      Reached ⟨stack, .escape role pieces⟩ (front ++ 0x22 :: (inside ++ [0x5C]))
  | hex {stack : List Frame} {role : Role} {pieces : Literal} {missing unit : Nat}
      {front inside digits : List UInt8} (begins : BeforeQuote stack role front)
      (spelled : SpellsPieces pieces.reverse inside) (read : HexRead missing unit digits) :
      Reached ⟨stack, .hex role pieces missing unit⟩
        (front ++ 0x22 :: (inside ++ 0x5C :: 0x75 :: digits))
  | word {stack : List Frame} {meaning : Document} {front blanks read missing : List UInt8}
      (opened : Opened stack front) (blank : Blanks blanks)
      (spelled : Spells (.value meaning) (read ++ missing)) :
      Reached ⟨stack, .word missing meaning⟩ (front ++ (blanks ++ read))
  | number {stack : List Frame} {part : NumberPart} {digits front blanks : List UInt8}
      (opened : Opened stack front) (blank : Blanks blanks)
      (scanned : Scanned part digits.reverse) :
      Reached ⟨stack, .number part digits⟩ (front ++ (blanks ++ digits.reverse))
  | after {stack : List Frame} {document : Document} {front text : List UInt8}
      (opened : Opened stack front) (spelled : Spells (.text document) text) :
      Reached ⟨stack, .after document⟩ (front ++ text)

theorem Blanks.snoc {blanks : List UInt8} {byte : UInt8} (blank : Blanks blanks)
    (space : isSpace byte = true) : Blanks (blanks ++ [byte]) := by
  intro other member
  rcases List.mem_append.mp member with old | new
  · exact blank other old
  · exact List.mem_singleton.mp new ▸ isSpace_iff.mp space

theorem blanks_nil : Blanks [] := nofun

theorem Spells.between {document : Document} {blanks text : List UInt8} (blank : Blanks blanks)
    (spelled : Spells (.value document) text) : Spells (.text document) (blanks ++ text) := by
  simpa using Spells.text blank spelled blanks_nil

theorem Spells.bare {document : Document} {text : List UInt8}
    (spelled : Spells (.value document) text) : Spells (.text document) text := by
  simpa using spelled.between blanks_nil

/-- The first byte of a value. -/
theorem Opened.begin {stack : List Frame} {front blanks : List UInt8} {byte : UInt8} {next : State}
    (opened : Opened stack front) (blank : Blanks blanks)
    (begun : begin? stack byte = some next) : Reached next (front ++ (blanks ++ [byte])) := by
  unfold begin? at begun
  split at begun
  next quote =>
    cases begun
    simpa [eq_of_beq quote] using Reached.string (.value opened blank) pieces_nil
  split at begun
  next bracket =>
    cases begun
    simpa [eq_of_beq bracket] using Reached.firstItem opened blank blanks_nil
  split at begun
  next brace =>
    cases begun
    simpa [eq_of_beq brace] using Reached.firstMember opened blank blanks_nil
  split at begun
  next minus =>
    cases begun
    exact Reached.number opened blank (eq_of_beq minus ▸ .sign)
  split at begun
  next zero =>
    cases begun
    exact Reached.number opened blank (eq_of_beq zero ▸ .zero .plain)
  next notZero =>
  split at begun
  next digit =>
    cases begun
    exact Reached.number opened blank (.whole .plain digit (by simpa using notZero) digits_nil)
  split at begun
  next letter =>
    cases begun
    exact Reached.word opened blank (eq_of_beq letter ▸ .null)
  split at begun
  next letter =>
    cases begun
    exact Reached.word opened blank (eq_of_beq letter ▸ .true)
  split at begun
  next letter =>
    cases begun
    exact Reached.word opened blank (eq_of_beq letter ▸ .false)
  contradiction

/-- The byte after a value. -/
theorem Opened.follow {stack : List Frame} {document : Document} {front text : List UInt8}
    {byte : UInt8} {next : State} (opened : Opened stack front)
    (spelled : Spells (.text document) text) (followed : follow? stack document byte = some next) :
    Reached next (front ++ (text ++ [byte])) := by
  unfold follow? at followed
  split at followed
  next space =>
    cases followed
    cases spelled with
    | text blankBefore value blankAfter =>
        simpa using Reached.after opened (.text blankBefore value (blankAfter.snoc space))
  cases opened with
  | top => contradiction
  | array opened blank read =>
      dsimp only at followed
      split at followed
      next comma =>
        cases followed
        simpa [eq_of_beq comma] using
          Reached.value (.array opened blank (.cons read spelled)) blanks_nil
      split at followed <;> cases followed
      next bracket =>
        have value := Spells.array (read.items (.lastItem spelled))
        simpa [eq_of_beq bracket] using Reached.after opened (value.between blank)
  | object opened blank read blankBefore named blankAfter =>
      dsimp only at followed
      split at followed
      next comma =>
        cases followed
        simpa [eq_of_beq comma] using Reached.member opened blank
          (.cons read blankBefore named blankAfter spelled) blanks_nil
      split at followed <;> cases followed
      next brace =>
        have value := Spells.object
          (read.members (.lastMember blankBefore named blankAfter spelled))
        simpa [eq_of_beq brace] using Reached.after opened (value.between blank)

/-- The closing quote of a literal. -/
theorem BeforeQuote.close {stack : List Frame} {role : Role} {pieces : Literal}
    {front inside : List UInt8} (begins : BeforeQuote stack role front)
    (spelled : SpellsPieces pieces.reverse inside) :
    Reached (closeString stack role pieces) (front ++ 0x22 :: (inside ++ [0x22])) := by
  have quoted := Quoted.quotes spelled
  cases begins with
  | value opened blank =>
      simpa [closeString] using Reached.after opened ((Spells.string quoted).between blank)
  | name opened blank read blankBefore =>
      simpa [closeString] using Reached.colon opened blank read blankBefore quoted blanks_nil

/-- A byte within a literal. -/
theorem BeforeQuote.byte {stack : List Frame} {role : Role} {pieces : Literal}
    {front inside : List UInt8} {byte : UInt8} {next : State}
    (begins : BeforeQuote stack role front) (spelled : SpellsPieces pieces.reverse inside)
    (stepped : step ⟨stack, .string role pieces⟩ byte = some next) :
    Reached next (front ++ 0x22 :: (inside ++ [byte])) := by
  simp only [Json.step] at stepped
  split at stepped
  · next quote =>
      cases stepped
      simpa [eq_of_beq quote] using begins.close spelled
  split at stepped
  · next slash =>
      cases stepped
      simpa [eq_of_beq slash] using Reached.escape begins spelled
  split at stepped <;> cases stepped
  next notQuote notSlash notControl =>
    have piece : SpellsPiece (.byte byte) [byte] :=
      .plain (UInt8.not_lt.mp notControl) (by simpa using notQuote) (by simpa using notSlash)
    have extended : SpellsPieces (Piece.byte byte :: pieces).reverse (inside ++ [byte]) :=
      List.reverse_cons ▸ spelled.snoc piece
    exact Reached.string begins extended

/-- A letter of a word. -/
theorem Opened.letter {stack : List Frame} {meaning : Document} {byte : UInt8} {next : State}
    {front blanks read missing : List UInt8} (opened : Opened stack front) (blank : Blanks blanks)
    (spelled : Spells (.value meaning) (read ++ missing))
    (stepped : step ⟨stack, .word missing meaning⟩ byte = some next) :
    Reached next (front ++ (blanks ++ (read ++ [byte]))) := by
  cases missing with
  | nil => contradiction
  | cons letter rest =>
      simp only [Json.step] at stepped
      split at stepped
      · contradiction
      next same =>
      have sameByte : byte = letter := by simpa using same
      subst sameByte
      split at stepped <;> cases stepped
      · next last =>
          rw [List.isEmpty_iff.mp last] at spelled
          exact Reached.after opened (spelled.between blank)
      · have grown : Spells (.value meaning) ((read ++ [byte]) ++ rest) := by simpa using spelled
        exact Reached.word opened blank grown

/-- A byte of a number, or the byte after it. -/
theorem Opened.digit {stack : List Frame} {part : NumberPart} {byte : UInt8} {next : State}
    {digits front blanks : List UInt8} (opened : Opened stack front) (blank : Blanks blanks)
    (scanned : Scanned part digits.reverse)
    (stepped : step ⟨stack, .number part digits⟩ byte = some next) :
    Reached next (front ++ (blanks ++ (digits.reverse ++ [byte]))) := by
  simp only [Json.step] at stepped
  split at stepped
  · next further advances =>
      cases stepped
      have grown : Scanned further (byte :: digits).reverse :=
        List.reverse_cons ▸ scanned.next advances
      simpa using Reached.number opened blank grown
  split at stepped
  · next complete =>
      have value := (Spells.number (scanned.number complete)).between blank
      simpa using opened.follow value stepped
  · contradiction

theorem HexRead.next {stack : List Frame} {role : Role} {pieces : Literal}
    {missing unit value : Nat} {front inside digits : List UInt8} {byte : UInt8}
    (read : HexRead missing unit digits) (begins : BeforeQuote stack role front)
    (spelled : SpellsPieces pieces.reverse inside) (digit : (byte, value) ∈ hexDigits) :
    Reached (if missing ≤ 1 then ⟨stack, .string role (.unit (unit * 16 + value) :: pieces)⟩
        else ⟨stack, .hex role pieces (missing - 1) (unit * 16 + value)⟩)
      (front ++ 0x22 :: (inside ++ 0x5C :: 0x75 :: (digits ++ [byte]))) := by
  cases read with
  | none => simpa using Reached.hex begins spelled (.one digit)
  | one first => exact Reached.hex begins spelled (.two first digit)
  | two first second => exact Reached.hex begins spelled (.three first second digit)
  | three first second third =>
      have extended : SpellsPieces (Piece.unit _ :: pieces).reverse _ :=
        List.reverse_cons ▸ spelled.snoc (.unit first second third digit)
      exact Reached.string begins extended

theorem Reached.step {state next : State} {bytes : List UInt8} {byte : UInt8}
    (reached : Reached state bytes) (stepped : step state byte = some next) :
    Reached next (bytes ++ [byte]) := by
  -- Blanks leave the mode as it is, a last byte completes a part, and any other byte belongs to it.
  cases reached with
  | value opened blank =>
      simp only [Json.step] at stepped
      split at stepped
      · next space =>
          cases stepped
          simpa using Reached.value opened (blank.snoc space)
      · simpa using opened.begin blank stepped
  | firstItem opened blank blankInside =>
      simp only [Json.step] at stepped
      split at stepped
      · next space =>
          cases stepped
          simpa using Reached.firstItem opened blank (blankInside.snoc space)
      · split at stepped
        · next bracket =>
            cases stepped
            simpa [eq_of_beq bracket] using
              Reached.after opened ((Spells.noItems blankInside).between blank)
        · simpa using (Opened.array opened blank .nil).begin blankInside stepped
  | firstMember opened blank blankInside =>
      simp only [Json.step] at stepped
      split at stepped
      · next space =>
          cases stepped
          simpa using Reached.firstMember opened blank (blankInside.snoc space)
      · split at stepped
        · next brace =>
            cases stepped
            simpa [eq_of_beq brace] using
              Reached.after opened ((Spells.noMembers blankInside).between blank)
        · split at stepped <;> cases stepped
          next quote =>
            simpa [eq_of_beq quote] using
              Reached.string (.name opened blank .nil blankInside) pieces_nil
  | member opened blank read blankBefore =>
      simp only [Json.step] at stepped
      split at stepped
      · next space =>
          cases stepped
          simpa using Reached.member opened blank read (blankBefore.snoc space)
      · split at stepped <;> cases stepped
        next quote =>
          simpa [eq_of_beq quote] using
            Reached.string (.name opened blank read blankBefore) pieces_nil
  | colon opened blank read blankBefore named blankAfter =>
      simp only [Json.step] at stepped
      split at stepped
      · next space =>
          cases stepped
          simpa using Reached.colon opened blank read blankBefore named (blankAfter.snoc space)
      · split at stepped <;> cases stepped
        next colon =>
          simpa [eq_of_beq colon] using
            Reached.value (.object opened blank read blankBefore named blankAfter) blanks_nil
  | string begins spelled => simpa using begins.byte spelled stepped
  | escape begins spelled =>
      simp only [Json.step] at stepped
      split at stepped
      · next letter =>
          cases stepped
          simpa [eq_of_beq letter] using Reached.hex begins spelled .none
      · obtain ⟨meaning, found, rfl⟩ := Option.map_eq_some_iff.mp stepped
        have extended : SpellsPieces (Piece.byte meaning :: _).reverse _ :=
          List.reverse_cons ▸ spelled.snoc (.letter (mem_letters found))
        simpa using Reached.string begins extended
  | hex begins spelled read =>
      simp only [Json.step] at stepped
      obtain ⟨value, found, rfl⟩ := Option.map_eq_some_iff.mp stepped
      simpa using read.next begins spelled (mem_hexDigits found)
  | word opened blank spelled => simpa using opened.letter blank spelled stepped
  | number opened blank scanned => simpa using opened.digit blank scanned stepped
  | after opened spelled => simpa using opened.follow spelled stepped

theorem Reached.run {state last : State} {front bytes : List UInt8} (reached : Reached state front)
    (ran : run state bytes = some last) : Reached last (front ++ bytes) := by
  induction bytes generalizing state front with
  | nil =>
      cases ran
      simpa using reached
  | cons byte rest ih =>
      obtain ⟨next, stepped, later⟩ := Option.bind_eq_some_iff.mp ran
      simpa using ih (reached.step stepped) later

theorem spells_of_read {bytes : List UInt8} {document : Document}
    (found : read bytes = some document) : Spells (.text document) bytes := by
  obtain ⟨state, ran, finished⟩ := Option.bind_eq_some_iff.mp found
  have reached : Reached state bytes := (Reached.value .top blanks_nil).run ran
  cases finish_eq_some.mp finished with
  | after =>
      cases reached with
      | after opened spelled =>
          cases opened
          exact spelled
  | number digits complete =>
      cases reached with
      | number opened blank scanned =>
          cases opened
          simpa using (Spells.number (scanned.number complete)).between blank

/-- A text is read as the document that it spells, and refused if it spells none. -/
theorem read_eq_some_iff {bytes : List UInt8} {document : Document} :
    read bytes = some document ↔ Spells (.text document) bytes :=
  ⟨spells_of_read, read_of_spells⟩

end Deduction.Json
