import Deduction.Json.Reader

/-!
The grammar of JSON texts, written down beside the reader, and the first half of their agreement:
what the grammar spells, the reader reads. The grammar speaks of finished texts and the reader of
one byte at a time, so a value is followed from a state in which one is awaited to a state in which
it ends. A number ends only where something else begins; until then its state still is a number's.
-/

namespace Deduction.Json

/-! The rules. -/

def Blanks (bytes : List UInt8) : Prop :=
  ∀ byte ∈ bytes, byte ∈ ([0x20, 0x0A, 0x0D, 0x09] : List UInt8)

instance (bytes : List UInt8) : Decidable (Blanks bytes) :=
  List.decidableBAll (fun byte => byte ∈ ([0x20, 0x0A, 0x0D, 0x09] : List UInt8)) bytes

def Digits (bytes : List UInt8) : Prop :=
  ∀ byte ∈ bytes, isDigit byte = true

instance (bytes : List UInt8) : Decidable (Digits bytes) :=
  List.decidableBAll (fun byte => isDigit byte = true) bytes

inductive Sign : List UInt8 → Prop where
  | plain : Sign []
  | minus : Sign [0x2D]

/-- The digits before the point. They begin with a zero only if that is all. -/
inductive Whole : List UInt8 → Prop where
  | zero : Whole [0x30]
  | digits {first : UInt8} {rest : List UInt8} (digit : isDigit first = true)
      (positive : first ≠ 0x30) (digits : Digits rest) : Whole (first :: rest)

inductive Fraction : List UInt8 → Prop where
  | absent : Fraction []
  | digits {first : UInt8} {rest : List UInt8} (digit : isDigit first = true)
      (digits : Digits rest) : Fraction (0x2E :: first :: rest)

inductive ExponentSign : List UInt8 → Prop where
  | absent : ExponentSign []
  | plus : ExponentSign [0x2B]
  | minus : ExponentSign [0x2D]

inductive Exponent : List UInt8 → Prop where
  | absent : Exponent []
  | digits {mark first : UInt8} {sign rest : List UInt8} (marked : mark = 0x65 ∨ mark = 0x45)
      (signed : ExponentSign sign) (digit : isDigit first = true) (digits : Digits rest) :
      Exponent (mark :: (sign ++ first :: rest))

inductive Number : List UInt8 → Prop where
  | parts {sign whole fraction exponent : List UInt8} (signed : Sign sign) (begins : Whole whole)
      (divided : Fraction fraction) (scaled : Exponent exponent) :
      Number (sign ++ (whole ++ (fraction ++ exponent)))

def letters : List (UInt8 × UInt8) :=
  [ (0x22, 0x22), (0x5C, 0x5C), (0x2F, 0x2F), (0x62, 0x08), (0x66, 0x0C), (0x6E, 0x0A),
    (0x72, 0x0D), (0x74, 0x09) ]

def hexDigits : List (UInt8 × Nat) :=
  [ (0x30, 0), (0x31, 1), (0x32, 2), (0x33, 3), (0x34, 4), (0x35, 5), (0x36, 6), (0x37, 7),
    (0x38, 8), (0x39, 9), (0x61, 10), (0x62, 11), (0x63, 12), (0x64, 13), (0x65, 14), (0x66, 15),
    (0x41, 10), (0x42, 11), (0x43, 12), (0x44, 13), (0x45, 14), (0x46, 15) ]

/-- How a piece of a literal is spelled. A byte that is no control, quote or backslash stands for
itself; an escape stands for a byte or for a code unit. -/
inductive SpellsPiece : Piece → List UInt8 → Prop where
  | plain {byte : UInt8} (control : 0x20 ≤ byte) (quote : byte ≠ 0x22) (slash : byte ≠ 0x5C) :
      SpellsPiece (.byte byte) [byte]
  | letter {letter meaning : UInt8} (listed : (letter, meaning) ∈ letters) :
      SpellsPiece (.byte meaning) [0x5C, letter]
  | unit {a b c d : UInt8} {p q r s : Nat} (first : (a, p) ∈ hexDigits)
      (second : (b, q) ∈ hexDigits) (third : (c, r) ∈ hexDigits) (fourth : (d, s) ∈ hexDigits) :
      SpellsPiece (.unit (((p * 16 + q) * 16 + r) * 16 + s)) [0x5C, 0x75, a, b, c, d]

inductive SpellsPieces : Literal → List UInt8 → Prop where
  | nil : SpellsPieces [] []
  | cons {piece : Piece} {rest : Literal} {text others : List UInt8}
      (first : SpellsPiece piece text) (later : SpellsPieces rest others) :
      SpellsPieces (piece :: rest) (text ++ others)

inductive Quoted : Literal → List UInt8 → Prop where
  | quotes {literal : Literal} {inside : List UInt8} (spelled : SpellsPieces literal inside) :
      Quoted literal (0x22 :: (inside ++ [0x22]))

inductive Phrase where
  | value (document : Document)
  /-- A value between blanks. This is what a whole text is. -/
  | text (document : Document)
  /-- The items of an array, at least one, with commas between them. -/
  | items (items : List Document)
  /-- The members of an object, at least one, with commas between them. -/
  | members (members : List Member)

inductive Spells : Phrase → List UInt8 → Prop where
  | null : Spells (.value .null) [0x6E, 0x75, 0x6C, 0x6C]
  | true : Spells (.value (.bool true)) [0x74, 0x72, 0x75, 0x65]
  | false : Spells (.value (.bool false)) [0x66, 0x61, 0x6C, 0x73, 0x65]
  | number {digits : List UInt8} (wellFormed : Number digits) :
      Spells (.value (.number digits)) digits
  | string {literal : Literal} {text : List UInt8} (quoted : Quoted literal text) :
      Spells (.value (.string literal)) text
  | noItems {blanks : List UInt8} (blank : Blanks blanks) :
      Spells (.value (.array [])) (0x5B :: (blanks ++ [0x5D]))
  | array {items : List Document} {inside : List UInt8} (spelled : Spells (.items items) inside) :
      Spells (.value (.array items)) (0x5B :: (inside ++ [0x5D]))
  | noMembers {blanks : List UInt8} (blank : Blanks blanks) :
      Spells (.value (.object [])) (0x7B :: (blanks ++ [0x7D]))
  | object {members : List Member} {inside : List UInt8}
      (spelled : Spells (.members members) inside) :
      Spells (.value (.object members)) (0x7B :: (inside ++ [0x7D]))
  | text {document : Document} {before text after : List UInt8} (blankBefore : Blanks before)
      (spelled : Spells (.value document) text) (blankAfter : Blanks after) :
      Spells (.text document) (before ++ (text ++ after))
  | lastItem {document : Document} {text : List UInt8} (spelled : Spells (.text document) text) :
      Spells (.items [document]) text
  | item {document : Document} {rest : List Document} {text others : List UInt8}
      (spelled : Spells (.text document) text) (later : Spells (.items rest) others) :
      Spells (.items (document :: rest)) (text ++ 0x2C :: others)
  | lastMember {name : Literal} {document : Document} {before quoted after text : List UInt8}
      (blankBefore : Blanks before) (named : Quoted name quoted) (blankAfter : Blanks after)
      (spelled : Spells (.text document) text) :
      Spells (.members [(name, document)]) (before ++ (quoted ++ (after ++ 0x3A :: text)))
  | member {name : Literal} {document : Document} {rest : List Member}
      {before quoted after text others : List UInt8}
      (blankBefore : Blanks before) (named : Quoted name quoted) (blankAfter : Blanks after)
      (spelled : Spells (.text document) text) (later : Spells (.members rest) others) :
      Spells (.members ((name, document) :: rest))
        (before ++ (quoted ++ (after ++ 0x3A :: (text ++ 0x2C :: others))))

/-! Runs of the reader. -/

theorem isSpace_iff {byte : UInt8} :
    isSpace byte = true ↔ byte ∈ ([0x20, 0x0A, 0x0D, 0x09] : List UInt8) := by
  simp [isSpace, or_assoc]

theorem blanks_cons {byte : UInt8} {rest : List UInt8} :
    Blanks (byte :: rest) ↔ isSpace byte = true ∧ Blanks rest := by
  rw [isSpace_iff]
  exact List.forall_mem_cons

theorem run_append (state : State) (front back : List UInt8) :
    run state (front ++ back) = (run state front).bind fun middle => run middle back := by
  induction front generalizing state with
  | nil => rfl
  | cons byte rest ih =>
      simp only [List.cons_append, run]
      cases step state byte with
      | none => rfl
      | some next => exact ih next

theorem run_snoc (state : State) (front : List UInt8) (byte : UInt8) :
    run state (front ++ [byte]) = (run state front).bind fun middle => step middle byte := by
  rw [run_append]
  congr 1
  funext middle
  simp [run]

theorem run_blanks {state : State} {blanks : List UInt8}
    (skips : ∀ byte, isSpace byte = true → step state byte = some state) (blank : Blanks blanks) :
    run state blanks = some state := by
  induction blanks with
  | nil => rfl
  | cons byte rest ih =>
      obtain ⟨space, later⟩ := blanks_cons.mp blank
      simp [run, skips byte space, ih later]

def Mode.AwaitsValue (mode : Mode) : Prop :=
  mode = .value ∨ mode = .firstItem

theorem step_begin {stack : List Frame} {mode : Mode} {byte : UInt8} {next : State}
    (awaits : mode.AwaitsValue) (begun : begin? stack byte = some next) :
    step ⟨stack, mode⟩ byte = some next := by
  have noSpace : isSpace byte = false := by
    rw [Bool.eq_false_iff, Ne, isSpace_iff]
    intro space
    simp only [List.mem_cons, List.not_mem_nil, or_false] at space
    rcases space with rfl | rfl | rfl | rfl <;> simp [begin?, isDigit] at begun
  have noBracket : (byte == 0x5D) = false := by
    rw [beq_eq_false_iff_ne]
    rintro rfl
    simp [begin?, isDigit] at begun
  rcases awaits with rfl | rfl <;> simp [step, noSpace, noBracket, begun]

/-- The states in which a value has been read. A number may still go on. -/
inductive Ends (stack : List Frame) : Document → State → Prop where
  | after (value : Document) : Ends stack value ⟨stack, .after value⟩
  | number {part : NumberPart} (digits : List UInt8) (complete : part.isComplete = true) :
      Ends stack (.number digits) ⟨stack, .number part digits.reverse⟩

def isEnd (byte : UInt8) : Bool :=
  isSpace byte || byte == 0x2C || byte == 0x5D || byte == 0x7D

theorem next?_end {byte : UInt8} (ending : isEnd byte = true) (part : NumberPart) :
    part.next? byte = none := by
  simp only [isEnd, Bool.or_eq_true, beq_iff_eq, isSpace_iff, List.mem_cons, List.not_mem_nil,
    or_false] at ending
  rcases ending with (((rfl | rfl | rfl | rfl) | rfl) | rfl) | rfl <;>
    cases part <;> rfl

theorem Ends.step {stack : List Frame} {value : Document} {state : State} {byte : UInt8}
    (ends : Ends stack value state) (ending : isEnd byte = true) :
    step state byte = follow? stack value byte := by
  cases ends with
  | after => rfl
  | number digits complete => simp [Json.step, next?_end ending, complete]

theorem Ends.run_blanks {stack : List Frame} {value : Document} {state : State}
    {blanks : List UInt8} (ends : Ends stack value state) (blank : Blanks blanks) :
    ∃ next, run state blanks = some next ∧ Ends stack value next := by
  cases blanks with
  | nil => exact ⟨state, rfl, ends⟩
  | cons byte rest =>
      obtain ⟨space, blankRest⟩ := blanks_cons.mp blank
      have first : Json.step state byte = some ⟨stack, .after value⟩ := by
        rw [ends.step (by simp [isEnd, space])]
        simp [follow?, space]
      have later : run ⟨stack, .after value⟩ rest = some ⟨stack, .after value⟩ :=
        Json.run_blanks (fun other space => by simp [Json.step, follow?, space]) blankRest
      exact ⟨_, by simp [run, first, later], .after value⟩

theorem finish_eq_some {value : Document} {state : State} :
    finish state = some value ↔ Ends [] value state := by
  constructor
  · intro finished
    obtain ⟨stack, mode⟩ := state
    unfold finish at finished
    split at finished
    · next bottom after =>
        cases bottom
        cases after
        cases finished
        exact .after value
    · next part digits bottom number =>
        cases bottom
        cases number
        split at finished <;> cases finished
        next complete => simpa using Ends.number (List.reverse digits) complete
    · contradiction
  · rintro (_ | ⟨digits, complete⟩)
    · rfl
    · simp [finish, complete]

theorem run_after (document : Document) (rest : List UInt8) :
    run ⟨[], .after document⟩ rest =
      if Blanks rest then some ⟨[], .after document⟩ else none := by
  induction rest with
  | nil => rfl
  | cons byte rest ih =>
      simp only [run, step, follow?, blanks_cons]
      by_cases space : isSpace byte = true
      · simp only [space, if_true, Option.bind_some, ih, true_and]
      · simp only [space, if_false, Option.bind_none, false_and, Bool.false_eq_true]

/-- A text whose end can be seen goes on with blanks only. The end of a number cannot be seen. -/
theorem read_append {bytes : List UInt8} {document : Document}
    (found : read bytes = some document) (closed : ∀ digits, document ≠ .number digits)
    (rest : List UInt8) :
    read (bytes ++ rest) = if Blanks rest then some document else none := by
  obtain ⟨state, ran, finished⟩ := Option.bind_eq_some_iff.mp found
  have stopped : state = ⟨[], .after document⟩ := by
    cases finish_eq_some.mp finished with
    | after => rfl
    | number digits => exact absurd rfl (closed digits)
  rw [read, run_append, ran, stopped, Option.bind_some, run_after]
  split <;> rfl

/-! Numbers. -/

inductive Advances : NumberPart → List UInt8 → NumberPart → Prop where
  | nil (part : NumberPart) : Advances part [] part
  | cons {part next last : NumberPart} {byte : UInt8} {rest : List UInt8}
      (first : part.next? byte = some next) (later : Advances next rest last) :
      Advances part (byte :: rest) last

theorem Advances.append {part middle last : NumberPart} {front back : List UInt8}
    (first : Advances part front middle) (later : Advances middle back last) :
    Advances part (front ++ back) last := by
  induction first with
  | nil => exact later
  | cons next _ ih => exact .cons next (ih later)

theorem Advances.run {part last : NumberPart} {text : List UInt8}
    (advances : Advances part text last) (stack : List Frame) (done : List UInt8) :
    run ⟨stack, .number part done.reverse⟩ text =
      some ⟨stack, .number last (done ++ text).reverse⟩ := by
  induction advances generalizing done with
  | nil => simp [Json.run]
  | @cons _ _ _ byte _ first _ ih =>
      have pushed : byte :: done.reverse = (done ++ [byte]).reverse := by simp
      simp [Json.run, step, first, pushed, ih, -List.reverse_append]

theorem advances_digits {part : NumberPart} {digits : List UInt8} (digit : Digits digits)
    (repeats : part = .whole ∨ part = .fraction ∨ part = .exponentDigits) :
    Advances part digits part := by
  induction digits with
  | nil => exact .nil part
  | cons byte rest ih =>
      obtain ⟨first, later⟩ := List.forall_mem_cons.mp digit
      have same : part.next? byte = some part := by
        rcases repeats with rfl | rfl | rfl <;> simp [NumberPart.next?, first]
      exact .cons same (ih later)

theorem begin?_whole {first : UInt8} (digit : isDigit first = true) (positive : first ≠ 0x30)
    (stack : List Frame) : begin? stack first = some ⟨stack, .number .whole [first]⟩ := by
  have differs : ∀ other : UInt8, isDigit other = false → (first == other) = false := by
    intro other none
    rw [beq_eq_false_iff_ne]
    rintro rfl
    simp [digit] at none
  simp [begin?, digit, positive, differs 0x22 rfl, differs 0x5B rfl, differs 0x7B rfl,
    differs 0x2D rfl]

theorem begin?_minus (stack : List Frame) :
    begin? stack 0x2D = some ⟨stack, .number .sign [0x2D]⟩ := rfl

-- A number may begin with its whole part or with a sign; from its first digit on it is the same.
theorem whole_advances {whole : List UInt8} (spelled : Whole whole) :
    ∃ first rest part, whole = first :: rest ∧ (part = .zero ∨ part = .whole) ∧
      NumberPart.sign.next? first = some part ∧
      (∀ stack, begin? stack first = some ⟨stack, .number part [first]⟩) ∧
      Advances part rest part := by
  cases spelled with
  | zero => exact ⟨0x30, [], .zero, rfl, .inl rfl, rfl, fun _ => rfl, .nil .zero⟩
  | digits digit positive digits =>
      refine ⟨_, _, .whole, rfl, .inr rfl, ?_, begin?_whole digit positive,
        advances_digits digits (.inl rfl)⟩
      simp [NumberPart.next?, digit, positive]

theorem fraction_advances {part : NumberPart} {fraction : List UInt8}
    (spelled : Fraction fraction) (before : part = .zero ∨ part = .whole) :
    ∃ last, Advances part fraction last ∧ (last = .zero ∨ last = .whole ∨ last = .fraction) := by
  cases spelled with
  | absent => exact ⟨part, .nil part, before.imp id .inl⟩
  | digits digit digits =>
      have point : part.next? 0x2E = some .point := by rcases before with rfl | rfl <;> rfl
      have later := advances_digits digits (.inr (.inl rfl))
      exact ⟨.fraction, .cons point (.cons (if_pos digit) later), .inr (.inr rfl)⟩

theorem exponent_advances {part : NumberPart} {exponent : List UInt8}
    (spelled : Exponent exponent) (before : part = .zero ∨ part = .whole ∨ part = .fraction) :
    ∃ last, Advances part exponent last ∧ last.isComplete = true := by
  cases spelled with
  | absent => exact ⟨part, .nil part, by rcases before with rfl | rfl | rfl <;> rfl⟩
  | @digits mark first _ _ marked signed digit digits =>
      have opened : part.next? mark = some .exponent := by
        rcases before with rfl | rfl | rfl <;> rcases marked with rfl | rfl <;> rfl
      have later := advances_digits digits (.inr (.inr rfl))
      refine ⟨.exponentDigits, .cons opened ?_, rfl⟩
      cases signed with
      | absent =>
          have unsigned : ¬ (first == 0x2B || first == 0x2D) = true := by
            simp only [Bool.or_eq_true, beq_iff_eq]
            rintro (rfl | rfl) <;> contradiction
          have next : NumberPart.exponent.next? first = some .exponentDigits :=
            (if_neg unsigned).trans (if_pos digit)
          exact .cons next later
      | plus | minus => exact .cons rfl (.cons (if_pos digit) later)

theorem Number.run {mode : Mode} {text : List UInt8} (spelled : Number text)
    (awaits : mode.AwaitsValue) (stack : List Frame) :
    ∃ state, run ⟨stack, mode⟩ text = some state ∧ Ends stack (.number text) state := by
  obtain ⟨signed, begins, divided, scaled⟩ := spelled
  obtain ⟨first, rest, part, rfl, before, afterSign, begun, wholeRead⟩ := whole_advances begins
  obtain ⟨middle, fractionRead, beforeExponent⟩ := fraction_advances divided before
  obtain ⟨last, exponentRead, complete⟩ := exponent_advances scaled beforeExponent
  have afterFirst := wholeRead.append (fractionRead.append exponentRead)
  cases signed with
  | plain =>
      refine ⟨_, ?_, .number _ complete⟩
      rw [List.nil_append, List.cons_append, Json.run, step_begin awaits (begun stack)]
      exact afterFirst.run stack [first]
  | minus =>
      refine ⟨_, ?_, .number _ complete⟩
      rw [List.singleton_append, Json.run, step_begin awaits (begin?_minus stack)]
      exact Advances.run (.cons afterSign afterFirst) stack [0x2D]

/-! Literals. -/

theorem hexValue?_of_mem {digit : UInt8} {value : Nat} (listed : (digit, value) ∈ hexDigits) :
    hexValue? digit = some value := by
  have all : ∀ pair ∈ hexDigits, hexValue? pair.1 = some pair.2 := by decide
  exact all _ listed

theorem escaped?_of_mem {letter meaning : UInt8} (listed : (letter, meaning) ∈ letters) :
    (letter == 0x75) = false ∧ escaped? letter = some meaning := by
  have all : letters.all fun pair => pair.1 != 0x75 && escaped? pair.1 == some pair.2 := by decide
  simpa using List.all_eq_true.mp all _ listed

theorem SpellsPiece.run {piece : Piece} {text : List UInt8} (spelled : SpellsPiece piece text)
    (stack : List Frame) (role : Role) (pieces : Literal) :
    run ⟨stack, .string role pieces⟩ text = some ⟨stack, .string role (piece :: pieces)⟩ := by
  cases spelled with
  | plain control quote slash => simp [Json.run, step, quote, slash, UInt8.not_lt.mpr control]
  | letter listed => simp [Json.run, step, escaped?_of_mem listed]
  | unit first second third fourth =>
      simp [Json.run, step, hexValue?_of_mem first, hexValue?_of_mem second,
        hexValue?_of_mem third, hexValue?_of_mem fourth]

theorem SpellsPieces.run {literal : Literal} {text : List UInt8}
    (spelled : SpellsPieces literal text) (stack : List Frame) (role : Role) (pieces : Literal) :
    run ⟨stack, .string role pieces⟩ text =
      some ⟨stack, .string role (literal.reverse ++ pieces)⟩ := by
  induction spelled generalizing pieces with
  | nil => rfl
  | cons first _ ih => simp [run_append, first.run, ih]

/-- A literal, from its opening quote on. -/
theorem Quoted.run {literal : Literal} {text : List UInt8} (quoted : Quoted literal text)
    {state : State} {stack : List Frame} {role : Role}
    (opens : step state 0x22 = some ⟨stack, .string role []⟩) :
    run state text = some (closeString stack role literal.reverse) := by
  obtain ⟨spelled⟩ := quoted
  rw [Json.run, opens, Option.bind_some, run_snoc, spelled.run, List.append_nil, Option.bind_some]
  rfl

/-! Values. -/

def Mode.AwaitsMember (mode : Mode) (read : List Member) : Prop :=
  mode = .member read ∨ mode = .firstMember ∧ read = []

/-- How the reader goes through a phrase. Items and members are followed until they are closed. -/
def Phrase.Reads : Phrase → List UInt8 → Prop
  | .value document, bytes | .text document, bytes =>
      ∀ (stack : List Frame) (mode : Mode), mode.AwaitsValue →
        ∃ state, run ⟨stack, mode⟩ bytes = some state ∧ Ends stack document state
  | .items listed, bytes =>
      ∀ (read : List Document) (outer : List Frame) (mode : Mode), mode.AwaitsValue →
        ∃ state, run ⟨.array read :: outer, mode⟩ bytes = some state ∧
          step state 0x5D = some ⟨outer, .after (.array (read.reverse ++ listed))⟩
  | .members listed, bytes =>
      ∀ (read : List Member) (stack : List Frame) (mode : Mode), mode.AwaitsMember read →
        ∃ state, run ⟨stack, mode⟩ bytes = some state ∧
          step state 0x7D = some ⟨stack, .after (.object (read.reverse ++ listed))⟩

theorem Mode.AwaitsValue.skips {mode : Mode} (awaits : mode.AwaitsValue) (stack : List Frame) :
    ∀ byte, isSpace byte = true → step ⟨stack, mode⟩ byte = some ⟨stack, mode⟩ := by
  intro byte space
  rcases awaits with rfl | rfl <;> simp [step, space]

theorem Mode.AwaitsMember.skips {mode : Mode} {read : List Member}
    (awaits : mode.AwaitsMember read) (stack : List Frame) :
    ∀ byte, isSpace byte = true → step ⟨stack, mode⟩ byte = some ⟨stack, mode⟩ := by
  intro byte space
  rcases awaits with rfl | ⟨rfl, _⟩ <;> simp [step, space]

theorem Mode.AwaitsMember.opens {mode : Mode} {read : List Member}
    (awaits : mode.AwaitsMember read) (stack : List Frame) :
    step ⟨stack, mode⟩ 0x22 = some ⟨stack, .string (.name read) []⟩ := by
  rcases awaits with rfl | ⟨rfl, rfl⟩ <;> rfl

/-- The name of a member, up to the value behind the colon. -/
theorem run_name {mode : Mode} {read : List Member} {name : Literal}
    {before quoted after text : List UInt8} (awaits : mode.AwaitsMember read)
    (blankBefore : Blanks before) (named : Quoted name quoted) (blankAfter : Blanks after)
    (stack : List Frame) :
    run ⟨stack, mode⟩ (before ++ (quoted ++ (after ++ 0x3A :: text))) =
      run ⟨.object read name :: stack, .value⟩ text := by
  have colon : step ⟨stack, .colon read name⟩ 0x3A = some ⟨.object read name :: stack, .value⟩ :=
    rfl
  have skips : ∀ byte, isSpace byte = true →
      step ⟨stack, .colon read name⟩ byte = some ⟨stack, .colon read name⟩ :=
    fun byte space => by simp [step, space]
  have closed : closeString stack (.name read) name.reverse = ⟨stack, .colon read name⟩ := by
    simp [closeString]
  simp only [run_append, run_blanks (awaits.skips stack) blankBefore,
    named.run (awaits.opens stack),
    closed, run_blanks skips blankAfter, Option.bind_some, run, colon]

theorem Spells.reads {phrase : Phrase} {text : List UInt8} (spelled : Spells phrase text) :
    phrase.Reads text := by
  induction spelled with
  | null | true | false =>
      intro stack mode awaits
      exact ⟨_, by rcases awaits with rfl | rfl <;> rfl, .after _⟩
  | number wellFormed =>
      intro stack mode awaits
      exact wellFormed.run awaits stack
  | @string literal _ quoted =>
      intro stack mode awaits
      have opens : begin? stack 0x22 = some ⟨stack, .string .value []⟩ := rfl
      have closed : closeString stack .value literal.reverse =
          ⟨stack, .after (.string literal)⟩ := by
        simp [closeString]
      exact ⟨_, closed ▸ quoted.run (step_begin awaits opens), .after _⟩
  | noItems blank =>
      intro stack mode awaits
      have opens : begin? stack 0x5B = some ⟨.array [] :: stack, .firstItem⟩ := rfl
      refine ⟨⟨stack, .after (.array [])⟩, ?_, .after _⟩
      rw [run, step_begin awaits opens, Option.bind_some, run_append,
        run_blanks (Mode.AwaitsValue.skips (.inr rfl) _) blank]
      rfl
  | array _ ih =>
      intro stack mode awaits
      obtain ⟨state, inside, closes⟩ := ih [] stack .firstItem (.inr rfl)
      have opens : begin? stack 0x5B = some ⟨.array [] :: stack, .firstItem⟩ := rfl
      refine ⟨_, ?_, .after _⟩
      rw [run, step_begin awaits opens, Option.bind_some, run_snoc, inside]
      exact closes
  | noMembers blank =>
      intro stack mode awaits
      have opens : begin? stack 0x7B = some ⟨stack, .firstMember⟩ := rfl
      refine ⟨⟨stack, .after (.object [])⟩, ?_, .after _⟩
      rw [run, step_begin awaits opens, Option.bind_some, run_append,
        run_blanks (Mode.AwaitsMember.skips (.inr ⟨rfl, rfl⟩) _) blank]
      rfl
  | object _ ih =>
      intro stack mode awaits
      obtain ⟨state, inside, closes⟩ := ih [] stack .firstMember (.inr ⟨rfl, rfl⟩)
      have opens : begin? stack 0x7B = some ⟨stack, .firstMember⟩ := rfl
      refine ⟨_, ?_, .after _⟩
      rw [run, step_begin awaits opens, Option.bind_some, run_snoc, inside]
      exact closes
  | text blankBefore _ blankAfter ih =>
      intro stack mode awaits
      obtain ⟨middle, value, ended⟩ := ih stack mode awaits
      obtain ⟨last, skipped, ends⟩ := ended.run_blanks blankAfter
      refine ⟨last, ?_, ends⟩
      rw [run_append, run_blanks (awaits.skips stack) blankBefore, Option.bind_some, run_append,
        value, Option.bind_some, skipped]
  | lastItem _ ih =>
      intro read outer mode awaits
      obtain ⟨state, value, ends⟩ := ih (.array read :: outer) mode awaits
      refine ⟨state, value, ?_⟩
      rw [ends.step rfl]
      simp [follow?, isSpace]
  | item _ _ ih ihLater =>
      intro read outer mode awaits
      obtain ⟨middle, value, ends⟩ := ih (.array read :: outer) mode awaits
      obtain ⟨state, others, closes⟩ := ihLater (_ :: read) outer .value (.inl rfl)
      refine ⟨state, ?_, by simpa using closes⟩
      rw [run_append, value, Option.bind_some, run, ends.step rfl]
      exact others
  | lastMember blankBefore named blankAfter _ ih =>
      intro read stack mode awaits
      obtain ⟨state, value, ends⟩ := ih (.object read _ :: stack) .value (.inl rfl)
      refine ⟨state, (run_name awaits blankBefore named blankAfter stack).trans value, ?_⟩
      rw [ends.step rfl]
      simp [follow?, isSpace]
  | member blankBefore named blankAfter _ _ ih ihLater =>
      intro read stack mode awaits
      obtain ⟨middle, value, ends⟩ := ih (.object read _ :: stack) .value (.inl rfl)
      obtain ⟨state, others, closes⟩ := ihLater (_ :: read) stack (.member _) (.inl rfl)
      refine ⟨state, ?_, by simpa using closes⟩
      rw [run_name awaits blankBefore named blankAfter, run_append, value, Option.bind_some, run,
        ends.step rfl]
      exact others

theorem read_of_spells {document : Document} {bytes : List UInt8}
    (spelled : Spells (.text document) bytes) : read bytes = some document := by
  obtain ⟨state, through, ends⟩ := spelled.reads [] .value (.inl rfl)
  rw [read, start, through]
  exact finish_eq_some.mpr ends

end Deduction.Json
