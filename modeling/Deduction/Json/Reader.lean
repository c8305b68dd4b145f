import Deduction.Json.Document

/-!
Reading JSON, strictly: one document, blanks around its tokens, nothing after it. The reader is a
machine that takes one byte at a time. Its state is a stack of the arrays and objects that are open
and a mode, which says what may come next. Nesting is limited by nothing but the length of the
text. Literals are checked for their syntax only; `Literal.text?` says which of them are texts.
-/

namespace Deduction.Json

abbrev Document := Value Literal

abbrev Member := Literal × Document

/-- An array or object that is open, with what was read of it, last first. -/
inductive Frame where
  | array (items : List Document)
  /-- The value of the member with this name is being read. -/
  | object (members : List Member) (name : Literal)

inductive Role where
  | value
  /-- The name of a member, after the members read so far. -/
  | name (members : List Member)

inductive NumberPart where
  | sign
  | zero
  | whole
  | point
  | fraction
  | exponent
  | exponentSign
  | exponentDigits
deriving DecidableEq

inductive Mode where
  | value
  /-- A value, or the end of an array that has just begun. -/
  | firstItem
  /-- A member, or the end of an object that has just begun. -/
  | firstMember
  | member (members : List Member)
  | colon (members : List Member) (name : Literal)
  | string (role : Role) (pieces : Literal)
  | escape (role : Role) (pieces : Literal)
  /-- So many more hexadecimal digits of a code unit. -/
  | hex (role : Role) (pieces : Literal) (missing : Nat) (unit : Nat)
  | word (letters : List UInt8) (meaning : Document)
  | number (part : NumberPart) (digits : List UInt8)
  /-- What follows a complete value: a comma or a closing bracket, or the end of the text. -/
  | after (value : Document)

structure State where
  stack : List Frame
  mode : Mode

def isSpace (byte : UInt8) : Bool :=
  byte == 0x20 || byte == 0x0A || byte == 0x0D || byte == 0x09

def isDigit (byte : UInt8) : Bool :=
  0x30 ≤ byte && byte ≤ 0x39

def hexValue? (byte : UInt8) : Option Nat :=
  if isDigit byte then some (byte.toNat - 0x30)
  else if 0x41 ≤ byte && byte ≤ 0x46 then some (byte.toNat - 0x37)
  else if 0x61 ≤ byte && byte ≤ 0x66 then some (byte.toNat - 0x57)
  else none

def escaped? (letter : UInt8) : Option UInt8 :=
  if letter == 0x22 || letter == 0x5C || letter == 0x2F then some letter
  else if letter == 0x62 then some 0x08
  else if letter == 0x66 then some 0x0C
  else if letter == 0x6E then some 0x0A
  else if letter == 0x72 then some 0x0D
  else if letter == 0x74 then some 0x09
  else none

namespace NumberPart

def isComplete : NumberPart → Bool
  | zero | whole | fraction | exponentDigits => true
  | _ => false

def isExponentMark (byte : UInt8) : Bool :=
  byte == 0x65 || byte == 0x45

/-- The part that a byte leads to, if the number goes on with it. A leading zero stands alone. -/
def next? (part : NumberPart) (byte : UInt8) : Option NumberPart :=
  match part with
  | sign => if byte == 0x30 then some zero else if isDigit byte then some whole else none
  | zero =>
      if byte == 0x2E then some point else if isExponentMark byte then some exponent else none
  | whole =>
      if isDigit byte then some whole
      else if byte == 0x2E then some point
      else if isExponentMark byte then some exponent
      else none
  | point => if isDigit byte then some fraction else none
  | fraction =>
      if isDigit byte then some fraction else if isExponentMark byte then some exponent else none
  | exponent =>
      if byte == 0x2B || byte == 0x2D then some exponentSign
      else if isDigit byte then some exponentDigits
      else none
  | exponentSign => if isDigit byte then some exponentDigits else none
  | exponentDigits => if isDigit byte then some exponentDigits else none

end NumberPart

def begin? (stack : List Frame) (byte : UInt8) : Option State :=
  if byte == 0x22 then some ⟨stack, .string .value []⟩
  else if byte == 0x5B then some ⟨.array [] :: stack, .firstItem⟩
  else if byte == 0x7B then some ⟨stack, .firstMember⟩
  else if byte == 0x2D then some ⟨stack, .number .sign [byte]⟩
  else if byte == 0x30 then some ⟨stack, .number .zero [byte]⟩
  else if isDigit byte then some ⟨stack, .number .whole [byte]⟩
  else if byte == 0x6E then some ⟨stack, .word [0x75, 0x6C, 0x6C] .null⟩
  else if byte == 0x74 then some ⟨stack, .word [0x72, 0x75, 0x65] (.bool true)⟩
  else if byte == 0x66 then some ⟨stack, .word [0x61, 0x6C, 0x73, 0x65] (.bool false)⟩
  else none

/-- The state after a complete string literal; the pieces are given last first. -/
def closeString (stack : List Frame) (role : Role) (pieces : Literal) : State :=
  match role with
  | .value => ⟨stack, .after (.string pieces.reverse)⟩
  | .name members => ⟨stack, .colon members pieces.reverse⟩

def follow? (stack : List Frame) (value : Document) (byte : UInt8) : Option State :=
  if isSpace byte then some ⟨stack, .after value⟩
  else
    match stack with
    | [] => none
    | .array items :: outer =>
        if byte == 0x2C then some ⟨.array (value :: items) :: outer, .value⟩
        else if byte == 0x5D then some ⟨outer, .after (.array (value :: items).reverse)⟩
        else none
    | .object members name :: outer =>
        if byte == 0x2C then some ⟨outer, .member ((name, value) :: members)⟩
        else if byte == 0x7D then
          some ⟨outer, .after (.object ((name, value) :: members).reverse)⟩
        else none

def step (state : State) (byte : UInt8) : Option State :=
  let stack := state.stack
  match state.mode with
  | .value => if isSpace byte then some state else begin? stack byte
  | .firstItem =>
      if isSpace byte then some state
      else if byte == 0x5D then some ⟨stack.tail, .after (.array [])⟩
      else begin? stack byte
  | .firstMember =>
      if isSpace byte then some state
      else if byte == 0x7D then some ⟨stack, .after (.object [])⟩
      else if byte == 0x22 then some ⟨stack, .string (.name []) []⟩
      else none
  | .member members =>
      if isSpace byte then some state
      else if byte == 0x22 then some ⟨stack, .string (.name members) []⟩
      else none
  | .colon members name =>
      if isSpace byte then some state
      else if byte == 0x3A then some ⟨.object members name :: stack, .value⟩
      else none
  | .string role pieces =>
      if byte == 0x22 then some (closeString stack role pieces)
      else if byte == 0x5C then some ⟨stack, .escape role pieces⟩
      else if byte < 0x20 then none
      else some ⟨stack, .string role (.byte byte :: pieces)⟩
  | .escape role pieces =>
      if byte == 0x75 then some ⟨stack, .hex role pieces 4 0⟩
      else (escaped? byte).map fun meaning => ⟨stack, .string role (.byte meaning :: pieces)⟩
  | .hex role pieces missing unit =>
      (hexValue? byte).map fun digit =>
        if missing ≤ 1 then ⟨stack, .string role (.unit (unit * 16 + digit) :: pieces)⟩
        else ⟨stack, .hex role pieces (missing - 1) (unit * 16 + digit)⟩
  | .word letters meaning =>
      match letters with
      | [] => none
      | letter :: rest =>
          if byte != letter then none
          else if rest.isEmpty then some ⟨stack, .after meaning⟩
          else some ⟨stack, .word rest meaning⟩
  | .number part digits =>
      match part.next? byte with
      | some next => some ⟨stack, .number next (byte :: digits)⟩
      | none => if part.isComplete then follow? stack (.number digits.reverse) byte else none
  | .after value => follow? stack value byte

def run (state : State) : List UInt8 → Option State
  | [] => some state
  | byte :: rest => (step state byte).bind fun next => run next rest

def start : State :=
  ⟨[], .value⟩

def finish (state : State) : Option Document :=
  match state.stack, state.mode with
  | [], .after value => some value
  | [], .number part digits => if part.isComplete then some (.number digits.reverse) else none
  | _, _ => none

def read (bytes : List UInt8) : Option Document :=
  (run start bytes).bind finish

end Deduction.Json
