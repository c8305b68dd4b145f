/-!
JSON documents and their compact text. The type of strings is a parameter: a document that is made
has proper texts, a document that was read has string literals, which need not all denote texts.
Numbers are kept as they are written, and the members of an object keep their order and may repeat a
name.

A literal is a list of pieces: bytes, and code units that were given by four hexadecimal digits. It
denotes a text when its code units are characters or come in surrogate pairs and when its bytes are
UTF-8.

The compact text has no blanks. In a string the quote, the backslash and the controls below the
blank are escaped, the five commonest by a letter; every other character stands for itself.
-/

namespace Deduction.Json

inductive Value (σ : Type) where
  | null
  | bool (value : Bool)
  | number (digits : List UInt8)
  | string (text : σ)
  | array (items : List (Value σ))
  | object (members : List (σ × Value σ))

/-- An escape of one letter counts as the byte that it stands for. -/
inductive Piece where
  | byte (value : UInt8)
  | unit (value : Nat)
deriving DecidableEq

abbrev Literal := List Piece

namespace Literal

def isHigh (unit : Nat) : Bool :=
  0xD800 ≤ unit && unit < 0xDC00

def isLow (unit : Nat) : Bool :=
  0xDC00 ≤ unit && unit < 0xE000

def pair (high low : Nat) : Char :=
  Char.ofNat (0x10000 + (high - 0xD800) * 0x400 + (low - 0xDC00))

/-- A surrogate without its partner stands for nothing. -/
def bytes? : Literal → Option (List UInt8)
  | [] => some []
  | .byte value :: rest => (bytes? rest).map (value :: ·)
  | .unit unit :: rest =>
      if isHigh unit then
        match rest with
        | .unit next :: after =>
            if isLow next then
              (bytes? after).map (String.utf8EncodeChar (pair unit next) ++ ·)
            else none
        | _ => none
      else if isLow unit then none
      else (bytes? rest).map (String.utf8EncodeChar (Char.ofNat unit) ++ ·)

def text? (literal : Literal) : Option String :=
  (bytes? literal).bind fun bytes => String.fromUTF8? ⟨bytes.toArray⟩

end Literal

def hexDigit (value : Nat) : Char :=
  Nat.digitChar value

def escape (c : Char) : List Char :=
  if c = '"' then ['\\', '"']
  else if c = '\\' then ['\\', '\\']
  else if c = '\x08' then ['\\', 'b']
  else if c = '\x0c' then ['\\', 'f']
  else if c = '\n' then ['\\', 'n']
  else if c = '\r' then ['\\', 'r']
  else if c = '\t' then ['\\', 't']
  else if c.toNat < 0x20 then
    ['\\', 'u', '0', '0', hexDigit (c.toNat / 16), hexDigit (c.toNat % 16)]
  else [c]

def quote (text : String) : List Char :=
  '"' :: (text.toList.flatMap escape ++ ['"'])

mutual

def Value.write : Value String → List Char
  | .null => "null".toList
  | .bool true => "true".toList
  | .bool false => "false".toList
  | .number digits => digits.map fun digit => Char.ofUInt8 digit
  | .string text => quote text
  | .array [] => ['[', ']']
  | .array (item :: rest) => '[' :: (item.write ++ writeItems rest)
  | .object [] => ['\x7b', '\x7d']
  | .object ((name, value) :: rest) =>
      '\x7b' :: (quote name ++ ':' :: (value.write ++ writeMembers rest))

def writeItems : List (Value String) → List Char
  | [] => [']']
  | item :: rest => ',' :: (item.write ++ writeItems rest)

def writeMembers : List (String × Value String) → List Char
  | [] => ['\x7d']
  | (name, value) :: rest => ',' :: (quote name ++ ':' :: (value.write ++ writeMembers rest))

end

end Deduction.Json
