/-!
Plain text: what is left of a text when everything that steers a terminal is taken out. That is the
sequences which begin with an escape character, and single controls. Tabs, line ends and form feeds
count as text. They stay, and with one of them text sets in, also in the middle of a sequence: the
sequence waits and goes on with the next character that is no text.
-/

namespace Deduction.Text

inductive Steering where
  /-- Nothing: characters are text. -/
  | none
  /-- The character after an escape character. -/
  | escape
  /-- An escape sequence of more than one character, which waits for its final one. -/
  | sequence
  /-- A control sequence with parameters, which waits for its final letter. -/
  | control
  /-- A command to the operating system, which a bell ends. -/
  | command
  /-- The introduction of a device string: before, in and after its parameters. -/
  | introduction
  | parameters
  | qualifiers
  /-- A string that is meant for no one. -/
  | payload
deriving DecidableEq

namespace Steering

def isBetween (first last : Nat) (c : Char) : Bool :=
  first ≤ c.toNat && c.toNat ≤ last

/-- The byte that ends a string. It is looked for among the bytes of characters, too. -/
def terminator : UInt8 := 0x9C

def begin (c : Char) : Steering :=
  if c = '[' then control
  else if c = ']' then command
  else if c = 'P' then introduction
  else if c = 'X' || c = '^' || c = '_' then payload
  else if isBetween 0x20 0x2F c then sequence
  else if isBetween 0x30 0x7E c then none
  else escape

def follow : Steering → Char → Steering
  | none, _ => none
  | escape, c => begin c
  | sequence, c => if isBetween 0x30 0x7E c then none else sequence
  | control, c => if isBetween 0x40 0x7E c then none else control
  | command, c => if c = '\x07' then none else command
  | introduction, c =>
      if isBetween 0x20 0x2F c then qualifiers
      else if isBetween 0x30 0x3F c then parameters
      else if isBetween 0x40 0x7E c then payload
      else introduction
  | parameters, c =>
      if isBetween 0x20 0x2F c then qualifiers
      else if isBetween 0x3C 0x7E c then payload
      else parameters
  | qualifiers, c => if isBetween 0x30 0x7E c then payload else qualifiers
  | payload, c => if (String.utf8EncodeChar c).contains terminator then none else payload

/-- Whether layout characters are text in the middle of this. Strings take them in. -/
def yieldsToLayout : Steering → Bool
  | escape | sequence | control => true
  | _ => false

end Steering

def isLayout (c : Char) : Bool :=
  c == '\t' || c == '\n' || c == '\x0c' || c == '\r'

def isShown (c : Char) : Bool :=
  isLayout c || (0x20 ≤ c.toNat && c != '\x7f')

/-- How far a terminal is: what it is in the middle of, and whether text has set in meanwhile. -/
structure Terminal where
  steering : Steering := .none
  inText : Bool := false

namespace Terminal

def shows (terminal : Terminal) (c : Char) : Bool :=
  if terminal.inText || terminal.steering == .none then isShown c
  else terminal.steering.yieldsToLayout && isLayout c

/-- How far the terminal is after a character. An escape character always begins anew; cancel and
substitute put an end to everything, and so does text beyond ASCII. -/
def next (terminal : Terminal) (c : Char) : Terminal :=
  if c = '\x1b' then ⟨.escape, false⟩
  else if c = '\x18' || c = '\x1a' then ⟨.none, false⟩
  else if terminal.shows c then ⟨if c.toNat < 0x80 then terminal.steering else .none, true⟩
  else ⟨terminal.steering.follow c, false⟩

end Terminal

def plainFrom (terminal : Terminal) : List Char → List Char
  | [] => []
  | c :: rest =>
      if terminal.shows c then c :: plainFrom (terminal.next c) rest
      else plainFrom (terminal.next c) rest

def plain (text : String) : String :=
  String.ofList (plainFrom {} text.toList)

end Deduction.Text
