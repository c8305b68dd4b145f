/-!
Web addresses in the form in which they are sent. Tabs and line ends are dropped. A question mark
ends the path and begins the query, a number sign begins the fragment. The path is split at slashes
of either kind; a segment of one dot is dropped and one of two dots takes the segment before it
away, unless that is a drive. Bytes that may not stand in their part of the address are written as
a percent sign and two hexadecimal digits.
-/

namespace Deduction.Generation.Address

def host : String := "https://generativelanguage.googleapis.com"

def leading : List String := ["v1beta", "models"]

/-- The address at which a model generates, as it is written down. -/
def plain (model : String) : String :=
  host ++ "/v1beta/models/" ++ model ++ ":generateContent"

def hexDigit (value : Nat) : Char :=
  (Nat.digitChar value).toUpper

def percent (byte : UInt8) : List Char :=
  ['%', hexDigit (byte.toNat / 16), hexDigit (byte.toNat % 16)]

/-- Controls and everything beyond ASCII are encoded everywhere; each part has a set of its own. -/
def mustEncode (set : List Char) (c : Char) : Bool :=
  c.toNat < 0x20 || 0x7E < c.toNat || set.contains c

def encode (set : List Char) (text : List Char) : List Char :=
  text.flatMap fun c =>
    if mustEncode set c then (String.utf8EncodeChar c).flatMap percent else [c]

def pathSet : List Char := [' ', '"', '#', '<', '>', '?', '`', '\x7b', '\x7d']

def querySet : List Char := [' ', '"', '#', '<', '>', '\'']

def fragmentSet : List Char := [' ', '"', '<', '>', '`']

def isDropped (c : Char) : Bool :=
  c == '\t' || c == '\n' || c == '\r'

def isSlash (c : Char) : Bool :=
  c == '/' || c == '\\'

def dots : List String := [".", "%2e", "%2E"]

def isSingleDot (segment : List Char) : Bool :=
  dots.any fun dot => dot.toList == segment

def isDoubleDot (segment : List Char) : Bool :=
  dots.any fun first => dots.any fun second => first.toList ++ second.toList == segment

def isDrive : List Char → Bool
  | [letter, mark] => letter.isAlpha && (mark == ':' || mark == '|')
  | _ => false

/-- One step up from the segment that stands first. Nothing leads out of a drive. -/
def climb : List (List Char) → List (List Char)
  | [] => []
  | segment :: above => if isDrive segment then segment :: above else above

/-- Follows the segments of a path; `done` holds those that stand, last first. -/
def resolve (done : List (List Char)) : List (List Char) → List (List Char)
  | [] => done.reverse
  | segment :: rest =>
      let isLast := rest.isEmpty
      if isDoubleDot segment then
        resolve (if isLast then [] :: climb done else climb done) rest
      else if isSingleDot segment then
        resolve (if isLast then [] :: done else done) rest
      else resolve (encode pathSet segment :: done) rest

def split (text : List Char) : List Char × Option (List Char) × Option (List Char) :=
  let path := text.takeWhile fun c => c != '?' && c != '#'
  match text.dropWhile fun c => c != '?' && c != '#' with
  | '?' :: rest =>
      match rest.dropWhile fun c => c != '#' with
      | _ :: fragment => (path, some (rest.takeWhile fun c => c != '#'), some fragment)
      | [] => (path, some rest, none)
  | _ :: fragment => (path, none, some fragment)
  | [] => (path, none, none)

def marked (mark : Char) (set : List Char) : Option (List Char) → List Char
  | none => []
  | some text => mark :: encode set text

/-- The address at which a model generates, as it is sent. -/
def sent (model : String) : String :=
  let text := (model.toList ++ ":generateContent".toList).filter fun c => !isDropped c
  let (path, query, fragment) := split text
  let segments := resolve (leading.map String.toList).reverse (path.splitOnP isSlash)
  let path := segments.flatMap ('/' :: ·)
  host ++ String.ofList (path ++ marked '?' querySet query ++ marked '#' fragmentSet fragment)

end Deduction.Generation.Address
