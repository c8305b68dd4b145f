import Deduction.Text.Characters

/-!
Cutting text: trimming both ends, cutting at the first occurrence of a needle, and lines. Everything
works on lists of characters.
-/

namespace Deduction.Text

def trimBy (p : Char → Bool) (text : List Char) : List Char :=
  ((text.dropWhile p).reverse.dropWhile p).reverse

def trim (text : List Char) : List Char :=
  trimBy isBlank text

def cut? (needle : List Char) : List Char → Option (List Char × List Char)
  | [] => if needle.isEmpty then some ([], []) else none
  | c :: rest =>
      if needle.isPrefixOf (c :: rest) then
        some ([], (c :: rest).drop needle.length)
      else
        (cut? needle rest).map fun (before, after) => (c :: before, after)

def occurs (needle text : List Char) : Bool :=
  (cut? needle text).isSome

-- Only the carriage return that stands right before the line feed goes with it.
def dropReturn (line : List Char) : List Char :=
  if line.getLast? = some '\r' then line.dropLast else line

/-- The pieces between line feeds read as lines: every piece but the last was ended by a line feed
and may carry a carriage return; an empty last piece is no line. -/
def linesOfPieces : List (List Char) → List (List Char)
  | [] => []
  | [last] => if last.isEmpty then [] else [last]
  | piece :: rest => dropReturn piece :: linesOfPieces rest

def lines (text : List Char) : List (List Char) :=
  linesOfPieces (text.splitOn '\n')

end Deduction.Text
