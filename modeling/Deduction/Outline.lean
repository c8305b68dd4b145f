import Deduction.Rule
import Deduction.Text.Quoted

/-!
Outlines: nested text with two layouts. A leaf is text as it stands, a list is a bracketed sequence
after a lead text, and a record is a named group of fields. The compact layout is one line; the
indented layout gives every item a line of its own, four blanks deeper than what holds it, and a
comma after it.

The outlines of terms, atoms and rules show what the written form hides: constants are quoted and
variables are marked by a question mark. Labels are left out.
-/

namespace Deduction

inductive Outline where
  | leaf (text : String)
  | list (lead : String) (items : List Outline)
  | record (name : String) (fields : List (String × Outline))

namespace Outline

mutual

def compact : Outline → String
  | leaf text => text
  | list lead items => lead ++ "[" ++ String.intercalate ", " (compactItems items) ++ "]"
  | record name [] => name
  | record name fields =>
      name ++ " \x7b " ++ String.intercalate ", " (compactFields fields) ++ " \x7d"

def compactItems : List Outline → List String
  | [] => []
  | item :: rest => item.compact :: compactItems rest

def compactFields : List (String × Outline) → List String
  | [] => []
  | (name, value) :: rest => (name ++ ": " ++ value.compact) :: compactFields rest

end

/-- Puts four blanks in front of every line, the first one included. A line feed at the very end
begins no line. -/
def indentLines (atStart : Bool) : List Char → List Char
  | [] => []
  | c :: rest =>
      let line := c :: indentLines (c == '\n') rest
      if atStart then ' ' :: ' ' :: ' ' :: ' ' :: line else line

def entry (text : String) : String :=
  String.ofList (indentLines true (text ++ ",\n").toList)

def entries (texts : List String) : String :=
  String.join (texts.map entry)

mutual

def indented : Outline → String
  | leaf text => text
  | list lead [] => lead ++ "[]"
  | list lead items => lead ++ "[\n" ++ entries (indentedItems items) ++ "]"
  | record name [] => name
  | record name fields => name ++ " \x7b\n" ++ entries (indentedFields fields) ++ "\x7d"

def indentedItems : List Outline → List String
  | [] => []
  | item :: rest => item.indented :: indentedItems rest

def indentedFields : List (String × Outline) → List String
  | [] => []
  | (name, value) :: rest => (name ++ ": " ++ value.indented) :: indentedFields rest

end

end Outline

def Term.outline : Term → Outline
  | .const text => .leaf (Text.quote text)
  | .var name => .leaf ("?" ++ name)

def Atom.outline (atom : Atom) : Outline :=
  .list atom.predicate (atom.args.map Term.outline)

def Atom.outlineList (atoms : List Atom) : Outline :=
  .list "" (atoms.map Atom.outline)

def Rule.outline (rule : Rule) : Outline :=
  .record "Rule"
    [("premise", Atom.outlineList rule.premise), ("conclusion", rule.conclusion.outline)]

end Deduction
