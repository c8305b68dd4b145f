import Deduction.Text.Characters

/-!
Terms, atoms and rules, and their written form. A term is a constant or a variable; which one is
told apart by its tag, so a constant may have any text. When text is read, a token made only of
capital letters and underscores becomes a variable and any other token a constant.

An atom is a predicate name with an ordered list of terms. An atom whose terms are all constants is
ground; ground atoms are the facts, the others are patterns. When every premise pattern of a rule
has an instance among the facts, under one assignment of the variables, the instance of the
conclusion follows.

The written form, `p(a, X), q(b) => r(X)`, is what rule text is made of. Texts stand as they are,
without quotes or escapes, so a term's tag is not written.
-/

namespace Deduction

inductive Term where
  | const (text : String)
  | var (name : String)
deriving DecidableEq, Hashable

namespace Term

def text : Term → String
  | const text => text
  | var name => name

def isVar : Term → Bool
  | const _ => false
  | var _ => true

def isVariableChar (c : Char) : Bool :=
  c == '_' || Text.isUppercase c

def isVariableToken (token : String) : Bool :=
  !token.toList.isEmpty && token.toList.all isVariableChar

def classify (token : String) : Term :=
  if isVariableToken token then var token else const token

/-- Constants come before variables; within each kind the texts decide, by code points. -/
def order : Term → Term → Ordering
  | const left, const right => compare left right
  | const _, var _ => .lt
  | var _, const _ => .gt
  | var left, var right => compare left right

end Term

structure Atom where
  predicate : String
  args : List Term
deriving DecidableEq, Hashable

namespace Atom

/-- An atom whose arguments are constants, whatever their texts look like. -/
def ground (predicate : String) (texts : List String) : Atom :=
  ⟨predicate, texts.map Term.const⟩

/-- An atom whose arguments are told apart by the look of their tokens. -/
def pattern (predicate : String) (tokens : List String) : Atom :=
  ⟨predicate, tokens.map Term.classify⟩

def arity (atom : Atom) : Nat :=
  atom.args.length

def isGround (atom : Atom) : Bool :=
  !atom.args.any Term.isVar

def orderArgs : List Term → List Term → Ordering
  | [], [] => .eq
  | [], _ :: _ => .lt
  | _ :: _, [] => .gt
  | left :: lefts, right :: rights => (left.order right).then (orderArgs lefts rights)

def order (left right : Atom) : Ordering :=
  (compare left.predicate right.predicate).then (orderArgs left.args right.args)

def sort (atoms : List Atom) : List Atom :=
  atoms.mergeSort fun left right => (left.order right).isLE

def written (atom : Atom) : String :=
  atom.predicate ++ "(" ++ String.intercalate ", " (atom.args.map Term.text) ++ ")"

def writtenList (atoms : List Atom) : String :=
  "[" ++ String.intercalate ", " (atoms.map written) ++ "]"

end Atom

structure Rule where
  premise : List Atom
  conclusion : Atom
  /-- A name for the log, without a part in deduction. -/
  label : String := ""
deriving DecidableEq

/-- Without a premise the arrow comes first. -/
def Rule.written (rule : Rule) : String :=
  match rule.premise with
  | [] => "=> " ++ rule.conclusion.written
  | premise =>
      String.intercalate ", " (premise.map Atom.written) ++ " => " ++ rule.conclusion.written

end Deduction
