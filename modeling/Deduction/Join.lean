import Deduction.FactStore

/-!
Matching and the join. A binding holds what the variables of a rule stand for in one match. A
pattern matches a fact when the predicates and the arities agree, constants meet equal constants,
and every variable meets the same constant wherever it stands. Matching extends a binding by the
variables it meets for the first time; instantiating a pattern replaces its variables by their
values.

The join finds all bindings under which every premise of a rule is a stored fact. The premises are
taken from left to right; each binding found so far is tried against the facts of the next premise's
predicate, in the order of their insertion.
-/

namespace Deduction

abbrev Binding := List (String × String)

namespace Binding

def empty : Binding := []

def value? (binding : Binding) (name : String) : Option String :=
  binding.lookup name

def assign? (binding : Binding) (name value : String) : Option Binding :=
  match binding.value? name with
  | none => some ((name, value) :: binding)
  | some bound => if bound = value then some binding else none

end Binding

def Term.match? : Term → Term → Binding → Option Binding
  | .var name, .const value, binding => binding.assign? name value
  | .const left, .const right, binding => if left = right then some binding else none
  | _, .var _, _ => none

def Atom.matchArgs? : List Term → List Term → Binding → Option Binding
  | [], [], binding => some binding
  | pattern :: patterns, fact :: facts, binding =>
      (pattern.match? fact binding).bind (Atom.matchArgs? patterns facts)
  | _, _, _ => none

def Atom.match? (pattern fact : Atom) (binding : Binding) : Option Binding :=
  if pattern.predicate = fact.predicate then
    Atom.matchArgs? pattern.args fact.args binding
  else none

/-- The constant that a term stands for. A variable without a value stands for its own name. -/
def Term.instantiate (binding : Binding) : Term → Term
  | .const text => .const text
  | .var name => .const ((binding.value? name).getD name)

def Atom.instantiate (binding : Binding) (pattern : Atom) : Atom :=
  ⟨pattern.predicate, pattern.args.map (Term.instantiate binding)⟩

def Binding.extensions (pattern : Atom) (facts : List Atom) (bindings : List Binding) :
    List Binding :=
  bindings.flatMap fun binding => facts.filterMap fun fact => pattern.match? fact binding

def FactStore.join (store : FactStore) : List Atom → List Binding → List Binding
  | [], bindings => bindings
  | pattern :: rest, bindings =>
      store.join rest
        (Binding.extensions pattern (store.withPredicate pattern.predicate) bindings)

namespace Rule

def bindings (rule : Rule) (store : FactStore) : List Binding :=
  store.join rule.premise [Binding.empty]

def conclusions (rule : Rule) (store : FactStore) : List Atom :=
  (rule.bindings store).map fun binding => rule.conclusion.instantiate binding

end Rule

end Deduction
