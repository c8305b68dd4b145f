import Deduction.Proofs.Matching
import Mathlib.Data.List.Forall2

/-!
One match is exact. That a pattern becomes a fact under a substitution is said here place by place,
and not through instances: an instance does not tell an unbound variable from a constant of its
name. A match succeeds exactly if some extension of the binding does this, whatever else that
extension binds. What the match leaves is the least such extension.
-/

namespace Deduction

/-- A constant becomes itself, and a variable the constant that it is bound to. -/
inductive Term.Becomes (s : Substitution) : Term → Term → Prop where
  | const (text : String) : Becomes s (.const text) (.const text)
  | var {name text : String} : s name = some text → Becomes s (.var name) (.const text)

structure Atom.Becomes (s : Substitution) (pattern fact : Atom) : Prop where
  predicate : pattern.predicate = fact.predicate
  args : List.Forall₂ (Term.Becomes s) pattern.args fact.args

variable {s : Substitution} {before after : Binding} {pattern fact : Atom}

theorem Term.becomes_iff {pattern fact : Term} :
    pattern.Becomes s fact ↔
      (∀ name ∈ pattern.names, (s name).isSome) ∧ pattern.substitute s = fact := by
  constructor
  · intro becomes
    cases becomes with
    | const text => exact ⟨by simp [Term.names], rfl⟩
    | var bound => simp [Term.names, bound]
  · rintro ⟨bound, rfl⟩
    cases pattern with
    | const text => exact .const text
    | var name =>
        obtain ⟨text, found⟩ := Option.isSome_iff_exists.mp (bound name List.mem_cons_self)
        rw [Term.substitute_var, found]
        exact .var found

theorem Term.forall₂_becomes_iff {patterns facts : List Term} :
    List.Forall₂ (Term.Becomes s) patterns facts ↔
      (∀ name ∈ patterns.flatMap Term.names, (s name).isSome) ∧
        patterns.map (Term.substitute s) = facts := by
  induction patterns generalizing facts with
  | nil => cases facts <;> simp
  | cons pattern patterns ih =>
      rw [List.forall₂_cons_left_iff, List.flatMap_cons, List.forall_mem_append, List.map_cons]
      constructor
      · rintro ⟨fact, rest, becomes, later, rfl⟩
        obtain ⟨bound, rfl⟩ := becomes_iff.mp becomes
        obtain ⟨laterBound, rfl⟩ := ih.mp later
        exact ⟨⟨bound, laterBound⟩, rfl⟩
      · rintro ⟨⟨bound, laterBound⟩, rfl⟩
        exact ⟨_, _, becomes_iff.mpr ⟨bound, rfl⟩, ih.mpr ⟨laterBound, rfl⟩, rfl⟩

/-- To become a fact is to have it as an instance, with every variable bound. -/
theorem Atom.becomes_iff :
    pattern.Becomes s fact ↔
      (∀ name ∈ pattern.names, (s name).isSome) ∧ pattern.substitute s = fact := by
  constructor
  · rintro ⟨samePredicate, args⟩
    obtain ⟨bound, sameArgs⟩ := Term.forall₂_becomes_iff.mp args
    exact ⟨bound, by rw [Atom.substitute, samePredicate, sameArgs]⟩
  · rintro ⟨bound, rfl⟩
    exact ⟨rfl, Term.forall₂_becomes_iff.mpr ⟨bound, rfl⟩⟩

theorem Atom.becomes_of_match? (matched : pattern.match? fact before = some after) :
    pattern.Becomes after.substitution fact := by
  obtain ⟨grows, same⟩ := Atom.match?_sound matched
  exact Atom.becomes_iff.mpr ⟨fun name member => (grows.domain name).mpr (Or.inr member), same⟩

/-- Every extension that turns the pattern into the fact lies above what the match leaves. -/
theorem Atom.match?_of_becomes (within : before.substitution.Within s)
    (becomes : pattern.Becomes s fact) :
    ∃ after, pattern.match? fact before = some after ∧ after.substitution.Within s := by
  obtain ⟨bound, rfl⟩ := Atom.becomes_iff.mp becomes
  exact Atom.match?_complete within pattern bound

/-- A pattern matches a fact under a binding exactly if it becomes the fact under some extension of
the binding. The match leaves such an extension: it keeps what was bound, adds values for the other
variables of the pattern and for nothing else, and lies within every extension under which the
pattern becomes the fact. Instantiating the pattern with it gives the fact back. A fact that is not
ground is matched by nothing. -/
theorem match_leaves_least_extension (pattern fact : Atom) (before : Binding) :
    ((pattern.match? fact before).isSome = true ↔
      ∃ s : Substitution, before.substitution.Within s ∧ pattern.Becomes s fact) ∧
    ∀ after, pattern.match? fact before = some after →
      before.substitution.Within after.substitution ∧
      (∀ name, (after.substitution name).isSome = true ↔
        (before.substitution name).isSome = true ∨ name ∈ pattern.names) ∧
      pattern.Becomes after.substitution fact ∧
      (∀ s : Substitution, before.substitution.Within s → pattern.Becomes s fact →
        after.substitution.Within s) ∧
      pattern.instantiate after = fact := by
  constructor
  · constructor
    · intro matched
      obtain ⟨after, matched⟩ := Option.isSome_iff_exists.mp matched
      exact ⟨after.substitution, (Atom.match?_sound matched).1.within,
        Atom.becomes_of_match? matched⟩
    · rintro ⟨s, within, becomes⟩
      obtain ⟨after, matched, _⟩ := Atom.match?_of_becomes within becomes
      rw [matched, Option.isSome_some]
  · intro after matched
    obtain ⟨grows, same⟩ := Atom.match?_sound matched
    refine ⟨grows.within, grows.domain, Atom.becomes_of_match? matched, ?_, ?_⟩
    · intro s within becomes
      obtain ⟨found, matchedToo, least⟩ := Atom.match?_of_becomes within becomes
      rw [matched, Option.some.injEq] at matchedToo
      exact matchedToo ▸ least
    · rw [Atom.instantiate_eq_substitute, same]

-- `X` is the name of a variable and the text of a constant; `Y` is bound before the match.
theorem shared_text_matched :
    let pattern : Atom := ⟨"p", [.var "X", .const "X", .var "Y", .var "X"]⟩
    let fact : Atom := .ground "p" ["a", "X", "b", "a"]
    let before : Binding := [("Y", "b"), ("Z", "X")]
    let after : Binding := [("X", "a"), ("Y", "b"), ("Z", "X")]
    let above : Binding := [("W", "w"), ("Z", "X"), ("Y", "b"), ("X", "a")]
    pattern.match? fact before = some after ∧ pattern.instantiate after = fact ∧
      before.substitution.Within above.substitution ∧
      pattern.Becomes above.substitution fact ∧
      after.substitution.Within above.substitution ∧
      ¬ ∃ s : Substitution, (Binding.substitution [("X", "b")]).Within s ∧
        pattern.Becomes s fact := by
  intro pattern fact before after above
  have matched : pattern.match? fact before = some after := by decide
  have within : before.substitution.Within above.substitution := by
    intro name text bound
    simp only [before, Binding.substitution_cons] at bound
    split at bound
    next same => exact same ▸ bound
    · split at bound
      next same => exact same ▸ bound
      · contradiction
  have becomes : pattern.Becomes above.substitution fact :=
    ⟨rfl, .cons (.var rfl) (.cons (.const "X") (.cons (.var rfl) (.cons (.var rfl) .nil)))⟩
  obtain ⟨_, _, _, least, instantiated⟩ :=
    (match_leaves_least_extension pattern fact before).2 after matched
  refine ⟨matched, instantiated, within, becomes, least _ within becomes, ?_⟩
  rw [← (match_leaves_least_extension pattern fact [("X", "b")]).1]
  decide

end Deduction
