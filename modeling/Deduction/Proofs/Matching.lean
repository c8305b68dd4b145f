import Deduction.Join

/-!
What a match says about substitutions. A substitution is a finite map from variable names to texts,
read as a function; a binding is one way to write it down. Matching a pattern with a fact succeeds
exactly when some substitution above the given binding turns the pattern into the fact, and then it
leaves the smallest such substitution. The order in which a binding came about plays no part here.
-/

namespace Deduction

abbrev Substitution := String → Option String

def Term.names : Term → List String
  | .const _ => []
  | .var name => [name]

def Atom.names (atom : Atom) : List String :=
  atom.args.flatMap Term.names

def Atom.namesOf (atoms : List Atom) : List String :=
  atoms.flatMap Atom.names

/-- The constant that a term becomes. A variable that is not bound becomes its own name. -/
def Term.substitute (s : Substitution) : Term → Term
  | .const text => .const text
  | .var name => .const ((s name).getD name)

def Atom.substitute (s : Substitution) (atom : Atom) : Atom :=
  ⟨atom.predicate, atom.args.map (Term.substitute s)⟩

def Binding.substitution (binding : Binding) : Substitution :=
  binding.value?

namespace Substitution

def Within (small large : Substitution) : Prop :=
  ∀ name text, small name = some text → large name = some text

def only (s : Substitution) (names : List String) : Substitution :=
  fun name => if name ∈ names then s name else none

theorem within_refl (s : Substitution) : s.Within s :=
  fun _ _ bound => bound

theorem Within.trans {a b c : Substitution} (first : a.Within b) (second : b.Within c) :
    a.Within c :=
  fun name text bound => second name text (first name text bound)

theorem only_within (s : Substitution) (names : List String) : (s.only names).Within s := by
  intro name text bound
  by_cases member : name ∈ names
  · simpa [only, member] using bound
  · simp [only, member] at bound

-- A smaller substitution that already binds every name of interest decides the larger one there.
theorem Within.eq_of_isSome {small large : Substitution} (within : small.Within large)
    {name : String} (bound : (small name).isSome) : small name = large name := by
  obtain ⟨text, found⟩ := Option.isSome_iff_exists.mp bound
  rw [found, within name text found]

/-- Two substitutions of one domain, one within the other, are the same. -/
theorem Within.eq_of_domain {small large : Substitution} (within : small.Within large)
    (domain : ∀ name, (large name).isSome → (small name).isSome) : small = large := by
  funext name
  cases found : large name with
  | none =>
      cases other : small name with
      | none => rfl
      | some text =>
          have kept := within name text other
          rw [found] at kept
          contradiction
  | some text =>
      have bound : (small name).isSome := domain name (by simp [found])
      rw [within.eq_of_isSome bound, found]

end Substitution

@[simp] theorem Term.substitute_const (s : Substitution) (text : String) :
    (Term.const text).substitute s = .const text := rfl

@[simp] theorem Term.substitute_var (s : Substitution) (name : String) :
    (Term.var name).substitute s = .const ((s name).getD name) := rfl

@[simp] theorem Atom.substitute_predicate (s : Substitution) (atom : Atom) :
    (atom.substitute s).predicate = atom.predicate := rfl

@[simp] theorem Atom.substitute_args (s : Substitution) (atom : Atom) :
    (atom.substitute s).args = atom.args.map (Term.substitute s) := rfl

theorem Term.isVar_substitute (s : Substitution) (term : Term) :
    (term.substitute s).isVar = false := by
  cases term <;> rfl

theorem Atom.isVar_of_isGround {atom : Atom} (ground : atom.isGround) {term : Term}
    (member : term ∈ atom.args) : term.isVar = false := by
  simp only [isGround, Bool.not_eq_true', List.any_eq_false] at ground
  exact Bool.eq_false_iff.mpr (ground term member)

theorem Atom.isGround_substitute (s : Substitution) (atom : Atom) :
    (atom.substitute s).isGround := by
  simp [Atom.isGround, Atom.substitute, Term.isVar_substitute]

theorem Term.instantiate_eq_substitute (binding : Binding) (term : Term) :
    term.instantiate binding = term.substitute binding.substitution := by
  cases term <;> rfl

theorem Atom.instantiate_eq_substitute (binding : Binding) (atom : Atom) :
    atom.instantiate binding = atom.substitute binding.substitution := by
  simp only [Atom.instantiate, Atom.substitute, Atom.mk.injEq, true_and]
  exact List.map_congr_left fun term _ => term.instantiate_eq_substitute binding

-- Growing a substitution that binds every variable of a pattern does not change the instance.
theorem Term.substitute_within {small large : Substitution} (within : small.Within large)
    (term : Term) (bound : ∀ name ∈ term.names, (small name).isSome) :
    term.substitute small = term.substitute large := by
  cases term with
  | const text => rfl
  | var name =>
      have same := within.eq_of_isSome (bound name (by simp [Term.names]))
      simp [same]

theorem Term.map_substitute_within {small large : Substitution} (within : small.Within large)
    (terms : List Term) (bound : ∀ name ∈ terms.flatMap Term.names, (small name).isSome) :
    terms.map (Term.substitute small) = terms.map (Term.substitute large) := by
  apply List.map_congr_left
  intro term member
  apply term.substitute_within within
  intro name found
  exact bound name (List.mem_flatMap.mpr ⟨term, member, found⟩)

theorem Atom.substitute_within {small large : Substitution} (within : small.Within large)
    (atom : Atom) (bound : ∀ name ∈ atom.names, (small name).isSome) :
    atom.substitute small = atom.substitute large := by
  simp only [Atom.substitute, Atom.mk.injEq, true_and]
  exact Term.map_substitute_within within atom.args bound

namespace Binding

theorem substitution_cons (name value : String) (binding : Binding) (key : String) :
    substitution ((name, value) :: binding) key =
      if key = name then some value else binding.substitution key := by
  by_cases same : key = name
  · simp [substitution, value?, same]
  · have apart : (key == name) = false := by simp [same]
    simp [substitution, value?, List.lookup_cons, apart, same]

theorem substitution_eq_none (binding : Binding) (name : String) :
    binding.substitution name = none ↔ name ∉ binding.map Prod.fst := by
  induction binding with
  | nil => simp [substitution, value?]
  | cons entry rest ih =>
      obtain ⟨first, value⟩ := entry
      rw [substitution_cons]
      by_cases same : name = first
      · simp [same]
      · simpa [same] using ih

/-- The two ways in which assigning a value succeeds. -/
theorem assign?_eq_some {before after : Binding} {name value : String}
    (assigned : before.assign? name value = some after) :
    (before.substitution name = some value ∧ after = before) ∨
      (before.substitution name = none ∧ after = (name, value) :: before) := by
  unfold assign? at assigned
  cases found : before.value? name with
  | none =>
      right
      simp only [found, Option.some.injEq] at assigned
      exact ⟨found, assigned.symm⟩
  | some bound =>
      left
      simp only [found] at assigned
      by_cases same : bound = value
      · rw [if_pos same, Option.some.injEq] at assigned
        exact ⟨by rw [substitution, found, same], assigned.symm⟩
      · rw [if_neg same] at assigned
        contradiction

/-- A binding has grown by those of the names that it did not bind before, and by nothing else. -/
structure Grows (names : List String) (before after : Binding) : Prop where
  within : before.substitution.Within after.substitution
  domain : ∀ name, (after.substitution name).isSome ↔
    (before.substitution name).isSome ∨ name ∈ names
  keyed : (before.map Prod.fst).Nodup → (after.map Prod.fst).Nodup

theorem grows_refl (binding : Binding) : Grows [] binding binding :=
  ⟨Substitution.within_refl _, by simp, fun keyed => keyed⟩

theorem Grows.trans {first second : List String} {a b c : Binding} (left : Grows first a b)
    (right : Grows second b c) : Grows (first ++ second) a c where
  within := left.within.trans right.within
  domain := by
    intro name
    rw [right.domain, left.domain, List.mem_append, or_assoc]
  keyed := fun keyed => right.keyed (left.keyed keyed)

theorem assign?_grows {before after : Binding} {name value : String}
    (assigned : before.assign? name value = some after) :
    Grows [name] before after ∧ after.substitution name = some value := by
  rcases assign?_eq_some assigned with ⟨bound, rfl⟩ | ⟨free, rfl⟩
  · refine ⟨⟨Substitution.within_refl _, ?_, fun keyed => keyed⟩, bound⟩
    intro key
    simp only [List.mem_singleton, iff_self_or]
    rintro rfl
    simp [bound]
  · -- A free name gets the only entry for it, in front of the others.
    refine ⟨⟨?_, ?_, ?_⟩, by simp [substitution_cons]⟩
    · intro key text bound
      have different : key ≠ name := by
        rintro rfl
        rw [free] at bound
        contradiction
      simpa [substitution_cons, different] using bound
    · intro key
      by_cases same : key = name
      · simp [substitution_cons, same]
      · simp [substitution_cons, same]
    · intro keyed
      rw [substitution_eq_none] at free
      exact List.nodup_cons.mpr ⟨free, keyed⟩

-- A value that a larger substitution agrees with can be assigned without leaving it.
theorem assign?_complete {before : Binding} {s : Substitution} {name value : String}
    (within : before.substitution.Within s) (bound : s name = some value) :
    ∃ after, before.assign? name value = some after ∧ after.substitution.Within s := by
  cases found : before.value? name with
  | none =>
      refine ⟨(name, value) :: before, by simp [assign?, found], ?_⟩
      intro key text present
      by_cases same : key = name
      · subst same
        simp only [substitution_cons, ↓reduceIte, Option.some.injEq] at present
        rw [bound, present]
      · simp only [substitution_cons, same, ↓reduceIte] at present
        exact within key text present
  | some held =>
      have same : held = value := by
        have agreed := within name held found
        rw [bound] at agreed
        exact (Option.some.inj agreed).symm
      exact ⟨before, by simp [assign?, found, same], within⟩

end Binding

/-! One argument, then an argument list, then an atom; soundness and completeness each time. -/

theorem Term.match?_sound {pattern fact : Term} {before after : Binding}
    (matched : pattern.match? fact before = some after) :
    Binding.Grows pattern.names before after ∧
      pattern.substitute after.substitution = fact := by
  cases pattern with
  | const left =>
      cases fact with
      | var name => simp [Term.match?] at matched
      | const right =>
          simp only [Term.match?, Option.ite_none_right_eq_some, Option.some.injEq] at matched
          obtain ⟨rfl, rfl⟩ := matched
          exact ⟨Binding.grows_refl before, rfl⟩
  | var name =>
      cases fact with
      | var other => simp [Term.match?] at matched
      | const value =>
          obtain ⟨grows, bound⟩ := Binding.assign?_grows matched
          exact ⟨grows, by simp [bound]⟩

theorem Term.match?_complete {before : Binding} {s : Substitution}
    (within : before.substitution.Within s) (pattern : Term)
    (bound : ∀ name ∈ pattern.names, (s name).isSome) :
    ∃ after, pattern.match? (pattern.substitute s) before = some after ∧
      after.substitution.Within s := by
  cases pattern with
  | const text => exact ⟨before, by simp [Term.match?], within⟩
  | var name =>
      obtain ⟨value, found⟩ := Option.isSome_iff_exists.mp (bound name (by simp [Term.names]))
      simpa [Term.match?, found] using Binding.assign?_complete within found

/-- A match of argument lists binds the variables of the patterns and turns each into its fact. A
variable bound by an earlier argument keeps its value, so every occurrence is accounted for. -/
theorem Atom.matchArgs?_sound {patterns facts : List Term} {before after : Binding}
    (matched : Atom.matchArgs? patterns facts before = some after) :
    Binding.Grows (patterns.flatMap Term.names) before after ∧
      patterns.map (Term.substitute after.substitution) = facts := by
  induction patterns generalizing facts before with
  | nil =>
      cases facts with
      | nil =>
          simp only [Atom.matchArgs?, Option.some.injEq] at matched
          subst matched
          exact ⟨Binding.grows_refl before, rfl⟩
      | cons fact facts => simp [Atom.matchArgs?] at matched
  | cons pattern patterns ih =>
      cases facts with
      | nil => simp [Atom.matchArgs?] at matched
      | cons fact facts =>
          simp only [Atom.matchArgs?, Option.bind_eq_some_iff] at matched
          obtain ⟨middle, first, later⟩ := matched
          obtain ⟨firstGrows, firstFact⟩ := Term.match?_sound first
          obtain ⟨laterGrows, laterFacts⟩ := ih later
          refine ⟨firstGrows.trans laterGrows, ?_⟩
          -- The later arguments only add names, so the first one stays what it became.
          have bound : ∀ name ∈ pattern.names, (middle.substitution name).isSome :=
            fun name member => (firstGrows.domain name).mpr (Or.inr member)
          rw [List.map_cons, laterFacts, ← pattern.substitute_within laterGrows.within bound,
            firstFact]

theorem Atom.matchArgs?_complete {before : Binding} {s : Substitution}
    (within : before.substitution.Within s) (patterns : List Term)
    (bound : ∀ name ∈ patterns.flatMap Term.names, (s name).isSome) :
    ∃ after, Atom.matchArgs? patterns (patterns.map (Term.substitute s)) before = some after ∧
      after.substitution.Within s := by
  induction patterns generalizing before with
  | nil => exact ⟨before, rfl, within⟩
  | cons pattern patterns ih =>
      simp only [List.flatMap_cons, List.mem_append] at bound
      obtain ⟨middle, first, middleWithin⟩ :=
        Term.match?_complete within pattern fun name member => bound name (Or.inl member)
      obtain ⟨after, later, afterWithin⟩ :=
        ih middleWithin fun name member => bound name (Or.inr member)
      refine ⟨after, ?_, afterWithin⟩
      simp only [List.map_cons, Atom.matchArgs?, Option.bind_eq_some_iff]
      exact ⟨middle, first, later⟩

theorem Atom.match?_sound {pattern fact : Atom} {before after : Binding}
    (matched : pattern.match? fact before = some after) :
    Binding.Grows pattern.names before after ∧
      pattern.substitute after.substitution = fact := by
  simp only [Atom.match?, Option.ite_none_right_eq_some] at matched
  obtain ⟨samePredicate, matched⟩ := matched
  obtain ⟨grows, sameArgs⟩ := Atom.matchArgs?_sound matched
  exact ⟨grows, by rw [Atom.substitute, samePredicate, sameArgs]⟩

theorem Atom.match?_complete {before : Binding} {s : Substitution}
    (within : before.substitution.Within s) (pattern : Atom)
    (bound : ∀ name ∈ pattern.names, (s name).isSome) :
    ∃ after, pattern.match? (pattern.substitute s) before = some after ∧
      after.substitution.Within s := by
  simpa [Atom.match?] using Atom.matchArgs?_complete within pattern.args bound

end Deduction
