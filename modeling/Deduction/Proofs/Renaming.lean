import Deduction.Proofs.Rounds
import Mathlib.Logic.Function.Basic
import Mathlib.Logic.Equiv.Basic

/-!
Deduction does not look into names. Texts of constants are only compared with each other, and so are
the names of variables, each within its rule. Hence a run from facts told with other texts, by rules
told with other texts and names, goes the same way step by step: renaming commutes with every match,
with the join, with each turn and with each round. What it must not do is make two texts or two
names one. A variable that the premise leaves unbound becomes its own name and would cross from one
kind of name to the other, so every variable of a conclusion has to stand in the premise.
-/

namespace Deduction

def Term.rename (f g : String → String) : Term → Term
  | .const text => .const (f text)
  | .var name => .var (g name)

def Atom.rename (f g : String → String) (atom : Atom) : Atom :=
  ⟨atom.predicate, atom.args.map (Term.rename f g)⟩

def Rule.rename (f g : String → String) (rule : Rule) : Rule :=
  ⟨rule.premise.map (Atom.rename f g), rule.conclusion.rename f g, rule.label⟩

def Binding.rename (f g : String → String) (binding : Binding) : Binding :=
  binding.map (Prod.map g f)

/-- Facts hold no variables, so there is nothing to say about names. -/
def FactList.rename (f : String → String) (facts : FactList) : FactList :=
  facts.map (Atom.rename f id)

/-- The rule with its texts renamed by `f` and its variables by some renaming of its own. -/
def Rule.Renamed (f : String → String) (rule other : Rule) : Prop :=
  ∃ g : String → String, Function.Injective g ∧ other = rule.rename f g

def Rule.Safe (rule : Rule) : Prop :=
  ∀ name ∈ rule.conclusion.names, name ∈ Atom.namesOf rule.premise

instance (rule : Rule) : Decidable rule.Safe :=
  inferInstanceAs (Decidable (∀ name ∈ rule.conclusion.names, name ∈ Atom.namesOf rule.premise))

section

variable {f g : String → String}

theorem Binding.value?_rename (names : Function.Injective g) (binding : Binding) (name : String) :
    (binding.rename f g).value? (g name) = (binding.value? name).map f := by
  induction binding with
  | nil => rfl
  | cons entry rest ih =>
      obtain ⟨first, value⟩ := entry
      have same : (g name == g first) = (name == first) := names.beq_eq
      simp only [Binding.value?, Binding.rename, List.map_cons, Prod.map_apply,
        List.lookup_cons] at ih ⊢
      rw [same, ih]
      cases name == first <;> rfl

theorem Binding.assign?_rename (texts : Function.Injective f) (names : Function.Injective g)
    (binding : Binding) (name value : String) :
    (binding.rename f g).assign? (g name) (f value) =
      (binding.assign? name value).map (Binding.rename f g) := by
  unfold Binding.assign?
  rw [Binding.value?_rename names]
  cases binding.value? name with
  | none => rfl
  | some bound =>
      by_cases same : bound = value
      · simp [same]
      · simp [same, texts.ne same]

theorem Term.match?_rename (texts : Function.Injective f) (names : Function.Injective g)
    (pattern fact : Term) (binding : Binding) :
    (pattern.rename f g).match? (fact.rename f id) (binding.rename f g) =
      (pattern.match? fact binding).map (Binding.rename f g) := by
  cases fact with
  | var other => cases pattern <;> rfl
  | const value =>
      cases pattern with
      | var name => exact Binding.assign?_rename texts names binding name value
      | const text =>
          by_cases same : text = value
          · simp [Term.match?, Term.rename, same]
          · simp [Term.match?, Term.rename, same, texts.ne same]

theorem Atom.matchArgs?_rename (texts : Function.Injective f) (names : Function.Injective g)
    (patterns facts : List Term) (binding : Binding) :
    Atom.matchArgs? (patterns.map (Term.rename f g)) (facts.map (Term.rename f id))
        (binding.rename f g) =
      (Atom.matchArgs? patterns facts binding).map (Binding.rename f g) := by
  induction patterns generalizing facts binding with
  | nil => cases facts <;> rfl
  | cons pattern patterns ih =>
      cases facts with
      | nil => rfl
      | cons fact facts =>
          simp only [List.map_cons, Atom.matchArgs?]
          rw [Term.match?_rename texts names]
          cases pattern.match? fact binding with
          | none => rfl
          | some middle => exact ih facts middle

theorem Atom.match?_rename (texts : Function.Injective f) (names : Function.Injective g)
    (pattern fact : Atom) (binding : Binding) :
    (pattern.rename f g).match? (fact.rename f id) (binding.rename f g) =
      (pattern.match? fact binding).map (Binding.rename f g) := by
  by_cases same : pattern.predicate = fact.predicate
  · simpa [Atom.match?, Atom.rename, same] using
      Atom.matchArgs?_rename texts names pattern.args fact.args binding
  · simp [Atom.match?, Atom.rename, same]

theorem Binding.extensions_rename (texts : Function.Injective f) (names : Function.Injective g)
    (pattern : Atom) (facts : FactList) (bindings : List Binding) :
    Binding.extensions (pattern.rename f g) (facts.rename f) (bindings.map (Binding.rename f g)) =
      (Binding.extensions pattern facts bindings).map (Binding.rename f g) := by
  simp only [Binding.extensions, FactList.rename, List.flatMap_map, List.map_flatMap,
    List.filterMap_map, List.map_filterMap, Function.comp_def, Atom.match?_rename texts names]

theorem FactList.join_rename (texts : Function.Injective f) (names : Function.Injective g)
    (facts : FactList) (premise : List Atom) (bindings : List Binding) :
    (facts.rename f).join (premise.map (Atom.rename f g)) (bindings.map (Binding.rename f g)) =
      (facts.join premise bindings).map (Binding.rename f g) := by
  induction premise generalizing bindings with
  | nil => rfl
  | cons pattern rest ih =>
      rw [List.map_cons, FactList.join, FactList.join, Binding.extensions_rename texts names, ih]

theorem Term.instantiate_rename (names : Function.Injective g) (binding : Binding) (term : Term)
    (bound : ∀ name ∈ term.names, (binding.value? name).isSome) :
    (term.rename f g).instantiate (binding.rename f g) =
      (term.instantiate binding).rename f id := by
  cases term with
  | const text => rfl
  | var name =>
      obtain ⟨value, found⟩ := Option.isSome_iff_exists.mp (bound name (by simp [Term.names]))
      simp [Term.rename, Term.instantiate, Binding.value?_rename names, found]

theorem Atom.instantiate_rename (names : Function.Injective g) (binding : Binding) (atom : Atom)
    (bound : ∀ name ∈ atom.names, (binding.value? name).isSome) :
    (atom.rename f g).instantiate (binding.rename f g) =
      (atom.instantiate binding).rename f id := by
  simp only [Atom.instantiate, Atom.rename, List.map_map, Atom.mk.injEq, true_and]
  apply List.map_congr_left
  intro term member
  apply Term.instantiate_rename names
  intro name found
  exact bound name (List.mem_flatMap.mpr ⟨term, member, found⟩)

/-- A safe rule concludes the renamed atoms from the renamed facts, in the same order. -/
theorem FactList.conclusions_rename (texts : Function.Injective f) (names : Function.Injective g)
    (facts : FactList) {rule : Rule} (safe : rule.Safe) :
    (facts.rename f).conclusions (rule.rename f g) =
      (facts.conclusions rule).map (Atom.rename f id) := by
  have begun : [Binding.empty] = [Binding.empty].map (Binding.rename f g) := rfl
  have joined := joined_join facts rule.premise
  simp only [FactList.conclusions, Rule.rename]
  rw [begun, FactList.join_rename texts names, List.map_map, List.map_map]
  apply List.map_congr_left
  intro binding member
  -- The join has bound every variable of the premise, so all those of the conclusion.
  exact Atom.instantiate_rename names binding rule.conclusion fun name found =>
    ((joined.sound binding member).domain name).mpr (safe name found)

end

section

variable {f : String → String}

theorem Term.rename_injective (texts : Function.Injective f) :
    Function.Injective (Term.rename f id) := by
  intro left right same
  cases left <;> cases right <;> simp_all [Term.rename, texts.eq_iff]

theorem Atom.rename_injective (texts : Function.Injective f) :
    Function.Injective (Atom.rename f id) := by
  rintro ⟨predicate, args⟩ ⟨otherPredicate, otherArgs⟩ same
  simp only [Atom.rename, Atom.mk.injEq] at same ⊢
  exact ⟨same.1, (Term.rename_injective texts).list_map same.2⟩

theorem Atom.isGround_rename (atom : Atom) : (atom.rename f id).isGround = atom.isGround := by
  have sameKind : Term.isVar ∘ Term.rename f id = Term.isVar := by
    funext term
    cases term <;> rfl
  simp only [Atom.isGround, Atom.rename, List.any_map, sameKind]

namespace FactList

theorem add_rename (texts : Function.Injective f) (facts : FactList) (atom : Atom) :
    (facts.rename f).add (atom.rename f id) = (facts.add atom).rename f := by
  have held : atom.rename f id ∈ facts.rename f ↔ atom ∈ facts :=
    List.mem_map_of_injective (Atom.rename_injective texts)
  simp only [add, held, atom.isGround_rename]
  split
  · simp [rename]
  · rfl

theorem addAll_rename (texts : Function.Injective f) (facts : FactList) (atoms : List Atom) :
    (facts.rename f).addAll (atoms.map (Atom.rename f id)) = (facts.addAll atoms).rename f := by
  induction atoms generalizing facts with
  | nil => rfl
  | cons atom atoms ih => rw [List.map_cons, addAll_cons, addAll_cons, add_rename texts, ih]

theorem turn_rename (texts : Function.Injective f) (facts : FactList) {rule other : Rule}
    (safe : rule.Safe) (renamed : rule.Renamed f other) :
    (facts.rename f).turn other = (facts.turn rule).rename f := by
  obtain ⟨g, names, rfl⟩ := renamed
  rw [turn, conclusions_rename texts names facts safe, addAll_rename texts, turn]

theorem round_rename (texts : Function.Injective f) (facts : FactList) {rules others : List Rule}
    (safe : ∀ rule ∈ rules, rule.Safe) (renamed : List.Forall₂ (Rule.Renamed f) rules others) :
    (facts.rename f).round others = (facts.round rules).rename f := by
  induction renamed generalizing facts with
  | nil => rfl
  | cons first _ ih =>
      rw [List.forall_mem_cons] at safe
      rw [round_cons, round_cons, turn_rename texts facts safe.1 first, ih _ safe.2]

theorem solve_rename (texts : Function.Injective f) {rules others : List Rule}
    (safe : ∀ rule ∈ rules, rule.Safe) (renamed : List.Forall₂ (Rule.Renamed f) rules others)
    (cap : Nat) (facts : FactList) :
    solve others cap (facts.rename f) =
      ((solve rules cap facts).1.rename f, (solve rules cap facts).2) := by
  have sameLength : ∀ known : FactList, (known.rename f).length = known.length :=
    fun known => List.length_map _
  induction cap generalizing facts with
  | zero => rfl
  | succ cap ih =>
      simp only [solve, round_rename texts facts safe renamed, sameLength]
      split
      · rfl
      · rw [ih]

end FactList

end

/-- When texts are renamed without confusing any two of them, and in each safe rule the variables as
well, a run comes to the renamed facts in the same order and with the same report. A store of the
renamed facts is there for every store. -/
theorem solve_renamed {f : String → String} (texts : Function.Injective f)
    {rules others : List Rule} (safe : ∀ rule ∈ rules, rule.Safe)
    (renamed : List.Forall₂ (Rule.Renamed f) rules others) (store : FactStore) (cap : Nat) :
    (∀ other : FactStore, other.toList = FactList.rename f store.toList →
      (other.solve others cap).value.2 = (store.solve rules cap).value.2 ∧
      (other.solve others cap).value.1.toList =
        FactList.rename f (store.solve rules cap).value.1.toList) ∧
    (FactStore.ofList (FactList.rename f store.toList)).value.toList =
      FactList.rename f store.toList := by
  constructor
  · intro other facts
    rw [other.report_solve, store.report_solve, other.toList_solve, store.toList_solve, facts,
      FactList.solve_rename texts safe renamed]
    exact ⟨rfl, rfl⟩
  · have told := FactList.addAll_rename texts [] store.toList
    rw [FactList.addAll_eq_append store.nodup_toList fun _ => FactStore.isGround_of_mem] at told
    rw [FactStore.toList_ofList]
    exact told

namespace Road

def crossed : String → String :=
  Equiv.swap "a" "X"

theorem crossed_injective : Function.Injective crossed :=
  (Equiv.swap "a" "X").injective

end Road

-- The constant `a` becomes `X`, and the variable `X` of the rule becomes `a`.
theorem road_renamed :
    Function.Injective Road.crossed ∧ (∀ rule ∈ [Road.follow], rule.Safe) ∧
      List.Forall₂ (Rule.Renamed Road.crossed) [Road.follow]
        [Road.follow.rename Road.crossed Road.crossed] ∧
      (FactStore.ofList (FactList.rename Road.crossed Road.store.toList)).value.toList =
        FactList.rename Road.crossed Road.store.toList ∧
      ((FactStore.ofList (FactList.rename Road.crossed Road.store.toList)).value.solve
          [Road.follow.rename Road.crossed Road.crossed] 1).value.1.toList =
        FactList.rename Road.crossed (Road.store.solve [Road.follow] 1).value.1.toList := by
  have safe : ∀ rule ∈ [Road.follow], rule.Safe := by decide
  have renamed : List.Forall₂ (Rule.Renamed Road.crossed) [Road.follow]
      [Road.follow.rename Road.crossed Road.crossed] :=
    .cons ⟨Road.crossed, Road.crossed_injective, rfl⟩ .nil
  obtain ⟨run, told⟩ := solve_renamed Road.crossed_injective safe renamed Road.store 1
  exact ⟨Road.crossed_injective, safe, renamed, told, (run _ told).2⟩

end Deduction
