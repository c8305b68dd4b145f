import Deduction.Proofs.Growth
import Mathlib.Data.Set.Basic
import Mathlib.Order.Bounds.Basic

/-!
What a saturated run computes. A model of rules over given facts is a set of ground atoms that holds
the facts and is closed under the rules. Closure of the final facts is read off the last round,
which brought nothing new; that they lie in every model follows step by step along the growth of the
list.
-/

namespace Deduction

/-- Under every solution of a premise within the set, the conclusion's instance is in it as well. -/
def Closed (rules : List Rule) (model : Set Atom) : Prop :=
  ∀ rule ∈ rules, ∀ s : Substitution, s.Solves rule.premise model →
    rule.conclusion.substitute s ∈ model

structure IsModel (rules : List Rule) (facts model : Set Atom) : Prop where
  ground : ∀ atom ∈ model, atom.isGround
  includes : facts ⊆ model
  closed : Closed rules model

variable {rules : List Rule} {facts grown : FactList}

theorem Growth.ground (run : Growth rules facts grown)
    (ground : ∀ atom ∈ facts, atom.isGround) : ∀ atom ∈ grown, atom.isGround := by
  induction run with
  | refl => exact ground
  | derive rule s _ _ _ _ ih =>
      intro atom member
      rcases List.mem_append.mp member with old | last
      · exact ih atom old
      · rw [List.mem_singleton.mp last]
        exact rule.conclusion.isGround_substitute s

/-- Nothing grows out of a set that holds the first facts and is closed under the rules. -/
theorem Growth.within {model : Set Atom} (run : Growth rules facts grown)
    (includes : facts.atoms ⊆ model) (closed : Closed rules model) : grown.atoms ⊆ model := by
  induction run with
  | refl => exact includes
  | derive rule s _ member solves _ ih =>
      intro atom held
      rcases List.mem_append.mp held with old | last
      · exact ih old
      · rw [List.mem_singleton.mp last]
        exact closed rule member s (solves.mono fun fact known => ih known)

theorem closed_of_round_eq_self (fixed : facts.round rules = facts) :
    Closed rules facts.atoms := by
  intro rule member s solves
  have held := FactList.round_eq_self.mp fixed rule member
  exact held _ (FactList.mem_conclusions.mpr ⟨s, solves, rfl⟩)

theorem FactStore.closed_of_saturated {store : FactStore} {cap : Nat}
    (saturated : (store.solve rules cap).value.2.saturated = true) :
    Closed rules (store.solve rules cap).value.1.atoms :=
  closed_of_round_eq_self ((store.course rules cap).round_final saturated)

theorem FactStore.isLeast_of_saturated {store : FactStore} {cap : Nat}
    (saturated : (store.solve rules cap).value.2.saturated = true) :
    IsLeast {model | IsModel rules store.atoms model}
      (store.solve rules cap).value.1.atoms := by
  have run := store.growth rules cap
  constructor
  · constructor
    · exact run.ground fun atom member => FactStore.isGround_of_mem member
    · exact fun atom member => run.appends.subset member
    · exact closed_of_saturated saturated
  · intro model isModel
    exact run.within isModel.includes isModel.closed

/-- What is in every model of the rules over the facts. -/
def leastModel (rules : List Rule) (facts : Set Atom) : Set Atom :=
  {atom | ∀ model, IsModel rules facts model → atom ∈ model}

-- All ground atoms are a model, so what is in every model is ground.
theorem isLeast_leastModel {facts : Set Atom} (ground : ∀ atom ∈ facts, atom.isGround) :
    IsLeast {model | IsModel rules facts model} (leastModel rules facts) := by
  have everything : IsModel rules facts {atom | atom.isGround} :=
    ⟨fun _ member => member, ground, fun rule _ s _ => rule.conclusion.isGround_substitute s⟩
  constructor
  · constructor
    · exact fun atom member => member _ everything
    · exact fun atom member model isModel => isModel.includes member
    · intro rule member s solves model isModel
      exact isModel.closed rule member s (solves.mono fun atom held => held model isModel)
  · exact fun model isModel atom member => member model isModel

theorem FactStore.atoms_of_saturated {store : FactStore} {cap : Nat}
    (saturated : (store.solve rules cap).value.2.saturated = true) :
    (store.solve rules cap).value.1.atoms = leastModel rules store.atoms :=
  (isLeast_of_saturated saturated).unique
    (isLeast_leastModel fun _ member => isGround_of_mem member)

theorem isModel_congr {otherRules : List Rule} (same : ∀ rule, rule ∈ otherRules ↔ rule ∈ rules)
    (facts model : Set Atom) : IsModel otherRules facts model ↔ IsModel rules facts model := by
  have closed : Closed otherRules model ↔ Closed rules model := by
    constructor
    · exact fun closed rule member => closed rule ((same rule).mpr member)
    · exact fun closed rule member => closed rule ((same rule).mp member)
  constructor
  · exact fun isModel => ⟨isModel.ground, isModel.includes, closed.mp isModel.closed⟩
  · exact fun isModel => ⟨isModel.ground, isModel.includes, closed.mpr isModel.closed⟩

/-- A saturated run ends with the least model of the rules over the facts that it began with. So two
saturated runs from the same facts end with the same facts, however the rules are ordered or
repeated and however many rounds were allowed. -/
theorem saturated_least_model (rules : List Rule) (store : FactStore) :
    (∀ cap, (store.solve rules cap).value.2.saturated = true →
      IsLeast {model | IsModel rules store.atoms model}
        (store.solve rules cap).value.1.atoms) ∧
    ∀ (otherRules : List Rule) (other : FactStore) (cap otherCap : Nat),
      (∀ rule, rule ∈ otherRules ↔ rule ∈ rules) → other.atoms = store.atoms →
      (store.solve rules cap).value.2.saturated = true →
      (other.solve otherRules otherCap).value.2.saturated = true →
      (other.solve otherRules otherCap).value.1.atoms =
        (store.solve rules cap).value.1.atoms := by
  constructor
  · exact fun cap saturated => FactStore.isLeast_of_saturated saturated
  · intro otherRules other cap otherCap same sameFacts saturated otherSaturated
    have least := FactStore.isLeast_of_saturated saturated
    have otherLeast := FactStore.isLeast_of_saturated otherSaturated
    simp only [sameFacts, isModel_congr same] at otherLeast
    exact otherLeast.unique least

-- Turned around and repeated, the rules of the road come to the same facts by other rounds.
theorem road_least_model :
    (Road.store.solve Road.rules 10).value.2.saturated = true ∧
      (Road.store.solve (Road.rules.reverse ++ Road.rules) 7).value.2.saturated = true ∧
      IsLeast {model | IsModel Road.rules Road.store.atoms model}
        (Road.store.solve Road.rules 10).value.1.atoms ∧
      (Road.store.solve (Road.rules.reverse ++ Road.rules) 7).value.1.atoms =
        (Road.store.solve Road.rules 10).value.1.atoms := by
  have saturated : (Road.store.solve Road.rules 10).value.2.saturated = true := by
    rw [FactStore.report_solve, Road.toList_store]
    decide
  have otherSaturated :
      (Road.store.solve (Road.rules.reverse ++ Road.rules) 7).value.2.saturated = true := by
    rw [FactStore.report_solve, Road.toList_store]
    decide
  have sameRules : ∀ rule, rule ∈ Road.rules.reverse ++ Road.rules ↔ rule ∈ Road.rules := by
    simp
  have result := saturated_least_model Road.rules Road.store
  exact ⟨saturated, otherSaturated, result.1 10 saturated,
    result.2 _ Road.store 10 7 sameRules rfl saturated otherSaturated⟩

end Deduction
