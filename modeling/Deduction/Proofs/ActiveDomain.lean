import Deduction.Proofs.Growth
import Mathlib.Algebra.GroupWithZero.Nat
import Mathlib.Data.Fintype.BigOperators

/-!
Why every run can saturate. Matching binds variables to texts of known facts, and a variable that
stays unbound becomes its own name, so no step makes a text that neither the first facts nor a
conclusion contains. Every new fact has the predicate and the arity of a conclusion, and over
finitely many texts there are finitely many such facts. As each fruitful round adds a fact that was
not there, their number bounds the rounds.
-/

namespace Deduction

namespace Atom

def texts (atom : Atom) : List String :=
  atom.args.map Term.text

def DrawnFrom (domain : Finset String) (atom : Atom) : Prop :=
  ∀ term ∈ atom.args, ∃ text ∈ domain, term = .const text

def allFrom (domain : Finset String) (predicate : String) (arity : Nat) : Finset Atom :=
  (Fintype.piFinset fun _ : Fin arity => domain).image fun texts =>
    .ground predicate (List.ofFn texts)

theorem card_allFrom_le (domain : Finset String) (predicate : String) (arity : Nat) :
    (allFrom domain predicate arity).card ≤ domain.card ^ arity := by
  calc (allFrom domain predicate arity).card
      ≤ (Fintype.piFinset fun _ : Fin arity => domain).card := Finset.card_image_le
    _ = domain.card ^ arity := Fintype.card_piFinset_const domain arity

theorem DrawnFrom.ground_texts {domain : Finset String} {atom : Atom}
    (drawn : atom.DrawnFrom domain) : ground atom.predicate atom.texts = atom := by
  have same : ∀ term ∈ atom.args, Term.const term.text = term := by
    intro term member
    obtain ⟨text, _, rfl⟩ := drawn term member
    rfl
  rw [ground, texts, List.map_map]
  congr 1
  exact (List.map_congr_left same).trans (List.map_id _)

theorem mem_allFrom {domain : Finset String} {atom : Atom} (drawn : atom.DrawnFrom domain) :
    atom ∈ allFrom domain atom.predicate atom.arity := by
  refine Finset.mem_image.mpr ⟨fun position => atom.args[position].text, ?_, ?_⟩
  · rw [Fintype.mem_piFinset]
    intro position
    obtain ⟨text, member, same⟩ := drawn atom.args[position] (List.getElem_mem _)
    rw [same]
    exact member
  · have listed : List.ofFn (fun position : Fin atom.arity => atom.args[position].text) =
        atom.texts := List.ofFn_getElem_eq_map atom.args Term.text
    rw [listed]
    exact drawn.ground_texts

end Atom

def conclusionsFrom (domain : Finset String) : List Rule → Finset Atom
  | [] => ∅
  | rule :: rules =>
      Atom.allFrom domain rule.conclusion.predicate rule.conclusion.arity ∪
        conclusionsFrom domain rules

def conclusionBound (domain : Finset String) (rules : List Rule) : Nat :=
  (rules.map fun rule => domain.card ^ rule.conclusion.arity).sum

theorem card_conclusionsFrom_le (domain : Finset String) (rules : List Rule) :
    (conclusionsFrom domain rules).card ≤ conclusionBound domain rules := by
  induction rules with
  | nil => exact Nat.le_refl 0
  | cons rule rules ih =>
      calc (conclusionsFrom domain (rule :: rules)).card
          ≤ (Atom.allFrom domain rule.conclusion.predicate rule.conclusion.arity).card +
              (conclusionsFrom domain rules).card := Finset.card_union_le _ _
        _ ≤ domain.card ^ rule.conclusion.arity + conclusionBound domain rules :=
            Nat.add_le_add (Atom.card_allFrom_le _ _ _) ih
        _ = conclusionBound domain (rule :: rules) := by simp [conclusionBound]

theorem mem_conclusionsFrom {domain : Finset String} {rules : List Rule} {rule : Rule} {atom : Atom}
    (member : rule ∈ rules) (drawn : atom.DrawnFrom domain)
    (samePredicate : atom.predicate = rule.conclusion.predicate)
    (sameArity : atom.arity = rule.conclusion.arity) : atom ∈ conclusionsFrom domain rules := by
  induction rules with
  | nil => contradiction
  | cons first rules ih =>
      rcases List.mem_cons.mp member with rfl | later
      · apply Finset.mem_union_left
        rw [← samePredicate, ← sameArity]
        exact Atom.mem_allFrom drawn
      · exact Finset.mem_union_right _ (ih later)

/-- A value that a solution gives to a variable stands in one of the known facts. -/
theorem Substitution.Solves.value_mem {s : Substitution} {premise : List Atom} {known : Set Atom}
    {domain : Finset String} (solves : s.Solves premise known)
    (drawn : ∀ atom ∈ known, atom.DrawnFrom domain) {name text : String}
    (bound : s name = some text) : text ∈ domain := by
  have named : name ∈ Atom.namesOf premise := (solves.domain name).mp (by simp [bound])
  obtain ⟨pattern, member, found⟩ := List.mem_flatMap.mp named
  obtain ⟨term, inside, same⟩ := List.mem_flatMap.mp found
  have instanceDrawn := drawn _ (solves.holds pattern member) (term.substitute s)
    (List.mem_map_of_mem inside)
  cases term with
  | const other => simp [Term.names] at same
  | var other =>
      simp only [Term.names, List.mem_singleton] at same
      subst same
      obtain ⟨value, known, equal⟩ := instanceDrawn
      simp only [Term.substitute_var, bound, Option.getD_some, Term.const.injEq] at equal
      exact equal ▸ known

theorem Atom.drawnFrom_substitute {s : Substitution} {premise : List Atom} {known : Set Atom}
    {domain : Finset String} (solves : s.Solves premise known)
    (drawn : ∀ atom ∈ known, atom.DrawnFrom domain) {conclusion : Atom}
    (written : ∀ text ∈ conclusion.texts, text ∈ domain) :
    (conclusion.substitute s).DrawnFrom domain := by
  intro term member
  obtain ⟨source, inside, rfl⟩ := List.mem_map.mp member
  have own : source.text ∈ domain := written _ (List.mem_map_of_mem inside)
  cases source with
  | const text => exact ⟨text, own, rfl⟩
  | var name =>
      cases bound : s name with
      | none => exact ⟨name, own, by simp [bound]⟩
      | some text => exact ⟨text, solves.value_mem drawn bound, by simp [bound]⟩

variable {rules : List Rule} {facts grown : FactList} {domain : Finset String}

theorem Growth.drawnFrom (run : Growth rules facts grown)
    (begun : ∀ atom ∈ facts, atom.DrawnFrom domain)
    (written : ∀ rule ∈ rules, ∀ text ∈ rule.conclusion.texts, text ∈ domain) :
    ∀ atom ∈ grown, atom.DrawnFrom domain := by
  induction run with
  | refl => exact begun
  | derive rule s _ member solves _ ih =>
      intro atom held
      rcases List.mem_append.mp held with old | last
      · exact ih atom old
      · rw [List.mem_singleton.mp last]
        exact Atom.drawnFrom_substitute solves ih (written rule member)

theorem Growth.old_or_conclusion (run : Growth rules facts grown) :
    ∀ atom ∈ grown, atom ∈ facts ∨ ∃ rule ∈ rules,
      atom.predicate = rule.conclusion.predicate ∧ atom.arity = rule.conclusion.arity := by
  induction run with
  | refl => exact fun atom held => Or.inl held
  | derive rule s _ member _ _ ih =>
      intro atom held
      rcases List.mem_append.mp held with old | last
      · exact ih atom old
      · rw [List.mem_singleton.mp last]
        exact Or.inr ⟨rule, member, rfl, List.length_map _⟩

/-- New facts are distinct, and all of them are among the conclusions over the domain. -/
theorem Growth.length_le {appended : List Atom} (run : Growth rules facts (facts ++ appended))
    (nodup : facts.Nodup) (begun : ∀ atom ∈ facts, atom.DrawnFrom domain)
    (written : ∀ rule ∈ rules, ∀ text ∈ rule.conclusion.texts, text ∈ domain) :
    appended.length ≤ conclusionBound domain rules := by
  obtain ⟨_, distinct, apart⟩ := List.nodup_append.mp (run.nodup nodup)
  have within : appended.toFinset ⊆ conclusionsFrom domain rules := by
    intro atom new
    rw [List.mem_toFinset] at new
    have held : atom ∈ facts ++ appended := List.mem_append_right facts new
    rcases run.old_or_conclusion atom held with old | ⟨rule, member, samePredicate, sameArity⟩
    · exact absurd rfl (apart atom old atom new)
    · have drawn := run.drawnFrom begun written atom held
      exact mem_conclusionsFrom member drawn samePredicate sameArity
  calc appended.length
      = appended.toFinset.card := (List.toFinset_card_of_nodup distinct).symm
    _ ≤ (conclusionsFrom domain rules).card := Finset.card_le_card within
    _ ≤ conclusionBound domain rules := card_conclusionsFrom_le domain rules

/-- The texts of the facts, and those of the conclusions, constants and variables alike. -/
def FactList.activeDomain (facts : FactList) (rules : List Rule) : Finset String :=
  (facts.flatMap Atom.texts ++ rules.flatMap fun rule => rule.conclusion.texts).toFinset

theorem FactList.mem_activeDomain {text : String} : text ∈ facts.activeDomain rules ↔
    (∃ atom ∈ facts, text ∈ atom.texts) ∨ ∃ rule ∈ rules, text ∈ rule.conclusion.texts := by
  simp [activeDomain]

theorem FactList.drawnFrom_activeDomain (ground : ∀ atom ∈ facts, atom.isGround) :
    ∀ atom ∈ facts, atom.DrawnFrom (facts.activeDomain rules) := by
  intro atom held term inside
  cases term with
  | const text =>
      refine ⟨text, mem_activeDomain.mpr (Or.inl ⟨atom, held, ?_⟩), rfl⟩
      exact List.mem_map_of_mem inside
  | var name =>
      have constant := Atom.isVar_of_isGround (ground atom held) inside
      contradiction

/-- A run appends facts over its active domain only, so there is a bound on the facts that it can
append; rounds exceed it by one at most, and a cap that high leaves every run saturated. -/
theorem solve_within_active_domain (store : FactStore) (rules : List Rule) (cap : Nat) :
    ∃ appended, (store.solve rules cap).value.1.toList = store.toList ++ appended ∧
      (∀ atom ∈ appended, atom.DrawnFrom (FactList.activeDomain store.toList rules)) ∧
      appended.length ≤ conclusionBound (FactList.activeDomain store.toList rules) rules ∧
      (store.solve rules cap).value.2.rounds ≤
        conclusionBound (FactList.activeDomain store.toList rules) rules + 1 ∧
      (conclusionBound (FactList.activeDomain store.toList rules) rules + 1 ≤ cap →
        (store.solve rules cap).value.2.saturated = true) := by
  have run := store.growth rules cap
  have course := FactList.course_solve rules cap store.toList
  have begun : ∀ atom ∈ store.toList, atom.DrawnFrom (FactList.activeDomain store.toList rules) :=
    FactList.drawnFrom_activeDomain fun atom member => FactStore.isGround_of_mem member
  have written : ∀ rule ∈ rules, ∀ text ∈ rule.conclusion.texts,
      text ∈ FactList.activeDomain store.toList rules :=
    fun rule member text inside => FactList.mem_activeDomain.mpr (Or.inr ⟨rule, member, inside⟩)
  obtain ⟨appended, whole⟩ := run.appends
  rw [← whole] at run
  have count := run.length_le store.nodup_toList begun written
  have size : (FactList.solve rules cap store.toList).1.length =
      store.toList.length + appended.length := by
    rw [← store.toList_solve, ← whole, List.length_append]
  rw [store.report_solve]
  refine ⟨appended, whole.symm, ?_, count, ?_, ?_⟩
  · exact fun atom new => run.drawnFrom begun written atom (List.mem_append_right _ new)
  · have rounds := course.rounds_le_growth
    omega
  · intro enough
    by_contra unsaturated
    -- Every round under the cap would have added a fact, more of them than there are.
    have fruitful := course.cap_le_growth (Bool.eq_false_of_not_eq_true unsaturated)
    omega

-- The road is a circle and `Z` is unbound. Over the five texts there are thirty conclusions.
theorem road_within_active_domain :
    conclusionBound (FactList.activeDomain Road.store.toList Road.rules) Road.rules + 1 ≤ 31 ∧
      (Road.store.solve Road.rules 31).value.2.saturated = true := by
  have enough :
      conclusionBound (FactList.activeDomain Road.store.toList Road.rules) Road.rules + 1 ≤ 31 := by
    rw [Road.toList_store]
    decide
  obtain ⟨_, _, _, _, _, saturated⟩ := solve_within_active_domain Road.store Road.rules 31
  exact ⟨enough, saturated enough⟩

end Deduction
