import Deduction.Proofs.Rounds

/-!
How facts come about. In one step a rule of the list has a solution over the facts listed so far and
the instance of its conclusion, not listed yet, is appended. Every run of the solver is a sequence
of such steps, although a batch is computed before its first atom is appended: facts never leave the
list, so what solved the premise then still does. Whatever holds of one step therefore holds of a
whole run, saturated or not; first of all that every new fact rests on facts before it.
-/

namespace Deduction

theorem Substitution.Solves.mono {s : Substitution} {premise : List Atom} {small large : Set Atom}
    (solves : s.Solves premise small) (within : ∀ atom ∈ small, atom ∈ large) :
    s.Solves premise large :=
  ⟨solves.domain, fun pattern member => within _ (solves.holds pattern member)⟩

inductive Growth (rules : List Rule) (facts : FactList) : FactList → Prop where
  | refl : Growth rules facts facts
  | derive {grown : FactList} (rule : Rule) (s : Substitution) : Growth rules facts grown →
      rule ∈ rules → s.Solves rule.premise grown.atoms →
      rule.conclusion.substitute s ∉ grown →
      Growth rules facts (grown ++ [rule.conclusion.substitute s])

variable {rules : List Rule} {facts grown : FactList}

theorem Growth.appends (run : Growth rules facts grown) : facts <+: grown := by
  induction run with
  | refl => exact List.prefix_refl facts
  | derive rule s _ _ _ _ ih => exact ih.trans (List.prefix_append _ _)

theorem Growth.nodup (run : Growth rules facts grown) (nodup : facts.Nodup) : grown.Nodup := by
  induction run with
  | refl => exact nodup
  | derive rule s _ _ _ fresh ih =>
      apply ih.append (List.nodup_singleton _)
      rw [List.disjoint_singleton]
      exact fresh

theorem growth_addAll {base : FactList} {rule : Rule} (member : rule ∈ rules)
    (atoms : List Atom) (concluded : ∀ atom ∈ atoms, atom ∈ base.conclusions rule)
    (seen : base <+: grown) (run : Growth rules facts grown) :
    Growth rules facts (grown.addAll atoms) := by
  induction atoms generalizing grown with
  | nil => exact run
  | cons atom atoms ih =>
      have later : ∀ other ∈ atoms, other ∈ base.conclusions rule :=
        fun other held => concluded other (List.mem_cons_of_mem atom held)
      rw [FactList.addAll_cons]
      by_cases old : atom ∈ grown
      · rw [FactList.add_of_mem old]
        exact ih later seen run
      · obtain ⟨s, solves, rfl⟩ := FactList.mem_conclusions.mp (concluded atom List.mem_cons_self)
        rw [FactList.add_of_not_mem (rule.conclusion.isGround_substitute s) old]
        -- The batch looked at `base`; what it found there is still listed.
        have solvesNow := solves.mono fun fact known => seen.subset known
        exact ih later (seen.trans (List.prefix_append _ _))
          (Growth.derive rule s run member solvesNow old)

theorem growth_turn {rule : Rule} (member : rule ∈ rules) (run : Growth rules facts grown) :
    Growth rules facts (grown.turn rule) :=
  growth_addAll member _ (fun _ concluded => concluded) (List.prefix_refl grown) run

theorem growth_round (turns : List Rule) (members : ∀ rule ∈ turns, rule ∈ rules)
    (run : Growth rules facts grown) : Growth rules facts (grown.round turns) := by
  induction turns generalizing grown with
  | nil => exact run
  | cons rule turns ih =>
      rw [FactList.round_cons]
      apply ih fun later held => members later (List.mem_cons_of_mem rule held)
      exact growth_turn (members rule List.mem_cons_self) run

theorem FactList.Course.growth {cap : Nat} {final : FactList} {report : Report}
    (course : Course rules cap grown final report) (run : Growth rules facts grown) :
    Growth rules facts final := by
  induction course with
  | capped => exact run
  | fruitless => exact run
  | fruitful _ _ ih => exact ih (growth_round rules (fun _ member => member) run)

theorem FactStore.growth (store : FactStore) (rules : List Rule) (cap : Nat) :
    Growth rules store.toList (store.solve rules cap).value.1.toList :=
  (store.course rules cap).growth Growth.refl

/-- The fact at a position is a rule's conclusion, under a substitution for the variables of the
premise that turns every premise atom into a fact at an earlier position. -/
def FactList.SupportedAt (rules : List Rule) (facts : FactList) (position : Nat) : Prop :=
  ∃ rule ∈ rules, ∃ s : Substitution,
    (∀ name, (s name).isSome ↔ name ∈ Atom.namesOf rule.premise) ∧
    (∀ pattern ∈ rule.premise, ∃ earlier < position,
      facts[earlier]? = some (pattern.substitute s)) ∧
    facts[position]? = some (rule.conclusion.substitute s)

-- Support looks at listed positions only, so it outlives whatever is appended.
theorem FactList.SupportedAt.append {position : Nat} (supported : SupportedAt rules facts position)
    (more : List Atom) : SupportedAt rules (facts ++ more) position := by
  have kept : ∀ {index : Nat} {atom : Atom}, facts[index]? = some atom →
      (facts ++ more)[index]? = some atom := by
    intro index atom found
    rw [List.getElem?_append_left (List.getElem?_eq_some_iff.mp found).1]
    exact found
  obtain ⟨rule, member, s, domain, earlier, concluded⟩ := supported
  refine ⟨rule, member, s, domain, ?_, kept concluded⟩
  intro pattern held
  obtain ⟨index, before, found⟩ := earlier pattern held
  exact ⟨index, before, kept found⟩

theorem Growth.supported (run : Growth rules facts grown) :
    ∀ position, facts.length ≤ position → position < grown.length →
      FactList.SupportedAt rules grown position := by
  induction run with
  | refl =>
      intro position old inside
      omega
  | @derive grown rule s _ member solves _ ih =>
      intro position old inside
      rw [List.length_append, List.length_singleton] at inside
      by_cases last : position = grown.length
      · subst last
        refine ⟨rule, member, s, solves.domain, ?_, by simp⟩
        intro pattern held
        obtain ⟨index, found⟩ := List.mem_iff_getElem?.mp (solves.holds pattern held)
        have before := (List.getElem?_eq_some_iff.mp found).1
        exact ⟨index, before, by rw [List.getElem?_append_left before, found]⟩
      · exact (ih position old (by omega)).append _

/-- A run only appends, and each fact that it appends is supported by facts at earlier positions. -/
theorem solve_appends_supported (store : FactStore) (rules : List Rule) (cap : Nat) :
    store.toList <+: (store.solve rules cap).value.1.toList ∧
      ∀ position, store.size ≤ position → position < (store.solve rules cap).value.1.size →
        FactList.SupportedAt rules (store.solve rules cap).value.1.toList position :=
  ⟨(store.growth rules cap).appends, (store.growth rules cap).supported⟩

-- The capped run appends `reach(b)`, `seen(a, Z)` and `seen(b, Z)`; the last rests on the first.
theorem road_last_supported :
    Road.store.size ≤ 5 ∧ 5 < (Road.store.solve Road.rules 1).value.1.size ∧
      FactList.SupportedAt Road.rules (Road.store.solve Road.rules 1).value.1.toList 5 := by
  have old : Road.store.size ≤ 5 := by
    rw [← FactStore.length_toList, Road.toList_store]
    decide
  have inside : 5 < (Road.store.solve Road.rules 1).value.1.size := by
    rw [← FactStore.length_toList, FactStore.toList_solve, Road.toList_store]
    decide
  exact ⟨old, inside, (solve_appends_supported Road.store Road.rules 1).2 5 old inside⟩

end Deduction
