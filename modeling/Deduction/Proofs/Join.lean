import Deduction.Join
import Deduction.Proofs.FactList
import Deduction.Proofs.Matching

/-!
The join is exact. Its bindings are the solutions of the premise: the substitutions that bind the
variables of the premise, no others, and turn every premise atom into a fact. Each solution occurs
once, and the list is ordered by the positions of the facts that the premise atoms become, the first
atom deciding first. The induction follows the join from left to right; what is kept is that the
bindings found so far are the solutions of the atoms already taken.
-/

namespace Deduction

/-- A solution binds exactly the variables of the premise and turns its atoms into known ones. -/
structure Substitution.Solves (s : Substitution) (premise : List Atom) (known : Set Atom) :
    Prop where
  domain : ∀ name, (s name).isSome ↔ name ∈ Atom.namesOf premise
  holds : ∀ pattern ∈ premise, pattern.substitute s ∈ known

namespace FactList

/-- The join over a plain list: every fact is tried, the predicate is left to the match. -/
def join (facts : FactList) : List Atom → List Binding → List Binding
  | [], bindings => bindings
  | pattern :: rest, bindings => join facts rest (Binding.extensions pattern facts bindings)

def conclusions (facts : FactList) (rule : Rule) : List Atom :=
  (facts.join rule.premise [Binding.empty]).map fun binding => rule.conclusion.instantiate binding

/-- The positions of the facts that the atoms of a premise become. -/
def trail (facts : FactList) (premise : List Atom) (s : Substitution) : List Nat :=
  premise.map fun pattern => facts.idxOf (pattern.substitute s)

end FactList

def FactStore.trail (store : FactStore) (premise : List Atom) (s : Substitution) : List Nat :=
  FactList.trail store.toList premise s

theorem Atom.namesOf_append (first second : List Atom) :
    Atom.namesOf (first ++ second) = Atom.namesOf first ++ Atom.namesOf second := by
  simp [Atom.namesOf]

@[simp] theorem Atom.namesOf_singleton (atom : Atom) : Atom.namesOf [atom] = atom.names := by
  simp [Atom.namesOf]

theorem Atom.mem_namesOf {premise : List Atom} {pattern : Atom} (member : pattern ∈ premise)
    {name : String} (found : name ∈ pattern.names) : name ∈ Atom.namesOf premise :=
  List.mem_flatMap.mpr ⟨pattern, member, found⟩

-- The index may leave out only facts of another predicate, and those match nothing.
theorem Binding.extensions_filter (pattern : Atom) (facts : FactList) (bindings : List Binding) :
    Binding.extensions pattern (facts.filter fun fact => fact.predicate = pattern.predicate)
        bindings = Binding.extensions pattern facts bindings := by
  unfold Binding.extensions
  congr
  funext binding
  rw [List.filterMap_filter]
  congr
  funext fact
  by_cases same : fact.predicate = pattern.predicate
  · simp [same]
  · simp [same, Atom.match?, Ne.symm same]

theorem FactStore.join_eq (store : FactStore) (premise : List Atom) (bindings : List Binding) :
    store.join premise bindings = FactList.join store.toList premise bindings := by
  induction premise generalizing bindings with
  | nil => rfl
  | cons pattern rest ih =>
      rw [FactStore.join, FactList.join, ih, store.withPredicate_eq_filter,
        Binding.extensions_filter]

theorem Rule.bindings_eq (rule : Rule) (store : FactStore) :
    rule.bindings store = FactList.join store.toList rule.premise [Binding.empty] :=
  store.join_eq rule.premise [Binding.empty]

theorem Rule.conclusions_eq (rule : Rule) (store : FactStore) :
    rule.conclusions store = FactList.conclusions store.toList rule := by
  rw [Rule.conclusions, rule.bindings_eq]
  rfl

theorem Binding.mem_extensions {pattern : Atom} {facts : FactList} {bindings : List Binding}
    {after : Binding} : after ∈ Binding.extensions pattern facts bindings ↔
      ∃ before ∈ bindings, ∃ fact ∈ facts, pattern.match? fact before = some after := by
  simp [Binding.extensions]

/-! Lists of one length compare alike whatever follows them. -/

theorem append_lt_append {left right : List Nat} (length : left.length = right.length)
    (less : left < right) (leftRest rightRest : List Nat) :
    left ++ leftRest < right ++ rightRest := by
  induction left generalizing right with
  | nil =>
      cases right with
      | nil => exact absurd less (List.lt_irrefl [])
      | cons => simp at length
  | cons first left ih =>
      cases right with
      | nil => simp at length
      | cons second right =>
          simp only [List.length_cons, Nat.add_right_cancel_iff] at length
          simp only [List.cons_append, List.cons_lt_cons_iff] at less ⊢
          rcases less with smaller | ⟨same, later⟩
          · exact Or.inl smaller
          · exact Or.inr ⟨same, ih length later⟩

theorem idxOf_ascending {facts : FactList} (nodup : facts.Nodup) :
    facts.Pairwise fun first second => facts.idxOf first < facts.idxOf second := by
  rw [List.pairwise_iff_getElem]
  intro i j insideFirst insideSecond before
  rwa [nodup.idxOf_getElem, nodup.idxOf_getElem]

structure Joined (facts : FactList) (premise : List Atom) (bindings : List Binding) : Prop where
  sound : ∀ binding ∈ bindings, binding.substitution.Solves premise facts.atoms
  complete : ∀ s : Substitution, s.Solves premise facts.atoms →
    ∃ binding ∈ bindings, binding.substitution = s
  keyed : ∀ binding ∈ bindings, (binding.map Prod.fst).Nodup
  ordered : facts.Nodup → bindings.Pairwise fun first second =>
    facts.trail premise first.substitution < facts.trail premise second.substitution

theorem joined_empty (facts : FactList) : Joined facts [] [Binding.empty] where
  sound := by
    intro binding member
    rw [List.mem_singleton.mp member]
    exact ⟨by simp [Binding.substitution, Binding.value?, Binding.empty, Atom.namesOf], by simp⟩
  complete := by
    intro s solves
    refine ⟨Binding.empty, List.mem_singleton_self _, ?_⟩
    funext name
    have free : s name = none := by simpa [Atom.namesOf] using solves.domain name
    rw [free]
    rfl
  keyed := by simp [Binding.empty]
  ordered := by simp

namespace Joined

variable {facts : FactList} {premise : List Atom} {bindings : List Binding} {pattern : Atom}

-- A match keeps the instances of the atoms taken before.
theorem substitute_eq {before after : Binding} {fact : Atom}
    (solves : before.substitution.Solves premise facts.atoms)
    (matched : pattern.match? fact before = some after) {earlier : Atom}
    (member : earlier ∈ premise) :
    earlier.substitute before.substitution = earlier.substitute after.substitution := by
  apply earlier.substitute_within (Atom.match?_sound matched).1.within
  intro name found
  exact (solves.domain name).mpr (Atom.mem_namesOf member found)

theorem solves_of_match {before after : Binding} {fact : Atom}
    (solves : before.substitution.Solves premise facts.atoms) (known : fact ∈ facts)
    (matched : pattern.match? fact before = some after) :
    after.substitution.Solves (premise ++ [pattern]) facts.atoms := by
  obtain ⟨grows, becomes⟩ := Atom.match?_sound matched
  constructor
  · intro name
    rw [grows.domain, solves.domain, Atom.namesOf_append, List.mem_append,
      Atom.namesOf_singleton]
  · intro atom member
    rcases List.mem_append.mp member with earlier | last
    · rw [← substitute_eq solves matched earlier]
      exact solves.holds atom earlier
    · rw [List.mem_singleton.mp last, becomes]
      exact known

theorem trail_of_match {before after : Binding} {fact : Atom}
    (solves : before.substitution.Solves premise facts.atoms)
    (matched : pattern.match? fact before = some after) :
    facts.trail (premise ++ [pattern]) after.substitution =
      facts.trail premise before.substitution ++ [facts.idxOf fact] := by
  simp only [FactList.trail, List.map_append, List.map_cons, List.map_nil,
    (Atom.match?_sound matched).2]
  congr 1
  apply List.map_congr_left
  intro earlier member
  rw [substitute_eq solves matched member]

-- Restricting a solution to the atoms taken before leaves a solution of them.
theorem only_solves {s : Substitution} (solves : s.Solves (premise ++ [pattern]) facts.atoms) :
    (s.only (Atom.namesOf premise)).Solves premise facts.atoms := by
  have bound : ∀ name ∈ Atom.namesOf premise, (s name).isSome := by
    intro name member
    rw [solves.domain, Atom.namesOf_append]
    exact List.mem_append_left _ member
  constructor
  · intro name
    by_cases member : name ∈ Atom.namesOf premise
    · simp [Substitution.only, member, bound name member]
    · simp [Substitution.only, member]
  · intro atom member
    have same : atom.substitute (s.only (Atom.namesOf premise)) = atom.substitute s := by
      apply atom.substitute_within (s.only_within _)
      intro name found
      have inside := Atom.mem_namesOf member found
      simp [Substitution.only, inside, bound name inside]
    rw [same]
    exact solves.holds atom (List.mem_append_left _ member)

/-- Every solution of one atom more is reached from the binding of its restriction. -/
theorem complete_extensions (joined : Joined facts premise bindings) {s : Substitution}
    (solves : s.Solves (premise ++ [pattern]) facts.atoms) :
    ∃ after ∈ Binding.extensions pattern facts bindings, after.substitution = s := by
  obtain ⟨before, member, same⟩ := joined.complete _ (only_solves solves)
  have within : before.substitution.Within s := by
    rw [same]
    exact s.only_within _
  have known : pattern.substitute s ∈ facts := solves.holds pattern (by simp)
  have bound : ∀ name ∈ pattern.names, (s name).isSome := by
    intro name found
    rw [solves.domain, Atom.namesOf_append, Atom.namesOf_singleton]
    exact List.mem_append_right _ found
  obtain ⟨after, matched, afterWithin⟩ := Atom.match?_complete within pattern bound
  refine ⟨after, Binding.mem_extensions.mpr ⟨before, member, _, known, matched⟩, ?_⟩
  -- What the match leaves lies within `s` and binds the same names.
  apply afterWithin.eq_of_domain
  intro name present
  have found := (solves.domain name).mp present
  exact ((solves_of_match (joined.sound before member) known matched).domain name).mpr found

/-- Bindings that come from different ones are ordered like these; those that come from the same one
are ordered by the facts that they were matched with. -/
theorem ordered_extensions (joined : Joined facts premise bindings) (nodup : facts.Nodup) :
    (Binding.extensions pattern facts bindings).Pairwise fun first second =>
      facts.trail (premise ++ [pattern]) first.substitution <
        facts.trail (premise ++ [pattern]) second.substitution := by
  rw [Binding.extensions, List.pairwise_flatMap]
  constructor
  · intro before member
    rw [List.pairwise_filterMap]
    apply (idxOf_ascending nodup).imp
    intro fact other less first matched second otherMatched
    have solves := joined.sound before member
    rw [trail_of_match solves matched, trail_of_match solves otherMatched]
    exact List.append_left_lt (by simpa [List.cons_lt_cons_iff] using less)
  · apply (joined.ordered nodup).imp_of_mem
    intro before other member otherMember less first found second otherFound
    obtain ⟨fact, _, matched⟩ := List.mem_filterMap.mp found
    obtain ⟨otherFact, _, otherMatched⟩ := List.mem_filterMap.mp otherFound
    rw [trail_of_match (joined.sound before member) matched,
      trail_of_match (joined.sound other otherMember) otherMatched]
    exact append_lt_append (by simp [FactList.trail]) less _ _

theorem step (joined : Joined facts premise bindings) (pattern : Atom) :
    Joined facts (premise ++ [pattern]) (Binding.extensions pattern facts bindings) where
  sound := by
    intro after member
    obtain ⟨before, held, fact, known, matched⟩ := Binding.mem_extensions.mp member
    exact solves_of_match (joined.sound before held) known matched
  complete := fun _ solves => joined.complete_extensions solves
  keyed := by
    intro after member
    obtain ⟨before, held, fact, _, matched⟩ := Binding.mem_extensions.mp member
    exact (Atom.match?_sound matched).1.keyed (joined.keyed before held)
  ordered := joined.ordered_extensions

theorem run (joined : Joined facts premise bindings) (rest : List Atom) :
    Joined facts (premise ++ rest) (facts.join rest bindings) := by
  induction rest generalizing premise bindings with
  | nil => simpa [FactList.join] using joined
  | cons pattern rest ih =>
      have next := ih (joined.step pattern)
      rwa [List.append_assoc, List.singleton_append] at next

end Joined

theorem joined_join (facts : FactList) (premise : List Atom) :
    Joined facts premise (facts.join premise [Binding.empty]) :=
  (joined_empty facts).run premise

theorem joined_bindings (rule : Rule) (store : FactStore) :
    Joined store.toList rule.premise (rule.bindings store) := by
  rw [rule.bindings_eq]
  exact joined_join store.toList rule.premise

/-- What a rule concludes from a list of facts are the conclusion's instances under solutions. -/
theorem FactList.mem_conclusions {facts : FactList} {rule : Rule} {atom : Atom} :
    atom ∈ facts.conclusions rule ↔
      ∃ s : Substitution, s.Solves rule.premise facts.atoms ∧
        rule.conclusion.substitute s = atom := by
  have joined := joined_join facts rule.premise
  rw [FactList.conclusions, List.mem_map]
  constructor
  · rintro ⟨binding, member, rfl⟩
    exact ⟨binding.substitution, joined.sound binding member,
      (rule.conclusion.instantiate_eq_substitute binding).symm⟩
  · rintro ⟨s, solves, rfl⟩
    obtain ⟨binding, member, rfl⟩ := joined.complete s solves
    exact ⟨binding, member, rule.conclusion.instantiate_eq_substitute binding⟩

theorem FactList.isGround_of_mem_conclusions {facts : FactList} {rule : Rule} {atom : Atom}
    (concluded : atom ∈ facts.conclusions rule) : atom.isGround := by
  obtain ⟨s, _, rfl⟩ := FactList.mem_conclusions.mp concluded
  exact rule.conclusion.isGround_substitute s

/-- The bindings of a rule are the solutions of its premise, each once and in the order of the
positions of their facts; the conclusions are the instances under them, in the same order. -/
theorem bindings_exact (rule : Rule) (store : FactStore) :
    (∀ s : Substitution, s ∈ (rule.bindings store).map Binding.substitution ↔
      s.Solves rule.premise store.atoms) ∧
    ((rule.bindings store).map Binding.substitution).Nodup ∧
    ((rule.bindings store).map Binding.substitution).Pairwise (fun first second =>
      store.trail rule.premise first < store.trail rule.premise second) ∧
    (∀ binding ∈ rule.bindings store, (binding.map Prod.fst).Nodup) ∧
    (Rule.bindings ⟨[], rule.conclusion, rule.label⟩ store).map Binding.substitution =
      [fun _ => none] ∧
    rule.conclusions store = ((rule.bindings store).map Binding.substitution).map
      fun s => rule.conclusion.substitute s := by
  have joined := joined_bindings rule store
  have ordered : ((rule.bindings store).map Binding.substitution).Pairwise (fun first second =>
      store.trail rule.premise first < store.trail rule.premise second) :=
    List.pairwise_map.mpr (joined.ordered store.nodup_toList)
  refine ⟨?_, ?_, ordered, joined.keyed, rfl, ?_⟩
  · intro s
    rw [List.mem_map]
    constructor
    · rintro ⟨binding, member, rfl⟩
      exact joined.sound binding member
    · exact joined.complete s
  · -- Equal substitutions have equal trails, so a strict order leaves no room for repeats.
    apply ordered.imp
    intro first second less same
    rw [same] at less
    exact List.lt_irrefl _ less
  · simp only [Rule.conclusions, List.map_map]
    exact List.map_congr_left fun binding _ => rule.conclusion.instantiate_eq_substitute binding

/-! Places on a circular road, reached one from the other. The second rule leaves `Z` unbound. -/

namespace Road

def facts : List Atom :=
  [.ground "next" ["a", "b"], .ground "next" ["b", "a"], .ground "reach" ["a"]]

def follow : Rule :=
  ⟨[⟨"reach", [.var "X"]⟩, ⟨"next", [.var "X", .var "Y"]⟩], ⟨"reach", [.var "Y"]⟩, "follow"⟩

def mark : Rule :=
  ⟨[⟨"reach", [.var "X"]⟩], ⟨"seen", [.var "X", .var "Z"]⟩, "mark"⟩

def rules : List Rule :=
  [follow, mark]

def store : FactStore :=
  (FactStore.ofList facts).value

theorem toList_store : store.toList = facts := by
  rw [store, FactStore.toList_ofList]
  decide

end Road

theorem road_binding_keyed :
    [("Y", "b"), ("X", "a")] ∈ Road.follow.bindings Road.store ∧
      (["Y", "X"] : List String).Nodup := by
  have member : [("Y", "b"), ("X", "a")] ∈ Road.follow.bindings Road.store := by
    rw [Rule.bindings_eq, Road.toList_store]
    decide
  exact ⟨member, (bindings_exact Road.follow Road.store).2.2.2.1 _ member⟩

end Deduction
