import Deduction.Proofs.LineGrammar
import Deduction.Proofs.WrittenAtom

/-!
Rules read back. A line is a rule when the text after its first arrow holds an atom. The written
form of a rule has no other arrow before the one it is written with, as long as none of the premise
arguments holds one, and nothing is trimmed from it. So reading the written form finds every legible
atom anew, and whether the rule comes back is decided atom by atom.
-/

namespace Deduction

open RuleText

namespace RuleText

theorem parseLine_of_arrow {text front back : List Char}
    (divided : Text.trim text = front ++ (arrow.toList ++ back))
    (first : ¬ arrow.toList <:+: front ++ arrow.toList.dropLast)
    (noComment : (Text.trim text).head? ≠ some commentMark) :
    (parseLine text).value =
      match scanAtoms back with
      | [] => .error .noConclusion
      | conclusion :: _ => .ok ⟨scanAtoms front, conclusion, String.ofList (Text.trim text)⟩ := by
  have cut : Text.FirstOccurrence arrow.toList (Text.trim text) front back :=
    (Text.firstOccurrence_iff arrow_ne_nil).mpr
      ((Text.cut?_eq_some_iff arrow_ne_nil).mpr ⟨divided, first⟩)
  rw [parseLine_eq_ruleOf (Text.core_trim text) (cut.text_ne_nil arrow_ne_nil) noComment]
  cases scanned : scanAtoms back with
  | nil => rw [ruleOf_of_noConclusion cut scanned]
  | cons conclusion extra => rw [ruleOf_of_conclusion cut scanned]

theorem parseLine_eq_ok {text : List Char} {rule : Rule}
    (read : (parseLine text).value = .ok rule) :
    ∃ front back extra, Text.trim text = front ++ (arrow.toList ++ back) ∧
      ¬ arrow.toList <:+: front ++ arrow.toList.dropLast ∧
      rule.premise = scanAtoms front ∧ scanAtoms back = rule.conclusion :: extra ∧
      rule.label = String.ofList (Text.trim text) ∧
      (Text.trim text).head? ≠ some commentMark := by
  generalize parsed : parseLine text = logged at read
  cases parseLine_eq_iff.mp parsed with
  | blank | comment | noArrow | noConclusion => contradiction
  | @rule line front back conclusion extra core noComment cut _ scanned =>
      cases read
      obtain rfl : Text.trim text = line := Text.core_iff.mp core
      obtain ⟨divided, first⟩ := (Text.cut?_eq_some_iff arrow_ne_nil).mp
        ((Text.firstOccurrence_iff arrow_ne_nil).mp cut)
      exact ⟨front, back, extra, divided, first, rfl, scanned, rfl, noComment⟩

end RuleText

/-- Every atom can be found where it is written, and the arrow is the first one. -/
@[mk_iff]
structure Rule.Legible (rule : Rule) : Prop where
  legible : ∀ atom ∈ rule.conclusion :: rule.premise, atom.Legible
  noArrow : ∀ atom ∈ rule.premise, ∀ term ∈ atom.args, ¬ arrow.toList <:+: term.text.toList

instance (rule : Rule) : Decidable rule.Legible :=
  decidable_of_iff _ (Rule.legible_iff rule).symm

def Rule.front (rule : Rule) : List Char :=
  match rule.premise with
  | [] => []
  | premise => (String.intercalate ", " (premise.map Atom.written)).toList ++ [' ']

theorem Rule.toList_written (rule : Rule) :
    rule.written.toList =
      rule.front ++ (arrow.toList ++ ' ' :: rule.conclusion.written.toList) := by
  obtain ⟨premise, conclusion, label⟩ := rule
  cases premise with
  | nil => simp [Rule.written, Rule.front, arrow]
  | cons atom rest => simp [Rule.written, Rule.front, arrow]

theorem Atom.Legible.not_infix_written {atom : Atom} (legible : atom.Legible)
    (noArrow : ∀ term ∈ atom.args, ¬ arrow.toList <:+: term.text.toList) :
    ¬ arrow.toList <:+: atom.written.toList := by
  rw [Atom.toList_written, List.append_assoc]
  intro inside
  rcases Text.infix_append_cons arrow_ne_nil (by decide) inside with inName | inside
  · exact absurd (legible.isWord_of_mem (inName.subset List.mem_cons_self)) (by decide)
  rcases Text.infix_append_cons arrow_ne_nil (by decide) inside with inBody | inEnd
  · refine Text.not_infix_intercalate arrow_ne_nil (by decide) (by decide) ?_ inBody
    exact List.forall_mem_map.mpr noArrow
  · exact arrow_ne_nil (List.infix_nil.mp inEnd)

namespace Rule.Legible

variable {rule : Rule}

theorem scanAtoms_front (legible : rule.Legible) :
    scanAtoms rule.front = rule.premise.filterMap Atom.reread? := by
  have premiseLegible := (List.forall_mem_cons.mp legible.legible).2
  rw [Rule.front]
  split
  next none => rw [none, scanAtoms_nil, List.filterMap_nil]
  · have noAtom : scanAtoms [' '] = [] := scanAtoms_of_not_mem (by decide)
    rw [scanAtoms_intercalate premiseLegible, noAtom, List.append_nil]

theorem not_infix_front (legible : rule.Legible) :
    ¬ arrow.toList <:+: rule.front ++ arrow.toList.dropLast := by
  have premiseLegible := (List.forall_mem_cons.mp legible.legible).2
  rw [Rule.front]
  split
  · decide
  · rw [List.append_assoc]
    intro inside
    rcases Text.infix_append_cons arrow_ne_nil (by decide) inside with inPremise | inEnd
    · refine Text.not_infix_intercalate arrow_ne_nil (by decide) (by decide) ?_ inPremise
      exact List.forall_mem_map.mpr fun atom member =>
        (premiseLegible atom member).not_infix_written (legible.noArrow atom member)
    · exact absurd inEnd (by decide)

theorem head_written (legible : rule.Legible) :
    ∃ c, rule.written.toList.head? = some c ∧ (c = '=' ∨ isWord c = true) := by
  rw [Rule.toList_written, Rule.front]
  split
  · exact ⟨'=', rfl, Or.inl rfl⟩
  next atoms some =>
      obtain ⟨atom, rest, whole⟩ := List.exists_cons_of_ne_nil some
      have named := legible.legible atom (by simp [whole])
      obtain ⟨c, more, name⟩ := List.exists_cons_of_ne_nil named.name_ne_nil
      obtain ⟨after, joined⟩ := Text.prefix_intercalate ", " atom.written (rest.map Atom.written)
      refine ⟨c, ?_, Or.inr (named.isWord_of_mem (by simp [name]))⟩
      rw [whole, List.map_cons, ← joined, Atom.toList_written, name]
      rfl

theorem not_padded_written (legible : rule.Legible) :
    ¬ Text.Padded Text.isBlank rule.written.toList := by
  rw [Text.padded_iff]
  rintro ⟨c, first | last, blank⟩
  · obtain ⟨d, head, mark⟩ := legible.head_written
    obtain rfl : d = c := Option.some.inj (head.symm.trans first)
    rcases mark with rfl | word
    · exact absurd blank (by decide)
    · exact Bool.eq_false_iff.mp (isWord_of_isBlank blank) word
  · have whole : rule.written.toList = rule.front ++ (arrow.toList ++
        ' ' :: (rule.conclusion.predicate.toList ++ '(' :: rule.conclusion.body)) ++ [')'] := by
      simp [Rule.toList_written, Atom.toList_written]
    have closing : rule.written.toList.getLast? = some ')' := by
      rw [whole, List.getLast?_concat]
    obtain rfl : ')' = c := Option.some.inj (closing.symm.trans last)
    exact absurd blank (by decide)

/-- Reading a written rule reads each of its atoms anew. -/
theorem parseLine_written (legible : rule.Legible) :
    (parseLine rule.written.toList).value =
      match rule.conclusion.reread? with
      | none => .error .noConclusion
      | some conclusion =>
          .ok ⟨rule.premise.filterMap Atom.reread?, conclusion, rule.written⟩ := by
  have bare : Text.trim rule.written.toList = rule.written.toList :=
    Text.trimBy_eq_self.mpr legible.not_padded_written
  have noComment : rule.written.toList.head? ≠ some commentMark := by
    obtain ⟨c, head, equal | word⟩ := legible.head_written
    · rw [head, equal]
      decide
    · rw [head]
      rintro ⟨⟩
      exact absurd word (by decide)
  have conclusionLegible := legible.legible rule.conclusion List.mem_cons_self
  have scanned : scanAtoms (' ' :: rule.conclusion.written.toList) =
      rule.conclusion.reread?.toList := by
    rw [← List.singleton_append, scanAtoms_skip (by decide),
      ← List.append_nil rule.conclusion.written.toList, conclusionLegible.scanAtoms_written,
      scanAtoms_nil, List.append_nil]
  rw [parseLine_of_arrow (bare.trans rule.toList_written) legible.not_infix_front
    (bare.symm ▸ noComment), scanned, legible.scanAtoms_front, bare, String.ofList_toList]
  cases rule.conclusion.reread? with
  | none => rfl
  | some conclusion => rfl

end Rule.Legible

theorem filterMap_reread?_eq_self {atoms : List Atom} :
    atoms.filterMap Atom.reread? = atoms ↔ ∀ atom ∈ atoms, atom.reread? = some atom := by
  induction atoms with
  | nil => simp
  | cons atom rest ih =>
      rw [List.forall_mem_cons, ← ih]
      cases same : atom.reread? with
      | none =>
          rw [List.filterMap_cons_none same]
          constructor
          · intro whole
            have bound := List.length_filterMap_le Atom.reread? rest
            rw [whole, List.length_cons] at bound
            omega
          · exact nofun
      | some other => rw [List.filterMap_cons_some same, List.cons.injEq, Option.some.injEq]

/-- Reading a rule's written form returns the rule exactly when it returns every atom. -/
theorem Rule.Legible.parseLine_written_iff {rule : Rule} (legible : rule.Legible) :
    (∃ again, (parseLine rule.written.toList).value = .ok again ∧
        again.premise = rule.premise ∧ again.conclusion = rule.conclusion) ↔
      ∀ atom ∈ rule.conclusion :: rule.premise, atom.reread? = some atom := by
  rw [legible.parseLine_written, List.forall_mem_cons, ← filterMap_reread?_eq_self]
  cases rule.conclusion.reread? with
  | none => simp
  | some conclusion =>
      constructor
      · rintro ⟨_, ⟨⟩, premise, rfl⟩
        exact ⟨rfl, premise⟩
      · rintro ⟨⟨⟩, premise⟩
        exact ⟨_, rfl, premise, rfl⟩

/-- What was read from a line can be written and found again. -/
theorem legible_of_parseLine {text : List Char} {rule : Rule}
    (read : (parseLine text).value = .ok rule) :
    rule.Legible ∧
      ∀ atom ∈ rule.conclusion :: rule.premise, ∀ term ∈ atom.args, term.Settled := by
  obtain ⟨front, back, extra, _, first, premise, scanned, _⟩ := parseLine_eq_ok read
  have fromConclusion := legible_of_mem_scanAtoms (scanned ▸ List.mem_cons_self)
  have fromPremise : ∀ atom ∈ rule.premise,
      atom.Legible ∧ ∀ term ∈ atom.args, term.Settled ∧ term.text.toList <:+: front :=
    premise ▸ fun atom member => legible_of_mem_scanAtoms member
  refine ⟨⟨?_, ?_⟩, ?_⟩
  · exact List.forall_mem_cons.mpr
      ⟨fromConclusion.1, fun atom member => (fromPremise atom member).1⟩
  · -- An arrow in a premise argument would be an arrow before the first one.
    intro atom member term held inside
    have inFront := inside.trans ((fromPremise atom member).2 term held).2
    exact first (inFront.trans (List.prefix_append _ _).isInfix)
  · exact List.forall_mem_cons.mpr ⟨fun term held => (fromConclusion.2 term held).1,
      fun atom member term held => ((fromPremise atom member).2 term held).1⟩

/-- A legible rule of settled terms that loses nothing comes back whole from its written form, which
becomes its label. Of a rule that was read from some text, premise and conclusion come back exactly
if no argument is padded with blanks, as it can be within quotes, and no atom has an empty text as
its only argument. -/
theorem written_rule_reads_back :
    (∀ rule : Rule, rule.Legible →
      (∀ atom ∈ rule.conclusion :: rule.premise,
        atom.Kept ∧ ∀ term ∈ atom.args, term.Settled) →
      (parseLine rule.written.toList).value = .ok { rule with label := rule.written }) ∧
    ∀ text rule, (parseLine text).value = .ok rule →
      ((∃ again, (parseLine rule.written.toList).value = .ok again ∧
          again.premise = rule.premise ∧ again.conclusion = rule.conclusion) ↔
        ∀ atom ∈ rule.conclusion :: rule.premise, atom.Kept) := by
  constructor
  · intro rule legible plain
    have same : ∀ atom ∈ rule.conclusion :: rule.premise, atom.reread? = some atom :=
      fun atom member => (Atom.reread?_eq_self (plain atom member).2).mpr (plain atom member).1
    rw [List.forall_mem_cons] at same
    rw [legible.parseLine_written, same.1, filterMap_reread?_eq_self.mpr same.2]
  · intro text rule read
    obtain ⟨legible, settled⟩ := legible_of_parseLine read
    rw [legible.parseLine_written_iff]
    exact forall₂_congr fun atom member => Atom.reread?_eq_self (settled atom member)

def nestedRule : Rule where
  premise := [⟨"größe_2", [.const "(a b", .const "", .var "X"]⟩, ⟨"q", [.const "", .const ""]⟩]
  conclusion := ⟨"r", [.const "x=>y", .const "it's"]⟩

-- Blanks within quotes are read into the argument, but the written form has no quotes.
theorem nested_rule_reads_back :
    nestedRule.Legible ∧
      (parseLine nestedRule.written.toList).value =
        .ok { nestedRule with label := "größe_2((a b, , X), q(, ) => r(x=>y, it's)" } ∧
      ∃ rule, (parseLine "p(' a', X) => q(X)".toList).value = .ok rule ∧
        ¬ ∃ again, (parseLine rule.written.toList).value = .ok again ∧
          again.premise = rule.premise ∧ again.conclusion = rule.conclusion := by
  have legible : nestedRule.Legible := by decide
  have again := written_rule_reads_back.1 nestedRule legible (by decide)
  have padded : (parseLine "p(' a', X) => q(X)".toList).value =
      .ok ⟨[⟨"p", [.const " a", .var "X"]⟩], ⟨"q", [.var "X"]⟩, "p(' a', X) => q(X)"⟩ := by
    decide +kernel
  refine ⟨legible, again, _, padded, ?_⟩
  rw [written_rule_reads_back.2 _ _ padded]
  decide

end Deduction
