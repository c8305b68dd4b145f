import Deduction.Proofs.ActiveDomain
import Deduction.Proofs.PipelineRun
import Deduction.Proofs.RuleLines

/-!
Well-formed facts and rules. Reading gives atoms of a certain shape whatever the text: the name is a
word, there is an argument, and no argument holds what ends an argument or a line or begins or ends
with a quote. Deduction keeps the shape. It takes names and arities from conclusions, and texts from
facts and conclusions, the names of unbound variables among them. The facts that a problem implies
have the shape too, so every fact of every run has it.
-/

namespace Deduction

open RuleText

/-- Nothing in the text ends an argument or a line, and no quote stands at either end. -/
@[mk_iff]
structure ArgumentText (text : String) : Prop where
  noComma : ',' ∉ text.toList
  noClosing : ')' ∉ text.toList
  noLineFeed : '\n' ∉ text.toList
  unquoted : ¬ Text.Padded isQuote text.toList

instance (text : String) : Decidable (ArgumentText text) :=
  decidable_of_iff _ (argumentText_iff text).symm

@[mk_iff]
structure Atom.WellFormed (atom : Atom) : Prop where
  name_ne_nil : atom.predicate.toList ≠ []
  word : atom.predicate.toList.all isWord = true
  args_ne_nil : atom.args ≠ []
  texts : ∀ text ∈ atom.texts, ArgumentText text

instance (atom : Atom) : Decidable atom.WellFormed :=
  decidable_of_iff _ (Atom.wellFormed_iff atom).symm

theorem Atom.forall_mem_texts {atom : Atom} {p : String → Prop} :
    (∀ text ∈ atom.texts, p text) ↔ ∀ term ∈ atom.args, p term.text :=
  List.forall_mem_map

structure Rule.WellFormed (rule : Rule) : Prop where
  atoms : ∀ atom ∈ rule.conclusion :: rule.premise, atom.WellFormed
  isVar_iff : ∀ atom ∈ rule.conclusion :: rule.premise, ∀ term ∈ atom.args,
    term.isVar = true ↔ term.text.toList ≠ [] ∧
      ∀ c ∈ term.text.toList, c = '_' ∨ Text.isUppercase c = true
  noArrow : ∀ atom ∈ rule.premise, ∀ text ∈ atom.texts, ¬ arrow.toList <:+: text.toList
  label_ne_nil : rule.label.toList ≠ []
  label_bare : ¬ Text.Padded Text.isBlank rule.label.toList
  label_arrow : arrow.toList <:+: rule.label.toList
  label_noComment : rule.label.toList.head? ≠ some commentMark

/-! Reading. -/

theorem Term.Settled.isVar_iff {term : Term} (settled : term.Settled) :
    term.isVar = true ↔ term.text.toList ≠ [] ∧
      ∀ c ∈ term.text.toList, c = '_' ∨ Text.isUppercase c = true := by
  have look : term.isVar = Term.isVariableToken term.text := by
    conv_lhs => rw [← settled.classified, Term.isVar_classify]
  rw [look, Term.isVariableToken_iff]

theorem wellFormed_of_mem_scanAtoms {text : List Char} {atom : Atom} (oneLine : '\n' ∉ text)
    (member : atom ∈ scanAtoms text) : atom.WellFormed := by
  obtain ⟨legible, settled⟩ := legible_of_mem_scanAtoms member
  refine ⟨legible.name_ne_nil, legible.word, legible.args_ne_nil, Atom.forall_mem_texts.mpr ?_⟩
  intro term held
  obtain ⟨plain, within⟩ := settled term held
  exact ⟨legible.noComma term held, legible.noClosing term held,
    fun lineFeed => oneLine (within.subset lineFeed), plain.unquoted⟩

theorem wellFormed_of_parseLine {line : List Char} {rule : Rule} (oneLine : '\n' ∉ line)
    (read : (parseLine line).value = .ok rule) : rule.WellFormed := by
  obtain ⟨front, back, extra, divided, first, premise, scanned, _, noComment⟩ :=
    parseLine_eq_ok read
  obtain ⟨legible, settled⟩ := legible_of_parseLine read
  have oneLineParts : '\n' ∉ front ++ (arrow.toList ++ back) :=
    divided ▸ fun inside => oneLine ((Text.infix_trimBy _ line).subset inside)
  simp only [List.mem_append, not_or] at oneLineParts
  have label := toList_label read
  constructor
  · rw [List.forall_mem_cons]
    constructor
    · exact wellFormed_of_mem_scanAtoms oneLineParts.2.2 (scanned ▸ List.mem_cons_self)
    · exact fun atom member => wellFormed_of_mem_scanAtoms oneLineParts.1 (premise ▸ member)
  · exact fun atom member term held => (settled atom member term held).isVar_iff
  · exact fun atom member => Atom.forall_mem_texts.mpr (legible.noArrow atom member)
  · rw [label, divided]
    simp [arrow]
  · rw [label]
    exact Text.not_padded_trimBy _ _
  · rw [label, divided]
    exact List.infix_append' front arrow.toList back
  · rw [label]
    exact noComment

theorem wellFormed_of_mem_parseRules {text : List Char} {rule : Rule}
    (member : rule ∈ (parseRules text).value) : rule.WellFormed := by
  obtain ⟨line, oneLine, read⟩ := line_of_mem_parseRules member
  exact wellFormed_of_parseLine oneLine read

/-! Deduction. -/

theorem Growth.wellFormed {rules : List Rule} {facts grown : FactList}
    (run : Growth rules facts grown) (ground : ∀ atom ∈ facts, atom.isGround)
    (begun : ∀ atom ∈ facts, atom.WellFormed)
    (concluded : ∀ rule ∈ rules, rule.conclusion.WellFormed) :
    ∀ atom ∈ grown, atom.WellFormed := by
  intro atom held
  -- Whatever an argument was bound to, its text stood in a first fact or in a conclusion.
  have domain : ∀ text ∈ facts.activeDomain rules, ArgumentText text := by
    intro text inside
    rcases FactList.mem_activeDomain.mp inside with ⟨fact, member, own⟩ | ⟨rule, member, own⟩
    · exact (begun fact member).texts text own
    · exact (concluded rule member).texts text own
  have drawn : atom.DrawnFrom (facts.activeDomain rules) :=
    run.drawnFrom (FactList.drawnFrom_activeDomain ground) (fun rule member text own =>
      FactList.mem_activeDomain.mpr (Or.inr ⟨rule, member, own⟩)) atom held
  rcases run.old_or_conclusion atom held with old | ⟨rule, member, samePredicate, sameArity⟩
  · exact begun atom old
  · have shape := concluded rule member
    refine ⟨samePredicate ▸ shape.name_ne_nil, samePredicate ▸ shape.word, ?_, ?_⟩
    · intro none
      rw [Atom.arity, none] at sameArity
      exact shape.args_ne_nil (List.length_eq_zero_iff.mp sameArity.symm)
    · refine Atom.forall_mem_texts.mpr ?_
      intro term inside
      obtain ⟨text, known, rfl⟩ := drawn term inside
      exact domain text known

namespace Pipeline

theorem seeds_wellFormed (problem : String) :
    ∀ atom ∈ seeds problem, atom.isGround = true ∧ atom.WellFormed := by
  unfold seeds
  split <;> decide

theorem wellFormed_of_ended {files : Files} {problem : String} {settings : Settings}
    {replies? : Option Replies} {outcome : Outcome}
    (ended : (transcript files problem settings replies?).ended.value = .ok outcome) :
    ∀ atom ∈ outcome.store.toList, atom.WellFormed := by
  obtain ⟨text, _, same⟩ := text_of_ended ended
  rw [same, toList_found]
  have run := (FactList.course_solve (parseRules text.toList).value settings.cap
    (seeds problem)).growth Growth.refl
  exact run.wellFormed (fun atom member => (seeds_wellFormed problem atom member).1)
    (fun atom member => (seeds_wellFormed problem atom member).2)
    (fun rule member => (wellFormed_of_mem_parseRules member).atoms _ List.mem_cons_self)

/-- Whatever the rule file, the problem and the cap, a run stores well-formed ground atoms only; and
whatever the text, the rules read from it are well formed. -/
theorem stored_and_read_well_formed :
    (∀ (files : Files) (problem : String) (settings : Settings) (replies? : Option Replies)
        (outcome : Outcome),
      (transcript files problem settings replies?).ended.value = .ok outcome →
      ∀ atom ∈ outcome.store.toList, atom.isGround = true ∧ atom.WellFormed) ∧
    ∀ text, ∀ rule ∈ (parseRules text).value, rule.WellFormed := by
  constructor
  · intro files problem settings replies? outcome ended atom member
    exact ⟨FactStore.isGround_of_mem member, wellFormed_of_ended ended atom member⟩
  · exact fun text rule => wellFormed_of_mem_parseRules

def untidyText : String :=
  "# \"=>\"\r\nlattice_structure(X, 'D4') (=> p(\" X\", X, Y), q(b)\r\n=> (a)\n"

theorem untidy_text_well_formed :
    ∃ outcome,
      (transcript (fun _ => .ok untidyText) Settings.defaultProblem {} none).ended.value =
        .ok outcome ∧
      Atom.ground "p" [" X", "L1", "Y"] ∈ outcome.store.toList ∧
      (Atom.ground "p" [" X", "L1", "Y"]).WellFormed ∧
      ∃ rule ∈ (parseRules untidyText.toList).value,
        rule.premise = [⟨"lattice_structure", [.var "X", .const "D4"]⟩] ∧ rule.WellFormed := by
  obtain ⟨outcome, ended, same⟩ :=
    outcome_of_text (fun _ => .ok untidyText) Settings.defaultProblem {} none rfl
  have stored : Atom.ground "p" [" X", "L1", "Y"] ∈ outcome.store.toList := by
    rw [same, toList_found]
    decide +kernel
  have read : ⟨[⟨"lattice_structure", [.var "X", .const "D4"]⟩],
      ⟨"p", [.const " X", .var "X", .var "Y"]⟩,
      "lattice_structure(X, 'D4') (=> p(\" X\", X, Y), q(b)"⟩ ∈
        (parseRules untidyText.toList).value := by
    decide +kernel
  have wellFormed := stored_and_read_well_formed.1 _ _ _ _ outcome ended _ stored
  exact ⟨outcome, ended, stored, wellFormed.2, _, read, rfl,
    stored_and_read_well_formed.2 _ _ read⟩

end Pipeline

end Deduction
