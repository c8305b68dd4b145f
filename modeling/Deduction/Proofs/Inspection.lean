import Deduction.Proofs.QuotedText
import Deduction.Proofs.WellFormed

/-!
The inspection form tells rules and stores apart. It nests lists in lists with the same separators,
and predicates and variables stand in it as they are. But a term shows by its first character
whether it is quoted, a quoted text ends by itself, and neither a word nor a variable token goes on
across what comes after it in a list. So the text can be taken apart from the left, a term after a
term and an atom after an atom, in one way only. The written form has no such property: it shows
neither tags nor the ends of texts.
-/

namespace Deduction

namespace Text

/-- A run of characters with a property ends where the property fails. -/
theorem run_append_inj {p : Char → Bool} {run other rest after : List Char}
    (holds : ∀ c ∈ run, p c = true) (otherHolds : ∀ c ∈ other, p c = true)
    (stops : ∀ c, rest.head? = some c → p c = false)
    (otherStops : ∀ c, after.head? = some c → p c = false) (same : run ++ rest = other ++ after) :
    run = other ∧ rest = after := by
  obtain ⟨taken, dropped⟩ := takeWhile_eq_iff.mpr ⟨rfl, holds, stops⟩
  obtain ⟨takenToo, droppedToo⟩ := takeWhile_eq_iff.mpr ⟨same, otherHolds, otherStops⟩
  exact ⟨taken.symm.trans takenToo, dropped.symm.trans droppedToo⟩

end Text

/-! Lists in brackets. -/

namespace Outline

def afterItem : List String → List Char → List Char
  | [], rest => ']' :: rest
  | item :: items, rest => ',' :: ' ' :: (item.toList ++ afterItem items rest)

def afterOpening : List String → List Char → List Char
  | [], rest => ']' :: rest
  | item :: items, rest => item.toList ++ afterItem items rest

def IsAfterItem (rest : List Char) : Prop :=
  rest.head? = some ',' ∨ rest.head? = some ']'

theorem isAfterItem (items : List String) (rest : List Char) :
    IsAfterItem (afterItem items rest) := by
  cases items with
  | nil => exact .inr rfl
  | cons item items => exact .inl rfl

theorem toList_intercalate_append (item : String) (items : List String) (rest : List Char) :
    (String.intercalate ", " (item :: items)).toList ++ ']' :: rest =
      item.toList ++ afterItem items rest := by
  induction items generalizing item with
  | nil => rw [String.intercalate_singleton, afterItem]
  | cons next items ih =>
      rw [Text.toList_intercalate_cons, List.append_assoc, List.append_assoc, ih]
      rfl

theorem compactItems_eq_map (items : List Outline) :
    compactItems items = items.map compact := by
  induction items with
  | nil => rfl
  | cons item items ih => rw [compactItems, ih, List.map_cons]

theorem toList_compact_list (lead : String) (items : List Outline) (rest : List Char) :
    (list lead items).compact.toList ++ rest =
      lead.toList ++ '[' :: afterOpening (items.map compact) rest := by
  rw [compact, compactItems_eq_map]
  cases items with
  | nil => simp [afterOpening]
  | cons item items =>
      rw [List.map_cons, afterOpening, ← toList_intercalate_append]
      simp

/-- Texts of values that may be items of a list: each shows its end, and none is taken for the end
of the list. -/
structure ItemForm {α : Type} (valid : α → Prop) (form : α → String) : Prop where
  begins : ∀ {x}, valid x → ∃ c more, (form x).toList = c :: more ∧ c ≠ ']'
  apart : ∀ {x y}, valid x → valid y → ∀ {rest after}, IsAfterItem rest → IsAfterItem after →
    (form x).toList ++ rest = (form y).toList ++ after → x = y ∧ rest = after

namespace ItemForm

variable {α : Type} {valid : α → Prop} {form : α → String} {xs ys : List α}
  {rest after : List Char}

theorem afterItem_inj (isForm : ItemForm valid form) (validAll : ∀ x ∈ xs, valid x)
    (otherValid : ∀ y ∈ ys, valid y)
    (same : afterItem (xs.map form) rest = afterItem (ys.map form) after) :
    xs = ys ∧ rest = after := by
  induction xs generalizing ys with
  | nil =>
      cases ys with
      | nil => exact ⟨rfl, List.tail_eq_of_cons_eq same⟩
      | cons y ys => exact absurd (List.head_eq_of_cons_eq same) (by decide)
  | cons x xs ih =>
      cases ys with
      | nil => exact absurd (List.head_eq_of_cons_eq same) (by decide)
      | cons y ys =>
          rw [List.forall_mem_cons] at validAll otherValid
          simp only [List.map_cons, afterItem, List.cons.injEq, true_and] at same
          obtain ⟨rfl, sameLater⟩ :=
            isForm.apart validAll.1 otherValid.1 (isAfterItem _ _) (isAfterItem _ _) same
          obtain ⟨rfl, sameRest⟩ := ih validAll.2 otherValid.2 sameLater
          exact ⟨rfl, sameRest⟩

theorem afterOpening_inj (isForm : ItemForm valid form) (validAll : ∀ x ∈ xs, valid x)
    (otherValid : ∀ y ∈ ys, valid y)
    (same : afterOpening (xs.map form) rest = afterOpening (ys.map form) after) :
    xs = ys ∧ rest = after := by
  cases xs with
  | nil =>
      cases ys with
      | nil => exact ⟨rfl, List.tail_eq_of_cons_eq same⟩
      | cons y ys =>
          obtain ⟨c, more, shape, notClosing⟩ := isForm.begins (otherValid y List.mem_cons_self)
          rw [List.map_cons, afterOpening, shape] at same
          exact absurd (List.head_eq_of_cons_eq same).symm notClosing
  | cons x xs =>
      cases ys with
      | nil =>
          obtain ⟨c, more, shape, notClosing⟩ := isForm.begins (validAll x List.mem_cons_self)
          rw [List.map_cons, afterOpening, shape] at same
          exact absurd (List.head_eq_of_cons_eq same) notClosing
      | cons y ys =>
          exact isForm.afterItem_inj validAll otherValid (congrArg (',' :: ' ' :: ·) same)

end ItemForm

end Outline

open Outline (IsAfterItem ItemForm afterOpening toList_compact_list)

/-! Terms, atoms, rules. -/

def Term.Inspectable (term : Term) : Prop :=
  ∀ name ∈ term.names, Term.isVariableToken name = true

/-- The name is a run of word characters, and the variables are variable tokens. -/
@[mk_iff]
structure Atom.Inspectable (atom : Atom) : Prop where
  word : atom.predicate.toList.all RuleText.isWord = true
  tokens : ∀ name ∈ atom.names, Term.isVariableToken name = true

instance (atom : Atom) : Decidable atom.Inspectable :=
  decidable_of_iff _ (Atom.inspectable_iff atom).symm

theorem Outline.IsAfterItem.not_variableChar {rest : List Char} (isAfter : IsAfterItem rest)
    {c : Char} (first : rest.head? = some c) : Term.isVariableChar c = false := by
  rcases isAfter with comma | closing
  · rw [comma, Option.some.injEq] at first
    exact first ▸ by decide
  · rw [closing, Option.some.injEq] at first
    exact first ▸ by decide

theorem Term.variableChars {name : String} (token : Term.isVariableToken name = true) :
    ∀ c ∈ name.toList, Term.isVariableChar c = true := by
  rw [Term.isVariableToken, Bool.and_eq_true, List.all_eq_true] at token
  exact token.2

theorem Term.toList_const_outline (text : String) :
    (Term.const text).outline.compact.toList = (Text.quote text).toList := rfl

theorem Term.toList_var_outline (name : String) :
    (Term.var name).outline.compact.toList = '?' :: name.toList := by
  simp [Term.outline, Outline.compact]

theorem Text.quote_begins (text : String) : ∃ more, (quote text).toList = '"' :: more :=
  ⟨_, String.toList_ofList⟩

theorem Term.itemForm : ItemForm Term.Inspectable fun term => term.outline.compact where
  begins := by
    intro term _
    cases term with
    | const text =>
        obtain ⟨more, shape⟩ := Text.quote_begins text
        exact ⟨'"', more, shape, by decide⟩
    | var name => exact ⟨'?', name.toList, Term.toList_var_outline name, by decide⟩
  apart := by
    intro left right leftToken rightToken rest after isAfter otherAfter same
    cases left with
    | const text =>
        obtain ⟨more, shape⟩ := Text.quote_begins text
        cases right with
        | const other =>
            obtain ⟨rfl, sameRest⟩ := Text.quote_append_inj same
            exact ⟨rfl, sameRest⟩
        | var name =>
            rw [Term.toList_const_outline, shape, Term.toList_var_outline] at same
            exact absurd (List.head_eq_of_cons_eq same) (by decide)
    | var name =>
        cases right with
        | const other =>
            obtain ⟨more, shape⟩ := Text.quote_begins other
            rw [Term.toList_const_outline, shape, Term.toList_var_outline] at same
            exact absurd (List.head_eq_of_cons_eq same) (by decide)
        | var other =>
            rw [Term.toList_var_outline, Term.toList_var_outline, List.cons_append,
              List.cons_append, List.cons.injEq] at same
            obtain ⟨sameName, sameRest⟩ := Text.run_append_inj
              (Term.variableChars (leftToken name List.mem_cons_self))
              (Term.variableChars (rightToken other List.mem_cons_self))
              (fun c => isAfter.not_variableChar) (fun c => otherAfter.not_variableChar) same.2
            exact ⟨congrArg Term.var (String.toList_inj.mp sameName), sameRest⟩

theorem Atom.Inspectable.bracket_not_mem {atom : Atom} (inspectable : atom.Inspectable) :
    '[' ∉ atom.predicate.toList :=
  fun inside => absurd (List.all_eq_true.mp inspectable.word _ inside) (by decide)

theorem Atom.Inspectable.arg {atom : Atom} (inspectable : atom.Inspectable) :
    ∀ term ∈ atom.args, term.Inspectable :=
  fun term member name found =>
    inspectable.tokens name (List.mem_flatMap.mpr ⟨term, member, found⟩)

theorem Atom.toList_outline (atom : Atom) (rest : List Char) :
    atom.outline.compact.toList ++ rest =
      atom.predicate.toList ++
        '[' :: afterOpening (atom.args.map fun term => term.outline.compact) rest := by
  rw [Atom.outline, toList_compact_list, List.map_map]
  rfl

/-- The bracket that closes its arguments ends an atom, whatever comes after it. -/
theorem Atom.outline_append_inj {left right : Atom} (leftShape : left.Inspectable)
    (rightShape : right.Inspectable) {rest after : List Char}
    (same : left.outline.compact.toList ++ rest = right.outline.compact.toList ++ after) :
    left = right ∧ rest = after := by
  rw [Atom.toList_outline, Atom.toList_outline] at same
  obtain ⟨sameName, sameLater⟩ :=
    Text.append_separator_inj leftShape.bracket_not_mem rightShape.bracket_not_mem same
  obtain ⟨sameArgs, sameRest⟩ :=
    Term.itemForm.afterOpening_inj leftShape.arg rightShape.arg sameLater
  exact ⟨Atom.mk.injEq _ _ _ _ ▸ ⟨String.toList_inj.mp sameName, sameArgs⟩, sameRest⟩

theorem Atom.itemForm : ItemForm Atom.Inspectable fun atom => atom.outline.compact where
  begins := by
    intro atom inspectable
    have shape := atom.toList_outline []
    rw [List.append_nil] at shape
    cases name : atom.predicate.toList with
    | nil => exact ⟨'[', _, by rw [shape, name, List.nil_append], by decide⟩
    | cons c more =>
        refine ⟨c, _, by rw [shape, name, List.cons_append], ?_⟩
        rintro rfl
        have word := inspectable.word
        rw [name, List.all_cons, Bool.and_eq_true] at word
        exact absurd word.1 (by decide)
  apart := fun leftShape rightShape _ _ _ _ => Atom.outline_append_inj leftShape rightShape

theorem Atom.toList_outlineList (atoms : List Atom) (rest : List Char) :
    (Atom.outlineList atoms).compact.toList ++ rest =
      '[' :: afterOpening (atoms.map fun atom => atom.outline.compact) rest := by
  rw [Atom.outlineList, toList_compact_list, List.map_map]
  rfl

def Rule.Inspectable (rule : Rule) : Prop :=
  ∀ atom ∈ rule.conclusion :: rule.premise, atom.Inspectable

theorem Rule.toList_outline (rule : Rule) :
    rule.outline.compact.toList = "Rule \x7b premise: ".toList ++
      ((Atom.outlineList rule.premise).compact.toList ++ (", conclusion: ".toList ++
        (rule.conclusion.outline.compact.toList ++ " \x7d".toList))) := by
  simp [Rule.outline, Outline.compact, Outline.compactFields, String.intercalate_cons_cons]

theorem Rule.outline_inj {left right : Rule} (leftShape : left.Inspectable)
    (rightShape : right.Inspectable) (same : left.outline.compact = right.outline.compact) :
    left.premise = right.premise ∧ left.conclusion = right.conclusion := by
  rw [Rule.Inspectable, List.forall_mem_cons] at leftShape rightShape
  have sameText := congrArg String.toList same
  rw [Rule.toList_outline, Rule.toList_outline, List.append_cancel_left_eq,
    Atom.toList_outlineList, Atom.toList_outlineList, List.cons.injEq] at sameText
  obtain ⟨samePremise, sameLater⟩ :=
    Atom.itemForm.afterOpening_inj leftShape.2 rightShape.2 sameText.2
  rw [List.append_cancel_left_eq] at sameLater
  exact ⟨samePremise, (Atom.outline_append_inj leftShape.1 rightShape.1 sameLater).1⟩

theorem Atom.outlineList_inj {left right : List Atom} (leftShape : ∀ atom ∈ left, atom.Inspectable)
    (rightShape : ∀ atom ∈ right, atom.Inspectable)
    (same : (Atom.outlineList left).compact = (Atom.outlineList right).compact) : left = right := by
  have sameText := congrArg (fun text => text.toList ++ []) same
  simp only [Atom.toList_outlineList, List.cons.injEq, true_and] at sameText
  exact (Atom.itemForm.afterOpening_inj leftShape rightShape sameText).1

/-! What is stored or read can be inspected. -/

theorem Atom.inspectable_of_isGround {atom : Atom} (ground : atom.isGround)
    (word : atom.predicate.toList.all RuleText.isWord = true) : atom.Inspectable := by
  refine ⟨word, ?_⟩
  intro name found
  obtain ⟨term, member, isName⟩ := List.mem_flatMap.mp found
  have constant := Atom.isVar_of_isGround ground member
  cases term with
  | const text => exact absurd isName List.not_mem_nil
  | var other => contradiction

theorem Rule.WellFormed.inspectable {rule : Rule} (wellFormed : rule.WellFormed) :
    rule.Inspectable := by
  intro atom member
  refine ⟨(wellFormed.atoms atom member).word, ?_⟩
  intro name found
  obtain ⟨term, held, isName⟩ := List.mem_flatMap.mp found
  cases term with
  | const text => exact absurd isName List.not_mem_nil
  | var other =>
      rw [List.mem_singleton.mp isName, Term.isVariableToken_iff]
      exact (wellFormed.isVar_iff atom member _ held).mp rfl

/-- Two rules whose names are words and whose variables are variable tokens have the same inspection
form exactly if they have the same premises and the same conclusion, and every rule that is read
from a text is of this kind. Two stores whose facts have words for names have the same inspection
form exactly if they hold the same facts in the same order. Constants are free. -/
theorem inspection_identifies_rules_and_stores :
    (∀ left right : Rule, left.Inspectable → right.Inspectable →
      (left.outline.compact = right.outline.compact ↔
        left.premise = right.premise ∧ left.conclusion = right.conclusion)) ∧
    (∀ text, ∀ rule ∈ (RuleText.parseRules text).value, rule.Inspectable) ∧
    ∀ left right : FactStore,
      (∀ atom ∈ left.toList, atom.predicate.toList.all RuleText.isWord = true) →
      (∀ atom ∈ right.toList, atom.predicate.toList.all RuleText.isWord = true) →
      (left.outline.compact = right.outline.compact ↔ left.toList = right.toList) := by
  refine ⟨?_, ?_, ?_⟩
  · intro left right leftShape rightShape
    refine ⟨Rule.outline_inj leftShape rightShape, ?_⟩
    rintro ⟨samePremise, sameConclusion⟩
    rw [Rule.outline, Rule.outline, samePremise, sameConclusion]
  · exact fun text rule member => (wellFormed_of_mem_parseRules member).inspectable
  · intro left right leftWords rightWords
    refine ⟨Atom.outlineList_inj ?_ ?_, congrArg fun atoms => (Atom.outlineList atoms).compact⟩
    · exact fun atom member =>
        Atom.inspectable_of_isGround (FactStore.isGround_of_mem member) (leftWords atom member)
    · exact fun atom member =>
        Atom.inspectable_of_isGround (FactStore.isGround_of_mem member) (rightWords atom member)

-- The written forms are the same each time: they show neither tags nor where a text ends.
theorem look_alikes_told_apart :
    let bound : Rule := ⟨[⟨"p", [.var "X", .const "\"], q[\\"]⟩], ⟨"q", [.var "X"]⟩, "bound"⟩
    let fixed : Rule := ⟨[⟨"p", [.const "X", .const "\"], q[\\"]⟩], ⟨"q", [.var "X"]⟩, "fixed"⟩
    let pair := (FactStore.ofList [.ground "p" ["a", "b"]]).value
    let single := (FactStore.ofList [.ground "p" ["a, b"]]).value
    (bound.Inspectable ∧ fixed.Inspectable ∧ bound.written = fixed.written ∧
      bound.outline.compact ≠ fixed.outline.compact) ∧
    (∃ rule ∈ (RuleText.parseRules "p('?X') => q(X)".toList).value, rule.Inspectable) ∧
    (∀ atom ∈ pair.toList, atom.predicate.toList.all RuleText.isWord = true) ∧
    (∀ atom ∈ single.toList, atom.predicate.toList.all RuleText.isWord = true) ∧
    pair.written = single.written ∧ pair.outline.compact ≠ single.outline.compact := by
  intro bound fixed pair single
  obtain ⟨rules, read, stores⟩ := inspection_identifies_rules_and_stores
  have boundShape : bound.Inspectable := by
    unfold Rule.Inspectable
    decide
  have fixedShape : fixed.Inspectable := by
    unfold Rule.Inspectable
    decide
  have member : ⟨[⟨"p", [.const "?X"]⟩], ⟨"q", [.var "X"]⟩, "p('?X') => q(X)"⟩ ∈
      (RuleText.parseRules "p('?X') => q(X)".toList).value := by
    decide +kernel
  have pairFacts : pair.toList = [.ground "p" ["a", "b"]] := FactStore.toList_ofList _
  have singleFacts : single.toList = [.ground "p" ["a, b"]] := FactStore.toList_ofList _
  have pairWords : ∀ atom ∈ pair.toList, atom.predicate.toList.all RuleText.isWord = true := by
    rw [pairFacts]
    decide
  have singleWords : ∀ atom ∈ single.toList, atom.predicate.toList.all RuleText.isWord = true := by
    rw [singleFacts]
    decide
  refine ⟨⟨boundShape, fixedShape, by decide, ?_⟩, ⟨_, member, read _ _ member⟩, pairWords,
    singleWords, ?_, ?_⟩
  · rw [Ne, rules bound fixed boundShape fixedShape]
    decide
  · rw [FactStore.written, FactStore.written, pairFacts, singleFacts]
    decide
  · rw [Ne, stores pair single pairWords singleWords, pairFacts, singleFacts]
    decide

end Deduction
