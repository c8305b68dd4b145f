import Deduction.Proofs.Parts
import Deduction.Proofs.WrittenAtom

/-!
The grammar of a pattern. A text that begins with a pattern divides into a name, blanks, a body in
parentheses and a rest, in one way only; the body divides at its commas into the tokens of the
arguments. Where a text does not begin with a pattern there is a first thing missing: a name, an
opening parenthesis after it, a body, or the closing parenthesis. Reading does what this grammar
says for every text, also in which text it leaves where it stops.
-/

namespace Deduction

theorem Term.classify_eq_iff {token : String} {term : Term} : Term.classify token = term ↔
    term.text = token ∧ (term.isVar = true ↔ token.toList ≠ [] ∧
      ∀ c ∈ token.toList, c = '_' ∨ Text.isUppercase c = true) := by
  rw [← Term.isVariableToken_iff]
  constructor
  · rintro rfl
    rw [Term.text_classify, Term.isVar_classify]
    exact ⟨rfl, Iff.rfl⟩
  · rintro ⟨rfl, look⟩
    unfold Term.classify
    cases term with
    | const text => rw [if_neg (mt look.mpr Bool.false_ne_true)]; rfl
    | var name => rw [if_pos (look.mp rfl)]; rfl

namespace RuleText

/-- The term of an argument: blanks are taken off the ends of its token, then quotes, and what is
left is a variable's name if it is made of capital letters and underscores. -/
structure ArgumentRead (token : List Char) (term : Term) : Prop where
  bare : ∃ trimmed, Text.Core Text.isBlank token trimmed ∧
    Text.Core isQuote trimmed term.text.toList
  isVar_iff : term.isVar = true ↔ term.text.toList ≠ [] ∧
    ∀ c ∈ term.text.toList, c = '_' ∨ Text.isUppercase c = true

structure AtomRead (run body : List Char) (atom : Atom) : Prop where
  name : atom.predicate.toList = run
  arity : atom.arity = body.count ',' + 1
  args : ∃ tokens, Text.Tokens ',' body tokens ∧ List.Forall₂ ArgumentRead tokens atom.args

structure Division (text : List Char) where
  run : List Char
  blanks : List Char
  body : List Char
  rest : List Char
  whole : text = run ++ (blanks ++ '(' :: (body ++ ')' :: rest))
  word : Text.LongestFront isWord text run
  run_ne_nil : run ≠ []
  blank : ∀ c ∈ blanks, Text.isBlank c = true
  body_ne_nil : body ≠ []
  noClosing : ')' ∉ body

/-- A name and all blanks that follow it, with what comes after them. -/
structure Headed (text run blanks left : List Char) : Prop where
  whole : text = run ++ (blanks ++ left)
  word : Text.LongestFront isWord text run
  run_ne_nil : run ≠ []
  blank : Text.LongestFront Text.isBlank (blanks ++ left) blanks

/-- What reading a pattern off the front of a text comes to: the atom and the rest, or the first
thing that is missing and the text where it should begin. -/
inductive PatternRead (text : List Char) : Reading Atom → Prop where
  | pattern (division : Division text) {atom : Atom} :
      AtomRead division.run division.body atom → PatternRead text (.ok (atom, division.rest))
  | noName : Text.LongestFront isWord text [] → PatternRead text (.error (.name text))
  | noOpening {run blanks left : List Char} : Headed text run blanks left →
      left.head? ≠ some '(' → PatternRead text (.error (.opening left))
  | noBody {run blanks left : List Char} : Headed text run blanks ('(' :: left) →
      left = [] ∨ left.head? = some ')' → PatternRead text (.error (.body left))
  | noClosing {run blanks body : List Char} : Headed text run blanks ('(' :: body) →
      body ≠ [] → ')' ∉ body → PatternRead text (.error (.closing []))

/-! The atom of a name and a body. -/

theorem argumentRead_iff {token : List Char} {term : Term} :
    ArgumentRead token term ↔ argument token = term := by
  simp only [argument, Term.classify_eq_iff, String.toList_ofList]
  constructor
  · rintro ⟨⟨trimmed, outer, inner⟩, look⟩
    rw [Text.core_iff] at outer inner
    obtain rfl : Text.trim token = trimmed := outer
    rw [inner, String.ofList_toList]
    exact ⟨rfl, look⟩
  · rintro ⟨text, look⟩
    refine ⟨⟨Text.trim token, Text.core_iff.mpr rfl, Text.core_iff.mpr ?_⟩, ?_⟩
    · rw [text, String.toList_ofList]
    · rw [text, String.toList_ofList]
      exact look

theorem forall₂_argumentRead_iff {tokens : List (List Char)} {terms : List Term} :
    List.Forall₂ ArgumentRead tokens terms ↔ tokens.map argument = terms := by
  have same : ArgumentRead = fun token term => argument token = term := by
    funext token term
    exact propext argumentRead_iff
  rw [same, ← List.forall₂_eq_eq_eq, List.forall₂_map_left_iff]

theorem atomRead_iff {run body : List Char} {atom : Atom} :
    AtomRead run body atom ↔ atom = atomOf run body := by
  obtain ⟨predicate, args⟩ := atom
  rw [atomOf, Atom.mk.injEq]
  constructor
  · rintro ⟨rfl, _, tokens, cut, read⟩
    rw [forall₂_argumentRead_iff, ← Text.tokens_iff.mp cut] at read
    exact ⟨String.ofList_toList.symm, read.symm⟩
  · rintro ⟨rfl, rfl⟩
    refine ⟨String.toList_ofList, ?_, _, Text.tokens_iff.mpr rfl, forall₂_argumentRead_iff.mpr rfl⟩
    rw [Atom.arity, List.length_map, Text.length_splitOn]

/-! The head of a pattern. -/

variable {text run blanks left : List Char}

theorem Headed.name_eq (headed : Headed text run blanks left) :
    name text = .ok (run, blanks ++ left) := by
  obtain ⟨rfl, word, notEmpty, _⟩ := headed
  obtain ⟨holds, stops⟩ := Text.longestFront_append_iff.mp word
  exact name_eq_ok.mpr ⟨notEmpty, rfl, holds, stops⟩

theorem Headed.dropWhile_eq (headed : Headed text run blanks left) :
    (blanks ++ left).dropWhile Text.isBlank = left :=
  (Text.takeWhile_eq_iff.mpr ⟨rfl, Text.longestFront_append_iff.mp headed.blank⟩).2

theorem Headed.unique {otherRun otherBlanks otherLeft : List Char}
    (headed : Headed text run blanks left) (other : Headed text otherRun otherBlanks otherLeft) :
    run = otherRun ∧ blanks = otherBlanks ∧ left = otherLeft := by
  have sameName := headed.name_eq.symm.trans other.name_eq
  simp only [Except.ok.injEq, Prod.mk.injEq] at sameName
  obtain ⟨sameRun, sameTail⟩ := sameName
  have sameLeft : left = otherLeft := by
    rw [← headed.dropWhile_eq, sameTail, other.dropWhile_eq]
  rw [sameLeft] at sameTail
  exact ⟨sameRun, List.append_cancel_right sameTail, sameLeft⟩

/-- Either no word begins the text or it has a head. -/
theorem noName_or_headed (text : List Char) :
    Text.LongestFront isWord text [] ∨ ∃ run blanks left, Headed text run blanks left := by
  by_cases noName : text.takeWhile isWord = []
  · exact Or.inl (Text.longestFront_iff.mpr noName)
  · have divided : (text.dropWhile isWord).takeWhile Text.isBlank ++
        (text.dropWhile isWord).dropWhile Text.isBlank = text.dropWhile isWord :=
      List.takeWhile_append_dropWhile
    refine Or.inr ⟨text.takeWhile isWord, (text.dropWhile isWord).takeWhile Text.isBlank,
      (text.dropWhile isWord).dropWhile Text.isBlank, ?_, Text.longestFront_iff.mpr rfl, noName, ?_⟩
    · rw [divided, List.takeWhile_append_dropWhile]
    · rw [divided, Text.longestFront_iff]

/-- The parenthesis is no blank, so a division has its blanks for a head. -/
theorem Division.headed (division : Division text) :
    Headed text division.run division.blanks
      ('(' :: (division.body ++ ')' :: division.rest)) := by
  refine ⟨division.whole, division.word, division.run_ne_nil, ?_⟩
  refine Text.longestFront_append_iff.mpr ⟨division.blank, ?_⟩
  rintro c ⟨⟩
  decide

instance (text : List Char) : Subsingleton (Division text) where
  allEq := by
    intro one other
    obtain ⟨sameRun, sameBlanks, sameLeft⟩ := one.headed.unique other.headed
    obtain ⟨sameBody, sameRest⟩ := Text.append_separator_inj one.noClosing other.noClosing
      (List.tail_eq_of_cons_eq sameLeft)
    cases one
    cases other
    simp only at sameRun sameBlanks sameBody sameRest
    subst sameRun sameBlanks sameBody sameRest
    rfl

/-! Reading. -/

theorem Headed.atomPattern_of_opening {after : List Char}
    (headed : Headed text run blanks ('(' :: after)) :
    atomPattern text = (enclosed after).map fun parts => (atomOf run parts.1, parts.2) := by
  simp only [atomPattern, headed.name_eq, argList, headed.dropWhile_eq]
  cases enclosed after <;> rfl

theorem argList_of_noOpening (unopened : (left.dropWhile Text.isBlank).head? ≠ some '(') :
    argList left = .error (.opening (left.dropWhile Text.isBlank)) := by
  unfold argList
  split
  next opened =>
      rw [opened] at unopened
      exact absurd rfl unopened
  · rfl

theorem Headed.atomPattern_of_noOpening (headed : Headed text run blanks left)
    (unopened : left.head? ≠ some '(') : atomPattern text = .error (.opening left) := by
  rw [← headed.dropWhile_eq] at unopened
  simp only [atomPattern, headed.name_eq, argList_of_noOpening unopened, headed.dropWhile_eq]

theorem enclosed_of_noBody (noBody : left = [] ∨ left.head? = some ')') :
    enclosed left = .error (.body left) := by
  have none : left.takeWhile isInside = [] := by
    rcases noBody with rfl | head
    · rfl
    · obtain ⟨rest, rfl⟩ := List.head?_eq_some_iff.mp head
      rfl
  simp only [enclosed, none]

theorem enclosed_of_noClosing (notEmpty : left ≠ []) (noClosing : ')' ∉ left) :
    enclosed left = .error (.closing []) := by
  have inside : ∀ c ∈ left, isInside c = true := by
    intro c member
    by_contra outside
    exact noClosing (isInside_eq_false.mp (Bool.eq_false_iff.mpr outside) ▸ member)
  have taken := Text.takeWhile_eq_iff.mpr ⟨(List.append_nil left).symm, inside, by simp⟩
  obtain ⟨first, rest, rfl⟩ := List.exists_cons_of_ne_nil notEmpty
  simp only [enclosed, taken]

theorem PatternRead.atomPattern_eq {reading : Reading Atom} (read : PatternRead text reading) :
    atomPattern text = reading := by
  cases read with
  | pattern division formed =>
      have read : enclosed (division.body ++ ')' :: division.rest) =
          .ok (division.body, division.rest) :=
        enclosed_eq_ok.mpr ⟨rfl, division.body_ne_nil, division.noClosing⟩
      rw [division.headed.atomPattern_of_opening, read, atomRead_iff.mp formed]
      rfl
  | noName none => simp only [atomPattern, name, Text.longestFront_iff.mp none]
  | noOpening headed unopened => exact headed.atomPattern_of_noOpening unopened
  | noBody headed none => rw [headed.atomPattern_of_opening, enclosed_of_noBody none]; rfl
  | noClosing headed notEmpty none =>
      rw [headed.atomPattern_of_opening, enclosed_of_noClosing notEmpty none]
      rfl

/-- Every text either begins with a pattern or lacks something. -/
theorem exists_patternRead (text : List Char) : ∃ reading, PatternRead text reading := by
  rcases noName_or_headed text with none | ⟨run, blanks, left, headed⟩
  · exact ⟨_, .noName none⟩
  by_cases opened : left.head? = some '('
  swap
  · exact ⟨_, .noOpening headed opened⟩
  obtain ⟨after, rfl⟩ := List.head?_eq_some_iff.mp opened
  by_cases empty : after = [] ∨ after.head? = some ')'
  · exact ⟨_, .noBody headed empty⟩
  rw [not_or] at empty
  by_cases closed : ')' ∈ after
  swap
  · exact ⟨_, .noClosing headed empty.1 closed⟩
  obtain ⟨body, rest, rfl, noClosing⟩ := List.eq_append_cons_of_mem closed
  have notEmpty : body ≠ [] := by
    rintro rfl
    exact empty.2 rfl
  let division : Division text :=
    { run, blanks, body, rest, run_ne_nil := headed.run_ne_nil, body_ne_nil := notEmpty, noClosing
      whole := headed.whole
      word := headed.word
      blank := headed.blank.holds }
  exact ⟨_, .pattern division (atomRead_iff.mpr rfl)⟩

theorem atomPattern_eq_iff {reading : Reading Atom} :
    atomPattern text = reading ↔ PatternRead text reading := by
  constructor
  · rintro rfl
    obtain ⟨reading, read⟩ := exists_patternRead text
    rwa [read.atomPattern_eq]
  · exact PatternRead.atomPattern_eq

/-- Reading a pattern off the front of a text comes to what the grammar says, for every text and
with no other outcome, and a text that begins with a pattern divides in one way. -/
theorem pattern_read_iff_grammar (text : List Char) :
    (∀ reading, atomPattern text = reading ↔ PatternRead text reading) ∧
      ∀ division other : Division text, division = other :=
  ⟨fun _ => atomPattern_eq_iff, Subsingleton.elim⟩

-- An opening parenthesis is part of an argument, and so are the blanks within quotes.
example : atomPattern "größe \t(a(b , ' c '\n,) d".toList =
    .ok (⟨"größe", [.const "a(b", .const " c ", .const ""]⟩, " d".toList) := by
  decide +kernel

end RuleText

end Deduction
