import Deduction.Proofs.Parts
import Deduction.Proofs.Scanning
import Deduction.RuleText

/-!
The grammar of a line. The scanner takes patterns off the front of a text and gives up characters
where none begins; still it finds nothing only where no pattern stands anywhere in the text, because
what stands in front of a pattern can make its name longer but cannot hide it. So the line holds a
rule exactly if there is a pattern after its first arrow. Everything else that a line can come to is
decided by its first character and by whether there is an arrow.
-/

namespace Deduction.RuleText

/-- A text that is a pattern from its first to its last character. The name need not be all of a
word. -/
inductive IsPattern : List Char → Prop where
  | mk (run blanks body : List Char) : run ≠ [] → (∀ c ∈ run, isWord c = true) →
      (∀ c ∈ blanks, Text.isBlank c = true) → body ≠ [] → ')' ∉ body →
      IsPattern (run ++ (blanks ++ '(' :: (body ++ [')'])))

def HoldsPattern (text : List Char) : Prop :=
  ∃ pattern, IsPattern pattern ∧ pattern <:+: text

/-- What a line comes to and what is reported, if blanks at its ends are left aside. -/
inductive LineRead (text : List Char) : Logged (Except Skip Rule) → Prop where
  | blank : Text.Core Text.isBlank text [] → LineRead text ⟨.error .blank, []⟩
  | comment {rest : List Char} : Text.Core Text.isBlank text (commentMark :: rest) →
      LineRead text ⟨.error .comment, []⟩
  | noArrow {line : List Char} : Text.Core Text.isBlank text line → line ≠ [] →
      line.head? ≠ some commentMark → ¬ arrow.toList <:+: line →
      LineRead text ⟨.error .noArrow, []⟩
  | noConclusion {line front back : List Char} : Text.Core Text.isBlank text line →
      line.head? ≠ some commentMark → Text.FirstOccurrence arrow.toList line front back →
      ¬ HoldsPattern back → LineRead text ⟨.error .noConclusion, []⟩
  | rule {line front back : List Char} {conclusion : Atom} {extra : List Atom} :
      Text.Core Text.isBlank text line → line.head? ≠ some commentMark →
      Text.FirstOccurrence arrow.toList line front back → HoldsPattern back →
      scanAtoms back = conclusion :: extra →
      LineRead text ⟨.ok ⟨scanAtoms front, conclusion, String.ofList line⟩,
        if extra = [] then [] else [.extraConclusions extra.length (String.ofList line)]⟩

/-! Scanning finds a pattern exactly if there is one. -/

/-- Characters in front of an opening may join its word, but they leave what it opens. -/
theorem Opening.append_left {piece before run blanks body : List Char} (front : List Char)
    (opening : Opening piece before run blanks body) :
    ∃ longer longerRun, Opening (front ++ piece) longer longerRun blanks body := by
  induction front with
  | nil => exact ⟨before, run, opening⟩
  | cons c front ih =>
      obtain ⟨longer, longerRun, found⟩ := ih
      obtain ⟨longest, longestRun, foundHere, _⟩ := found.cons c
      exact ⟨longest, longestRun, foundHere⟩

theorem scanAtoms_ne_nil_of_opening {piece before run blanks body : List Char}
    (noClosing : ')' ∉ piece) (opening : Opening piece before run blanks body)
    (rest : List Char) : scanAtoms (piece ++ ')' :: rest) ≠ [] := by
  obtain ⟨_, _, _, _, first⟩ := exists_first opening
  rw [scanAtoms_piece noClosing, scanAtoms_of_first noClosing first]
  exact List.cons_ne_nil _ _

theorem scanAtoms_ne_nil_of_pattern {pattern : List Char} (isPattern : IsPattern pattern)
    (front back : List Char) : scanAtoms (front ++ (pattern ++ back)) ≠ [] := by
  obtain ⟨run, blanks, body, runNotEmpty, word, blank, bodyNotEmpty, noClosing⟩ := isPattern
  have opening : Opening (run ++ (blanks ++ '(' :: body)) [] run blanks body :=
    ⟨rfl, runNotEmpty, word, by simp, not_word_of_head blank, blank, bodyNotEmpty⟩
  have pieceNoClosing : ')' ∉ run ++ (blanks ++ '(' :: body) := by
    simp only [List.mem_append, List.mem_cons, not_or]
    refine ⟨fun inside => ?_, fun inside => ?_, by decide, noClosing⟩
    · exact absurd (word _ inside) (by decide)
    · exact absurd (blank _ inside) (by decide)
  -- The piece that ends with the pattern begins after the last closing parenthesis in front.
  induction front using Text.split_induction ')' with
  | last front frontNoClosing =>
      obtain ⟨longer, longerRun, found⟩ := opening.append_left front
      have both : ')' ∉ front ++ (run ++ (blanks ++ '(' :: body)) := by
        rw [List.mem_append, not_or]
        exact ⟨frontNoClosing, pieceNoClosing⟩
      have ended := scanAtoms_ne_nil_of_opening both found back
      simpa using ended
  | step piece rest pieceAbsent ih =>
      rw [List.append_assoc, List.cons_append, scanAtoms_piece pieceAbsent]
      exact List.append_ne_nil_of_right_ne_nil _ ih

theorem holdsPattern_of_ok {text rest : List Char} {atom : Atom}
    (read : atomPattern text = .ok (atom, rest)) : HoldsPattern text := by
  obtain ⟨piece, run, blanks, body, rfl, noClosing, opening, _⟩ := atomPattern_eq_ok.mp read
  refine ⟨run ++ (blanks ++ '(' :: (body ++ [')'])), ?_, [], rest, ?_⟩
  · exact .mk run blanks body opening.run_ne_nil opening.word opening.blank opening.body_ne_nil
      (opening.not_mem_body noClosing)
  · simp [opening.whole]

theorem holdsPattern_of_scanned {text : List Char} (scanned : scanAtoms text ≠ []) :
    HoldsPattern text := by
  induction text with
  | nil => exact absurd scanAtoms_nil scanned
  | cons c text ih =>
      by_cases read : ∃ atom rest, atomPattern (c :: text) = .ok (atom, rest)
      · obtain ⟨atom, rest, read⟩ := read
        exact holdsPattern_of_ok read
      · simp only [not_exists] at read
        rw [scanAtoms_of_not_ok read] at scanned
        obtain ⟨pattern, isPattern, inside⟩ := ih scanned
        exact ⟨pattern, isPattern, inside.trans (List.suffix_cons c text).isInfix⟩

theorem scanAtoms_ne_nil_iff {text : List Char} : scanAtoms text ≠ [] ↔ HoldsPattern text := by
  constructor
  · exact holdsPattern_of_scanned
  · rintro ⟨pattern, isPattern, front, back, rfl⟩
    rw [List.append_assoc]
    exact scanAtoms_ne_nil_of_pattern isPattern front back

/-! A line. -/

theorem arrow_ne_nil : arrow.toList ≠ [] := by decide

variable {text line front back : List Char}

theorem parseLine_eq_ruleOf (core : Text.Core Text.isBlank text line) (notEmpty : line ≠ [])
    (noComment : line.head? ≠ some commentMark) : parseLine text = ruleOf line := by
  obtain ⟨c, rest, rfl⟩ := List.exists_cons_of_ne_nil notEmpty
  have trimmed : Text.trim text = c :: rest := Text.core_iff.mp core
  simp only [parseLine, trimmed]
  exact if_neg fun same => noComment (congrArg some same)

theorem ruleOf_of_noArrow (absent : ¬ arrow.toList <:+: line) :
    ruleOf line = ⟨.error .noArrow, []⟩ := by
  rw [← Text.occurs_iff, Bool.not_eq_true, Text.occurs, Option.isSome_eq_false_iff,
    Option.isNone_iff_eq_none] at absent
  have none : segments line = none := absent
  rw [ruleOf, none]
  rfl

theorem ruleOf_of_noConclusion (cut : Text.FirstOccurrence arrow.toList line front back)
    (none : scanAtoms back = []) : ruleOf line = ⟨.error .noConclusion, []⟩ := by
  have parts : segments line = some (front, back) :=
    (Text.firstOccurrence_iff arrow_ne_nil).mp cut
  simp only [ruleOf, parts, none]
  rfl

theorem ruleOf_of_conclusion {conclusion : Atom} {extra : List Atom}
    (cut : Text.FirstOccurrence arrow.toList line front back)
    (scanned : scanAtoms back = conclusion :: extra) :
    ruleOf line = ⟨.ok ⟨scanAtoms front, conclusion, String.ofList line⟩,
      if extra = [] then [] else [.extraConclusions extra.length (String.ofList line)]⟩ := by
  have parts : segments line = some (front, back) :=
    (Text.firstOccurrence_iff arrow_ne_nil).mp cut
  simp only [ruleOf, parts, scanned]
  cases extra <;> rfl

theorem LineRead.parseLine_eq {read : Logged (Except Skip Rule)} (lineRead : LineRead text read) :
    parseLine text = read := by
  cases lineRead with
  | blank core =>
      have trimmed : Text.trim text = [] := Text.core_iff.mp core
      simp only [parseLine, trimmed]
      rfl
  | comment core =>
      have trimmed : Text.trim text = commentMark :: _ := Text.core_iff.mp core
      simp only [parseLine, trimmed]
      rfl
  | noArrow core notEmpty noComment absent =>
      rw [parseLine_eq_ruleOf core notEmpty noComment, ruleOf_of_noArrow absent]
  | noConclusion core noComment cut none =>
      rw [← scanAtoms_ne_nil_iff, not_not] at none
      have notEmpty := cut.text_ne_nil arrow_ne_nil
      rw [parseLine_eq_ruleOf core notEmpty noComment, ruleOf_of_noConclusion cut none]
  | rule core noComment cut _ scanned =>
      have notEmpty := cut.text_ne_nil arrow_ne_nil
      rw [parseLine_eq_ruleOf core notEmpty noComment, ruleOf_of_conclusion cut scanned]

theorem exists_lineRead (text : List Char) : ∃ read, LineRead text read := by
  have core := Text.core_trim text
  by_cases empty : Text.trim text = []
  · exact ⟨_, .blank (empty ▸ core)⟩
  by_cases comment : (Text.trim text).head? = some commentMark
  · obtain ⟨rest, whole⟩ := List.head?_eq_some_iff.mp comment
    exact ⟨_, .comment (whole ▸ core)⟩
  by_cases absent : arrow.toList <:+: Text.trim text
  swap
  · exact ⟨_, .noArrow core empty comment absent⟩
  obtain ⟨⟨front, back⟩, parts⟩ := Option.isSome_iff_exists.mp (Text.occurs_iff.mpr absent)
  have cut := (Text.firstOccurrence_iff arrow_ne_nil).mpr parts
  by_cases holds : HoldsPattern back
  swap
  · exact ⟨_, .noConclusion core comment cut holds⟩
  obtain ⟨conclusion, extra, scanned⟩ :=
    List.exists_cons_of_ne_nil (scanAtoms_ne_nil_iff.mpr holds)
  exact ⟨_, .rule core comment cut holds scanned⟩

theorem parseLine_eq_iff {read : Logged (Except Skip Rule)} :
    parseLine text = read ↔ LineRead text read := by
  constructor
  · rintro rfl
    obtain ⟨read, lineRead⟩ := exists_lineRead text
    rwa [lineRead.parseLine_eq]
  · exact LineRead.parseLine_eq

/-- Reading a line comes to what the grammar says, for every text and with no other outcome: in
value and in what is reported. Scanning finds a conclusion exactly if a pattern stands anywhere
after the arrow. -/
theorem line_read_iff_grammar :
    (∀ text read, parseLine text = read ↔ LineRead text read) ∧
      ∀ back, (∃ conclusion extra, scanAtoms back = conclusion :: extra) ↔ HoldsPattern back := by
  refine ⟨fun text read => parseLine_eq_iff, fun back => ?_⟩
  rw [← scanAtoms_ne_nil_iff, List.ne_nil_iff_exists_cons]

-- The first arrow is the one within `==>`. Empty parentheses are no pattern; the atom after them
-- is.
example :
    (parseLine " p(X) ==> (X), q(X, =>) r() s(X,)\r".toList).value =
      .ok ⟨[⟨"p", [.var "X"]⟩], ⟨"q", [.var "X", .const "=>"]⟩,
        "p(X) ==> (X), q(X, =>) r() s(X,)"⟩ ∧
    (parseLine " p(X) ==> (X), q(X, =>) r() s(X,)\r".toList).events =
      [.extraConclusions 1 "p(X) ==> (X), q(X, =>) r() s(X,)"] := by
  decide +kernel

end Deduction.RuleText
