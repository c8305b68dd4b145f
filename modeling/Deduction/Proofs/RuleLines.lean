import Deduction.Proofs.WrittenRule

/-!
Rule text line by line. What a line holds is decided between its line feeds: a carriage return is
blank and goes with the padding, and a last line without text is a blank line like any other. So a
text gives the rules of its pieces, one after the other, and two texts with a line feed between them
give the rules of both. A rule's label is its line without the padding; reading the label reads the
same line again.
-/

namespace Deduction

namespace RuleText

def ruleOn? (line : List Char) : Option Rule :=
  (parseLine line).value.toOption

theorem ruleOn?_eq_some {line : List Char} {rule : Rule} :
    ruleOn? line = some rule ↔ (parseLine line).value = .ok rule := by
  unfold ruleOn?
  cases (parseLine line).value <;> simp [Except.toOption]

theorem parseLine_trim (line : List Char) : parseLine (Text.trim line) = parseLine line := by
  rw [parseLine, Text.trim_trim, parseLine]

theorem ruleOn?_dropReturn (line : List Char) : ruleOn? (Text.dropReturn line) = ruleOn? line := by
  rw [ruleOn?, ← parseLine_trim, Text.trim_dropReturn, parseLine_trim, ruleOn?]

-- Lines and pieces differ by carriage returns and by an empty last piece.
theorem filterMap_linesOfPieces (pieces : List (List Char)) :
    (Text.linesOfPieces pieces).filterMap ruleOn? = pieces.filterMap ruleOn? := by
  fun_induction Text.linesOfPieces pieces with
  | case1 => rfl
  | case2 last none =>
      rw [List.isEmpty_iff.mp none]
      rfl
  | case3 => rfl
  | case4 piece rest _ ih => rw [List.filterMap_cons, List.filterMap_cons, ruleOn?_dropReturn, ih]

theorem parseLines_value (number : Nat) (lines : List (List Char)) :
    (parseLines number lines).value = lines.filterMap ruleOn? := by
  induction lines generalizing number with
  | nil => rfl
  | cons line rest ih =>
      rw [parseLines, Logged.bind_value, List.filterMap_cons, ruleOn?]
      cases (parseLine line).value with
      | ok rule => simp [ih, Except.toOption]
      | error skip =>
          by_cases reported : skip = .noArrow ∨ skip = .noConclusion <;>
            simp [reported, ih, Except.toOption]

theorem parseRules_value (text : List Char) :
    (parseRules text).value = (text.splitOn '\n').filterMap ruleOn? := by
  rw [parseRules, parseLines_value, Text.lines, filterMap_linesOfPieces]

theorem parseRules_append (front back : List Char) :
    (parseRules (front ++ '\n' :: back)).value =
      (parseRules front).value ++ (parseRules back).value := by
  rw [parseRules_value, List.splitOn_append_cons_self, List.filterMap_append, ← parseRules_value,
    ← parseRules_value]

theorem line_of_mem_parseRules {text : List Char} {rule : Rule}
    (member : rule ∈ (parseRules text).value) :
    ∃ line, '\n' ∉ line ∧ (parseLine line).value = .ok rule := by
  rw [parseRules_value, List.mem_filterMap] at member
  obtain ⟨line, isPiece, read⟩ := member
  exact ⟨line, Text.not_mem_of_mem_splitOn isPiece, ruleOn?_eq_some.mp read⟩

/-! Labels. -/

variable {line : List Char} {rule : Rule}

theorem toList_label (read : (parseLine line).value = .ok rule) :
    rule.label.toList = Text.trim line := by
  obtain ⟨_, _, _, _, _, _, _, label, _⟩ := parseLine_eq_ok read
  rw [label, String.toList_ofList]

theorem ruleOn?_label (read : (parseLine line).value = .ok rule) :
    ruleOn? rule.label.toList = some rule := by
  rw [toList_label read, ruleOn?_eq_some, parseLine_trim, read]

theorem not_mem_label (read : (parseLine line).value = .ok rule) (oneLine : '\n' ∉ line) :
    '\n' ∉ rule.label.toList := by
  rw [toList_label read]
  exact fun inside => oneLine ((Text.infix_trimBy _ line).subset inside)

/-- Reading the labels of some rules, each on a line of its own, gives the rules if it does so for
each label alone. -/
theorem parseRules_labels {rules : List Rule}
    (oneLine : ∀ rule ∈ rules, '\n' ∉ rule.label.toList)
    (read : ∀ rule ∈ rules, ruleOn? rule.label.toList = some rule) :
    (parseRules (String.intercalate "\n" (rules.map Rule.label)).toList).value = rules := by
  cases rules with
  | nil => rfl
  | cons first rest =>
      rw [parseRules_value, Text.splitOn_intercalate (by simp) (List.forall_mem_map.mpr oneLine),
        List.map_map, List.filterMap_map]
      exact (List.filterMap_congr read).trans List.filterMap_some

/-- A text holds the rules of the pieces between its line feeds, in their order; what stands on
either side of a line feed is read as if it stood alone; and the labels, one to a line, are a text
with the same rules. -/
theorem rules_stand_on_their_lines :
    (∀ text, (parseRules text).value = (text.splitOn '\n').filterMap ruleOn?) ∧
    (∀ front back, (parseRules (front ++ '\n' :: back)).value =
      (parseRules front).value ++ (parseRules back).value) ∧
    ∀ text, (parseRules
        (String.intercalate "\n" ((parseRules text).value.map Rule.label)).toList).value =
      (parseRules text).value := by
  refine ⟨parseRules_value, parseRules_append, ?_⟩
  intro text
  apply parseRules_labels
  · intro rule member
    obtain ⟨line, oneLine, read⟩ := line_of_mem_parseRules member
    exact not_mem_label read oneLine
  · intro rule member
    obtain ⟨line, _, read⟩ := line_of_mem_parseRules member
    exact ruleOn?_label read

end RuleText

end Deduction
