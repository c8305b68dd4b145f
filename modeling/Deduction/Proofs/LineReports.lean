import Deduction.Proofs.LineGrammar
import Deduction.Proofs.RuleLines

/-!
What the reading of a rule text reports. Rules and reports come from different lines, and a report
comes either while a line is read or after the line was found to hold no rule. Still no line is
counted twice and none is lost: a line gives a rule, or it is reported as skipped, or it is blank or
a comment. The numbers in the reports count all of them.
-/

namespace Deduction

@[simp] def Event.isLineSkipped : Event → Bool
  | lineSkipped _ _ => true
  | _ => false

/-- Every line feed ends a line, and a line feed at the end of the text begins none. -/
theorem Text.length_lines (text : List Char) :
    (lines text).length =
      text.count '\n' + if text.getLast?.all (· == '\n') then 0 else 1 := by
  unfold lines
  induction text using split_induction '\n' with
  | last text absent =>
      rw [List.splitOn_eq_singleton absent, List.count_eq_zero_of_not_mem absent]
      cases last : text.getLast? with
      | none => simp [linesOfPieces, List.getLast?_eq_none_iff.mp last]
      | some c =>
          have member : c ∈ text := List.mem_of_getLast? last
          have notFeed : c ≠ '\n' := fun same => absent (same ▸ member)
          simp [linesOfPieces, List.ne_nil_of_mem member, notFeed]
  | step piece rest absent ih =>
      obtain ⟨next, more, divided⟩ := List.exists_cons_of_ne_nil (List.splitOn_ne_nil '\n' rest)
      have ended : (piece ++ '\n' :: rest).getLast?.all (· == '\n') =
          rest.getLast?.all (· == '\n') := by
        rw [List.getLast?_append, List.getLast?_cons]
        cases rest.getLast? <;> simp
      rw [divided] at ih
      rw [List.splitOn_append_cons_self_of_not_mem absent, divided, linesOfPieces,
        List.length_cons, ih, ended, List.count_append, List.count_cons_self,
        List.count_eq_zero_of_not_mem absent]
      · omega
      · exact nofun

namespace RuleText

def isPassedOver (line : List Char) : Bool :=
  match Text.trim line with
  | [] => true
  | c :: _ => c == commentMark

def conclusionsOn (line : List Char) : List Atom :=
  match segments (Text.trim line) with
  | none => []
  | some (_, after) => scanAtoms after

/-- What is reported of a line that has a number: that it is skipped, if it looks like a rule but
holds none, and how many conclusions are left out, if it holds a rule with more than one. -/
def reportsOn (number : Nat) (line : List Char) : List Event :=
  let shown := String.ofList (Text.trim line)
  match (parseLine line).value with
  | .error .blank | .error .comment => []
  | .error .noArrow | .error .noConclusion => [.lineSkipped number shown]
  | .ok _ =>
      let extra := (conclusionsOn line).tail
      if extra = [] then [] else [.extraConclusions extra.length shown]

variable {line core front back : List Char}

/-! One line. -/

theorem conclusionsOn_of_cut (isCore : Text.Core Text.isBlank line core)
    (cut : Text.FirstOccurrence arrow.toList core front back) :
    conclusionsOn line = scanAtoms back := by
  have trimmed : Text.trim line = core := Text.core_iff.mp isCore
  have parts : segments core = some (front, back) :=
    (Text.firstOccurrence_iff arrow_ne_nil).mp cut
  simp only [conclusionsOn, trimmed, parts]

theorem isPassedOver_eq_false (isCore : Text.Core Text.isBlank line core) (notEmpty : core ≠ [])
    (noComment : core.head? ≠ some commentMark) : isPassedOver line = false := by
  obtain ⟨c, rest, rfl⟩ := List.exists_cons_of_ne_nil notEmpty
  have trimmed : Text.trim line = c :: rest := Text.core_iff.mp isCore
  simpa [isPassedOver, trimmed] using noComment

/-- The lines that are passed over are those that reading rejects without a report. -/
theorem isPassedOver_iff :
    isPassedOver line = true ↔
      (parseLine line).value = .error .blank ∨ (parseLine line).value = .error .comment := by
  generalize parsed : parseLine line = read
  cases parseLine_eq_iff.mp parsed with
  | blank isCore | comment isCore =>
      have trimmed : Text.trim line = _ := Text.core_iff.mp isCore
      simp [isPassedOver, trimmed]
  | noArrow isCore notEmpty noComment => simp [isPassedOver_eq_false isCore notEmpty noComment]
  | noConclusion isCore noComment cut | rule isCore noComment cut =>
      simp [isPassedOver_eq_false isCore (cut.text_ne_nil arrow_ne_nil) noComment]

theorem level_of_mem_reportsOn {number : Nat} {event : Event}
    (member : event ∈ reportsOn number line) : event.level = .debug := by
  unfold reportsOn at member
  split at member
  all_goals simp_all [Event.level]

-- A report of left out conclusions comes with the rule, a report of a skipped line after it.
theorem parseLines_cons (number : Nat) (line : List Char) (rest : List (List Char)) :
    parseLines number (line :: rest) =
      ⟨(ruleOn? line).toList ++ (parseLines (number + 1) rest).value,
        reportsOn number line ++ (parseLines (number + 1) rest).events⟩ := by
  rw [parseLines, ruleOn?, reportsOn]
  generalize parseLines (number + 1) rest = later
  generalize parsed : parseLine line = read
  cases parseLine_eq_iff.mp parsed with
  | blank | comment | noArrow | noConclusion => rfl
  | rule isCore _ cut _ scanned =>
      have trimmed : Text.trim line = _ := Text.core_iff.mp isCore
      refine congrArg₂ Logged.mk rfl ?_
      simp [conclusionsOn_of_cut isCore cut, scanned, trimmed]

theorem accounted_once (number : Nat) (line : List Char) :
    (ruleOn? line).toList.length + (reportsOn number line).countP Event.isLineSkipped +
      (if isPassedOver line then 1 else 0) = 1 := by
  rw [ruleOn?, reportsOn]
  cases passed : isPassedOver line with
  | true => rcases isPassedOver_iff.mp passed with blank | comment <;> simp [*, Except.toOption]
  | false =>
      rw [← Bool.not_eq_true, isPassedOver_iff, not_or] at passed
      obtain ⟨notBlank, noComment⟩ := passed
      cases read : (parseLine line).value with
      | ok rule =>
          by_cases alone : (conclusionsOn line).tail = [] <;> simp [alone, Except.toOption]
      | error skip => cases skip <;> simp_all [Except.toOption]

/-! A text. -/

theorem events_parseLines (number : Nat) (lines : List (List Char)) :
    (parseLines number lines).events =
      (lines.mapIdx fun i line => reportsOn (number + i) line).flatten := by
  induction lines generalizing number with
  | nil => rfl
  | cons line rest ih =>
      rw [parseLines_cons, List.mapIdx_cons, List.flatten_cons, ih]
      simp only [Nat.add_assoc, Nat.add_comm 1, Nat.add_zero]

theorem level_of_mem_parseLines {number : Nat} {lines : List (List Char)} {event : Event}
    (member : event ∈ (parseLines number lines).events) : event.level = .debug := by
  rw [events_parseLines, List.mem_flatten] at member
  obtain ⟨events, listed, held⟩ := member
  obtain ⟨_, _, rfl⟩ := List.mem_mapIdx.mp listed
  exact level_of_mem_reportsOn held

theorem length_lines_eq (number : Nat) (lines : List (List Char)) :
    lines.length = (parseLines number lines).value.length +
      (parseLines number lines).events.countP Event.isLineSkipped + lines.countP isPassedOver := by
  induction lines generalizing number with
  | nil => rfl
  | cons line rest ih =>
      have once := accounted_once number line
      have others := ih (number + 1)
      rw [parseLines_cons, List.length_cons, List.length_append, List.countP_append,
        List.countP_cons]
      omega

/-- What reading a text reports is what it reports of its lines, in their order and with their
numbers among all lines, at the level of debugging. Each line is a rule of the result or a report of
a skipped line or passed over, and the lines are as many as the line feeds, with one more if the
text does not end with one. -/
theorem parser_log_accounts_for_lines (text : List Char) :
    let lines := Text.lines text
    let parsed := parseRules text
    parsed.events = (lines.mapIdx fun i line => reportsOn (i + 1) line).flatten ∧
    (∀ event ∈ parsed.events, event.level = .debug) ∧
    lines.length = parsed.value.length + parsed.events.countP Event.isLineSkipped +
      lines.countP isPassedOver ∧
    lines.length = text.count '\n' + if text.getLast?.all (· == '\n') then 0 else 1 := by
  refine ⟨?_, fun event => level_of_mem_parseLines, length_lines_eq 1 _, Text.length_lines text⟩
  simp only [parseRules, events_parseLines, Nat.add_comm 1]

/-- A comment, a line of wide blanks, a rule with two conclusions too many, and two lines that only
look like rules. The text ends in the middle of the last one. -/
def mixedText : List Char :=
  "# p(X) => q(X)\r\n\u3000\np(X) => q(X), r(X) => s(X)\r\n no arrow \n\n=> ()".toList

theorem mixed_text_reported :
    let parsed := parseRules mixedText
    parsed.events.map Event.text =
        [ "DEBUG dropping 2 extra conclusion atom(s) in `p(X) => q(X), r(X) => s(X)`",
          "DEBUG skipping line 4: `no arrow`", "DEBUG skipping line 6: `=> ()`" ] ∧
      .lineSkipped 6 "=> ()" ∈ parsed.events ∧
      (Event.lineSkipped 6 "=> ()").level = .debug ∧
      6 = parsed.value.length + parsed.events.countP Event.isLineSkipped + 3 := by
  intro parsed
  obtain ⟨log, debug, accounted, _⟩ := parser_log_accounts_for_lines mixedText
  have reported : parsed.events =
      [ .extraConclusions 2 "p(X) => q(X), r(X) => s(X)", .lineSkipped 4 "no arrow",
        .lineSkipped 6 "=> ()" ] := by
    rw [log]
    decide +kernel
  have member : .lineSkipped 6 "=> ()" ∈ parsed.events := by
    rw [reported]
    decide
  have lines : (Text.lines mixedText).length = 6 ∧
      (Text.lines mixedText).countP isPassedOver = 3 := by
    decide +kernel
  rw [lines.1, lines.2] at accounted
  refine ⟨?_, member, debug _ member, accounted⟩
  rw [reported]
  decide +kernel

end RuleText

end Deduction
