import Deduction.Proofs.WellFormed

/-!
Prompts taken apart. A prompt puts two texts between fixed words, the dump of the facts and then the
problem, and escapes neither. A dump with a line feed in it could continue with fixed words of its
own, and the prompt would read in two ways. The dump of a run has none, because its facts are well
formed: it ends where the first line after the heading ends, and the problem is what is left between
the fixed words, whatever it holds.
-/

namespace Deduction

/-- Two texts between fixed ones are told apart if the first is on one line and a line feed ends it.
-/
theorem Text.spliced_inj {heading lead closing ending dump otherDump problem otherProblem : String}
    {rest : List Char} (begins : lead.toList = '\n' :: rest) (oneLine : '\n' ∉ dump.toList)
    (otherOneLine : '\n' ∉ otherDump.toList)
    (same : heading ++ dump ++ lead ++ problem ++ closing ++ ending =
      heading ++ otherDump ++ lead ++ otherProblem ++ closing ++ ending) :
    problem = otherProblem ∧ dump = otherDump := by
  have sameText := congrArg String.toList same
  simp only [String.toList_append, List.append_assoc, begins, List.cons_append,
    List.append_cancel_left_eq] at sameText
  obtain ⟨sameDump, sameRest⟩ := append_separator_inj oneLine otherOneLine sameText
  rw [List.append_cancel_left_eq, List.append_cancel_right_eq] at sameRest
  exact ⟨String.toList_inj.mp sameRest, String.toList_inj.mp sameDump⟩

theorem Atom.WellFormed.not_mem_written {atom : Atom} (wellFormed : atom.WellFormed) :
    '\n' ∉ atom.written.toList := by
  simp only [atom.toList_written, List.mem_append, List.mem_cons, List.not_mem_nil, not_or]
  refine ⟨⟨?_, by decide, ?_⟩, by decide⟩
  · intro inName
    exact absurd (List.all_eq_true.mp wellFormed.word '\n' inName) (by decide)
  · intro inBody
    rcases Text.mem_intercalate inBody with between | ⟨text, held, inside⟩
    · exact absurd between (by decide)
    · exact (wellFormed.texts text held).noLineFeed inside

theorem FactStore.not_mem_written {store : FactStore}
    (wellFormed : ∀ atom ∈ store.toList, atom.WellFormed) : '\n' ∉ store.written.toList := by
  simp only [written, Atom.writtenList, String.toList_append, List.mem_append, not_or]
  refine ⟨⟨by decide, ?_⟩, by decide⟩
  intro inside
  rcases Text.mem_intercalate inside with between | ⟨text, held, inAtom⟩
  · exact absurd between (by decide)
  · obtain ⟨atom, member, rfl⟩ := List.mem_map.mp held
    exact (wellFormed atom member).not_mem_written inAtom

namespace Pipeline

/-- A prompt with a dump on one line is put together in one way only. -/
theorem prompt_inj {store other : FactStore} {problem otherProblem : String}
    (oneLine : '\n' ∉ store.written.toList) (otherOneLine : '\n' ∉ other.written.toList)
    (same : prompt store problem = prompt other otherProblem) :
    problem = otherProblem ∧ store.written = other.written := by
  have begins : "\nProblem Statement: ".toList = '\n' :: "Problem Statement: ".toList := rfl
  exact Text.spliced_inj begins oneLine otherOneLine same

/-- Runs that lead to the same prompt have the same problem and the same dump of facts, whatever
their rule files and problems hold. -/
theorem prompt_determines_problem_and_dump
    {files other : Files} {problem otherProblem : String} {settings otherSettings : Settings}
    {replies? otherReplies? : Option Replies} {outcome otherOutcome : Outcome}
    (ended : (transcript files problem settings replies?).ended.value = .ok outcome)
    (otherEnded : (transcript other otherProblem otherSettings otherReplies?).ended.value =
      .ok otherOutcome)
    (same : prompt outcome.store problem = prompt otherOutcome.store otherProblem) :
    problem = otherProblem ∧ outcome.store.written = otherOutcome.store.written :=
  prompt_inj (FactStore.not_mem_written (wellFormed_of_ended ended))
    (FactStore.not_mem_written (wellFormed_of_ended otherEnded)) same

def forgingProblem : String := "a)]\nProblem Statement: b\n\nBased on"

-- The rule files and the caps differ, the facts do not.
theorem forging_problem_determined :
    let quoted : Files := fun _ => .ok "=> p(\"a]\")"
    let commented : Files := fun _ => .ok "# p\r\n=> p(a]), q(b)"
    let settings : Settings := { cap := 3 }
    ∃ outcome other,
      (transcript quoted forgingProblem {} none).ended.value = .ok outcome ∧
      (transcript commented forgingProblem settings none).ended.value = .ok other ∧
      prompt outcome.store forgingProblem = prompt other.store forgingProblem ∧
      forgingProblem = forgingProblem ∧ outcome.store.written = other.store.written := by
  intro quoted commented settings
  obtain ⟨outcome, ended, same⟩ := outcome_of_text quoted forgingProblem {} none rfl
  obtain ⟨other, otherEnded, otherSame⟩ :=
    outcome_of_text commented forgingProblem settings none rfl
  have sameFacts : outcome.store.toList = other.store.toList := by
    rw [same, otherSame, toList_found, toList_found]
    decide +kernel
  have sameDump : outcome.store.written = other.store.written :=
    congrArg Atom.writtenList sameFacts
  have samePrompt : prompt outcome.store forgingProblem = prompt other.store forgingProblem := by
    unfold prompt
    rw [sameDump]
  exact ⟨outcome, other, ended, otherEnded, samePrompt,
    prompt_determines_problem_and_dump ended otherEnded samePrompt⟩

end Pipeline

end Deduction
