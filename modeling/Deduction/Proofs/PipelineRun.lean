import Deduction.Pipeline
import Deduction.Proofs.Cutting
import Deduction.Proofs.Encoding
import Deduction.Proofs.Rounds

/-!
Runs of the pipeline. Deduction comes first; it sees the text of the rule file, the cap, and of the
problem only whether it holds the keyword. The generator comes last and sees what deduction found.
So whatever a generator does leaves the findings alone, and a run fails only where the rules cannot
be read, before any generator is asked. A transcript keeps the prompts that the generator received,
which says how often it was asked.
-/

namespace Deduction

namespace Node

theorem textOf_eq_ok {content : ByteArray} {text : String} :
    textOf content = .ok text ↔ content = text.toUTF8 := by
  rw [← Text.fromUTF8?_eq_some, textOf]
  cases String.fromUTF8? content <;> simp

theorem readText_eq_ok {top : List (String × Node)} {path text : String} :
    readText top path = .ok text ↔ read top path = .ok text.toUTF8 := by
  unfold readText
  cases read top path with
  | error fault => exact ⟨nofun, nofun⟩
  | ok content =>
      rw [Except.ok.injEq, ← textOf_eq_ok]
      rfl

end Node

namespace Pipeline

open Generation (Generator)

/-! What deduction sees. -/

theorem seeds_congr {problem other : String}
    (same : keyword.toList <:+: problem.toList ↔ keyword.toList <:+: other.toList) :
    seeds problem = seeds other := by
  simp only [seeds, Text.occurs_iff, same]

def found (text problem : String) (cap : Nat) : Findings :=
  (findings (RuleText.parseRules text.toList).value problem cap).value

theorem found_eq (text problem : String) (cap : Nat) :
    found text problem cap =
      let rules := (RuleText.parseRules text.toList).value
      let solved := ((FactStore.empty.extend (seeds problem)).value.solve rules cap).value
      ⟨solved.2, solved.1.query (some target), solved.1⟩ := by
  unfold found findings
  simp only [Logged.bind_value]
  split <;> split <;> rfl

theorem found_congr {problem other : String} (text : String) (cap : Nat)
    (same : keyword.toList <:+: problem.toList ↔ keyword.toList <:+: other.toList) :
    found text problem cap = found text other cap := by
  rw [found_eq, found_eq, seeds_congr same]

theorem toList_seeded (problem : String) :
    (FactStore.empty.extend (seeds problem)).value.toList = seeds problem := by
  rw [FactStore.toList_extend, seeds]
  split <;> decide

theorem toList_found (text problem : String) (cap : Nat) :
    (found text problem cap).store.toList =
      (FactList.solve (RuleText.parseRules text.toList).value cap (seeds problem)).1 := by
  rw [found_eq]
  simp only [FactStore.toList_solve, toList_seeded]

theorem report_found (text problem : String) (cap : Nat) :
    (found text problem cap).report =
      (FactList.solve (RuleText.parseRules text.toList).value cap (seeds problem)).2 := by
  rw [found_eq]
  simp only [FactStore.report_solve, toList_seeded]

theorem explained_found (text problem : String) (cap : Nat) :
    (found text problem cap).explained =
      (found text problem cap).store.toList.filter fun atom => atom.predicate = target := by
  rw [found_eq]
  exact FactStore.withPredicate_eq_filter _ target

/-! What a run shows. -/

abbrev Replies := String → Logged (Except Failure String)

def noting (replies : Replies) : Generator (StateM (List String)) :=
  fun prompt => do
    modify (· ++ [prompt])
    pure (replies prompt)

/-- How a run ended, and the prompts that its generator received, in their order. -/
structure Transcript where
  ended : Logged (Except Failure Outcome)
  prompts : List String

def transcript (files : Files) (problem : String) (settings : Settings)
    (replies? : Option Replies) : Transcript :=
  let (ended, prompts) := (run files problem settings (replies?.map noting)).run []
  ⟨ended, prompts⟩

variable {files : Files} {problem text : String} {settings : Settings} {fault : ReadFault}
  {replies? : Option Replies}

theorem deduce_of_fault (unreadable : files settings.rulesPath = .error fault) :
    deduce files problem settings =
      ⟨.error (.unreadable settings.rulesPath fault), [.solving problem]⟩ := by
  simp only [deduce, rulesOf, Files.load, unreadable]
  rfl

theorem deduce_value_of_text (read : files settings.rulesPath = .ok text) :
    (deduce files problem settings).value = .ok (found text problem settings.cap) := by
  simp only [deduce, rulesOf, Files.load, read]
  rfl

theorem transcript_of_fault (unreadable : files settings.rulesPath = .error fault) :
    transcript files problem settings replies? =
      ⟨⟨.error (.unreadable settings.rulesPath fault), [.solving problem]⟩, []⟩ := by
  simp only [transcript, run, deduce_of_fault unreadable]
  rfl

theorem prompts_of_text (read : files settings.rulesPath = .ok text) :
    (transcript files problem settings replies?).prompts =
      (replies?.map fun _ => prompt (found text problem settings.cap).store problem).toList := by
  simp only [transcript, run, deduce_value_of_text read]
  cases replies? <;> rfl

theorem answer_eq_some {reply : Except Failure String} {words : String} :
    (answer reply).value = some words ↔ reply = .ok words := by
  cases reply <;> simp [answer]

theorem ended_of_text (read : files settings.rulesPath = .ok text) :
    (transcript files problem settings replies?).ended.value =
      .ok ⟨found text problem settings.cap, replies?.bind fun replies =>
        (answer
          (replies (prompt (found text problem settings.cap).store problem)).value).value⟩ := by
  simp only [transcript, run, deduce_value_of_text read]
  cases replies? <;> rfl

theorem outcome_of_text (files : Files) (problem : String) (settings : Settings)
    (replies? : Option Replies) (read : files settings.rulesPath = .ok text) :
    ∃ outcome, (transcript files problem settings replies?).ended.value = .ok outcome ∧
      outcome.toFindings = found text problem settings.cap :=
  ⟨_, ended_of_text read, rfl⟩

theorem text_of_ended {outcome : Outcome}
    (ended : (transcript files problem settings replies?).ended.value = .ok outcome) :
    ∃ text, files settings.rulesPath = .ok text ∧
      outcome.toFindings = found text problem settings.cap := by
  cases read : files settings.rulesPath with
  | error fault =>
      rw [transcript_of_fault read] at ended
      contradiction
  | ok text =>
      rw [ended_of_text read] at ended
      cases ended
      exact ⟨text, rfl, rfl⟩

/-- How a run goes: it fails where the rules cannot be read as text, and then nobody is asked; else
a generator is asked once, about what was found, and its text is the response. -/
structure Transcript.Conducted (seen : Transcript) (files : Files) (problem : String)
    (settings : Settings) (replies? : Option Replies) : Prop where
  fails_iff : (∃ failure, seen.ended.value = .error failure) ↔
    ∃ fault, files settings.rulesPath = .error fault
  unasked : ∀ failure, seen.ended.value = .error failure → seen.prompts = []
  explained : ∀ outcome, seen.ended.value = .ok outcome →
    outcome.explained = outcome.store.toList.filter fun atom => atom.predicate = target
  asked : ∀ outcome, seen.ended.value = .ok outcome →
    seen.prompts = (replies?.map fun _ => prompt outcome.store problem).toList
  response : ∀ outcome, seen.ended.value = .ok outcome →
    ∀ words, outcome.response = some words ↔ ∃ replies, replies? = some replies ∧
      (replies (prompt outcome.store problem)).value = .ok words

theorem conducted_of_fault (unreadable : files settings.rulesPath = .error fault) :
    (transcript files problem settings replies?).Conducted files problem settings replies? := by
  rw [transcript_of_fault unreadable]
  constructor
  · exact ⟨fun _ => ⟨fault, unreadable⟩, fun _ => ⟨_, rfl⟩⟩
  · exact fun _ _ => rfl
  all_goals exact nofun

theorem conducted_of_text (read : files settings.rulesPath = .ok text) :
    (transcript files problem settings replies?).Conducted files problem settings replies? := by
  have ended : (transcript files problem settings replies?).ended.value = _ := ended_of_text read
  constructor
  · rw [ended, read]
    exact ⟨nofun, nofun⟩
  · rw [ended]
    exact nofun
  all_goals
    rw [ended]
    rintro outcome ⟨⟩
  · exact explained_found text problem settings.cap
  · exact prompts_of_text read
  · intro words
    rw [Option.bind_eq_some_iff]
    exact exists_congr fun replies => and_congr_right fun _ => answer_eq_some

/-- A run with a generator that acts while it replies: it is asked once, if there is something to
ask about, and the run ends as with any generator that gives the same reply. -/
def askingOnce {m : Type → Type} [Monad m] (files : Files) (problem : String)
    (settings : Settings) (ask : Generator m) : m (Logged (Except Failure Outcome)) :=
  match (transcript files problem settings none).ended.value with
  | .error _ => pure (transcript files problem settings none).ended
  | .ok outcome => do
      let reply ← ask (prompt outcome.store problem)
      pure (transcript files problem settings (some fun _ => reply)).ended

theorem run_eq_askingOnce {m : Type → Type} [Monad m] [LawfulMonad m] (files : Files)
    (problem : String) (settings : Settings) (ask : Generator m) :
    run files problem settings (some ask) = askingOnce files problem settings ask := by
  unfold askingOnce
  cases read : files settings.rulesPath with
  | error fault =>
      rw [transcript_of_fault read]
      simp only [run, deduce_of_fault read]
  | ok text =>
      rw [ended_of_text read]
      simp only [run, deduce_value_of_text read, consult, bind_assoc, pure_bind, transcript]
      rfl

/-- Two runs over one rule text, with one cap and with the keyword in both problems or in neither,
have the same report, the same store and the same explained facts. A run is an error exactly if its
rules cannot be read as text; in a file tree, if the path leads to no file of UTF-8 bytes. A
generator, also one that acts, is asked about the facts of the final store, once or not at all. -/
theorem run_decided_by_rules_cap_and_keyword :
    (∀ (files other : Files) (problem otherProblem : String) (settings otherSettings : Settings)
        (replies? otherReplies? : Option Replies) (text : String),
      files settings.rulesPath = .ok text → other otherSettings.rulesPath = .ok text →
      settings.cap = otherSettings.cap →
      (keyword.toList <:+: problem.toList ↔ keyword.toList <:+: otherProblem.toList) →
      ∃ outcome otherOutcome,
        (transcript files problem settings replies?).ended.value = .ok outcome ∧
        (transcript other otherProblem otherSettings otherReplies?).ended.value =
          .ok otherOutcome ∧
        outcome.toFindings = otherOutcome.toFindings) ∧
    (∀ (files : Files) (problem : String) (settings : Settings) (replies? : Option Replies),
      (transcript files problem settings replies?).Conducted files problem settings replies?) ∧
    (∀ (top : List (String × Node)) (problem : String) (settings : Settings)
        (replies? : Option Replies),
      (∃ failure, (transcript (Node.readText top) problem settings replies?).ended.value =
        .error failure) ↔
          ¬ ∃ text : String, Node.read top settings.rulesPath = .ok text.toUTF8) ∧
    ∀ (m : Type → Type) [Monad m] [LawfulMonad m] (files : Files) (problem : String)
        (settings : Settings) (ask : Generator m),
      run files problem settings (some ask) = askingOnce files problem settings ask := by
  refine ⟨?_, ?_, ?_, fun m _ _ => run_eq_askingOnce⟩
  · intro files other problem otherProblem settings otherSettings replies? otherReplies? text read
      otherRead sameCap sameBit
    -- The generators, the settings but for the cap, and the rest of the problems are gone here.
    refine ⟨_, _, ended_of_text read, ended_of_text otherRead, ?_⟩
    exact sameCap ▸ found_congr text settings.cap sameBit
  · intro files problem settings replies?
    cases read : files settings.rulesPath with
    | error fault => exact conducted_of_fault read
    | ok text => exact conducted_of_text read
  · intro top problem settings replies?
    simp only [← Node.readText_eq_ok]
    cases read : Node.readText top settings.rulesPath with
    | error fault =>
        rw [transcript_of_fault read]
        exact ⟨fun _ => nofun, fun _ => ⟨_, rfl⟩⟩
    | ok text =>
        rw [ended_of_text read]
        exact ⟨nofun, fun none => absurd ⟨text, rfl⟩ none⟩

def constantRule : String :=
  "lattice_structure(X, Y), degree_of_freedom(X, Z) => explained_constant(Y, Z)"

/-- One run asks a client that no service answers, the other has no generator. They read different
paths, and only the keyword is common to the problems. -/
theorem constant_explained_alike :
    let readable : Files := fun _ => .ok constantRule
    let settings : Settings := { rulesPath := "rules", model := "none" }
    let client := Generation.fromSurroundings .unreachable readable (fun _ => some "key") {}
    keyword.toList <:+: Settings.defaultProblem.toList ∧
      keyword.toList <:+: "Fine Structure Constant?".toList ∧
      ∃ outcome other,
        (transcript readable Settings.defaultProblem {} (some client)).ended.value =
          .ok outcome ∧
        (transcript readable "Fine Structure Constant?" settings none).ended.value = .ok other ∧
        outcome.toFindings = other.toFindings ∧
        outcome.explained = [.ground "explained_constant" ["D4", "137"]] := by
  intro readable settings client
  have holds : keyword.toList <:+: Settings.defaultProblem.toList :=
    Text.occurs_iff.mp (by decide)
  have holdsToo : keyword.toList <:+: "Fine Structure Constant?".toList :=
    Text.occurs_iff.mp (by decide)
  obtain ⟨outcome, other, ended, otherEnded, same⟩ :=
    run_decided_by_rules_cap_and_keyword.1 readable readable Settings.defaultProblem
      "Fine Structure Constant?" {} settings (some client) none constantRule rfl rfl rfl
      (iff_of_true holds holdsToo)
  refine ⟨holds, holdsToo, outcome, other, ended, otherEnded, same, ?_⟩
  have explained := (run_decided_by_rules_cap_and_keyword.2.1 readable Settings.defaultProblem {}
    (some client)).explained outcome ended
  obtain ⟨text, read, same⟩ := text_of_ended ended
  cases read
  rw [explained, same, toList_found]
  decide +kernel

end Pipeline

end Deduction
