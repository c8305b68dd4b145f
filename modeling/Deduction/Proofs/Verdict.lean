import Deduction.Proofs.LeastModel
import Deduction.Proofs.ToldEvents

/-!
The verdict that a run reports on its search: whether the cap cut the search off, and whether it
explained the problem. The two are reported apart. That nothing was explained is said in words that
speak of saturation, but it is said of the facts found so far, also right after the cap has been
reported. So these words alone are no negative answer; they are one exactly where no cap is reported
with them. Then the facts found are the least model, and nothing in it explains the problem.
-/

namespace Deduction

@[simp] def Event.isVerdict : Event → Bool
  | capHit _ | unexplained | explained _ => true
  | _ => false

/-! What is said about a search on the way to a result. -/

namespace Logged

variable {α β : Type}

def verdict (logged : Logged α) : List Event :=
  logged.events.filter Event.isVerdict

@[simp] theorem verdict_pure (value : α) : (pure value : Logged α).verdict = [] := rfl

@[simp] theorem verdict_bind (first : Logged α) (next : α → Logged β) :
    (first >>= next).verdict = first.verdict ++ (next first.value).verdict :=
  List.filter_append _ _

@[simp] theorem verdict_report (event : Event) :
    (report event).verdict = if event.isVerdict then [event] else [] := by
  rw [verdict, report_events, List.filter_cons, List.filter_nil]

theorem mem_verdict {logged : Logged α} {event : Event} (part : event.isVerdict) :
    event ∈ logged.verdict ↔ event ∈ logged.events := by
  rw [verdict, List.mem_filter, and_iff_left part]

-- What belongs to a verdict is told at the level of information.
theorem verdict_eq_filter_told (logged : Logged α) :
    logged.verdict = logged.told.filter Event.isVerdict := by
  rw [verdict, told, List.filter_filter]
  refine List.filter_congr fun event _ => ?_
  cases event <;> rfl

end Logged

namespace Pipeline

def Findings.verdict (found : Findings) (cap : Nat) : List Event :=
  (if found.report.saturated then [] else [.capHit cap]) ++
    [if found.explained = [] then .unexplained else .explained found.explained]

theorem Findings.told_eq (found : Findings) (cap : Nat) :
    found.told cap = .depthReached found.report.rounds :: found.verdict cap := rfl

theorem Findings.filter_verdict (found : Findings) (cap : Nat) :
    (found.verdict cap).filter Event.isVerdict = found.verdict cap := by
  unfold Findings.verdict
  split <;> split <;> rfl

theorem unexplained_mem_verdict (found : Findings) (cap : Nat) :
    .unexplained ∈ found.verdict cap ↔ found.explained = [] := by
  unfold Findings.verdict
  split <;> split <;> simp_all

theorem capHit_mem_verdict (found : Findings) (cap other : Nat) :
    .capHit other ∈ found.verdict cap ↔ found.report.saturated = false ∧ other = cap := by
  unfold Findings.verdict
  split <;> split <;> simp_all

variable {files : Files} {problem text : String} {settings : Settings} {replies? : Option Replies}

theorem verdict_deduce (read : files settings.rulesPath = .ok text) :
    (deduce files problem settings).verdict =
      (found text problem settings.cap).verdict settings.cap := by
  rw [Logged.verdict_eq_filter_told, told_deduce read, Findings.told_eq]
  exact Findings.filter_verdict _ _

theorem verdict_answer (reply : Except Failure String) : (answer reply).verdict = [] := by
  cases reply with
  | ok text => rfl
  | error failure =>
      by_cases configuration : failure.isConfiguration <;> simp [answer, configuration]

def Discreet (replies : Replies) : Prop :=
  ∀ prompt, (replies prompt).verdict = []

theorem discreet_fromSurroundings (exchange : Generation.Exchange) (files : Files)
    (lookup : String → Option String) (settings : Settings) :
    Discreet (Generation.fromSurroundings exchange files lookup settings) := by
  intro prompt
  unfold Generation.fromSurroundings
  cases Generation.Client.make files lookup settings with
  | error failure => rfl
  | ok client =>
      by_cases sendable : client.hasHeaderCredential
      · cases answered : exchange client.address client.credential (client.request prompt).text <;>
          simp [Generation.Client.generate, sendable, answered]
      · simp [Generation.Client.generate, sendable]

/-- The generator's part of the log comes after the part of deduction. -/
theorem events_ended (replies? : Option Replies) (read : files settings.rulesPath = .ok text) :
    (transcript files problem settings replies?).ended.events =
      (deduce files problem settings).events ++ replies?.elim [] fun replies =>
        (replies (prompt (found text problem settings.cap).store problem) >>= answer).events := by
  simp only [transcript, run, deduce_value_of_text read]
  cases replies? with
  | none => rfl
  | some replies =>
      -- `consult` ends with a pure step, which leaves an empty list behind.
      change _ ++ (_ ++ (_ ++ [])) = _
      rw [List.append_nil]
      rfl

theorem verdict_ended (read : files settings.rulesPath = .ok text)
    (discreet : ∀ replies, replies? = some replies → Discreet replies) :
    (transcript files problem settings replies?).ended.verdict =
      (found text problem settings.cap).verdict settings.cap := by
  rw [← verdict_deduce read, Logged.verdict, events_ended replies? read, List.filter_append]
  cases replies? with
  | none => exact List.append_nil _
  | some replies =>
      have silent : (replies (prompt (found text problem settings.cap).store problem) >>=
          answer).verdict = [] := by
        rw [Logged.verdict_bind, discreet replies rfl, verdict_answer, List.append_nil]
      exact (congrArg _ silent).trans (List.append_nil _)

theorem unexplained_reported_iff (read : files settings.rulesPath = .ok text)
    (discreet : ∀ replies, replies? = some replies → Discreet replies) :
    .unexplained ∈ (transcript files problem settings replies?).ended.events ↔
      (found text problem settings.cap).explained = [] := by
  rw [← Logged.mem_verdict rfl, verdict_ended read discreet, unexplained_mem_verdict]

theorem capHit_reported_iff (read : files settings.rulesPath = .ok text)
    (discreet : ∀ replies, replies? = some replies → Discreet replies) {cap : Nat} :
    .capHit cap ∈ (transcript files problem settings replies?).ended.events ↔
      (found text problem settings.cap).report.saturated = false ∧ cap = settings.cap := by
  rw [← Logged.mem_verdict rfl, verdict_ended read discreet, capHit_mem_verdict]

/-! What was found when no cap cut the search off. -/

theorem explained_found_eq_nil (text problem : String) (cap : Nat) :
    (found text problem cap).explained = [] ↔
      ∀ atom ∈ (found text problem cap).store.atoms, atom.predicate ≠ target := by
  rw [explained_found, List.filter_eq_nil_iff]
  simp [FactStore.atoms]

theorem atoms_found {cap : Nat} (saturated : (found text problem cap).report.saturated = true) :
    (found text problem cap).store.atoms =
      leastModel (RuleText.parseRules text.toList).value (FactList.atoms (seeds problem)) := by
  rw [found_eq] at saturated ⊢
  rw [FactStore.atoms_of_saturated saturated, FactStore.atoms, toList_seeded]

/-- What the log says is said of the facts found. That nothing was explained is reported exactly if
no fact found has the target predicate, and a cap exactly if it is the cap of the run and the run is
not saturated; neither depends on the other. If no cap is reported, then nothing is said to be
explained exactly if the least model of the rules over the seeded facts holds no atom of the target
predicate. -/
theorem verdict_exact (files : Files) (problem : String) (settings : Settings)
    (replies? : Option Replies) (read : files settings.rulesPath = .ok text)
    (discreet : ∀ replies, replies? = some replies → Discreet replies) :
    let ended := (transcript files problem settings replies?).ended
    ∃ outcome, ended.value = .ok outcome ∧
      (.unexplained ∈ ended.events ↔ outcome.explained = []) ∧
      (∀ cap, .capHit cap ∈ ended.events ↔
        outcome.report.saturated = false ∧ cap = settings.cap) ∧
      ((∀ cap, .capHit cap ∉ ended.events) →
        (.unexplained ∈ ended.events ↔
          ∀ atom ∈ leastModel (RuleText.parseRules text.toList).value
            (FactList.atoms (seeds problem)), atom.predicate ≠ target)) := by
  intro ended
  refine ⟨_, ended_of_text read, unexplained_reported_iff read discreet,
    fun cap => capHit_reported_iff read discreet, ?_⟩
  intro uncapped
  have saturated : (found text problem settings.cap).report.saturated = true := by
    by_contra unsaturated
    rw [Bool.not_eq_true] at unsaturated
    exact uncapped settings.cap ((capHit_reported_iff read discreet).mpr ⟨unsaturated, rfl⟩)
  rw [unexplained_reported_iff read discreet, explained_found_eq_nil, atoms_found saturated]

def waitingRule : String :=
  "degree_of_freedom(L,N), inverse_coupling(L,N) => explained_constant(N,L)\n"

def awaitedRule : String :=
  "lattice_structure(L,D4), degree_of_freedom(L,137) => inverse_coupling(L,137)\n"

/-- Alone, the waiting rule waits in vain, and the run may say so. -/
theorem waiting_rule_alone :
    let readable : Files := fun _ => .ok waitingRule
    let client := Generation.fromSurroundings .unreachable readable (fun _ => some "key") {}
    let ended :=
      (transcript readable Settings.defaultProblem { cap := 1 } (some client)).ended
    Discreet client ∧ (∀ cap, .capHit cap ∉ ended.events) ∧ .unexplained ∈ ended.events ∧
      ∀ atom ∈ leastModel (RuleText.parseRules waitingRule.toList).value
        (FactList.atoms (seeds Settings.defaultProblem)), atom.predicate ≠ target := by
  intro readable client ended
  have discreet : Discreet client := discreet_fromSurroundings _ _ _ _
  obtain ⟨outcome, deduced, unexplained, capHit, negative⟩ :=
    verdict_exact readable Settings.defaultProblem { cap := 1 } (some client) rfl
      fun _ same => Option.some.inj same ▸ discreet
  have searched : (found waitingRule Settings.defaultProblem 1).report.saturated = true ∧
      (found waitingRule Settings.defaultProblem 1).explained = [] := by
    rw [report_found, explained_found, toList_found]
    decide +kernel
  obtain ⟨text, read, same⟩ := text_of_ended deduced
  cases read
  have uncapped : ∀ cap, .capHit cap ∉ ended.events := by
    intro cap
    rw [capHit, same, searched.1]
    exact nofun
  have said : .unexplained ∈ ended.events := by
    rw [unexplained, same, searched.2]
  exact ⟨discreet, uncapped, said, (negative uncapped).mp said⟩

/-- In the order of waiting, the two rules need a second round to explain the problem. Under a cap
of one the run reports the cap and, right after it, saturation without a full explanation. -/
theorem capped_search_called_saturated :
    let text := waitingRule ++ awaitedRule
    let settings : Settings := { cap := 1 }
    let ended := (transcript (fun _ => .ok text) Settings.defaultProblem settings none).ended
    ∃ outcome, ended.value = .ok outcome ∧
      .unexplained ∈ ended.events ∧ .capHit 1 ∈ ended.events ∧
      outcome.report.saturated = false ∧
      .ground "explained_constant" ["137", "L1"] ∈
        leastModel (RuleText.parseRules text.toList).value
          (FactList.atoms (seeds Settings.defaultProblem)) := by
  intro text settings ended
  let readable : Files := fun _ => .ok text
  have read : readable settings.rulesPath = .ok text := rfl
  have unasked : ∀ replies, (none : Option Replies) = some replies → Discreet replies := nofun
  have searched : (found text Settings.defaultProblem settings.cap).report.saturated = false ∧
      (found text Settings.defaultProblem settings.cap).explained = [] ∧
      (found text Settings.defaultProblem 3).report.saturated = true ∧
      .ground "explained_constant" ["137", "L1"] ∈
        (found text Settings.defaultProblem 3).store.toList := by
    rw [report_found, report_found, explained_found, toList_found, toList_found]
    decide +kernel
  obtain ⟨unsaturated, unexplained, saturated, constant⟩ := searched
  obtain ⟨outcome, deduced, same⟩ :=
    outcome_of_text readable Settings.defaultProblem settings none read
  refine ⟨outcome, deduced, ?_, ?_, ?_, ?_⟩
  · exact (unexplained_reported_iff read unasked).mpr unexplained
  · exact (capHit_reported_iff read unasked).mpr ⟨unsaturated, rfl⟩
  · rw [same, unsaturated]
  · rw [← atoms_found saturated]
    exact constant

end Pipeline

end Deduction
