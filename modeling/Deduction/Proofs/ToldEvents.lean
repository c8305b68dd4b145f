import Deduction.Proofs.LineReports
import Deduction.Proofs.PipelineRun
import Deduction.Proofs.RunLog

/-!
What a run tells when its log is kept at the level of information. Reading rules, storing facts and
applying rules report for debugging only, so at this level their part of the log is empty. What is
left of a deduction is a fixed sequence: the problem, the count of the rules, the depth that was
reached, and what became of the search.
-/

namespace Deduction

theorem Level.info_lt_debug : info.detail < debug.detail := by decide

theorem Level.info_lt_trace : info.detail < trace.detail := by decide

namespace Logged

variable {α β : Type}

def told (logged : Logged α) : List Event :=
  logged.events.filter fun event => event.level.detail ≤ Level.info.detail

def Quiet (logged : Logged α) : Prop :=
  ∀ event ∈ logged.events, Level.info.detail < event.level.detail

@[simp] theorem told_pure (value : α) : (pure value : Logged α).told = [] := rfl

@[simp] theorem told_bind (first : Logged α) (next : α → Logged β) :
    (first >>= next).told = first.told ++ (next first.value).told :=
  List.filter_append _ _

@[simp] theorem told_report (event : Event) :
    (report event).told = if event.level.detail ≤ Level.info.detail then [event] else [] := by
  simp [told, List.filter_cons]

theorem Quiet.told_eq_nil {logged : Logged α} (quiet : logged.Quiet) : logged.told = [] := by
  rw [told, List.filter_eq_nil_iff]
  intro event member
  simpa using quiet event member

end Logged

theorem RuleText.parseRules_quiet (text : List Char) : (parseRules text).Quiet := by
  intro event member
  rw [level_of_mem_parseLines member]
  exact Level.info_lt_debug

namespace FactStore

theorem add_quiet (store : FactStore) (atom : Atom) : (store.add atom).Quiet := by
  intro event member
  by_cases ground : atom.isGround
  · by_cases held : store.contains atom
    · simp [add_of_held ground held] at member
    · simp [add_of_new ground held] at member
  · rw [add_of_not_ground ground] at member
    rw [List.mem_singleton.mp member]
    exact Level.info_lt_debug

theorem extend_quiet (store : FactStore) (atoms : List Atom) : (store.extend atoms).Quiet := by
  induction atoms generalizing store with
  | nil => exact nofun
  | cons atom atoms ih =>
      intro event member
      rw [extend, Logged.bind_events, List.mem_append] at member
      rcases member with first | later
      · exact store.add_quiet atom event first
      · exact ih _ event later

theorem solve_quiet (store : FactStore) (rules : List Rule) (cap : Nat) :
    (store.solve rules cap).Quiet := by
  intro event member
  rw [solve, events_solveFrom] at member
  obtain ⟨events, listed, held⟩ := List.mem_flatten.mp member
  obtain ⟨_, _, rfl⟩ := List.mem_mapIdx.mp listed
  rcases List.mem_append.mp held with gained | finished
  · obtain ⟨_, _, rfl⟩ := List.mem_map.mp gained
    exact Level.info_lt_trace
  · rw [List.mem_singleton.mp finished]
    exact Level.info_lt_debug

end FactStore

namespace Pipeline

def Findings.told (found : Findings) (cap : Nat) : List Event :=
  .depthReached found.report.rounds :: (if found.report.saturated then [] else [.capHit cap]) ++
    [if found.explained = [] then .unexplained else .explained found.explained]

theorem told_findings (rules : List Rule) (problem : String) (cap : Nat) :
    (findings rules problem cap).told =
      .deducing :: (findings rules problem cap).value.told cap := by
  simp only [findings, seed, Logged.told_bind, (FactStore.extend_quiet _ _).told_eq_nil,
    (FactStore.solve_quiet _ _ _).told_eq_nil, Logged.bind_value, List.nil_append]
  generalize (FactStore.solve rules cap (FactStore.empty.extend (seeds problem)).value).value =
    solved
  obtain ⟨store, report⟩ := solved
  cases saturated : report.saturated <;>
    cases explained : (store.query (some target)).isEmpty <;>
    simp_all [Findings.told, Event.level, Level.detail]

variable {files : Files} {problem text : String} {settings : Settings}

theorem told_deduce (read : files settings.rulesPath = .ok text) :
    (deduce files problem settings).told =
      .solving problem ::
        .rulesLoaded (RuleText.parseRules text.toList).value.length settings.rulesPath ::
        .deducing :: (found text problem settings.cap).told settings.cap := by
  rw [found, ← told_findings]
  simp [deduce, rulesOf, Files.load, read, (RuleText.parseRules_quiet _).told_eq_nil, Event.level,
    Level.detail]

end Pipeline

end Deduction
