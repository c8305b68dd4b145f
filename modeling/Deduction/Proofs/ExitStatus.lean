import Deduction.CommandLine.Session
import Deduction.Proofs.PipelineRun

/-!
Exit statuses. A session fails where its arguments are wrong and where it asks for a run whose rules
cannot be read. Whatever else goes wrong is told on the standard output and passed over.
-/

namespace Deduction.CommandLine

open Generation (Exchange)

variable {around : Surroundings} {arguments : List String} {invocation : Invocation}
  {filter : Filter} {fault : ReadFault} {text : String}

/-- The arguments ask for a run, and neither for one of the fixed texts nor for the problem list. -/
def Asks (arguments : List String) (invocation : Invocation) : Prop :=
  parse arguments = .ok invocation ∧ invocation.list = false

/-- The session of a run, but for what it shows. -/
theorem session_of_asks (around : Surroundings) (filter : Filter)
    (asks : Asks arguments invocation) :
    (session around arguments filter).status = (solveProblem around invocation).status ∧
      (session around arguments filter).complaint = (solveProblem around invocation).complaint := by
  simp [session, perform, asks.1, asks.2]

theorem solveProblem_of_fault
    (unreadable : around.files invocation.settings.rulesPath = .error fault) :
    (solveProblem around invocation).status = 1 ∧
      (solveProblem around invocation).complaint =
        fatalText (.unreadable invocation.settings.rulesPath fault) := by
  simp only [solveProblem, Pipeline.run, Pipeline.deduce_of_fault unreadable]
  exact ⟨rfl, rfl⟩

theorem solveProblem_of_text (read : around.files invocation.settings.rulesPath = .ok text) :
    (solveProblem around invocation).status = 0 ∧
      (solveProblem around invocation).complaint = "" := by
  simp only [solveProblem, Pipeline.run, Pipeline.deduce_value_of_text read]
  exact ⟨rfl, rfl⟩

inductive Ending (around : Surroundings) (arguments : List String) : Nat → String → Prop where
  | wrong {error : UsageError} (usage : parse arguments = .error (.usage error)) :
      Ending around arguments 2 (usageText error)
  | unreadable {invocation : Invocation} {fault : ReadFault} (asks : Asks arguments invocation)
      (unread : around.files invocation.settings.rulesPath = .error fault) :
      Ending around arguments 1 (fatalText (.unreadable invocation.settings.rulesPath fault))
  | run {invocation : Invocation} {text : String} (asks : Asks arguments invocation)
      (read : around.files invocation.settings.rulesPath = .ok text) :
      Ending around arguments 0 ""
  | listed {invocation : Invocation} (accepted : parse arguments = .ok invocation)
      (list : invocation.list = true) : Ending around arguments 0 ""
  | told {stop : Stop} (stopped : parse arguments = .error stop)
      (right : ∀ error, stop ≠ .usage error) :
      Ending around arguments 0 ""

theorem session_ending (around : Surroundings) (arguments : List String) (filter : Filter) :
    Ending around arguments (session around arguments filter).status
      (session around arguments filter).complaint := by
  cases parsed : parse arguments with
  | error stop =>
      cases stop with
      | usage error => simpa [session, perform, parsed] using Ending.wrong parsed
      | help => simpa [session, perform, parsed] using Ending.told parsed nofun
      | version => simpa [session, perform, parsed] using Ending.told parsed nofun
  | ok invocation =>
      cases list : invocation.list with
      | true => simpa [session, perform, parsed, list] using Ending.listed parsed list
      | false =>
          have asks : Asks arguments invocation := ⟨parsed, list⟩
          obtain ⟨status, complaint⟩ := session_of_asks around filter asks
          rw [status, complaint]
          cases read : around.files invocation.settings.rulesPath with
          | error fault =>
              obtain ⟨status, complaint⟩ := solveProblem_of_fault read
              rw [status, complaint]
              exact .unreadable asks read
          | ok text =>
              obtain ⟨status, complaint⟩ := solveProblem_of_text read
              rw [status, complaint]
              exact .run asks read

def Unreadable (around : Surroundings) (arguments : List String) : Prop :=
  ∃ invocation fault, Asks arguments invocation ∧
    around.files invocation.settings.rulesPath = .error fault

variable {status : Nat} {complaint : String}

theorem Ending.two_iff (ending : Ending around arguments status complaint) :
    status = 2 ↔ ∃ error, parse arguments = .error (.usage error) := by
  cases ending with
  | wrong usage => exact iff_of_true rfl ⟨_, usage⟩
  | unreadable asks | run asks => simp [asks.1]
  | listed accepted => simp [accepted]
  | told stopped right => simpa [stopped] using right

theorem Ending.one_iff (ending : Ending around arguments status complaint) :
    status = 1 ↔ Unreadable around arguments := by
  cases ending with
  | wrong usage => simp [Unreadable, Asks, usage]
  | unreadable asks unread => exact iff_of_true rfl ⟨_, _, asks, unread⟩
  | run asks read => simp [Unreadable, Asks, asks.1, read]
  | listed accepted list => simp [Unreadable, Asks, accepted, list]
  | told stopped right => simp [Unreadable, Asks, stopped]

theorem Ending.complaint_of_unreadable (ending : Ending around arguments status complaint)
    (asks : Asks arguments invocation)
    (unread : around.files invocation.settings.rulesPath = .error fault) :
    ∃ rest, complaint =
      "Error: " ++ (Failure.unreadable invocation.settings.rulesPath fault).message ++ "\n" ++
        rest := by
  cases ending with
  | wrong usage => simp [asks.1] at usage
  | unreadable asksToo unreadToo =>
      cases asks.1.symm.trans asksToo.1
      cases unread.symm.trans unreadToo
      exact ⟨_, rfl⟩
  | run asksToo read =>
      cases asks.1.symm.trans asksToo.1
      simp [unread] at read
  | listed accepted list =>
      cases asks.1.symm.trans accepted
      simp [asks.2] at list
  | told stopped => simp [asks.1] at stopped

theorem Ending.quiet (ending : Ending around arguments status complaint) :
    status = 2 ∨ status = 1 ∨ status = 0 ∧ complaint = "" := by
  cases ending <;> simp

theorem unreadable_tree {top : List (String × Node)} {lookup : String → Option String}
    {exchange : Exchange} :
    Unreadable ⟨Node.readText top, lookup, exchange⟩ arguments ↔
      ∃ invocation, Asks arguments invocation ∧
        ¬ ∃ text : String, Node.read top invocation.settings.rulesPath = .ok text.toUTF8 := by
  simp only [Unreadable, ← Node.readText_eq_ok, exists_and_left]
  refine exists_congr fun invocation => and_congr_right fun _ => ?_
  cases Node.readText top invocation.settings.rulesPath <;> simp

theorem status_of_put (asks : Asks arguments invocation)
    (plain : ∀ name ∈ Node.names invocation.settings.rulesPath, Node.Plain name) (rules : String)
    (top : List (String × Node)) (lookup : String → Option String) (exchange : Exchange) :
    let tree := Node.put (.file rules.toUTF8) invocation.settings.rulesPath top
    (session ⟨Node.readText tree, lookup, exchange⟩ arguments filter).status = 0 := by
  intro tree
  have read : Node.readText tree invocation.settings.rulesPath = .ok rules :=
    Node.readText_eq_ok.mpr (Node.read_put plain rules.toUTF8 top)
  rw [(session_of_asks _ filter asks).1]
  exact (solveProblem_of_text read).1

/-- The status is two exactly if the arguments are wrong, and one exactly if a run is asked for and
the rules cannot be read; in a file tree, if their path leads to no file of UTF-8 bytes. Then the
complaint begins with this failure. Otherwise the status is zero, and there is no complaint. What is
logged makes no difference. -/
theorem exit_status (around : Surroundings) (arguments : List String) (filter : Filter) :
    ((session around arguments filter).status = 2 ↔
      ∃ error, parse arguments = .error (.usage error)) ∧
    ((session around arguments filter).status = 1 ↔
      ∃ invocation fault, (parse arguments = .ok invocation ∧ invocation.list = false) ∧
        around.files invocation.settings.rulesPath = .error fault) ∧
    (∀ invocation fault, parse arguments = .ok invocation ∧ invocation.list = false →
      around.files invocation.settings.rulesPath = .error fault →
      ∃ rest, (session around arguments filter).complaint =
        "Error: " ++ (Failure.unreadable invocation.settings.rulesPath fault).message ++ "\n" ++
          rest) ∧
    ((session around arguments filter).status = 2 ∨ (session around arguments filter).status = 1 ∨
      (session around arguments filter).status = 0 ∧
        (session around arguments filter).complaint = "") ∧
    ∀ (top : List (String × Node)) (lookup : String → Option String) (exchange : Exchange),
      (session ⟨Node.readText top, lookup, exchange⟩ arguments filter).status = 1 ↔
        ∃ invocation, (parse arguments = .ok invocation ∧ invocation.list = false) ∧
          ¬ ∃ text : String, Node.read top invocation.settings.rulesPath = .ok text.toUTF8 := by
  have ending := session_ending around arguments filter
  exact ⟨ending.two_iff, ending.one_iff, fun _ _ => ending.complaint_of_unreadable, ending.quiet,
    fun _ _ _ => (session_ending _ arguments filter).one_iff.trans unreadable_tree⟩

def nothingAround : Surroundings :=
  ⟨fun _ => .error .missing, fun _ => none, .unreachable⟩

theorem nothing_around_exit_status :
    let arguments := ["--rules=rules", "Why", "137?"]
    (session nothingAround arguments).status = 1 ∧
      (∃ rest, (session nothingAround arguments).complaint =
        "Error: cannot read rules: No such file or directory (os error 2)\n" ++ rest) ∧
      (session nothingAround ("--list" :: arguments)).status = 0 ∧
      (session nothingAround ("--model" :: arguments)).status = 2 := by
  intro arguments
  let asked : Invocation := ⟨false, false, { rulesPath := "rules" }, ["Why", "137?"]⟩
  have asks : parse arguments = .ok asked ∧ asked.list = false := ⟨rfl, rfl⟩
  have lists : parse ("--list" :: arguments) = .ok { asked with list := true } := rfl
  have wrong : parse ("--model" :: arguments) =
      .error (.usage (.valueRequired Parameter.model.shown)) := rfl
  obtain ⟨_, fails, complains, _⟩ := exit_status nothingAround arguments .byLevel
  obtain ⟨listedWrong, listedFails, _, quiet, _⟩ :=
    exit_status nothingAround ("--list" :: arguments) .byLevel
  refine ⟨fails.mpr ⟨asked, .missing, asks, rfl⟩, complains asked .missing asks rfl, ?_,
    (exit_status nothingAround _ .byLevel).1.mpr ⟨_, wrong⟩⟩
  rcases quiet with two | one | ⟨zero, _⟩
  · obtain ⟨error, usage⟩ := listedWrong.mp two
    simp [lists] at usage
  · obtain ⟨invocation, _, ⟨accepted, unlisted⟩, _⟩ := listedFails.mp one
    cases lists.symm.trans accepted
    contradiction
  · exact zero

end Deduction.CommandLine
