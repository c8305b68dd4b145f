import Deduction.CommandLine.Session

/-!
What offline runs and problem lists do not depend on. An offline run has no generator: it reads one
file, the rules, and no variable but the one that chooses what is logged. A problem list depends on
its own file and on that variable. So whatever else the arguments say, and whatever else is around,
such sessions look the same from outside, however that choice is read.
-/

namespace Deduction

variable {files other : Files} {path otherPath : String} {settings otherSettings : Settings}

/-- What is read depends on the path, which failures name, and on what is found there. -/
theorem Files.load_congr (samePath : path = otherPath) (sameText : files path = other otherPath) :
    files.load path = other.load otherPath := by
  rw [Files.load, Files.load, sameText, samePath]

namespace Pipeline

open Generation (Generator)

theorem rulesOf_congr (samePath : path = otherPath) (sameText : files path = other otherPath) :
    rulesOf files path = rulesOf other otherPath := by
  rw [rulesOf, rulesOf, Files.load_congr samePath sameText, samePath]

theorem deduce_congr (problem : String) (samePath : settings.rulesPath = otherSettings.rulesPath)
    (sameText : files settings.rulesPath = other otherSettings.rulesPath)
    (sameCap : settings.cap = otherSettings.cap) :
    deduce files problem settings = deduce other problem otherSettings := by
  simp only [deduce, rulesOf_congr samePath sameText, sameCap]

/-- All that a run takes from its files and its settings is what it deduces from them; its generator
is made elsewhere. -/
theorem run_congr {m : Type → Type} [Monad m] {problem : String} (generator : Option (Generator m))
    (same : deduce files problem settings = deduce other problem otherSettings) :
    run files problem settings generator = run other problem otherSettings generator := by
  simp only [run, same]

end Pipeline

namespace CommandLine

variable {around elsewhere : Surroundings} {arguments others : List String}
  {invocation second : Invocation}

theorem perform_of_run (accepted : parse arguments = .ok invocation)
    (unlisted : invocation.list = false) :
    perform around arguments = solveProblem around invocation := by
  simp [perform, accepted, unlisted]

theorem perform_of_list (accepted : parse arguments = .ok invocation)
    (listed : invocation.list = true) :
    perform around arguments =
      ⟨0, listProblems around.files invocation.settings.problemsPath, ""⟩ := by
  simp [perform, accepted, listed]

/-- Offline there is neither a generator nor a look at the credentials, so nothing is left of the
surroundings but the rules. -/
theorem solveProblem_offline_congr (offline : invocation.offline = true)
    (offlineToo : second.offline = true) (sameWords : invocation.words = second.words)
    (same : Pipeline.deduce around.files invocation.problem invocation.settings =
      Pipeline.deduce elsewhere.files invocation.problem second.settings) :
    solveProblem around invocation = solveProblem elsewhere second := by
  have sameProblem : second.problem = invocation.problem := by
    simp only [Invocation.problem, sameWords]
  simp only [solveProblem, preflight, generatorOf, offline, offlineToo, sameProblem, if_true,
    Pipeline.run_congr none same]

theorem listProblems_congr (samePath : path = otherPath)
    (sameText : files path = other otherPath) :
    listProblems files path = listProblems other otherPath := by
  rw [listProblems, listProblems, Files.load_congr samePath sameText]

theorem session_congr (filter : Filter)
    (sameChoice : around.lookup logVariable = elsewhere.lookup logVariable)
    (same : perform around arguments = perform elsewhere others) :
    session around arguments filter = session elsewhere others filter := by
  simp only [session, same, sameChoice]

/-- Two offline runs with the same rules, read from the same path, with the same cap and the same
words have one status and write the same to both outputs, and so do two lists of the same problems,
if the log variable has one value, whichever log lines that lets pass. The rest of the arguments and
of the surroundings is free. A session holds no readings of the clock, so equal sessions differ in
nothing else. -/
theorem offline_and_list_isolated (around elsewhere : Surroundings) (arguments others : List String)
    (filter : Filter) (invocation second : Invocation) (accepted : parse arguments = .ok invocation)
    (acceptedToo : parse others = .ok second)
    (sameChoice : around.lookup logVariable = elsewhere.lookup logVariable) :
    (invocation.offline = true → invocation.list = false →
      second.offline = true → second.list = false →
      invocation.settings.rulesPath = second.settings.rulesPath →
      around.files invocation.settings.rulesPath = elsewhere.files second.settings.rulesPath →
      invocation.settings.cap = second.settings.cap → invocation.words = second.words →
      session around arguments filter = session elsewhere others filter) ∧
    (invocation.list = true → second.list = true →
      invocation.settings.problemsPath = second.settings.problemsPath →
      around.files invocation.settings.problemsPath = elsewhere.files second.settings.problemsPath →
      session around arguments filter = session elsewhere others filter) := by
  constructor
  · intro offline unlisted offlineToo unlistedToo samePath sameRules sameCap sameWords
    apply session_congr filter sameChoice
    rw [perform_of_run accepted unlisted, perform_of_run acceptedToo unlistedToo]
    exact solveProblem_offline_congr offline offlineToo sameWords
      (Pipeline.deduce_congr _ samePath sameRules sameCap)
  · intro listed listedToo samePath sameProblems
    apply session_congr filter sameChoice
    rw [perform_of_list accepted listed, perform_of_list acceptedToo listedToo,
      listProblems_congr samePath sameProblems]

def bareRoom : Surroundings :=
  ⟨fun path => if path = "rules" then .ok "p(X) => q(X)" else .error .missing, fun _ => none,
    .unreachable⟩

def furnishedRoom : Surroundings :=
  ⟨fun _ => .ok "p(X) => q(X)", fun name => if name = logVariable then none else some "key",
    fun _ _ _ => some ⟨200, "{}".toUTF8⟩⟩

theorem rooms_isolated :
    let arguments := ["--offline", "--rules", "rules", "Why?"]
    let others := ["--model=m", "--rules=rules", "--instruction", "i", "--offline", "--", "Why?"]
    let lists := ["--list", "--problems", "rules"]
    let otherLists := ["--offline", "--rules=r", "--max-depth", "3", "--problems=rules", "--list"]
    session bareRoom arguments = session furnishedRoom others ∧
      session bareRoom lists = session furnishedRoom otherLists := by
  intro arguments others lists otherLists
  let asked : Invocation := ⟨false, true, { rulesPath := "rules" }, ["Why?"]⟩
  let askedToo : Invocation :=
    ⟨false, true, { rulesPath := "rules", instructionPath := "i", model := "m" }, ["Why?"]⟩
  let listed : Invocation := ⟨true, false, { problemsPath := "rules" }, []⟩
  let listedToo : Invocation :=
    ⟨true, true, { rulesPath := "r", problemsPath := "rules", cap := 3 }, []⟩
  have accepted : parse arguments = .ok asked := rfl
  have acceptedToo : parse others = .ok askedToo := rfl
  have accepts : parse lists = .ok listed := rfl
  have acceptsToo : parse otherLists = .ok listedToo := rfl
  obtain ⟨runs, _⟩ := offline_and_list_isolated bareRoom furnishedRoom arguments others .byLevel
    asked askedToo accepted acceptedToo rfl
  obtain ⟨_, listings⟩ := offline_and_list_isolated bareRoom furnishedRoom lists otherLists
    .byLevel listed listedToo accepts acceptsToo rfl
  exact ⟨runs rfl rfl rfl rfl rfl rfl rfl rfl, listings rfl rfl rfl rfl⟩

end CommandLine

end Deduction
