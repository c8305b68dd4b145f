import Deduction.Proofs.Isolation
import Deduction.Proofs.Parts
import Deduction.Proofs.Verdict

/-!
The warning at the start of a session and the end of its log. Whether there is a credential is
decided twice: before the run, for the warning, and when the run at last asks for a text, where a
client is made. Both decisions look at the same variables in the same way, so a session that begins
with the warning ends by skipping the generator, and never comes to read the instruction. Any other
session has a credential; if nobody answers its request, it ends with a failure that is not a matter
of configuration.
-/

namespace Deduction

def Event.isGenerative : Event → Bool
  | credentialMissing _ | generationWillBeSkipped | sendingPrompt _ _ => true
  | generationSkipped _ | generationFailed _ => true
  | _ => false

namespace Credential

def IsBlank (value : String) : Prop :=
  ∀ c ∈ value.toList, Text.isBlank c = true

instance (value : String) : Decidable (IsBlank value) :=
  List.decidableBAll (fun c => Text.isBlank c = true) value.toList

/-- No variable is set to more than blanks. -/
def Missing (lookup : String → Option String) (names : List String) : Prop :=
  ∀ name ∈ names, ∀ value, lookup name = some value → IsBlank value

/-- The value, as it stands, of the first variable that is set to more than blanks. -/
inductive FirstUsable (lookup : String → Option String) : List String → String → Prop where
  | here {name value : String} {rest : List String} : lookup name = some value → ¬ IsBlank value →
      FirstUsable lookup (name :: rest) value
  | later {name value : String} {rest : List String} :
      (∀ blank, lookup name = some blank → IsBlank blank) → FirstUsable lookup rest value →
      FirstUsable lookup (name :: rest) value

variable {lookup : String → Option String} {names : List String} {value : String}

theorem isUsable_iff : isUsable value = true ↔ ¬ IsBlank value := by
  rw [isUsable, Bool.not_eq_true', ← Bool.not_eq_true, List.isEmpty_iff, Text.trim,
    Text.trimBy_eq_nil_iff, IsBlank]

theorem firstUsable_or_missing (lookup : String → Option String) (names : List String) :
    (∃ value, FirstUsable lookup names value ∧ (search lookup names).2 = some value) ∨
      Missing lookup names ∧ (search lookup names).2 = none := by
  induction names with
  | nil => exact .inr ⟨nofun, rfl⟩
  | cons name rest ih =>
      cases first : (lookup name).filter isUsable with
      | some value =>
          obtain ⟨set, usable⟩ := Option.filter_eq_some_iff.mp first
          exact .inl ⟨value, .here set (isUsable_iff.mp usable), by simp [search, first]⟩
      | none =>
          have blank : ∀ value, lookup name = some value → IsBlank value := by
            intro value set
            have unusable := Option.filter_eq_none_iff.mp first value set
            rwa [isUsable_iff, not_not] at unusable
          rcases ih with ⟨value, usable, found⟩ | ⟨missing, found⟩
          · exact .inl ⟨value, .later blank usable, by simp [search, first, found]⟩
          · exact .inr ⟨List.forall_mem_cons.mpr ⟨blank, missing⟩, by simp [search, first, found]⟩

theorem FirstUsable.not_missing (usable : FirstUsable lookup names value) :
    ¬ Missing lookup names := by
  intro missing
  induction usable with
  | here set notBlank => exact notBlank (missing _ List.mem_cons_self _ set)
  | later _ _ ih => exact ih fun name member => missing name (List.mem_cons_of_mem _ member)

theorem told_check_of_none (absent : find? lookup = none) :
    (check lookup).told = [.credentialMissing sources, .generationWillBeSkipped] := by
  rw [check, absent]
  rfl

theorem told_check_of_some (found : find? lookup = some value) : (check lookup).told = [] := by
  rw [check, found]
  rfl

end Credential

namespace Generation

variable {files : Files} {lookup : String → Option String} {settings : Settings}
  {credential instruction : String} {fault : ReadFault}

/-- Whatever it is asked, the generator fails in one way and tells nothing more. -/
def Fails (ask : String → Logged (Except Failure String)) (failure : Failure) : Prop :=
  ∀ prompt, (ask prompt).value = .error failure ∧ (ask prompt).told = []

theorem fails_pure (failure : Failure) : Fails (fun _ => pure (.error failure)) failure :=
  fun _ => ⟨rfl, rfl⟩

/-- Without a credential, neither the files nor the exchange are looked at. -/
theorem fromSurroundings_of_none (absent : Credential.find? lookup = none) (exchange : Exchange) :
    fromSurroundings exchange files lookup settings =
      fun _ => pure (.error (.missingCredential Credential.sources)) := by
  funext prompt
  simp only [fromSurroundings, Client.make, absent]

theorem fromSurroundings_of_fault (found : Credential.find? lookup = some credential)
    (unreadable : files settings.instructionPath = .error fault) (exchange : Exchange) :
    fromSurroundings exchange files lookup settings =
      fun _ => pure (.error (.unreadable settings.instructionPath fault)) := by
  funext prompt
  simp only [fromSurroundings, Client.make, found, Files.load, unreadable]

theorem fromSurroundings_of_text (found : Credential.find? lookup = some credential)
    (read : files settings.instructionPath = .ok instruction) (exchange : Exchange) :
    fromSurroundings exchange files lookup settings =
      Client.generate exchange ⟨credential, settings.model, instruction⟩ := by
  funext prompt
  simp only [fromSurroundings, Client.make, found, Files.load, read]

theorem generate_unreachable (client : Client) :
    ∃ fault, Fails (client.generate .unreachable) (.request fault) := by
  by_cases sendable : client.hasHeaderCredential
  · refine ⟨.unanswered (Address.sent client.model), fun prompt => ?_⟩
    simp [Client.generate, sendable, Exchange.unreachable, Event.level, Level.detail]
  · refine ⟨.malformed, fun prompt => ?_⟩
    simp [Client.generate, sendable, Event.level, Level.detail]

/-- With a credential, what fails is the instruction, if it cannot be read, or else the request. -/
theorem fails_of_some (found : Credential.find? lookup = some credential) (files : Files)
    (settings : Settings) :
    ∃ failure, Fails (fromSurroundings .unreachable files lookup settings) failure ∧
      failure.isConfiguration = false ∧
      (∀ fault, failure = .unreadable settings.instructionPath fault ↔
        files settings.instructionPath = .error fault) ∧
      ((∃ instruction, files settings.instructionPath = .ok instruction) →
        ∃ fault, failure = .request fault) := by
  cases read : files settings.instructionPath with
  | error fault =>
      rw [fromSurroundings_of_fault found read]
      exact ⟨_, fails_pure _, rfl, by simp, nofun⟩
  | ok instruction =>
      rw [fromSurroundings_of_text found read]
      obtain ⟨fault, fails⟩ := generate_unreachable ⟨credential, settings.model, instruction⟩
      exact ⟨_, fails, rfl, by simp, fun _ => ⟨fault, rfl⟩⟩

end Generation

namespace Pipeline

open Generation (Generator Fails)

theorem ended_eq_run (files : Files) (problem : String) (settings : Settings)
    (replies? : Option Replies) :
    (transcript files problem settings replies?).ended =
      Id.run (run files problem settings (replies? : Option (Generator Id))) := by
  simp only [transcript, run]
  cases (deduce files problem settings).value with
  | error failure => rfl
  | ok found => cases replies? <;> rfl

def failureEvent (failure : Failure) : Event :=
  if failure.isConfiguration then .generationSkipped failure else .generationFailed failure

variable {files : Files} {problem text : String} {settings : Settings} {replies : Replies}
  {failure : Failure}

-- Nothing is said of the generator before it is asked.
theorem filter_told_deduce (read : files settings.rulesPath = .ok text) :
    (deduce files problem settings).told.filter Event.isGenerative = [] := by
  rw [told_deduce read, Findings.told]
  split <;> split <;> rfl

theorem told_answer_error (failure : Failure) :
    (answer (.error failure)).told = [failureEvent failure] := by
  rw [answer, failureEvent]
  cases failure.isConfiguration <;> rfl

theorem told_ended_of_failing (read : files settings.rulesPath = .ok text)
    (fails : Fails replies failure) :
    (transcript files problem settings (some replies)).ended.told =
      (deduce files problem settings).told ++ [failureEvent failure] := by
  obtain ⟨failed, silent⟩ := fails (prompt (found text problem settings.cap).store problem)
  rw [Logged.told, events_ended _ read, List.filter_append]
  refine congrArg _ ?_
  rw [Option.elim_some, ← Logged.told, Logged.told_bind, silent, failed, told_answer_error,
    List.nil_append]

theorem ended_of_failing (read : files settings.rulesPath = .ok text)
    (fails : Fails replies failure) :
    (transcript files problem settings (some replies)).ended.value =
      .ok ⟨found text problem settings.cap, none⟩ := by
  rw [ended_of_text read, Option.bind_some, (fails _).1]
  rfl

end Pipeline

namespace CommandLine

open Generation (Fails fromSurroundings)

def Output.isGenerative : Output → Bool
  | event report => report.isGenerative
  | _ => false

/-- The log lines up to a level pass, and no others. -/
def PassesUpTo (level : Level) (passes : Output → Bool) : Prop :=
  ∀ output logged, output.level? = some logged →
    (passes output = true ↔ logged.detail ≤ level.detail)

/-- The arguments ask for a run with a generator over rules that can be read, and the log is kept at
the level of information. -/
structure AsksOnline (around : Surroundings) (arguments : List String) (filter : Filter)
    (invocation : Invocation) (text : String) : Prop where
  accepted : parse arguments = .ok invocation
  unlisted : invocation.list = false
  online : invocation.offline = false
  read : around.files invocation.settings.rulesPath = .ok text
  passes : PassesUpTo .info (filter (around.lookup logVariable))

variable {around elsewhere : Surroundings} {arguments : List String} {filter : Filter}
  {invocation : Invocation} {text credential : String} {failure : Failure} {passes : Output → Bool}

theorem filter_isShown_event (informed : PassesUpTo .info passes) (events : List Event) :
    (events.map Output.event).filter (Output.isShown passes) =
      (events.filter fun event => event.level.detail ≤ Level.info.detail).map Output.event := by
  rw [List.filter_map]
  refine congrArg _ (List.filter_congr fun event _ => ?_)
  rw [Bool.eq_iff_iff, decide_eq_true_iff]
  exact informed (.event event) event.level rfl

-- The count of facts at the end is shown for debugging only.
theorem filter_isShown_finished (informed : PassesUpTo .info passes) (facts : Nat) :
    [Output.finished facts].filter (Output.isShown passes) = [] := by
  rw [List.filter_eq_nil_iff, List.forall_mem_singleton]
  exact fun shown => absurd ((informed (.finished facts) .debug rfl).mp shown) (by decide)

theorem filter_isGenerative_event (events : List Event) :
    (events.map Output.event).filter Output.isGenerative =
      (events.filter Event.isGenerative).map Output.event :=
  List.filter_map

/-- The session of a generator that fails: the warnings, if there are any, the log of the deduction,
and last what is said of the failure. -/
theorem output_of_failing (asked : AsksOnline around arguments filter invocation text)
    (fails : Fails (fromSurroundings around.exchange around.files around.lookup
      invocation.settings) failure) :
    (session around arguments filter).output =
      ((Credential.check around.lookup).told ++
        ((Pipeline.deduce around.files invocation.problem invocation.settings).told ++
          [Pipeline.failureEvent failure])).map Output.event := by
  let client := fromSurroundings around.exchange around.files around.lookup invocation.settings
  let ended := (Pipeline.transcript around.files invocation.problem invocation.settings
    (some client)).ended
  have ran : Id.run (Pipeline.run around.files invocation.problem invocation.settings
      (generatorOf around invocation)) = ended := by
    rw [generatorOf, asked.online]
    exact (Pipeline.ended_eq_run _ _ _ _).symm
  have value : ended.value = .ok ⟨_, none⟩ := Pipeline.ended_of_failing asked.read fails
  have performed : (perform around arguments).output =
      ((Credential.check around.lookup).events ++ ended.events).map Output.event ++
        [.finished
          (Pipeline.found text invocation.problem invocation.settings.cap).store.size] := by
    rw [perform_of_run asked.accepted asked.unlisted, solveProblem, preflight, asked.online, ran,
      value]
    rfl
  rw [session, performed, List.filter_append, filter_isShown_finished asked.passes,
    List.append_nil, filter_isShown_event asked.passes, List.filter_append,
    ← Pipeline.told_ended_of_failing asked.read fails]
  rfl

theorem output_of_missing (asked : AsksOnline around arguments filter invocation text)
    (absent : Credential.find? around.lookup = none) :
    (session around arguments filter).output =
      ([Event.credentialMissing Credential.sources, .generationWillBeSkipped] ++
        ((Pipeline.deduce around.files invocation.problem invocation.settings).told ++
          [Event.generationSkipped (.missingCredential Credential.sources)])).map Output.event := by
  have fails : Fails (fromSurroundings around.exchange around.files around.lookup
      invocation.settings) (.missingCredential Credential.sources) := by
    rw [Generation.fromSurroundings_of_none absent]
    exact Generation.fails_pure _
  rw [output_of_failing asked fails, Credential.told_check_of_none absent]
  rfl

/-- Without a credential, a session depends on nothing but its arguments, its variables and its
rules. -/
theorem session_of_missing_congr (asked : AsksOnline around arguments filter invocation text)
    (absent : Credential.find? around.lookup = none) (sameLookup : elsewhere.lookup = around.lookup)
    (sameRules : elsewhere.files invocation.settings.rulesPath =
      around.files invocation.settings.rulesPath) :
    session elsewhere arguments filter = session around arguments filter := by
  have sameGenerator : generatorOf elsewhere invocation = generatorOf around invocation := by
    rw [generatorOf, generatorOf, sameLookup, Generation.fromSurroundings_of_none absent,
      Generation.fromSurroundings_of_none absent]
  apply session_congr filter (congrFun sameLookup _)
  rw [perform_of_run asked.accepted asked.unlisted, perform_of_run asked.accepted asked.unlisted,
    solveProblem, solveProblem, sameGenerator,
    Pipeline.run_congr _ (Pipeline.deduce_congr _ rfl sameRules rfl), preflight, preflight,
    sameLookup]

theorem generative_output_of_found (asked : AsksOnline around arguments filter invocation text)
    (found : Credential.find? around.lookup = some credential)
    (fails : Fails (fromSurroundings around.exchange around.files around.lookup
      invocation.settings) failure) (unconfigured : failure.isConfiguration = false) :
    (session around arguments filter).output.filter Output.isGenerative =
      [.event (.generationFailed failure)] := by
  rw [output_of_failing asked fails, Credential.told_check_of_some found, List.nil_append,
    filter_isGenerative_event, List.filter_append, Pipeline.filter_told_deduce asked.read,
    Pipeline.failureEvent, unconfigured]
  rfl

/-- Where nobody answers, the warning of a missing credential is shown exactly if no variable holds
more than blanks, and exactly if the generator is skipped. Then it comes first and the skipping
comes last, and the session is the same whatever the instruction and the exchange are. Otherwise the
generator is the client of the first usable value, as it stands, and all that is shown of it is that
it failed: on the instruction exactly if that cannot be read, and on the request if it can. -/
theorem credential_warning_agrees_with_outcome (around : Surroundings) (arguments : List String)
    (filter : Filter) (invocation : Invocation) (text : String)
    (asked : AsksOnline around arguments filter invocation text)
    (unreachable : around.exchange = .unreachable) :
    let shown := (session around arguments filter).output
    let instructionPath := invocation.settings.instructionPath
    let missing := Credential.Missing around.lookup Credential.sources
    (.event (.credentialMissing Credential.sources) ∈ shown ↔ missing) ∧
    (missing ↔ ∃ failure, .event (.generationSkipped failure) ∈ shown) ∧
    (missing →
      shown.head? = some (.event (.credentialMissing Credential.sources)) ∧
      shown.getLast? =
        some (.event (.generationSkipped (.missingCredential Credential.sources))) ∧
      ∀ elsewhere : Surroundings, elsewhere.lookup = around.lookup →
        elsewhere.files invocation.settings.rulesPath =
          around.files invocation.settings.rulesPath →
        session elsewhere arguments filter = session around arguments filter) ∧
    (¬ missing → ∃ credential failure,
      Credential.FirstUsable around.lookup Credential.sources credential ∧
      (∀ instruction, around.files instructionPath = .ok instruction → ∀ exchange,
        fromSurroundings exchange around.files around.lookup invocation.settings =
          Generation.Client.generate exchange
            ⟨credential, invocation.settings.model, instruction⟩) ∧
      shown.filter Output.isGenerative = [.event (.generationFailed failure)] ∧
      (∀ fault, failure = .unreadable instructionPath fault ↔
        around.files instructionPath = .error fault) ∧
      ((∃ instruction, around.files instructionPath = .ok instruction) →
        ∃ fault, failure = .request fault)) := by
  intro shown instructionPath missing
  rcases Credential.firstUsable_or_missing around.lookup Credential.sources with
    ⟨credential, usable, found⟩ | ⟨without, absent⟩
  · obtain ⟨failure, fails, unconfigured, unreadable, request⟩ :=
      Generation.fails_of_some found around.files invocation.settings
    rw [← unreachable] at fails
    have about : shown.filter Output.isGenerative = [.event (.generationFailed failure)] :=
      generative_output_of_found asked found fails unconfigured
    have only {event : Event} (generative : event.isGenerative = true)
        (member : .event event ∈ shown) : event = .generationFailed failure := by
      have listed : .event event ∈ shown.filter Output.isGenerative :=
        List.mem_filter.mpr ⟨member, generative⟩
      rw [about, List.mem_singleton] at listed
      exact Output.event.inj listed
    refine ⟨iff_of_false (fun member => ?_) usable.not_missing,
      iff_of_false usable.not_missing ?_, fun without => absurd without usable.not_missing,
      fun _ => ⟨credential, failure, usable, fun _ => Generation.fromSurroundings_of_text found,
        about, unreadable, request⟩⟩
    · cases only rfl member
    · rintro ⟨_, member⟩
      cases only rfl member
  · have output : shown = _ := output_of_missing asked absent
    have warned : .event (.credentialMissing Credential.sources) ∈ shown := by
      rw [output]
      exact List.mem_map_of_mem (List.mem_append_left _ List.mem_cons_self)
    have last : shown.getLast? =
        some (.event (.generationSkipped (.missingCredential Credential.sources))) := by
      rw [output, ← List.append_assoc, List.map_append, List.map_singleton, List.getLast?_concat]
    have first : shown.head? = some (.event (.credentialMissing Credential.sources)) := by
      rw [output]
      rfl
    exact ⟨iff_of_true warned without, iff_of_true without ⟨_, List.mem_of_getLast? last⟩,
      fun _ => ⟨first, last, fun _ => session_of_missing_congr asked absent⟩,
      fun usable => absurd without usable⟩

def wornRoom (second : Option String) : Surroundings where
  files path := if path = "rules" then .ok "p(X) => q(X)" else .error .missing
  lookup name :=
    if name = "GEMINI_API_KEY" then some "\u3000"
    else if name = "JULES_API_KEY" then second
    else none
  exchange := .unreachable

/-- A blank in the first variable is passed over: the second variable decides, and gives the
credential with the blanks around it. -/
theorem worn_room_warning :
    let arguments := ["--rules", "rules"]
    let shown := fun second => (session (wornRoom second) arguments).output
    .event (.credentialMissing Credential.sources) ∈ shown none ∧
      (shown none).getLast? =
        some (.event (.generationSkipped (.missingCredential Credential.sources))) ∧
      .event (.credentialMissing Credential.sources) ∉ shown (some " key\n") ∧
      Credential.FirstUsable (wornRoom (some " key\n")).lookup Credential.sources " key\n" ∧
      (shown (some " key\n")).filter Output.isGenerative =
        [.event (.generationFailed (.unreadable "data/system_instruction.txt" .missing))] := by
  intro arguments shown
  let asked : Invocation := ⟨false, false, { rulesPath := "rules" }, []⟩
  have informed : PassesUpTo .info (Filter.byLevel none) := by
    intro output level known
    simp [Filter.byLevel, known]
  have asks (second : Option String) :
      AsksOnline (wornRoom second) arguments .byLevel asked "p(X) => q(X)" :=
    ⟨rfl, rfl, rfl, rfl, informed⟩
  have blankFirst (second : Option String) :
      ∀ value, (wornRoom second).lookup "GEMINI_API_KEY" = some value →
        Credential.IsBlank value := by
    rintro _ ⟨⟩
    decide
  have without : Credential.Missing (wornRoom none).lookup Credential.sources := by
    rw [Credential.Missing, Credential.sources, List.forall_mem_cons, List.forall_mem_singleton]
    exact ⟨blankFirst none, nofun⟩
  have usable : Credential.FirstUsable (wornRoom (some " key\n")).lookup Credential.sources
      " key\n" := .later (blankFirst _) (.here rfl (by decide))
  obtain ⟨warned, _, skipped, _⟩ :=
    credential_warning_agrees_with_outcome (wornRoom none) arguments .byLevel asked _
      (asks _) rfl
  obtain ⟨silent, _, _, failed⟩ :=
    credential_warning_agrees_with_outcome (wornRoom (some " key\n")) arguments .byLevel asked _
      (asks _) rfl
  obtain ⟨_, failure, _, _, about, unreadable, _⟩ := failed usable.not_missing
  rw [(unreadable .missing).mpr rfl] at about
  exact ⟨warned.mpr without, (skipped without).2.1, mt silent.mp usable.not_missing, usable, about⟩

end CommandLine

end Deduction
