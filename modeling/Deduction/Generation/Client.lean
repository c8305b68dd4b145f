import Deduction.FileTree
import Deduction.Generation.Address
import Deduction.Generation.Request
import Deduction.Generation.Response
import Deduction.Generation.Status
import Deduction.Settings

/-!
The client of the generative service. It needs a credential and an instruction, in this order, puts
a prompt into a request, hands the request to an exchange, and reads the answer.
-/

namespace Deduction.Generation

/-- A text-in, text-out service; what it reports is part of its answer, and it may act in `m`. -/
abbrev Generator (m : Type → Type) := String → m (Logged (Except Failure String))

structure Reply where
  status : Nat
  body : ByteArray

/-- What becomes of a request body that is sent to an address with a credential: an answer, or
nothing when nobody answers there. -/
abbrev Exchange := (address credential body : String) → Option Reply

def Exchange.unreachable : Exchange :=
  fun _ _ _ => none

structure Client where
  credential : String
  model : String
  instruction : String
deriving DecidableEq

namespace Client

/-- The client of some settings. The credential is looked for before the instruction is read. -/
def make (files : Files) (lookup : String → Option String) (settings : Settings) :
    Except Failure Client :=
  match Credential.find? lookup with
  | none => .error (.missingCredential Credential.sources)
  | some credential =>
      match Files.load files settings.instructionPath with
      | .error failure => .error failure
      | .ok instruction => .ok ⟨credential, settings.model, instruction⟩

def address (client : Client) : String :=
  Address.plain client.model

def request (client : Client) (prompt : String) : Request :=
  ⟨client.instruction, prompt⟩

/-- A credential travels in a header line, where no control but the tab may stand. -/
def isHeaderByte (byte : UInt8) : Bool :=
  (0x20 ≤ byte && byte != 0x7F) || byte == 0x09

def hasHeaderCredential (client : Client) : Bool :=
  client.credential.toUTF8.toList.all isHeaderByte

def readReply (reply : Reply) : Except Failure String :=
  if isSuccess reply.status then
    match Response.decode reply.body.toList with
    | none => .error (.request .undecodable)
    | some response => response.text
  else .error (rejected reply.status ((String.fromUTF8? reply.body).getD ""))

def generate (exchange : Exchange) (client : Client) (prompt : String) :
    Logged (Except Failure String) := do
  Logged.report (.sendingPrompt client.model prompt.utf8ByteSize)
  if client.hasHeaderCredential then
    match exchange client.address client.credential (client.request prompt).text with
    | none => pure (.error (.request (.unanswered (Address.sent client.model))))
    | some reply => pure (readReply reply)
  else pure (.error (.request .malformed))

end Client

/-- The generator that makes its client anew for every prompt. -/
def fromSurroundings (exchange : Exchange) (files : Files) (lookup : String → Option String)
    (settings : Settings) (prompt : String) : Logged (Except Failure String) :=
  match Client.make files lookup settings with
  | .error failure => pure (.error failure)
  | .ok client => client.generate exchange prompt

end Deduction.Generation
