import Deduction.CommandLine.Session
import Std.Time

/-!
The command-line program: it reads the files that its arguments ask for and the variables that
matter, lets the session decide what to write, and writes it. It has no way to the network, so
nobody answers its requests.
-/

open Deduction Deduction.CommandLine

def readFault : IO.Error → ReadFault
  | .noFileOrDirectory _ _ _ => .missing
  | .inappropriateType _ code _ => if code = 21 ∨ code = -21 then .directory else .throughFile
  | fault => .other (toString fault)

def readTextFile (path : String) : IO (Except ReadFault String) := do
  try
    let content ← IO.FS.readBinFile path
    pure (Node.textOf content)
  catch fault => pure (.error (readFault fault))

def timeStamp : IO String := do
  let now ← Std.Time.Timestamp.now
  let now := Std.Time.DateTime.ofTimestamp now Std.Time.TimeZone.ZoneRules.UTC
  pure (now.format "uuuu-MM-dd'T'HH:mm:ss.SSSSSS'Z'")

def observe (arguments : List String) : IO Surroundings := do
  let contents ← (pathsOf arguments).mapM fun path => do pure (path, ← readTextFile path)
  let found ← watchedVariables.mapM fun name => do pure (name, ← IO.getEnv name)
  pure
    { files := fun path => (contents.lookup path).getD (.error .missing)
      lookup := fun name => (found.lookup name).join
      exchange := .unreachable }

def main (arguments : List String) : IO UInt32 := do
  let started ← IO.monoNanosNow
  let session := session (← observe arguments) arguments
  let stamp ← timeStamp
  let output := session.standardOutput stamp
  let complaint := session.complaint
  let finished ← IO.monoNanosNow
  IO.print (output (elapsedText (finished - started)))
  IO.eprint complaint
  pure session.status.toUInt32
