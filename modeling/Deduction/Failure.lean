/-!
What can go wrong: a file cannot be read as text, no credential is set, the generative service
refuses or answers in vain, or the request itself fails.
-/

namespace Deduction

inductive ReadFault where
  | missing
  | directory
  /-- The path leads through a file as if it were a directory. -/
  | throughFile
  | notText
  /-- Any other fault, in the words of the system. -/
  | other (words : String)
deriving DecidableEq

def ReadFault.words : ReadFault → String
  | missing => "No such file or directory (os error 2)"
  | directory => "Is a directory (os error 21)"
  | throughFile => "Not a directory (os error 20)"
  | notText => "stream did not contain valid UTF-8"
  | other words => words

inductive RequestFault where
  | malformed
  /-- Nothing answered at the address. -/
  | unanswered (address : String)
  /-- The answer is not a response document. -/
  | undecodable
deriving DecidableEq

def RequestFault.words : RequestFault → String
  | malformed => "builder error"
  | unanswered address => "error sending request for url (" ++ address ++ ")"
  | undecodable => "error decoding response body"

inductive Failure where
  | unreadable (path : String) (fault : ReadFault)
  /-- None of the variables holds a credential. -/
  | missingCredential (sources : List String)
  /-- The service answered, but not with a text. -/
  | service (words : String)
  | request (fault : RequestFault)
deriving DecidableEq

namespace Failure

def message : Failure → String
  | unreadable path fault => "cannot read " ++ path ++ ": " ++ fault.words
  | missingCredential sources =>
      "no API key found in environment (set one of " ++ String.intercalate ", " sources ++ ")"
  | service words => "generative service failed: " ++ words
  | request fault => "generative service request failed: " ++ fault.words

def cause : Failure → Option String
  | unreadable _ fault => some fault.words
  | missingCredential _ => none
  | service _ => none
  | request fault => some fault.words

def isConfiguration : Failure → Bool
  | missingCredential _ => true
  | _ => false

end Failure

end Deduction
