import Storyline.CommandLine.Surroundings
import Storyline.Validation.Checks

/-! What a command answers, and why it fails. -/
namespace Storyline

inductive Output where
  | plain (lines : List String)
  | document (j : Json)

/-- An output, complaints, and zero as the code of success. -/
structure Response where
  output : Output := .plain []
  complaints : List String := []
  code : Nat := 0

inductive CommandFailure where
  | unreadable (path : String) (e : FileError)
  | noProject
  | noRequests (path : String)
  | emptyRequests (path : String)
  | lookup (e : LookupError)
  | play (e : PlayError)
  | archive (e : ArchiveError)
  | identifier (text : String)
  | invalid (errors : Nat)

namespace CommandFailure

def message : CommandFailure → String
  | unreadable path e => "cannot read " ++ path ++ ": " ++ e.message
  | noProject => "invalid project document: not a project"
  | noRequests path => "invalid requests in " ++ path ++ ": not a list of requests"
  | emptyRequests path => "no requests in " ++ path
  | lookup e => e.message
  | play e => "simulation failed: " ++ e.message
  | archive e => e.message
  | identifier text => "invalid simulation id '" ++ text ++ "': " ++ Uuid.refusal text
  | invalid errors => "validation failed with " ++ toString errors ++ " error(s)"

end CommandFailure

def Output.lines : Output → List String
  | plain lines => lines
  | document j => j.pretty.splitOn "\n"

namespace Response

def ofLines (lines : List String) : Response := { output := .plain lines }

def ofJson (j : Json) : Response := { output := .document j }

def lines (r : Response) : List String := r.output.lines

def fail (r : Response) (f : CommandFailure) : Response :=
  { r with complaints := r.complaints ++ ["error: " ++ f.message], code := 1 }

def settle : Except CommandFailure Response → Response
  | .ok r => r
  | .error f => fail {} f

end Response

namespace CommandFailure

variable {m : Type → Type} [Monad m] [Surroundings m]

def readText (path : String) : ExceptT CommandFailure m String := do
  match ← Surroundings.readFile (m := m) path with
  | .ok text => return text
  | .error e => throw (.unreadable path e)

def readProject (path : String) : ExceptT CommandFailure m Project := do
  match Project.read? (← readText path) with
  | some p => return p
  | none => throw .noProject

def ofArchive {α : Type} (x : ExceptT ArchiveError m α) : ExceptT CommandFailure m α :=
  x.adapt .archive

end CommandFailure

end Storyline
