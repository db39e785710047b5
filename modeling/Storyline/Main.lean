import Std.Time.DateTime.Timestamp
import Storyline.CommandLine.Basic

/-! The program: the command line on the files, the clock and the random bytes of the system. -/
namespace Storyline

namespace System

/-- Whether the system gives an error that code; some calls give it negated. -/
def isCode (expected code : UInt32) : Bool := code = expected || code = 0 - expected

def errorOf (e : IO.Error) : FileError :=
  match e with
  | .noFileOrDirectory .. | .noSuchThing .. => .missing
  | .alreadyExists .. => .occupied
  | .inappropriateType _ code _ =>
    if isCode 20 code then .notFolder
    else if isCode 21 code then .isFolder
    else .other (toString e)
  | .invalidArgument _ code _ => if isCode 36 code then .tooLong else .other (toString e)
  | e => .other (toString e)

def attempt {α : Type} (action : IO α) : IO (Except FileError α) :=
  try return .ok (← action) catch e => return .error (errorOf e)

def namesIn (folder : String) : IO (List String) := do
  let entry : IO.FS.DirEntry := { root := folder, fileName := "" }
  return (← entry.root.readDir).toList.map (·.fileName)

def randomNumber (bytes : Nat) : IO Nat := do
  return (← IO.getRandomBytes bytes.toUSize).toList.foldl (fun n b => 256 * n + b.toNat) 0

def randomId : IO Uuid := do
  let n ← randomNumber 16
  let low := n % Nat.pow 2 62 + Nat.pow 2 63
  let middle := n / Nat.pow 2 64 % Nat.pow 2 12 + 4 * Nat.pow 2 12
  let high := n / Nat.pow 2 80
  return .ofNumber (high * Nat.pow 2 80 + middle * Nat.pow 2 64 + low)

def now : IO Timestamp := do
  let t := (← Std.Time.Timestamp.now).toNanosecondsSinceUnixEpoch.val
  return ⟨t / Timestamp.billion, (t % Timestamp.billion).toNat⟩

/-- The system as surroundings. Runs are short, so no deadline is watched. -/
instance : Surroundings IO where
  readFile path := attempt (IO.FS.readFile path)
  writeFile path text := attempt (IO.FS.writeFile path text)
  openFolder path := attempt (IO.FS.createDirAll path)
  names path := attempt (namesIn path)
  now := now
  circumstances := do
    return { stamp := ⟨← randomId, ← now⟩, freshSeed := ← randomNumber 8 }

end System

end Storyline

def main (arguments : List String) : IO UInt32 := do
  let r ← Storyline.Invocation.respond (m := IO) arguments
  for line in r.lines do IO.println line
  for line in r.complaints do IO.eprintln line
  return r.code.toUInt32
