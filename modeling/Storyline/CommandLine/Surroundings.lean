import Storyline.Archive.Basic
import Storyline.Play.Request

/-!
What commands ask of their surroundings: files, the time, and what marks a run apart. A desk is such
surroundings by itself, a working folder whose time stands still and whose identifiers count up.
-/
namespace Storyline

class Surroundings (m : Type → Type) where
  readFile (path : String) : m (Except FileError String)
  writeFile (path text : String) : m (Except FileError Unit)
  openFolder (path : String) : m (Except FileError Unit)
  names (path : String) : m (Except FileError (List String))
  now : m Timestamp
  /-- What one run cannot know by itself; no two runs get the same identifier. -/
  circumstances : m Circumstances

structure Desk where
  files : FileTree := .empty
  time : Timestamp := ⟨0, 0⟩
  nextId : Nat := 0

namespace Desk

def writeFile (path text : String) (d : Desk) : Except FileError Unit × Desk :=
  match d.files.writeFile path text with
  | .ok files => (.ok (), { d with files })
  | .error e => (.error e, d)

def openFolder (path : String) (d : Desk) : Except FileError Unit × Desk :=
  let (files, answer) := d.files.openFolder path
  (answer, { d with files })

def takeCircumstances (d : Desk) : Circumstances × Desk :=
  ({ stamp := ⟨.ofNumber d.nextId, d.time⟩ }, { d with nextId := d.nextId + 1 })

instance : Surroundings (StateM Desk) where
  readFile path := do return (← get).files.readFile path
  writeFile path text := modifyGet (writeFile path text)
  openFolder path := modifyGet (openFolder path)
  names path := do return (← get).files.names path
  now := do return (← get).time
  circumstances := modifyGet takeCircumstances

end Desk

namespace Archive

variable {m : Type → Type} [Monad m] [Surroundings m]

def join (folder name : String) : String :=
  if folder.endsWith "/" then folder ++ name else folder ++ "/" ++ name

def pathOf (folder : String) (id : Uuid) : String := join folder (fileName id)

def openAt (folder : String) : ExceptT ArchiveError m Unit := do
  match ← Surroundings.openFolder (m := m) folder with
  | .ok () => return
  | .error e => throw (.unreachable folder e)

def saveAt (folder : String) (t : Transcript) : ExceptT ArchiveError m Unit := do
  let path := pathOf folder t.id
  match ← Surroundings.writeFile (m := m) path t.write with
  | .ok () => return
  | .error e => throw (.unreachable path e)

/-- A transcript by its identifier; only a file that is not there makes it an unknown one. -/
def loadAt (folder : String) (id : Uuid) : ExceptT ArchiveError m Transcript := do
  let path := pathOf folder id
  match ← Surroundings.readFile (m := m) path with
  | .ok text => (decode text : Except ArchiveError Transcript)
  | .error e => throw (if e.isMissing then .unknown id else .unreachable path e)

def listAt (folder : String) : ExceptT ArchiveError m (List Uuid) := do
  match ← Surroundings.names (m := m) folder with
  | .ok names => return idsOf names
  | .error e => throw (.unreachable folder e)

end Archive

end Storyline
