import Storyline.Archive.Files
import Storyline.Play.Transcript

/-!
Archives of transcripts, in memory or as a folder with one document per transcript. A document is
named after the hyphenated identifier; listing takes every name that spells an identifier.
-/
namespace Storyline

inductive ArchiveError where
  | unknown (id : Uuid)
  | unreachable (path : String) (e : FileError)
  | malformed

def ArchiveError.message : ArchiveError → String
  | unknown id => "simulation not found: " ++ id.display
  | unreachable path e => "cannot access " ++ path ++ ": " ++ e.message
  | malformed => "cannot encode simulation result: not a simulation result"

abbrev MemoryArchive := SortedMap Uuid Transcript

namespace MemoryArchive

def save (a : MemoryArchive) (t : Transcript) : MemoryArchive := a.insert t.id t

def load (a : MemoryArchive) (id : Uuid) : Except ArchiveError Transcript :=
  match a.get? id with
  | some t => .ok t
  | none => .error (.unknown id)

def list (a : MemoryArchive) : List Uuid := a.keys

def loadMany (a : MemoryArchive) (ids : List Uuid) : Except ArchiveError (List Transcript) :=
  ids.mapM a.load

end MemoryArchive

namespace Archive

def fileName (id : Uuid) : String := id.display ++ ".json"

def idOfFile? (name : String) : Option Uuid :=
  if name.endsWith ".json" then Uuid.ofChars? (name.toList.take (name.length - 5)) else none

def idsOf (names : List String) : List Uuid :=
  (names.filterMap idOfFile?).mergeSort fun a b => (compare a b).isLE

def decode (text : String) : Except ArchiveError Transcript :=
  match Transcript.read? text with
  | some t => .ok t
  | none => .error .malformed

end Archive

namespace Folder

/-- An empty folder where there is nothing, an existing one as it is; a file is in the way. -/
def openAt (path : String) : Place → Except ArchiveError Folder
  | .nothing => .ok ∅
  | .folder content => .ok content
  | .file _ => .error (.unreachable path .occupied)

/-- Keeps a transcript, in place of any former one with its identifier; a folder of that name is in
the way. -/
def save (f : Folder) (t : Transcript) : Except ArchiveError Folder :=
  let name := Archive.fileName t.id
  match f.get? name with
  | some .folder => .error (.unreachable name .isFolder)
  | _ => .ok (f.insert name (.text t.write))

def load (f : Folder) (id : Uuid) : Except ArchiveError Transcript :=
  let name := Archive.fileName id
  match f.get? name with
  | some (.text text) => Archive.decode text
  | some .folder => .error (.unreachable name .isFolder)
  | none => .error (.unknown id)

def list (f : Folder) : List Uuid := Archive.idsOf f.keys

def loadMany (f : Folder) (ids : List Uuid) : Except ArchiveError (List Transcript) :=
  ids.mapM f.load

end Folder

end Storyline
