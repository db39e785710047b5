import Storyline.Sorted.Map

/-!
Files in folders. A folder holds items by name; a tree holds folders by path, the working folder at
the empty path. Paths are written with slashes and read relative to the working folder, one part
after the other: each part but the last must come to a folder, and a part that stands for a folder,
a dot or two dots, needs one before it too.
-/
namespace Storyline

inductive FileError where
  | missing
  | occupied
  | notFolder
  | isFolder
  | tooLong
  | other (message : String)

namespace FileError

def message : FileError → String
  | missing => "No such file or directory (os error 2)"
  | occupied => "File exists (os error 17)"
  | notFolder => "Not a directory (os error 20)"
  | isFolder => "Is a directory (os error 21)"
  | tooLong => "File name too long (os error 36)"
  | other message => message

def isMissing : FileError → Bool
  | missing => true
  | _ => false

end FileError

/-- What a folder holds under a name; the content of a folder inside is found by its own path. -/
inductive Item where
  | text (text : String)
  | folder

abbrev Folder := SortedMap String Item

inductive Place where
  | nothing
  | file (text : String)
  | folder (content : Folder)

structure FileTree where
  folders : SortedMap String Folder

namespace FileTree

def empty : FileTree := ⟨SortedMap.empty.insert "" ∅⟩

def child (folder name : String) : String := if folder = "" then name else folder ++ "/" ++ name

def pathOf (parts : List String) : String := parts.foldl child ""

/-- A folder around the working folder is reached by two dots alone. -/
def isAround (parts : List String) : Bool := parts.all (· = "..")

/-- What stands at the path of these parts. The folders around the working folder are there, and
nothing is known to be in them. -/
def lookup (t : FileTree) (parts : List String) : Place :=
  match t.folders.get? (pathOf parts) with
  | some folder => .folder folder
  | none =>
    if isAround parts then .folder ∅
    else
      match (t.folders.getD (pathOf parts.dropLast) ∅).get? (parts.getLast?.getD "") with
      | some (.text text) => .file text
      | _ => .nothing

def longestName : Nat := 255
def longestPath : Nat := 4095

def enter (t : FileTree) (reached : List String) (part : String) :
    Except FileError (List String) :=
  match t.lookup reached with
  | .nothing => .error .missing
  | .file _ => .error .notFolder
  | .folder _ =>
    if part = "." then .ok reached
    else if part = ".." ∧ ¬ isAround reached then .ok reached.dropLast
    else if longestName < part.utf8ByteSize then .error .tooLong
    else .ok (reached ++ [part])

def walk (t : FileTree) (parts : List String) : Except FileError (List String) :=
  parts.foldlM t.enter []

def partsOf (path : String) : List String := (path.splitOn "/").filter (· ≠ "")

/-- The parts of a path, with a last dot where it ends in a slash. -/
def partsToFolder (path : String) : List String :=
  partsOf path ++ if path.endsWith "/" then ["."] else []

/-- Refuses paths that cannot be read at all. A path that starts at a root lies outside the tree. -/
def checkPath (path : String) : Except FileError Unit :=
  if longestPath < path.utf8ByteSize then .error .tooLong
  else if path = "" ∨ path.startsWith "/" then .error .missing
  else .ok ()

def resolve (t : FileTree) (path : String) : Except FileError (List String) := do
  checkPath path
  t.walk (partsToFolder path)

def readFile (t : FileTree) (path : String) : Except FileError String := do
  match t.lookup (← t.resolve path) with
  | .file text => return text
  | .folder _ => throw .isFolder
  | .nothing => throw .missing

def put (t : FileTree) (parts : List String) (i : Item) : FileTree :=
  let folder := pathOf parts.dropLast
  ⟨t.folders.insert folder ((t.folders.getD folder ∅).insert (parts.getLast?.getD "") i)⟩

def writeFile (t : FileTree) (path text : String) : Except FileError FileTree := do
  let found ← t.resolve path
  match t.lookup found with
  | .folder _ => throw .isFolder
  | _ => return t.put found (.text text)

def makeFolder (t : FileTree) (parts : List String) : Except FileError FileTree := do
  let last := parts.getLast?.getD "."
  let around ← t.walk parts.dropLast
  let found ← t.enter around last
  match t.lookup found with
  | .nothing =>
    if last = "." ∨ last = ".." then throw .occupied
    else return ⟨(t.put found .folder).folders.insert (pathOf found) ∅⟩
  | _ => throw .occupied

def needFolder (t : FileTree) (parts : List String) : Except FileError FileTree :=
  match t.makeFolder parts with
  | .error .occupied =>
    match t.walk parts with
    | .ok found => match t.lookup found with
      | .folder _ => .ok t
      | _ => .error .occupied
    | .error e => .error e
  | answer => answer

/-- Makes folders one inside the other, the first of them at the parts reached so far. What was made
before one fails stays. -/
def needFolders (t : FileTree) (reached : List String) :
    List String → FileTree × Except FileError Unit
  | [] => (t, .ok ())
  | part :: rest =>
    match t.needFolder (reached ++ [part]) with
    | .ok t => t.needFolders (reached ++ [part]) rest
    | .error e => (t, .error e)

/-- Makes a folder where there is none, and those around it. The path is tried as it stands, and
only when something on the way is missing are the folders around it made; dots on their own are no
part of those. -/
def openFolder (t : FileTree) (path : String) : FileTree × Except FileError Unit :=
  if longestPath < path.utf8ByteSize then (t, .error .tooLong)
  else if path.startsWith "/" then (t, .error (.other "Permission denied (os error 13)"))
  else
    let parts := partsOf path
    match t.needFolder parts with
    | .ok t => (t, .ok ())
    | .error .missing =>
      match t.needFolders [] (parts.filter (· ≠ ".")).dropLast with
      | (t, .error e) => (t, .error e)
      | (t, .ok ()) =>
        match t.needFolder parts with
        | .ok t => (t, .ok ())
        | .error e => (t, .error e)
    | .error e => (t, .error e)

def names (t : FileTree) (path : String) : Except FileError (List String) := do
  match t.lookup (← t.resolve path) with
  | .folder folder => return folder.keys
  | .file _ => throw .notFolder
  | .nothing => throw .missing

def texts (folder : Folder) : List (String × String) :=
  folder.entries.filterMap fun
    | (name, .text text) => some (name, text)
    | (_, .folder) => none

def allFiles (t : FileTree) : List String :=
  (t.folders.entries.filter fun (path, _) => (partsOf path).head? ≠ some "..").flatMap
    fun (path, folder) => (texts folder).map fun (name, _) => child path name

def withFile (t : FileTree) (path text : String) : FileTree :=
  let parts := (partsOf path).filter (· ≠ ".")
  (t.needFolders [] parts.dropLast).1.put parts (.text text)

end FileTree

end Storyline
