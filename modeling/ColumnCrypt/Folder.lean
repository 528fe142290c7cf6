/-!
A folder of files, as the loader sees the file system.

Directories are counted by level: the folder is level 0, the directory holding it level 1, and
so on up to the root, whose parent is itself. A path is read up to its first NUL and walked
component by component: an empty component or `.` stays, `..` goes up, and a name must be a file
of the directory, at most 255 bytes long. Writing needs a whole path under the system's limit of
4096 bytes and a name last; any other path leaves the folder as it was.
-/

namespace ColumnCrypt

inductive PathEntry where
  | directory
  | file (text : String)
deriving DecidableEq, Repr

/-- A folder at a path, with the spellings of the directories above it, nearest first and the
root last, the length in bytes of its path as the system spells it, and the files written so
far, each with the level of its directory, its name and its text. -/
structure Folder where
  path : String
  above : List String
  spelledLength : Nat
  files : List (Nat × String × String)
deriving Repr

namespace Folder

def noSuchEntry : String :=
  "No such file or directory"

def notADirectory : String :=
  "Not a directory"

def nameTooLong : String :=
  "File name too long"

def nameLimit : Nat :=
  255

def pathLimit : Nat :=
  4096

def empty (path : String) (above : List String) (spelledLength : Nat) : Folder :=
  ⟨path, above, spelledLength, []⟩

def asRead (path : String) : String :=
  String.ofList (path.toList.takeWhile (· != '\x00'))

def spell (folder : Folder) : Nat → String
  | 0 => folder.path
  | level + 1 => (folder.above[level]?).getD (folder.above.getLastD folder.path)

def spellFile (folder : Folder) (level : Nat) (name : String) : String :=
  let directory := folder.spell level
  if directory.endsWith "/" then directory ++ name else directory ++ "/" ++ name

def up (folder : Folder) (level : Nat) : Nat :=
  min (level + 1) folder.above.length

def find? (folder : Folder) (level : Nat) (name : String) : Option String :=
  (folder.files.find? fun (place, named, _) => place = level && named = name).map (·.2.2)

def staysPut (component : String) : Bool :=
  component = "" || component = "."

inductive Place where
  | inDirectory (level : Nat)
  | atFile (level : Nat) (name text : String)

def step (folder : Folder) : Place → String → Except String Place
  | .inDirectory level, component =>
    if staysPut component then .ok (.inDirectory level)
    else if nameLimit < component.utf8ByteSize then .error nameTooLong
    else if component = ".." then .ok (.inDirectory (folder.up level))
    else
      match folder.find? level component with
      | some text => .ok (.atFile level component text)
      | none => .error noSuchEntry
  | .atFile _ _ _, _ => .error notADirectory

def walk (folder : Folder) : Place → List String → Except String Place
  | place, [] => .ok place
  | place, component :: rest => do
    let next ← folder.step place component
    folder.walk next rest

def components? (folder : Folder) (path : String) : Option (List String) :=
  if path = folder.path then some []
  else if path.startsWith (folder.path ++ "/") then
    some ((path.drop (folder.path.length + 1)).toString.splitOn "/")
  else none

/-- Resolves a path: its canonical spelling and what it names, or the reason it names nothing. -/
def resolve (folder : Folder) (path : String) : Except String (String × PathEntry) :=
  match folder.components? (asRead path) with
  | none => .error noSuchEntry
  | some components => do
    match ← folder.walk (.inDirectory 0) components with
    | .inDirectory level => return (folder.spell level, .directory)
    | .atFile level name text => return (folder.spellFile level name, .file text)

/-- Writes a text to a path relative to the folder, when that path opens for writing. -/
def write (folder : Folder) (relative : String) (text : String) : Folder :=
  let relative := asRead relative
  if pathLimit ≤ folder.spelledLength + 1 + relative.utf8ByteSize then folder
  else
    match (relative.splitOn "/").reverse with
    | name :: parents =>
      if staysPut name || name = ".." || nameLimit < name.utf8ByteSize then folder
      else
        match folder.walk (.inDirectory 0) parents.reverse with
        | .ok (.inDirectory level) =>
          { folder with
            files := (level, name, text) ::
              folder.files.filter fun (place, named, _) => !(place = level && named = name) }
        | _ => folder
    | [] => folder

end Folder

end ColumnCrypt
