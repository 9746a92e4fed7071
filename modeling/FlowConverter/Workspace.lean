import FlowConverter.Value.Access
import FlowConverter.Workspace.Path

/-! The files that a conversion can see and the directory it runs in. A location is the list of
names from the root; a directory exists if it is the current one, lies above it, or holds a file.
There are no links, so `..` leads to the directory above. -/
namespace FlowConverter

structure Workspace where
  /-- Each file with its location and the document it holds. -/
  files : List (List String × Value)
  /-- The location of the current directory. -/
  directory : List String

namespace Workspace

/-- What stands at a location. -/
inductive Entry where
  | file (document : Value)
  | directory

/-- The file or directory at a location. -/
def entryAt? (ws : Workspace) (place : List String) : Option Entry :=
  match ws.files.lookup place with
  | some document => some (.file document)
  | none =>
    if place.isPrefixOf ws.directory || ws.files.any (fun f => place.isPrefixOf f.1) then
      some .directory
    else none

/-- Follows names from the directory `place`. A name below a file leads nowhere, and an empty name
or `.` asks for a directory. -/
def follow (ws : Workspace) (place : List String) : List String → Except Fault Entry
  | [] => pure .directory
  | name :: rest =>
    if name == "" || name == "." then ws.follow place rest
    else if name == ".." then ws.follow place.dropLast rest
    else
      match ws.entryAt? (place ++ [name]) with
      | none => throw .fileNotFound
      | some .directory => ws.follow (place ++ [name]) rest
      | some (.file document) =>
        if rest.isEmpty then pure (.file document) else throw .notADirectory

/-- What a path names, as seen from the current directory. -/
def find (ws : Workspace) (path : String) : Except Fault Entry :=
  if path.toList.contains '\x00' then throw .nulInPath
  else if path.isEmpty then throw .fileNotFound
  else ws.follow (if Path.isAbsolute path then [] else ws.directory) (Path.parts path)

/-- Whether a path names a file or a directory. -/
def contains (ws : Workspace) (path : String) : Bool :=
  match ws.find path with
  | .ok _ => true
  | .error _ => false

/-- The document of the file at a path. -/
def read (ws : Workspace) (path : String) : Except Fault Value := do
  match ← ws.find path with
  | .file document => pure document
  | .directory => throw .isADirectory

/-- The path of the directory that `path` lies in, by its names alone. -/
def directoryOf (ws : Workspace) (path : String) : String :=
  Path.ofLocation (Path.normalize ws.directory path).dropLast

/-- Where a file to import is found: at its path, or else below `sourceDir`. -/
def locate (ws : Workspace) (sourceDir : Value) (path : String) : Except Fault (Option String) := do
  if ws.contains path then pure (some path)
  else
    let below := Path.join (← sourceDir.asText) path
    pure (if ws.contains below then some below else none)

end Workspace

end FlowConverter
