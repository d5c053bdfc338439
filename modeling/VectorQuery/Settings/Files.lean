import VectorQuery.Settings.Basic
import VectorQuery.Settings.Environment
import VectorQuery.Settings.FilePath
import VectorQuery.Yaml.Data
/-! What paths lead to, and loading settings from a file. -/
namespace VectorQuery

/-- What stands at a path. -/
inductive FileEntry
  | text (s : String)
  | directory
  /-- a part of the path is longer than names of files are -/
  | unreachable

/-- Whether no way leads on from here. -/
def FileEntry.isEnd : FileEntry → Bool
  | directory => false
  | _ => true

/-- What stands at each path, if anything does. -/
abbrev Files := String → Option FileEntry

namespace Files
open FilePath

/-- A text in a working directory, with the directories on the way to it. -/
structure Single where
  /-- the parts of the path from the working directory on -/
  place : List (List Char)
  content : String

namespace Single

def ofPath (path content : String) : Single := ⟨parts path.toList, content⟩

/-- Where the text is, the last part first. -/
def location (t : Single) : List (List Char) := t.place.foldl enter []

end Single

/-- The directories on a way from one of them on. -/
def directoriesOn (here : List (List Char)) : List (List Char) → List (List (List Char))
  | [] => []
  | part :: r => here :: directoriesOn (enter here part) r

/-- Whether a place is a directory: the working directory, one above it, or one on the way to the
text. -/
def isDirectory (t : Option Single) (here : List (List Char)) : Bool :=
  here.all (· == ['.', '.']) || t.any fun t => (directoriesOn [] t.place).contains here

/-- How many bytes a name of a file has at most. -/
def maxName : Nat := 255

/-- What a way leads to from a directory on. -/
def follow (t : Option Single) (here : List (List Char)) : List (List Char) → Option FileEntry
  | [] => some .directory
  | part :: r =>
    let next := enter here part
    if maxName < (String.ofList part).utf8ByteSize then some .unreachable
    else if isDirectory t next then follow t next r
    else if r.isEmpty then (t.filter (·.location == next)).map fun t => .text t.content
    else none

/-- The files of a working directory with one text at most. -/
def single (t : Option Single) : Files := fun path =>
  let s := path.toList
  if s.contains '\x00' then none
  else if (root s).isEmpty then follow t [] (parts s)
  else if (parts s).all (· == ['.', '.']) then some .directory
  else none

end Files

/-- What loading settings takes from a YAML library. -/
class YamlLibrary where
  /-- the data that a text writes -/
  read : List Char → Checked Datum

/-- The library that the program runs on. -/
instance : YamlLibrary := ⟨Yaml.read⟩

namespace Settings

/-- Where settings are looked for unless told otherwise. -/
def defaultPath : String := "./config/config.yaml"

/-- The path to load from: the given one, unless it is empty or absent. -/
def pathOf (given : Option String) : String :=
  match given with
  | none => FilePath.normal defaultPath
  | some path => FilePath.normal (if path.isEmpty then defaultPath else path)

/-- The settings that a text writes, with the references to variables replaced. -/
def read [YamlLibrary] (env : Environment) (text : String) : Checked Settings := do
  let d ← YamlLibrary.read text.toList
  return ofDatum (env.substitute (d.orElse (.dict [])))

/-- The settings in the file at a path. -/
def load [YamlLibrary] (files : Files) (env : Environment) (given : Option String) : Checked Settings :=
  match files (pathOf given) with
  | none => .error (.missingFile (pathOf given))
  | some .directory => .error .isDirectory
  | some .unreachable => .error .nameTooLong
  | some (.text s) => read env s

end Settings

end VectorQuery
