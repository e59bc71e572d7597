import Pushdown.Log.Basic
import Pushdown.Schema.Printer
import Pushdown.Schema.Reader

/-!
# Registries of schemas

A registry holds the current schema of each collection. Registering a schema requires a version
beyond the one that is held. Loading takes every schema file of a directory in turn and puts it in
the place of what is held, up to the first file that is at fault.

A schema file is named for its collection and ends in `.json`. A name that is nothing but that
ending has no collection before it and is passed over.
-/

namespace Pushdown

/-- A directory with its files, each a name and a text. -/
structure SchemaDirectory where
  path : String
  /-- The files; none when the directory does not exist. -/
  files : Option (List (String × String))

/-- The schemas that are held, each for a collection of its own. -/
structure SchemaRegistry where
  schemas : List (String × Schema) := []
deriving Inhabited

def schemaFileName (collection : String) : String := collection ++ ".json"

/-- The collection that a file is named for, if it is a schema file: what stands before the last
dot, when that is not empty and `json` stands behind it. -/
def collectionOf? (fileName : String) : Option String :=
  let pieces := (splitOn '.' fileName.toList).map String.ofList
  let stem := joinWith "." pieces.dropLast
  if pieces.getLast? = some "json" ∧ stem ≠ "" then some stem else none

namespace SchemaDirectory

def pathOf (directory : SchemaDirectory) (fileName : String) : String :=
  directory.path ++ "/" ++ fileName

/-- Writes a file, in place of an earlier one of its name, and makes the directory if there is
none. -/
def write (fileName text : String) (directory : SchemaDirectory) : SchemaDirectory :=
  let others := (directory.files.getD []).filter fun file => file.1 != fileName
  { directory with files := some (others ++ [(fileName, text)]) }

/-- Makes the directory if there is none. -/
def create (directory : SchemaDirectory) : SchemaDirectory :=
  { directory with files := some (directory.files.getD []) }

/-- A name that a file can have: not too long, and without slashes and null characters. -/
def isFileName (name : String) : Bool :=
  name.utf8ByteSize ≤ 255 && name.toList.all fun c => c ≠ '/' && c ≠ '\x00'

/-- Saves the schema of a collection and answers with the path of its file. -/
def save (collection : String) (schema : Schema) (directory : SchemaDirectory) :
    Except SchemaError String × SchemaDirectory :=
  let fileName := schemaFileName collection
  let path := directory.pathOf fileName
  if isFileName fileName then (.ok path, directory.write fileName schema.text)
  else (.error (.unreadable path "No such file or directory (os error 2)"), directory.create)

end SchemaDirectory

namespace SchemaRegistry

def get? (collection : String) (registry : SchemaRegistry) : Option Schema :=
  (registry.schemas.find? fun entry => entry.1 == collection).map (·.2)

def size (registry : SchemaRegistry) : Nat := registry.schemas.length

/-- Puts the schema of a collection in the place of what is held. -/
def put (collection : String) (schema : Schema) (registry : SchemaRegistry) : SchemaRegistry :=
  ⟨(collection, schema) :: registry.schemas.filter fun entry => entry.1 != collection⟩

/-- Registers a valid schema of a version beyond the one that is held. -/
def register (collection : String) (schema : Schema) (registry : SchemaRegistry) :
    Except SchemaError SchemaRegistry := do
  schema.validate
  match registry.get? collection with
  | some held =>
    if schema.version ≤ held.version then .error (.immutable collection held.version)
    else .ok (registry.put collection schema)
  | none => .ok (registry.put collection schema)

/-- Loads files in turn. What was loaded before a file at fault is kept. -/
def loadFiles (directory : SchemaDirectory) :
    List (String × String) → SchemaRegistry → Except SchemaError Unit × SchemaRegistry
  | [], registry => (.ok (), registry)
  | (fileName, text) :: rest, registry =>
    match collectionOf? fileName with
    | none => loadFiles directory rest registry
    | some collection =>
      match Schema.ofText (directory.pathOf fileName) text with
      | .error fault => (.error fault, registry)
      | .ok schema => loadFiles directory rest (registry.put collection schema)

/-- Loads the schema files of a directory. There is nothing to load where there is no directory. -/
def load (directory : SchemaDirectory) (registry : SchemaRegistry) :
    Except SchemaError Unit × SchemaRegistry :=
  loadFiles directory (directory.files.getD []) registry

/-- What loading offers to the log: a record when every schema file of a directory was loaded. -/
def loadedRecords (directory : SchemaDirectory) (result : Except SchemaError Unit)
    (registry : SchemaRegistry) : List LogRecord :=
  match directory.files, result with
  | some _, .ok () =>
    [.ofEvent .schemasLoaded [("count", decimalText registry.size), ("dir", directory.path)]]
  | _, _ => []

end SchemaRegistry

end Pushdown
