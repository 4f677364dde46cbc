import DialUp.Configuration.Reading
import DialUp.Files
import DialUp.Yaml.Reading

/-!
# Configuration files

A configuration file holds a YAML document (`load_config`). Settings of the environment come in
place of the port and the host that it names.

* `fileDocumentBy`: the document of a file, or why there is none.
* `overridden`: the document with the settings of the environment.
* `loadBy`: the configuration of a file. Relative sound files lie below the file's directory.

All of this is for any reader of YAML. `load` is the case of the reader that the library has itself.

Out of scope: a document nested so deeply that no reader gets to its bottom.
-/

namespace DialUp.Configuration

open Document (Value Mishap)

/-- What reads YAML: it gives the document that bytes stand for, or tells why there is none. -/
abbrev Reader := Bytes → Except Yaml.Fault Document

/-- The document that lies under a path. An empty one counts as an empty mapping. Nothing can lie
under a path with a null character. -/
def fileDocumentBy (reader : Reader) (path : String) (found : Found Bytes) :
    Except Fault Document :=
  let unloadable (reason : String) : Except Fault Document :=
    fail ("Error loading " ++ path ++ ": " ++ reason ++ ": " ++ Text.quoted path)
  if path.toList.contains '\x00' then .error (.unreported .badValue)
  else match found with
  | .nothing => fail ("Configuration file not found: " ++ path)
  | .directory => unloadable "[Errno 21] Is a directory"
  | .inaccessible reason => unloadable reason
  | .file data =>
    match reader data with
    | .ok d => .ok { d with root := d.orElse d.root (.map []) }
    | .error .malformed => fail ("Invalid YAML in " ++ path)
    | .error (.valueless mishap) => .error (.unreported mishap)

/-- The settings of the environment. -/
structure Overrides where
  port : Option String := none
  host : Option String := none
  deriving DecidableEq, Repr

/-- A section with the environment's port. -/
def overridePort (port : Option String) (pairs : List (Value × Value)) :
    Except Fault (List (Value × Value)) :=
  match port with
  | none => .ok pairs
  | some text =>
    match Numeral.readInteger? text.toList with
    | some i => .ok (Value.insert (.text "port") (.int i) pairs)
    | none => fail ("Invalid value for HAYESMODEM_PORT: " ++ Text.quoted text)

/-- A section with the environment's host. -/
def overrideHost (host : Option String) (pairs : List (Value × Value)) : List (Value × Value) :=
  match host with
  | none => pairs
  | some text => Value.insert (.text "host") (.text text) pairs

/-- A document with the settings of the environment in its section `config`. That section is made
a mapping, also if the environment has no settings; a document that is no mapping stays as it is. -/
def overridden (env : Overrides) (d : Document) : Except Fault Document :=
  match d.look d.root with
  | .map pairs => do
    let config ← unreported (d.toPairs (d.orElse (Value.getD pairs "config") (.map [])))
    let config := overrideHost env.host (← overridePort env.port config)
    return { d with root := .map (Value.insert (.text "config") (.map config) pairs) }
  | _ => .ok d

/-- The document of a file, with the settings of the environment if they are to count. -/
def documentBy (reader : Reader) (path : String) (found : Found Bytes) (env : Option Overrides) :
    Except Fault Document := do
  let d ← fileDocumentBy reader path found
  match env with
  | none => return d
  | some env => overridden env d

/-- The configuration of a file. -/
def loadBy (reader : Reader) (path : String) (found : Found Bytes) (env : Option Overrides) :
    Except Fault Configuration := do
  ofDocument (← documentBy reader path found env) (Path.directory path)

/-- The configuration of a file, as the library reads it. -/
def load : String → Found Bytes → Option Overrides → Except Fault Configuration := loadBy Yaml.read

end DialUp.Configuration
