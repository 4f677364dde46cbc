import DialUp.Configuration
import DialUp.Document.Conversion
import DialUp.Failure
import DialUp.Text.Blank

/-!
# Configurations from documents

A configuration is read from a mapping (`ModemConfig.from_dict`) with the sections `config`,
`phonebook`, `sounds` and `audio`, each of which may be missing or empty. What is wrong with a
document is reported as a configuration failure; a few errors have no report of their own.
-/

namespace DialUp

open Document (Value Mishap)

namespace Configuration

/-- Why there is no configuration. -/
inductive Fault
  | reported (failure : Failure)
  | unreported (mishap : Mishap)
  deriving DecidableEq, Repr

/-- A reported fault. -/
def fault (message : String) : Fault := .reported { kind := .config, message }

/-- Fails with a report. -/
def fail {α : Type} (message : String) : Except Fault α := .error (fault message)

/-- What a conversion gives; its errors have no report. -/
def unreported {α : Type} : Except Mishap α → Except Fault α
  | .ok a => .ok a
  | .error mishap => .error (.unreported mishap)

/-- A section of the document, whose root has the given pairs. -/
def sectionOf (d : Document) (root : List (Value × Value)) (name : String) :
    Except Fault (List (Value × Value)) :=
  match d.look (d.orElse (Value.getD root name) (.map [])) with
  | .map pairs => .ok pairs
  | _ => fail ("Section '" ++ name ++ "' must be a mapping")

/-- What a conversion of a value to a number gives. Numbers too large for the conversion have no
report. -/
def converted {α : Type} (d : Document) (name : String) (v : Value) :
    Except Mishap α → Except Fault α
  | .ok a => .ok a
  | .error .tooLarge => .error (.unreported .tooLarge)
  | .error _ => do fail ("Invalid " ++ name ++ ": " ++ (← unreported (d.written v)))

/-- The port to listen on. -/
def portOf (d : Document) (v : Value) : Except Fault Nat := do
  let port ← converted d "port" v v.toInt
  if 0 < port ∧ port < 65536 then return port.toNat
  else fail ("Port out of range: " ++ (← unreported (d.written (.int port))))

/-- A number of seconds that is not zero or below. -/
def positiveOf (d : Document) (name : String) (v : Value) : Except Fault Numeral.Double := do
  let x ← converted d name v v.toDouble
  if x.nonpositive then fail (name ++ " must be positive, got " ++ Numeral.doubleText x)
  else return x

/-- An optional text: null and blank texts count as none. -/
def optionalText (d : Document) (v : Value) : Except Fault (Option String) :=
  match v with
  | .null => .ok none
  | v => do
    let text := Text.trimmed (← unreported (d.plain v))
    return if text.isEmpty then none else some text

/-- One entry of the phonebook. -/
def entryOf (d : Document) (index : Nat) (v : Value) : Except Fault Entry :=
  let name := "Phonebook entry " ++ Numeral.integerText index
  match d.look v with
  | .map pairs => do
    match ← optionalText d (Value.getD pairs "number") with
    | none => fail (name ++ " has no number")
    | some number =>
      let route ← optionalText d (Value.getD pairs "route_to")
      let announce ← optionalText d (Value.getD pairs "play")
      return { number, route, announce }
  | _ => fail (name ++ " must be a mapping")

/-- The entries of the phonebook, counted from `index`. -/
def entriesOf (d : Document) : (index : Nat) → List Value → Except Fault (List Entry)
  | _, [] => .ok []
  | index, v :: rest => do
    let entry ← entryOf d index v
    return entry :: (← entriesOf d (index + 1) rest)

/-- The phonebook. -/
def phonebookOf (d : Document) (v : Value) : Except Fault Phonebook :=
  match d.look (d.orElse v (.list [])) with
  | .list items => entriesOf d 0 items
  | _ => fail "Section 'phonebook' must be a list"

/-- Gives a cue its file. A cue that is there keeps its place. -/
def setSound (name path : String) : List (String × String) → List (String × String)
  | [] => [(name, path)]
  | (n, p) :: rest => if n == name then (n, path) :: rest else (n, p) :: setSound name path rest

/-- Gives a cue the file that a pair names. A pair without one is left out. -/
def addSound (d : Document) (sounds : List (String × String)) (pair : Value × Value) :
    Except Fault (List (String × String)) :=
  if d.isTruthy pair.2 then do
    let name ← unreported (d.plain pair.1)
    let path ← unreported (d.plain pair.2)
    return setSound name path sounds
  else return sounds

/-- The sound files. Cues without one are left out, and cues of any name are kept. -/
def soundsOf (d : Document) (pairs : List (Value × Value)) :
    Except Fault (List (String × String)) :=
  pairs.foldlM (addSound d) []

/-- The audio device. -/
def deviceOf : Value → Except Fault (Option AudioDevice)
  | .null => .ok none
  | .int i => .ok (some (.index i))
  | .text s => .ok (some (.name s))
  | _ => fail "audio.device must be a device index or name"

/-- Reads a configuration from a document. -/
def ofDocument (d : Document) (basePath : String) : Except Fault Configuration :=
  match d.look d.root with
  | .map root => do
    let config ← sectionOf d root "config"
    let audio ← sectionOf d root "audio"
    let setting (key : String) (default : Value) : Value := (Value.get? config key).getD default
    let port ← portOf d (setting "port" (.int 5000))
    let host ← unreported (d.plain (setting "host" (.text "127.0.0.1")))
    let connectTimeout ← positiveOf d "connect_timeout" (setting "connect_timeout" (.int 10))
    let greeting := d.isTruthy (setting "greeting" (.bool true))
    let phonebook ← phonebookOf d (Value.getD root "phonebook")
    let sounds ← soundsOf d (← sectionOf d root "sounds")
    let audioEnabled := d.isTruthy ((Value.get? audio "enabled").getD (.bool true))
    let audioDevice ← deviceOf (Value.getD audio "device")
    return { port, host, connectTimeout, greeting, phonebook, sounds, audioEnabled, audioDevice
             basePath }
  | _ => fail "Configuration root must be a mapping"

end Configuration

end DialUp
