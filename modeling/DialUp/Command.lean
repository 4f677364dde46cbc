import DialUp.Text.Blank
import DialUp.Text.Upper

/-!
# The command set

A typed line is answered by a response and, for some commands, an intent for the session to carry
out (`CommandInterpreter.parse`). The line is trimmed and put into capitals first. What follows `AT`
is looked up in a table of rules, of which the first that covers it applies; a command that no rule
covers is acknowledged. Only a line without `AT` is answered with an error.
-/

namespace DialUp

/-- What a command asks the session to do. -/
inductive Intent
  /-- Drop any connection and return to command mode. -/
  | reset
  | dial (number : String)
  | hangUp
  | setEcho (enabled : Bool)
  | setVerbose (enabled : Bool)
  /-- Leave online mode without hanging up. -/
  | escape
  /-- Return to online mode. -/
  | goOnline
  /-- Nothing more than the acknowledgement. -/
  | acknowledge
  deriving DecidableEq, Repr

/-- What a line is answered with. -/
inductive Response
  | silence
  | ok
  | error
  | connect
  /-- The emulator's name, then `OK`. -/
  | banner
  deriving DecidableEq, Repr

/-- The emulator's name and version as clients see it. -/
def bannerText : String := "DosBox Modem Emulator v1.0"

/-- The text sent to the client. -/
def Response.text : Response → String
  | .silence => ""
  | .ok => "OK\r\n"
  | .error => "ERROR\r\n"
  | .connect => "CONNECT 57600\r\n"
  | .banner => bannerText ++ "\r\nOK\r\n"

/-- The answer to one line. -/
structure Reply where
  response : Response
  intent : Option Intent := none
  deriving DecidableEq, Repr

namespace Command

/-- The three characters that leave online mode. -/
def escapeSequence : List Char := ['+', '+', '+']

/-! ## Dialed numbers -/

/-- What is dropped from a dialed number: the dial modifiers (wait, pulse, tone, pause, stay in
command mode) and the hyphens between groups. -/
def isModifier (c : Char) : Bool :=
  c == 'W' || c == 'P' || c == 'T' || c == ',' || c == ';' || c == '-'

/-- A dialed number without its modifiers. -/
def bareNumber (cs : List Char) : List Char :=
  Text.trim (cs.filter fun c => !isModifier c)

/-- The number of a dial command, given from its `D` on. -/
def dialedNumber : List Char → List Char
  | 'D' :: 'T' :: rest => bareNumber rest
  | 'D' :: 'P' :: rest => bareNumber rest
  | cs => bareNumber (cs.drop 1)

/-! ## The rules -/

/-- The rules of the command set. -/
inductive Rule
  | reset | echo | verbose | quiet | hangUp | dial | answer | identify | resultSet | register
  | factory | signals | online
  deriving DecidableEq, Repr

/-- Whether a word occurs in a text. -/
def occurs (word : List Char) : List Char → Bool
  | [] => word.isEmpty
  | c :: rest => word.isPrefixOf (c :: rest) || occurs word rest

namespace Rule

/-- All rules, the first to be tried first. -/
def table : List Rule :=
  [.reset, .echo, .verbose, .quiet, .hangUp, .dial, .answer, .identify, .resultSet, .register,
    .factory, .signals, .online]

/-- Whether the rule covers the text after `AT`. -/
def covers : Rule → List Char → Bool
  | .reset, cs => cs == ['Z'] || cs == ['Z', '0']
  | .echo, cs => cs == ['E', '0'] || cs == ['E', '1']
  | .verbose, cs => cs == ['V', '0'] || cs == ['V', '1']
  | .quiet, cs => cs == ['Q', '0'] || cs == ['Q', '1']
  | .hangUp, cs => cs == ['H'] || cs == ['H', '0']
  | .dial, cs => ['D'].isPrefixOf cs
  | .answer, cs => cs == ['A']
  | .identify, cs => ['I'].isPrefixOf cs
  | .resultSet, cs => ['X'].isPrefixOf cs
  | .register, cs => ['S'].isPrefixOf cs
  | .factory, cs => cs == ['&', 'F'] || cs == ['&', 'F', '0']
  | .signals, cs => ['&', 'D'].isPrefixOf cs || ['&', 'C'].isPrefixOf cs
  | .online, cs => cs == ['O'] || cs == ['O', '0']

/-- Whether a register command has a hang-up chained to it, as in `S0=0H0`. -/
def hangsUp (cs : List Char) : Bool :=
  occurs ['H', '0'] cs || cs.getLast? == some 'H'

/-- The answer of the rule to the text after `AT`. -/
def reply : Rule → List Char → Reply
  | .reset, _ => ⟨.ok, some .reset⟩
  | .echo, cs => ⟨.ok, some (.setEcho (cs == ['E', '1']))⟩
  | .verbose, cs => ⟨.ok, some (.setVerbose (cs == ['V', '1']))⟩
  | .quiet, _ => ⟨.ok, some .acknowledge⟩
  | .hangUp, _ => ⟨.ok, some .hangUp⟩
  | .dial, cs => ⟨.ok, some (.dial (String.ofList (dialedNumber cs)))⟩
  | .answer, _ => ⟨.ok, some .acknowledge⟩
  | .identify, _ => ⟨.banner, none⟩
  | .resultSet, _ => ⟨.ok, none⟩
  | .register, cs => ⟨.ok, if hangsUp cs then some .hangUp else none⟩
  | .factory, _ => ⟨.ok, some .reset⟩
  | .signals, _ => ⟨.ok, none⟩
  | .online, _ => ⟨.connect, some .goOnline⟩

/-- The answer to the text after `AT` when the rules are tried in the given order. -/
def lookUp (rules : List Rule) (cs : List Char) : Reply :=
  match rules.find? (·.covers cs) with
  | some rule => rule.reply cs
  | none => ⟨.ok, none⟩

end Rule

/-! ## Lines -/

/-- A line as the rules see it: trimmed and in capitals. -/
def canonical (cs : List Char) : List Char := Text.upper (Text.trim cs)

/-- The line without an escape sequence directly before `AT`. -/
def withoutEscape (cs : List Char) : List Char :=
  if (escapeSequence ++ ['A', 'T']).isPrefixOf cs then cs.drop escapeSequence.length else cs

/-- The answer to a line in canonical form. -/
def interpretCanonical (cs : List Char) : Reply :=
  if cs.isEmpty then ⟨.silence, none⟩
  else if cs == escapeSequence then ⟨.ok, some .escape⟩
  else match withoutEscape cs with
    | 'A' :: 'T' :: rest => Rule.lookUp Rule.table rest
    | _ => ⟨.error, none⟩

/-- The answer to a typed line. -/
def interpret (line : String) : Reply := interpretCanonical (canonical line.toList)

end Command

end DialUp
