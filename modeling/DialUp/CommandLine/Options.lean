import DialUp.Numeral.Integer

/-!
# Command line options

Options have a long name, of which a beginning suffices that no other option shares, and some a
short one. What is attached to an option follows an equal sign, which a short name at the beginning
of its argument does not need. The value of an option is attached to it or is the next argument.
Attached to a short option without a value are other short options. There are no other arguments.
-/

namespace DialUp.CommandLine

/-- The options. -/
inductive Switch
  | help
  | config
  | port
  | host
  | noAudio
  | verbose
  deriving DecidableEq, Repr

namespace Switch

/-- All options. -/
def all : List Switch := [.help, .config, .port, .host, .noAudio, .verbose]

/-- The long name, without the hyphens before it. -/
def long : Switch → String
  | .help => "help"
  | .config => "config"
  | .port => "port"
  | .host => "host"
  | .noAudio => "no-audio"
  | .verbose => "verbose"

/-- The short name, if there is one. -/
def short? : Switch → Option Char
  | .help => some 'h'
  | .config => some 'c'
  | .port => some 'p'
  | .verbose => some 'v'
  | .host | .noAudio => none

/-- Whether the option has a value. -/
def takesValue : Switch → Bool
  | .config | .port | .host => true
  | .help | .noAudio | .verbose => false

/-- The option with a short name. -/
def ofShort? (c : Char) : Option Switch := all.find? fun switch => switch.short? == some c

/-- The options whose long names begin with the given text; a full name stands for one only. -/
def matching (start : List Char) : List Switch :=
  match all.find? fun switch => switch.long.toList == start with
  | some switch => [switch]
  | none => all.filter fun switch => start.isPrefixOf switch.long.toList

end Switch

/-- What the program is told to do. -/
structure Options where
  /-- The path of the configuration, unless it was given as nothing. -/
  configPath : Option String := some "config.yaml"
  port : Option Int := none
  /-- The host if one was given, be it as nothing. -/
  host : Option (Option String) := none
  noAudio : Bool := false
  verbose : Bool := false
  deriving DecidableEq, Repr

/-- Why there is nothing to do. -/
inductive Refusal
  /-- Help was asked for. -/
  | help
  /-- The arguments break the rules. -/
  | misuse
  deriving DecidableEq, Repr

/-! ## Single arguments -/

/-- An argument by itself. -/
inductive Argument
  /-- A value or something that does not belong. -/
  | word (text : String)
  /-- The mark after which there are only words. -/
  | mark
  | option (switch : Switch) (isShort : Bool) (attached : Option (List Char))
  /-- Something that looks like an option. -/
  | unknown
  deriving DecidableEq, Repr

/-- A text split at its first equal sign. -/
def splitAtSign (cs : List Char) : List Char × Option (List Char) :=
  let name := cs.takeWhile (· != '=')
  match cs.drop name.length with
  | _ :: value => (name, some value)
  | [] => (name, none)

/-- Whether a text after its hyphen makes a negative number. -/
def isNumber (cs : List Char) : Bool :=
  let cs := if cs.getLast? == some '\n' then cs.dropLast else cs
  let isDigit (c : Char) : Bool := (Text.decimalValue? c).isSome
  let whole := cs.takeWhile isDigit
  match cs.drop whole.length with
  | [] => !whole.isEmpty
  | '.' :: digits => !digits.isEmpty && digits.all isDigit
  | _ => false

/-- What begins with a hyphen but is no option. -/
def notAnOption (cs : List Char) : Argument :=
  if isNumber (cs.drop 1) || cs.contains ' ' then .word (String.ofList cs) else .unknown

/-- An argument by its text. -/
def Argument.ofText (text : String) : Except Refusal Argument :=
  match text.toList with
  | ['-', '-'] => .ok .mark
  | '-' :: '-' :: rest =>
    let (name, value) := splitAtSign rest
    match Switch.matching name with
    | [switch] => .ok (.option switch false value)
    | [] => .ok (notAnOption text.toList)
    | _ => .error .misuse
  | '-' :: c :: rest =>
    match Switch.ofShort? c with
    | none => .ok (notAnOption text.toList)
    | some switch =>
      .ok (.option switch true (match rest with
        | [] => none
        | '=' :: attached => some attached
        | attached => some attached))
  | _ => .ok (.word text)

/-! ## All arguments -/

/-- The arguments of a command line. After the mark there are only words. -/
def arguments : List String → Except Refusal (List Argument)
  | [] => .ok []
  | text :: rest => do
    match ← Argument.ofText text with
    | .mark => return .mark :: rest.map .word
    | argument => return argument :: (← arguments rest)

/-- A value by its text. The mark stands for nothing. -/
def given (text : String) : Option String := if text == "--" then none else some text

/-- Takes an option into account. A port given as nothing may be any. -/
def Options.set (o : Options) (switch : Switch) (value : String) : Except Refusal Options :=
  match switch with
  | .help => .error .help
  | .config => .ok { o with configPath := given value }
  | .host => .ok { o with host := some (given value) }
  | .noAudio => .ok { o with noAudio := true }
  | .verbose => .ok { o with verbose := true }
  | .port =>
    match given value with
    | none => .ok { o with port := some 0 }
    | some text =>
      match Numeral.readInteger? text.toList with
      | some port => .ok { o with port := some port }
      | none => .error .misuse

/-- Takes options without value into account. -/
def Options.setAll (o : Options) (switches : List Switch) : Except Refusal Options :=
  switches.foldlM (fun o switch => o.set switch "") o

/-- What one argument says. -/
structure Reading where
  /-- The options without value that it names, in their order. -/
  plain : List Switch := []
  /-- The option at its end that has a value, with the value if it is attached. -/
  valued : Option (Switch × Option String) := none

/-- An option to which nothing is attached. -/
def Reading.alone (switch : Switch) : Reading :=
  if switch.takesValue then { valued := some (switch, none) } else { plain := [switch] }

/-- Reads a short option and what is written together with it: its value if it has one, else other
short options. -/
def readTogether (switch : Switch) : List Char → Except Refusal Reading
  | [] => .ok (.alone switch)
  | c :: rest =>
    if switch.takesValue then .ok { valued := some (switch, some (String.ofList (c :: rest))) }
    else match Switch.ofShort? c with
      | none => .error .misuse
      | some next => do
        let more ← readTogether next rest
        return { more with plain := switch :: more.plain }

/-- Reads an option and what is attached to it. -/
def readOption (switch : Switch) (isShort : Bool) :
    (attached : Option (List Char)) → Except Refusal Reading
  | none => .ok (.alone switch)
  | some text =>
    if switch.takesValue then .ok { valued := some (switch, some (String.ofList text)) }
    else if isShort && !text.isEmpty then readTogether switch text
    else .error .misuse

/-- Takes arguments into account one by one. What does not belong counts only at the end. -/
def apply (o : Options) (stray : Bool) : List Argument → Except Refusal Options
  | [] => if stray then .error .misuse else .ok o
  | .word _ :: rest | .mark :: rest | .unknown :: rest => apply o true rest
  | .option switch isShort attached :: rest => do
    let reading ← readOption switch isShort attached
    match reading.valued, rest with
    | some (valued, none), .word value :: rest =>
      apply (← (← o.setAll reading.plain).set valued value) stray rest
    | some (_, none), _ => .error .misuse
    | some (valued, some value), rest =>
      apply (← (← o.setAll reading.plain).set valued value) stray rest
    | none, rest => apply (← o.setAll reading.plain) stray rest

/-- The options of a command line. -/
def Options.parse (texts : List String) : Except Refusal Options := do
  apply {} false (← arguments texts)

end DialUp.CommandLine
