import DialUp.Yaml.Cursor

/-!
# Tags

The tag of a node says what kind of value it stands for. A plain scalar without a tag gets one by
the form of its text: it is tried as a truth value, a float, a whole number, a merge key, null, a
point in time and the value key, and is a text otherwise.
-/

namespace DialUp.Yaml

/-- The kinds of values. -/
inductive Tag
  | null | bool | int | float | binary | timestamp | omap | pairs | set | str | seq | map
  /-- The key that merges other mappings into a mapping. -/
  | merge
  /-- The key that gives a mapping a value of its own. -/
  | value
  /-- No kind that there are values of. -/
  | unknown
  deriving DecidableEq, Repr, Inhabited

namespace Tag

/-- What the names of the known tags begin with. -/
def start : String := "tag:yaml.org,2002:"

/-- The tag with a full name. -/
def ofName (name : String) : Tag :=
  if start.toList.isPrefixOf name.toList then
    match String.ofList (name.toList.drop start.length) with
    | "null" => .null
    | "bool" => .bool
    | "int" => .int
    | "float" => .float
    | "binary" => .binary
    | "timestamp" => .timestamp
    | "omap" => .omap
    | "pairs" => .pairs
    | "set" => .set
    | "str" => .str
    | "seq" => .seq
    | "map" => .map
    | "merge" => .merge
    | "value" => .value
    | _ => .unknown
  else .unknown

end Tag

/-! ## The form of plain scalars -/

namespace Form

/-- The text after an optional sign. -/
def unsigned : List Char → List Char
  | '-' :: rest => rest
  | '+' :: rest => rest
  | cs => cs

/-- An ASCII digit or an underscore. -/
def isDigitMark (c : Char) : Bool := c.isDigit || c == '_'

/-- The words for truth values. -/
def truthWords : List String :=
  ["yes", "Yes", "YES", "no", "No", "NO", "true", "True", "TRUE", "false", "False", "FALSE",
    "on", "On", "ON", "off", "Off", "OFF"]

/-- The words for null. -/
def nullWords : List String := ["~", "null", "Null", "NULL"]

/-- An exponent with its sign, or nothing. -/
def isExponent : List Char → Bool
  | [] => true
  | e :: sign :: digits =>
    (e == 'e' || e == 'E') && (sign == '-' || sign == '+') && !digits.isEmpty
      && digits.all Char.isDigit
  | _ => false

/-- Parts of a number to the base sixty, each after a colon, and what follows them. There must be
one at least. -/
def sixties? : (fuel : Nat) → List Char → Option (List Char)
  | 0, _ => none
  | fuel + 1, ':' :: rest =>
    let digits := rest.takeWhile Char.isDigit
    let after := rest.drop digits.length
    let fits := digits.length == 1 || (digits.length == 2 && digits.head?.any (· < '6'))
    if !fits then none
    else match after with
      | ':' :: _ => sixties? fuel after
      | after => some after
  | _, _ => none

/-- Whether a text has the form of a float: with a point, and with a sign in its exponent. -/
def isFloat (cs : List Char) : Bool :=
  let body := unsigned cs
  let whole := body.takeWhile isDigitMark
  let after := body.drop whole.length
  let signless := body.length == cs.length
  let word := String.ofList body
  if word == ".inf" || word == ".Inf" || word == ".INF" then true
  else if signless && (word == ".nan" || word == ".NaN" || word == ".NAN") then true
  else match whole, after with
    | d :: _, '.' :: rest => d.isDigit && isExponent (rest.dropWhile isDigitMark)
    | d :: _, ':' :: _ =>
      d.isDigit && match sixties? body.length after with
        | some ('.' :: rest) => rest.all isDigitMark
        | _ => false
    | [], '.' :: d :: rest => signless && d.isDigit && isExponent (rest.dropWhile isDigitMark)
    | _, _ => false

/-- Whether a text has the form of a whole number: binary, octal, decimal, hexadecimal or to the
base sixty. -/
def isInt (cs : List Char) : Bool :=
  match unsigned cs with
  | '0' :: 'b' :: rest => !rest.isEmpty && rest.all fun c => c == '0' || c == '1' || c == '_'
  | '0' :: 'x' :: rest => !rest.isEmpty && rest.all fun c => isHex c || c == '_'
  | '0' :: rest => rest.all fun c => ('0' ≤ c && c ≤ '7') || c == '_'
  | d :: rest =>
    if !d.isDigit then false
    else match rest.dropWhile isDigitMark with
      | [] => true
      | ':' :: more => sixties? rest.length (':' :: more) == some []
      | _ => false
  | [] => false

/-- Splits a run of digits, of one of the given lengths, off a text. The longest fits. -/
def digits? (least most : Nat) (cs : List Char) : Option (List Char × List Char) :=
  let ds := (cs.take most).takeWhile Char.isDigit
  if ds.length < least then none else some (ds, cs.drop ds.length)

/-- The text after a given character. -/
def after? (c : Char) : List Char → Option (List Char)
  | d :: rest => if d == c then some rest else none
  | [] => none

/-- The parts of a point in time, as digits. -/
structure TimeText where
  year : List Char
  month : List Char
  day : List Char
  /-- Hour, minute and second. -/
  time : Option (List Char × List Char × List Char) := none
  fraction : List Char := []
  /-- The offset from universal time: its sign, hours and minutes, or that there is none. -/
  offset : Option (Option (Bool × List Char × List Char)) := none

/-- The text after blanks. -/
def afterBlanks (cs : List Char) : List Char := cs.dropWhile fun c => c == ' ' || c == '\t'

/-- The offset at the end of a point in time. -/
def offset? (cs : List Char) : Option (Option (Option (Bool × List Char × List Char))) :=
  if cs.isEmpty then some none
  else match afterBlanks cs with
    | ['Z'] => some (some none)
    | sign :: rest =>
      if sign == '-' || sign == '+' then do
        let (hours, rest) ← digits? 1 2 rest
        match rest with
        | [] => some (some (some (sign == '-', hours, [])))
        | ':' :: rest =>
          let (minutes, rest) ← digits? 2 2 rest
          if rest.isEmpty then some (some (some (sign == '-', hours, minutes))) else none
        | _ => none
      else none
    | [] => none

/-- The parts of a point in time. -/
def time? (cs : List Char) : Option TimeText := do
  let (year, rest) ← digits? 4 4 cs
  let (month, rest) ← digits? 1 2 (← after? '-' rest)
  let (day, rest) ← digits? 1 2 (← after? '-' rest)
  match rest with
  | [] => some { year, month, day }
  | c :: more =>
    let rest := if c == 'T' || c == 't' then more else afterBlanks rest
    if rest.length == more.length + 1 then none
    else
      let (hour, rest) ← digits? 1 2 rest
      let (minute, rest) ← digits? 2 2 (← after? ':' rest)
      let (second, rest) ← digits? 2 2 (← after? ':' rest)
      let (fraction, rest) := match rest with
        | '.' :: rest => (rest.takeWhile Char.isDigit, rest.dropWhile Char.isDigit)
        | rest => ([], rest)
      let offset ← offset? rest
      some { year, month, day, time := some (hour, minute, second), fraction, offset }

/-- Whether a text has the form of a point in time. A date alone needs all its digits. -/
def isTime (cs : List Char) : Bool :=
  match time? cs with
  | some t => t.time.isSome || (t.month.length == 2 && t.day.length == 2)
  | none => false

/-- The text without one line feed at its end. -/
def withoutLastBreak (cs : List Char) : List Char :=
  if cs.getLast? == some '\n' then cs.dropLast else cs

/-- The tag of a plain scalar by the form of its text. -/
def tagOf (text : String) : Tag :=
  let cs := withoutLastBreak text.toList
  let word := String.ofList cs
  if truthWords.contains word then .bool
  else if isFloat cs then .float
  else if isInt cs then .int
  else if word == "<<" then .merge
  else if text.isEmpty || nullWords.contains word then .null
  else if isTime cs then .timestamp
  else if word == "=" then .value
  else if word == "!" || word == "&" || word == "*" then .unknown
  else .str

end Form

end DialUp.Yaml
