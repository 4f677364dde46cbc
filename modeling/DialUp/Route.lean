import DialUp.Failure
import DialUp.Numeral.Integer

/-!
# Routes

A route names a remote endpoint by its host and port, written `host:port` (`RouteParser`). Blanks
around the text and around either part do not matter.
-/

namespace DialUp

/-- A remote endpoint. -/
structure Route where
  host : String
  port : Nat
  deriving DecidableEq, Repr

namespace Route

/-- The written form of a route. -/
def text (r : Route) : String := r.host ++ ":" ++ String.ofList (Numeral.decimalText r.port)

/-- Why a text is not a route. -/
inductive Fault
  /-- Not two parts with a colon between them. -/
  | shape
  | emptyHost
  | badPort (text : String)
  | portRange (port : Int)
  deriving DecidableEq, Repr

/-- The report on a text that is not a route. -/
def Fault.message : Fault → String
  | .shape => "Route must have the form host:port"
  | .emptyHost => "Route has an empty host"
  | .badPort text => "Invalid route port: " ++ Text.quoted text
  | .portRange port => "Route port out of range: " ++ Numeral.integerText port

/-- The failure that a fault in the given text amounts to. -/
def Fault.failure (fault : Fault) (text : String) : Failure :=
  { kind := .route, message := fault.message, command := some text }

/-- The two parts of a text with exactly one colon. -/
def halves? (cs : List Char) : Option (List Char × List Char) :=
  match cs.dropWhile (· != ':') with
  | _ :: rest => if rest.contains ':' then none else some (cs.takeWhile (· != ':'), rest)
  | [] => none

/-- Reads a route. -/
def parse (text : String) : Except Fault Route :=
  match halves? (Text.trim text.toList) with
  | none => .error .shape
  | some (left, right) =>
    let host := Text.trim left
    let portText := Text.trim right
    if host.isEmpty then .error .emptyHost
    else match Numeral.readInteger? portText with
      | none => .error (.badPort (String.ofList portText))
      | some port =>
        if 0 < port ∧ port < 65536 then .ok ⟨String.ofList host, port.toNat⟩
        else .error (.portRange port)

end Route

end DialUp
