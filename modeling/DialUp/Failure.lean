import DialUp.Text.Quoted

/-!
# Failures

A failure is a fault that the emulator reports in words (`ModemError`): what kind it is, a message,
and the command or route and the response lines it concerns. Kinds form a tree under `modem`, and
`Kind.lineage` is the way up from a kind to the root.
-/

namespace DialUp

/-- The kinds of failure. -/
inductive Failure.Kind
  | modem
  | config
  | route
  | audio
  | transport
  /-- The remote end closed the connection. -/
  | remoteClosed
  /-- The client cannot be written to. -/
  | clientDisconnected
  deriving DecidableEq, Repr

/-- A kind with all kinds above it, up to `modem`. -/
def Failure.Kind.lineage : Failure.Kind → List Failure.Kind
  | .modem => [.modem]
  | .config => [.config, .modem]
  | .route => [.route, .modem]
  | .audio => [.audio, .modem]
  | .transport => [.transport, .modem]
  | .remoteClosed => [.remoteClosed, .transport, .modem]
  | .clientDisconnected => [.clientDisconnected, .transport, .modem]

/-- A fault reported in words. -/
structure Failure where
  kind : Failure.Kind
  message : String
  command : Option String := none
  response : Option (List String) := none
  deriving DecidableEq, Repr

namespace Failure

/-- Texts in a row: quoted, in square brackets. -/
def quotedList (items : List String) : String :=
  "[" ++ String.intercalate ", " (items.map Text.quoted) ++ "]"

/-- The parts of the report: the message, then the command and the response that are not empty. -/
def parts (f : Failure) : List String :=
  [f.message]
    ++ (match f.command with
      | some command => if command.isEmpty then [] else ["Command: " ++ command]
      | none => [])
    ++ (match f.response with
      | some lines => if lines.isEmpty then [] else ["Response: " ++ quotedList lines]
      | none => [])

/-- The whole report on one line. -/
def text (f : Failure) : String := String.intercalate " | " f.parts

end Failure

end DialUp
