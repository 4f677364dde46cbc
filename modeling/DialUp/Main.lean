import DialUp.CommandLine.Run

/-!
# The program

The outer layer: it hands the command line, the environment and the configuration file to the
library and serves one client, the terminal. It has neither a network nor audio output, so every
connect is refused and no cue is played.
-/

namespace DialUp.Terminal

/-- What is printed about the command line. -/
def usage : String :=
  "usage: dialup [-h] [-c CONFIG] [-p PORT] [--host HOST] [--no-audio] [-v]"

/-- What lies under a path. -/
def lookUp (path : String) : IO (Found Bytes) := do
  try
    return .file (← IO.FS.readBinFile path).toList
  catch
    | .noFileOrDirectory .. => return .nothing
    | .inappropriateType .. => return .directory
    | e => return .inaccessible (toString e)

/-- Prints messages to the operator. -/
def printNotices (notices : List Notice) : IO Unit := do
  for notice in notices do
    let level := match notice.severity with
      | .warning => "WARNING"
      | .error => "ERROR"
    IO.eprintln (level ++ ": " ++ notice.text)

/-- Prints what a session did, and forgets it. -/
def printSession (server : Server) (number : Nat) : IO Server := do
  let output ← IO.getStdout
  for session in server.sessions[number]? do
    for effect in session.log.reverse do
      match effect with
      | .output _ data => output.write ⟨data.toArray⟩
      | .notice notice => printNotices [notice]
      | _ => pure ()
  output.flush
  return { server with sessions := server.sessions.modify number fun s => { s with log := [] } }

/-- Serves the terminal until it has nothing more to say. -/
partial def serve (server : Server) (number : Nat) : IO Unit := do
  let server ← printSession server number
  if server.reception.current == some number then
    let data ← (← IO.getStdin).read (.ofNat Server.readSize)
    if data.isEmpty then let _ ← printSession (server.hangUp number) number
    else serve (server.receive number data.toList) number

end DialUp.Terminal

open DialUp Terminal

/-- Runs the program. -/
def main (args : List String) : IO UInt32 := do
  match CommandLine.Options.parse args with
  | .error .help =>
    IO.println usage
    return 0
  | .error .misuse =>
    IO.eprintln usage
    return 2
  | .ok options =>
    let world : CommandLine.World :=
      { found := (← options.configPath.mapM lookUp).getD .nothing
        env := { port := ← IO.getEnv "HAYESMODEM_PORT", host := ← IO.getEnv "HAYESMODEM_HOST" }
        around := { network := fun _ _ => { answer := .refused "Connection refused" } } }
    match CommandLine.listen { options with noAudio := true } world with
    | .error mishap =>
      IO.eprintln ("Error: " ++ reprStr mishap)
      return 1
    | .ok (.error obstacle) =>
      IO.eprint obstacle.text
      return 1
    | .ok (.ok listening) =>
      printNotices listening.notices
      let (admission, server, notices) := listening.server.welcome "terminal" false
      printNotices notices
      match admission with
      | .admitted number => serve server number
      | .busy | .notAccepting => pure ()
      return 0
