import DialUp.CommandLine.Options
import DialUp.Configuration.File
import DialUp.Server.Basic

/-!
# A run of the program

The program (`main`) loads its configuration, listens until it is interrupted, and stops. It ends
with status 1 if there is no configuration or nothing to listen on.
-/

namespace DialUp.CommandLine

/-- What the program finds where it runs. -/
structure World where
  /-- What lies under the path of the configuration. -/
  found : Found Bytes
  env : Configuration.Overrides := {}
  /-- Which sound files exist. -/
  isFile : String → Bool := fun _ => false
  around : Session.Surroundings
  /-- Why the address cannot be bound, if it cannot. -/
  bindFault : Option String := none

/-- The program while it listens. -/
structure Listening where
  config : Configuration
  server : Server
  notices : List Notice

/-- Why the program does not get to listen. -/
inductive Obstacle
  | noConfiguration (failure : Failure)
  | cannotBind (config : Configuration) (server : Server) (reason : String)

/-- What is written about an obstacle. -/
def Obstacle.text : Obstacle → String
  | .noConfiguration failure => "Error: " ++ failure.text ++ "\n"
  | .cannotBind _ server reason =>
    "Error: cannot listen on port " ++ Numeral.integerText server.port ++ ": " ++ reason ++ "\n"

/-- A server under a configuration and the options. -/
def Options.serverFor (o : Options) (config : Configuration) (w : World) : Server :=
  Server.create config
    (Session.Settings.of config none none Session.usualHeldLimit (.of config w.isFile))
    w.around o.host.join o.port

/-- Loads the configuration and begins to listen. Errors without a report end the program as they
are. A path given as nothing cannot be opened, and of a host given as nothing it cannot be told
whether it is local. -/
def listen (o : Options) (w : World) : Except Document.Mishap (Except Obstacle Listening) := do
  let some path := o.configPath | throw .badKind
  match Configuration.load path w.found (some w.env) with
  | .error (.unreported mishap) => .error mishap
  | .error (.reported failure) => .ok (.error (.noConfiguration failure))
  | .ok config =>
    let config := { config with audioEnabled := config.audioEnabled && !o.noAudio }
    let server := o.serverFor config w
    match server.start w.bindFault with
    | .error reason => .ok (.error (.cannotBind config server reason))
    | .ok (server, notices) =>
      if o.host == some none then .error .shapeless else .ok (.ok { config, server, notices })

/-- What a run of the program comes to. -/
structure Outcome where
  status : Nat
  complaint : String := ""
  notices : List Notice := []
  /-- The configuration that a server was made with, and the server as it is left. -/
  left : Option (Configuration × Server) := none
  /-- The address that the program listened on. -/
  address : Option (String × Int) := none

/-- A run of the program until it is interrupted. -/
def run (o : Options) (w : World) : Except Document.Mishap Outcome := do
  match ← listen o w with
  | .error obstacle =>
    return {
      status := 1
      complaint := obstacle.text
      left := match obstacle with
        | .noConfiguration _ => none
        | .cannotBind config server _ => some (config, server) }
  | .ok l =>
    return {
      status := 0
      notices := l.notices
      left := some (l.config, l.server.stop)
      address := some l.server.address }

end DialUp.CommandLine
