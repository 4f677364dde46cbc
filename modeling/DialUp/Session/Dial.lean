import DialUp.DialTones
import DialUp.Session.Online

/-!
# Sessions: dialing

The dial sequence (`ModemSession._dial`): the dial tone and the tones of the number, then the
phonebook decides. A number that nobody has fails, an entry without a route is busy, and any other
entry is connected to its remote endpoint. What the client is told follows the last cue.

A connect that breaks down ends the dial where it is: no cue follows, the client is told nothing,
and the mode stays as it was. Pauses between tones pass without a trace.
-/

namespace DialUp.Session

/-- Plays one item of the tones of a number. A pause passes without a trace. -/
def playItem : DialTones.Item → Act
  | .cue name => play name
  | .pause _ => pure ()

/-- Plays items of the tones of a number. -/
def playItems : List DialTones.Item → Act
  | [] => pure ()
  | item :: rest => do
    playItem item
    playItems rest

/-- Plays the tones of a number, until the session is closed. -/
def playTones (timing : DialTones.Timing) : List Char → Act
  | [] => playItem (.pause timing.trailingGap)
  | c :: rest => do
    if !(← get).closed then
      playItems (DialTones.ofChar timing c)
      playTones timing rest

/-- Takes over a bridge on which a connect was tried. A bridge that made a line is kept, and gets
the next number. -/
def adopt (s : Session) (turn : Bridge.Turn) : Session :=
  match turn.bridge.line with
  | some _ => { s with bridges := s.bridges ++ [turn.bridge] }.absorb s.bridges.length turn
  | none => s.emitAll (turn.notices.map .notice)

/-- The bridge with the given number becomes the current one. -/
def record (s : Session) (number : Nat) : Session := { s with current := some number }

/-- The session is closed from outside when the bridge with the given number is live, but not the
current one. So it is its reader that ends the connection, which finds the session cancelled. -/
def closeUnrecorded (s : Session) (number : Nat) : Session :=
  let s := s.close
  s.onBridge number (·.pump s.closed)

/-- Takes over what a connect came to, and records the bridge if the connection is live. -/
def settle (s : Session) (live : Bool) (turn : Bridge.Turn) (closesUnrecorded : Bool) : Session :=
  let number := s.bridges.length
  let s := s.adopt turn
  if live then (if closesUnrecorded then s.closeUnrecorded number else s).record number else s

/-- Connects a new bridge to an endpoint; the result tells whether the connection is live. -/
def connect (route : Route) : EStateM Fault Session Bool := do
  let s ← get
  let script := s.around.network s.connects route
  set ({ s with connects := s.connects + 1 }.emit
    (.connect route s.settings.connectTimeout s.openLines))
  modify fun s => if script.closesSession then s.close else s
  let s ← get
  let outcome := Bridge.connect s.closed {} route.text script.answer
  set (s.settle outcome.1 outcome.2 script.closesUnrecorded)
  match outcome.2.raised with
  | some breakdown => throw (.broken breakdown)
  | none => return outcome.1

/-- Dials an entry's endpoint. -/
def dialRoute (route : Route) : Act := do
  if ← connect route then
    play "modem_noise"
    play "connect_success"
    enter .connected
    writeText Response.connect.text
  else
    play "connect_failed"
    enter .command
    noCarrier
    tell (.warning ("Connection to " ++ route.text ++ " failed"))

/-- Plays the announcement of an entry, if it has one. -/
def announce (entry : Entry) : Act := do
  match entry.announce with
  | some name => if !name.isEmpty then play name
  | none => pure ()

/-- Dials an entry of the phonebook. -/
def dialEntry (entry : Entry) : Act := do
  announce entry
  match entry.route.filter (!·.isEmpty) with
  | none =>
    enter .busy
    play "busy"
    writeText "BUSY\r\n"
    enter .command
  | some text =>
    match Route.parse text with
    | .error fault =>
      tell (.warning ("Invalid route_to format: " ++ (fault.failure text).text))
      noCarrier
      enter .command
    | .ok route => dialRoute route

/-- Dials a number. A connection that there was is dropped first. -/
def dial (number : String) : Act := do
  modify fun s => if s.current.isSome then s.dropConnection else s
  enter .dialing
  play "dialtone"
  playTones {} number.toList
  match (← get).settings.phonebook.resolve (Phonebook.normalize number) with
  | none =>
    tell (.warning ("Number not found in phonebook: " ++ number))
    play "connect_failed"
    noCarrier
    enter .command
  | some entry => dialEntry entry

end DialUp.Session
