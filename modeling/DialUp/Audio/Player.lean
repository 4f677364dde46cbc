import DialUp.Audio.Device

/-!
# The player

Sound files wait in a queue for a worker (`AudioPlayer._worker_loop`), which takes them one by one:
it decodes a file, starts it on the device and waits until it has played (`_play_file`). Stopping
the player empties the queue and begins a new generation; a file that was taken under an older one
is not started any more.

Others may queue files, stop, close and cancel the player between any two steps of the worker, and
stopping and closing are more than one step themselves (`stopping`, `closing`). So what the player
does is given by the events that happen to it, in any order. An event that cannot happen in a state
changes nothing.
-/

namespace DialUp.Audio

/-- A file that was queued. Its number is how many were queued before; nothing that the player does
depends on it, but it tells cues with the same file apart. -/
structure Cue where
  number : Nat
  path : String
  deriving DecidableEq, Repr

/-- What the worker is about. -/
inductive Task
  | idle
  /-- A file is decoded that was taken under the given generation. -/
  | decoding (cue : Cue) (generation : Nat)
  /-- A file is decoded, with its sample rate, and about to be started. -/
  | decoded (cue : Cue) (generation : Nat) (rate : Nat)
  | playing (cue : Cue)
  deriving DecidableEq, Repr

/-- What the player does to the world. -/
inductive Effect
  | decode (path : String)
  | start (path : String) (rate : Nat) (device : Option AudioDevice)
  /-- The device is stopped. -/
  | silence
  | notice (notice : Notice)
  deriving DecidableEq, Repr

/-- A player and its worker. -/
structure Player where
  device : Option AudioDevice := none
  /-- The files that wait, the next one first. -/
  queue : List Cue := []
  /-- How often the player was stopped. -/
  generation : Nat := 0
  /-- How many of these stops met a file that was played and have yet to stop the device. -/
  silencing : Nat := 0
  task : Task := .idle
  closed : Bool := false
  cancelled : Bool := false
  /-- The files that were queued so far, in order. -/
  accepted : List Cue := []
  /-- The files that the device was told to play so far, in order. -/
  started : List Cue := []
  /-- What the player did so far, the last effect first. -/
  log : List Effect := []
  deriving DecidableEq, Repr

namespace Player

/-- What happens to a player. -/
inductive Event
  /-- A file is queued. -/
  | enqueue (path : String)
  /-- What waits is dropped. -/
  | stop
  /-- The device is stopped, which may fail. -/
  | silence (fault : Option String)
  | close
  | cancel
  /-- The worker takes the next file and begins to decode it. -/
  | dequeue
  /-- Decoding ends, with the sample rate or without success. -/
  | decoded (result : Except String Nat)
  /-- The worker starts the file, which the device may refuse. -/
  | start (fault : Option String)
  /-- The device has played the file, or gives up. -/
  | finish (fault : Option String)
  deriving Repr

/-- Whether a file is being played. -/
def isPlaying (p : Player) : Bool := p.task matches .playing _

/-- Whether no more files are taken. -/
def isOver (p : Player) : Bool := p.closed || p.cancelled

/-- Notes an effect. -/
def emit (p : Player) (e : Effect) : Player := { p with log := e :: p.log }

/-- Notes a message to the operator, if there is one. -/
def tell (p : Player) (fault : Option String) (notice : String → Notice) : Player :=
  match fault with
  | some reason => p.emit (.notice (notice reason))
  | none => p

/-- Queues a file. -/
def enqueue (p : Player) (path : String) : Player :=
  let cue := { number := p.accepted.length, path }
  { p with queue := p.queue ++ [cue], accepted := p.accepted ++ [cue] }

/-- Drops what waits. If a file is played, the device has yet to be stopped. -/
def stop (p : Player) : Player :=
  { p with
    queue := []
    generation := p.generation + 1
    silencing := if p.isPlaying then p.silencing + 1 else p.silencing }

/-- Stops the device for a stop that has yet to do so. -/
def silence (p : Player) (fault : Option String) : Player :=
  match p.silencing with
  | 0 => p
  | silencing + 1 =>
    ({ p with silencing }.emit .silence).tell fault fun reason =>
      .error ("Error stopping audio: " ++ reason)

/-- The worker takes the next file. When it is over, the worker leaves and what waits is dropped. -/
def dequeue (p : Player) : Player :=
  match p.task with
  | .idle =>
    if p.isOver then p.stop
    else match p.queue with
      | [] => p
      | cue :: queue => { p with queue, task := .decoding cue p.generation }.emit (.decode cue.path)
  | _ => p

/-- Decoding ends. -/
def endDecoding (p : Player) (result : Except String Nat) : Player :=
  match p.task, result with
  | .decoding cue generation, .ok rate => { p with task := .decoded cue generation rate }
  | .decoding cue _, .error reason =>
    { p with task := .idle }.emit
      (.notice (.error ("Error reading audio file " ++ cue.path ++ ": " ++ reason)))
  | _, _ => p

/-- The worker starts a decoded file, unless the player was stopped since it was taken. -/
def start (p : Player) (fault : Option String) : Player :=
  match p.task with
  | .decoded cue generation rate =>
    if generation = p.generation then
      let told := { p with started := p.started ++ [cue] }.emit (.start cue.path rate p.device)
      match fault with
      | none => { told with task := .playing cue }
      | some reason =>
        { told with task := .idle }.emit
          (.notice (.error ("Error playing audio file " ++ cue.path ++ ": " ++ reason)))
    else { p with task := .idle }
  | _ => p

/-- The file that is played comes to its end. -/
def finish (p : Player) (fault : Option String) : Player :=
  match p.task with
  | .playing cue =>
    { p with task := .idle }.tell fault fun reason =>
      .warning ("Audio playback failed for " ++ cue.path ++ ": " ++ reason)
  | _ => p

/-- One event. -/
def step (p : Player) : Event → Player
  | .enqueue path => p.enqueue path
  | .stop => p.stop
  | .silence fault => p.silence fault
  | .close => { p with closed := true }
  | .cancel => { p with cancelled := true }
  | .dequeue => p.dequeue
  | .decoded result => p.endDecoding result
  | .start fault => p.start fault
  | .finish fault => p.finish fault

/-- Events one after the other. -/
def run (p : Player) (events : List Event) : Player := events.foldl step p

/-- The steps of stopping a player. -/
def stopping (fault : Option String) : List Event := [.stop, .silence fault]

/-- The steps of closing a player. -/
def closing (fault : Option String) : List Event := .close :: stopping fault

/-! ## The worker on its own -/

/-- How a sound file fares. -/
structure Fate where
  decoding : Except String Nat
  /-- The player is stopped while the file is decoded. -/
  stopsPlayer : Bool := false
  starting : Option String := none
  /-- Whether the file plays until it is ended from outside. -/
  endless : Bool := false
  finishing : Option String := none

/-- The worker handles the next file as far as it gets without help. -/
def handleNext (fate : String → Fate) (p : Player) : Player :=
  let p := p.dequeue
  match p.task with
  | .decoding cue _ =>
    let f := fate cue.path
    let p := if f.stopsPlayer then p.stop else p
    let p := (p.endDecoding f.decoding).start f.starting
    if f.endless then p else p.finish f.finishing
  | _ => p

/-- The worker goes on until nothing waits or a file plays on. -/
def settleWithin (fate : String → Fate) : (fuel : Nat) → Player → Player
  | 0, p => p
  | fuel + 1, p =>
    if p.isPlaying then p
    else
      let p := p.handleNext fate
      if p.queue.isEmpty then p else settleWithin fate fuel p

/-- The worker goes on until nothing waits or a file plays on: it handles at most the files that
wait. -/
def settle (fate : String → Fate) (p : Player) : Player := settleWithin fate (p.queue.length + 1) p

end Player

end DialUp.Audio
