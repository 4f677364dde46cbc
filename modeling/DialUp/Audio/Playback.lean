import DialUp.Audio.Player
import DialUp.Audio.Sounds

/-!
# Playing cues

A cue is played by queueing its file (`AudioPlayer.play`). That takes a file that exists and a
machine with audio output; without them the cue is skipped. The worker is taken to have got as far
as it can whenever something has happened.
-/

namespace DialUp.Audio

/-- What the player meets. -/
structure Playback.Surroundings where
  isFile : String → Bool
  /-- How the file under a path fares. -/
  fate : String → Player.Fate
  /-- Why the device cannot be stopped, if it cannot. -/
  stopFault : Option String := none

/-- The player of a session. -/
structure Playback where
  sounds : Sounds
  output : Output := .ready
  player : Player := {}
  around : Playback.Surroundings

namespace Playback

/-- The path of the file of a cue. -/
def resolve (p : Playback) (name : String) : Except Failure String :=
  p.sounds.resolve p.around.isFile name

/-- Something happens to the player, and the worker goes on. -/
def after (p : Playback) (events : List Player.Event) : Playback :=
  { p with player := (p.player.run events).settle p.around.fate }

/-- Notes messages to the operator. -/
def tell (p : Playback) (notices : List Notice) : Playback :=
  { p with player := notices.foldl (fun player notice => player.emit (.notice notice)) p.player }

/-- Plays a cue; the flag tells whether it was queued. -/
def play (p : Playback) (name : String) : Bool × Playback :=
  if p.player.isOver then (false, p)
  else match p.resolve name with
    | .error failure => (false, p.tell [.warning failure.text])
    | .ok path =>
      let (output, notices) := p.output.open
      let p := { p with output }.tell notices
      if output == .ready then (true, p.after [.enqueue path]) else (false, p)

/-- Drops the cues that wait and stops the current one. When the device has stopped, the file that
was played comes to its end. -/
def stop (p : Playback) : Playback :=
  p.after (Player.stopping p.around.stopFault ++ [.finish none])

/-- Ends all playing. -/
def close (p : Playback) : Playback :=
  p.after (Player.closing p.around.stopFault ++ [.finish none])

/-- Ends the playing of cues to come. -/
def cancel (p : Playback) : Playback := p.after [.cancel]

/-- The file that is played comes to its end. -/
def finish (p : Playback) : Playback := p.after [.finish none]

end Playback

end DialUp.Audio
