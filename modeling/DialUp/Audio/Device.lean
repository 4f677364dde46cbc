import DialUp.Notice

/-!
# Audio devices

Sound goes to an output device, if the machine has audio output at all. That is found out when it
is needed for the first time (`load_sounddevice`).
-/

namespace DialUp

/-- An audio output device. -/
inductive AudioDevice
  | index (i : Int)
  /-- A part of the device's name. -/
  | name (s : String)
  deriving DecidableEq, Repr

namespace Audio

/-- Whether the machine has audio output. -/
inductive Output
  | ready
  | missing
  /-- Nobody has tried yet; if a try will fail, then for the given reason. -/
  | untried (fault : Option String)
  deriving DecidableEq, Repr

/-- Finds out whether there is audio output. Only the try that fails is reported. -/
def Output.open : Output → Output × List Notice
  | .ready => (.ready, [])
  | .missing => (.missing, [])
  | .untried none => (.ready, [])
  | .untried (some reason) =>
    (.missing, [.warning ("PortAudio not available, sound cues disabled: " ++ reason)])

end Audio

end DialUp
