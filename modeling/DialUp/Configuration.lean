import DialUp.Audio.Device
import DialUp.Numeral.Double
import DialUp.Phonebook

/-!
# The configuration

What an emulator is set up with (`ModemConfig`): where it listens, how long it waits for outgoing
connections, its phonebook and its sounds.
-/

namespace DialUp

/-- The setup of an emulator. -/
structure Configuration where
  port : Nat := 5000
  host : String := "127.0.0.1"
  /-- The deadline for outgoing connects, in seconds. -/
  connectTimeout : Numeral.Double := .ofQuotient false 10 1
  /-- Whether a client is greeted. -/
  greeting : Bool := true
  phonebook : Phonebook := []
  /-- The sound file of each named cue. -/
  sounds : List (String × String) := []
  audioEnabled : Bool := true
  audioDevice : Option AudioDevice := none
  /-- The directory that relative sound files lie below. -/
  basePath : String := "."
  deriving DecidableEq, Repr

end DialUp
