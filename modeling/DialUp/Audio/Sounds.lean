import DialUp.Failure
import DialUp.Path

/-!
# Sounds

A cue is played from a sound file (`AudioPlayer.resolve`). The file of a cue is looked up under the
cue's name; a name without an entry stands for a file of that name. Relative files lie below a base
directory.
-/

namespace DialUp.Audio

/-- The files of the cues. -/
structure Sounds where
  /-- A file for each named cue. -/
  files : List (String × String) := []
  /-- The directory that relative files lie below. -/
  basePath : String := "."
  deriving DecidableEq, Repr

namespace Sounds

/-- The file that a cue name stands for. -/
def fileOf (sounds : Sounds) (name : String) : String :=
  (sounds.files.lookup name).getD name

/-- The failure of a cue that cannot be played. -/
def failure (message : String) : Failure := { kind := .audio, message }

/-- The path of an existing file for a cue; `isFile` tells which files exist. -/
def resolve (sounds : Sounds) (isFile : String → Bool) (name : String) : Except Failure String :=
  let file := sounds.fileOf name
  if file.isEmpty then .error (failure ("No sound configured for cue: " ++ name))
  else
    let path := Path.join sounds.basePath file
    if isFile path then .ok path else .error (failure ("Audio file not found: " ++ path))

end Sounds

end DialUp.Audio
