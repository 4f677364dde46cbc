import DialUp.Numeral.Double
import DialUp.Text.Digit

/-!
# Dial tones

The tones of a dialed number (`play_dial_tones`): a digit has a tone and a short pause, a space or a
hyphen a longer pause, and anything else nothing; one more pause ends the sequence. The sequence is
cut short before the first character that comes up after it was cancelled.
-/

namespace DialUp

/-- The name of the cue for a digit. -/
def toneCue (digit : String) : String := "tone_" ++ digit

namespace DialTones

/-- The lengths of the pauses, in seconds. -/
structure Timing where
  toneGap : Numeral.Double := .ofQuotient false 1 10
  separatorGap : Numeral.Double := .ofQuotient false 2 10
  trailingGap : Numeral.Double := .ofQuotient false 1 1
  deriving DecidableEq, Repr

/-- One item of the sequence. -/
inductive Item
  | cue (name : String)
  | pause (seconds : Numeral.Double)
  deriving DecidableEq, Repr

/-- The items for one character. -/
def ofChar (timing : Timing) (c : Char) : List Item :=
  if Text.isDigit c then [.cue (toneCue c.toString), .pause timing.toneGap]
  else if c == ' ' || c == '-' then [.pause timing.separatorGap]
  else []

/-- The sequence for the rest of a number after `count` items, when it is cancelled by the time
`cancelAfter` items are out. -/
def playFrom (timing : Timing) (cancelAfter : Option Nat) : (count : Nat) → List Char → List Item
  | _, [] => [.pause timing.trailingGap]
  | count, c :: rest =>
    if cancelAfter.any (· ≤ count) then []
    else
      let items := ofChar timing c
      items ++ playFrom timing cancelAfter (count + items.length) rest

/-- The sequence for a number, when it is cancelled by the time `cancelAfter` items are out. -/
def play (timing : Timing) (cancelAfter : Option Nat) (number : String) : List Item :=
  playFrom timing cancelAfter 0 number.toList

end DialTones

end DialUp
