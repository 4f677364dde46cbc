/-!
# The phonebook

Numbers are compared without the spaces and hyphens that people use to group digits
(`normalize_number`), and the first entry that matches wins (`PhonebookResolver.resolve`).
-/

namespace DialUp

/-- A number that can be dialed. -/
structure Entry where
  number : String
  /-- The remote endpoint, as `host:port`. An entry without one is always busy. -/
  route : Option String := none
  /-- A cue or a sound file played when the number is dialed. -/
  announce : Option String := none
  deriving DecidableEq, Repr, Inhabited

/-- Entries in order of precedence. -/
abbrev Phonebook := List Entry

namespace Phonebook

/-- A number without spaces and hyphens. -/
def normalize (number : String) : String :=
  String.ofList (number.toList.filter fun c => c != ' ' && c != '-')

/-- Whether an entry answers to a number. -/
def answersTo (number : String) (entry : Entry) : Bool :=
  normalize entry.number == normalize number

/-- The position of the entry that answers to a number. -/
def position? (book : Phonebook) (number : String) : Option Nat :=
  book.findIdx? (answersTo number)

/-- The entry that answers to a number. -/
def resolve (book : Phonebook) (number : String) : Option Entry :=
  book.find? (answersTo number)

end Phonebook

end DialUp
