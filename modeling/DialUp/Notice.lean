/-!
# Notices

What the emulator tells its operator about the things that go wrong.
-/

namespace DialUp

/-- How serious a notice is. -/
inductive Severity
  | warning
  | error
  deriving DecidableEq, Repr

/-- A message to the operator. -/
structure Notice where
  severity : Severity
  text : String
  deriving DecidableEq, Repr

/-- A warning. -/
def Notice.warning (text : String) : Notice := ⟨.warning, text⟩

/-- An error. -/
def Notice.error (text : String) : Notice := ⟨.error, text⟩

end DialUp
