/-!
# The guard of the session slot

There is one slot for a session (`SessionGuard`). Who wants it gets it if it is free, and has to
give it back once.
-/

namespace DialUp.Server

/-- The guard of the slot. -/
structure Guard where
  held : Bool := false
  deriving DecidableEq, Repr

namespace Guard

/-- The slot is given back although nobody has it. -/
inductive Fault
  | notHeld
  deriving DecidableEq, Repr

/-- Takes the slot if it is free; the flag tells whether it was. -/
def tryAcquire (g : Guard) : Bool × Guard := (!g.held, { held := true })

/-- Gives the slot back. -/
def release (g : Guard) : Except Fault Guard :=
  if g.held then .ok { held := false } else .error .notHeld

end Guard

end DialUp.Server
