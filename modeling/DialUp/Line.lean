import DialUp.Bytes
import DialUp.Failure

/-!
# Lines

A line is an outgoing connection held in memory (`MockTransport`): the chunks written to it are
kept, and the chunks that the remote end sent wait to be read and are kept once they were. What the
remote end does is planned: it may echo what it receives and do a list of actions on each write.

* `inbound_eq_nil_of_read`: data that waits is read before a fault shows;
* `backlog_lt_of_read`: reading what waits shortens the backlog, so a line can be drained.
-/

namespace DialUp

/-- What the remote end of a line does. -/
inductive Line.Action
  /-- Send a chunk. -/
  | deliver (chunk : Bytes)
  /-- Close the connection after what was sent. -/
  | hangUp
  /-- Fail the writes from now on, or accept them again. -/
  | refuseWrites (on : Bool)
  /-- Fail the reads after what was sent. -/
  | failReads (reason : String)
  deriving DecidableEq, Repr

/-- What the remote end of a line does of its own accord. -/
structure Line.Plan where
  /-- What it does as soon as the connection comes about. -/
  onConnect : List Line.Action := []
  echoes : Bool := false
  /-- What it does on each write. -/
  replies : List (List Line.Action) := []
  deriving DecidableEq, Repr

/-- An outgoing connection held in memory. -/
structure Line where
  /-- The chunks written to the line, the first one first. -/
  written : List Bytes := []
  /-- The chunks that wait to be read, the next one first. -/
  inbound : List Bytes := []
  /-- The chunks that were read from the line, the first one first. -/
  taken : List Bytes := []
  isOpen : Bool := true
  hungUp : Bool := false
  refusesWrites : Bool := false
  readFault : Option String := none
  echoes : Bool := false
  /-- What the remote end does on each write to come. -/
  replies : List (List Line.Action) := []
  deriving DecidableEq, Repr

namespace Line

/-- Why a line cannot be read or written. -/
inductive Fault
  | closed
  | writeRefused
  | remoteClosed
  | readFailed (reason : String)
  deriving DecidableEq, Repr

/-- The report on a fault. -/
def Fault.failure : Fault → Failure
  | .closed => { kind := .transport, message := "MockTransport is closed" }
  | .writeRefused => { kind := .transport, message := "MockTransport write failure (simulated)" }
  | .remoteClosed =>
    { kind := .remoteClosed, message := "MockTransport closed by remote (simulated)" }
  | .readFailed reason => { kind := .transport, message := reason }

/-- A chunk arrives. -/
def deliver (l : Line) (chunk : Bytes) : Line := { l with inbound := l.inbound ++ [chunk] }

/-- The remote end hangs up. -/
def hangUp (l : Line) : Line := { l with hungUp := true }

/-- This end closes the line. -/
def close (l : Line) : Line := { l with isOpen := false }

/-- The remote end acts. A closed line is out of its reach. -/
def perform (l : Line) (action : Action) : Line :=
  if l.isOpen then
    match action with
    | .deliver chunk => l.deliver chunk
    | .hangUp => l.hangUp
    | .refuseWrites on => { l with refusesWrites := on }
    | .failReads reason => { l with readFault := some reason }
  else l

/-- The remote end does a list of actions. -/
def performAll (l : Line) (actions : List Action) : Line := actions.foldl perform l

/-- A line as it is when the connection comes about. -/
def started (plan : Plan) : Line :=
  performAll { echoes := plan.echoes, replies := plan.replies } plan.onConnect

/-- The remote end's answer to a chunk that was written. -/
def answer (l : Line) (data : Bytes) : Line :=
  let l := if l.echoes then l.deliver data else l
  match l.replies with
  | [] => l
  | actions :: rest => performAll { l with replies := rest } actions

/-- Writes a chunk. -/
def write (l : Line) (data : Bytes) : Except Fault Line :=
  if !l.isOpen then .error .closed
  else if l.refusesWrites then .error .writeRefused
  else .ok (answer { l with written := l.written ++ [data] } data)

/-- Reads the next chunk, cut to the given size; what is cut off stays in front of the queue. With
nothing to read, the chunk is empty. -/
def read (l : Line) (size : Int) : Except Fault (Bytes × Line) :=
  if !l.isOpen then .error .closed
  else match l.inbound with
    | chunk :: rest =>
      if size < chunk.length then
        .ok (chunk.front size,
          { l with inbound := chunk.back size :: rest, taken := l.taken ++ [chunk.front size] })
      else .ok (chunk, { l with inbound := rest, taken := l.taken ++ [chunk] })
    | [] =>
      match l.readFault with
      | some reason => .error (.readFailed reason)
      | none => if l.hungUp then .error .remoteClosed else .ok ([], l)

/-- All bytes written to the line. -/
def received (l : Line) : Bytes := l.written.flatten

/-! ## Draining a line -/

/-- A measure of what waits to be read: the bytes, and one for each chunk. -/
def backlog (l : Line) : Nat := l.inbound.flatten.length + l.inbound.length

theorem backlog_lt_of_read {l l' : Line} {chunk : Bytes} {size : Int} (hsize : 0 < size)
    (h : l.read size = .ok (chunk, l')) (hne : l.inbound ≠ []) : l'.backlog < l.backlog := by
  unfold read at h
  split at h
  · cases h
  · split at h
    · rename_i c rest hin
      split at h
      · rename_i hlt
        cases h
        simp only [backlog, hin, List.flatten_cons, List.length_append, List.length_cons,
          Bytes.back, Bytes.cutAt, List.length_drop]
        rw [if_pos (Int.le_of_lt hsize)]
        omega
      · cases h
        simp only [backlog, hin, List.flatten_cons, List.length_append, List.length_cons]
        omega
    · exact absurd ‹_› hne

/-- The most bytes read at a time. -/
def readSize : Nat := 4096

/-- What a reader gets out of a line until nothing more can be read. -/
structure Drained where
  chunks : List Bytes
  line : Line
  /-- Why reading came to an end, unless the line is only quiet. -/
  fault : Option Fault

/-- Reads until nothing more can be read. -/
def drain (l : Line) : Drained :=
  match h : l.read readSize with
  | .error fault => ⟨[], l, some fault⟩
  | .ok (chunk, l') =>
    if hne : l.inbound = [] then ⟨[], l', none⟩
    else
      have : l'.backlog < l.backlog := backlog_lt_of_read (by decide) h hne
      let rest := l'.drain
      ⟨chunk :: rest.chunks, rest.line, rest.fault⟩
termination_by l.backlog

/-- Data that waits is read before anything else: a fault comes only after it. -/
theorem inbound_eq_nil_of_read {l : Line} {size : Int} {fault : Fault} (hopen : l.isOpen = true)
    (h : l.read size = .error fault) : l.inbound = [] := by
  unfold read at h
  rw [hopen] at h
  cases hin : l.inbound with
  | nil => rfl
  | cons chunk rest =>
    simp only [Bool.not_true, hin] at h
    by_cases hlt : size < chunk.length <;> simp [hlt] at h

end Line

end DialUp
