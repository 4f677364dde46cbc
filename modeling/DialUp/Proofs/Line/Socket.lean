import DialUp.Line.Socket

/-!
# Who closed a line over a socket

A read that fails reports that its line was closed from this end or that the remote end closed it. A
socket that either end has shut down answers with an empty receive, which does not tell them apart;
the read takes it for the remote end's doing.

* `read_of_open`: what a read on an open line is answered with, and whether it leaves the line open;
* `blamesRemote_read_iff`: when a read reports that the remote end closed the line;
* `tellsApart_iff`: a read tells the two ends apart, unless this end closes the line in the middle
  of it and it then has an empty receive;
* `closes_run`: a line is closed from the first close on, and its socket is shut down and closed for
  that one only;
* `ends_told_apart`: what thus comes of any read on a line, whatever was done with it before.
-/

namespace DialUp.Line.Socket

open DialUp.Numeral (Double)

variable {s : State} {size : Int} {r : Reading}

/-! ## What ends the connection -/

/-- Whether a request ends the connection. -/
def Request.isClosing : Request → Bool
  | .shutDown | .close => true
  | .connect .. | .noDelay | .sendAll _ | .select _ | .receive _ => false

/-- The requests that end the connection, in order. -/
def closings (requests : List Request) : List Request := requests.filter Request.isClosing

theorem closings_append (before after : List Request) :
    closings (before ++ after) = closings before ++ closings after :=
  List.filter_append _ _

/-- The socket is shut down and then closed, or neither. -/
def ending (closing : Bool) : List Request := if closing then [.shutDown, .close] else []

/-- What a call does that closes the line, or does not: a closed line is left as it is, and the
socket of an open one is shut down exactly if the call closes it. -/
structure Closes {α : Type} (s : State) (o : Outcome α) (closing : Bool) : Prop where
  state : o.state = { s with closed := s.closed || closing }
  requests : closings o.requests = ending (!s.closed && closing)

theorem closes_write (data : Bytes) (refusal : Option String) :
    Closes s (write s data refusal) false := by
  obtain ⟨host, port, pollInterval, closed⟩ := s
  cases refusal <;> cases closed <;> exact ⟨rfl, rfl⟩

theorem closes_close : Closes s (close s) true := by
  obtain ⟨host, port, pollInterval, closed⟩ := s
  cases closed <;> exact ⟨rfl, rfl⟩

/-! ## What a read comes to -/

/-- What a read gets from the socket: a fault, nothing while it waits, or the bytes received. -/
def Reading.arrival (r : Reading) (size : Int) : Except String (Option Bytes) :=
  match r.selectFault with
  | some reason => .error reason
  | none => if r.idle then .ok none else (receive size r.received).map some

/-- Whether the line is closed from this end in the middle of the read. -/
def Reading.interrupted (r : Reading) : Bool :=
  r.closedMeanwhile || (r.selectFault.isNone && !r.idle && r.closedReceiving)

/-- What a read on an open line is answered with. -/
def answered (s : State) (size : Int) (r : Reading) : Except Failure Bytes :=
  match r.arrival size with
  | .error reason =>
    .error (if r.interrupted then closedFailure
      else transportFailure ("Socket read failed: " ++ reason))
  | .ok none => .ok []
  | .ok (some []) => .error (remoteFailure s)
  | .ok (some data) => .ok data

theorem read_of_closed (hclosed : s.closed = true) :
    read s size r = { result := .error closedFailure, state := s } := by
  rw [read, if_pos hclosed]

/-- **A read on an open line** is answered by what arrives. It closes the line if that is closed in
the middle of it, and then the socket is shut down. -/
theorem read_of_open (hopen : s.closed = false) :
    (read s size r).result = answered s size r ∧ Closes s (read s size r) r.interrupted := by
  obtain ⟨host, port, pollInterval, closed⟩ := s
  obtain ⟨meanwhile, selectFault, idle, receiving, received⟩ := r
  obtain rfl : closed = false := hopen
  cases selectFault with
  | some reason => cases meanwhile <;> exact ⟨rfl, rfl, rfl⟩
  | none =>
    cases idle with
    | true => cases meanwhile <;> exact ⟨rfl, rfl, rfl⟩
    | false =>
      rcases hreceive : receive size received with reason | (_ | ⟨byte, rest⟩) <;>
        cases meanwhile <;> cases receiving <;>
        simp only [read, answered, Reading.arrival, Except.map, hreceive] <;>
        exact ⟨rfl, rfl, rfl⟩

theorem closes_read (s : State) (size : Int) (r : Reading) :
    Closes s (read s size r) r.interrupted := by
  obtain ⟨host, port, pollInterval, closed⟩ := s
  cases closed with
  | true => exact ⟨rfl, rfl⟩
  | false => exact (read_of_open rfl).2

/-! ## Whom a read blames -/

/-- The read reports that the remote end closed the line. -/
def BlamesRemote (result : Except Failure Bytes) : Prop :=
  ∃ failure, result = .error failure ∧ failure.kind = .remoteClosed

theorem blamesRemote_answered_iff :
    BlamesRemote (answered s size r) ↔ r.arrival size = .ok (some []) := by
  unfold answered
  match r.arrival size with
  | .error reason =>
    refine iff_of_false ?_ nofun
    rintro ⟨failure, hresult, hkind⟩
    cases hresult
    split at hkind <;> cases hkind
  | .ok none => exact iff_of_false nofun nofun
  | .ok (some []) => exact iff_of_true ⟨remoteFailure s, rfl, rfl⟩ rfl
  | .ok (some (byte :: rest)) => exact iff_of_false nofun nofun

/-- **The remote end is blamed** exactly for an empty receive, on a line that was open when the read
began. -/
theorem blamesRemote_read_iff :
    BlamesRemote (read s size r).result ↔ s.closed = false ∧ r.arrival size = .ok (some []) := by
  cases hclosed : s.closed with
  | true =>
    rw [read_of_closed hclosed]
    refine iff_of_false ?_ nofun
    rintro ⟨failure, hresult, hkind⟩
    cases hresult
    cases hkind
  | false =>
    rw [(read_of_open hclosed).1, blamesRemote_answered_iff]
    exact (and_iff_right rfl).symm

/-- The socket answers the read with a fault or with an empty receive. -/
def Reading.EndsEmpty (r : Reading) (size : Int) : Prop :=
  (∃ reason, r.arrival size = .error reason) ∨ r.arrival size = .ok (some [])

/-- A read tells the two ends apart: it reports that the remote end closed the line only if this end
has not, and if this end has, it reports that for a fault and for an empty receive alike. -/
structure TellsApart (s : State) (size : Int) (r : Reading) : Prop where
  remote : BlamesRemote (read s size r).result → (read s size r).state.closed = false
  closed : (read s size r).state.closed = true → s.closed = true ∨ r.EndsEmpty size →
    (read s size r).result = .error closedFailure

/-- This end closes the line in the middle of the read, which then has an empty receive. -/
structure Mistaken (s : State) (size : Int) (r : Reading) : Prop where
  before : s.closed = false
  meanwhile : r.interrupted = true
  empty : r.arrival size = .ok (some [])

theorem closed_of_open (hopen : s.closed = false) :
    (read s size r).state.closed = r.interrupted := by
  rw [(closes_read s size r).state, hopen]
  rfl

/-- A fault of the socket is put down to a close in the middle of the read. -/
theorem read_of_fault (hopen : s.closed = false) (hmeanwhile : r.interrupted = true)
    {reason : String} (harrival : r.arrival size = .error reason) :
    (read s size r).result = .error closedFailure := by
  rw [(read_of_open hopen).1, answered, harrival, hmeanwhile]
  rfl

/-- **A read tells the two ends apart**, unless this end closes the line in the middle of it and it
then has an empty receive. -/
theorem tellsApart_iff : TellsApart s size r ↔ ¬ Mistaken s size r := by
  constructor
  · rintro htells ⟨hopen, hmeanwhile, hempty⟩
    have hafter := htells.remote (blamesRemote_read_iff.mpr ⟨hopen, hempty⟩)
    rw [closed_of_open hopen, hmeanwhile] at hafter
    cases hafter
  · intro hmistaken
    refine ⟨fun hblames => ?_, fun hafter hends => ?_⟩
    · obtain ⟨hopen, hempty⟩ := blamesRemote_read_iff.mp hblames
      rw [closed_of_open hopen]
      exact Bool.eq_false_iff.mpr fun hmeanwhile => hmistaken ⟨hopen, hmeanwhile, hempty⟩
    · cases hbefore : s.closed with
      | true => rw [read_of_closed hbefore]
      | false =>
        rw [closed_of_open hbefore] at hafter
        rcases hends with hclosed | ⟨reason, harrival⟩ | hempty
        · rw [hbefore] at hclosed
          cases hclosed
        · exact read_of_fault hbefore hafter harrival
        · exact absurd ⟨hbefore, hafter, hempty⟩ hmistaken

/-! ## The life of a line -/

/-- A call, whatever its answer, and then more. -/
def Outcome.andThen {α β : Type} (o : Outcome α) (next : State → Outcome β) : Outcome β where
  result := (next o.state).result
  state := (next o.state).state
  requests := o.requests ++ (next o.state).requests
  notices := o.notices ++ (next o.state).notices

/-- Only the first close of a line counts. -/
theorem Closes.andThen {α β : Type} {o : Outcome α} {next : State → Outcome β} {first later : Bool}
    (h : Closes s o first) (hnext : Closes o.state (next o.state) later) :
    Closes s (o.andThen next) (first || later) where
  state := by
    rw [Outcome.andThen, hnext.state, h.state, Bool.or_assoc]
  requests := by
    rw [Outcome.andThen, closings_append, h.requests, hnext.requests, h.state]
    cases s.closed <;> cases first <;> rfl

/-- What is done with a line from this end. -/
inductive Step
  /-- A write, with the socket's reason if it does not take the chunk. -/
  | write (data : Bytes) (refusal : Option String)
  | read (size : Int) (reading : Reading)
  | close

/-- Whether a step closes the line, unless it is closed already. -/
def Step.closes : Step → Bool
  | .write .. => false
  | .read _ reading => reading.interrupted
  | .close => true

/-- What some steps, one after the other, come to. -/
def run (s : State) : List Step → Outcome Unit
  | [] => { result := .ok (), state := s }
  | .write data refusal :: rest => (write s data refusal).andThen fun s => run s rest
  | .read size reading :: rest => (read s size reading).andThen fun s => run s rest
  | .close :: rest => (close s).andThen fun s => run s rest

/-- **A line is closed from the first close on**, and its socket is shut down for that one only. -/
theorem closes_run (s : State) (steps : List Step) :
    Closes s (run s steps) (steps.any Step.closes) := by
  induction steps generalizing s with
  | nil =>
    obtain ⟨host, port, pollInterval, closed⟩ := s
    cases closed <;> exact ⟨rfl, rfl⟩
  | cons step rest ih =>
    cases step with
    | write data refusal => exact (closes_write data refusal).andThen (ih _)
    | read size reading => exact (closes_read s size reading).andThen (ih _)
    | close => exact closes_close.andThen (ih _)

/-- A line from its connect on: it is opened, and then some steps are done. -/
def life (host : String) (port : Int) (timeout pollInterval : Double) (steps : List Step) :
    Outcome Unit :=
  (opening host port timeout pollInterval none).andThen fun s => run s steps

theorem life_eq (host : String) (port : Int) (timeout pollInterval : Double)
    (steps : List Step) :
    (life host port timeout pollInterval steps).state =
        { host, port, pollInterval, closed := steps.any Step.closes } ∧
      closings (life host port timeout pollInterval steps).requests =
        ending (steps.any Step.closes) := by
  have hrun := closes_run { host, port, pollInterval } steps
  exact ⟨hrun.state, hrun.requests⟩

/-- **Whose close a read reports.** Whatever is done with a line, it is closed exactly if this end
has closed it, and however often that was, its socket is shut down and closed once. A read reports
that the remote end closed the line exactly if this end had not when it began and it has an empty
receive, and it tells the two ends apart unless this end closes the line in between. -/
theorem ends_told_apart (host : String) (port : Int) (timeout pollInterval : Double)
    (steps : List Step) (size : Int) (r : Reading) :
    let line := life host port timeout pollInterval steps
    let closed := steps.any Step.closes
    line.state = { host, port, pollInterval, closed } ∧
    closings line.requests = (if closed then [.shutDown, .close] else []) ∧
    (BlamesRemote (read line.state size r).result ↔
      closed = false ∧ r.arrival size = .ok (some [])) ∧
    (TellsApart line.state size r ↔ ¬ Mistaken line.state size r) := by
  intro line closed
  obtain ⟨hstate, hrequests⟩ := life_eq host port timeout pollInterval steps
  refine ⟨hstate, hrequests, ?_, tellsApart_iff⟩
  rw [blamesRemote_read_iff, hstate]

/-- This end closes the line while a read waits. The wait is over at once, the receive is empty, and
the read reports that the remote end closed the line. -/
theorem own_close_blamed :
    let line := life "host" 23 (.ofQuotient false 10 1) (.ofQuotient false 1 10) []
    let r : Reading := { closedMeanwhile := true, received := .ok [] }
    ¬ TellsApart line.state 4096 r ∧ (read line.state 4096 r).state.closed = true ∧
    (read line.state 4096 r).result =
      .error {
        kind := .remoteClosed
        message := "Connection closed by " ++ endpoint "host" 23 } := by
  intro line r
  exact ⟨fun htells => tellsApart_iff.mp htells ⟨rfl, rfl, rfl⟩, rfl, rfl⟩

end DialUp.Line.Socket
