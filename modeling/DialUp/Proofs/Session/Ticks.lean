import Mathlib.Logic.Relation
import DialUp.Proofs.Session.Account

/-!
# The small changes of a session

Everything a session does is a sequence of small changes, `Tick`, each of which keeps whatever is
true of a session at all times. An operation that stops half-way, because the client is lost, has
made some of its ticks and not the others, so what holds after every tick holds there too.

* `Ticks.keep`: what every tick keeps, any number of ticks keeps;
* `Ticks.later`: what a session is set up with stays, and closing is for good;
* `Later.delivered`: a write that failed is never made up for.

Two operations are taken apart: closing is the end of the current connection and then the mark,
and dropping a connection is its end and then the discarding of the bridge.
-/

namespace DialUp.Session

variable {s s' s'' : Session}

/-- The session after a write to the client, which succeeded or failed. -/
def wrote (s : Session) (ok : Bool) (origin : Origin) (data : Bytes) : Session :=
  if ok then { s with writes := s.writes + 1 }.emit (.output origin data)
  else { s with writes := s.writes + 1 }

/-- **One small change of a session**, with what the session has made sure of before. -/
inductive Tick (s : Session) : Session → Prop
  | note (e : Effect) (quiet : e.Quiet) : Tick s (s.emit e)
  | cue : Tick s { s with cues := s.cues + 1 }
  | write (ok : Bool) (data : Bytes) (open' : ok = true → s.closed = false) :
      Tick s (s.wrote ok .modem data)
  | type (typed : List Char) (offline : s.mode ≠ .connected) : Tick s { s with typed }
  | flags (echo verbose : Bool) : Tick s { s with echo, verbose }
  | enter (mode : Mode) (offline : mode ≠ .connected) : Tick s { s with mode }
  | online (current : s.current.isSome = true) (blank : s.typed = []) :
      Tick s { s with mode := .connected }
  /-- An operation on a bridge. -/
  | turn (i : Nat) (op : Bridge → Bridge.Turn)
      (follows : ∀ b, s.bridges[i]? = some b → (op b).Follows b) : Tick s (s.onBridge i op)
  /-- The mark of a closed session, whose connection has ended. -/
  | shut (ended : ∀ b ∈ s.bridges, b.connected = false) : Tick s { s with closed := true }
  /-- The current bridge is given up; its connection has ended. -/
  | discard (mode : Mode) (offline : mode ≠ .connected)
      (ended : ∀ i b, s.current = some i → s.bridges[i]? = some b → b.connected = false) :
      Tick s ({ s with current := none, mode }.clearHeld)
  | call (route : Route) (idle : s.current = none) :
      Tick s ({ s with connects := s.connects + 1 }.emit
        (.connect route s.settings.connectTimeout s.openLines))
  /-- A line that was cancelled while it was made. -/
  | shelve (b : Bridge) (sound : b.Sound) (ended : b.connected = false) :
      Tick s { s with bridges := s.bridges ++ [b] }
  /-- A new connection, whose reader has read from it already. -/
  | connect (b : Bridge) (t : Bridge.Turn) (idle : s.current = none) (open' : s.closed = false)
      (live : b.connected = true) (untouched : b.taken = []) (follows : t.Follows b) :
      Tick s { s with
        bridges := s.bridges ++ [t.bridge]
        current := some s.bridges.length
        queue := s.queue ++ t.signals.map (s.bridges.length, ·) }
  /-- A held chunk goes to the client. -/
  | flush (ok : Bool) {i : Nat} {chunk : Bytes} {rest : List Bytes} (current : s.current = some i)
      (held : s.held = chunk :: rest) (open' : ok = true → s.closed = false) :
      Tick s ((s.unhold chunk rest).wrote ok (.line i) chunk)
  /-- A signal of another bridge is passed over. -/
  | skip {event : Nat × Signal} {rest : List (Nat × Signal)} (queue : s.queue = event :: rest)
      (stale : s.current ≠ some event.1) : Tick s { s with queue := rest }
  /-- A chunk goes straight to the client. -/
  | relay (ok : Bool) {i : Nat} {chunk : Bytes} {rest : List (Nat × Signal)}
      (queue : s.queue = (i, .data chunk) :: rest) (current : s.current = some i)
      (held : s.Delivered → s.held = []) (open' : ok = true → s.closed = false) :
      Tick s ({ s with queue := rest }.wrote ok (.line i) chunk)
  | hold {i : Nat} {chunk : Bytes} {rest : List (Nat × Signal)}
      (queue : s.queue = (i, .data chunk) :: rest) (current : s.current = some i)
      (offline : s.mode ≠ .connected) : Tick s ({ s with queue := rest }.hold i chunk)

/-- Any number of small changes. -/
abbrev Ticks : Session → Session → Prop := Relation.ReflTransGen Tick

/-- What every tick keeps holds after any number of them. -/
theorem Ticks.keep {P : Session → Prop} (step : ∀ {s s'}, Tick s s' → P s → P s')
    (h : Ticks s s') (hs : P s) : P s' := by
  induction h with
  | refl => exact hs
  | tail _ ht ih => exact step ht ih

/-! ## What no tick changes, and which way the rest goes -/

/-- What a session is set up with stays, closing is for good, bridges are never taken away, and
every write is counted whether or not it succeeds. -/
structure Later (s s' : Session) : Prop where
  settings : s'.settings = s.settings
  around : s'.around = s.around
  closed : s.closed = true → s'.closed = true
  bridges : s.bridges.length ≤ s'.bridges.length
  writes : s'.outputs + s.writes ≤ s.outputs + s'.writes

theorem Later.refl (s : Session) : Later s s := ⟨rfl, rfl, id, Nat.le_refl _, Nat.le_refl _⟩

theorem Later.trans (h : Later s s') (h' : Later s' s'') : Later s s'' where
  settings := h'.settings.trans h.settings
  around := h'.around.trans h.around
  closed hc := h'.closed (h.closed hc)
  bridges := Nat.le_trans h.bridges h'.bridges
  writes := by
    have := h.writes
    have := h'.writes
    omega

theorem later_wrote (s : Session) (ok : Bool) (origin : Origin) (data : Bytes) :
    Later s (s.wrote ok origin data) := by
  unfold wrote
  cases ok with
  | true =>
    refine ⟨rfl, rfl, id, Nat.le_refl _, ?_⟩
    rw [if_pos rfl, outputs_emit]
    exact Nat.le_of_eq (by simp only [Effect.isOutput, if_true, outputs, emit]; omega)
  | false => exact ⟨rfl, rfl, id, Nat.le_refl _, by simp [outputs]⟩

theorem later_onBridge (s : Session) (i : Nat) (op : Bridge → Bridge.Turn) :
    Later s (s.onBridge i op) := by
  obtain ⟨-, heq⟩ | ⟨b, -, heq⟩ := onBridge_cases i op
  · rw [heq]
    exact ⟨rfl, rfl, id, Nat.le_refl _, Nat.le_refl _⟩
  · rw [heq]
    have houtputs := outputs_absorb (s := s) (i := i) (op b)
    rw [absorb_eq] at houtputs ⊢
    exact ⟨rfl, rfl, id, by simp, Nat.le_of_eq (congrArg (· + s.writes) houtputs)⟩

theorem later_hold (s : Session) (i : Nat) (chunk : Bytes) : Later s (s.hold i chunk) := by
  unfold hold
  dsimp only
  split
  · refine ⟨rfl, rfl, id, Nat.le_refl _, ?_⟩
    rw [outputs_emit, outputs_emit]
    simp [Effect.isOutput, emit, outputs]
  · exact ⟨rfl, rfl, id, Nat.le_refl _, Nat.le_refl _⟩

theorem Tick.later (h : Tick s s') : Later s s' := by
  cases h with
  | note e quiet =>
    refine ⟨rfl, rfl, id, Nat.le_refl _, ?_⟩
    rw [outputs_emit]
    cases e <;> first | exact quiet.elim | exact Nat.le_refl _
  | write ok data => exact later_wrote s ok _ data
  | turn i op => exact later_onBridge s i op
  | call route =>
    refine ⟨rfl, rfl, id, Nat.le_refl _, ?_⟩
    rw [outputs_emit]
    exact Nat.le_refl _
  | shelve b | connect b t =>
    exact ⟨rfl, rfl, id, by simp, Nat.le_refl _⟩
  | flush ok _ _ | relay ok _ _ =>
    refine Later.trans ?_ (later_wrote _ ok _ _)
    exact ⟨rfl, rfl, id, Nat.le_refl _, Nat.le_refl _⟩
  | hold _ _ _ =>
    refine Later.trans ?_ (later_hold _ _ _)
    exact ⟨rfl, rfl, id, Nat.le_refl _, Nat.le_refl _⟩
  | shut => exact ⟨rfl, rfl, fun _ => rfl, Nat.le_refl _, Nat.le_refl _⟩
  | cue | type | flags | enter | online | discard | skip =>
    exact ⟨rfl, rfl, id, Nat.le_refl _, Nat.le_refl _⟩

theorem Ticks.later (h : Ticks s s') : Later s s' := by
  induction h with
  | refl => exact .refl s
  | tail _ ht ih => exact ih.trans ht.later

/-- **A write that failed is never made up for**: where every write has succeeded, every earlier
write has. -/
theorem Later.delivered (h : Later s s') (hs : s.outputs ≤ s.writes) (hd : s'.Delivered) :
    s.Delivered := by
  have := h.writes
  unfold Delivered at hd ⊢
  omega

end DialUp.Session
