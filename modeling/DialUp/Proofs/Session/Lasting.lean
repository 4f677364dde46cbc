import DialUp.Proofs.Session.Equations
import DialUp.Proofs.Text.Typable

/-!
# What every move keeps

Some properties of a session read no more of it than its typed line and what it was asked to do so
far: its log, its counts of cues and connects, and whether it is closed. `Lasting` says what such a
property must satisfy for a few basic changes (`Basic`), for a cue and for a connect, and then every
move keeps it.

* `Lasting.dial`, `Lasting.execute`: so does a command;
* `Lasting.move`: so does every move, but closing the session, of which nothing is assumed.
-/

namespace DialUp.Session

variable {s s' : Session} {P : Session → Prop} {α β : Type}

/-- The typed line and what was done so far are the same. -/
structure Alike (s s' : Session) : Prop where
  settings : s'.settings = s.settings
  around : s'.around = s.around
  typed : s'.typed = s.typed
  closed : s'.closed = s.closed
  connects : s'.connects = s.connects
  cues : s'.cues = s.cues
  log : s'.log = s.log

/-- What is noted without being done to anybody: messages to the operator and dropped bytes. -/
def Effect.isNote : Effect → Bool
  | .notice _ | .dropped .. => true
  | .output .. | .cue .. | .connect .. | .audioStopped | .clientClosed | .audioClosed => false

/-- A property that a few basic changes keep. -/
structure Basic (P : Session → Prop) : Prop where
  alike : ∀ {s s'}, P s → Alike s s' → P s'
  type : ∀ {s} typed, P s → (∀ c ∈ typed, c ∈ s.typed ∨ Text.isTypable c = true) →
    P { s with typed }
  note : ∀ {s} e, e.isNote = true → P s → P (s.emit e)
  /-- An open session says something. -/
  output : ∀ {s} origin data, s.closed = false → P s → P (s.emit (.output origin data))

/-- **What lasts**: a property that cues and connects keep too, during which the session may be
closed from outside. -/
structure Lasting (P : Session → Prop) : Prop extends Basic P where
  play : ∀ {s} name, P s → P (left (play name) s)
  afterConnect : ∀ {s} route, P s → P (s.afterConnect route)

/-- What both of two operations keep, one after the other keeps. -/
theorem keep_bind {a : EStateM Fault Session α} {f : α → EStateM Fault Session β}
    (ha : P (left a s)) (hf : ∀ x s', P s' → P (left (f x) s')) : P (left (a >>= f) s) := by
  rw [left_bind]
  cases hr : a s with
  | ok x s' =>
    rw [left_ok hr] at ha
    exact hf x s' ha
  | error fault s' =>
    rw [left_error hr] at ha
    exact ha

theorem keep_get {f : Session → EStateM Fault Session β} (h : P (left (f s) s)) :
    P (left (get >>= f) s) := h

/-! ## Basic operations -/

namespace Basic

variable (hP : Basic P)

include hP

theorem write (h : P s) (origin : Origin) (data : Bytes) : P (left (write origin data) s) := by
  obtain ⟨hopen, heq⟩ | ⟨reason, heq⟩ := write_outcome origin data s
  · rw [left_ok heq]
    exact hP.output (s := { s with writes := s.writes + 1 }) origin data hopen
      (hP.alike h ⟨rfl, rfl, rfl, rfl, rfl, rfl, rfl⟩)
  · rw [left_error heq]
    exact hP.alike h ⟨rfl, rfl, rfl, rfl, rfl, rfl, rfl⟩

theorem writeText (h : P s) (text : String) : P (left (writeText text) s) :=
  hP.write h .modem _

theorem tell (h : P s) (notice : Notice) : P (left (tell notice) s) :=
  hP.note (.notice notice) rfl h

theorem enter (h : P s) (mode : Mode) : P (left (enter mode) s) := by
  have entered : P { s with mode } := hP.alike h ⟨rfl, rfl, rfl, rfl, rfl, rfl, rfl⟩
  exact entered

theorem notices (h : P s) (notices : List Notice) : P (s.emitAll (notices.map .notice)) := by
  unfold emitAll
  induction notices generalizing s with
  | nil => exact h
  | cons notice rest ih => exact ih (hP.note (.notice notice) rfl h)

theorem absorb (h : P s) (i : Nat) (turn : Bridge.Turn) : P (s.absorb i turn) := by
  have taken : P { s with
      bridges := s.bridges.set i turn.bridge
      queue := s.queue ++ turn.signals.map (i, ·) } :=
    hP.alike h ⟨rfl, rfl, rfl, rfl, rfl, rfl, rfl⟩
  exact hP.notices taken turn.notices

theorem onBridge (h : P s) (i : Nat) (op : Bridge → Bridge.Turn) : P (s.onBridge i op) := by
  unfold Session.onBridge
  split
  · exact hP.absorb h i _
  · exact h

theorem endConnection (h : P s) (bridge : Option Nat) : P (s.endConnection bridge) := by
  cases bridge with
  | none => exact h
  | some i => exact hP.onBridge h i _

theorem dropConnection (h : P s) : P s.dropConnection := by
  have cleared : P ({ s with current := none }.clearHeld) :=
    hP.alike h ⟨rfl, rfl, rfl, rfl, rfl, rfl, rfl⟩
  exact hP.alike (hP.endConnection cleared s.current) ⟨rfl, rfl, rfl, rfl, rfl, rfl, rfl⟩

theorem hold (h : P s) (i : Nat) (chunk : Bytes) : P (s.hold i chunk) := by
  unfold Session.hold
  dsimp only
  split
  · exact hP.note (.notice _) rfl (hP.note (.dropped ..) rfl
      (hP.alike h ⟨rfl, rfl, rfl, rfl, rfl, rfl, rfl⟩))
  · exact hP.alike h ⟨rfl, rfl, rfl, rfl, rfl, rfl, rfl⟩

theorem adopt (h : P s) (turn : Bridge.Turn) : P (s.adopt turn) := by
  unfold Session.adopt
  split
  · have appended : P { s with bridges := s.bridges ++ [turn.bridge] } :=
      hP.alike h ⟨rfl, rfl, rfl, rfl, rfl, rfl, rfl⟩
    exact hP.absorb appended _ turn
  · exact hP.notices h _

end Basic

namespace Lasting

variable (hP : Lasting P)

include hP

/-! ## Dialing -/

theorem playItems (h : P s) (items : List DialTones.Item) : P (left (playItems items) s) := by
  induction items generalizing s with
  | nil => exact h
  | cons item rest ih =>
    refine keep_bind ?_ fun _ s' h' => ih h'
    cases item with
    | cue name => exact hP.play name h
    | pause _ => exact h

theorem playTones (h : P s) (timing : DialTones.Timing) (number : List Char) :
    P (left (playTones timing number) s) := by
  induction number generalizing s with
  | nil => exact h
  | cons c rest ih =>
    unfold Session.playTones
    refine keep_get ?_
    split
    · exact keep_bind (hP.playItems h _) fun _ s' h' => ih h'
    · exact h

theorem announce (h : P s) (entry : Entry) : P (left (announce entry) s) := by
  unfold Session.announce
  split
  · split
    · exact hP.play _ h
    · exact h
  · exact h

theorem connect (h : P s) (route : Route) : P (left (connect route) s) := by
  rw [left_connect]
  exact hP.afterConnect route h

theorem dialRoute (h : P s) (route : Route) : P (left (dialRoute route) s) := by
  unfold Session.dialRoute
  refine keep_bind (hP.connect h route) fun live s₁ h₁ => ?_
  split
  · refine keep_bind (hP.play _ h₁) fun _ s₂ h₂ => ?_
    refine keep_bind (hP.play _ h₂) fun _ s₃ h₃ => ?_
    exact keep_bind (hP.enter h₃ _) fun _ s₄ h₄ => hP.writeText h₄ _
  · refine keep_bind (hP.play _ h₁) fun _ s₂ h₂ => ?_
    refine keep_bind (hP.enter h₂ _) fun _ s₃ h₃ => ?_
    exact keep_bind (hP.writeText h₃ _) fun _ s₄ h₄ => hP.tell h₄ _

/-- What is said when a dial is over, before the session is in command mode again. -/
theorem sayEnter (h : P s) (text : String) (mode : Mode) :
    P (left (do Session.writeText text; Session.enter mode) s) :=
  keep_bind (hP.writeText h text) fun _ _ h₁ => hP.enter h₁ mode

theorem dialEntry (h : P s) (entry : Entry) : P (left (dialEntry entry) s) := by
  unfold Session.dialEntry
  refine keep_bind (hP.announce h entry) fun _ s₁ h₁ => ?_
  split
  · refine keep_bind (hP.enter h₁ _) fun _ s₂ h₂ => ?_
    exact keep_bind (hP.play _ h₂) fun _ s₃ h₃ => hP.sayEnter h₃ _ _
  · split
    · exact keep_bind (hP.tell h₁ _) fun _ s₂ h₂ => hP.sayEnter h₂ _ _
    · exact hP.dialRoute h₁ _

/-- **A dial keeps what lasts**. -/
theorem dial (h : P s) (number : String) : P (left (dial number) s) := by
  have dropped : P (if s.current.isSome then s.dropConnection else s) := by
    split
    · exact hP.dropConnection h
    · exact h
  rw [left_congr (dial_apply number s)]
  unfold dialTone
  refine keep_bind (hP.enter dropped _) fun _ s₁ h₁ => ?_
  refine keep_bind (hP.play _ h₁) fun _ s₂ h₂ => ?_
  refine keep_bind (hP.playTones h₂ _ _) fun _ s₃ h₃ => ?_
  refine keep_get ?_
  split
  · refine keep_bind (hP.tell h₃ _) fun _ s₄ h₄ => ?_
    exact keep_bind (hP.play _ h₄) fun _ s₅ h₅ => hP.sayEnter h₅ _ _
  · exact hP.dialEntry h₃ _

/-! ## Typing -/

theorem flush (h : P s) (number : Nat) (chunks : List Bytes) :
    P (left (flush number chunks) s) := by
  induction chunks generalizing s with
  | nil => exact h
  | cons chunk rest ih =>
    have taken : P (s.unhold chunk rest) := hP.alike h ⟨rfl, rfl, rfl, rfl, rfl, rfl, rfl⟩
    exact keep_bind (s := s.unhold chunk rest) (hP.write taken _ _) fun _ s₁ h₁ => ih h₁

theorem execute (h : P s) (intent : Intent) : P (left (execute intent) s) := by
  cases intent with
  | reset | hangUp => exact hP.dropConnection h
  | setEcho | setVerbose => exact hP.alike h ⟨rfl, rfl, rfl, rfl, rfl, rfl, rfl⟩
  | escape =>
    show P (if s.mode = .connected then { s with mode := .command } else s)
    split
    · exact hP.alike h ⟨rfl, rfl, rfl, rfl, rfl, rfl, rfl⟩
    · exact h
  | goOnline =>
    show P (left goOnline s)
    unfold goOnline
    refine keep_get ?_
    split
    · exact h
    · split
      · exact keep_bind (hP.enter h _) fun _ s₁ h₁ => hP.flush h₁ _ _
      · exact h
  | dial number => exact hP.dial h number
  | acknowledge => exact h

theorem echoBack (h : P s) (data : Bytes) : P (left (echoBack data) s) := by
  show P (left (if s.echo then Session.write .modem data else pure ()) s)
  split
  · exact hP.write h .modem data
  · exact h

theorem handleLine (h : P s) (line : String) : P (left (handleLine line) s) := by
  unfold Session.handleLine respond
  refine keep_bind ?_ fun _ s₁ h₁ => ?_
  · split
    · exact h
    · exact hP.writeText h _
  · split
    · exact hP.execute h₁ _
    · exact h₁

theorem typeByte (h : P s) (byte : UInt8) : P (left (typeByte byte) s) := by
  show P (left (if _ then (if _ then _ else _) else if _ then (if _ then _ else _)
    else if _ then _ else _ : Act) s)
  split
  · split
    · have cleared : P { s with typed := [] } := hP.type [] h fun c hc => nomatch hc
      exact keep_bind (s := { s with typed := [] }) (hP.echoBack cleared _)
        fun _ s₁ h₁ => hP.handleLine h₁ _
    · exact h
  · split
    · split
      · have erased : P { s with typed := s.typed.tail } :=
          hP.type _ h fun c hc => .inl (List.mem_of_mem_tail hc)
        exact hP.echoBack erased _
      · exact h
    · split
      · rename_i htypable
        refine hP.echoBack (s := { s with typed := Char.ofNat byte.toNat :: s.typed })
          (hP.type _ h fun c hc => ?_) _
        rcases List.mem_cons.mp hc with rfl | hc
        · exact .inr (Text.isTypable_of_byte htypable)
        · exact .inl hc
      · exact h

/-! ## Moves -/

theorem forward (h : P s) (data : Bytes) : P (left (forward data) s) := by
  unfold Session.forward
  split
  · exact keep_bind (hP.enter h _) fun _ s₁ h₁ => hP.writeText h₁ _
  · refine keep_get ?_
    split
    · exact h
    · exact hP.onBridge h _ _

theorem handleFirst (h : P s) (event : Nat × Signal) : P (left (handleFirst event) s) := by
  have dequeued : P { s with queue := s.queue.drop 1 } :=
    hP.alike h ⟨rfl, rfl, rfl, rfl, rfl, rfl, rfl⟩
  show P (left (handle event) { s with queue := s.queue.drop 1 })
  obtain ⟨-, heq⟩ | ⟨chunk, -, -, ⟨-, heq⟩ | ⟨-, heq⟩⟩ | ⟨-, -, ⟨-, heq⟩ | ⟨-, heq⟩⟩ :=
    handle_cases event { s with queue := s.queue.drop 1 }
  · rw [left_ok heq]
    exact dequeued
  · rw [left_congr heq]
    exact hP.write dequeued _ _
  · rw [left_ok heq]
    exact hP.hold dequeued _ _
  · rw [left_congr heq]
    have ended : P ({ s with
        queue := s.queue.drop 1, current := none, mode := .command }.clearHeld) :=
      hP.alike h ⟨rfl, rfl, rfl, rfl, rfl, rfl, rfl⟩
    exact hP.writeText ended _
  · rw [left_ok heq]
    exact hP.alike h ⟨rfl, rfl, rfl, rfl, rfl, rfl, rfl⟩

/-- **Every move keeps what lasts**, but closing the session, of which nothing is assumed. -/
theorem move (h : P s) {move : Move} (hmove : move ≠ .close) : P (left move.act s) := by
  cases move with
  | type byte => exact hP.typeByte h byte
  | forward data => exact hP.forward h data
  | handle event => exact hP.handleFirst h event
  | remote i actions => exact hP.onBridge h i _
  | close => exact absurd rfl hmove

end Lasting

end DialUp.Session
