import DialUp.Proofs.Session.Chunking

/-!
# Operations as equations

What single operations of a session come to, as equations that later modules rewrite with, so that
they need not open the operations themselves.

* `write_of_refused`, `write_outcome`: a write succeeds in an open session, or fails;
* `typeByte_apply`, `handleLine_apply`: what typing a byte and answering a line come to;
* `forward_apply`: what forwarding a chunk comes to;
* `left_play`: a cue is played, and the session may be closed by then.
-/

namespace DialUp.Session

variable {s s' : Session}

/-! ## Writes -/

theorem write_of_refused {reason : String} (h : s.refusal? = some reason) (origin : Origin)
    (data : Bytes) : write origin data s =
      .error (.clientLost reason) { s with writes := s.writes + 1 } := by
  rw [write_eq, h]
  rfl

/-- A write succeeds in an open session, or fails. -/
theorem write_outcome (origin : Origin) (data : Bytes) (s : Session) :
    (s.closed = false ∧ write origin data s = .ok () (s.wrote true origin data)) ∨
      ∃ reason, write origin data s =
        .error (.clientLost reason) { s with writes := s.writes + 1 } := by
  cases h : s.refusal? with
  | some reason => exact .inr ⟨reason, write_of_refused h origin data⟩
  | none =>
    have hok : write origin data s = .ok () (s.wrote true origin data) := by rw [write_eq, h]
    exact .inl ⟨(ends_write origin data s _ _ hok).2, hok⟩

/-! ## Typing -/

theorem echoBack_apply (data : Bytes) (s : Session) :
    echoBack data s = if s.echo then write .modem data s else .ok () s := by
  show (if s.echo then write .modem data else pure () : Act) s = _
  split <;> rfl

theorem respond_apply (response : Response) (s : Session) :
    respond response s = if response = .silence then .ok () s else writeText response.text s := by
  unfold respond
  split <;> rfl

theorem handleLine_apply (line : String) (s : Session) :
    handleLine line s =
      match respond (Command.interpret line).response s with
      | .ok _ s' =>
        match (Command.interpret line).intent with
        | some intent => execute intent s'
        | none => .ok () s'
      | .error fault s' => .error fault s' := by
  refine (bind_apply (respond (Command.interpret line).response) _ s).trans ?_
  cases respond (Command.interpret line).response s with
  | error => rfl
  | ok => cases (Command.interpret line).intent <;> rfl

/-- A byte that ends a line, erases a character, adds one, or does nothing. -/
theorem typeByte_apply (byte : UInt8) (s : Session) :
    typeByte byte s =
      if byte == 0x0D || byte == 0x0A then
        if !s.typed.isEmpty then
          (do
            echoBack [0x0D, 0x0A]
            handleLine (String.ofList s.typed.reverse)) { s with typed := [] }
        else .ok () s
      else if byte == 0x08 || byte == 0x7F then
        if !s.typed.isEmpty then echoBack [0x08, 0x20, 0x08] { s with typed := s.typed.tail }
        else .ok () s
      else if 0x20 ≤ byte && byte < 0x7F then
        echoBack [byte] { s with typed := Char.ofNat byte.toNat :: s.typed }
      else .ok () s := by
  show (if _ then (if _ then _ else _) else if _ then (if _ then _ else _)
    else if _ then _ else _ : Act) s = _
  split
  · split <;> rfl
  · split
    · split <;> rfl
    · split <;> rfl

/-! ## Online data -/

theorem forward_apply (data : Bytes) (s : Session) :
    forward data s =
      if data = escapeBytes then writeText "OK\r\n" { s with mode := .command }
      else match s.current with
        | none => .error .bridgeMissing s
        | some i => .ok () (s.onBridge i (·.send s.closed data)) := by
  unfold forward
  by_cases hescape : data = escapeBytes
  · rw [if_pos hescape, if_pos (by simpa using hescape)]
    rfl
  · rw [if_neg hescape, if_neg (by simpa using hescape), get_apply]
    cases s.current <;> rfl

/-! ## Cues -/

/-- The session when a cue was asked for. -/
def cued (s : Session) (name : String) : Session :=
  { s with cues := s.cues + 1 }.emit (.cue name s.mode)

/-- The operator is told if the cue cannot be played, and nothing else happens. -/
theorem complain_apply (name : String) (s : Session) :
    complain name s = .ok () s ∨ ∃ notice, complain name s = .ok () (s.emit (.notice notice)) := by
  show (if !s.closed then _ else _ : Act) s = _ ∨ ∃ notice, (if !s.closed then _ else _ : Act) s = _
  split
  · cases s.settings.speaker.complaint? name with
    | none => exact .inl rfl
    | some notice => exact .inr ⟨notice, rfl⟩
  · exact .inl rfl

/-- A cue is played, and the session may be closed by then. -/
theorem left_play (name : String) (s : Session) :
    ∃ s', (s' = s.cued name ∨ ∃ notice, s' = (s.cued name).emit (.notice notice)) ∧
      left (play name) s = if s.around.interrupts s.cues name then s'.close else s' := by
  have hplay : left (play name) s =
      left (do
        complain name
        if s.around.interrupts s.cues name then modify close else pure ()) (s.cued name) := by
    show left (play name) s = _
    unfold play
    rw [left_get]
    rfl
  have hclose : ∀ s' : Session,
      left (if s.around.interrupts s.cues name then modify close else pure () : Act) s' =
        if s.around.interrupts s.cues name then s'.close else s' := by
    intro s'
    split <;> rfl
  rw [hplay, left_bind]
  obtain hquiet | ⟨notice, htold⟩ := complain_apply name (s.cued name)
  · rw [hquiet]
    exact ⟨_, .inl rfl, hclose _⟩
  · rw [htold]
    exact ⟨_, .inr ⟨notice, rfl⟩, hclose _⟩

end DialUp.Session
