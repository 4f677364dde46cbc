import DialUp.Proofs.Session.Forwarding
import DialUp.Proofs.Session.Record
import DialUp.Proofs.Session.Representation
import DialUp.Proofs.Session.Undelivered

/-!
# Closing a session is final

A session can be closed between its moves, and from outside during a cue or a connect, in the
middle of a dial. The dial goes on, but can tell the client nothing any more.

* `ends_dial`: a dial that does not raise has left the session open;
* `CutShort`: what a dial raises that was cut short;
* `Moment.closes`: so only a call of `close` and a dial that raises can close a session;
* `Dormant.move`, `Moment.sent_of_closed`: a closed session does nothing but take notes.
-/

namespace DialUp.Session

variable {s s' s'' p : Session} {i : Nat} {made : List Moment} {m : Moment} {α β : Type}

/-! ## A dial that is cut short raises -/

/-- Nothing need be known of what comes first. -/
theorem ends_after {a : EStateM Fault Session α} {f : α → EStateM Fault Session β}
    {Q : β → Session → Prop} (hf : ∀ x s', Ends (f x) s' Q) : Ends (a >>= f) s Q :=
  ends_bind (P := fun _ _ => True) (fun _ _ _ => trivial) fun x s' _ => hf x s'

theorem ends_writeText (text : String) (s : Session) :
    Ends (writeText text) s fun _ s' => s'.closed = false :=
  fun x s' heq => (ends_write .modem _ s x s' heq).2

theorem ends_sayEnter (text : String) (mode : Mode) (s : Session) :
    Ends (do writeText text; enter mode) s fun _ s' => s'.closed = false :=
  ends_bind (ends_writeText text s) fun _ _ hopen => ends_left hopen

theorem ends_dialRoute (route : Route) (s : Session) :
    Ends (dialRoute route) s fun _ s' => s'.closed = false := by
  unfold dialRoute
  refine ends_after fun live s₁ => ?_
  split
  · exact ends_after fun _ _ => ends_after fun _ _ => ends_after fun _ s₄ => ends_writeText _ s₄
  · refine ends_after fun _ _ => ends_after fun _ s₃ => ?_
    exact ends_bind (ends_writeText _ s₃) fun _ _ hopen => ends_left hopen

theorem ends_dialEntry (entry : Entry) (s : Session) :
    Ends (dialEntry entry) s fun _ s' => s'.closed = false := by
  unfold dialEntry
  refine ends_after fun _ s₁ => ?_
  split
  · exact ends_after fun _ _ => ends_after fun _ s₃ => ends_sayEnter _ _ s₃
  · split
    · exact ends_after fun _ s₂ => ends_sayEnter _ _ s₂
    · exact ends_dialRoute _ s₁

/-- **A dial that does not raise has left the session open**, since it ends with a result code. -/
theorem ends_dial (number : String) (s : Session) :
    Ends (dial number) s fun _ s' => s'.closed = false := by
  unfold dial
  refine ends_after fun _ _ => ends_after fun _ _ => ends_after fun _ _ => ends_after fun _ s₄ => ?_
  refine ends_get ?_
  split
  · exact ends_after fun _ _ => ends_after fun _ s₆ => ends_sayEnter _ _ s₆
  · exact ends_dialEntry _ s₄

/-! ## Which moves close a session -/

theorem closed_dropConnection (s : Session) : s.dropConnection.closed = s.closed := by
  obtain ⟨_, _, heq⟩ := dropConnection_kept s
  rw [heq]

theorem closed_execute {intent : Intent} (h : ∀ number, intent ≠ .dial number) (s : Session) :
    (left (execute intent) s).closed = s.closed := by
  cases intent with
  | reset | hangUp => exact closed_dropConnection s
  | setEcho | setVerbose | acknowledge => rfl
  | escape =>
    show (if s.mode = .connected then { s with mode := .command } else s).closed = s.closed
    split <;> rfl
  | goOnline =>
    obtain ⟨_, _, _, _, _, heq, -⟩ := left_goOnline s
    rw [execute, heq]
  | dial number => exact absurd rfl (h number)

theorem closed_forward (data : Bytes) (s : Session) :
    (left (forward data) s).closed = s.closed := by
  obtain ⟨-, ok, heq⟩ | ⟨-, ⟨-, heq⟩ | ⟨j, -, heq⟩⟩ := left_forward data s
  · rw [heq]
    cases ok <;> rfl
  · rw [heq]
  · obtain ⟨_, _, _, hkept⟩ := onBridge_kept s j (·.send s.closed data)
    rw [heq, hkept]

theorem closed_handle (event : Nat × Signal) (s : Session) :
    (left (handle event) s).closed = s.closed := by
  obtain ⟨-, heq⟩ | ⟨chunk, -, -, ⟨ok, heq⟩ | heq⟩ | ⟨-, -, ⟨ok, heq⟩ | heq⟩ := left_handle event s
  · rw [heq]
  · rw [heq]
    cases ok <;> rfl
  · obtain ⟨_, _, _, hkept⟩ := hold_kept s event.1 chunk
    rw [heq, hkept]
  · rw [heq]
    cases ok <;> rfl
  · rw [heq]
    rfl

/-- What a dial raises that was cut short: the client is lost, or the connect broke down. -/
def CutShort (s : Session) (fault : Fault) : Prop :=
  (∃ reason, fault = .clientLost reason) ∨
    ∃ b, fault = .broken b ∧ s.lastAnswer? = some (.broken b)

/-- A byte during which the session is closed completes a dial, which raises. -/
theorem typeByte_of_closes (hs : s.Sound) (hoff : s.mode ≠ .connected) {byte : UInt8}
    (hopen : s.closed = false) (hclosed : (left (typeByte byte) s).closed = true) :
    ∃ number fault, s.intent? byte = some (.dial number) ∧
      typeByte byte s = .error fault (left (typeByte byte) s) ∧
      CutShort (left (typeByte byte) s) fault := by
  obtain ⟨htalked, -⟩ | ⟨intent, s₁, hintent, htalked, happly⟩ := typeByte_cases byte s
  · rw [htalked.closed, hopen] at hclosed
    cases hclosed
  · -- Of what a command can do, only the cues and the connect of a dial can be interrupted.
    rw [left_congr happly] at hclosed
    have hdial : ∃ number, intent = .dial number := by
      by_contra hother
      rw [closed_execute (fun number h => hother ⟨number, h⟩), htalked.closed, hopen] at hclosed
      cases hclosed
    obtain ⟨number, rfl⟩ := hdial
    cases hr : typeByte byte s with
    | ok x s' =>
      have hdial := happly.symm.trans hr
      rw [left_ok hdial, ends_dial number s₁ x s' hdial] at hclosed
      cases hclosed
    | error fault s' =>
      rw [left_error hr]
      refine ⟨number, fault, hintent, rfl, ?_⟩
      exact ((goes_typeByte hs hoff byte).fault hr).imp_right
        fun ⟨b, hfault, hbroken⟩ => ⟨b, hfault, hbroken.2.answer⟩

/-- **A move during which the session is closed** is a call of `close`, or a dial that raises. -/
theorem Moment.closes (hs : m.state.Steady) (hpossible : m.move.Possible m.state)
    (hopen : m.state.closed = false) (hclosed : m.next.closed = true) (hmove : m.move ≠ .close) :
    ∃ byte number fault, m.move = .type byte ∧ m.state.intent? byte = some (.dial number) ∧
      typeByte byte m.state = .error fault m.next ∧ CutShort m.next fault := by
  obtain ⟨s, move⟩ := m
  cases move with
  | type byte =>
    obtain ⟨number, fault, hintent, heq, hshort⟩ :=
      typeByte_of_closes hs.sound hpossible hopen hclosed
    exact ⟨byte, number, fault, rfl, hintent, heq, hshort⟩
  | forward data => exact nomatch (hclosed.symm.trans (closed_forward data s)).trans hopen
  | handle event =>
    have hkept := closed_handle event { s with queue := s.queue.drop 1 }
    exact nomatch (hclosed.symm.trans hkept).trans hopen
  | remote j actions =>
    obtain ⟨_, _, _, hkept⟩ := onBridge_kept s j (·.act s.closed actions)
    have hnext : (left (Move.remote j actions).act s).closed = s.closed := by
      show (s.onBridge j _).closed = s.closed
      rw [hkept]
    exact nomatch (hclosed.symm.trans hnext).trans hopen
  | close => exact absurd rfl hmove

/-! ## What a closed session does -/

/-- **Nothing was done but taking notes**. -/
structure Dormant (s s' : Session) : Prop where
  closed : s'.closed = s.closed
  echo : s'.echo = s.echo
  verbose : s'.verbose = s.verbose
  log : ∃ notes : List Effect, s'.log = notes ++ s.log ∧ ∀ e ∈ notes, e.isNote = true

theorem Dormant.of_kept (hclosed : s'.closed = s.closed) (hecho : s'.echo = s.echo)
    (hverbose : s'.verbose = s.verbose) (hlog : s'.log = s.log) : Dormant s s' :=
  ⟨hclosed, hecho, hverbose, [], hlog, by simp⟩

theorem Dormant.refl (s : Session) : Dormant s s := .of_kept rfl rfl rfl rfl

theorem Dormant.trans (h : Dormant s s') (h' : Dormant s' s'') : Dormant s s'' := by
  obtain ⟨notes, hlog, hnotes⟩ := h.log
  obtain ⟨more, hlog', hmore⟩ := h'.log
  refine ⟨h'.closed.trans h.closed, h'.echo.trans h.echo, h'.verbose.trans h.verbose,
    more ++ notes, by rw [hlog', hlog, List.append_assoc], ?_⟩
  intro e he
  rcases List.mem_append.mp he with he | he
  · exact hmore e he
  · exact hnotes e he

theorem dormant_onBridge (s : Session) (j : Nat) (op : Bridge → Bridge.Turn) :
    Dormant s (s.onBridge j op) := by
  obtain ⟨-, heq⟩ | ⟨b, -, heq⟩ := onBridge_cases (s := s) j op
  · rw [heq]
    exact .refl s
  · rw [heq, absorb_eq]
    refine ⟨rfl, rfl, rfl, _, rfl, ?_⟩
    simp [Effect.isNote]

theorem dormant_hold (s : Session) (j : Nat) (chunk : Bytes) : Dormant s (s.hold j chunk) := by
  unfold hold
  dsimp only
  split
  · exact ⟨rfl, rfl, rfl, [_, _], rfl, by simp [Effect.isNote]⟩
  · exact .of_kept rfl rfl rfl rfl

theorem refusal?_of_closed (h : s.closed = true) : s.refusal? = some "client closed" := by
  rw [refusal?, if_pos h]

/-- A closed session writes nothing to its client. -/
theorem dormant_write (h : s.closed = true) (origin : Origin) (data : Bytes) :
    Dormant s (left (write origin data) s) := by
  rw [left_error (write_of_refused (refusal?_of_closed h) origin data)]
  exact .of_kept rfl rfl rfl rfl

theorem dormant_typeByte (h : s.closed = true) (byte : UInt8) :
    Dormant s (left (typeByte byte) s) := by
  obtain ⟨typed, heq | heq⟩ := muted_typeByte (refusal?_of_closed h) byte
  · rw [left_ok heq]
    exact .of_kept rfl rfl rfl rfl
  · rw [left_error heq]
    exact .of_kept rfl rfl rfl rfl

theorem dormant_forward (h : s.closed = true) (data : Bytes) :
    Dormant s (left (forward data) s) := by
  have happly := forward_apply data s
  split at happly
  · have escaped : Dormant s { s with mode := .command } := .of_kept rfl rfl rfl rfl
    rw [left_congr happly]
    exact escaped.trans (dormant_write (s := { s with mode := .command }) h .modem _)
  · split at happly
    · rw [left_error happly]
      exact .refl s
    · rw [left_ok happly]
      exact dormant_onBridge s _ _

theorem dormant_handle (h : s.closed = true) (event : Nat × Signal) :
    Dormant s (left (handle event) s) := by
  obtain ⟨-, heq⟩ | ⟨chunk, -, -, ⟨-, heq⟩ | ⟨-, heq⟩⟩ | ⟨-, -, ⟨-, heq⟩ | ⟨-, heq⟩⟩ :=
    handle_cases event s
  · rw [left_ok heq]
    exact .refl s
  · rw [left_congr heq]
    exact dormant_write h _ _
  · rw [left_ok heq]
    exact dormant_hold s _ _
  · have lost : Dormant s ({ s with current := none, mode := .command }.clearHeld) :=
      .of_kept rfl rfl rfl rfl
    rw [left_congr heq]
    exact lost.trans (dormant_write (s := { s with current := none, mode := .command }.clearHeld) h
      .modem _)
  · rw [left_ok heq]
    exact .of_kept rfl rfl rfl rfl

/-- **A closed session does nothing but take notes**, whatever happens to it. -/
theorem Dormant.move (h : s.closed = true) (move : Move) : Dormant s (left move.act s) := by
  cases move with
  | type byte => exact dormant_typeByte h byte
  | forward data => exact dormant_forward h data
  | handle event =>
    have dequeued : Dormant s { s with queue := s.queue.drop 1 } := .of_kept rfl rfl rfl rfl
    exact dequeued.trans (dormant_handle (s := { s with queue := s.queue.drop 1 }) h event)
  | remote j actions => exact dormant_onBridge s j _
  | close =>
    have hclose : left Move.close.act s = s := by
      show s.close = s
      rw [Session.close, if_pos h]
    rw [hclose]
    exact .refl s

/-- What happens once the session is closed. -/
theorem Path.dormant (h : Path s made p) :
    ∀ m ∈ made, m.next.closed = true → Dormant m.next p := by
  induction h with
  | start => simp
  | @step made p move _ _ ih =>
    intro m hm hclosed
    rcases List.mem_append.mp hm with hm | hm
    · have before := ih m hm hclosed
      exact before.trans (.move (before.closed.trans hclosed) move)
    · obtain rfl := List.mem_singleton.mp hm
      exact .refl _

/-! ## What the lines get -/

theorem Wired.dead_of_closed (h : s.Wired) (hclosed : s.closed = true) :
    ∀ b ∈ s.bridges, b.connected = false := by
  intro b hb
  by_contra hlive
  obtain ⟨i, hi⟩ := List.mem_iff_getElem?.mp hb
  have hopen := (h.live i b hi (by simpa using hlive)).2
  rw [hclosed] at hopen
  cases hopen

theorem Wired.openLines_of_closed (h : s.Wired) (hclosed : s.closed = true) :
    s.openLines = [] := by
  refine List.eq_nil_iff_forall_not_mem.mpr fun i hi => ?_
  have hopen := (h.live_of_open hi).2.1
  rw [hclosed] at hopen
  cases hopen

/-- No line is sent anything by a move that finds the session closed, or closes it. -/
theorem Moment.sent_of_closed (hw : m.state.Wired) (hclosed : m.next.closed = true) :
    m.sent i = [] := by
  obtain ⟨s, move⟩ := m
  cases move with
  | type | handle | remote | close => rfl
  | forward data =>
    have hclosed : s.closed = true := (closed_forward data s).symm.trans hclosed
    cases hb : s.bridges[i]? with
    | none => simp [Moment.sent, hb]
    | some b =>
      exact Moment.sent_of_ended ⟨b, hb, hw.dead_of_closed hclosed b (List.mem_of_getElem? hb)⟩

theorem Path.received_of_closed (h : Path s made p) (hs : s.Steady) (i : Nat) :
    ∀ m ∈ made, m.next.closed = true → p.received i = m.state.received i := by
  induction h with
  | start => simp
  | @step made p move before possible ih =>
    have hnext := Moment.received ⟨p, move⟩ i
    have hwired := (before.steady hs).sound.wired
    intro m hm hclosed
    rcases List.mem_append.mp hm with hm | hm
    · -- The session was closed before, and still is.
      have hp : p.closed = true := (before.dormant m hm hclosed).closed.trans hclosed
      have hstill : (Moment.mk p move).next.closed = true := (Dormant.move hp move).closed.trans hp
      rw [Moment.sent_of_closed hwired hstill, List.append_nil, ih m hm hclosed] at hnext
      exact hnext
    · obtain rfl := List.mem_singleton.mp hm
      rwa [Moment.sent_of_closed hwired hclosed, List.append_nil] at hnext

/-! ## The result -/

/-- **Closing at any point is final.** At every point of a run, the session is closed exactly if
`close` was called, or it was closed from outside during one of the cues and connects so far, which
may be when a connection was live already. Then the audio was stopped once and the client was closed
once, the audio was closed once if the session has made it itself, the client got no byte after
that, and no line is open. No line got a byte since the move during which the session was closed. A
dial that was in progress then has raised, on whichever branch it was, and no connection is live:
the client is lost, unless the connect of the dial broke down. What came after that move added
nothing to the log but messages to the operator and bytes that were dropped, no cue and no connect,
and it changed neither the echo nor the verbose flag. -/
theorem closing_final (settings : Settings) (around : Surroundings) (calls : List Call) (n : Nat) :
    let s := (start settings around).point calls n
    let past := (start settings around).past calls n
    (s.closed = true ↔ (∃ m ∈ past, m.move = .close) ∨ interrupted around s.log = true) ∧
    s.log.count .audioStopped = s.closed.toNat ∧
    s.log.count .clientClosed = s.closed.toNat ∧
    s.log.count .audioClosed = (s.closed && settings.speaker.owned).toNat ∧
    (∀ later before, s.log = later ++ .audioStopped :: before →
      ∀ e ∈ later, e.isOutput = false) ∧
    (s.closed = true → s.openLines = []) ∧
    (∀ m ∈ past, m.next.closed = true → ∀ i, s.received i = m.state.received i) ∧
    (∀ m ∈ past, m.state.closed = false → m.next.closed = true → m.move ≠ .close →
      ∃ byte number fault, m.move = .type byte ∧ m.state.intent? byte = some (.dial number) ∧
        typeByte byte m.state = .error fault m.next ∧
        ((∃ reason, fault = .clientLost reason) ∨
          ∃ b, fault = .broken b ∧ m.next.lastAnswer? = some (.broken b)) ∧
        m.next.openLines = [] ∧ ∀ b ∈ m.next.bridges, b.connected = false) ∧
    ∀ m ∈ past, m.next.closed = true →
      s.closed = true ∧ s.echo = m.next.echo ∧ s.verbose = m.next.verbose ∧
        ∃ notes : List Effect, s.log = notes ++ m.next.log ∧ ∀ e ∈ notes, e.isNote = true := by
  intro s past
  have hstart := steady_start settings around
  have hpath : Path (start settings around) past s := path_point hstart calls n
  have hrecord : s.Recorded (shuts past) := by
    simpa using hpath.recorded (recorded_start settings around)
  have hwired := (hpath.steady hstart).sound.wired
  have hlater := (hpath.ticks hstart).later
  obtain ⟨hstopped, hclient, haudio⟩ := hrecord.counts
  rw [hlater.settings] at haudio
  refine ⟨?_, hstopped, hclient, haudio, fun _ _ => hrecord.silent, hwired.openLines_of_closed,
    fun m hm hclosed i => hpath.received_of_closed hstart i m hm hclosed,
    fun m hm hopen hclosed hmove => ?_, fun m hm hclosed => ?_⟩
  · have hclosed := hrecord.closed_iff
    rwa [hlater.around] at hclosed
  · obtain ⟨_, hbefore, hpossible, -⟩ := hpath.mem hstart hm
    have hsteady := hbefore.steady hstart
    have hnext := (hsteady.move hpossible).sound.wired
    obtain ⟨byte, number, fault, htype, hintent, hraises, hshort⟩ :=
      Moment.closes hsteady hpossible hopen hclosed hmove
    exact ⟨byte, number, fault, htype, hintent, hraises, hshort,
      hnext.openLines_of_closed hclosed, hnext.dead_of_closed hclosed⟩
  · have hdormant := hpath.dormant m hm hclosed
    exact ⟨hdormant.closed.trans hclosed, hdormant.echo, hdormant.verbose, hdormant.log⟩

/-- The session is closed during the dial tone, and the connect breaks down after that: so the dial
does not find its client lost. -/
theorem closed_dial_breaks_down :
    let s := start badHost { badHostNetwork with interrupts := fun _ name => name == "dialtone" }
    let dialing := s.after [.feed (Bytes.ofText "ATD1")]
    let closed := left (typeByte 0x0D) dialing
    dialing.closed = false ∧ closed.closed = true ∧
      dialing.intent? 0x0D = some (.dial "1") ∧ losesClient (typeByte 0x0D dialing) = false ∧
      closed.lastAnswer? = some (.broken (.badValue "label empty or too long")) := by
  decide +kernel

/-- The session is closed when the connection of a dial is live and not yet recorded. -/
def hangingSurroundings : Surroundings where
  network n route := { someSurroundings.network n route with closesUnrecorded := true }

/-- The line that was made is closed at once, and the dial raises after its last cue. -/
example :
    let s := (start someSettings hangingSurroundings).after [.feed (Bytes.ofText "ATE0\rATD1\r")]
    s.closed = true ∧ s.bridges.length = 1 ∧ s.openLines = [] ∧
      s.log.takeWhile (· != .clientClosed) =
        [.cue "connect_success" .dialing, .cue "modem_noise" .dialing] := by
  decide +kernel

end DialUp.Session
