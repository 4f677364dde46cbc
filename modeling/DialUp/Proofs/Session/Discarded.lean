import DialUp.Proofs.Session.Heard
import DialUp.Proofs.Session.NoCarrier

/-!
# Discarded connections cannot reach the client

A bridge that is no longer the current one may still have signals in the queue, and bytes that
were held back when it was given up. None of them reaches the client.

* `processEvents_filter`: signals of other bridges than the current one can be deleted from the
  queue, and nothing else changes;
* `Moment.leftBehind`: which moves give a bridge up, with all that was held back from it;
* `Ticks.relayed_of_gone`: of a bridge that was given up the client gets nothing more.
-/

namespace DialUp.Session

variable {s s' : Session} {i : Nat} {m : Moment}

/-! ## Signals of other bridges -/

/-- The signal comes from the current bridge. -/
def isCurrent (s : Session) (event : Nat × Signal) : Bool := s.current == some event.1

/-- What an operation comes to, with another last state. -/
def mapLast (f : Session → Session) :
    EStateM.Result Fault Session Unit → EStateM.Result Fault Session Unit
  | .ok _ s => .ok () (f s)
  | .error fault s => .error fault (f s)

theorem write_setQueue (origin : Origin) (data : Bytes) (s : Session)
    (queue : List (Nat × Signal)) :
    write origin data { s with queue } = mapLast ({ · with queue }) (write origin data s) := by
  rw [write_eq, write_eq, show refusal? { s with queue } = s.refusal? from rfl]
  cases s.refusal? <;> rfl

/-- A signal of another bridge is passed over. -/
theorem handle_of_stale {event : Nat × Signal} (h : s.current ≠ some event.1) :
    handle event s = .ok () s := by
  obtain ⟨-, heq⟩ | ⟨_, -, hc, -⟩ | ⟨-, hc, -⟩ := handle_cases event s
  · exact heq
  · exact absurd hc h
  · exact absurd hc h

/-- Handling a signal does not look at the rest of the queue. -/
theorem handle_setQueue (event : Nat × Signal) (s : Session) (queue : List (Nat × Signal)) :
    handle event { s with queue } = mapLast ({ · with queue }) (handle event s) := by
  obtain ⟨i, signal⟩ := event
  show (if (s.current == some i) = true then _ else _ : Act) { s with queue } =
    mapLast _ ((if (s.current == some i) = true then _ else _ : Act) s)
  split
  · cases signal with
    | data chunk =>
      show (if s.mode = .connected then _ else _ : Act) { s with queue } =
        mapLast _ ((if s.mode = .connected then _ else _ : Act) s)
      split
      · exact write_setQueue (.line i) chunk s queue
      · have hhold : ({ s with queue } : Session).hold i chunk = { s.hold i chunk with queue } := by
          unfold hold
          dsimp only
          split <;> rfl
        exact congrArg (EStateM.Result.ok ()) hhold
    | closed =>
      show (if s.mode = .connected then _ else _ : Act)
          ({ s with queue, current := none }.clearHeld) =
        mapLast _ ((if s.mode = .connected then _ else _ : Act)
          ({ s with current := none }.clearHeld))
      split
      · exact write_setQueue .modem _ ({ s with current := none, mode := .command }.clearHeld) queue
      · rfl
  · rfl

/-- The current bridge stays the current one, or there is none. -/
theorem current_handle (event : Nat × Signal) (s : Session) :
    (left (handle event) s).current = s.current ∨ (left (handle event) s).current = none := by
  obtain ⟨-, heq⟩ | ⟨chunk, -, -, ⟨ok, heq⟩ | heq⟩ | ⟨-, -, ⟨ok, heq⟩ | heq⟩ :=
    left_handle event s
  · exact .inl (by rw [heq])
  · exact .inl (by rw [heq, current_wrote])
  · exact .inl (by rw [heq, current_hold])
  · exact .inr (by rw [heq, current_wrote]; rfl)
  · exact .inr (by rw [heq]; rfl)

/-- Handling the first signal takes it out of the queue, which is all that happens to the queue. -/
theorem handleFirst_apply {event : Nat × Signal} {rest : List (Nat × Signal)}
    (hq : s.queue = event :: rest) :
    handleFirst event s = mapLast ({ · with queue := rest }) (handle event s) := by
  show handle event { s with queue := s.queue.drop 1 } = _
  rw [handle_setQueue, hq]
  rfl

/-- The signals of the bridge that is the current one at the beginning are all that matters. -/
theorem handleAll_filter {first : Session} (events : List (Nat × Signal))
    (hc : s.current = first.current ∨ s.current = none) (hq : s.queue = events) :
    handleAll (events.filter first.isCurrent)
        { s with queue := events.filter first.isCurrent } =
      mapLast (fun s' => { s' with queue := s'.queue.filter first.isCurrent })
        (handleAll events s) := by
  induction events generalizing s with
  | nil =>
    show EStateM.Result.ok () _ = .ok () { s with queue := s.queue.filter first.isCurrent }
    rw [hq]
  | cons event rest ih =>
    show _ = mapLast _ ((handleFirst event >>= fun _ => handleAll rest) s)
    rw [bind_apply, handleFirst_apply hq]
    by_cases hcurrent : first.isCurrent event = true
    · -- The signal is handled in both runs, and the rest goes on from the same state.
      rw [List.filter_cons_of_pos hcurrent]
      show (handleFirst event >>= fun _ => handleAll (rest.filter first.isCurrent)) _ = _
      have hthere : handleFirst event
          { s with queue := event :: rest.filter first.isCurrent } =
          mapLast ({ · with queue := rest.filter first.isCurrent }) (handle event s) :=
        handle_setQueue event s _
      rw [bind_apply, hthere]
      have hkept := current_handle event s
      cases hr : handle event s with
      | error fault s₁ => rfl
      | ok _ s₁ =>
        rw [left_ok hr] at hkept
        refine ih (s := { s₁ with queue := rest }) ?_ rfl
        obtain hsame | hnone := hkept
        · rw [← hsame] at hc
          exact hc
        · exact .inr hnone
    · -- The signal is not there, and where it is, it is passed over.
      rw [List.filter_cons_of_neg hcurrent]
      have hstale : s.current ≠ some event.1 := by
        intro h
        obtain hsame | hnone := hc
        · exact hcurrent (by rw [isCurrent, ← hsame, h]; exact beq_self_eq_true _)
        · rw [hnone] at h
          cases h
      rw [handle_of_stale hstale]
      exact ih (s := { s with queue := rest }) hc rfl

/-- **Signals of other bridges than the current one do not matter.** -/
theorem processEvents_filter (s : Session) :
    processEvents { s with queue := s.queue.filter s.isCurrent } =
      mapLast (fun s' => { s' with queue := s'.queue.filter s.isCurrent }) (processEvents s) :=
  handleAll_filter s.queue (.inl rfl) rfl

/-- When all signals are handled, the queue is empty. -/
theorem queue_handleAll {events : List (Nat × Signal)} (hq : s.queue = events)
    (h : handleAll events s = .ok () s') : s'.queue = [] := by
  induction events generalizing s with
  | nil =>
    cases h
    exact hq
  | cons event rest ih =>
    change (handleFirst event >>= fun _ => handleAll rest) s = _ at h
    rw [bind_apply, handleFirst_apply hq] at h
    cases hr : handle event s with
    | error fault s₁ =>
      rw [hr] at h
      cases h
    | ok _ s₁ =>
      rw [hr] at h
      exact ih rfl h

/-- A signal of another bridge is taken out of the queue, and that is all. -/
theorem next_of_stale {event : Nat × Signal} (hstale : s.current ≠ some event.1) :
    left (handleFirst event) s = { s with queue := s.queue.tail } := by
  show left (handle event) { s with queue := s.queue.drop 1 } = _
  rw [left_ok (handle_of_stale (s := { s with queue := s.queue.drop 1 }) hstale), List.drop_one]

/-- **Of a bridge that was given up the client gets nothing more.** -/
theorem Ticks.relayed_of_gone (h : Ticks s s') (hg : Gone i s) : s'.relayed i = s.relayed i := by
  induction h with
  | refl => rfl
  | tail before ht ih => exact (ht.relayed_of_other (Ticks.gone before hg).current).trans ih

/-! ## What is discarded -/

/-- The command gives up a connection that there is. -/
def endsConnection : Intent → Bool
  | .reset | .hangUp | .dial _ => true
  | .setEcho _ | .setVerbose _ | .escape | .goOnline | .acknowledge => false

/-- **Bridge `i` is given up**: a command ends its connection, or its end is handled. -/
def Moment.discards (m : Moment) (i : Nat) : Bool :=
  m.state.current == some i &&
    match m.move with
    | .type byte => (m.state.intent? byte).any endsConnection
    | .handle event => event == (i, .closed)
    | .forward _ | .remote .. | .close => false

theorem length_endConnection (s : Session) (bridge : Option Nat) :
    (s.endConnection bridge).bridges.length = s.bridges.length := by
  cases bridge with
  | none => rfl
  | some j => exact length_onBridge j _

theorem length_close (s : Session) : s.close.bridges.length = s.bridges.length := by
  unfold close
  split
  · rfl
  · rw [closeAudio_eq]
    exact length_endConnection ({ s with closed := true }.emit .audioStopped) s.current

theorem length_dropConnection (s : Session) :
    s.dropConnection.bridges.length = s.bridges.length := by
  have ended := length_endConnection ({ s with current := none }.clearHeld) s.current
  exact ended

theorem gone_dropConnection (h : i < s.bridges.length) : Gone i s.dropConnection where
  known := by
    rw [length_dropConnection]
    exact h
  current := by
    rw [(hung_dropConnection s).current]
    exact fun hc => nomatch hc

theorem adopt_kept (s : Session) (turn : Bridge.Turn) :
    ∃ bridges queue log, s.adopt turn = { s with bridges, queue, log } ∧
      s.bridges.length ≤ bridges.length := by
  cases hl : turn.bridge.line with
  | none =>
    simp only [adopt, hl, emitAll_eq]
    exact ⟨_, _, _, rfl, Nat.le_refl _⟩
  | some line =>
    rw [adopt_eq turn (by rw [hl]; rfl), emitAll_eq]
    exact ⟨_, _, _, rfl, by simp⟩

theorem close_kept (s : Session) :
    ∃ bridges queue closed log, s.close = { s with bridges, queue, closed, log } := by
  by_cases h : s.closed = true
  · rw [close, if_pos h]
    exact ⟨_, _, _, _, rfl⟩
  · obtain ⟨_, _, heq⟩ := close_eq (Bool.eq_false_iff.mpr h)
    rw [heq]
    exact ⟨_, _, _, _, rfl⟩

/-- A bridge that is taken over gets a new number. -/
theorem settle_side (s : Session) (live : Bool) (turn : Bridge.Turn) (closesUnrecorded : Bool) :
    ∃ bridges current queue closed log, s.settle live turn closesUnrecorded =
        { s with bridges, current, queue, closed, log } ∧
      s.bridges.length ≤ bridges.length ∧
      (current = s.current ∨ current = some s.bridges.length) := by
  obtain ⟨_, _, _, hadopt, hlength⟩ := adopt_kept s turn
  unfold settle
  dsimp only
  rw [hadopt]
  cases live with
  | false => exact ⟨_, _, _, _, _, rfl, hlength, .inl rfl⟩
  | true =>
    cases closesUnrecorded with
    | false => exact ⟨_, _, _, _, _, rfl, hlength, .inr rfl⟩
    | true =>
      rw [if_pos rfl, if_pos rfl, closeUnrecorded_eq, ← hadopt]
      have hends := (length_endConnection (s.adopt turn).close (some s.bridges.length)).trans
        (length_close _)
      obtain ⟨_, _, _, _, hclose⟩ := close_kept (s.adopt turn)
      obtain ⟨_, _, hend⟩ := endConnection_kept (s.adopt turn).close (some s.bridges.length)
      rw [hend] at hends ⊢
      rw [hclose] at hends ⊢
      rw [hadopt] at hends ⊢
      exact ⟨_, _, _, _, _, rfl, hends ▸ hlength, .inr rfl⟩

/-- What was given up stays so by chores. -/
theorem Chore.gone {calls : Bool} (h : Chore calls s s') (hg : Gone i s) : Gone i s' := by
  cases h with
  | note | edit | call => exact ⟨hg.known, hg.current⟩
  | say ok data =>
    obtain ⟨_, _, heq⟩ := wrote_kept s ok .modem data
    rw [heq]
    exact ⟨hg.known, hg.current⟩
  | close =>
    refine ⟨?_, ?_⟩
    · rw [length_close]
      exact hg.known
    · rw [(aside_close s).current]
      exact hg.current
  | drop => exact gone_dropConnection hg.known
  | settle live turn closes =>
    obtain ⟨_, _, _, _, _, heq, hlength, hcurrent⟩ := settle_side s live turn closes
    rw [heq]
    refine ⟨Nat.lt_of_lt_of_le hg.known hlength, fun hc => ?_⟩
    obtain hsame | hnew := hcurrent
    · exact hg.current (hsame.symm.trans hc)
    · exact Nat.ne_of_gt hg.known (Option.some.inj (hnew.symm.trans hc))

/-- A chore leaves what is held back as it is, or drops it. -/
theorem Chore.held {calls : Bool} (h : Chore calls s s') : s'.held = s.held ∨ s'.held = [] := by
  cases h with
  | note | edit | call => exact .inl rfl
  | say ok data =>
    obtain ⟨_, _, heq⟩ := wrote_kept s ok .modem data
    rw [heq]
    exact .inl rfl
  | close => exact .inl (aside_close s).held
  | drop => exact .inr (hung_dropConnection s).held
  | settle live turn closes =>
    obtain ⟨_, _, _, _, _, heq, -⟩ := settle_side s live turn closes
    rw [heq]
    exact .inl rfl

/-- **Nothing is held back by chores.** -/
theorem Chores.held {calls : Bool} (h : Chores calls s s') : s'.held = s.held ∨ s'.held = [] :=
  h.keep (P := fun s' => s'.held = s.held ∨ s'.held = [])
    (fun hc hheld => hc.held.elim (fun hsame => by rwa [hsame]) .inr) (.inl rfl)

/-- What is left of a session that has given up bridge `i`. -/
def LeftBehind (i : Nat) (s : Session) : Prop := Gone i s ∧ s.held = []

theorem Chores.leftBehind {calls : Bool} (h : Chores calls s s') (hs : LeftBehind i s) :
    LeftBehind i s' :=
  ⟨h.keep Chore.gone hs.1, h.held.elim (fun hsame => hsame.trans hs.2) id⟩

theorem leftBehind_dropConnection (h : i < s.bridges.length) : LeftBehind i s.dropConnection :=
  ⟨gone_dropConnection h, (hung_dropConnection s).held⟩

/-- A command that gives up a connection. -/
theorem leftBehind_execute {intent : Intent} (h : endsConnection intent = true)
    (hc : s.current = some i) (hi : i < s.bridges.length) :
    LeftBehind i (left (execute intent) s) := by
  cases intent with
  | reset | hangUp => exact leftBehind_dropConnection hi
  | dial number =>
    have hdropped : left (execute (.dial number)) s = left (dialTone number) s.dropConnection := by
      refine left_congr ?_
      rw [execute, dial_apply, hc]
      rfl
    rw [hdropped]
    exact (chores_dialTone number _).leftBehind (leftBehind_dropConnection hi)
  | setEcho | setVerbose | escape | goOnline | acknowledge => cases h

/-- The end of the current connection is handled. -/
theorem leftBehind_closed (hc : s.current = some i) (hi : i < s.bridges.length) :
    LeftBehind i (left (handle (i, .closed)) s) := by
  have hnone : (none : Option Nat) ≠ some i := fun h => nomatch h
  obtain ⟨h, -⟩ | ⟨_, h, -⟩ | ⟨-, -, ⟨ok, heq⟩ | heq⟩ := left_handle (i, .closed) s
  · exact absurd hc h
  · cases h
  · obtain ⟨_, _, hkept⟩ := wrote_kept ({ s with current := none, mode := .command }.clearHeld) ok
      .modem (Bytes.ofText "NO CARRIER\r\n")
    rw [heq, hkept]
    exact ⟨⟨hi, hnone⟩, rfl⟩
  · rw [heq]
    exact ⟨⟨hi, hnone⟩, rfl⟩

/-- The move does not fail. -/
def Moment.succeeds (m : Moment) : Bool :=
  match m.move.act m.state with
  | .ok _ _ => true
  | .error _ _ => false

theorem Moment.act_of_succeeds (h : m.succeeds = true) :
    m.move.act m.state = .ok () m.next := by
  unfold Moment.succeeds at h
  unfold Moment.next
  cases hr : m.move.act m.state with
  | ok _ s' => rw [left_ok hr]
  | error fault s' =>
    rw [hr] at h
    cases h

/-- **A bridge that is given up is gone**, with all that was held back from it. -/
theorem Moment.leftBehind (hs : m.state.Steady) (h : m.discards i = true)
    (hsucceeds : m.succeeds = true) : LeftBehind i m.next := by
  have hok := Moment.act_of_succeeds hsucceeds
  obtain ⟨s, move⟩ := m
  obtain ⟨hcurrent, hmove⟩ := (Bool.and_eq_true _ _).mp h
  have hc : s.current = some i := eq_of_beq hcurrent
  have hi := hs.sound.wired.current_lt i hc
  cases move with
  | forward | remote | close => cases hmove
  | handle event =>
    obtain rfl : event = (i, .closed) := eq_of_beq hmove
    exact leftBehind_closed (s := { s with queue := s.queue.drop 1 }) hc hi
  | type byte =>
    obtain ⟨intent, hsome, hends⟩ := (Option.any_eq_true _ _).mp hmove
    obtain ⟨-, hnone⟩ | ⟨intent', s₁, hsome', ⟨_, _, _, heq, -⟩, happly⟩ := typeByte_cases byte s
    · exact nomatch (hnone _ hok).symm.trans hsome
    · obtain rfl : intent' = intent := Option.some.inj (hsome'.symm.trans hsome)
      show LeftBehind i (left (typeByte byte) s)
      rw [left_congr happly]
      exact leftBehind_execute hends (by rw [heq]; exact hc) (by rw [heq]; exact hi)

/-- **Discarded connections cannot reach the client.** At every point of a run, with any signals
in the queue, those of other bridges than the current one can be deleted from it, and handling
the signals comes to the same. Of each bridge the client has got only what was read from its
line, in that order if every write has succeeded, and only while the bridge was the current one.
Of a bridge that was there and is not the current one, which is so after a command or the end of
the connection has given it up, the client gets nothing more, and its signals, the end of its
connection among them, are taken out of the queue without any effect. -/
theorem discarded_silent (settings : Settings) (around : Surroundings) (calls : List Call)
    (n : Nat) :
    let s := (start settings around).point calls n
    let past := (start settings around).past calls n
    (∀ events,
      processEvents { s with queue := events.filter s.isCurrent } =
        match processEvents { s with queue := events } with
        | .ok _ s' => .ok () s'
        | .error fault s' => .error fault { s' with queue := s'.queue.filter s.isCurrent }) ∧
    (∀ i, (s.relayed i).Subperm (s.taken i) ∧ (s.Delivered → (s.relayed i).Sublist (s.taken i))) ∧
    (∀ m ∈ past, ∀ i, m.next.relayed i ≠ m.state.relayed i →
      m.state.current = some i ∧ m.next.current = some i) ∧
    (∀ m ∈ past, ∀ i, m.discards i = true → m.succeeds = true →
      m.next.current ≠ some i ∧ m.next.held = [] ∧ m.next.relayed i = m.state.relayed i ∧
        s.current ≠ some i ∧ s.relayed i = m.next.relayed i) ∧
    (∀ m ∈ past, ∀ i, i < m.state.bridges.length → m.state.current ≠ some i →
      s.current ≠ some i ∧ s.relayed i = m.state.relayed i) ∧
    ∀ m ∈ past, ∀ i signal, m.move = .handle (i, signal) → m.state.current ≠ some i →
      m.next = { m.state with queue := m.state.queue.tail } := by
  intro s past
  have hstart := steady_start settings around
  have hpath : Path (start settings around) past s := path_point hstart calls n
  refine ⟨fun events => ?_, fun i => ⟨?_, ?_⟩, fun m _ i => m.heardOf i, fun m hm i hi hok => ?_,
    fun m hm i hlt hi => ?_, fun m hm i signal hmove hi => ?_⟩
  · refine (processEvents_filter { s with queue := events }).trans ?_
    cases hr : processEvents { s with queue := events } with
    | ok _ s' =>
      have hnone : s'.queue = [] := queue_handleAll rfl hr
      show EStateM.Result.ok () { s' with queue := s'.queue.filter _ } = .ok () s'
      rw [hnone, List.filter_nil, ← hnone]
    | error fault s' => rfl
  · have hsourced := Ticks.sourced (hpath.ticks hstart) hstart.sound
      (balanced_start settings around) (sourced_start settings around)
    exact hsourced.subperm i
  · exact hpath.in_order hstart (balanced_start settings around) rfl
  · obtain ⟨before, hbefore, hpossible, hafter⟩ := hpath.mem hstart hm
    obtain ⟨hgone, hheld⟩ := Moment.leftBehind (hbefore.steady hstart) hi hok
    refine ⟨hgone.current, hheld, ?_, (hafter.gone hgone).current, hafter.relayed_of_gone hgone⟩
    by_contra hne
    exact hgone.current (m.heardOf i hne).2
  · obtain ⟨before, hbefore, hpossible, hafter⟩ := hpath.mem hstart hm
    have hticks := (ticks_move (hbefore.steady hstart) hpossible).trans hafter
    have hgone : Gone i m.state := ⟨hlt, hi⟩
    exact ⟨(Ticks.gone hticks hgone).current, Ticks.relayed_of_gone hticks hgone⟩
  · rw [Moment.next, hmove]
    exact next_of_stale hi

/-- Two chunks that nobody has looked at when the client escapes and dials again. -/
def redialedCalls : List Call :=
  [.feed (Bytes.ofText "ATD1\r"), .events, .remote 0 [.deliver [0x62]], .feed escapeBytes,
    .remote 0 [.deliver [0x63]], .feed (Bytes.ofText "ATD1\r")]

/-- The signals of the old connection, its end among them, wait in front of those of the new one,
and none of them matters. -/
theorem discarded_silent_redialed :
    let s := (start someSettings someSurroundings).point redialedCalls 14
    let past := (start someSettings someSurroundings).past redialedCalls 14
    (s.queue = [(0, .data [0x62]), (0, .data [0x63]), (0, .closed), (1, .data [0x61])] ∧
      s.current = some 1 ∧ s.relayed 0 = [0x61] ∧
      (left processEvents s).relayed 0 = [0x61] ∧ (left processEvents s).relayed 1 = [0x61]) ∧
    ∃ m ∈ past, m.discards 0 = true ∧ m.succeeds = true ∧ m.next.held = [] ∧
      s.relayed 0 = m.next.relayed 0 := by
  intro s past
  have h := discarded_silent someSettings someSurroundings redialedCalls 14
  have hdiscards : ∃ m ∈ past, m.discards 0 = true ∧ m.succeeds = true := by decide +kernel
  obtain ⟨m, hm, hdiscards, hsucceeds⟩ := hdiscards
  obtain ⟨-, hheld, -, -, hrelayed⟩ := h.2.2.2.1 m hm 0 hdiscards hsucceeds
  exact ⟨by decide +kernel, m, hm, hdiscards, hsucceeds, hheld, hrelayed⟩

end DialUp.Session

