import DialUp.Proofs.Session.Equations
import DialUp.Proofs.Session.Forwarding

/-!
# What escapes

Online data that is exactly the escape sequence brings the session back to command mode. Such data
is a whole chunk if the session was online before it. It can also be the end of a chunk that was
typed up to the byte that put the session online, for what comes behind that is online data like
any other.

`GoesOnline s typed s'` tells that typing has come as far as that.

* `offline_of_move`: a session goes offline by an escape, and else only by the end of its
  connection;
* `forwards_iff`: what a chunk forwards is what comes behind the bytes that put the session online;
* `feed_of_goesOnline`: and that is all that is done with it.
-/

namespace DialUp.Session

variable {s s' : Session} {m : Moment} {typed rest data : Bytes}

/-! ## Going offline -/

theorem mode_onBridge (i : Nat) (op : Bridge → Bridge.Turn) (s : Session) :
    (s.onBridge i op).mode = s.mode := by
  obtain ⟨_, _, _, heq⟩ := onBridge_kept s i op
  rw [heq]

theorem mode_wrote (ok : Bool) (origin : Origin) (data : Bytes) (s : Session) :
    (s.wrote ok origin data).mode = s.mode := by
  obtain ⟨_, _, heq⟩ := wrote_kept s ok origin data
  rw [heq]

theorem mode_forward (data : Bytes) (s : Session) :
    (left (forward data) s).mode = if data = escapeBytes then .command else s.mode := by
  obtain ⟨hescape, ok, heq⟩ | ⟨hdata, ⟨-, heq⟩ | ⟨i, -, heq⟩⟩ := left_forward data s
  · rw [heq, mode_wrote, if_pos hescape]
  · rw [heq, if_neg hdata]
  · rw [heq, mode_onBridge, if_neg hdata]

/-- A signal that takes the session offline is the end of its connection. -/
theorem offline_of_handle {event : Nat × Signal} (hon : s.mode = .connected)
    (hoff : (left (handleFirst event) s).mode ≠ .connected) :
    (left (handleFirst event) s).mode = .command ∧
      ∃ i, event = (i, .closed) ∧ s.current = some i := by
  obtain ⟨i, signal⟩ := event
  change (left (handle (i, signal)) { s with queue := s.queue.drop 1 }).mode ≠ _ at hoff
  show (left (handle (i, signal)) { s with queue := s.queue.drop 1 }).mode = _ ∧ _
  obtain ⟨-, heq⟩ | ⟨chunk, -, -, ⟨-, heq⟩ | ⟨hoff', -⟩⟩ | ⟨hclosed, hc, ⟨-, heq⟩ | ⟨hoff', -⟩⟩ :=
    handle_cases (i, signal) { s with queue := s.queue.drop 1 }
  · rw [left_ok heq] at hoff
    exact absurd hon hoff
  · obtain ⟨ok, hleft⟩ := left_write (.line i) chunk { s with queue := s.queue.drop 1 }
    rw [left_congr heq, hleft, mode_wrote] at hoff
    exact absurd hon hoff
  · exact absurd hon hoff'
  · obtain rfl : signal = .closed := hclosed
    rw [left_congr heq]
    obtain ⟨ok, hleft⟩ := left_write .modem (Bytes.ofText "NO CARRIER\r\n")
      ({ s with queue := s.queue.drop 1, current := none, mode := .command }.clearHeld)
    refine ⟨?_, i, rfl, hc⟩
    show (left (write .modem _) _).mode = _
    rw [hleft, mode_wrote]
    rfl
  · exact absurd hon hoff'

/-- **A session goes offline by an escape or by the end of its connection**. -/
theorem offline_of_move (hpossible : m.move.Possible m.state) (hon : m.state.mode = .connected)
    (hoff : m.next.mode ≠ .connected) :
    m.next.mode = .command ∧ (m.move = .forward escapeBytes ∨
      ∃ i, m.move = .handle (i, .closed) ∧ m.state.current = some i) := by
  obtain ⟨s, move⟩ := m
  cases move with
  | type byte => exact absurd hon hpossible
  | forward data =>
    change (left (forward data) s).mode ≠ _ at hoff
    rw [mode_forward] at hoff
    by_cases hescape : data = escapeBytes
    · refine ⟨?_, .inl (by rw [hescape])⟩
      show (left (forward data) s).mode = _
      rw [mode_forward, if_pos hescape]
    · rw [if_neg hescape] at hoff
      exact absurd hon hoff
  | handle event =>
    obtain ⟨hmode, i, rfl, hc⟩ := offline_of_handle hon hoff
    exact ⟨hmode, .inr ⟨i, rfl, hc⟩⟩
  | remote i actions => exact absurd ((mode_onBridge i _ s).trans hon) hoff
  | close => exact absurd ((aside_close s).mode.trans hon) hoff

/-! ## Going online within a chunk -/

/-- **The bytes are typed one by one, and put the session online**, the last one and none before
it. A session that is online already needs no bytes. -/
inductive GoesOnline : Session → Bytes → Session → Prop
  | here {s : Session} (online : s.mode = .connected) : GoesOnline s [] s
  | type {s s₁ s' : Session} {byte : UInt8} {typed : Bytes} (offline : s.mode ≠ .connected)
      (taken : typeByte byte s = .ok () s₁) (more : GoesOnline s₁ typed s') :
      GoesOnline s (byte :: typed) s'

theorem GoesOnline.online (h : GoesOnline s typed s') : s'.mode = .connected := by
  induction h with
  | here online => exact online
  | type _ _ _ ih => exact ih

/-- Bytes are needed exactly if the session is offline. -/
theorem GoesOnline.typed_eq_nil_iff (h : GoesOnline s typed s') :
    typed = [] ↔ s.mode = .connected := by
  cases h with
  | here online => simp [online]
  | type offline _ _ => simp [offline]

theorem GoesOnline.steady (h : GoesOnline s typed s') (hs : s.Steady) : s'.Steady := by
  induction h with
  | here => exact hs
  | @type s s₁ s' byte typed offline taken _ ih =>
    have possible : (Move.type byte).Possible s := offline
    have hnext : (left (typeByte byte) s).Steady := hs.move possible
    rw [left_ok taken] at hnext
    exact ih hnext

/-- **What comes behind the bytes that put the session online is forwarded**, in one piece. -/
theorem feed_of_goesOnline (h : GoesOnline s typed s') (hrest : rest ≠ []) :
    feed (typed ++ rest) s = forward rest s' := by
  induction h with
  | @here s online =>
    show (if s.mode = .connected then _ else _ : Act) s = _
    rw [if_pos online]
    rfl
  | type offline taken _ ih =>
    rw [List.cons_append, feed_of_offline offline, feedBytes_cons offline, taken]
    dsimp only
    rw [feedBytes_eq_feed (by simp [hrest]), ih]

/-- Online, a chunk is forwarded as a whole. -/
theorem forwards_online_iff (hon : s.mode = .connected) :
    .forward rest ∈ [(⟨s, .forward data⟩ : Moment)].map Moment.move ↔
      ∃ typed s', GoesOnline s typed s' ∧ data = typed ++ rest := by
  rw [List.map_singleton, List.mem_singleton, Move.forward.injEq]
  constructor
  · rintro rfl
    exact ⟨[], s, .here hon, rfl⟩
  · rintro ⟨typed, s', honline, rfl⟩
    rw [honline.typed_eq_nil_iff.mpr hon, List.nil_append]

theorem forwards_typing_iff (hrest : rest ≠ []) (data : Bytes) (s : Session) :
    .forward rest ∈ (s.typingOf data).map Moment.move ↔
      ∃ typed s', GoesOnline s typed s' ∧ data = typed ++ rest := by
  induction data generalizing s with
  | nil => simp [typingOf, hrest]
  | cons byte data ih =>
    unfold typingOf
    by_cases hon : s.mode = .connected
    · rw [if_pos hon]
      exact forwards_online_iff hon
    · rw [if_neg hon, List.map_cons, List.mem_cons]
      cases htype : typeByte byte s with
      | error fault s₁ =>
        refine iff_of_false (by simp) ?_
        rintro ⟨typed, s', honline, hdata⟩
        cases honline with
        | here online => exact hon online
        | type _ taken _ =>
          obtain ⟨rfl, -⟩ := List.cons.inj hdata
          cases htype.symm.trans taken
      | ok _ s₁ =>
        dsimp only
        rw [ih s₁]
        constructor
        · rintro (hmove | ⟨typed, s', honline, rfl⟩)
          · cases hmove
          · exact ⟨byte :: typed, s', .type hon htype honline, rfl⟩
        · rintro ⟨typed, s', honline, hdata⟩
          cases honline with
          | here online => exact absurd online hon
          | type _ taken more =>
            obtain ⟨rfl, rfl⟩ := List.cons.inj hdata
            cases htype.symm.trans taken
            exact .inr ⟨_, s', more, rfl⟩

theorem move_of_mem_handling {events : List (Nat × Signal)} (h : m ∈ s.handlingOf events) :
    ∃ event, m.move = .handle event := by
  induction events generalizing s with
  | nil => cases h
  | cons event events ih =>
    unfold handlingOf at h
    rcases List.mem_cons.mp h with rfl | h
    · exact ⟨event, rfl⟩
    · cases hhandle : handleFirst event s with
      | ok _ s₁ =>
        rw [hhandle] at h
        exact ih h
      | error fault s₁ =>
        rw [hhandle] at h
        cases h

/-- **What a call forwards is what comes behind the bytes that put the session online.** -/
theorem forwards_iff (hrest : rest ≠ []) (call : Call) (s : Session) :
    .forward rest ∈ (s.momentsOf call).map Moment.move ↔
      ∃ typed s', GoesOnline s typed s' ∧ call = .feed (typed ++ rest) := by
  cases call with
  | feed data =>
    simp only [Call.feed.injEq]
    unfold momentsOf
    dsimp only
    by_cases hon : s.mode = .connected
    · rw [if_pos hon]
      exact forwards_online_iff hon
    · rw [if_neg hon]
      exact forwards_typing_iff hrest data s
  | events =>
    refine iff_of_false (fun hmove => ?_) (by simp)
    obtain ⟨m, hm, hforward⟩ := List.mem_map.mp hmove
    obtain ⟨event, hhandle⟩ := move_of_mem_handling hm
    cases hhandle.symm.trans hforward
  | remote | close => simp [momentsOf]

/-- What a line that is online does with data that is no escape sequence. -/
theorem forward_of_online (hs : s.Steady) (hon : s.mode = .connected) (hdata : data ≠ escapeBytes) :
    ∃ i, s.current = some i ∧ forward data s = .ok () (s.onBridge i (·.send s.closed data)) := by
  obtain ⟨i, hc⟩ := Option.isSome_iff_exists.mp (hs.sound.tidy.online hon).1
  refine ⟨i, hc, ?_⟩
  rw [forward_apply, if_neg hdata, hc]

/-- **What escapes.** Between any two calls of a run: a session leaves the online mode, for command
mode, only by an escape or when the end of its current connection is handled. It escapes exactly
in a chunk that consists of the escape sequence and of what puts the session online before it,
which is nothing if it is online already. What else comes behind that is sent by the current
bridge in one piece, and the line gets it as it is if it takes it; and the session stays online. -/
theorem escapes_behind_online (settings : Settings) (around : Surroundings) (calls : List Call) :
    let s := (start settings around).after calls
    (∀ call, ∀ m ∈ s.momentsOf call, m.state.mode = .connected → m.next.mode ≠ .connected →
      m.next.mode = .command ∧ (m.move = .forward escapeBytes ∨
        ∃ i, m.move = .handle (i, .closed) ∧ m.state.current = some i)) ∧
    (∀ call, .forward escapeBytes ∈ (s.momentsOf call).map Moment.move ↔
      ∃ typed s', GoesOnline s typed s' ∧ call = .feed (typed ++ escapeBytes)) ∧
    ∀ typed s' rest, GoesOnline s typed s' → rest ≠ [] →
      (typed = [] ↔ s.mode = .connected) ∧
      (rest = escapeBytes →
        feed (typed ++ rest) s = writeText "OK\r\n" { s' with mode := .command }) ∧
      (rest ≠ escapeBytes → ∃ i s'', s'.current = some i ∧
        feed (typed ++ rest) s = .ok () s'' ∧ s'' = s'.onBridge i (·.send s'.closed rest) ∧
        s''.mode = .connected ∧
        s''.received i =
          s'.received i ++ if s'.bridges[i]?.any Bridge.accepts then rest else []) := by
  intro s
  have hsteady : s.Steady :=
    (path_moments (steady_start settings around) calls).steady (steady_start settings around)
  refine ⟨fun call m hm hon hoff => ?_, fun call => forwards_iff (by decide) call s,
    fun typed s' rest honline hrest => ⟨honline.typed_eq_nil_iff, fun hescape => ?_,
      fun hdata => ?_⟩⟩
  · obtain ⟨_, _, hpossible, -⟩ := (path_call hsteady call).mem hsteady hm
    exact offline_of_move hpossible hon hoff
  · rw [feed_of_goesOnline honline hrest, forward_apply, if_pos hescape]
  · obtain ⟨i, hc, hforward⟩ := forward_of_online (honline.steady hsteady) honline.online hdata
    have hreceived := received_forward rest s' i
    rw [left_ok hforward] at hreceived
    refine ⟨i, _, hc, (feed_of_goesOnline honline hrest).trans hforward, rfl,
      (mode_onBridge i _ s').trans honline.online, hreceived.trans ?_⟩
    simp [Moment.sent, hdata, hc]

/-- The escape sequence behind a dial, in one chunk. -/
def escapeBehindDial : Bytes := Bytes.ofText "ATD1\r" ++ escapeBytes

/-- A session that was offline before the chunk escapes, and the line gets nothing of it. -/
theorem escapes_offline :
    let s := start someSettings someSurroundings
    let s' := s.after [.feed escapeBehindDial]
    s.mode = .command ∧
      .forward escapeBytes ∈ (s.momentsOf (.feed escapeBehindDial)).map Moment.move ∧
      s'.mode = .command ∧ s'.current = some 0 ∧ s'.received 0 = [] ∧ s'.Delivered := by
  decide +kernel

end DialUp.Session
