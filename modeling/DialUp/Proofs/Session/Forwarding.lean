import DialUp.Proofs.Session.Chores
import DialUp.Proofs.Session.Delivery

/-!
# Online data reaches the remote end as it is

A chunk from the client is typed byte by byte while the session is in command mode, and the rest
of it, or the whole of it, is one piece of online data as soon as the session is online. What a
line receives is made of such pieces and of nothing else.

* `moves_typing`: a chunk is typed first and then forwarded, and nothing of it is lost;
* `Moment.received`: a move writes to the current line the piece that it forwards, if that line
  takes it, and no move writes anything else to any line;
* `Path.received`: a line has received the pieces that it has taken, one after the other.
-/

namespace DialUp.Session

variable {s s' p : Session} {i : Nat} {made : List Moment} {m : Moment}

/-! ## The pieces -/

/-- **What bridge `i` is to send at a moment**: a piece of online data that is not the escape
sequence, if that is the current bridge, it is connected, and its line takes it. -/
def Moment.sent (i : Nat) (m : Moment) : Bytes :=
  match m.move with
  | .forward data =>
    if data ≠ escapeBytes ∧ m.state.current = some i ∧ m.state.bridges[i]?.any Bridge.accepts then
      data
    else []
  | .type _ | .handle _ | .remote .. | .close => []

/-- Bytes of a chunk are typed up to the one that puts the session online, and what is left after
that is forwarded in one piece. A chunk of which something is left over has failed. -/
theorem moves_typing (s : Session) (data : Bytes) :
    ∃ typed rest, data = typed ++ rest ∧
      ((rest ≠ [] ∧ (s.typingOf data).map Moment.move = typed.map .type ++ [.forward rest]) ∨
        ((s.typingOf data).map Moment.move = typed.map .type ∧
          (rest = [] ∨ ∃ fault s', feedBytes data s = .error fault s'))) := by
  induction data generalizing s with
  | nil => exact ⟨[], [], rfl, .inr ⟨rfl, .inl rfl⟩⟩
  | cons byte data ih =>
    unfold typingOf
    by_cases hon : s.mode = .connected
    · rw [if_pos hon]
      exact ⟨[], byte :: data, rfl, .inl ⟨List.cons_ne_nil _ _, rfl⟩⟩
    · rw [if_neg hon, feedBytes_cons hon]
      cases typeByte byte s with
      | error fault s' => exact ⟨[byte], data, rfl, .inr ⟨rfl, .inr ⟨fault, s', rfl⟩⟩⟩
      | ok _ s' =>
        obtain ⟨typed, rest, rfl, ⟨hrest, hmoves⟩ | ⟨hmoves, hdone⟩⟩ := ih s'
        · exact ⟨byte :: typed, rest, rfl, .inl ⟨hrest, congrArg (Move.type byte :: ·) hmoves⟩⟩
        · exact ⟨byte :: typed, rest, rfl, .inr ⟨congrArg (Move.type byte :: ·) hmoves, hdone⟩⟩

/-! ## What a move writes to the lines -/

theorem received_of_bridges (h : s'.bridges = s.bridges) (i : Nat) :
    s'.received i = s.received i := by
  rw [received, h, received]

theorem received_execute (intent : Intent) (s : Session) (i : Nat) :
    (left (execute intent) s).received i = s.received i := by
  cases intent with
  | reset | hangUp => exact (Chore.drop : Chore false s _).received i
  | setEcho | setVerbose | acknowledge => rfl
  | escape =>
    show (if s.mode = .connected then { s with mode := .command } else s).received i = _
    split <;> rfl
  | goOnline =>
    obtain ⟨_, _, _, _, _, heq, -⟩ := left_goOnline s
    rw [execute, heq]
    rfl
  | dial number => exact (chores_dial number s).received i

/-- Nothing that is typed is written to a line. -/
theorem received_typeByte (byte : UInt8) (s : Session) (i : Nat) :
    (left (typeByte byte) s).received i = s.received i := by
  obtain ⟨⟨_, _, _, heq, -⟩, -⟩ | ⟨intent, s₁, -, ⟨_, _, _, heq, -⟩, happly⟩ :=
    typeByte_cases byte s
  · rw [heq]
    rfl
  · rw [left_congr happly, received_execute, heq]
    rfl

theorem received_forward (data : Bytes) (s : Session) (i : Nat) :
    (left (forward data) s).received i =
      s.received i ++ Moment.sent i ⟨s, .forward data⟩ := by
  unfold Moment.sent
  dsimp only
  obtain ⟨hescape, ok, heq⟩ | ⟨hdata, ⟨hnone, heq⟩ | ⟨j, hsome, heq⟩⟩ := left_forward data s
  · rw [heq, if_neg fun h => h.1 hescape, List.append_nil]
    exact received_of_bridges (bridges_wrote ok _ _) i
  · rw [heq, if_neg ?_, List.append_nil]
    rintro ⟨-, hi, -⟩
    exact nomatch hnone.symm.trans hi
  · rw [heq]
    cases hb : s.bridges[j]? with
    | none =>
      have hsame : s.onBridge j (·.send s.closed data) = s := by simp [onBridge, hb]
      rw [hsame, if_neg ?_, List.append_nil]
      rintro ⟨-, hi, haccepts⟩
      obtain rfl : j = i := Option.some.inj (hsome.symm.trans hi)
      rw [hb] at haccepts
      cases haccepts
    | some b =>
      rw [received_onBridge hb]
      by_cases hij : i = j
      · subst hij
        rw [if_pos rfl, Bridge.received_send, received, hb, Option.map_some, Option.getD_some,
          Option.any_some]
        simp [hdata, hsome]
      · have hother : s.current ≠ some i := by
          rw [hsome]
          exact fun h => hij (Option.some.inj h).symm
        rw [if_neg hij, if_neg fun h => hother h.2.1, List.append_nil]

theorem received_handle (event : Nat × Signal) (s : Session) (i : Nat) :
    (left (handle event) s).received i = s.received i := by
  refine received_of_bridges ?_ i
  obtain ⟨-, heq⟩ | ⟨chunk, -, -, ⟨ok, heq⟩ | heq⟩ | ⟨-, -, ⟨ok, heq⟩ | heq⟩ :=
    left_handle event s
  · rw [heq]
  · rw [heq, bridges_wrote]
  · rw [heq, bridges_hold]
  · rw [heq, bridges_wrote]
    rfl
  · rw [heq]
    rfl

theorem received_remote (s : Session) (j : Nat) (actions : List Line.Action) (i : Nat) :
    (s.remote j actions).received i = s.received i := by
  unfold remote
  cases hb : s.bridges[j]? with
  | none => simp [onBridge, hb]
  | some b =>
    rw [received_onBridge hb, Bridge.received_act]
    split
    · rename_i hij
      rw [hij, received, hb]
      rfl
    · rfl

/-- **A move writes to a line the piece that its bridge sends**, and nothing else. -/
theorem Moment.received (m : Moment) (i : Nat) :
    m.next.received i = m.state.received i ++ m.sent i := by
  obtain ⟨s, move⟩ := m
  cases move with
  | type byte => exact (received_typeByte byte s i).trans (List.append_nil _).symm
  | forward data => exact received_forward data s i
  | handle event =>
    have handled := received_handle event { s with queue := s.queue.drop 1 } i
    exact handled.trans (List.append_nil _).symm
  | remote j actions => exact (received_remote s j actions i).trans (List.append_nil _).symm
  | close => exact (received_close s i).trans (List.append_nil _).symm

/-- **A line has received the pieces that it has taken**, one after the other. -/
theorem Path.received (h : Path s made p) (i : Nat) :
    p.received i = s.received i ++ made.flatMap (Moment.sent i) := by
  induction h with
  | start => exact (List.append_nil _).symm
  | @step made p move _ _ ih =>
    have hmove := Moment.received ⟨p, move⟩ i
    rw [List.flatMap_append, List.flatMap_singleton, ← List.append_assoc, ← ih]
    exact hmove

/-! ## Connections that have ended -/

/-- The connection of bridge `i` has ended. -/
def Ended (i : Nat) (s : Session) : Prop := ∃ b, s.bridges[i]? = some b ∧ b.connected = false

theorem Tick.ended (h : Tick s s') (hs : Ended i s) : Ended i s' := by
  obtain ⟨b, hb, hdead⟩ := hs
  cases h with
  | note | cue | type | flags | enter | online | shut | discard | call | skip =>
    exact ⟨b, hb, hdead⟩
  | write | flush | relay => exact ⟨b, by rw [bridges_wrote]; exact hb, hdead⟩
  | hold => exact ⟨b, by rw [bridges_hold]; exact hb, hdead⟩
  | shelve | connect =>
    exact ⟨b, (List.getElem?_append_left (List.getElem?_eq_some_iff.mp hb).1).trans hb, hdead⟩
  | turn j op follows =>
    cases hj : s.bridges[j]? with
    | none =>
      rw [show s.onBridge j op = s by simp [onBridge, hj]]
      exact ⟨b, hb, hdead⟩
    | some c =>
      unfold Ended
      rw [getElem?_onBridge op hj]
      split
      · rename_i hij
        obtain rfl : c = b := Option.some.inj (hj.symm.trans (hij ▸ hb))
        exact ⟨_, rfl, by rw [((follows c hj).idle hdead).1]; exact hdead⟩
      · exact ⟨b, hb, hdead⟩

theorem Moment.sent_of_refused {b : Bridge} (hb : m.state.bridges[i]? = some b)
    (h : b.accepts = false) : m.sent i = [] := by
  unfold Moment.sent
  split
  · refine if_neg fun hall => ?_
    have haccepts := hall.2.2
    rw [hb, Option.any_some, h] at haccepts
    cases haccepts
  all_goals rfl

theorem Moment.sent_of_ended (h : Ended i m.state) : m.sent i = [] := by
  obtain ⟨b, hb, hdead⟩ := h
  refine Moment.sent_of_refused hb ?_
  rw [Bridge.accepts, hdead, Bool.false_and]

/-- A line receives nothing more once its connection has ended. -/
theorem Path.received_of_ended (h : Path s made p) (hs : s.Steady) (hended : Ended i s) :
    p.received i = s.received i := by
  have hnone : made.flatMap (Moment.sent i) = [] := by
    refine List.flatMap_eq_nil_iff.mpr fun m hm => Moment.sent_of_ended ?_
    obtain ⟨_, hbefore, -, -⟩ := h.mem hs hm
    exact Ticks.keep Tick.ended (hbefore.ticks hs) hended
  rw [h.received, hnone, List.append_nil]

/-! ## Pieces that are forwarded -/

/-- The client is told nothing when a piece is forwarded, and nothing changes but the bridges. -/
theorem next_of_forward {data : Bytes} (hdata : data ≠ escapeBytes) :
    ∃ bridges queue, ∃ notices : List Notice, left (forward data) s =
      { s with bridges, queue, log := notices.map .notice ++ s.log } := by
  obtain ⟨hescape, -⟩ | ⟨-, ⟨-, heq⟩ | ⟨j, -, heq⟩⟩ := left_forward data s
  · exact absurd hescape hdata
  · exact ⟨_, _, [], heq⟩
  · obtain ⟨-, hsame⟩ | ⟨b, -, hturn⟩ := onBridge_cases (s := s) j (·.send s.closed data)
    · exact ⟨_, _, [], heq.trans hsame⟩
    · rw [heq, hturn, absorb_eq, ← List.map_reverse]
      exact ⟨_, _, _, rfl⟩

/-- A piece that the line does not take ends the connection. -/
theorem ended_of_refused (hs : s.Wired) {b : Bridge} {data : Bytes} (hdata : data ≠ escapeBytes)
    (hc : s.current = some i) (hb : s.bridges[i]? = some b) (h : b.accepts = false) :
    Ended i (left (forward data) s) := by
  obtain ⟨hescape, -⟩ | ⟨-, ⟨hnone, -⟩ | ⟨j, hsome, heq⟩⟩ := left_forward data s
  · exact absurd hescape hdata
  · exact nomatch hnone.symm.trans hc
  · obtain rfl : j = i := Option.some.inj (hsome.symm.trans hc)
    refine ⟨_, ?_, Bridge.dead_of_refused (hs.sound b (List.mem_of_getElem? hb)) h s.closed data⟩
    rw [heq, getElem?_onBridge _ hb, if_pos rfl]

/-- **Online data reaches the remote end as it is.** At every point of a run, each line has
received exactly the pieces of online data, in order and unchanged, that came while its bridge was
the current one and connected and that the line took; the escape sequence is no such piece. A
piece that the line does not take ends the connection, and a line receives nothing more once its
connection has ended. What is typed reaches no line, and forwarding a piece tells the client
nothing. Every chunk is first typed, as long as the session is offline, and what is left of it
once that is over is one piece. -/
theorem forwarded_as_sent (settings : Settings) (around : Surroundings) (calls : List Call)
    (n : Nat) :
    let s := (start settings around).point calls n
    let past := (start settings around).past calls n
    (∀ i, s.received i = past.flatMap (Moment.sent i)) ∧
    (∀ m ∈ past, ∀ data, m.move = .forward data → m.state.mode = .connected ∧
      (data ≠ escapeBytes → ∃ bridges queue, ∃ notices : List Notice, m.next =
        { m.state with bridges, queue, log := notices.map .notice ++ m.state.log })) ∧
    (∀ m ∈ past, ∀ data i b, m.move = .forward data → data ≠ escapeBytes →
      m.state.current = some i → m.state.bridges[i]? = some b → b.accepts = false →
      Ended i m.next ∧ m.next.received i = m.state.received i) ∧
    (∀ m ∈ past, ∀ i, Ended i m.state → Ended i s ∧ s.received i = m.state.received i) ∧
    (∀ m ∈ past, ∀ byte, m.move = .type byte → m.state.mode ≠ .connected ∧
      ∀ i, m.next.received i = m.state.received i) ∧
    ∀ (before : Session) (data : Bytes),
      let moves := (before.momentsOf (.feed data)).map Moment.move
      (before.mode = .connected → moves = [.forward data]) ∧
      (before.mode ≠ .connected → ∃ typed rest, data = typed ++ rest ∧
        ((rest ≠ [] ∧ moves = typed.map .type ++ [.forward rest]) ∨
          (moves = typed.map .type ∧
            (rest = [] ∨ ∃ fault after, feed data before = .error fault after)))) := by
  intro s past
  have hstart := steady_start settings around
  have hpath : Path (start settings around) past s := path_point hstart calls n
  refine ⟨fun i => hpath.received i, fun m hm data hmove => ?_,
    fun m hm data i b hmove hdata hc hb hrefused => ?_, fun m hm i hended => ?_,
    fun m hm byte hmove => ?_, fun before data => ⟨fun hon => ?_, fun hoff => ?_⟩⟩
  · obtain ⟨_, _, hpossible, -⟩ := hpath.mem hstart hm
    rw [hmove] at hpossible
    refine ⟨hpossible, fun hdata => ?_⟩
    rw [Moment.next, hmove]
    exact next_of_forward hdata
  · obtain ⟨_, hbefore, -, -⟩ := hpath.mem hstart hm
    refine ⟨?_, ?_⟩
    · rw [Moment.next, hmove]
      exact ended_of_refused (hbefore.steady hstart).sound.wired hdata hc hb hrefused
    · rw [m.received i, Moment.sent_of_refused hb hrefused, List.append_nil]
  · obtain ⟨_, _, -, hbefore, hafter⟩ := hpath.split hm
    have hsteady := hbefore.steady hstart
    exact ⟨Ticks.keep Tick.ended (hafter.ticks hsteady) hended,
      hafter.received_of_ended hsteady hended⟩
  · obtain ⟨_, _, hpossible, -⟩ := hpath.mem hstart hm
    rw [hmove] at hpossible
    refine ⟨hpossible, fun i => ?_⟩
    rw [Moment.next, hmove]
    exact received_typeByte byte m.state i
  · rw [momentsOf, if_pos hon]
    rfl
  · rw [momentsOf, if_neg hoff, feed_of_offline hoff]
    exact moves_typing before data

/-- A dial with data behind it, an escape and back, and two pieces that come when the line takes
no more writes. -/
def forwardedCalls : List Call :=
  [.feed (Bytes.ofText "ATD1\rHi"), .feed escapeBytes, .feed (Bytes.ofText "ATO\r"),
    .feed [0x00, 0xFF], .remote 0 [.refuseWrites true], .feed (Bytes.ofText "lost"),
    .feed (Bytes.ofText "late")]

/-- Two pieces are received and two are not, of which the first one ends the connection. -/
theorem forwarded_until_refused :
    let s := (start someSettings someSurroundings).point forwardedCalls 15
    let past := (start someSettings someSurroundings).past forwardedCalls 15
    (s.received 0 = Bytes.ofText "Hi" ++ [0x00, 0xFF] ∧ s.current = some 0 ∧
      past.countP (·.move == .forward (Bytes.ofText "lost")) = 1 ∧
      past.countP (·.move == .forward (Bytes.ofText "late")) = 1) ∧
    s.received 0 = past.flatMap (Moment.sent 0) ∧
    ∃ m ∈ past, ∃ b, m.move = .forward (Bytes.ofText "lost") ∧ m.state.bridges[0]? = some b ∧
      b.connected = true ∧ b.accepts = false ∧ Ended 0 m.next := by
  intro s past
  have h := forwarded_as_sent someSettings someSurroundings forwardedCalls 15
  have hrefused : ∃ m ∈ past, m.move = .forward (Bytes.ofText "lost") ∧ m.state.current = some 0 ∧
      m.state.bridges[0]?.any (fun b => b.connected && !b.accepts) = true := by
    decide +kernel
  obtain ⟨m, hm, hmove, hc, hb⟩ := hrefused
  obtain ⟨b, hb, hrefused⟩ := (Option.any_eq_true _ _).mp hb
  obtain ⟨hlive, hrefused⟩ := (Bool.and_eq_true _ _).mp hrefused
  have hrefused : b.accepts = false := (Bool.not_eq_true' _).mp hrefused
  obtain ⟨hended, -⟩ := h.2.2.1 m hm _ 0 b hmove (by decide) hc hb hrefused
  exact ⟨by decide +kernel, h.1 0, m, hm, b, hmove, hb, hlive, hrefused, hended⟩

end DialUp.Session
