import DialUp.Bridge
import DialUp.Proofs.Line

/-!
# What an operation does to a bridge

`Sound` is what every bridge of a session is: live exactly while its line is open, and with
nothing left to read as long as it is live. `Turn.Follows` says all that an operation may do to
such a bridge: the data signals it makes are what it reads from the line, and it reports the end
of the connection exactly if it ends it, after all data.

* `disconnect_follows`, `send_follows`, `act_follows`: the operations on a bridge in use;
* `connect_cases`: a connect makes a live line, or leaves nothing open, also if it breaks down;
* `pump_sized`, `send_sized`, `act_sized`: no data signal is empty or longer than a read;
* `received_send`: only what is sent while the line accepts it gets to the remote end.
-/

namespace DialUp

/-- The bytes that a list of signals carries. -/
def payload (signals : List Signal) : Bytes :=
  signals.flatMap fun
    | .data chunk => chunk
    | .closed => []

theorem payload_append (a b : List Signal) : payload (a ++ b) = payload a ++ payload b :=
  List.flatMap_append

theorem payload_single (chunk : Bytes) : payload [.data chunk] = chunk :=
  List.append_nil chunk

theorem payload_data (chunks : List Bytes) : payload (chunks.map .data) = chunks.flatten := by
  simp [payload, List.flatMap_map, List.flatMap_id']

/-- Whether the network refuses a connect. -/
def Answer.refuses : Answer → Bool
  | .refused _ => true
  | .accepted _ | .broken _ => false

/-- Whether the network accepts a connect. -/
def Answer.accepts : Answer → Bool
  | .accepted _ => true
  | .refused _ | .broken _ => false

/-- How a connect breaks down, if it does. -/
def Answer.breakdown? : Answer → Option Breakdown
  | .broken breakdown => some breakdown
  | .refused _ | .accepted _ => none

namespace Bridge

variable {b : Bridge} {line : Line} {t : Turn}

/-- All bytes read from the line of the bridge. -/
def taken (b : Bridge) : Bytes := (b.line.map (·.taken.flatten)).getD []

/-- Nothing that arrived on the line waits to be read. -/
def Drained (b : Bridge) : Prop := ∀ line, b.line = some line → line.inbound = []

/-- Live exactly while the line is open. -/
structure Sound (b : Bridge) : Prop where
  live : b.connected = true → ∃ line, b.line = some line ∧ line.isOpen = true
  dead : b.connected = false → ∀ line, b.line = some line → line.isOpen = false
  drained : b.connected = true → b.Drained

/-- What an operation may do to a bridge. -/
structure Turn.Follows (b : Bridge) (t : Turn) : Prop where
  sound : t.bridge.Sound
  idle : b.connected = false → t.bridge = b ∧ t.signals = []
  drained : b.connected = true → t.bridge.Drained
  taken : t.bridge.taken = b.taken ++ payload t.signals
  /-- The end is reported once, by the operation that brings it about, and after all data. -/
  signals : ∃ chunks : List Bytes, t.signals =
    chunks.map .data ++ if b.connected && !t.bridge.connected then [.closed] else []

/-! ## Ending a connection -/

theorem connected_disconnect (b : Bridge) : b.disconnect.bridge.connected = false := by
  unfold disconnect
  cases hc : b.connected <;> simp [hc]

theorem used_disconnect (b : Bridge) : b.disconnect.bridge.used = b.used := by
  unfold disconnect
  split <;> rfl

theorem remote_disconnect (b : Bridge) : b.disconnect.bridge.remote = b.remote := by
  unfold disconnect
  split <;> rfl

/-- Nobody is told that a connection is ended. -/
theorem notices_disconnect (b : Bridge) : b.disconnect.notices = [] := by
  unfold disconnect
  split <;> rfl

/-- The reader of a cancelled session ends the connection, and that is all. -/
theorem pump_cancelled (b : Bridge) : pump true b = b.disconnect := by
  cases hc : b.connected <;> simp [pump, disconnect, hc]

/-- An operation that does nothing but tell the operator something. -/
theorem Turn.follows_self (hs : b.Sound) (notices : List Notice) :
    Turn.Follows b { bridge := b, notices } where
  sound := hs
  idle _ := ⟨rfl, rfl⟩
  drained := hs.drained
  taken := by simp [payload]
  signals := ⟨[], by simp⟩

/-- Ending a live connection on which nothing waits to be read. -/
theorem disconnect_follows_of_live (hc : b.connected = true) (hd : b.Drained) :
    (b.disconnect).Follows b := by
  have heq : b.disconnect =
      { bridge := { b with connected := false, line := b.line.map Line.close }
        signals := [.closed] } := by simp [disconnect, hc]
  rw [heq]
  refine ⟨⟨by simp, ?_, by simp⟩, fun h => absurd (hc.symm.trans h) (by decide), ?_, ?_, [], ?_⟩
  · rintro - line hline
    obtain ⟨l, -, rfl⟩ := Option.map_eq_some_iff.mp hline
    rfl
  · rintro - line hline
    obtain ⟨l, hl, rfl⟩ := Option.map_eq_some_iff.mp hline
    exact hd l hl
  · cases h : b.line <;> simp [Bridge.taken, h, payload, Line.close]
  · simp [hc]

theorem disconnect_follows (hs : b.Sound) : (b.disconnect).Follows b := by
  cases hc : b.connected with
  | true => exact disconnect_follows_of_live hc (hs.drained hc)
  | false =>
    rw [show b.disconnect = { bridge := b } by simp [disconnect, hc]]
    exact Turn.follows_self hs []

/-! ## Reading -/

theorem payload_dataSignals (chunks : List Bytes) :
    payload (dataSignals chunks) = chunks.flatten := by
  unfold dataSignals
  rw [payload_data, List.flatten_filter_not_isEmpty]

/-- The reader of a live bridge catches up, whatever waits on the line. -/
theorem pump_follows (hc : b.connected = true) (hl : b.line = some line)
    (hopen : line.isOpen = true) : (pump false b).Follows b := by
  obtain ⟨htaken, -, hinbound, hdrained⟩ := line.drain_spec hopen
  have hread : ({ b with line := some line.drain.line } : Bridge).taken =
      b.taken ++ payload (dataSignals line.drain.chunks) := by
    simp [taken, hl, htaken, payload_dataSignals]
  have hempty : ({ b with line := some line.drain.line } : Bridge).Drained := by
    rintro _ ⟨⟩
    exact hinbound
  cases hfault : line.drain.fault with
  | none =>
    rw [show pump false b =
        { bridge := { b with line := some line.drain.line }
          signals := dataSignals line.drain.chunks } by simp [pump, hc, hl, hfault]]
    refine ⟨⟨fun _ => ⟨_, rfl, hdrained⟩, ?_, fun _ => hempty⟩, ?_, fun _ => hempty, hread,
      line.drain.chunks.filter (!·.isEmpty), ?_⟩
    · exact fun h => absurd (hc.symm.trans h) (by decide)
    · exact fun h => absurd (hc.symm.trans h) (by decide)
    · simp [hc, dataSignals]
  | some fault =>
    -- What was read is reported first; the end of the connection comes after it.
    have ended :=
      disconnect_follows_of_live (b := { b with line := some line.drain.line }) hc hempty
    rw [show pump false b =
        { disconnect { b with line := some line.drain.line } with
          signals := dataSignals line.drain.chunks ++
            (disconnect { b with line := some line.drain.line }).signals
          notices := readNotices { b with line := some line.drain.line } fault } by
      simp [pump, hc, hl, hfault]]
    obtain ⟨chunks, hsignals⟩ := ended.signals
    refine ⟨ended.sound, ?_, ended.drained, ?_, line.drain.chunks.filter (!·.isEmpty) ++ chunks, ?_⟩
    · exact fun h => absurd (hc.symm.trans h) (by decide)
    · rw [ended.taken, hread, payload_append, List.append_assoc]
    · rw [hsignals, List.map_append, ← List.append_assoc]
      rfl

/-! ## The operations of a session -/

/-- Two bridges whose lines were read alike. -/
theorem Turn.Follows.of_taken {b' : Bridge} (h : t.Follows b') (hc : b.connected = true)
    (hc' : b'.connected = true) (htaken : b'.taken = b.taken) : t.Follows b where
  sound := h.sound
  idle hb := absurd (hc.symm.trans hb) (by decide)
  drained _ := h.drained hc'
  taken := by rw [h.taken, htaken]
  signals := by
    obtain ⟨chunks, hchunks⟩ := h.signals
    exact ⟨chunks, by rw [hchunks, hc, hc']⟩

/-- A cancelled session has no live bridge, so a live one is never cancelled. -/
theorem send_follows {cancelled : Bool} (hs : b.Sound)
    (hcancel : b.connected = true → cancelled = false) (data : Bytes) :
    (b.send cancelled data).Follows b := by
  cases hc : b.connected with
  | false =>
    rw [show b.send cancelled data = { bridge := b } by simp [send, hc]]
    exact Turn.follows_self hs []
  | true =>
    obtain ⟨line, hl, hopen⟩ := hs.live hc
    cases hw : line.write data with
    | error fault =>
      have ended := disconnect_follows hs
      simp only [send, hc, hl, hw]
      exact ⟨ended.sound, ended.idle, ended.drained, ended.taken, ended.signals⟩
    | ok line' =>
      obtain ⟨htaken, hkept⟩ := Line.write_kept hw
      rw [show b.send cancelled data = pump false { b with line := some line' } by
        simp [send, hc, hl, hw, hcancel hc]]
      refine (pump_follows (b := { b with line := some line' }) hc rfl (hkept.trans hopen)).of_taken
        hc hc ?_
      simp [taken, hl, htaken]

theorem act_follows {cancelled : Bool} (hs : b.Sound)
    (hcancel : b.connected = true → cancelled = false) (actions : List Line.Action) :
    (b.act cancelled actions).Follows b := by
  cases hc : b.connected with
  | false =>
    have hsame : b.line.map (·.performAll actions) = b.line := by
      cases hl : b.line with
      | none => rfl
      | some line => exact congrArg some (Line.performAll_closed (hs.dead hc line hl) actions)
    rw [show b.act cancelled actions = pump cancelled b by unfold act; rw [hsame],
      show pump cancelled b = { bridge := b } by simp [pump, hc]]
    exact Turn.follows_self hs []
  | true =>
    obtain ⟨line, hl, hopen⟩ := hs.live hc
    obtain ⟨htaken, hkept⟩ := line.performAll_kept actions
    rw [show b.act cancelled actions =
        pump false { b with line := some (line.performAll actions) } by
      simp [act, hl, hcancel hc]]
    refine (pump_follows (b := { b with line := some (line.performAll actions) }) hc rfl
      (hkept.trans hopen)).of_taken hc hc ?_
    simp [taken, hl, htaken]

/-- A used bridge is not asked again. -/
theorem connect_of_used (h : b.used = true) (cancelled : Bool) (endpoint : String)
    (answer : Answer) : ∃ notices,
      b.connect cancelled endpoint answer = (b.connected, { bridge := b, notices }) := by
  unfold connect
  rw [if_pos h]
  exact ⟨_, rfl⟩

/-- What comes of a connect of a new bridge. -/
inductive Connects (cancelled : Bool) (endpoint : String) : Answer → Bool × Turn → Prop
  | refused {answer : Answer} (notices : List Notice) (refuses : answer.refuses = true) :
      Connects cancelled endpoint answer
        (false, { bridge := { used := true, remote := some endpoint }, notices })
  /-- The line is closed as soon as it is made. -/
  | cancelled {answer : Answer} (b : Bridge) (line : b.line.isSome = true)
      (dead : b.connected = false) (sound : b.Sound) (cancels : cancelled = true) :
      Connects cancelled endpoint answer (false, { bridge := b })
  /-- The line is live, and its reader has read from it already. -/
  | accepted {answer : Answer} (b : Bridge) (t : Turn) (line : t.bridge.line.isSome = true)
      (live : b.connected = true) (untouched : b.taken = []) (follows : t.Follows b)
      (quiet : t.raised = none) (cancels : cancelled = false) (refuses : answer.refuses = false)
      (breaks : answer.breakdown? = none) : Connects cancelled endpoint answer (true, t)
  | broken (breakdown : Breakdown) : Connects cancelled endpoint (.broken breakdown)
      (false, { bridge := { used := true, remote := some endpoint }, raised := some breakdown })

theorem raised_pump (cancelled : Bool) (b : Bridge) : (b.pump cancelled).raised = none := by
  have ended (b : Bridge) : b.disconnect.raised = none := by
    unfold disconnect
    split <;> rfl
  unfold pump
  split
  · rfl
  · split
    · exact ended b
    · split
      · rfl
      · dsimp only
        split
        · rfl
        · exact ended _

/-- **A connect** of a new bridge makes a live line, or leaves nothing open. -/
theorem connect_cases (cancelled : Bool) (endpoint : String) (answer : Answer) :
    Connects cancelled endpoint answer (Bridge.connect cancelled {} endpoint answer) := by
  cases answer with
  | refused reason => exact .refused _ rfl
  | broken breakdown => exact .broken breakdown
  | accepted plan =>
    obtain ⟨htaken, hopen⟩ := Line.started_kept plan
    cases cancelled with
    | true =>
      refine .cancelled _ rfl rfl ⟨by simp, ?_, by simp⟩ rfl
      rintro - line ⟨⟩
      rfl
    | false =>
      let b : Bridge :=
        { used := true, remote := some endpoint, line := some (.started plan), connected := true }
      refine .accepted b _ ?_ rfl (by simp [b, taken, htaken]) (pump_follows rfl rfl hopen)
        (raised_pump false b) rfl rfl rfl
      unfold pump
      simp only [Bool.not_true, Bool.false_eq_true, if_false]
      split <;> rfl

/-- A connect of a new bridge is live if it is accepted, unless it is cancelled. -/
theorem live_connect (cancelled : Bool) (endpoint : String) (answer : Answer) :
    (Bridge.connect cancelled {} endpoint answer).1 = (!cancelled && answer.accepts) := by
  cases answer <;> cases cancelled <;> rfl

/-- A connect of a new bridge raises what it breaks down with. -/
theorem raised_connect (cancelled : Bool) (endpoint : String) (answer : Answer) :
    (Bridge.connect cancelled {} endpoint answer).2.raised = answer.breakdown? := by
  cases answer with
  | refused | broken => rfl
  | accepted plan =>
    cases cancelled with
    | true => rfl
    | false => exact raised_pump false _

/-! ## The size of data signals -/

/-- No data signal is empty or longer than a read may be. -/
def Turn.Sized (t : Turn) : Prop :=
  ∀ chunk, .data chunk ∈ t.signals → 1 ≤ chunk.length ∧ chunk.length ≤ 4096

theorem disconnect_sized (b : Bridge) : b.disconnect.Sized := by
  intro chunk h
  unfold disconnect at h
  split at h <;> simp at h

theorem length_of_mem_dataSignals {chunk : Bytes}
    (h : .data chunk ∈ dataSignals line.drain.chunks) :
    1 ≤ chunk.length ∧ chunk.length ≤ 4096 := by
  obtain ⟨c, hc, heq⟩ := List.mem_map.mp h
  obtain ⟨hmem, hne⟩ := List.mem_filter.mp hc
  cases heq
  refine ⟨List.length_pos_iff.mpr fun hnil => ?_, Line.length_of_mem_drain hmem⟩
  rw [hnil] at hne
  cases hne

theorem pump_sized (cancelled : Bool) (b : Bridge) : (b.pump cancelled).Sized := by
  intro chunk h
  unfold pump at h
  split at h
  · cases h
  · split at h
    · exact disconnect_sized b chunk h
    · split at h
      · cases h
      · dsimp only at h
        split at h
        · exact length_of_mem_dataSignals h
        · rcases List.mem_append.mp h with h | h
          · exact length_of_mem_dataSignals h
          · exact disconnect_sized _ chunk h

theorem send_sized (cancelled : Bool) (b : Bridge) (data : Bytes) :
    (b.send cancelled data).Sized := by
  intro chunk h
  unfold send at h
  split at h
  · split at h
    · exact pump_sized cancelled _ chunk h
    · exact disconnect_sized b chunk h
  · cases h

theorem act_sized (cancelled : Bool) (b : Bridge) (actions : List Line.Action) :
    (b.act cancelled actions).Sized :=
  pump_sized cancelled _

/-! ## What arrives and what is received -/

/-- All bytes that arrived on the line of the bridge, read or not. -/
def arrived (b : Bridge) : Bytes := (b.line.map Line.arrived).getD []

/-- All bytes that were written to the line of the bridge. -/
def received (b : Bridge) : Bytes := (b.line.map Line.received).getD []

theorem arrived_of_drained (h : b.Drained) : b.arrived = b.taken := by
  unfold arrived taken
  cases hl : b.line with
  | none => rfl
  | some line => simp [Line.arrived, h line hl]

theorem arrived_disconnect (b : Bridge) : b.disconnect.bridge.arrived = b.arrived := by
  unfold disconnect arrived
  split
  · cases b.line <;> rfl
  · rfl

theorem received_disconnect (b : Bridge) : b.disconnect.bridge.received = b.received := by
  unfold disconnect received
  split
  · cases b.line <;> rfl
  · rfl

/-- What the reader does to a bridge: it reads from the line, and may end the connection. -/
theorem pump_cases (cancelled : Bool) (b : Bridge) :
    (b.pump cancelled).bridge = b ∨ (b.pump cancelled).bridge = b.disconnect.bridge ∨
      ∃ line, b.line = some line ∧
        ((b.pump cancelled).bridge = { b with line := some line.drain.line } ∨
          (b.pump cancelled).bridge =
            (disconnect { b with line := some line.drain.line }).bridge) := by
  unfold pump
  split
  · exact .inl rfl
  · split
    · exact .inr (.inl rfl)
    · split
      · exact .inl rfl
      · rename_i line hl
        dsimp only
        split
        · exact .inr (.inr ⟨line, hl, .inl rfl⟩)
        · exact .inr (.inr ⟨line, hl, .inr rfl⟩)

theorem used_pump (cancelled : Bool) (b : Bridge) : (b.pump cancelled).bridge.used = b.used := by
  obtain heq | heq | ⟨line, -, heq | heq⟩ := b.pump_cases cancelled
  · rw [heq]
  · rw [heq, used_disconnect]
  · rw [heq]
  · rw [heq, used_disconnect]

theorem remote_pump (cancelled : Bool) (b : Bridge) :
    (b.pump cancelled).bridge.remote = b.remote := by
  obtain heq | heq | ⟨line, -, heq | heq⟩ := b.pump_cases cancelled
  · rw [heq]
  · rw [heq, remote_disconnect]
  · rw [heq]
  · rw [heq, remote_disconnect]

theorem received_pump (cancelled : Bool) (b : Bridge) :
    (b.pump cancelled).bridge.received = b.received := by
  obtain heq | heq | ⟨line, hl, heq⟩ := b.pump_cases cancelled
  · rw [heq]
  · rw [heq, received_disconnect]
  · have hdrained : ({ b with line := some line.drain.line } : Bridge).received = b.received := by
      simp [received, hl, Line.received_drain]
    obtain heq | heq := heq
    · rw [heq, hdrained]
    · rw [heq, received_disconnect, hdrained]

theorem arrived_pump (cancelled : Bool) (hl : b.line = some line) (hopen : line.isOpen = true) :
    (b.pump cancelled).bridge.arrived = b.arrived := by
  obtain heq | heq | ⟨line', hl', heq⟩ := b.pump_cases cancelled
  · rw [heq]
  · rw [heq, arrived_disconnect]
  · obtain rfl : line = line' := Option.some.inj (hl.symm.trans hl')
    have hdrained : ({ b with line := some line.drain.line } : Bridge).arrived = b.arrived := by
      simp [arrived, hl, Line.arrived_drain hopen]
    obtain heq | heq := heq
    · rw [heq, hdrained]
    · rw [heq, arrived_disconnect, hdrained]

theorem used_act (cancelled : Bool) (b : Bridge) (actions : List Line.Action) :
    (b.act cancelled actions).bridge.used = b.used :=
  used_pump cancelled _

/-- What arrives when the remote end acts: a closed line is out of its reach. -/
theorem arrived_act (hs : b.Sound) (cancelled : Bool) (actions : List Line.Action) :
    (b.act cancelled actions).bridge.arrived =
      b.arrived ++ if b.line.any (·.isOpen) then Line.sentBy actions else [] := by
  unfold act
  cases hl : b.line with
  | none =>
    have hdead : b.connected = false := by
      cases hc : b.connected with
      | false => rfl
      | true =>
        obtain ⟨line, hline, -⟩ := hs.live hc
        rw [hl] at hline
        cases hline
    simp [pump, hdead, arrived, hl]
  | some line =>
    cases hopen : line.isOpen with
    | false =>
      have hdead : b.connected = false := by
        cases hc : b.connected with
        | false => rfl
        | true =>
          obtain ⟨line', hline, hopen'⟩ := hs.live hc
          obtain rfl : line = line' := Option.some.inj (hl.symm.trans hline)
          exact absurd (hopen.symm.trans hopen') (by decide)
      simp [pump, hdead, arrived, hl, hopen, Line.performAll_closed]
    | true =>
      obtain ⟨-, hkept⟩ := line.performAll_kept actions
      rw [Option.map_some, arrived_pump (b := { b with line := some (line.performAll actions) })
        cancelled rfl (hkept.trans hopen)]
      simp [arrived, hl, hopen, Line.arrived_performAll]

theorem received_act (cancelled : Bool) (b : Bridge) (actions : List Line.Action) :
    (b.act cancelled actions).bridge.received = b.received := by
  unfold act
  rw [received_pump]
  cases hl : b.line <;> simp [received, hl, Line.received_performAll]

/-- Nothing is written to a line that a connect has just made. -/
theorem received_connect (cancelled : Bool) (endpoint : String) (answer : Answer) :
    (Bridge.connect cancelled {} endpoint answer).2.bridge.received = [] := by
  cases answer with
  | refused | broken => rfl
  | accepted plan =>
    have hstarted : (Line.started plan).received = [] := Line.received_performAll _ _
    cases cancelled with
    | true => exact hstarted
    | false =>
      show (Bridge.pump false _).bridge.received = []
      rw [received_pump]
      exact hstarted

/-- A bridge is the one to the endpoint that the connect was for. -/
theorem remote_connect (cancelled : Bool) (endpoint : String) (answer : Answer) :
    (Bridge.connect cancelled {} endpoint answer).2.bridge.remote = some endpoint := by
  cases answer with
  | refused | broken => rfl
  | accepted plan =>
    cases cancelled with
    | true => rfl
    | false => exact remote_pump false _

/-! ## Sending -/

/-- The connection is live, and a write to its line succeeds. -/
def accepts (b : Bridge) : Bool := b.connected && b.line.any Line.accepts

/-- What sending does to a bridge: a write and a look at the line, the end of the connection, or
nothing. -/
theorem send_cases (cancelled : Bool) (b : Bridge) (data : Bytes) :
    (b.accepts = true ∧ ∃ line line', b.line = some line ∧ line.write data = .ok line' ∧
      b.send cancelled data = pump cancelled { b with line := some line' }) ∨
    (b.accepts = false ∧ b.connected = true ∧ b.line.isSome = true ∧
      (b.send cancelled data).bridge = b.disconnect.bridge) ∨
    (b.accepts = false ∧ (b.connected = false ∨ b.line = none) ∧
      b.send cancelled data = { bridge := b }) := by
  unfold send accepts
  cases hc : b.connected with
  | false => exact .inr (.inr ⟨rfl, .inl rfl, rfl⟩)
  | true =>
    cases hl : b.line with
    | none => exact .inr (.inr ⟨rfl, .inr rfl, rfl⟩)
    | some line =>
      obtain ⟨haccepts, line', hw⟩ | ⟨hrefuses, fault, hw⟩ := line.write_cases data
      · exact .inl ⟨haccepts, line, line', rfl, hw, by simp only [hw]⟩
      · exact .inr (.inl ⟨hrefuses, rfl, rfl, by simp only [hw]⟩)

/-- **Only what is sent while the line accepts it is received**, as it is. -/
theorem received_send (cancelled : Bool) (b : Bridge) (data : Bytes) :
    (b.send cancelled data).bridge.received =
      b.received ++ if b.accepts then data else [] := by
  obtain ⟨haccepts, line, line', hl, hw, heq⟩ | ⟨hrefuses, -, -, heq⟩ | ⟨hrefuses, -, heq⟩ :=
    b.send_cases cancelled data
  · rw [heq, received_pump, haccepts]
    simp [received, hl, Line.received_write hw]
  · rw [heq, received_disconnect, hrefuses]
    simp
  · rw [heq, hrefuses]
    simp

theorem used_send (cancelled : Bool) (b : Bridge) (data : Bytes) :
    (b.send cancelled data).bridge.used = b.used := by
  obtain ⟨-, _, _, _, -, heq⟩ | ⟨-, -, -, heq⟩ | ⟨-, -, heq⟩ := b.send_cases cancelled data
  · rw [heq, used_pump]
  · rw [heq, used_disconnect]
  · rw [heq]

/-- What arrives when something is sent: the remote end's answer, if the line accepts the write. -/
theorem arrived_send (hs : b.Sound) (cancelled : Bool) (data : Bytes) :
    (b.send cancelled data).bridge.arrived = b.arrived ++
      (b.line.map fun line => if line.accepts then line.sentBack data else []).getD [] := by
  obtain ⟨haccepts, line, line', hl, hw, heq⟩ | ⟨hrefuses, hc, -, heq⟩ | ⟨-, hidle, heq⟩ :=
    b.send_cases cancelled data
  · obtain ⟨-, hopen⟩ := Line.write_kept hw
    have hline : line.accepts = true := by
      simp only [accepts, hl, Option.any_some, Bool.and_eq_true] at haccepts
      exact haccepts.2
    have hopen' : line'.isOpen = true := by
      simp only [Line.accepts, Bool.and_eq_true] at hline
      exact hopen.trans hline.1
    rw [heq, arrived_pump (b := { b with line := some line' }) cancelled rfl hopen']
    simp [arrived, hl, hline, Line.arrived_write hw]
  · rw [heq, arrived_disconnect]
    cases hl : b.line with
    | none => exact (List.append_nil _).symm
    | some line =>
      have hline : line.accepts = false := by simpa [accepts, hc, hl] using hrefuses
      simp [hline]
  · rw [heq]
    cases hl : b.line with
    | none => exact (List.append_nil _).symm
    | some line =>
      have hdead : b.connected = false := by
        obtain hdead | hnone := hidle
        · exact hdead
        · rw [hl] at hnone
          cases hnone
      simp [Line.accepts, hs.dead hdead line hl]

/-- A connection is never live after a write that failed. -/
theorem dead_of_refused (hs : b.Sound) (h : b.accepts = false) (cancelled : Bool) (data : Bytes) :
    (b.send cancelled data).bridge.connected = false := by
  obtain ⟨haccepts, -⟩ | ⟨-, -, -, heq⟩ | ⟨-, hidle, heq⟩ := b.send_cases cancelled data
  · exact absurd (haccepts.symm.trans h) (by decide)
  · rw [heq, connected_disconnect]
  · rw [heq]
    cases hc : b.connected with
    | false => rfl
    | true =>
      obtain ⟨line, hl, -⟩ := hs.live hc
      obtain hdead | hnone := hidle
      · exact hc.symm.trans hdead
      · rw [hl] at hnone
        cases hnone

end Bridge

end DialUp
