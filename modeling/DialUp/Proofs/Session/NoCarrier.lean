import DialUp.Proofs.Session.Delivery

/-!
# One `NO CARRIER` for each failure

The modem writes `NO CARRIER` for a dial that fails, and for a connection whose end is handled
while the session is online. A connection ends only once, since a bridge that is no longer the
current one never becomes it again (`Gone`).

* `noCarriers_eq_failures`: `NO CARRIER` is written as often as dials fail and connections are lost;
* `Path.ends_le_one`: a connection ends once, by a loss or otherwise;
* `accounted_of_loss`: when a loss is told, all that arrived on the line has been written.
-/

namespace DialUp.Session

variable {s s' p : Session} {i : Nat} {made : List Moment} {m : Moment}

/-! ## The moments that matter -/

/-- A dial that fails is carried out. -/
def Moment.failsDial (m : Moment) : Bool :=
  match m.move with
  | .type byte => m.state.intentFails (m.state.intent? byte)
  | _ => false

/-- The connection that is lost: its end is handled while it is the current one, online. -/
def Moment.lost? (m : Moment) : Option Nat :=
  match m.move with
  | .handle event => if m.state.isLoss event then some event.1 else none
  | _ => none

/-- **The connections that are lost**, each as often as that happens. -/
def lost (made : List Moment) : List Nat := made.filterMap Moment.lost?

/-- Connection `i` is the current one, and is so no longer. -/
def Moment.ends (m : Moment) (i : Nat) : Bool :=
  m.state.current == some i && m.next.current != some i

/-! ## Counting -/

theorem Moment.count_news (m : Moment) :
    m.news.count .noCarrier = m.failsDial.toNat + m.lost?.toList.length := by
  obtain ⟨s, move⟩ := m
  cases move with
  | type byte => exact count_newsOf _
  | forward | remote | close => rfl
  | handle event =>
    obtain ⟨i, signal⟩ := event
    show (s.newsOfSignal (i, signal)).count _ =
      0 + (if s.isLoss (i, signal) then some i else none).toList.length
    rw [Nat.zero_add]
    cases signal with
    | closed =>
      rw [newsOfSignal, count_newsOf]
      cases s.isLoss (i, .closed) <;> rfl
    | data chunk =>
      rw [newsOfSignal, show s.isLoss (i, .data chunk) = false by simp [isLoss]]
      split
      · exact List.count_eq_zero.mpr (by simp [Effect.noCarrier])
      · rfl

theorem count_news (made : List Moment) :
    (made.reverse.flatMap Moment.news).count .noCarrier =
      made.countP Moment.failsDial + (lost made).length := by
  induction made with
  | nil => rfl
  | cons m rest ih =>
    have hlost : (lost (m :: rest)).length = m.lost?.toList.length + (lost rest).length := by
      unfold lost
      rw [List.filterMap_cons]
      cases m.lost? with
      | none => exact (Nat.zero_add _).symm
      | some i => exact Nat.add_comm _ 1
    rw [List.reverse_cons, List.flatMap_append, List.count_append, ih, List.flatMap_singleton,
      m.count_news, List.countP_cons, hlost]
    cases m.failsDial <;> simp <;> omega

/-- **`NO CARRIER` is written as often as dials fail and connections are lost**. -/
theorem noCarriers_eq_failures (h : Path s made p) (hs : s.Steady) (hnews : s.news = [])
    (hd : p.Delivered) (hopen : p.closed = false) :
    p.noCarriers = made.countP Moment.failsDial + (lost made).length := by
  rw [noCarriers_eq_news, h.told hs hd hopen, hnews, List.append_nil, count_news]

/-! ## Losses -/

/-- The end of connection `i` is the first signal, and it is the current one, online. -/
theorem Moment.lost?_eq_some (h : m.lost? = some i) :
    m.move = .handle (i, .closed) ∧ m.state.current = some i ∧ m.state.mode = .connected := by
  obtain ⟨s, move⟩ := m
  cases move with
  | type | forward | remote | close => cases h
  | handle event =>
    obtain ⟨j, signal⟩ := event
    change (if s.isLoss (j, signal) then some j else none) = some i at h
    by_cases hloss : s.isLoss (j, signal) = true
    · rw [if_pos hloss, Option.some.injEq] at h
      subst h
      unfold isLoss at hloss
      simp only [Bool.and_eq_true, beq_iff_eq] at hloss
      obtain ⟨⟨rfl, hcurrent⟩, hon⟩ := hloss
      exact ⟨rfl, hcurrent, hon⟩
    · rw [if_neg hloss] at h
      cases h

/-- A session that has lost its connection and has not told the client yet. -/
def cutOff (s : Session) : Session :=
  { s with queue := s.queue.drop 1, current := none, mode := .command }.clearHeld

/-- The client is told of a loss, or is lost too. -/
theorem left_of_loss (hc : s.current = some i) (hon : s.mode = .connected) :
    ∃ ok, left (handleFirst (i, .closed)) s =
      s.cutOff.wrote ok .modem (Bytes.ofText "NO CARRIER\r\n") := by
  show ∃ ok, left (handle (i, .closed)) { s with queue := s.queue.drop 1 } = _
  have hhandle : left (handle (i, .closed)) { s with queue := s.queue.drop 1 } =
      left loseConnection { s with queue := s.queue.drop 1 } := by
    show left (if (s.current == some i) = true then loseConnection else pure ()) _ = _
    rw [if_pos (by simp [hc])]
  have hlose : left loseConnection { s with queue := s.queue.drop 1 } =
      left noCarrier s.cutOff := by
    show left (if s.mode = .connected then (do enter .command; noCarrier) else pure ()) _ = _
    rw [if_pos hon]
    rfl
  rw [hhandle, hlose, noCarrier, writeText, left, write_eq]
  cases Session.refusal? _ with
  | some _ => exact ⟨false, rfl⟩
  | none => exact ⟨true, rfl⟩

theorem Moment.next_of_lost (h : m.lost? = some i) :
    ∃ ok, m.next = m.state.cutOff.wrote ok .modem (Bytes.ofText "NO CARRIER\r\n") := by
  obtain ⟨hmove, hcurrent, hon⟩ := Moment.lost?_eq_some h
  unfold Moment.next
  rw [hmove]
  exact left_of_loss hcurrent hon

/-! ## A connection ends once -/

/-- Bridge `i` was there and is not the current one. -/
structure Gone (i : Nat) (s : Session) : Prop where
  known : i < s.bridges.length
  current : s.current ≠ some i

/-- The current bridge stays, is given up, or is a new one. -/
theorem Tick.current (h : Tick s s') :
    s'.current = s.current ∨ s'.current = none ∨ s'.current = some s.bridges.length := by
  cases h with
  | note | cue | type | flags | enter | online | shut | call | shelve | skip => exact .inl rfl
  | discard => exact .inr (.inl rfl)
  | connect => exact .inr (.inr rfl)
  | write | flush | relay => exact .inl (current_wrote _ _ _)
  | turn i op => exact .inl (current_onBridge i op)
  | hold => exact .inl (current_hold _ _)

theorem Tick.gone (h : Tick s s') (hg : Gone i s) : Gone i s' where
  known := Nat.lt_of_lt_of_le hg.known h.later.bridges
  current hc := by
    obtain heq | heq | heq := h.current
    · exact hg.current (heq.symm.trans hc)
    · rw [heq] at hc
      cases hc
    · -- The new bridge has a number that no bridge had before.
      rw [heq, Option.some.injEq] at hc
      exact absurd hg.known (by omega)

theorem Ticks.gone (h : Ticks s s') (hg : Gone i s) : Gone i s' := h.keep Tick.gone hg

/-- **A connection ends once**, and is gone after that. -/
theorem Path.ends_le_one (h : Path s made p) (hs : s.Steady) (i : Nat) :
    made.countP (·.ends i) ≤ 1 ∧ (0 < made.countP (·.ends i) → Gone i p) := by
  induction h with
  | start => exact ⟨Nat.zero_le _, fun h => absurd h (Nat.lt_irrefl 0)⟩
  | @step made p move before possible ih =>
    obtain ⟨ih_once, ih_gone⟩ := ih
    have hsteady := before.steady hs
    have hticks := ticks_move hsteady possible
    rw [List.countP_append, List.countP_singleton]
    by_cases hends : Moment.ends ⟨p, move⟩ i = true
    · simp only [Moment.ends, Bool.and_eq_true, beq_iff_eq, bne_iff_ne] at hends
      -- What ends now was the current one, so it had not ended before.
      have hzero : made.countP (·.ends i) = 0 := by
        by_contra hne
        exact (ih_gone (Nat.pos_of_ne_zero hne)).current hends.1
      have hknown := hsteady.sound.wired.current_lt i hends.1
      rw [hzero]
      exact ⟨by split <;> omega, fun _ =>
        ⟨Nat.lt_of_lt_of_le hknown hticks.later.bridges, hends.2⟩⟩
    · rw [if_neg hends]
      exact ⟨ih_once, fun h => hticks.gone (ih_gone h)⟩

/-- What is lost ends. -/
theorem Moment.ends_of_lost (h : m.lost? = some i) : m.ends i = true := by
  obtain ⟨-, hcurrent, -⟩ := Moment.lost?_eq_some h
  obtain ⟨ok, hnext⟩ := Moment.next_of_lost h
  have hnone : m.next.current = none := by
    rw [hnext]
    cases ok <;> rfl
  simp [Moment.ends, hcurrent, hnone]

/-- No connection is lost twice. -/
theorem Path.lost_nodup (h : Path s made p) (hs : s.Steady) : (lost made).Nodup := by
  rw [List.nodup_iff_count]
  intro i
  unfold lost
  rw [List.count_filterMap]
  refine Nat.le_trans (List.countP_mono_left fun m _ hlost => ?_) (h.ends_le_one hs i).1
  exact Moment.ends_of_lost (eq_of_beq hlost)

/-- A connection that ends in another way is not lost at all. -/
theorem Path.not_lost (h : Path s made p) (hs : s.Steady) (hm : m ∈ made)
    (hends : m.ends i = true) (hother : m.lost? ≠ some i) : i ∉ lost made := by
  intro hlost
  obtain ⟨m', hm', hlost'⟩ := List.mem_filterMap.mp hlost
  have honce := (h.ends_le_one hs i).1
  rw [List.countP_eq_countP_filter_add made (·.ends i) (·.lost? == some i)] at honce
  have hthis : 0 < (made.filter fun m => !(m.lost? == some i)).countP (·.ends i) :=
    List.countP_pos_iff.mpr ⟨m, List.mem_filter.mpr ⟨hm, by simp [hother]⟩, hends⟩
  have hthat : 0 < (made.filter (·.lost? == some i)).countP (·.ends i) :=
    List.countP_pos_iff.mpr ⟨m', List.mem_filter.mpr ⟨hm', by simp [hlost']⟩,
      Moment.ends_of_lost hlost'⟩
  omega

/-! ## What comes before a loss -/

/-- All bytes that arrived on line `i`, read or not. -/
def arrived (s : Session) (i : Nat) : Bytes :=
  ((s.bridges[i]?.bind (·.line)).map Line.arrived).getD []

theorem arrived_eq_taken {b : Bridge} (hb : s.bridges[i]? = some b) (hd : b.Drained) :
    s.arrived i = s.taken i := by
  unfold arrived taken Bridge.taken
  rw [hb, Option.bind_some, Option.map_some, Option.getD_some]
  cases hline : b.line with
  | none => rfl
  | some line =>
    rw [Option.map_some, Option.map_some, Option.getD_some, Option.getD_some, Line.arrived,
      hd line hline, List.flatten_nil, List.append_nil]

/-- **When a loss is handled, all that arrived on the line has passed**. -/
theorem passed_of_loss (hs : s.Steady) (hb : s.Balanced) (hd : s.Delivered)
    {rest : List (Nat × Signal)} (hq : s.queue = (i, .closed) :: rest) (hc : s.current = some i)
    (hon : s.mode = .connected) : s.passed i = s.arrived i := by
  have hbridge := List.getElem?_eq_getElem (hs.sound.wired.current_lt i hc)
  have hheld := (hs.rest hd).held hon
  have hqueued : s.queued i = [] := by
    unfold queued
    rw [(signalsOf_of_closed hs.sound hq hc hbridge).1]
    rfl
  have haccounted := hb.accounted hd i hc
  unfold Accounted at haccounted
  rw [hheld, hqueued, List.flatten_nil, List.append_nil, List.append_nil] at haccounted
  rw [haccounted, arrived_eq_taken hbridge (hs.sound.queued.drained i _ hc hbridge)]

/-- **`NO CARRIER` comes once for each failure.** At every point of a run at which the session is
open and all writes have succeeded, the modem has written `NO CARRIER` as often as dials failed
and connections were lost. No connection is lost twice, and one that ended in another way is not
lost at all. A loss leaves the session in command mode, with no bridge and nothing held, and by
then all that arrived on the line has been written or dropped. -/
theorem no_carrier_once (settings : Settings) (around : Surroundings) (calls : List Call) (n : Nat)
    (hd : ((start settings around).point calls n).Delivered)
    (hopen : ((start settings around).point calls n).closed = false) :
    let past := (start settings around).past calls n
    ((start settings around).point calls n).noCarriers =
      past.countP Moment.failsDial + (lost past).length ∧
    (lost past).Nodup ∧
    (∀ m ∈ past, ∀ i, m.ends i = true → m.lost? ≠ some i → i ∉ lost past) ∧
    ∀ m ∈ past, ∀ i, m.lost? = some i →
      m.next.mode = .command ∧ m.next.bridge? = none ∧ m.next.held = [] ∧
      m.next.log = .noCarrier :: m.state.log ∧ m.state.passed i = m.state.arrived i := by
  intro past
  have hstart := steady_start settings around
  have hpath := path_point hstart calls n
  refine ⟨noCarriers_eq_failures hpath hstart rfl hd hopen, hpath.lost_nodup hstart,
    fun m hm i hends hother => hpath.not_lost hstart hm hends hother, fun m hm i hlost => ?_⟩
  obtain ⟨hmove, hcurrent, hon⟩ := Moment.lost?_eq_some hlost
  obtain ⟨before, hbefore, hpossible, hafter⟩ := hpath.mem hstart hm
  have hsteady := hbefore.steady hstart
  have hnext : m.next.Steady := hsteady.move hpossible
  have hd₁ : m.next.Delivered := hafter.later.delivered hnext.sound.counted hd
  have hd₀ : m.state.Delivered :=
    (ticks_move hsteady hpossible).later.delivered hsteady.sound.counted hd₁
  have hbalanced := (hbefore.ticks hstart).balanced hstart.sound (balanced_start settings around)
  rw [hmove] at hpossible
  obtain ⟨rest, hq⟩ := hpossible
  obtain ⟨ok, heq⟩ := Moment.next_of_lost hlost
  rw [heq] at hd₁ ⊢
  obtain rfl := ok_of_delivered (s := m.state.cutOff) hsteady.sound.counted hd₁
  exact ⟨rfl, rfl, rfl, rfl, passed_of_loss hsteady hbalanced hd₀ hq hcurrent hon⟩

/-- A dial to nobody, a connection that the remote end closes, and one that the client ends. -/
def failingCalls : List Call :=
  [.feed (Bytes.ofText "ATD2\r"), .feed (Bytes.ofText "ATD1\r"), .remote 0 [.hangUp], .events,
    .feed (Bytes.ofText "ATD1\r"), .feed escapeBytes, .feed (Bytes.ofText "ATH\r"), .events]

/-- One dial that fails and one connection that is lost, of two. -/
theorem no_carrier_once_each :
    let s := (start someSettings someSurroundings).point failingCalls 30
    let past := (start someSettings someSurroundings).past failingCalls 30
    (s.noCarriers = 2 ∧ past.countP Moment.failsDial = 1 ∧ lost past = [0] ∧
      s.bridges.length = 2 ∧ s.queue = []) ∧
    s.noCarriers = past.countP Moment.failsDial + (lost past).length ∧
    (lost past).Nodup ∧
    (∀ m ∈ past, ∀ i, m.ends i = true → m.lost? ≠ some i → i ∉ lost past) ∧
    ∀ m ∈ past, ∀ i, m.lost? = some i →
      m.next.mode = .command ∧ m.next.bridge? = none ∧ m.next.held = [] ∧
      m.next.log = .noCarrier :: m.state.log ∧ m.state.passed i = m.state.arrived i :=
  ⟨by decide +kernel, no_carrier_once someSettings someSurroundings failingCalls 30
    (by decide +kernel) (by decide +kernel)⟩

end DialUp.Session
