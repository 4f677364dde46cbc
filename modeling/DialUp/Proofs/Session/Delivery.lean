import DialUp.Proofs.Session.Runs

/-!
# Remote bytes reach the client in order

Between the line and the client, remote bytes wait in the queue of signals and are held back while
the client is in command mode. `Balanced` says that nothing gets lost between these places: what
has passed, what is held and what is queued, in this order, is what was read from the line.

* `Tick.balanced`: every small change keeps the balance;
* `dropped_eq_nil`: bytes are dropped only where more is held back than may be;
* `delivered_in_order`: as long as that does not happen, the client gets all bytes in order.
-/

namespace DialUp.Session

variable {s s' p : Session} {i : Nat} {made : List Moment}

/-! ## Nothing comes from a bridge that is not there yet -/

/-- No byte of a bridge has passed before there is the bridge. -/
def Fresh (s : Session) : Prop := ∀ i, s.bridges.length ≤ i → s.passed i = []

/-- An effect that brings no byte of bridge `i`. -/
theorem passed_emit_of_nil {e : Effect} (h : e.given i ++ e.denied i = []) :
    (s.emit e).passed i = s.passed i := by
  rw [passed_emit, h, List.append_nil]

theorem Effect.Quiet.nil {e : Effect} (h : e.Quiet) (i : Nat) : e.given i ++ e.denied i = [] := by
  cases e <;> first | exact h.elim | rfl

theorem passed_wrote (s : Session) (ok : Bool) (origin : Origin) (data : Bytes) (j : Nat) :
    (s.wrote ok origin data).passed j =
      s.passed j ++ if ok && origin == .line j then data else [] := by
  cases ok with
  | false => exact (List.append_nil _).symm
  | true =>
    unfold wrote
    rw [if_pos rfl, passed_emit]
    cases origin <;> simp [Effect.given, Effect.denied, passed]

theorem passed_onBridge (j i : Nat) (op : Bridge → Bridge.Turn) :
    (s.onBridge j op).passed i = s.passed i := by
  obtain ⟨-, heq⟩ | ⟨b, -, heq⟩ := onBridge_cases (s := s) j op
  · rw [heq]
  · rw [heq, passed_absorb]

theorem Tick.fresh (h : Tick s s') (hw : s.Wired) (hs : s.Fresh) : s'.Fresh := by
  intro i hi
  cases h with
  | cue | type | flags | enter | online | shut | discard | skip => exact hs i hi
  | note e quiet =>
    rw [passed_emit_of_nil (quiet.nil i)]
    exact hs i hi
  | call route =>
    rw [passed_emit_of_nil rfl]
    exact hs i hi
  | write ok data =>
    rw [bridges_wrote] at hi
    rw [passed_wrote]
    simp [hs i hi]
  | turn j op =>
    rw [length_onBridge] at hi
    rw [passed_onBridge]
    exact hs i hi
  | shelve | connect =>
    simp only [List.length_append, List.length_singleton] at hi
    exact hs i (by omega)
  | @flush ok j chunk rest current =>
    rw [bridges_wrote] at hi
    have hi' : s.bridges.length ≤ i := hi
    have hji : j ≠ i := Nat.ne_of_lt (Nat.lt_of_lt_of_le (hw.current_lt j current) hi')
    rw [passed_wrote, show (s.unhold chunk rest).passed i = [] from hs i hi']
    simp [hji]
  | @relay ok j chunk rest _ current =>
    rw [bridges_wrote] at hi
    have hji : j ≠ i := Nat.ne_of_lt (Nat.lt_of_lt_of_le (hw.current_lt j current) hi)
    rw [passed_wrote, show ({ s with queue := rest } : Session).passed i = [] from hs i hi]
    simp [hji]
  | @hold j chunk rest _ current =>
    rw [bridges_hold] at hi
    have hji : j ≠ i := Nat.ne_of_lt (Nat.lt_of_lt_of_le (hw.current_lt j current) hi)
    obtain ⟨_, -, -, -, hpassed⟩ := hold_spec { s with queue := rest } j chunk
    rw [hpassed, if_neg hji, List.append_nil]
    exact hs i hi

/-! ## The balance -/

/-- All bytes read from line `i` are accounted for, in order. -/
def Accounted (s : Session) (i : Nat) : Prop :=
  s.passed i ++ s.held.flatten ++ s.queued i = s.taken i

theorem queued_cons {event : Nat × Signal} {rest : List (Nat × Signal)}
    (hq : s.queue = event :: rest) (i : Nat) :
    s.queued i = (if event.1 = i then payload [event.2] else []) ++
      ({ s with queue := rest } : Session).queued i := by
  unfold queued
  rw [signalsOf_cons hq, payload_append]
  by_cases h : event.1 = i
  · rw [if_pos h, if_pos h]
  · rw [if_neg h, if_neg h]
    rfl

/-- What an operation on a bridge reads, it queues. -/
theorem Accounted.onBridge (h : s.Accounted i) {op : Bridge → Bridge.Turn} (j : Nat)
    (hop : ∀ b, s.bridges[j]? = some b → (op b).Follows b) : (s.onBridge j op).Accounted i := by
  cases hb : s.bridges[j]? with
  | none =>
    rw [show s.onBridge j op = s by simp [Session.onBridge, hb]]
    exact h
  | some b =>
    unfold Accounted at h ⊢
    rw [passed_onBridge, held_onBridge, queued, signalsOf_onBridge op hb, payload_append, taken,
      getElem?_onBridge op hb]
    by_cases hij : i = j
    · subst hij
      rw [if_pos rfl, if_pos rfl, Option.map_some, Option.getD_some, (hop b hb).taken,
        ← List.append_assoc]
      rw [taken, hb] at h
      exact congrArg (· ++ payload (op b).signals) h
    · rw [if_neg hij, if_neg hij]
      exact (congrArg (_ ++ ·) (List.append_nil _)).trans h

/-- Bytes that move on between the three places stay accounted for. -/
theorem Accounted.move (h : s.Accounted i) (hbridges : s'.bridges[i]? = s.bridges[i]?)
    (hmove : s'.passed i ++ s'.held.flatten ++ s'.queued i =
      s.passed i ++ s.held.flatten ++ s.queued i) : s'.Accounted i := by
  unfold Accounted taken at h ⊢
  rw [hmove, hbridges, h]

/-- A chunk that was to go next is written. -/
theorem Accounted.wrote {ok : Bool} {chunk : Bytes} (h : s'.Accounted i)
    (hs : s.outputs ≤ s.writes) (hd : (s.wrote ok (.line i) chunk).Delivered)
    (hbridges : s.bridges = s'.bridges)
    (hmove : s.passed i ++ chunk ++ s.held.flatten ++ s.queued i =
      s'.passed i ++ s'.held.flatten ++ s'.queued i) :
    (s.wrote ok (.line i) chunk).Accounted i := by
  obtain rfl := ok_of_delivered hs hd
  refine h.move (congrArg (·[i]?) hbridges) ?_
  rw [passed_wrote, ← hmove]
  simp only [Bool.true_and, BEq.rfl, if_true]
  rfl

theorem Tick.accounted (h : Tick s s') (hs : s.Sound) (hfresh : s.Fresh)
    (hacc : ∀ i, s.current = some i → s.Accounted i) (hd : s'.Delivered)
    (hc : s'.current = some i) : s'.Accounted i := by
  have hdelivered := h.later.delivered hs.counted hd
  cases h with
  | cue | type | flags | enter | online | shut => exact hacc i hc
  | note e quiet =>
    refine (hacc i hc).move rfl ?_
    rw [passed_emit_of_nil (quiet.nil i)]
    rfl
  | call route =>
    refine (hacc i hc).move rfl ?_
    rw [passed_emit_of_nil rfl]
    rfl
  | write ok data =>
    have hpassed := passed_wrote s ok .modem data i
    obtain ⟨_, _, heq⟩ := wrote_kept s ok .modem data
    rw [heq] at hc hpassed ⊢
    refine (hacc i hc).move rfl ?_
    rw [hpassed, show (Origin.modem == .line i) = false from rfl, Bool.and_false,
      if_neg (by decide), List.append_nil]
    rfl
  | turn j op follows =>
    rw [current_onBridge] at hc
    exact (hacc i hc).onBridge j follows
  | discard => cases hc
  | shelve b => exact (hacc i hc).move (List.getElem?_append_left (hs.wired.current_lt i hc)) rfl
  | connect b t idle _ _ untouched follows =>
    -- Nothing of the new bridge has come yet, and nothing is held.
    obtain rfl : s.bridges.length = i := Option.some.inj hc
    have hnone : s.passed s.bridges.length ++ s.held.flatten = [] := by
      rw [hfresh _ (Nat.le_refl _), hs.tidy.bare idle]
      rfl
    unfold Accounted Session.queued Session.taken
    rw [signalsOf_append (s := s) _ rfl, signals_same, signalsOf_eq_nil hs.queued (Nat.le_refl _),
      List.nil_append, List.getElem?_concat_length, Option.map_some, Option.getD_some,
      follows.taken, untouched]
    exact congrArg (· ++ payload t.signals) hnone
  | @flush ok j chunk rest current held =>
    rw [current_wrote] at hc
    obtain rfl : j = i := Option.some.inj (current.symm.trans hc)
    refine (hacc j current).wrote hs.counted hd rfl ?_
    rw [held, List.flatten_cons, ← List.append_assoc]
    rfl
  | @skip event rest queue stale =>
    refine (hacc i hc).move rfl ?_
    rw [queued_cons queue, if_neg fun heq => stale (by rw [heq]; exact hc), List.nil_append]
    rfl
  | @relay ok j chunk rest queue current held =>
    rw [current_wrote] at hc
    obtain rfl : j = i := Option.some.inj (current.symm.trans hc)
    refine (hacc j current).wrote hs.counted hd rfl ?_
    -- Nothing is held, so nothing is overtaken.
    have hnone : s.held.flatten = [] := by rw [held hdelivered]; rfl
    rw [queued_cons queue, if_pos rfl, payload_single]
    show s.passed j ++ chunk ++ s.held.flatten ++ _ = _
    rw [hnone, List.append_nil, List.append_nil, List.append_assoc]
  | @hold j chunk rest queue current =>
    obtain ⟨excess, -, hheld, -, hpassed⟩ := hold_spec { s with queue := rest } j chunk
    obtain ⟨_, _, _, heq⟩ := hold_kept { s with queue := rest } j chunk
    obtain rfl : j = i := Option.some.inj (current.symm.trans (by rwa [heq] at hc))
    have hpassed := hpassed j
    rw [heq] at hheld hpassed ⊢
    refine (hacc j current).move rfl ?_
    rw [hpassed, if_pos rfl, hheld, List.append_assoc (Session.passed _ _), List.take_append_drop,
      queued_cons queue, if_pos rfl, payload_single]
    simp only [List.append_assoc]
    rfl

/-- **The balance of a session**: all bytes read from the current line are accounted for. -/
structure Balanced (s : Session) : Prop where
  fresh : s.Fresh
  accounted : s.Delivered → ∀ i, s.current = some i → s.Accounted i

theorem Tick.balanced (h : Tick s s') (hs : s.Sound) (hb : s.Balanced) : s'.Balanced where
  fresh := h.fresh hs.wired hb.fresh
  accounted hd _ hc :=
    h.accounted hs hb.fresh (hb.accounted (h.later.delivered hs.counted hd)) hd hc

theorem Ticks.balanced (h : Ticks s s') (hs : s.Sound) (hb : s.Balanced) : s'.Balanced := by
  have hboth : s'.Sound ∧ s'.Balanced :=
    h.keep (P := fun s => s.Sound ∧ s.Balanced)
      (fun ht ⟨hs, hb⟩ => ⟨ht.sound hs, ht.balanced hs hb⟩) ⟨hs, hb⟩
  exact hboth.2

theorem balanced_start (settings : Settings) (around : Surroundings) :
    (start settings around).Balanced :=
  ⟨fun _ _ => rfl, fun _ _ hc => nomatch hc⟩

/-! ## Drops -/

/-- Data of bridge `i` is to be held back beyond the limit. -/
def Moment.overflows (m : Moment) (i : Nat) : Bool :=
  match m.move with
  | .handle event => event.1 == i && m.state.overflows event
  | _ => false

/-- Without an overflow, a moment drops nothing. -/
theorem Moment.denied_eq_nil {m : Moment} (h : m.overflows i = false) {e : Effect}
    (he : e ∈ m.news) : e.denied i = [] := by
  obtain ⟨s, move⟩ := m
  cases move with
  | type byte =>
    rw [mem_newsOf he]
    rfl
  | forward | remote | close => cases he
  | handle event =>
    obtain ⟨j, signal⟩ := event
    cases signal with
    | closed =>
      rw [mem_newsOf he]
      rfl
    | data chunk =>
      change e ∈ s.newsOfSignal (j, .data chunk) at he
      rw [newsOfSignal] at he
      by_cases hover : s.overflows (j, .data chunk) = true
      · rw [if_pos hover, List.mem_singleton] at he
        have hji : j ≠ i := by
          rintro rfl
          simp [Moment.overflows, hover] at h
        rw [he]
        exact if_neg hji
      · rw [if_neg hover] at he
        cases he

/-- Bytes are dropped only where more is held back than may be. -/
theorem dropped_eq_nil (h : Path s made p) (hs : s.Steady) (hnews : s.news = [])
    (hd : p.Delivered) (hopen : p.closed = false) (hfit : ∀ m ∈ made, m.overflows i = false) :
    p.dropped i = [] := by
  rw [dropped_eq_news, h.told hs hd hopen, hnews, List.append_nil, List.flatMap_eq_nil_iff]
  intro e he
  obtain ⟨m, hm, he⟩ := List.mem_flatMap.mp (List.mem_reverse.mp he)
  exact Moment.denied_eq_nil (hfit m (List.mem_reverse.mp hm)) he

/-! ## Delivery -/

/-- **Remote bytes reach the client in order.** At every point of a run at which a connection is
the current one, the session is open and all writes have succeeded, what the client got from the
line, then what is held back, and then what is queued is exactly what was read from the line, if
no more was held back than may be. Online nothing is held back, so nothing can be overtaken. -/
theorem delivered_in_order (settings : Settings) (around : Surroundings) (calls : List Call)
    (n i : Nat) (hd : ((start settings around).point calls n).Delivered)
    (hopen : ((start settings around).point calls n).closed = false)
    (hc : ((start settings around).point calls n).current = some i)
    (hfit : ∀ m ∈ (start settings around).past calls n, m.overflows i = false) :
    let s := (start settings around).point calls n
    s.relayed i ++ s.held.flatten ++ s.queued i = s.taken i ∧
      (s.mode = .connected → s.held = []) := by
  intro s
  have hstart := steady_start settings around
  have hpath := path_point hstart calls n
  have hbalanced := (hpath.ticks hstart).balanced hstart.sound (balanced_start settings around)
  refine ⟨?_, ((hpath.steady hstart).rest hd).held⟩
  rw [← passed_eq_relayed (dropped_eq_nil hpath hstart rfl hd hopen hfit)]
  exact hbalanced.accounted hd i hc

/-- A phonebook with one endpoint. -/
def someSettings : Settings where
  phonebook := [{ number := "1", route := some "host:23" }]
  connectTimeout := .finite false 10 0

/-- A network that accepts every connect, with a remote end that greets. -/
def someSurroundings : Surroundings where
  network _ _ := { answer := .accepted { onConnect := [.deliver [0x61]] } }

/-- A dial and two escapes with remote data in them; the line goes online between them. -/
def someCalls : List Call :=
  [.feed (Bytes.ofText "ATD1\r"), .events, .feed escapeBytes, .remote 0 [.deliver [0x62]], .events,
    .feed (Bytes.ofText "ATO\r"), .feed escapeBytes, .remote 0 [.deliver [0x63]], .events,
    .remote 0 [.deliver [0x64]]]

/-- Two bytes that were written, one that is held, and one that is queued. -/
theorem delivered_in_order_escaped :
    let s := (start someSettings someSurroundings).point someCalls 17
    (s.relayed 0 = [0x61, 0x62] ∧ s.held = [[0x63]] ∧ s.queued 0 = [0x64]) ∧
      s.relayed 0 ++ s.held.flatten ++ s.queued 0 = s.taken 0 ∧
      (s.mode = .connected → s.held = []) :=
  ⟨by decide +kernel, delivered_in_order someSettings someSurroundings someCalls 17 0
    (by decide +kernel) (by decide +kernel) (by decide +kernel) (by decide +kernel)⟩

end DialUp.Session
