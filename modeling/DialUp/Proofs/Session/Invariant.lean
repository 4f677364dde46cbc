import DialUp.Proofs.Session.Ticks

/-!
# What is true of a session at all times

* `Tidy`: mode, current bridge, typed line and held bytes fit together;
* `Wired`: only the line of the current bridge can be open, and only as long as the session is;
* `Queued`: the signals of the current bridge are data, and after all data the end of its
  connection once that has ended.

`Sound` is all of it, and every tick keeps it (`Tick.sound`), so it holds wherever an operation
of a session stops.
-/

namespace DialUp.Session

variable {s s' : Session}

/-! ## Mode, typed line and held bytes -/

/-- Mode, current bridge, typed line and held bytes fit together. -/
structure Tidy (s : Session) : Prop where
  online : s.mode = .connected → s.current.isSome = true ∧ s.typed = []
  bare : s.current = none → s.held = []
  size : s.heldSize = s.held.flatten.length
  bound : s.heldSize ≤ s.settings.heldLimit

theorem flatten_dropOldest (excess : Nat) (chunks : List Bytes) :
    (dropOldest excess chunks).flatten = chunks.flatten.drop excess := by
  induction chunks generalizing excess with
  | nil => cases excess <;> simp [dropOldest]
  | cons chunk rest ih =>
    cases excess with
    | zero => simp [dropOldest]
    | succ excess =>
      unfold dropOldest
      by_cases h : chunk.length ≤ excess + 1
      · rw [if_pos h, ih, List.flatten_cons, List.drop_append, List.drop_eq_nil_of_le h,
          List.nil_append]
      · rw [if_neg h, List.flatten_cons, List.flatten_cons,
          List.drop_append_of_le_length (by omega)]

/-- Held bytes after one more chunk: the newest ones, as many as may be held. -/
theorem hold_spec (s : Session) (i : Nat) (chunk : Bytes) :
    ∃ excess, excess = s.heldSize + chunk.length - s.settings.heldLimit ∧
      (s.hold i chunk).held.flatten = (s.held.flatten ++ chunk).drop excess ∧
      (s.hold i chunk).heldSize = s.heldSize + chunk.length - excess ∧
      ∀ j, (s.hold i chunk).passed j = s.passed j ++
        if i = j then (s.held.flatten ++ chunk).take excess else [] := by
  refine ⟨_, rfl, ?_⟩
  unfold hold
  dsimp only
  by_cases h : s.settings.heldLimit < s.heldSize + chunk.length
  · rw [if_pos h]
    refine ⟨?_, ?_, fun j => ?_⟩
    · exact (flatten_dropOldest _ _).trans (by simp)
    · show s.settings.heldLimit = _
      omega
    · rw [passed_emit, passed_emit]
      simp [Effect.given, Effect.denied, passed]
  · rw [if_neg h, show s.heldSize + chunk.length - s.settings.heldLimit = 0 by omega]
    exact ⟨by simp, rfl, fun j => by simp [passed]⟩

theorem hold_kept (s : Session) (i : Nat) (chunk : Bytes) :
    ∃ held heldSize log, s.hold i chunk = { s with held, heldSize, log } := by
  unfold hold
  dsimp only
  split
  · exact ⟨_, _, _, rfl⟩
  · exact ⟨_, _, _, rfl⟩

theorem wrote_kept (s : Session) (ok : Bool) (origin : Origin) (data : Bytes) :
    ∃ writes log, s.wrote ok origin data = { s with writes, log } := by
  cases ok
  · exact ⟨_, _, rfl⟩
  · exact ⟨_, _, rfl⟩

theorem onBridge_kept (s : Session) (i : Nat) (op : Bridge → Bridge.Turn) :
    ∃ bridges queue log, s.onBridge i op = { s with bridges, queue, log } := by
  obtain ⟨-, heq⟩ | ⟨b, -, heq⟩ := onBridge_cases (s := s) i op
  · exact ⟨_, _, _, heq⟩
  · exact ⟨_, _, _, heq.trans (absorb_eq _)⟩

@[simp] theorem current_wrote (ok : Bool) (origin : Origin) (data : Bytes) :
    (s.wrote ok origin data).current = s.current := by
  cases ok <;> rfl

@[simp] theorem bridges_wrote (ok : Bool) (origin : Origin) (data : Bytes) :
    (s.wrote ok origin data).bridges = s.bridges := by
  cases ok <;> rfl

@[simp] theorem current_hold (i : Nat) (chunk : Bytes) : (s.hold i chunk).current = s.current := by
  obtain ⟨_, _, _, heq⟩ := hold_kept s i chunk
  rw [heq]

@[simp] theorem bridges_hold (i : Nat) (chunk : Bytes) : (s.hold i chunk).bridges = s.bridges := by
  obtain ⟨_, _, _, heq⟩ := hold_kept s i chunk
  rw [heq]

@[simp] theorem current_onBridge (i : Nat) (op : Bridge → Bridge.Turn) :
    (s.onBridge i op).current = s.current := by
  obtain ⟨_, _, _, heq⟩ := onBridge_kept s i op
  rw [heq]

@[simp] theorem held_onBridge (i : Nat) (op : Bridge → Bridge.Turn) :
    (s.onBridge i op).held = s.held := by
  obtain ⟨_, _, _, heq⟩ := onBridge_kept s i op
  rw [heq]

theorem Tidy.wrote (h : s.Tidy) (ok : Bool) (origin : Origin) (data : Bytes) :
    (s.wrote ok origin data).Tidy := by
  obtain ⟨_, _, heq⟩ := wrote_kept s ok origin data
  rw [heq]
  exact ⟨h.online, h.bare, h.size, h.bound⟩

theorem Tidy.unhold (h : s.Tidy) {chunk : Bytes} {rest : List Bytes}
    (hc : s.current.isSome = true) (hheld : s.held = chunk :: rest) :
    (s.unhold chunk rest).Tidy := by
  have hsize := h.size
  have hbound := h.bound
  rw [hheld, List.flatten_cons, List.length_append] at hsize
  refine ⟨h.online, fun hn => ?_, ?_, ?_⟩
  · rw [show s.current = none from hn] at hc
    cases hc
  · show s.heldSize - chunk.length = rest.flatten.length
    omega
  · show s.heldSize - chunk.length ≤ s.settings.heldLimit
    omega

theorem Tidy.hold (h : s.Tidy) {i : Nat} (hc : s.current = some i) (hm : s.mode ≠ .connected)
    (chunk : Bytes) : (s.hold i chunk).Tidy := by
  obtain ⟨excess, hexcess, hheld, hsize, -⟩ := hold_spec s i chunk
  obtain ⟨held, heldSize, log, heq⟩ := hold_kept s i chunk
  rw [heq] at hheld hsize ⊢
  refine ⟨fun hon => absurd hon hm, fun hn => ?_, ?_, ?_⟩
  · rw [show s.current = none from hn] at hc
    cases hc
  · show heldSize = held.flatten.length
    rw [show held.flatten = _ from hheld, List.length_drop, List.length_append, ← h.size]
    exact hsize
  · show heldSize ≤ s.settings.heldLimit
    rw [show heldSize = _ from hsize]
    omega

theorem Tick.tidy (h : Tick s s') (hs : s.Tidy) : s'.Tidy := by
  cases h with
  | note | cue | flags | shut | shelve | skip | call =>
    exact ⟨hs.online, hs.bare, hs.size, hs.bound⟩
  | write ok data => exact hs.wrote ok .modem data
  | type typed offline => exact ⟨fun h => absurd h offline, hs.bare, hs.size, hs.bound⟩
  | enter mode offline => exact ⟨fun h => absurd h offline, hs.bare, hs.size, hs.bound⟩
  | online current blank => exact ⟨fun _ => ⟨current, blank⟩, hs.bare, hs.size, hs.bound⟩
  | turn i op =>
    obtain ⟨_, _, _, heq⟩ := onBridge_kept s i op
    rw [heq]
    exact ⟨hs.online, hs.bare, hs.size, hs.bound⟩
  | discard mode offline =>
    exact ⟨fun h => absurd h offline, fun _ => rfl, rfl, Nat.zero_le _⟩
  | connect =>
    exact ⟨fun h => ⟨rfl, (hs.online h).2⟩, fun h => absurd h (by simp), hs.size, hs.bound⟩
  | @flush ok i chunk rest current held =>
    exact (hs.unhold (by rw [current]; rfl) held).wrote ok (.line i) chunk
  | @relay ok i chunk rest =>
    exact Tidy.wrote (s := { s with queue := rest })
      ⟨hs.online, hs.bare, hs.size, hs.bound⟩ ok (.line i) chunk
  | @hold i chunk rest _ current offline =>
    exact Tidy.hold (s := { s with queue := rest }) ⟨hs.online, hs.bare, hs.size, hs.bound⟩
      current offline chunk

/-! ## Lines -/

/-- Only the line of the current bridge can be open, and only as long as the session is. -/
structure Wired (s : Session) : Prop where
  sound : ∀ b ∈ s.bridges, b.Sound
  current_lt : ∀ i, s.current = some i → i < s.bridges.length
  live : ∀ i b, s.bridges[i]? = some b → b.connected = true → s.current = some i ∧ s.closed = false
  /-- No line was open at a connect. -/
  calls : ∀ route timeout busy, Effect.connect route timeout busy ∈ s.log → busy = []

theorem mem_openLines {i : Nat} : i ∈ s.openLines ↔
    ∃ b line, s.bridges[i]? = some b ∧ b.line = some line ∧ line.isOpen = true := by
  unfold openLines
  rw [List.mem_filter, List.mem_range]
  constructor
  · rintro ⟨-, hopen⟩
    obtain ⟨line, hline, hopen⟩ := (Option.any_eq_true _ _).mp hopen
    obtain ⟨b, hb, hline⟩ := Option.bind_eq_some_iff.mp hline
    exact ⟨b, line, hb, hline, hopen⟩
  · rintro ⟨b, line, hb, hline, hopen⟩
    refine ⟨(List.getElem?_eq_some_iff.mp hb).1, ?_⟩
    rw [hb, Option.bind_some, hline]
    exact hopen

/-- An open line is that of the current bridge, which is live. -/
theorem Wired.live_of_open (h : s.Wired) {i : Nat} (hi : i ∈ s.openLines) :
    s.current = some i ∧ s.closed = false ∧ ∃ b, s.bridge? = some b ∧ b.connected = true := by
  obtain ⟨b, line, hb, hline, hopen⟩ := mem_openLines.mp hi
  have hlive : b.connected = true := by
    cases hc : b.connected with
    | true => rfl
    | false =>
      have := (h.sound b (List.mem_of_getElem? hb)).dead hc line hline
      exact absurd (this.symm.trans hopen) (by decide)
  obtain ⟨hcurrent, hclosed⟩ := h.live i b hb hlive
  refine ⟨hcurrent, hclosed, b, ?_, hlive⟩
  rw [bridge?, hcurrent]
  exact hb

theorem Wired.openLines_eq_nil (h : s.Wired) (hc : s.current = none) : s.openLines = [] := by
  refine List.eq_nil_iff_forall_not_mem.mpr fun i hi => ?_
  obtain ⟨hcurrent, -⟩ := h.live_of_open hi
  rw [hc] at hcurrent
  cases hcurrent

/-- A turn of a bridge, as the list of bridges shows it. -/
theorem getElem?_onBridge (op : Bridge → Bridge.Turn) {b : Bridge} {i : Nat}
    (hb : s.bridges[i]? = some b) (j : Nat) :
    (s.onBridge i op).bridges[j]? = if j = i then some (op b).bridge else s.bridges[j]? := by
  obtain ⟨hn, -⟩ | ⟨b', hb', heq⟩ := onBridge_cases (s := s) i op
  · rw [hn] at hb
    cases hb
  · rw [heq, absorb_eq]
    obtain rfl : b' = b := Option.some.inj (hb'.symm.trans hb)
    show (s.bridges.set i (op b').bridge)[j]? = _
    rw [List.getElem?_set]
    by_cases hj : j = i
    · subst hj
      rw [if_pos rfl, if_pos rfl, if_pos (List.getElem?_eq_some_iff.mp hb).1]
    · rw [if_neg (Ne.symm hj), if_neg hj]

theorem length_onBridge (i : Nat) (op : Bridge → Bridge.Turn) :
    (s.onBridge i op).bridges.length = s.bridges.length := by
  obtain ⟨-, heq⟩ | ⟨b, -, heq⟩ := onBridge_cases (s := s) i op
  · rw [heq]
  · rw [heq, absorb_eq]
    exact List.length_set

theorem mem_log_onBridge {i : Nat} {op : Bridge → Bridge.Turn} {route : Route}
    {timeout : Numeral.Double} {busy : List Nat}
    (h : Effect.connect route timeout busy ∈ (s.onBridge i op).log) :
    Effect.connect route timeout busy ∈ s.log := by
  obtain ⟨-, heq⟩ | ⟨b, -, heq⟩ := onBridge_cases (s := s) i op
  · rwa [heq] at h
  · rw [heq, absorb_eq] at h
    simpa using h

theorem Wired.onBridge (h : s.Wired) {i : Nat} {op : Bridge → Bridge.Turn}
    (hop : ∀ b, s.bridges[i]? = some b → (op b).Follows b) : (s.onBridge i op).Wired := by
  cases hb : s.bridges[i]? with
  | none =>
    rw [show s.onBridge i op = s by simp [Session.onBridge, hb]]
    exact h
  | some b =>
    have hf := hop b hb
    have hget := getElem?_onBridge op hb
    obtain ⟨bridges, queue, log, heq⟩ := onBridge_kept s i op
    refine ⟨fun c hc => ?_, fun j hj => ?_, fun j c hj hlive => ?_, fun _ _ _ he => ?_⟩
    · obtain ⟨j, hj⟩ := List.mem_iff_getElem?.mp hc
      rw [hget] at hj
      split at hj
      · cases hj
        exact hf.sound
      · exact h.sound c (List.mem_of_getElem? hj)
    · rw [length_onBridge]
      rw [heq] at hj
      exact h.current_lt j hj
    · rw [hget] at hj
      rw [heq]
      split at hj
      · rename_i hji
        cases hj
        subst hji
        -- Only a live bridge can be live after its turn.
        cases hc : b.connected with
        | true => exact h.live j b hb hc
        | false =>
          rw [(hf.idle hc).1] at hlive
          exact absurd (hc.symm.trans hlive) (by decide)
      · exact h.live j c hj hlive
    · exact h.calls _ _ _ (mem_log_onBridge he)

theorem mem_log_wrote {ok : Bool} {origin : Origin} {data : Bytes} {route : Route}
    {timeout : Numeral.Double} {busy : List Nat}
    (h : Effect.connect route timeout busy ∈ (s.wrote ok origin data).log) :
    Effect.connect route timeout busy ∈ s.log := by
  cases ok with
  | true => simpa [wrote, emit] using h
  | false => exact h

theorem mem_log_hold {i : Nat} {chunk : Bytes} {route : Route} {timeout : Numeral.Double}
    {busy : List Nat} (h : Effect.connect route timeout busy ∈ (s.hold i chunk).log) :
    Effect.connect route timeout busy ∈ s.log := by
  unfold hold at h
  dsimp only at h
  split at h
  · simpa [emit] using h
  · exact h

theorem Wired.wrote (h : s.Wired) (ok : Bool) (origin : Origin) (data : Bytes) :
    (s.wrote ok origin data).Wired := by
  have hcalls : ∀ route timeout busy,
      Effect.connect route timeout busy ∈ (s.wrote ok origin data).log → busy = [] :=
    fun _ _ _ he => h.calls _ _ _ (mem_log_wrote he)
  obtain ⟨_, _, heq⟩ := wrote_kept s ok origin data
  rw [heq] at hcalls ⊢
  exact ⟨h.sound, h.current_lt, h.live, hcalls⟩

theorem Wired.hold (h : s.Wired) (i : Nat) (chunk : Bytes) : (s.hold i chunk).Wired := by
  have hcalls : ∀ route timeout busy,
      Effect.connect route timeout busy ∈ (s.hold i chunk).log → busy = [] :=
    fun _ _ _ he => h.calls _ _ _ (mem_log_hold he)
  obtain ⟨_, _, _, heq⟩ := hold_kept s i chunk
  rw [heq] at hcalls ⊢
  exact ⟨h.sound, h.current_lt, h.live, hcalls⟩

/-- One more bridge, whose connection cannot be live unless it is the current one. -/
theorem Wired.append (h : s.Wired) {b : Bridge} {current : Option Nat} (hb : b.Sound)
    (hcurrent : ∀ i, current = some i → i ≤ s.bridges.length)
    (hold : s.current = current ∨ s.current = none)
    (hlive : b.connected = true → current = some s.bridges.length ∧ s.closed = false)
    (queue : List (Nat × Signal)) :
    ({ s with bridges := s.bridges ++ [b], current, queue } : Session).Wired := by
  refine ⟨fun c hc => ?_, fun i hi => ?_, fun i c hi hc => ?_, h.calls⟩
  · rcases List.mem_append.mp hc with hc | hc
    · exact h.sound c hc
    · rwa [List.mem_singleton.mp hc]
  · have := hcurrent i hi
    simp only [List.length_append, List.length_singleton]
    omega
  · rcases Nat.lt_or_ge i s.bridges.length with hlt | hge
    · rw [List.getElem?_append_left hlt] at hi
      obtain ⟨hcur, hclosed⟩ := h.live i c hi hc
      rcases hold with hsame | hnone
      · exact ⟨hsame.symm.trans hcur, hclosed⟩
      · rw [hnone] at hcur
        cases hcur
    · rw [List.getElem?_append_right hge] at hi
      obtain ⟨hlt, hget⟩ := List.getElem?_eq_some_iff.mp hi
      simp only [List.length_singleton] at hlt
      obtain rfl : i = s.bridges.length := by omega
      obtain rfl : b = c := by simpa using hget
      exact hlive hc

theorem Tick.wired (h : Tick s s') (hs : s.Wired) : s'.Wired := by
  cases h with
  | cue | type | flags | enter | online | skip =>
    exact ⟨hs.sound, hs.current_lt, hs.live, hs.calls⟩
  | note e quiet =>
    refine ⟨hs.sound, hs.current_lt, hs.live, fun route timeout busy he => ?_⟩
    rcases List.mem_cons.mp he with rfl | he
    · exact quiet.elim
    · exact hs.calls route timeout busy he
  | write ok data => exact hs.wrote ok .modem data
  | turn i op follows => exact hs.onBridge follows
  | shut ended =>
    refine ⟨hs.sound, hs.current_lt, fun i b hb hc => ?_, hs.calls⟩
    exact absurd ((ended b (List.mem_of_getElem? hb)).symm.trans hc) (by decide)
  | discard mode _ ended =>
    refine ⟨hs.sound, fun i hi => absurd hi (by simp [clearHeld]), fun i b hb hc => ?_, hs.calls⟩
    have := ended i b (hs.live i b hb hc).1 hb
    exact absurd (this.symm.trans hc) (by decide)
  | call route idle =>
    refine ⟨hs.sound, hs.current_lt, hs.live, fun route timeout busy he => ?_⟩
    rcases List.mem_cons.mp he with he | he
    · cases he
      exact hs.openLines_eq_nil idle
    · exact hs.calls route timeout busy he
  | shelve b sound ended =>
    refine hs.append sound (fun i hi => Nat.le_of_lt (hs.current_lt i hi)) (.inl rfl) ?_ _
    exact fun hc => absurd (ended.symm.trans hc) (by decide)
  | connect b t idle open' live untouched follows =>
    exact hs.append follows.sound (fun i hi => Nat.le_of_eq (Option.some.inj hi).symm) (.inr idle)
      (fun _ => ⟨rfl, open'⟩) _
  | @flush ok i chunk rest =>
    exact Wired.wrote (s := s.unhold chunk rest)
      ⟨hs.sound, hs.current_lt, hs.live, hs.calls⟩ ok (.line i) chunk
  | @relay ok i chunk rest =>
    exact Wired.wrote (s := { s with queue := rest })
      ⟨hs.sound, hs.current_lt, hs.live, hs.calls⟩ ok (.line i) chunk
  | @hold i chunk rest =>
    exact Wired.hold (s := { s with queue := rest })
      ⟨hs.sound, hs.current_lt, hs.live, hs.calls⟩ i chunk

/-! ## Signals -/

/-- The signals of the current bridge that wait are data, and after all data the end of its
connection once that has ended. Nothing that arrived on its line is unread. -/
structure Queued (s : Session) : Prop where
  known : ∀ event ∈ s.queue, event.1 < s.bridges.length
  shape : ∀ i b, s.current = some i → s.bridges[i]? = some b → ∃ chunks : List Bytes,
    s.signalsOf i = chunks.map .data ++ if b.connected then [] else [.closed]
  drained : ∀ i b, s.current = some i → s.bridges[i]? = some b → b.Drained

theorem signalsOf_eq_nil (h : s.Queued) {i : Nat} (hi : s.bridges.length ≤ i) :
    s.signalsOf i = [] := by
  unfold signalsOf
  rw [List.map_eq_nil_iff, List.filter_eq_nil_iff]
  intro event he heq
  have := h.known event he
  rw [beq_iff_eq] at heq
  omega

theorem signalsOf_cons {event : Nat × Signal} {rest : List (Nat × Signal)}
    (hq : s.queue = event :: rest) (i : Nat) :
    s.signalsOf i = (if event.1 = i then [event.2] else []) ++
      ({ s with queue := rest } : Session).signalsOf i := by
  unfold signalsOf
  rw [hq, List.filter_cons]
  by_cases h : event.1 = i <;> simp [h]

/-- The first signal of the current bridge is taken out of the queue. -/
theorem Queued.tail (h : s.Queued) {i : Nat} {chunk : Bytes} {rest : List (Nat × Signal)}
    (hq : s.queue = (i, .data chunk) :: rest) : ({ s with queue := rest } : Session).Queued := by
  refine ⟨fun event he => h.known event (by rw [hq]; exact List.mem_cons_of_mem _ he),
    fun j b hj hb => ?_, h.drained⟩
  obtain ⟨chunks, hchunks⟩ := h.shape j b hj hb
  rw [signalsOf_cons hq] at hchunks
  by_cases hji : i = j
  · rw [if_pos hji, List.singleton_append] at hchunks
    cases chunks with
    | nil => cases hc : b.connected <;> simp [hc] at hchunks
    | cons c chunks =>
      rw [List.map_cons, List.cons_append] at hchunks
      exact ⟨chunks, (List.cons.inj hchunks).2⟩
  · rw [if_neg hji, List.nil_append] at hchunks
    exact ⟨chunks, hchunks⟩

theorem Queued.skip (h : s.Queued) {event : Nat × Signal} {rest : List (Nat × Signal)}
    (hq : s.queue = event :: rest) (hstale : s.current ≠ some event.1) :
    ({ s with queue := rest } : Session).Queued := by
  refine ⟨fun e he => h.known e (by rw [hq]; exact List.mem_cons_of_mem _ he),
    fun j b hj hb => ?_, h.drained⟩
  obtain ⟨chunks, hchunks⟩ := h.shape j b hj hb
  rw [signalsOf_cons hq, if_neg fun e => hstale (by rw [e]; exact hj), List.nil_append] at hchunks
  exact ⟨chunks, hchunks⟩

/-- The signals of a turn go behind those that wait. -/
theorem signalsOf_onBridge (op : Bridge → Bridge.Turn) {b : Bridge} {i : Nat}
    (hb : s.bridges[i]? = some b) (j : Nat) :
    (s.onBridge i op).signalsOf j = s.signalsOf j ++ if j = i then (op b).signals else [] := by
  have heq : (s.onBridge i op).queue = s.queue ++ (op b).signals.map (Prod.mk i) := by
    simp [Session.onBridge, hb, absorb_eq]
  rw [signalsOf_append _ heq]
  by_cases hj : j = i
  · rw [if_pos hj, hj, signals_same]
  · rw [if_neg hj, signals_other hj]

theorem Queued.onBridge (h : s.Queued) {i : Nat} {op : Bridge → Bridge.Turn}
    (hop : ∀ b, s.bridges[i]? = some b → (op b).Follows b) : (s.onBridge i op).Queued := by
  cases hb : s.bridges[i]? with
  | none =>
    rw [show s.onBridge i op = s by simp [Session.onBridge, hb]]
    exact h
  | some b =>
    have hf := hop b hb
    have hget := getElem?_onBridge op hb
    have hsignals := signalsOf_onBridge op hb
    refine ⟨fun event he => ?_, fun j c hj hc => ?_, fun j c hj hc => ?_⟩
    · rw [length_onBridge]
      have heq : (s.onBridge i op).queue = s.queue ++ (op b).signals.map (Prod.mk i) := by
        simp [Session.onBridge, hb, absorb_eq]
      rw [heq, List.mem_append] at he
      rcases he with he | he
      · exact h.known event he
      · obtain ⟨signal, -, rfl⟩ := List.mem_map.mp he
        exact (List.getElem?_eq_some_iff.mp hb).1
    · rw [hget] at hc
      rw [hsignals]
      rw [current_onBridge] at hj
      by_cases hji : j = i
      · subst hji
        rw [if_pos rfl] at hc ⊢
        cases hc
        obtain ⟨chunks, hchunks⟩ := h.shape j b hj hb
        rw [hchunks]
        cases hlive : b.connected with
        | true =>
          obtain ⟨more, hmore⟩ := hf.signals
          refine ⟨chunks ++ more, ?_⟩
          rw [hmore, hlive, if_pos rfl, List.append_nil, List.map_append, List.append_assoc]
          cases (op b).bridge.connected <;> rfl
        | false =>
          obtain ⟨hsame, hnone⟩ := hf.idle hlive
          refine ⟨chunks, ?_⟩
          rw [hnone, hsame, hlive, List.append_nil]
      · rw [if_neg hji] at hc ⊢
        rw [List.append_nil]
        exact h.shape j c hj hc
    · rw [hget] at hc
      rw [current_onBridge] at hj
      by_cases hji : j = i
      · subst hji
        rw [if_pos rfl] at hc
        cases hc
        cases hlive : b.connected with
        | true => exact hf.drained hlive
        | false =>
          rw [(hf.idle hlive).1]
          exact h.drained j b hj hb
      · rw [if_neg hji] at hc
        exact h.drained j c hj hc

theorem Queued.wrote (h : s.Queued) (ok : Bool) (origin : Origin) (data : Bytes) :
    (s.wrote ok origin data).Queued := by
  obtain ⟨_, _, heq⟩ := wrote_kept s ok origin data
  rw [heq]
  exact ⟨h.known, h.shape, h.drained⟩

theorem Tick.queued (h : Tick s s') (hs : s.Queued) (hw : s.Wired) : s'.Queued := by
  cases h with
  | note | cue | type | flags | enter | online | shut | call =>
    exact ⟨hs.known, hs.shape, hs.drained⟩
  | write ok data => exact hs.wrote ok .modem data
  | turn i op follows => exact hs.onBridge follows
  | discard => exact ⟨hs.known, fun _ _ h => (nomatch h), fun _ _ h => (nomatch h)⟩
  | shelve b =>
    have hget : ∀ i c, s.current = some i → (s.bridges ++ [b])[i]? = some c →
        s.bridges[i]? = some c := fun i c hi hc => by
      rwa [List.getElem?_append_left (hw.current_lt i hi)] at hc
    refine ⟨fun event he => ?_, fun i c hi hc => hs.shape i c hi (hget i c hi hc),
      fun i c hi hc => hs.drained i c hi (hget i c hi hc)⟩
    have := hs.known event he
    simp only [List.length_append, List.length_singleton]
    omega
  | connect b t idle open' live untouched follows =>
    have hget : ∀ i c, some s.bridges.length = some i → (s.bridges ++ [t.bridge])[i]? = some c →
        i = s.bridges.length ∧ c = t.bridge := by
      rintro i c ⟨⟩ hc
      rw [List.getElem?_append_right (Nat.le_refl _), Nat.sub_self] at hc
      exact ⟨rfl, (Option.some.inj hc).symm⟩
    refine ⟨fun event he => ?_, fun i c hi hc => ?_, fun i c hi hc => ?_⟩
    · simp only [List.length_append, List.length_singleton]
      rcases List.mem_append.mp he with he | he
      · have := hs.known event he
        omega
      · obtain ⟨signal, -, rfl⟩ := List.mem_map.mp he
        exact Nat.lt_succ_self _
    · obtain ⟨rfl, rfl⟩ := hget i c hi hc
      obtain ⟨chunks, hchunks⟩ := follows.signals
      refine ⟨chunks, ?_⟩
      rw [signalsOf_append (s := s) _ rfl, signalsOf_eq_nil hs (Nat.le_refl _), signals_same,
        List.nil_append, hchunks, live]
      cases t.bridge.connected <;> rfl
    · obtain ⟨rfl, rfl⟩ := hget i c hi hc
      exact follows.drained live
  | @flush ok i chunk rest =>
    exact Queued.wrote (s := s.unhold chunk rest)
      ⟨hs.known, hs.shape, hs.drained⟩ ok (.line i) chunk
  | skip queue stale => exact hs.skip queue stale
  | @relay ok i chunk rest queue => exact (hs.tail queue).wrote ok (.line i) chunk
  | @hold i chunk rest queue =>
    obtain ⟨_, _, _, heq⟩ := hold_kept { s with queue := rest } i chunk
    rw [heq]
    have h := hs.tail queue
    exact ⟨h.known, h.shape, h.drained⟩

/-! ## All of it -/

/-- What is true of a session at all times. -/
structure Sound (s : Session) : Prop where
  tidy : s.Tidy
  wired : s.Wired
  queued : s.Queued
  counted : s.outputs ≤ s.writes

theorem Tick.sound (h : Tick s s') (hs : s.Sound) : s'.Sound where
  tidy := h.tidy hs.tidy
  wired := h.wired hs.wired
  queued := h.queued hs.queued hs.wired
  counted := by
    have := h.later.writes
    have := hs.counted
    omega

theorem Ticks.sound (h : Ticks s s') (hs : s.Sound) : s'.Sound := h.keep Tick.sound hs

theorem sound_start (settings : Settings) (around : Surroundings) :
    (start settings around).Sound where
  tidy := ⟨fun h => (nomatch h), fun _ => rfl, rfl, Nat.zero_le _⟩
  wired := ⟨by simp [start], fun _ h => (nomatch h), by simp [start], by simp [start]⟩
  queued := ⟨by simp [start], fun _ _ h => (nomatch h), fun _ _ h => (nomatch h)⟩
  counted := Nat.le_refl _

end DialUp.Session
