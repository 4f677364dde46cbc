import DialUp.Proofs.Session.Operations

/-!
# The laws of dialing

* `goes_dial`: a dial comes to rest in command mode or online, and writes `NO CARRIER` exactly if
  it fails (`dialFails`).

Which dials fail is read off the phonebook, the route and what the network will answer, before
anything is played or connected.
-/

namespace DialUp.Session

variable {s s' s'' : Session}

/-! ## Dials that fail -/

/-- The network refuses the next connect. -/
def routeFails (s : Session) (route : Route) : Bool :=
  (s.around.network s.connects route).answer.refuses

/-- Dialing an entry fails. An entry without a route is busy, which is no failure. -/
def entryFails (s : Session) (entry : Entry) : Bool :=
  match entry.route.filter (!·.isEmpty) with
  | none => false
  | some text =>
    match Route.parse text with
    | .error _ => true
    | .ok route => s.routeFails route

/-- **A dial fails**: nobody has the number, its route is malformed or its connect is refused. -/
def dialFails (s : Session) (number : String) : Bool :=
  match s.settings.phonebook.resolve (Phonebook.normalize number) with
  | none => true
  | some entry => s.entryFails entry

/-- Dialing comes to rest, and if the session was not closed, a failure was told to the client. -/
structure Dialed (s s' : Session) (fails : Bool) : Prop where
  rest : s'.AtRest
  told : s'.closed = false → s'.news = newsOf fails ++ s.news

/-! ## Connecting -/

/-- What comes of a connect. -/
structure Called (s s' : Session) (live : Bool) : Prop where
  current : s'.current.isSome = live
  mode : s'.mode = s.mode
  typed : s'.typed = s.typed
  held : s'.held = s.held
  news : s'.news = s.news

theorem Called.then {live live' : Bool} (h : Called s s' live) (h' : Called s' s'' live') :
    Called s s'' live' where
  current := h'.current
  mode := h'.mode.trans h.mode
  typed := h'.typed.trans h.typed
  held := h'.held.trans h.held
  news := h'.news.trans h.news

/-- A dial whose connect has broken down: it stopped where it was, and the client was told nothing,
which is right only if the dial is none that fails. -/
structure Broke (s : Session) (fails : Bool) (b : Breakdown) (s' : Session) : Prop where
  stranded : s'.Stranded b
  news : s'.news = newsOf fails ++ s.news

theorem Broke.of_aside {fails : Bool} {b : Breakdown} (h : Broke s' fails b s'') (ha : Aside s s') :
    Broke s fails b s'' :=
  ⟨h.stranded, by rw [h.news, ha.news]⟩

theorem ticks_notices (s : Session) (notices : List Notice) :
    Ticks s (s.emitAll (notices.map .notice)) := by
  unfold emitAll
  induction notices generalizing s with
  | nil => exact .refl
  | cons notice rest ih => exact (Relation.ReflTransGen.single (.note _ trivial)).trans (ih _)

theorem aside_notices (s : Session) (notices : List Notice) :
    Aside s (s.emitAll (notices.map .notice)) := by
  unfold emitAll
  induction notices generalizing s with
  | nil => exact .refl s
  | cons notice rest ih => exact (aside_emit rfl rfl).trans (ih _)

/-- A bridge that made a line comes last, and what it reports is noted after that. -/
theorem adopt_eq (turn : Bridge.Turn) (hline : turn.bridge.line.isSome = true) :
    s.adopt turn =
      ({ s with
        bridges := s.bridges ++ [turn.bridge]
        queue := s.queue ++ turn.signals.map (s.bridges.length, ·) } : Session).emitAll
          (turn.notices.map .notice) := by
  obtain ⟨line, hline⟩ := Option.isSome_iff_exists.mp hline
  unfold adopt
  rw [hline]
  dsimp only
  rw [absorb_eq, emitAll_eq]
  dsimp only
  rw [List.set_append_right _ _ (Nat.le_refl _), Nat.sub_self, List.set_cons_zero]

/-- The reader of a session that is closed ends the connection. -/
theorem closeUnrecorded_eq (s : Session) (number : Nat) :
    s.closeUnrecorded number = s.close.endConnection (some number) := by
  rw [closeUnrecorded, closed_close, funext Bridge.pump_cancelled]
  rfl

/-- A session that is closed while a connection is live, but not recorded, is as if it had been
closed right after. -/
theorem record_closeUnrecorded (hopen : s.closed = false) (hc : s.current = none) (number : Nat) :
    (s.closeUnrecorded number).record number = (s.record number).close := by
  rw [closeUnrecorded_eq]
  cases hb : s.bridges[number]? with
  | none =>
    cases howned : s.settings.speaker.owned <;>
      simp [close, record, closeAudio, endConnection, onBridge, emit, hopen, hc, hb, howned]
  | some b =>
    cases howned : s.settings.speaker.owned <;>
      simp [close, record, closeAudio, endConnection, onBridge, emit, hopen, hc, hb, howned,
        absorb_eq, Bridge.notices_disconnect]

theorem Called.aside {live : Bool} (h : Called s s' live) (ha : Aside s' s'') :
    Called s s'' live where
  current := by rw [ha.current, h.current]
  mode := ha.mode.trans h.mode
  typed := ha.typed.trans h.typed
  held := ha.held.trans h.held
  news := ha.news.trans h.news

theorem Called.notices {live : Bool} (h : Called s s' live) (notices : List Notice) :
    Called s (s'.emitAll (notices.map .notice)) live :=
  h.aside (aside_notices s' notices)

/-- Taking over what a connect came to: only a session that is closed turns down a line that was
accepted. -/
theorem settle_spec (hs : s.Sound) (hc : s.current = none) {endpoint : String} {answer : Answer}
    {outcome : Bool × Bridge.Turn} (h : Bridge.Connects s.closed endpoint answer outcome)
    (closesUnrecorded : Bool) :
    Ticks s (s.settle outcome.1 outcome.2 closesUnrecorded) ∧
      Called s (s.settle outcome.1 outcome.2 closesUnrecorded) outcome.1 ∧
      match outcome.2.raised with
      | some b => answer = .broken b ∧ s.settle outcome.1 outcome.2 closesUnrecorded = s
      | none => (s.settle outcome.1 outcome.2 closesUnrecorded).closed = false →
          outcome.1 = !answer.refuses := by
  have hidle : Called s s false := ⟨by rw [hc]; rfl, rfl, rfl, rfl, rfl⟩
  cases h with
  | refused notices refuses =>
    exact ⟨ticks_notices s notices, hidle.notices notices, fun _ => by rw [refuses]; rfl⟩
  | broken b => exact ⟨.refl, hidle, rfl, rfl⟩
  | cancelled b line dead sound cancels =>
    -- Closed meanwhile: the line is there, but was closed at once.
    have heq : s.settle false { bridge := b } closesUnrecorded =
        { s with bridges := s.bridges ++ [b] } := by
      refine (adopt_eq (s := s) { bridge := b } line).trans ?_
      rw [List.map_nil, List.append_nil]
      rfl
    rw [heq]
    have hidle : Called s { s with bridges := s.bridges ++ [b] } false :=
      ⟨hidle.current, rfl, rfl, rfl, rfl⟩
    refine ⟨.single (.shelve b sound dead), hidle, fun hopen => ?_⟩
    exact absurd (hopen.symm.trans cancels) (by decide)
  | accepted b t line live untouched follows quiet cancels refuses breaks =>
    dsimp only
    rw [quiet]
    have hadopt := adopt_eq (s := s) t line
    have tick : Tick s _ := .connect b t hc cancels live untouched follows
    have recorded : (s.adopt t).record s.bridges.length =
        ({ s with
          bridges := s.bridges ++ [t.bridge]
          current := some s.bridges.length
          queue := s.queue ++ t.signals.map (s.bridges.length, ·) } : Session).emitAll
            (t.notices.map .notice) := by
      rw [hadopt, emitAll_eq, emitAll_eq]
      rfl
    have ticks : Ticks s ((s.adopt t).record s.bridges.length) := by
      rw [recorded]
      exact (Relation.ReflTransGen.single tick).trans (ticks_notices _ _)
    have called : Called s ((s.adopt t).record s.bridges.length) true := by
      rw [recorded]
      have called : Called s { s with
          bridges := s.bridges ++ [t.bridge]
          current := some s.bridges.length
          queue := s.queue ++ t.signals.map (s.bridges.length, ·) } true :=
        ⟨rfl, rfl, rfl, rfl, rfl⟩
      exact called.notices _
    cases closesUnrecorded with
    | false => exact ⟨ticks, called, fun _ => by rw [refuses]; rfl⟩
    | true =>
      have heq : s.settle true t true = ((s.adopt t).record s.bridges.length).close := by
        refine record_closeUnrecorded ?_ ?_ s.bridges.length
        · rw [hadopt, emitAll_eq]
          exact cancels
        · rw [hadopt, emitAll_eq]
          exact hc
      rw [heq]
      have aside := aside_close ((s.adopt t).record s.bridges.length)
      refine ⟨ticks.trans (ticks_close (ticks.sound hs)), called.aside aside, fun _ => ?_⟩
      rw [refuses]
      rfl

theorem goes_connect (hs : s.Sound) (hc : s.current = none) (hmode : s.mode = .dialing)
    (route : Route) :
    GoesOr (Broke s (s.routeFails route)) s (connect route) s fun live s' => Called s s' live ∧
      (s'.closed = false → live = !s.routeFails route) := by
  unfold connect
  refine goes_get ?_
  refine goes_bind (goes_set (.single (.call route hc))) fun _ s₁ ht₁ h₁ => ?_
  have hanswer₁ : s₁.lastAnswer? = some (s.around.network s.connects route).answer := by
    rw [h₁]
    rfl
  have called₁ : Called s s₁ false := by
    rw [h₁]
    exact ⟨congrArg Option.isSome hc, rfl, rfl, rfl, rfl⟩
  have hc₁ : s₁.current = none := by
    rw [h₁]
    exact hc
  have hs₁ := ht₁.sound hs
  -- The session may be closed while the connect is under way.
  have closing : Goes s₁ (modify fun t => if (s.around.network s.connects route).closesSession
      then t.close else t) s₁ fun _ t => Aside s₁ t := by
    refine goes_modify ?_ ?_
    · split
      · exact ticks_close hs₁
      · exact .refl
    · split
      · exact aside_close s₁
      · exact .refl s₁
  refine goes_bind closing fun _ s₂ ht₂ h₂ => goes_get ?_
  have called₂ := called₁.aside h₂
  obtain ⟨ticks, called, hraised⟩ := settle_spec (ht₂.sound hs₁) (h₂.current.trans hc₁)
    (Bridge.connect_cases s₂.closed route.text (s.around.network s.connects route).answer)
    (s.around.network s.connects route).closesUnrecorded
  dsimp only at ticks called hraised ⊢
  generalize Bridge.connect s₂.closed {} route.text (s.around.network s.connects route).answer =
    outcome at ticks called hraised ⊢
  refine goes_set_bind ?_
  cases houtcome : outcome.2.raised with
  | some b =>
    rw [houtcome] at hraised
    obtain ⟨hbroken, hsame⟩ := hraised
    rw [hsame]
    refine goes_throw .refl ⟨⟨?_, h₂.current.trans hc₁, ?_⟩, ?_⟩
    · exact called₂.mode.trans hmode
    · rw [h₂.answer, hanswer₁, hbroken]
    · rw [routeFails, hbroken]
      exact called₂.news
  | none =>
    rw [houtcome] at hraised
    exact goes_pure ticks ⟨called₂.then called, hraised⟩

/-! ## The dial sequence -/

/-- A mode of command mode, or of a dial, is taken on. -/
theorem goes_enter {mode : Mode} (h : mode ≠ .connected) :
    Goes s (enter mode) s fun _ s' => s' = { s with mode } :=
  goes_modify (.single (.enter mode h)) rfl

theorem Later.open_of_open (h : Later s s') (hopen : s'.closed = false) : s.closed = false := by
  cases hclosed : s.closed with
  | false => rfl
  | true => exact absurd (hopen.symm.trans (h.closed hclosed)) (by decide)

theorem routeFails_congr (hl : Later s s') (hc : s'.connects = s.connects) (route : Route) :
    s'.routeFails route = s.routeFails route := by
  unfold routeFails
  rw [hl.around, hc]

theorem entryFails_congr (hl : Later s s') (hc : s'.connects = s.connects) (entry : Entry) :
    s'.entryFails entry = s.entryFails entry := by
  unfold entryFails
  simp only [routeFails_congr hl hc]

theorem dialFails_congr (hl : Later s s') (hc : s'.connects = s.connects) (number : String) :
    s'.dialFails number = s.dialFails number := by
  unfold dialFails
  simp only [entryFails_congr hl hc, hl.settings]

theorem goes_dialRoute (hs : s.Sound) (hc : s.current = none) (hdialing : s.mode = .dialing)
    (htyped : s.typed = []) (hheld : s.held = []) (route : Route) :
    GoesOr (Broke s (s.routeFails route)) s (dialRoute route) s fun _ s' =>
      Dialed s s' (s.routeFails route) := by
  unfold dialRoute
  refine goes_bindOr (goes_connect hs hc hdialing route) fun live s₁ ht₁ ⟨called, answered⟩ => ?_
  have hs₁ := ht₁.sound hs
  cases live with
  | true =>
    rw [if_pos rfl]
    refine goes_bind (goes_play hs₁ _) fun _ s₂ ht₂ h₂ => ?_
    refine goes_bind (goes_play (ht₂.sound hs₁) _) fun _ s₃ ht₃ h₃ => ?_
    have h := h₂.trans h₃
    have online : Tick s₃ { s₃ with mode := .connected } :=
      .online (by rw [h.current, called.current]) (by rw [h.typed, called.typed, htyped])
    refine goes_bind (goes_modify (.single online)
      (Q := fun _ s' => s' = { s₃ with mode := .connected }) rfl) fun _ s₄ ht₄ h₄ => ?_
    refine goes_last (goes_reply Response.connect.text (by decide)) fun _ s' ht' h' => ?_
    subst h₄
    refine ⟨⟨.inr (.inl h'.mode), fun _ => ?_⟩, fun hopen => ?_⟩
    · rw [h'.held]
      exact h.held.trans (called.held.trans hheld)
    · have hopen₁ := (Ticks.later (((ht₂.trans ht₃).trans ht₄).trans ht')).open_of_open hopen
      rw [h'.news, show s.routeFails route = false by simpa using (answered hopen₁).symm]
      exact h.news.trans called.news
  | false =>
    rw [if_neg (by decide)]
    refine goes_bind (goes_play hs₁ _) fun _ s₂ ht₂ h₂ => ?_
    refine goes_bind (goes_enter (by decide)) fun _ s₃ ht₃ h₃ => ?_
    refine goes_bind goes_noCarrier fun _ s₄ ht₄ ⟨hmode, _, hnews⟩ => ?_
    refine goes_last (goes_tell _) fun _ s' ht' h' => ?_
    subst h₃
    refine ⟨⟨.inl (h'.mode.trans hmode), fun hon => ?_⟩, fun hopen => ?_⟩
    · rw [h'.mode, hmode] at hon
      cases hon
    · have hopen₁ := (Ticks.later (((ht₂.trans ht₃).trans ht₄).trans ht')).open_of_open hopen
      rw [h'.news, hnews, show s.routeFails route = true by simpa using (answered hopen₁).symm]
      exact congrArg (Effect.noCarrier :: ·) (h₂.news.trans called.news)

/-- A dial that fails before there is anything to connect to. -/
theorem goes_giveUp : Goes s (do noCarrier; enter .command) s fun _ s' => Dialed s s' true := by
  refine goes_bind goes_noCarrier fun _ s₁ _ ⟨_, _, hnews⟩ => ?_
  refine goes_mono (goes_enter (by decide)) fun _ s' _ h' => ?_
  subst h'
  exact ⟨⟨.inl rfl, fun hon => (nomatch hon)⟩, fun _ => hnews⟩

theorem Dialed.of_aside {fails : Bool} (h : Dialed s' s'' fails) (ha : Aside s s') :
    Dialed s s'' fails where
  rest := h.rest
  told hopen := by rw [h.told hopen, ha.news]

theorem goes_announce (hs : s.Sound) (entry : Entry) :
    Goes s (announce entry) s fun _ s' => Aside s s' := by
  unfold announce
  split
  · split
    · exact goes_play hs _
    · exact goes_pure .refl (.refl s)
  · exact goes_pure .refl (.refl s)

theorem goes_dialEntry (hs : s.Sound) (hc : s.current = none) (hdialing : s.mode = .dialing)
    (htyped : s.typed = []) (hheld : s.held = []) (entry : Entry) :
    GoesOr (Broke s (s.entryFails entry)) s (dialEntry entry) s fun _ s' =>
      Dialed s s' (s.entryFails entry) := by
  unfold dialEntry
  refine goes_bind (goes_announce hs entry) fun _ s₁ ht₁ h₁ => ?_
  have hs₁ := ht₁.sound hs
  rw [← entryFails_congr ht₁.later h₁.connects entry]
  split
  · -- Busy.
    rename_i hroute
    rw [show s₁.entryFails entry = false by simp [entryFails, hroute]]
    refine goes_bind (goes_enter (by decide)) fun _ s₂ ht₂ h₂ => ?_
    have hs₂ := ht₂.sound hs₁
    refine goes_bind (goes_play hs₂ _) fun _ s₃ ht₃ h₃ => ?_
    refine goes_bind (goes_reply _ (by decide)) fun _ s₄ ht₄ h₄ => ?_
    refine goes_last (goes_enter (by decide)) fun _ s' ht' h' => ?_
    subst h₂ h'
    refine ⟨⟨.inl rfl, fun hon => (nomatch hon)⟩, fun _ => ?_⟩
    exact (h₃.trans h₄).news.trans h₁.news
  · rename_i text hroute
    split
    · -- The route is malformed.
      rename_i fault hparse
      rw [show s₁.entryFails entry = true by simp [entryFails, hroute, hparse]]
      refine goes_bind (goes_tell _) fun _ s₂ ht₂ h₂ => ?_
      exact goes_last goes_giveUp fun _ _ _ h => h.of_aside (h₁.trans h₂)
    · rename_i route hparse
      rw [show s₁.entryFails entry = s₁.routeFails route by simp [entryFails, hroute, hparse]]
      refine goes_mono_or (goes_dialRoute hs₁ (h₁.current.trans hc) (h₁.mode.trans hdialing)
        (h₁.typed.trans htyped) (h₁.held.trans hheld) _) (fun _ _ _ h => h.of_aside h₁)
        fun _ _ _ h => h.of_aside h₁

/-- **The dial sequence**. -/
theorem goes_dial (hs : s.Sound) (htyped : s.typed = []) (number : String) :
    GoesOr (Broke s (s.dialFails number)) s (dial number) s fun _ s' =>
      Dialed s s' (s.dialFails number) := by
  unfold dial
  have dropped : Goes s (modify fun s => if s.current.isSome then s.dropConnection else s) s
      fun _ s' => s'.typed = [] ∧ s'.current = none ∧ s'.held = [] ∧ s'.connects = s.connects ∧
        s'.news = s.news := by
    cases hc : s.current with
    | none =>
      refine goes_modify ?_ ?_
      · rw [hc]
        exact .refl
      · rw [hc]
        exact ⟨htyped, hc, hs.tidy.bare hc, rfl, rfl⟩
    | some i =>
      refine goes_modify ?_ ?_
      · rw [hc]
        exact ticks_dropConnection hs
      · rw [hc]
        have h := hung_dropConnection s
        exact ⟨h.typed.trans htyped, h.current, h.held, h.connects, h.news⟩
  refine goes_bind dropped fun _ s₁ ht₁ ⟨htyped₁, hc₁, hheld₁, hconnects₁, hnews₁⟩ => ?_
  refine goes_bind (goes_enter (by decide)) fun _ s₂ ht₂ h₂ => ?_
  have hs₂ := ht₂.sound (ht₁.sound hs)
  refine goes_bind (goes_play hs₂ _) fun _ s₃ ht₃ h₃ => ?_
  have hs₃ := ht₃.sound hs₂
  refine goes_bind (goes_playTones hs₃ _ _) fun _ s₄ ht₄ h₄ => ?_
  have hs₄ := ht₄.sound hs₃
  have h := h₃.trans h₄
  subst h₂
  have hfails : s₄.dialFails number = s.dialFails number :=
    dialFails_congr (Ticks.later (((ht₁.trans ht₂).trans ht₃).trans ht₄))
      (h.connects.trans hconnects₁) number
  have hnews : s₄.news = s.news := h.news.trans hnews₁
  refine goes_mono_or (P := fun _ s' => Dialed s₄ s' (s₄.dialFails number))
    (B := Broke s₄ (s₄.dialFails number)) ?_
    (fun _ s' _ h' => ⟨h'.rest, fun hopen => by rw [h'.told hopen, hnews, hfails]⟩)
    fun _ s' _ h' => ⟨h'.stranded, by rw [h'.news, hnews, hfails]⟩
  refine goes_get ?_
  split
  · -- Nobody has the number.
    rename_i hentry
    rw [show s₄.dialFails number = true by simp [dialFails, hentry]]
    refine goes_bind (goes_tell _) fun _ s₅ ht₅ h₅ => ?_
    refine goes_bind (goes_play (ht₅.sound hs₄) _) fun _ s₆ _ h₆ => ?_
    exact goes_last goes_giveUp fun _ _ _ hd => hd.of_aside (h₅.trans h₆)
  · rename_i entry hentry
    rw [show s₄.dialFails number = s₄.entryFails entry by simp [dialFails, hentry]]
    exact goes_dialEntry hs₄ (h.current.trans hc₁) h.mode (h.typed.trans htyped₁)
      (h.held.trans hheld₁) _

end DialUp.Session
