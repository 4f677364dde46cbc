import DialUp.Proofs.Session.Logic

/-!
# The laws of the basic operations

One law for each operation that a dial and a command line are made of: closing the session,
dropping its connection, playing cues and writing result codes. From a sound session each makes
ticks, and fails only for a lost client (`Goes`).
-/

namespace DialUp.Session

variable {s s' : Session} {i : Nat}

/-- **The session was left in the middle of a dial**, since its connect broke down. -/
structure Stranded (s : Session) (b : Breakdown) : Prop where
  mode : s.mode = .dialing
  current : s.current = none
  answer : s.lastAnswer? = some (.broken b)

/-- The session is in command mode or online, and online nothing is held back; or it was left in the
middle of a dial. -/
structure AtRest (s : Session) : Prop where
  mode : s.mode = .command ∨ s.mode = .connected ∨ ∃ b, s.Stranded b
  held : s.mode = .connected → s.held = []

theorem Stranded.atRest {b : Breakdown} (h : s.Stranded b) : s.AtRest where
  mode := .inr (.inr ⟨b, h⟩)
  held hon := nomatch h.mode.symm.trans hon

/-- With a current bridge the session is not left in the middle of a dial. -/
theorem AtRest.settled (h : s.AtRest) (hc : s.current = some i) :
    s.mode = .command ∨ s.mode = .connected := by
  obtain hmode | hmode | ⟨b, hb⟩ := h.mode
  · exact .inl hmode
  · exact .inr hmode
  · cases hc.symm.trans hb.current

theorem Aside.stranded {b : Breakdown} (h : Aside s s') (hs : s.Stranded b) : s'.Stranded b :=
  ⟨h.mode.trans hs.mode, h.current.trans hs.current, h.answer.trans hs.answer⟩

theorem Aside.atRest (h : Aside s s') (hs : s.AtRest) : s'.AtRest where
  mode := by
    obtain hmode | hmode | ⟨b, hb⟩ := hs.mode
    · exact .inl (h.mode.trans hmode)
    · exact .inr (.inl (h.mode.trans hmode))
    · exact .inr (.inr ⟨b, h.stranded hb⟩)
  held := by rw [h.mode, h.held]; exact hs.held

theorem AtRest.wrote (h : s.AtRest) (ok : Bool) (origin : Origin) (data : Bytes) :
    (s.wrote ok origin data).AtRest := by
  have hanswer := lastAnswer?_wrote (s := s) ok origin data
  obtain ⟨_, _, heq⟩ := wrote_kept s ok origin data
  rw [heq] at hanswer ⊢
  refine ⟨?_, h.held⟩
  obtain hmode | hmode | ⟨b, hb⟩ := h.mode
  · exact .inl hmode
  · exact .inr (.inl hmode)
  · exact .inr (.inr ⟨b, hb.mode, hb.current, hanswer.trans hb.answer⟩)

/-! ## Closing and dropping -/

theorem onBridge_some {b : Bridge} {op : Bridge → Bridge.Turn} (hb : s.bridges[i]? = some b) :
    s.onBridge i op =
      { s with
        bridges := s.bridges.set i (op b).bridge
        queue := s.queue ++ (op b).signals.map (i, ·)
        log := ((op b).notices.map Effect.notice).reverse ++ s.log } := by
  rw [onBridge, hb]
  exact absorb_eq _

/-- The end of a connection as the bridges, the queue and the log show it. -/
theorem endConnection_eq (s : Session) (bridge : Option Nat) :
    ∃ bridges signals notices, ∀ s' : Session, s'.bridges = s.bridges →
      s'.endConnection bridge =
        { s' with bridges, queue := s'.queue ++ signals, log := notices ++ s'.log } := by
  cases bridge with
  | none =>
    refine ⟨s.bridges, [], [], fun s' h => ?_⟩
    rw [← h, List.append_nil, List.nil_append]
    rfl
  | some i =>
    cases hb : s.bridges[i]? with
    | none =>
      refine ⟨s.bridges, [], [], fun s' h => ?_⟩
      rw [← h] at hb ⊢
      rw [endConnection, onBridge, hb, List.append_nil, List.nil_append]
    | some b =>
      refine ⟨s.bridges.set i b.disconnect.bridge, b.disconnect.signals.map (i, ·),
        (b.disconnect.notices.map Effect.notice).reverse, fun s' h => ?_⟩
      rw [endConnection, onBridge_some (b := b) (by rw [h]; exact hb), h]

theorem ticks_endConnection (hs : s.Sound) (bridge : Option Nat) :
    Ticks s (s.endConnection bridge) := by
  cases bridge with
  | none => exact .refl
  | some i =>
    refine .single (.turn i _ fun b hb => ?_)
    exact Bridge.disconnect_follows (hs.wired.sound b (List.mem_of_getElem? hb))

/-- Once the current connection has ended, none is live. -/
theorem ended_endConnection (hs : s.Sound) :
    ∀ b ∈ (s.endConnection s.current).bridges, b.connected = false := by
  intro b hb
  obtain ⟨i, hi⟩ := List.mem_iff_getElem?.mp hb
  cases hlive : b.connected with
  | false => rfl
  | true =>
    have hsound := (ticks_endConnection hs s.current).sound hs
    obtain ⟨hcur, -⟩ := hsound.wired.live i b hi hlive
    obtain ⟨_, _, _, heq⟩ := endConnection_eq s s.current
    rw [heq s rfl] at hcur
    -- The live bridge would be the one whose connection has just ended.
    have hlt := hs.wired.current_lt i hcur
    rw [hcur] at hi
    have hget := getElem?_onBridge Bridge.disconnect (List.getElem?_eq_getElem hlt) i
    rw [if_pos rfl] at hget
    rw [endConnection, hget, Option.some.injEq] at hi
    rw [← hi] at hlive
    exact absurd ((Bridge.connected_disconnect _).symm.trans hlive) (by decide)

theorem aside_endConnection (s : Session) (bridge : Option Nat) :
    Aside s (s.endConnection bridge) := by
  cases bridge with
  | none => exact .refl s
  | some i => exact aside_onBridge s i _

/-- The end of a connection leaves nothing in the log. -/
theorem endConnection_kept (s : Session) (bridge : Option Nat) :
    ∃ bridges queue, s.endConnection bridge = { s with bridges, queue } := by
  cases bridge with
  | none => exact ⟨_, _, rfl⟩
  | some i =>
    obtain ⟨-, heq⟩ | ⟨b, -, heq⟩ := onBridge_cases (s := s) i Bridge.disconnect
    · exact ⟨_, _, heq⟩
    · rw [endConnection, heq, absorb_eq, Bridge.notices_disconnect]
      exact ⟨_, _, rfl⟩

/-- What closing leaves in the log, the last effect first. -/
def Settings.farewell (settings : Settings) : List Effect :=
  (if settings.speaker.owned then [.audioClosed] else []) ++ [.clientClosed, .audioStopped]

theorem closeAudio_eq (s : Session) : s.closeAudio =
    { s with log := (if s.settings.speaker.owned then [.audioClosed] else []) ++ s.log } := by
  unfold closeAudio
  split <;> rfl

/-- Closing an open session, as the log shows it. -/
theorem close_eq (h : s.closed = false) : ∃ bridges queue, s.close =
    { s with closed := true, bridges, queue, log := s.settings.farewell ++ s.log } := by
  obtain ⟨bridges, queue, hended⟩ :=
    endConnection_kept ({ s with closed := true }.emit .audioStopped) s.current
  refine ⟨bridges, queue, ?_⟩
  rw [close, h, if_neg (by decide), hended, closeAudio_eq, Settings.farewell, List.append_assoc]
  rfl

theorem closed_close (s : Session) : s.close.closed = true := by
  by_cases h : s.closed = true
  · rw [close, if_pos h]
    exact h
  · obtain ⟨_, _, heq⟩ := close_eq (Bool.eq_false_iff.mpr h)
    rw [heq]

theorem ticks_closeAudio (s : Session) : Ticks s s.closeAudio := by
  unfold closeAudio
  split
  · exact .single (.note _ trivial)
  · exact .refl

theorem aside_closeAudio (s : Session) : Aside s s.closeAudio := by
  unfold closeAudio
  split
  · exact aside_emit rfl rfl
  · exact .refl s

theorem ticks_close (hs : s.Sound) : Ticks s s.close := by
  unfold close
  by_cases hclosed : s.closed = true
  · rw [if_pos hclosed]
  · rw [if_neg hclosed]
    have stopped : Tick s (s.emit .audioStopped) := .note _ trivial
    have hs' := stopped.sound hs
    -- The order of the mark and of the end of the connection does not show.
    have hswap : ({ s with closed := true }.emit .audioStopped).endConnection s.current =
        { (s.emit .audioStopped).endConnection s.current with closed := true } := by
      obtain ⟨_, _, _, heq⟩ := endConnection_eq s s.current
      have hmarked := heq ({ s with closed := true }.emit .audioStopped) rfl
      have hunmarked := heq (s.emit .audioStopped) rfl
      rw [hmarked, hunmarked]
      rfl
    rw [hswap]
    have ended := (Relation.ReflTransGen.single stopped).trans (ticks_endConnection hs' s.current)
    have marked := ended.tail (.shut (ended_endConnection hs'))
    exact (marked.tail (.note .clientClosed trivial)).trans (ticks_closeAudio _)

theorem aside_close (s : Session) : Aside s s.close := by
  unfold close
  by_cases hclosed : s.closed = true
  · rw [if_pos hclosed]
    exact .refl s
  · rw [if_neg hclosed]
    have marked : Aside s { s with closed := true } := ⟨rfl, rfl, rfl, rfl, rfl, rfl, rfl⟩
    exact (((marked.trans (aside_emit rfl rfl)).trans (aside_endConnection _ _)).trans
      (aside_emit rfl rfl)).trans (aside_closeAudio _)

/-- What is left of a session whose connection was dropped. -/
structure Hung (s s' : Session) : Prop where
  mode : s'.mode = .command
  typed : s'.typed = s.typed
  current : s'.current = none
  held : s'.held = []
  connects : s'.connects = s.connects
  news : s'.news = s.news

theorem ticks_dropConnection (hs : s.Sound) : Ticks s s.dropConnection := by
  have hswap : s.dropConnection =
      ({ s.endConnection s.current with current := none, mode := .command }).clearHeld := by
    obtain ⟨_, _, _, heq⟩ := endConnection_eq s s.current
    have hbare := heq ({ s with current := none }.clearHeld) rfl
    rw [dropConnection, hbare, heq s rfl]
    rfl
  rw [hswap]
  refine (ticks_endConnection hs s.current).tail (.discard .command (by decide) fun i b _ hb => ?_)
  exact ended_endConnection hs b (List.mem_of_getElem? hb)

theorem hung_dropConnection (s : Session) : Hung s s.dropConnection := by
  have h := aside_endConnection ({ s with current := none }.clearHeld) s.current
  exact ⟨rfl, h.typed, h.current, h.held, h.connects, h.news⟩

/-! ## Cues -/

theorem goes_tell (notice : Notice) : Goes s (tell notice) s fun _ s' => Aside s s' :=
  goes_modify (.single (.note _ trivial)) (aside_emit rfl rfl)

theorem goes_complain (name : String) : Goes s (complain name) s fun _ s' => Aside s s' := by
  unfold complain
  refine goes_get ?_
  split
  · split
    · exact goes_tell _
    · exact goes_pure .refl (.refl s)
  · exact goes_pure .refl (.refl s)

theorem goes_play (hs : s.Sound) (name : String) :
    Goes s (play name) s fun _ s' => Aside s s' := by
  unfold play
  refine goes_get ?_
  have ticks : Ticks s ({ s with cues := s.cues + 1 }.emit (.cue name s.mode)) :=
    (Relation.ReflTransGen.single .cue).tail (.note _ trivial)
  have counted : Aside s { s with cues := s.cues + 1 } := ⟨rfl, rfl, rfl, rfl, rfl, rfl, rfl⟩
  have aside := counted.trans (aside_emit (e := .cue name s.mode) rfl rfl)
  refine goes_bind (goes_set ticks) fun _ s₁ ht₁ h₁ => ?_
  subst h₁
  refine goes_bind (goes_complain name) fun _ s₂ ht₂ h₂ => ?_
  split
  · exact goes_modify (ticks_close (ht₂.sound (ht₁.sound hs)))
      ((aside.trans h₂).trans (aside_close s₂))
  · exact goes_pure .refl (aside.trans h₂)

theorem goes_playItems (hs : s.Sound) (items : List DialTones.Item) :
    Goes s (playItems items) s fun _ s' => Aside s s' := by
  induction items generalizing s with
  | nil => exact goes_pure .refl (.refl s)
  | cons item rest ih =>
    have first : Goes s (playItem item) s fun _ s' => Aside s s' := by
      cases item with
      | cue name => exact goes_play hs name
      | pause _ => exact goes_pure .refl (.refl s)
    refine goes_bind first fun _ s' ht h => ?_
    exact goes_mono (ih (ht.sound hs)) fun _ _ _ => h.trans

theorem goes_playTones (hs : s.Sound) (timing : DialTones.Timing) (number : List Char) :
    Goes s (playTones timing number) s fun _ s' => Aside s s' := by
  induction number generalizing s with
  | nil => exact goes_pure .refl (.refl s)
  | cons c rest ih =>
    unfold playTones
    refine goes_get ?_
    split
    · refine goes_bind (goes_playItems hs _) fun _ s' ht h => ?_
      exact goes_mono (ih (ht.sound hs)) fun _ _ _ => h.trans
    · exact goes_pure .refl (.refl s)

/-! ## Result codes -/

/-- What the modem says besides `NO CARRIER`. -/
theorem goes_reply (text : String) (h : Bytes.ofText text ≠ Bytes.ofText "NO CARRIER\r\n") :
    Goes s (writeText text) s fun _ s' => Aside s s' := by
  refine goes_mono (goes_say _) fun _ s' _ h' => ?_
  rw [h']
  exact aside_wrote (beq_false_of_ne h)

/-- What the client is told of a failure. -/
def newsOf (fails : Bool) : List Effect := if fails then [.noCarrier] else []

theorem mem_newsOf {fails : Bool} {e : Effect} (h : e ∈ newsOf fails) : e = .noCarrier := by
  cases fails with
  | true => exact List.mem_singleton.mp h
  | false => cases h

theorem count_newsOf (fails : Bool) : (newsOf fails).count .noCarrier = fails.toNat := by
  cases fails
  · rfl
  · exact List.count_singleton_self

theorem goes_noCarrier : Goes s noCarrier s fun _ s' =>
    s'.mode = s.mode ∧ s'.held = s.held ∧ s'.news = .noCarrier :: s.news := by
  refine goes_mono (goes_say _) fun _ s' _ h' => ?_
  rw [h']
  refine ⟨rfl, rfl, ?_⟩
  rw [news_wrote]
  exact if_pos (by decide)

end DialUp.Session
