import DialUp.Proofs.Session.Operations

/-!
# The laws of online mode and of signals

* `goes_forward`: a chunk that is forwarded always finds a bridge;
* `goes_goOnline`: all that is held back goes to the client before anything else does;
* `goes_handleFirst`: the first signal is handled, and `NO CARRIER` is written exactly if it is
  the end of the current connection and the session is online (`isLoss`).
-/

namespace DialUp.Session

variable {s s' s'' : Session} {i : Nat}

/-- A session at rest stays at rest, and unless it was closed, the news is what is said. -/
structure Moved (s s' : Session) (news : List Effect) : Prop where
  rest : s.AtRest → s'.AtRest
  told : s'.closed = false → s'.news = news ++ s.news

theorem Aside.moved (h : Aside s s') : Moved s s' [] where
  rest := h.atRest
  told _ := h.news

/-! ## Going back online -/

theorem news_relayed (chunk : Bytes) : (s.wrote true (.line i) chunk).news = s.news := by
  rw [news_wrote]
  rfl

theorem goes_flush {chunks : List Bytes} (hc : s.current = some i) (hh : s.held = chunks) :
    Goes s (flush i chunks) s fun _ s' =>
      s'.mode = s.mode ∧ s'.held = [] ∧ s'.news = s.news := by
  induction chunks generalizing s with
  | nil => exact goes_pure .refl ⟨rfl, hh, rfl⟩
  | cons chunk rest ih =>
    unfold flush
    have first : Goes s (write (.line i) chunk) (s.unhold chunk rest) fun _ s' =>
        s' = (s.unhold chunk rest).wrote true (.line i) chunk :=
      goes_write _ _ (fun ok hok => .single (.flush ok hc hh hok)) id
    refine goes_modify_bind (goes_bind first fun _ s₁ _ h₁ => ?_)
    subst h₁
    refine goes_mono (ih hc rfl) fun _ s' _ ⟨hmode, hheld, hnews⟩ => ⟨hmode, hheld, ?_⟩
    rw [hnews]
    exact news_relayed chunk

theorem goes_goOnline (htyped : s.typed = []) : Goes s goOnline s fun _ s' => Moved s s' [] := by
  unfold goOnline
  refine goes_get ?_
  split
  · exact goes_pure .refl (Aside.refl s).moved
  · rename_i i hc
    split
    · have online : Tick s { s with mode := .connected } := .online (by rw [hc]; rfl) htyped
      refine goes_bind (goes_modify (.single online)
        (Q := fun _ s' => s' = { s with mode := .connected }) rfl) fun _ s₁ _ h₁ => ?_
      subst h₁
      refine goes_mono (goes_flush (s := { s with mode := .connected }) hc rfl)
        fun _ s' _ ⟨hmode, hheld, hnews⟩ => ?_
      exact ⟨fun _ => ⟨.inr (.inl hmode), fun _ => hheld⟩, fun _ => hnews⟩
    · exact goes_pure .refl (Aside.refl s).moved

/-! ## Online data -/

theorem goes_forward (hs : s.Sound) (hon : s.mode = .connected) (data : Bytes) :
    Goes s (forward data) s fun _ s' => Moved s s' [] := by
  unfold forward
  split
  · refine goes_bind (goes_modify (.single (.enter .command (by decide)))
      (Q := fun _ s' => s' = { s with mode := .command }) rfl) fun _ s₁ _ h₁ => ?_
    subst h₁
    refine goes_mono (goes_reply _ (by decide)) fun _ s' _ h' => ?_
    exact ⟨fun _ => ⟨.inl h'.mode, fun hon' => (nomatch h'.mode.symm.trans hon')⟩,
      fun _ => h'.news⟩
  · refine goes_get ?_
    obtain ⟨i, hc⟩ := Option.isSome_iff_exists.mp (hs.tidy.online hon).1
    rw [hc]
    refine goes_mono (goes_set (.single (.turn i _ fun b hb => ?_))) fun _ s' _ h' => ?_
    · exact Bridge.send_follows (hs.wired.sound b (List.mem_of_getElem? hb))
        (fun hlive => (hs.wired.live i b hb hlive).2) data
    · rw [h']
      exact (aside_onBridge s i _).moved

/-! ## Signals -/

/-- **A loss**: the end of the current connection is handled while the session is online. -/
def isLoss (s : Session) (event : Nat × Signal) : Bool :=
  event.2 == .closed && s.current == some event.1 && s.mode == .connected

/-- **An overflow**: data of the current connection is to be held back beyond the limit. -/
def overflows (s : Session) : Nat × Signal → Bool
  | (i, .data chunk) =>
    s.current == some i && s.mode != .connected &&
      decide (s.settings.heldLimit < s.heldSize + chunk.length)
  | (_, .closed) => false

/-- The news of a signal that is handled. -/
def newsOfSignal (s : Session) : Nat × Signal → List Effect
  | (i, .data chunk) =>
    if s.overflows (i, .data chunk) then
      [.dropped i ((s.held ++ [chunk]).flatten.take
        (s.heldSize + chunk.length - s.settings.heldLimit))]
    else []
  | (i, .closed) => newsOf (s.isLoss (i, .closed))

theorem news_hold {i : Nat} (hc : s.current = some i) (hoff : s.mode ≠ .connected)
    (chunk : Bytes) : (s.hold i chunk).news = s.newsOfSignal (i, .data chunk) ++ s.news := by
  have hover : s.overflows (i, .data chunk) =
      decide (s.settings.heldLimit < s.heldSize + chunk.length) := by
    simp [overflows, hc, hoff]
  rw [newsOfSignal, hover, hold]
  by_cases h : s.settings.heldLimit < s.heldSize + chunk.length
  · simp only [h, if_true, decide_true]
    rw [news_emit, news_emit]
    rfl
  · simp only [h, if_false, decide_false]
    rfl

/-- What waits behind the end of the current connection is not its own, and the connection has
ended. -/
theorem signalsOf_of_closed (hs : s.Sound) {rest : List (Nat × Signal)} {b : Bridge}
    (hq : s.queue = (i, .closed) :: rest) (hc : s.current = some i)
    (hb : s.bridges[i]? = some b) : s.signalsOf i = [.closed] ∧ b.connected = false := by
  obtain ⟨chunks, hchunks⟩ := hs.queued.shape i b hc hb
  have hfirst := signalsOf_cons hq i
  rw [if_pos rfl, List.singleton_append] at hfirst
  cases chunks with
  | nil =>
    cases hlive : b.connected with
    | false =>
      rw [hlive] at hchunks
      exact ⟨hchunks, rfl⟩
    | true =>
      rw [hlive, hfirst] at hchunks
      cases hchunks
  | cons c chunks =>
    -- The first signal would be data.
    rw [hfirst] at hchunks
    cases (List.cons.inj hchunks).1

/-- The bridge is given up, and the signal that told so is done with. -/
theorem ticks_lose (hs : s.Sound) {rest : List (Nat × Signal)} {mode : Mode}
    (hq : s.queue = (i, .closed) :: rest) (hc : s.current = some i) (hmode : mode ≠ .connected) :
    Ticks s ({ s with queue := rest, current := none, mode }.clearHeld) := by
  have discarded : Tick s ({ s with current := none, mode }.clearHeld) :=
    .discard mode hmode fun j b hj hb => by
      obtain rfl : i = j := Option.some.inj (hc.symm.trans hj)
      exact (signalsOf_of_closed hs hq hc hb).2
  exact (Relation.ReflTransGen.single discarded).tail (.skip hq (fun h => nomatch h))

theorem goes_loseConnection (hs : s.Sound) {rest : List (Nat × Signal)}
    (hq : s.queue = (i, .closed) :: rest) (hc : s.current = some i) :
    Goes s loseConnection { s with queue := rest } fun _ s' =>
      s'.queue = rest ∧ Moved s s' (newsOf (s.isLoss (i, .closed))) := by
  unfold loseConnection
  refine goes_get ?_
  by_cases hon : s.mode = .connected
  · have hloss : s.isLoss (i, .closed) = true := by simp [isLoss, hc, hon]
    refine goes_set_bind ?_
    rw [if_pos hon, hloss]
    have entered : Goes s (enter .command)
        ({ s with queue := rest, current := none }.clearHeld) fun _ s' =>
        s' = { s with queue := rest, current := none, mode := .command }.clearHeld :=
      goes_modify (ticks_lose hs hq hc (by decide)) rfl
    refine goes_bind entered fun _ s₁ _ h₁ => ?_
    refine goes_mono (goes_say _) fun _ s' _ h' => ?_
    subst h₁ h'
    refine ⟨rfl, fun _ => ⟨.inl rfl, fun hon' => nomatch hon'⟩, fun _ => ?_⟩
    rw [news_wrote]
    exact if_pos (by decide)
  · have hloss : s.isLoss (i, .closed) = false := by simp [isLoss, hon]
    refine goes_set_bind ?_
    rw [if_neg hon, hloss]
    refine goes_pure (ticks_lose hs hq hc hon)
      ⟨rfl, fun hr => ⟨.inl ?_, fun _ => rfl⟩, fun _ => rfl⟩
    exact (hr.settled hc).resolve_right hon

/-- **The first signal is handled**, from a session that is at rest unless a write has failed. -/
theorem goes_handleFirst (hs : s.Sound) (hr : s.Delivered → s.AtRest) {event : Nat × Signal}
    {rest : List (Nat × Signal)} (hq : s.queue = event :: rest) :
    Goes s (handleFirst event) s fun _ s' =>
      s'.queue = rest ∧ Moved s s' (s.newsOfSignal event) := by
  obtain ⟨i, signal⟩ := event
  unfold handleFirst
  refine goes_modify_bind ?_
  have hdrop : ({ s with queue := s.queue.drop 1 } : Session) = { s with queue := rest } := by
    rw [hq]
    rfl
  rw [hdrop]
  unfold handle
  refine goes_get ?_
  by_cases hc : s.current = some i
  · rw [if_pos (by simp [hc])]
    cases signal with
    | data chunk =>
      dsimp only
      by_cases hon : s.mode = .connected
      · rw [if_pos hon, show s.newsOfSignal (i, .data chunk) = [] by
          simp [newsOfSignal, overflows, hon]]
        have relayed := goes_write (o := s) (s := { s with queue := rest }) (.line i) chunk
          (fun ok hok => .single (.relay ok hq hc (fun hd => (hr hd).held hon) hok)) id
        refine goes_mono relayed fun _ s' _ h' => ?_
        subst h'
        exact ⟨rfl, fun hr => ⟨.inr (.inl hon), hr.held⟩, fun _ => news_relayed chunk⟩
      · rw [if_neg hon]
        refine goes_modify (.single (.hold hq hc hon)) ?_
        have hnews := news_hold (s := { s with queue := rest }) hc hon chunk
        obtain ⟨_, _, _, heq⟩ := hold_kept { s with queue := rest } i chunk
        rw [heq] at hnews ⊢
        refine ⟨rfl, fun hr => ⟨.inl ?_, fun hon' => absurd hon' hon⟩, fun _ => hnews⟩
        exact (hr.settled hc).resolve_right hon
    | closed => exact goes_loseConnection hs hq hc
  · have hnone : s.newsOfSignal (i, signal) = [] := by
      cases signal <;> simp [newsOfSignal, overflows, isLoss, newsOf, hc]
    rw [if_neg (by simp [hc]), hnone]
    exact goes_pure (.single (.skip hq hc))
      ⟨rfl, Aside.moved ⟨rfl, rfl, rfl, rfl, rfl, rfl, rfl⟩⟩

end DialUp.Session
