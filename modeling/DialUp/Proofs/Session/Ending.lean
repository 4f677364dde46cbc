import DialUp.Proofs.Session.Closing

/-!
# A run ends cleanly

A run greets its client, takes what the client sends in whichever chunks, while others may act
between them, and closes the session, whichever way the client goes. Of the faults that it does not
handle, one cannot come up: that there is no bridge for online data. The other one is a connect that
breaks down with anything but a bad value, which must be assumed not to happen.

* `Orderly`: an operation that leaves a session in order and raises nothing else;
* `orderly_call`, `orderly_attend`: every call does so, and hence a whole conversation;
* `run_ends_closed`: so a run returns, and leaves nothing open.
-/

namespace DialUp.Session

variable {s s' : Session} {settings : Settings} {α β : Type}

/-! ## Operations that leave a session in order -/

/-- **In order**: steady, and its log tells whether it was closed. -/
structure InOrder (s : Session) : Prop where
  steady : s.Steady
  recorded : ∃ shut, s.Recorded shut

/-- What may be raised: a connect breaks down only if the network says so, and online data always
finds a bridge. -/
def Raises (s : Session) : Fault → Prop
  | .clientLost _ | .clientUnreadable _ => True
  | .broken b => ∃ n route, (s.around.network n route).answer = .broken b
  | .bridgeMissing => False

/-- The operation leaves the session in order and as it was set up, and raises nothing else. -/
structure Orderly (a : EStateM Fault Session α) (s : Session) : Prop where
  kept : (left a s).InOrder
  later : Later s (left a s)
  raises : ∀ fault s', a s = .error fault s' → s'.Raises fault

theorem orderly_bind {a : EStateM Fault Session α} {f : α → EStateM Fault Session β}
    (ha : Orderly a s) (hf : ∀ x s', s'.InOrder → Orderly (f x) s') : Orderly (a >>= f) s := by
  have hleft := ha.kept
  have hlater := ha.later
  have hraises := ha.raises
  cases hr : a s with
  | ok x s' =>
    rw [left_ok hr] at hleft hlater
    have hnext := hf x s' hleft
    have happly : (a >>= f) s = f x s' := by rw [bind_apply, hr]
    refine ⟨?_, ?_, by rw [happly]; exact hnext.raises⟩
    · rw [left_congr happly]
      exact hnext.kept
    · rw [left_congr happly]
      exact hlater.trans hnext.later
  | error fault s' =>
    rw [left_error hr] at hleft hlater
    have happly : (a >>= f) s = .error fault s' := by rw [bind_apply, hr]
    refine ⟨by rw [left_error happly]; exact hleft, by rw [left_error happly]; exact hlater, ?_⟩
    intro fault' s'' heq
    cases happly.symm.trans heq
    exact hraises fault s' hr

theorem orderly_pure (hs : s.InOrder) : Orderly (pure () : Act) s :=
  ⟨hs, .refl s, fun _ _ heq => by cases heq⟩

theorem orderly_get {f : Session → EStateM Fault Session β} (h : Orderly (f s) s) :
    Orderly (get >>= f) s :=
  ⟨h.kept, h.later, h.raises⟩

/-- What lasts stays in order, if it is still steady. -/
theorem InOrder.later (hs : s.InOrder) (hsteady : s'.Steady)
    (h : ∀ shut, s.Recorded shut → s'.Recorded shut) : s'.InOrder where
  steady := hsteady
  recorded := by
    obtain ⟨shut, hshut⟩ := hs.recorded
    exact ⟨shut, h shut hshut⟩

/-- The moments of a path keep a session in order. -/
theorem Path.inOrder {made : List Moment} (h : Path s made s') (hs : s.InOrder) : s'.InOrder where
  steady := h.steady hs.steady
  recorded := by
    obtain ⟨shut, hshut⟩ := hs.recorded
    exact ⟨_, h.recorded hshut⟩

theorem inOrder_start (settings : Settings) (around : Surroundings) :
    (start settings around).InOrder :=
  ⟨steady_start settings around, _, recorded_start settings around⟩

/-! ## A conversation -/

/-- **Every call leaves a session in order**, and finds a bridge where it needs one. -/
theorem orderly_call (hs : s.InOrder) (call : Call) : Orderly call.act s := by
  have hpath := path_call hs.steady call
  refine ⟨hpath.inOrder hs, (hpath.ticks hs.steady).later, fun fault s' heq => ?_⟩
  obtain ⟨reason, rfl⟩ | ⟨b, rfl, hb⟩ := (goes_call hs.steady call).fault heq
  · trivial
  · obtain ⟨route, -, hanswer⟩ := Option.map_eq_some_iff.mp hb.answer
    exact ⟨_, route, hanswer⟩

theorem orderly_greet (hs : s.InOrder) : Orderly greet s := by
  refine orderly_get ?_
  split
  · -- The greeting is no call, so it is no path either.
    have hgoes : Goes s (writeText greeting) s _ := goes_say (Bytes.ofText greeting)
    refine ⟨hs.later (hs.steady.later hgoes.ticks fun _ hrest => ?_) fun shut h =>
      (lasting_recorded shut).writeText h _, hgoes.ticks.later, fun fault s' heq => ?_⟩
    · obtain ⟨ok, heq⟩ := left_write .modem (Bytes.ofText greeting) s
      rw [writeText, heq]
      exact hrest.wrote ok .modem _
    · obtain ⟨reason, rfl⟩ | ⟨_, -, hnone⟩ := hgoes.fault heq
      · trivial
      · exact hnone.elim
  · exact orderly_pure hs

/-- What others do while a session waits, as calls. -/
def Outside.call : Outside → Call
  | .remote i actions => .remote i actions
  | .close => .close

theorem left_outside (deed : Outside) (s : Session) : left deed.call.act s = deed.act s := by
  cases deed <;> rfl

theorem InOrder.outside (hs : s.InOrder) (deeds : List Outside) :
    (deeds.foldl Outside.act s).InOrder ∧ Later s (deeds.foldl Outside.act s) := by
  induction deeds generalizing s with
  | nil => exact ⟨hs, .refl s⟩
  | cons deed rest ih =>
    have first := orderly_call hs deed.call
    have hkept := first.kept
    have hlater := first.later
    rw [left_outside] at hkept hlater
    exact ⟨(ih hkept).1, hlater.trans (ih hkept).2⟩

/-- What others do leaves a session in order. -/
theorem orderly_outside (hs : s.InOrder) (deeds : List Outside) :
    Orderly (modify fun s => deeds.foldl Outside.act s) s :=
  ⟨(hs.outside deeds).1, (hs.outside deeds).2, fun _ _ heq => by cases heq⟩

theorem orderly_take (hs : s.InOrder) (wait : Wait) : Orderly wait.take s := by
  refine orderly_bind (orderly_outside hs wait.acts) fun _ s₁ hs₁ => ?_
  cases wait.chunk with
  | none => exact orderly_pure hs₁
  | some chunk => exact orderly_call hs₁ (.feed chunk)

/-- **A conversation**, whatever the client sends and in whichever chunks, whatever others do
meanwhile, and however it goes. -/
theorem orderly_attend (hs : s.InOrder) (ending : Option String) (waits : List Wait) :
    Orderly (attend ending waits) s := by
  induction waits generalizing s with
  | nil =>
    refine orderly_get ?_
    split
    · refine orderly_bind (orderly_call hs .events) fun _ s₁ hs₁ => ?_
      cases ending with
      | none => exact orderly_pure hs₁
      | some reason =>
        refine ⟨hs₁, .refl s₁, fun _ _ heq => ?_⟩
        cases heq
        trivial
    · exact orderly_pure hs
  | cons wait rest ih =>
    refine orderly_get ?_
    split
    · refine orderly_bind (orderly_call hs .events) fun _ s₁ hs₁ => ?_
      exact orderly_bind (orderly_take hs₁ wait) fun _ s₂ hs₂ => ih hs₂
    · exact orderly_pure hs

/-! ## The end of a run -/

theorem inOrder_reportError (hs : s.InOrder) (reason : String) :
    (s.reportError reason).InOrder := by
  unfold reportError
  split
  · exact hs
  · refine hs.later (hs.steady.later (.single (.note _ trivial)) fun _ hrest => ?_) fun shut h =>
      (lasting_recorded shut).note _ rfl h
    exact (aside_emit rfl rfl).atRest hrest

theorem settings_reportError (s : Session) (reason : String) :
    (s.reportError reason).settings = s.settings := by
  unfold reportError
  split <;> rfl

/-- What a run handles leaves the session in order. -/
theorem inOrder_report (hs : s.InOrder) {fault : Fault} (hraises : s.Raises fault)
    (hopens : ∀ n route kind, (s.around.network n route).answer ≠ .broken (.other kind)) :
    ∃ s', s.report fault = .ok s' ∧ s'.InOrder ∧ s'.settings = s.settings := by
  cases fault with
  | clientLost => exact ⟨s, rfl, hs, rfl⟩
  | clientUnreadable reason =>
    exact ⟨_, rfl, inOrder_reportError hs reason, settings_reportError s reason⟩
  | bridgeMissing => exact hraises.elim
  | broken b =>
    cases b with
    | badValue reason =>
      exact ⟨_, rfl, inOrder_reportError hs reason, settings_reportError s reason⟩
    | other kind =>
      obtain ⟨n, route, hanswer⟩ := hraises
      exact absurd hanswer (hopens n route kind)

/-- Nothing is left open: the client is closed once and the audio stopped once, after which it is
closed once if the session has made it itself, and no line that was ever made is open. -/
structure Finished (s : Session) : Prop where
  closed : s.closed = true
  client : s.log.count .clientClosed = 1
  stopped : s.log.count .audioStopped = 1
  audio : s.log.count .audioClosed = s.settings.speaker.owned.toNat
  lines : ∀ b ∈ s.bridges, b.connected = false ∧ ∀ line, b.line = some line → line.isOpen = false

theorem InOrder.finished_close (hs : s.InOrder) (hsettings : s.settings = settings) :
    s.close.settings = settings ∧ s.close.Finished := by
  obtain ⟨shut, hshut⟩ := hs.recorded
  have hlater := (ticks_close hs.steady.sound).later
  have hclosed := closed_close s
  obtain ⟨hstopped, hclient, haudio⟩ := hshut.toLogged.close.counts
  rw [hclosed] at hstopped hclient haudio
  have hwired := ((ticks_close hs.steady.sound).sound hs.steady.sound).wired
  refine ⟨hlater.settings.trans hsettings, hclosed, hclient, hstopped, haudio, fun b hb => ?_⟩
  have hdead := hwired.dead_of_closed hclosed b hb
  exact ⟨hdead, (hwired.sound b hb).dead hdead⟩

/-- **A run always ends cleanly.** Whatever was done to the session before, `close` included,
whatever the client sends, in whichever chunks, and however its input ends, whatever the remote ends
do between the chunks, whichever writes to the client fail, whatever the network answers, and
whenever the session is closed, between the chunks or during a cue or a connect: the run returns,
and the session is then closed, the client was closed once, the audio was stopped once and, if the
session has made it itself, closed once, and no line that was ever made is open. It is only assumed
that no connect breaks down, except by a value that cannot be used. -/
theorem run_ends_closed (settings : Settings) (around : Surroundings)
    (hopens : ∀ n route kind, (around.network n route).answer ≠ .broken (.other kind))
    (calls : List Call) (waits : List Wait) (ending : Option String) :
    ∃ s, runOver waits ending ((start settings around).after calls) = .ok () s ∧
      s.settings = settings ∧ s.Finished := by
  have hstart := inOrder_start settings around
  have hpath := path_moments hstart.steady calls
  have hs := hpath.inOrder hstart
  have horderly := orderly_bind (orderly_greet hs) fun _ s₁ hs₁ =>
    orderly_attend hs₁ ending waits
  have hleft := horderly.kept
  have hlater := (hpath.ticks hstart.steady).later.trans horderly.later
  unfold runOver
  -- However the conversation ends, it is the session in which it stopped that is closed.
  cases hr : (do greet; attend ending waits : Act) ((start settings around).after calls) with
  | ok _ s =>
    rw [left_ok hr] at hleft hlater
    exact ⟨s.close, rfl, hleft.finished_close hlater.settings⟩
  | error fault s =>
    rw [left_error hr] at hleft hlater
    rw [show around = s.around from hlater.around.symm] at hopens
    obtain ⟨s', hreport, hs', hsame⟩ := inOrder_report hleft (horderly.raises fault s hr) hopens
    dsimp only
    rw [hreport]
    exact ⟨s'.close, rfl, hs'.finished_close (hsame.trans hlater.settings)⟩

/-- A network that accepts the first connect and finds a bad value in the next one. -/
def failingSurroundings : Surroundings where
  network n route :=
    if n = 0 then someSurroundings.network n route else badHostNetwork.network n route

/-- A dial, an escape of its own after remote data has come, and another dial, which ends the run:
the audio is the session's own. -/
theorem run_ends_closed_escaped :
    let settings := { someSettings with speaker := { player := .quiet, owned := true } }
    let dial := Bytes.ofText "ATD1\r"
    let waits : List Wait := [{ chunk := some dial },
      { acts := [.remote 0 [.deliver [0x62]]], chunk := some escapeBytes }, { chunk := some dial }]
    let s := left (runOver waits none) ((start settings failingSurroundings).after [])
    (s.relayed 0 = [0x61] ∧ s.dropped 0 = [] ∧ s.taken 0 = [0x61, 0x62] ∧ s.mode = .dialing ∧
      s.log.count .audioClosed = 1) ∧
    ∃ s, runOver waits none ((start settings failingSurroundings).after []) = .ok () s ∧
      s.settings = settings ∧ s.Finished := by
  refine ⟨by decide +kernel, run_ends_closed _ failingSurroundings (fun n route kind => ?_) [] _ _⟩
  unfold failingSurroundings
  dsimp only
  split <;> exact nofun

end DialUp.Session
