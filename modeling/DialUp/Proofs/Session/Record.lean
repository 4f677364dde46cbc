import DialUp.Proofs.Session.Lasting

/-!
# The log tells whether and when a session was closed

A session is closed by a call, or from outside during a cue or a connect, and the log has every cue
and every connect. What closing leaves in the log comes after all that the client got.

* `Recorded`: the session is closed exactly if it was closed by a call or during something that
  the log has;
* `Path.recorded`: so it is at every point of a run;
* `Logged.count_closing`, `Logged.silent`: the audio is stopped and the client closed once, and
  nothing is written after that.
-/

namespace DialUp.Session

variable {s s' p : Session} {shut : Prop} {made : List Moment}

/-! ## What is in the log -/

def Effect.isCue : Effect → Bool
  | .cue .. => true
  | _ => false

def Effect.isConnect : Effect → Bool
  | .connect .. => true
  | _ => false

/-- The audio is stopped or closed, or the client is closed. -/
def Effect.isClosing : Effect → Bool
  | .audioStopped | .clientClosed | .audioClosed => true
  | _ => false

/-- The client sees or hears that. -/
def Effect.isFelt (e : Effect) : Bool := e.isOutput || e.isClosing

/-- The session is closed from outside during a connect, which may be when it is live already. -/
def Script.interrupts (script : Script) : Bool :=
  script.closesSession || script.closesUnrecorded && script.answer.accepts

/-- The session is closed from outside during an effect, after what was done before. -/
def Effect.interrupts (around : Surroundings) (before : List Effect) : Effect → Bool
  | .cue name _ => around.interrupts (before.countP isCue) name
  | .connect route _ _ => (around.network (before.countP isConnect) route).interrupts
  | .output .. | .dropped .. | .audioStopped | .clientClosed | .audioClosed | .notice _ => false

/-- **The session was closed from outside** during a cue or a connect. -/
def interrupted (around : Surroundings) : (log : List Effect) → Bool
  | [] => false
  | e :: before => e.interrupts around before || interrupted around before

/-- What closing has left in the log, the last effect first. -/
def closing (s : Session) : List Effect := if s.closed then s.settings.farewell else []

/-- **The log is complete**: it has every cue and every connect, and all that the client got was
written before the session was closed. -/
structure Logged (s : Session) : Prop where
  cues : s.cues = s.log.countP Effect.isCue
  connects : s.connects = s.log.countP Effect.isConnect
  order : ∃ outputs : List Effect, (∀ e ∈ outputs, e.isOutput = true) ∧
    s.log.filter Effect.isFelt = s.closing ++ outputs

/-- **The session is closed** exactly if it was shut, or closed during what is in the log. -/
structure Recorded (shut : Prop) (s : Session) : Prop extends s.Logged where
  closed_iff : s.closed = true ↔ shut ∨ interrupted s.around s.log = true

/-! ## What follows from it -/

/-- What closing has left in the log is not for the client. -/
theorem not_output_of_closing {e : Effect} (h : e ∈ s.closing) : e.isOutput = false := by
  unfold closing Settings.farewell at h
  split at h
  · split at h <;> rcases List.mem_append.mp h with h | h <;> simp at h
    · rw [h]; rfl
    · rcases h with rfl | rfl <;> rfl
    · rcases h with rfl | rfl <;> rfl
  · cases h

/-- Nothing else leaves that in the log. -/
theorem Logged.count_closing (h : s.Logged) {e : Effect} (he : e.isClosing = true) :
    s.log.count e = s.closing.count e := by
  obtain ⟨outputs, houtputs, horder⟩ := h.order
  have hfelt : e.isFelt = true := by simp [Effect.isFelt, he]
  have hnone : outputs.count e = 0 := by
    refine List.count_eq_zero.mpr fun hmem => ?_
    have hout := houtputs e hmem
    cases e <;> simp [Effect.isClosing, Effect.isOutput] at he hout
  rw [← List.count_filter (l := s.log) hfelt, horder, List.count_append, hnone, Nat.add_zero]

/-- The audio is stopped once and the client closed once; the audio is closed, once, if the session
has made it itself. -/
theorem Logged.counts (h : s.Logged) :
    s.log.count .audioStopped = s.closed.toNat ∧ s.log.count .clientClosed = s.closed.toNat ∧
      s.log.count .audioClosed = (s.closed && s.settings.speaker.owned).toNat := by
  rw [h.count_closing rfl, h.count_closing rfl, h.count_closing rfl, closing, Settings.farewell]
  cases s.closed <;> cases s.settings.speaker.owned <;> exact ⟨rfl, rfl, rfl⟩

/-- Nothing is written to the client once the audio was stopped. -/
theorem Logged.silent (h : s.Logged) {later before : List Effect}
    (hlog : s.log = later ++ .audioStopped :: before) : ∀ e ∈ later, e.isOutput = false := by
  obtain ⟨outputs, houtputs, horder⟩ := h.order
  rw [hlog, List.filter_append, List.filter_cons_of_pos rfl] at horder
  have hlater : ∀ e ∈ later.filter Effect.isFelt, e ∈ s.closing := by
    obtain ⟨rest, hclosing, -⟩ | ⟨rest, -, hrest⟩ := List.append_eq_append_iff.mp horder
    · rw [hclosing]
      exact fun e he => List.mem_append_left _ he
    · -- The audio would have been stopped among what the client got.
      have hstop := houtputs .audioStopped (by rw [hrest]; simp)
      cases hstop
  intro e he
  by_contra hout
  have hout : e.isOutput = true := by simpa using hout
  have hclosing := hlater e (List.mem_filter.mpr ⟨he, by simp [Effect.isFelt, hout]⟩)
  exact absurd (hout.symm.trans (not_output_of_closing hclosing)) (by decide)

/-! ## What keeps the log complete -/

/-- One more effect, which is counted. -/
theorem Logged.noted (h : s.Logged) (e : Effect) (hlog : s'.log = e :: s.log)
    (hsettings : s'.settings = s.settings) (hclosed : s'.closed = s.closed)
    (hcues : s'.cues = s.cues + if e.isCue then 1 else 0)
    (hconnects : s'.connects = s.connects + if e.isConnect then 1 else 0)
    (hclosing : e.isClosing = false) (hopen : e.isOutput = true → s.closed = false) :
    s'.Logged where
  cues := by rw [hcues, hlog, List.countP_cons, h.cues]
  connects := by rw [hconnects, hlog, List.countP_cons, h.connects]
  order := by
    obtain ⟨outputs, houtputs, horder⟩ := h.order
    unfold closing at horder ⊢
    rw [hlog, hclosed, hsettings]
    cases hout : e.isOutput with
    | true =>
      rw [hopen hout] at horder ⊢
      rw [List.filter_cons_of_pos (by rw [Effect.isFelt, hout, Bool.true_or]), horder]
      exact ⟨e :: outputs, List.forall_mem_cons.mpr ⟨hout, houtputs⟩, rfl⟩
    | false =>
      rw [List.filter_cons_of_neg (by rw [Effect.isFelt, hout, hclosing]; decide)]
      exact ⟨outputs, houtputs, horder⟩

/-- Nobody is told that a connection is dropped. -/
theorem dropConnection_kept (s : Session) : ∃ bridges queue, s.dropConnection =
    { s with mode := .command, current := none, held := [], heldSize := 0, bridges, queue } := by
  obtain ⟨_, _, heq⟩ := endConnection_kept ({ s with current := none }.clearHeld) s.current
  rw [dropConnection, heq]
  exact ⟨_, _, rfl⟩

/-- Closing is neither a cue nor a connect. -/
theorem interrupted_close (s : Session) :
    interrupted s.close.around s.close.log = interrupted s.around s.log := by
  by_cases h : s.closed = true
  · rw [close, if_pos h]
  · obtain ⟨_, _, heq⟩ := close_eq (Bool.eq_false_iff.mpr h)
    rw [heq, Settings.farewell]
    cases s.settings.speaker.owned <;> rfl

theorem Logged.close (h : s.Logged) : s.close.Logged := by
  by_cases hclosed : s.closed = true
  · rw [Session.close, if_pos hclosed]
    exact h
  · have hopen := Bool.eq_false_iff.mpr hclosed
    obtain ⟨outputs, houtputs, horder⟩ := h.order
    rw [closing, hopen] at horder
    obtain ⟨_, _, heq⟩ := close_eq hopen
    rw [heq]
    have hfelt : s.settings.farewell.filter Effect.isFelt = s.settings.farewell := by
      unfold Settings.farewell
      cases s.settings.speaker.owned <;> rfl
    refine ⟨?_, ?_, outputs, houtputs, ?_⟩
    · rw [h.cues, Settings.farewell]
      cases s.settings.speaker.owned <;> rfl
    · rw [h.connects, Settings.farewell]
      cases s.settings.speaker.owned <;> rfl
    · rw [List.filter_append, hfelt, horder]
      rfl

/-! ## Runs -/

theorem Logged.alike (h : s.Logged) (h' : Alike s s') : s'.Logged where
  cues := by rw [h'.cues, h'.log, h.cues]
  connects := by rw [h'.connects, h'.log, h.connects]
  order := by
    rw [closing, h'.log, h'.closed, h'.settings]
    exact h.order

/-- A note is neither counted nor felt. -/
theorem Logged.note (h : s.Logged) {e : Effect} (he : e.isNote = true) : (s.emit e).Logged := by
  cases e with
  | notice | dropped => exact h.noted _ rfl rfl rfl rfl rfl rfl fun hout => by cases hout
  | output | cue | connect | audioStopped | clientClosed | audioClosed => cases he

theorem interrupted_note {e : Effect} (he : e.isNote = true) (around : Surroundings)
    (log : List Effect) : interrupted around (e :: log) = interrupted around log := by
  cases e <;> first | rfl | cases he

/-- The record is kept by basic changes, and so is whatever is known of interruptions. -/
theorem basic_logged (known : Bool → Bool → Prop) :
    Basic fun s => s.Logged ∧ known s.closed (interrupted s.around s.log) where
  alike h h' := by
    refine ⟨h.1.alike h', ?_⟩
    rw [h'.closed, h'.around, h'.log]
    exact h.2
  type _ h _ := ⟨⟨h.1.cues, h.1.connects, h.1.order⟩, h.2⟩
  note e he h := by
    refine ⟨h.1.note he, ?_⟩
    show known _ (interrupted _ (e :: _))
    rw [interrupted_note he]
    exact h.2
  output origin data hopen h :=
    ⟨h.1.noted (.output origin data) rfl rfl rfl rfl rfl rfl fun _ => hopen, h.2⟩

theorem recorded_iff : s.Recorded shut ↔
    s.Logged ∧ (s.closed = true ↔ shut ∨ interrupted s.around s.log = true) :=
  ⟨fun h => ⟨h.toLogged, h.closed_iff⟩, fun h => ⟨h.1, h.2⟩⟩

theorem basic_recorded (shut : Prop) : Basic (Recorded shut) := by
  rw [show Recorded shut = _ from funext fun _ => propext recorded_iff]
  exact basic_logged fun closed stopped => closed = true ↔ shut ∨ stopped = true

/-- A session is closed in the end if it is interrupted, and stays as it is otherwise. -/
theorem Recorded.unless (h : s.Recorded shut) (logged : s'.Logged) (hclosed : s'.closed = s.closed)
    {stops : Bool} (hlog : interrupted s'.around s'.log = (stops || interrupted s.around s.log)) :
    (if stops then s'.close else s').Recorded shut := by
  cases stops with
  | true =>
    rw [if_pos rfl]
    refine ⟨logged.close, ?_⟩
    rw [interrupted_close, hlog]
    simp [closed_close]
  | false =>
    rw [if_neg (by decide)]
    refine ⟨logged, ?_⟩
    rw [hclosed, hlog, h.closed_iff, Bool.false_or]

theorem Recorded.play (h : s.Recorded shut) (name : String) :
    (left (play name) s).Recorded shut := by
  have logged : (s.cued name).Logged :=
    h.toLogged.noted (.cue name s.mode) rfl rfl rfl rfl rfl rfl fun hout => by cases hout
  have hlog : interrupted (s.cued name).around (s.cued name).log =
      (s.around.interrupts s.cues name || interrupted s.around s.log) := by
    rw [h.cues]
    rfl
  obtain ⟨s', rfl | ⟨notice, rfl⟩, heq⟩ := left_play name s
  · rw [heq]
    exact h.unless logged rfl hlog
  · rw [heq]
    exact h.unless (logged.note rfl) rfl hlog

section Connect

variable (h : s.Recorded shut) (route : Route)

include h

theorem Recorded.logged_calling : (s.calling route).Logged :=
  h.toLogged.noted _ rfl rfl rfl rfl rfl rfl fun hout => by cases hout

theorem Recorded.interrupted_calling :
    interrupted (s.calling route).around (s.calling route).log =
      ((s.around.network s.connects route).interrupts || interrupted s.around s.log) := by
  rw [h.connects]
  rfl

/-- While its connect is under way a session may be closed, if it is open. -/
theorem Recorded.called (hkept : s.closed = true ∨ (s.around.network s.connects route).interrupts =
    (s.around.network s.connects route).closesSession) : (s.called route).Recorded shut := by
  have logged := h.logged_calling route
  have hlog := h.interrupted_calling route
  obtain hclosed | hsame := hkept
  · have hstopped := h.closed_iff.mp hclosed
    have recorded : (s.calling route).Recorded shut := by
      refine ⟨logged, iff_of_true hclosed (hstopped.imp_right fun hstop => ?_)⟩
      rw [hlog, hstop, Bool.or_true]
    have hsame : (s.calling route).close = s.calling route := if_pos hclosed
    rw [Session.called, hsame, ite_self]
    exact recorded
  · rw [hsame] at hlog
    exact h.unless logged rfl hlog

/-- A connect that is interrupted leaves a closed session, and any other one leaves it as open or
closed as it was. -/
theorem Recorded.afterConnect : (s.afterConnect route).Recorded shut := by
  have hbasic := basic_recorded shut
  have hlive := Bridge.live_connect (s.called route).closed route.text
    (s.around.network s.connects route).answer
  unfold Session.afterConnect
  dsimp only
  generalize Bridge.connect _ _ _ _ = outcome at hlive ⊢
  obtain ⟨live, turn⟩ := outcome
  dsimp only at hlive ⊢
  have hopen : (s.called route).closed = false →
      (s.around.network s.connects route).closesSession = false := by
    unfold Session.called
    split
    · rw [closed_close]
      exact nofun
    · rename_i hstays
      exact fun _ => Bool.eq_false_iff.mpr hstays
  cases hstop : live && (s.around.network s.connects route).closesUnrecorded with
  | false =>
    obtain ⟨current, heq⟩ := settle_kept hstop (s.called route) turn
    rw [heq]
    refine hbasic.alike (hbasic.adopt (h.called route ?_) turn) ⟨rfl, rfl, rfl, rfl, rfl, rfl, rfl⟩
    cases hclosed : s.closed with
    | true => exact .inl rfl
    | false =>
      refine .inr ?_
      cases hcloses : (s.around.network s.connects route).closesSession with
      | true => simp [Script.interrupts, hcloses]
      | false =>
        have hcalled : (s.called route).closed = false := by
          rw [Session.called, hcloses]
          exact hclosed
        rw [hlive, hcalled, Bool.not_false, Bool.true_and, Bool.and_comm] at hstop
        rw [Script.interrupts, hcloses, hstop]
        rfl
  | true =>
    rw [Bool.and_eq_true] at hstop
    obtain ⟨hlive', hcloses⟩ := hstop
    rw [hlive'] at hlive ⊢
    rw [hcloses, settle_closed]
    have ⟨hcalled, haccepts⟩ : (s.called route).closed = false ∧
        (s.around.network s.connects route).answer.accepts = true := by simpa using hlive.symm
    have hinterrupts : (s.around.network s.connects route).interrupts = true := by
      rw [Script.interrupts, hcloses, haccepts, Bool.and_true, Bool.or_true]
    rw [show s.called route = s.calling route by
      rw [Session.called, hopen hcalled, if_neg (by decide)]]
    have ⟨logged, hlog⟩ := (basic_logged fun _ stopped => stopped = true).adopt
      ⟨h.logged_calling route, by rw [h.interrupted_calling, hinterrupts, Bool.true_or]⟩ turn
    have closed : ((s.calling route).adopt turn).close.Recorded shut := by
      refine ⟨logged.close, iff_of_true (closed_close _) (.inr ?_)⟩
      rw [interrupted_close]
      exact hlog
    exact hbasic.alike (hbasic.endConnection closed _) ⟨rfl, rfl, rfl, rfl, rfl, rfl, rfl⟩

end Connect

/-- **Whatever a session does keeps the record**, but the calls that close it. -/
theorem lasting_recorded (shut : Prop) : Lasting (Recorded shut) where
  toBasic := basic_recorded shut
  play name h := h.play name
  afterConnect route h := h.afterConnect route

theorem Recorded.close (h : s.Recorded shut) : s.close.Recorded True where
  toLogged := h.toLogged.close
  closed_iff := by simp [closed_close]

/-- The session is closed by a call. -/
def shuts (made : List Moment) : Prop := ∃ m ∈ made, m.move = .close

/-- **The record holds at every point of a run**. -/
theorem Path.recorded (h : Path s made p) (hs : s.Recorded shut) :
    p.Recorded (shut ∨ shuts made) := by
  induction h with
  | start => simpa [shuts] using hs
  | @step made p move _ _ ih =>
    by_cases hclose : move = .close
    · subst hclose
      have hshut : (shut ∨ shuts (made ++ [⟨p, .close⟩])) = True := by simp [shuts]
      rw [hshut]
      exact ih.close
    · have hsame : shuts (made ++ [⟨p, move⟩]) = shuts made := by simp [shuts, hclose]
      rw [hsame]
      exact (lasting_recorded _).move ih hclose

theorem recorded_start (settings : Settings) (around : Surroundings) :
    (start settings around).Recorded False where
  cues := rfl
  connects := rfl
  order := ⟨[], by simp, rfl⟩
  closed_iff := by simp [start, interrupted]

end DialUp.Session
