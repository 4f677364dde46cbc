import DialUp.Proofs.Session.Typing

/-!
# Runs of a session

A run is what the outside does to a session, call after call (`Call`): the client's chunks, the
handling of signals, the acts of remote ends, and closing. A call that raises stops half-way, and
the next one goes on from there.

Inside a call a session moves from one `Moment` to the next: a typed byte, a forwarded chunk, a
handled signal. `point s calls n` is the session after the first `n` moves of a run, wherever they
stop, and what is said of a run is said of all its points.

* `path_point`: the moments of a run are moves that follow one another, each possible when made;
* `Path.steady`: at every point the session is sound, and at rest unless a write has failed.
-/

namespace DialUp.Session

variable {s s' p : Session}

/-! ## Calls and moves -/

/-- What the outside does to a session. -/
inductive Call
  /-- A chunk from the client. -/
  | feed (data : Bytes)
  /-- The signals queued so far are handled. -/
  | events
  /-- The remote end of line `i` acts. -/
  | remote (i : Nat) (actions : List Line.Action)
  | close
  deriving DecidableEq, Repr

/-- What a call does. -/
def Call.act : Call → Act
  | .feed data => Session.feed data
  | .events => processEvents
  | .remote i actions => modify (·.remote i actions)
  | .close => modify Session.close

/-- What a session does at a time, inside a call. -/
inductive Move
  | type (byte : UInt8)
  | forward (data : Bytes)
  | handle (event : Nat × Signal)
  | remote (i : Nat) (actions : List Line.Action)
  | close
  deriving DecidableEq, Repr

/-- What a move does. -/
def Move.act : Move → Act
  | .type byte => typeByte byte
  | .forward data => Session.forward data
  | .handle event => handleFirst event
  | .remote i actions => modify (·.remote i actions)
  | .close => modify Session.close

/-- When a session makes a move: bytes are typed offline and forwarded online, and signals are
handled in their order. -/
def Move.Possible (s : Session) : Move → Prop
  | .type _ => s.mode ≠ .connected
  | .forward _ => s.mode = .connected
  | .handle event => ∃ rest, s.queue = event :: rest
  | .remote .. | .close => True

/-- A session and the move that it makes. -/
structure Moment where
  state : Session
  move : Move

/-- The session after the move, which may have stopped half-way. -/
def Moment.next (m : Moment) : Session := left m.move.act m.state

/-! ## The moments of a run -/

/-- The moments of a chunk that begins in command mode. -/
def typingOf (s : Session) : Bytes → List Moment
  | [] => []
  | byte :: rest =>
    if s.mode = .connected then [⟨s, .forward (byte :: rest)⟩]
    else ⟨s, .type byte⟩ ::
      match typeByte byte s with
      | .ok _ s' => s'.typingOf rest
      | .error _ _ => []

/-- The moments in which signals are handled. -/
def handlingOf (s : Session) : List (Nat × Signal) → List Moment
  | [] => []
  | event :: rest => ⟨s, .handle event⟩ ::
      match handleFirst event s with
      | .ok _ s' => s'.handlingOf rest
      | .error _ _ => []

/-- The moments of a call. -/
def momentsOf (s : Session) : Call → List Moment
  | .feed data => if s.mode = .connected then [⟨s, .forward data⟩] else s.typingOf data
  | .events => s.handlingOf s.queue
  | .remote i actions => [⟨s, .remote i actions⟩]
  | .close => [⟨s, .close⟩]

/-- The moments of a run. -/
def moments (s : Session) : List Call → List Moment
  | [] => []
  | call :: rest => s.momentsOf call ++ (left call.act s).moments rest

/-- The session at the end of a run. -/
def after (s : Session) : List Call → Session
  | [] => s
  | call :: rest => (left call.act s).after rest

/-- The session after the given moments. -/
def reached (s : Session) (made : List Moment) : Session := (made.getLast?.map Moment.next).getD s

/-- The first `n` moments of a run. -/
def past (s : Session) (calls : List Call) (n : Nat) : List Moment := (s.moments calls).take n

/-- **A point of a run**: the session after its first `n` moments. -/
def point (s : Session) (calls : List Call) (n : Nat) : Session := s.reached (s.past calls n)

/-! ## Moves that follow one another -/

/-- Moments that lead from `s` to `p`, each with a move that is possible in it. -/
inductive Path (s : Session) : List Moment → Session → Prop
  | start : Path s [] s
  | step {made : List Moment} {p : Session} (move : Move) (before : Path s made p)
      (possible : move.Possible p) : Path s (made ++ [⟨p, move⟩]) (left move.act p)

variable {made : List Moment}

theorem Path.one (move : Move) (h : move.Possible s) : Path s [⟨s, move⟩] (left move.act s) :=
  .step move .start h

theorem Path.append {more : List Moment} (h : Path s made p) (h' : Path p more s') :
    Path s (made ++ more) s' := by
  induction h' with
  | start => rwa [List.append_nil]
  | step move _ possible ih =>
    rw [← List.append_assoc]
    exact .step move ih possible

theorem Path.reached_eq (h : Path s made p) : s.reached made = p := by
  cases h with
  | start => rfl
  | step move _ _ =>
    unfold reached
    rw [List.getLast?_concat]
    rfl

theorem Path.take (h : Path s made p) (n : Nat) :
    Path s (made.take n) (s.reached (made.take n)) := by
  induction h with
  | start =>
    rw [List.take_nil]
    exact .start
  | @step made p move before possible ih =>
    rcases Nat.lt_or_ge made.length n with hlt | hge
    · have whole := Path.step move before possible
      rw [List.take_of_length_le (by simp; omega), whole.reached_eq]
      exact whole
    · rw [List.take_append_of_le_length hge]
      exact ih

/-! ## What a move does -/

/-- Sound, and at rest unless a write has failed. -/
structure Steady (s : Session) : Prop where
  sound : s.Sound
  rest : s.Delivered → s.AtRest

/-- The news of a move. -/
def newsOfMove (s : Session) : Move → List Effect
  | .type byte => newsOf (s.intentFails (s.intent? byte))
  | .handle event => s.newsOfSignal event
  | .forward _ | .remote .. | .close => []

/-- **One move**, of whatever kind: it makes ticks, fails only for a lost client or a connect that
breaks down, and its news are those of failed dials, losses and overflows. -/
theorem goes_move (hs : s.Steady) (move : Move) (h : move.Possible s) :
    GoesOr (BrokenMove s (s.newsOfMove move)) s move.act s fun _ s' =>
      Moved s s' (s.newsOfMove move) := by
  cases move with
  | type byte => exact goes_typeByte hs.sound h byte
  | forward data => exact goes_last (goes_forward hs.sound h data) fun _ _ _ h => h
  | handle event =>
    obtain ⟨rest, hq⟩ := h
    exact goes_last (goes_handleFirst hs.sound hs.rest hq) fun _ _ _ h => h.2
  | remote i actions =>
    refine goes_modify (.single (.turn i _ fun b hb => ?_)) (aside_onBridge s i _).moved
    exact Bridge.act_follows (hs.sound.wired.sound b (List.mem_of_getElem? hb))
      (fun hlive => (hs.sound.wired.live i b hb hlive).2) actions
  | close => exact goes_modify (ticks_close hs.sound) (aside_close s).moved

theorem ticks_move (hs : s.Steady) {move : Move} (h : move.Possible s) :
    Ticks s (left move.act s) :=
  (goes_move hs move h).ticks

/-- What a move is, where every write has succeeded. -/
theorem moved_move (hs : s.Steady) {move : Move} (h : move.Possible s)
    (hd : (left move.act s).Delivered) : Moved s (left move.act s) (s.newsOfMove move) := by
  obtain ⟨_, hmoved⟩ | ⟨_, hmoved, -⟩ := (goes_move hs move h).of_delivered hs.sound.counted hd
  · exact hmoved
  · exact hmoved

/-- A steady session stays so by ticks that keep it at rest unless a write fails. -/
theorem Steady.later (hs : s.Steady) (ht : Ticks s s') (h : s'.Delivered → s.AtRest → s'.AtRest) :
    s'.Steady where
  sound := ht.sound hs.sound
  rest hd := h hd (hs.rest (ht.later.delivered hs.sound.counted hd))

theorem Steady.move (hs : s.Steady) {move : Move} (h : move.Possible s) :
    (left move.act s).Steady :=
  hs.later (ticks_move hs h) fun hd => (moved_move hs h hd).rest

theorem steady_start (settings : Settings) (around : Surroundings) :
    (start settings around).Steady where
  sound := sound_start settings around
  rest _ := ⟨.inl rfl, fun hon => nomatch hon⟩

theorem Path.steady (h : Path s made p) (hs : s.Steady) : p.Steady := by
  induction h with
  | start => exact hs
  | step move _ possible ih => exact ih.move possible

theorem Path.ticks (h : Path s made p) (hs : s.Steady) : Ticks s p := by
  induction h with
  | start => exact .refl
  | step move before possible ih => exact ih.trans (ticks_move (before.steady hs) possible)

/-- The news of a moment. -/
def Moment.news (m : Moment) : List Effect := m.state.newsOfMove m.move

/-- **The news of a path** is that of its moments. -/
theorem Path.told (h : Path s made p) (hs : s.Steady) (hd : p.Delivered)
    (hopen : p.closed = false) : p.news = made.reverse.flatMap Moment.news ++ s.news := by
  induction h with
  | start => rfl
  | step move before possible ih =>
    have hsteady := before.steady hs
    have hlater := (ticks_move hsteady possible).later
    have hbefore := ih (hlater.delivered hsteady.sound.counted hd) (hlater.open_of_open hopen)
    rw [(moved_move hsteady possible hd).told hopen, hbefore, List.reverse_concat,
      List.flatMap_cons, List.append_assoc]
    rfl

/-- Every moment of a path comes after a path of its own, and before the rest. -/
theorem Path.mem {m : Moment} (h : Path s made p) (hs : s.Steady) (hm : m ∈ made) :
    ∃ before, Path s before m.state ∧ m.move.Possible m.state ∧ Ticks m.next p := by
  induction h with
  | start => cases hm
  | @step made p move before possible ih =>
    rcases List.mem_append.mp hm with hm | hm
    · obtain ⟨earlier, hpath, hpossible, hticks⟩ := ih hm
      exact ⟨earlier, hpath, hpossible, hticks.trans (ticks_move (before.steady hs) possible)⟩
    · obtain rfl := List.mem_singleton.mp hm
      exact ⟨made, before, possible, .refl⟩

/-- A path parts at each of its moments. -/
theorem Path.split {m : Moment} (h : Path s made p) (hm : m ∈ made) :
    ∃ before after, made = before ++ m :: after ∧ Path s before m.state ∧
      Path m.state (m :: after) p := by
  induction h with
  | start => cases hm
  | @step made p move sofar possible ih =>
    rcases List.mem_append.mp hm with hm | hm
    · obtain ⟨before, after, rfl, hbefore, hafter⟩ := ih hm
      exact ⟨before, after ++ [(⟨p, move⟩ : Moment)], by simp, hbefore, hafter.step move possible⟩
    · obtain rfl := List.mem_singleton.mp hm
      exact ⟨made, [], rfl, sofar, .one move possible⟩

/-! ## What a call does -/

theorem goes_feedBytes (hs : s.Steady) (data : Bytes) :
    GoesOr (fun b s' => s'.Stranded b) s (feedBytes data) s fun _ s' => s.AtRest → s'.AtRest := by
  induction data generalizing s with
  | nil => exact goes_pure .refl id
  | cons byte rest ih =>
    unfold feedBytes
    refine goes_get ?_
    by_cases hon : s.mode = .connected
    · rw [if_pos hon]
      exact goes_last (goes_forward hs.sound hon _) fun _ _ _ h => h.rest
    · rw [if_neg hon]
      have first := goes_mono_or (goes_typeByte hs.sound hon byte) (fun _ _ _ h => h)
        fun _ _ _ h => h.2
      refine goes_bindOr first fun _ s₁ ht₁ h₁ => ?_
      exact goes_mono (ih (hs.later ht₁ fun _ => h₁.rest)) fun _ _ _ h => h ∘ h₁.rest

/-- The signals that are handled stay those at the front of the queue. -/
theorem goes_handleAll (hs : s.Steady) {events rest : List (Nat × Signal)}
    (hq : s.queue = events ++ rest) :
    Goes s (handleAll events) s fun _ s' => s.AtRest → s'.AtRest := by
  induction events generalizing s with
  | nil => exact goes_pure .refl id
  | cons event events ih =>
    refine goes_bind (goes_handleFirst hs.sound hs.rest hq) fun _ s₁ ht₁ ⟨hq₁, h₁⟩ => ?_
    exact goes_mono (ih (hs.later ht₁ fun _ => h₁.rest) hq₁) fun _ _ _ h => h ∘ h₁.rest

/-- **One call**, of whatever kind: it fails for a lost client or a connect that breaks down. -/
theorem goes_call (hs : s.Steady) (call : Call) :
    GoesOr (fun b s' => s'.Stranded b) s call.act s fun _ s' => s.AtRest → s'.AtRest := by
  cases call with
  | feed data =>
    unfold Call.act feed
    refine goes_get ?_
    by_cases hon : s.mode = .connected
    · rw [if_pos hon]
      exact goes_last (goes_forward hs.sound hon data) fun _ _ _ h => h.rest
    · rw [if_neg hon]
      exact goes_feedBytes hs data
  | events =>
    exact goes_last (goes_get (goes_handleAll hs (List.append_nil _).symm)) fun _ _ _ h => h
  | remote i actions =>
    exact goes_mono_or (goes_move hs (.remote i actions) trivial) (fun _ _ _ h => h.rest)
      fun _ _ _ h => h.2
  | close =>
    exact goes_mono_or (goes_move hs .close trivial) (fun _ _ _ h => h.rest) fun _ _ _ h => h.2

/-! ## The moments of a run are a path -/

/-- A move, and the rest of the call unless the move fails. -/
theorem Path.cons (move : Move) {rest : Act} {more : Session → List Moment}
    (h : move.Possible s)
    (hrest : ∀ s', move.act s = .ok () s' → Path s' (more s') (left rest s')) :
    Path s (⟨s, move⟩ :: match move.act s with
      | .ok _ s' => more s'
      | .error _ _ => []) (left (do move.act; rest) s) := by
  rw [left_bind]
  have first := Path.one move h
  cases hr : move.act s with
  | ok _ s' =>
    rw [left, hr] at first
    exact first.append (hrest s' hr)
  | error _ s' =>
    rw [left, hr] at first
    exact first

theorem path_typing (data : Bytes) : Path s (s.typingOf data) (left (feedBytes data) s) := by
  induction data generalizing s with
  | nil => exact .start
  | cons byte rest ih =>
    unfold typingOf feedBytes
    rw [left_bind]
    show Path s _ (left (if s.mode = .connected then _ else _) s)
    by_cases hon : s.mode = .connected
    · rw [if_pos hon, if_pos hon]
      exact .one (.forward (byte :: rest)) hon
    · rw [if_neg hon, if_neg hon]
      exact .cons (.type byte) hon fun _ _ => ih

/-- The signals that are handled stay those at the front of the queue. -/
theorem path_handling (hs : s.Steady) {events rest : List (Nat × Signal)}
    (hq : s.queue = events ++ rest) : Path s (s.handlingOf events) (left (handleAll events) s) := by
  induction events generalizing s with
  | nil => exact .start
  | cons event events ih =>
    have hpossible : (Move.handle event).Possible s := ⟨events ++ rest, hq⟩
    refine .cons (.handle event) hpossible fun s' hok => ?_
    have hgoes := goes_handleFirst hs.sound hs.rest hq
    have hsteady := hs.move hpossible
    rw [left, hok] at hsteady
    exact ih hsteady (hgoes.of_ok hok).1

theorem path_call (hs : s.Steady) (call : Call) : Path s (s.momentsOf call) (left call.act s) := by
  cases call with
  | feed data =>
    unfold momentsOf Call.act feed
    dsimp only
    rw [left_bind]
    show Path s _ (left (if s.mode = .connected then _ else _) s)
    by_cases hon : s.mode = .connected
    · rw [if_pos hon, if_pos hon]
      exact .one (.forward data) hon
    · rw [if_neg hon, if_neg hon]
      exact path_typing data
  | events => exact path_handling hs (List.append_nil _).symm
  | remote i actions => exact .one (.remote i actions) trivial
  | close => exact .one .close trivial

theorem path_moments (hs : s.Steady) (calls : List Call) :
    Path s (s.moments calls) (s.after calls) := by
  induction calls generalizing s with
  | nil => exact .start
  | cons call rest ih =>
    have first := path_call hs call
    exact first.append (ih (first.steady hs))

/-- **The points of a run lie on its path**. -/
theorem path_point (hs : s.Steady) (calls : List Call) (n : Nat) :
    Path s (s.past calls n) (s.point calls n) :=
  (path_moments hs calls).take n

end DialUp.Session
