import DialUp.Audio.Player

/-!
# Which cues are started

A cue that is not started yet stands in a line: the one that the worker has taken, unless it is too
old, and behind it the queue. Cues join the line at its end and are started from its front, or they
leave it for good; stopping the player empties it, and once the player is closed and stopped nothing
is taken any more.

* `Change.follows`, `run_follows`: what is started comes from the line and what joins it, in order;
* `line_stop`: a stop leaves nothing of the line;
* `Shut.run`: nothing is started once the player is over and nothing of the line is taken;
* `started_in_order`: so whatever happens, each cue is started at most once and in order, and none
  that was there before a stop;
* `settle_eq_run`: what the worker does on its own is a run of this kind.
-/

namespace DialUp.Audio

open scoped List

variable {p q r : Player} {cue : Cue}

/-- The cue that was taken and is not started yet, with the generation under which it was taken. -/
def Task.taken? : Task → Option (Cue × Nat)
  | .decoding cue generation | .decoded cue generation _ => some (cue, generation)
  | .idle | .playing _ => none

/-- The file that an effect starts. -/
def Effect.startedFile? : Effect → Option String
  | .start path _ _ => some path
  | .decode _ | .silence | .notice _ => none

namespace Player

/-- The file that an event queues. -/
def Event.queuedFile? : Event → Option String
  | .enqueue path => some path
  | .stop | .silence _ | .close | .cancel | .dequeue | .decoded _ | .start _ | .finish _ => none

/-- The files that the device was told to play, in order. -/
def startedFiles (p : Player) : List String := p.log.reverse.filterMap Effect.startedFile?

/-! ## The line -/

/-- The cue that was taken, unless the player was stopped since. -/
def ready (p : Player) : List Cue :=
  match p.task.taken? with
  | some (cue, generation) => if generation = p.generation then [cue] else []
  | none => []

/-- The cues that may still be started, the next one first. -/
def line (p : Player) : List Cue := p.ready ++ p.queue

/-- No cue was taken under a generation to come. -/
def Current (p : Player) : Prop :=
  ∀ cue generation, p.task.taken? = some (cue, generation) → generation ≤ p.generation

/-- A stop leaves nothing of the line. -/
theorem line_stop (h : p.Current) : p.stop.line = [] := by
  unfold line ready
  rw [show p.stop.task = p.task from rfl, show p.stop.queue = [] from rfl, List.append_nil]
  split
  · rename_i cue generation htaken
    have hold : generation ≠ p.stop.generation := by
      have hle := h cue generation htaken
      change generation ≠ p.generation + 1
      omega
    rw [if_neg hold]
  · rfl

/-! ## What an event changes -/

theorem startedFiles_emit (p : Player) (e : Effect) :
    (p.emit e).startedFiles = p.startedFiles ++ e.startedFile?.toList := by
  unfold startedFiles emit
  rw [List.reverse_cons, List.filterMap_append]
  cases h : e.startedFile? <;> simp [h]

/-- A message, or none, is noted in the log and nowhere else. -/
theorem tell_eq (p : Player) (fault : Option String) (notice : String → Notice) :
    p.tell fault notice = { p with log := (p.tell fault notice).log } ∧
      (p.tell fault notice).startedFiles = p.startedFiles := by
  cases fault with
  | none => exact ⟨rfl, rfl⟩
  | some reason => exact ⟨rfl, (startedFiles_emit p _).trans (List.append_nil _)⟩

/-- What every event but a stop leaves, if no cue joins the line. -/
structure Kept (p q : Player) : Prop where
  generation : q.generation = p.generation
  accepted : q.accepted = p.accepted
  isOver : p.isOver = true → q.isOver = true

/-- Nothing is started. -/
structure Silent (p q : Player) : Prop where
  started : q.started = p.started
  logged : q.startedFiles = p.startedFiles

/-- What an event can do to the cues, given the file that it queues. -/
inductive Change (p : Player) : Option String → Player → Prop
  | queued (path : String) : Change p (some path) (p.enqueue path)
  | stopped : Change p none p.stop
  /-- The front of the queue is taken. -/
  | taken {q : Player} {cue : Cue} (kept : Kept p q) (silent : Silent p q)
      (isOn : p.isOver = false) (before : p.task.taken? = none)
      (queue : p.queue = cue :: q.queue) (task : q.task.taken? = some (cue, p.generation)) :
      Change p none q
  | started {q : Player} {cue : Cue} (kept : Kept p q)
      (before : p.task.taken? = some (cue, p.generation)) (task : q.task.taken? = none)
      (queue : q.queue = p.queue) (started : q.started = p.started ++ [cue])
      (logged : q.startedFiles = p.startedFiles ++ [cue.path]) : Change p none q
  /-- The taken cue stays, or is let go. -/
  | aside {q : Player} (kept : Kept p q) (silent : Silent p q) (queue : q.queue = p.queue)
      (task : q.task.taken? = p.task.taken? ∨ q.task.taken? = none) : Change p none q

theorem change_self (p : Player) : Change p none p :=
  .aside ⟨rfl, rfl, id⟩ ⟨rfl, rfl⟩ rfl (.inl rfl)

theorem change_silence (p : Player) (fault : Option String) : Change p none (p.silence fault) := by
  unfold silence
  split
  · exact change_self p
  · rename_i silencing _
    obtain ⟨heq, hlogged⟩ := tell_eq ({ p with silencing }.emit .silence) fault fun reason =>
      .error ("Error stopping audio: " ++ reason)
    refine .aside ?_ ⟨?_, hlogged.trans ?_⟩ ?_ (.inl ?_)
    · rw [heq]
      exact ⟨rfl, rfl, id⟩
    · rw [heq]
      rfl
    · exact (startedFiles_emit _ _).trans (List.append_nil _)
    · rw [heq]
      rfl
    · rw [heq]
      rfl

theorem change_dequeue (p : Player) : Change p none p.dequeue := by
  unfold dequeue
  split
  · rename_i htask
    split
    · exact .stopped
    · rename_i hover
      split
      · exact change_self p
      · rename_i cue queue hqueue
        refine .taken ⟨rfl, rfl, id⟩ ⟨rfl, ?_⟩ (Bool.eq_false_iff.mpr hover) ?_ hqueue rfl
        · exact (startedFiles_emit _ _).trans (List.append_nil _)
        · rw [htask]
          rfl
  · exact change_self p

theorem change_endDecoding (p : Player) (result : Except String Nat) :
    Change p none (p.endDecoding result) := by
  unfold endDecoding
  split
  · rename_i htask
    exact .aside ⟨rfl, rfl, id⟩ ⟨rfl, rfl⟩ rfl (.inl (by rw [htask]; rfl))
  · refine .aside ⟨rfl, rfl, id⟩ ⟨rfl, ?_⟩ rfl (.inr rfl)
    exact (startedFiles_emit _ _).trans (List.append_nil _)
  · exact change_self p

theorem change_start (p : Player) (fault : Option String) : Change p none (p.start fault) := by
  unfold start
  split
  · rename_i cue generation rate htask
    split
    · rename_i hgeneration
      have htaken : p.task.taken? = some (cue, p.generation) := by
        rw [htask, ← hgeneration]
        rfl
      cases fault with
      | none => exact .started ⟨rfl, rfl, id⟩ htaken rfl rfl rfl (startedFiles_emit _ _)
      | some reason =>
        refine .started ⟨rfl, rfl, id⟩ htaken rfl rfl rfl ((startedFiles_emit _ _).trans ?_)
        exact (List.append_nil _).trans (startedFiles_emit _ _)
    · exact .aside ⟨rfl, rfl, id⟩ ⟨rfl, rfl⟩ rfl (.inr rfl)
  · exact change_self p

theorem change_finish (p : Player) (fault : Option String) : Change p none (p.finish fault) := by
  unfold finish
  split
  · rename_i cue htask
    obtain ⟨heq, hlogged⟩ := tell_eq { p with task := .idle } fault fun reason =>
      .warning ("Audio playback failed for " ++ cue.path ++ ": " ++ reason)
    refine .aside ?_ ⟨?_, hlogged⟩ ?_ (.inr ?_)
    all_goals rw [heq]
    · exact ⟨rfl, rfl, id⟩
    · rfl
  · exact change_self p

theorem step_change (p : Player) (event : Event) : Change p event.queuedFile? (p.step event) := by
  cases event with
  | enqueue path => exact .queued path
  | stop => exact .stopped
  | silence fault => exact change_silence p fault
  | close => exact .aside ⟨rfl, rfl, fun _ => rfl⟩ ⟨rfl, rfl⟩ rfl (.inl rfl)
  | cancel => exact .aside ⟨rfl, rfl, fun _ => Bool.or_true _⟩ ⟨rfl, rfl⟩ rfl (.inl rfl)
  | dequeue => exact change_dequeue p
  | decoded result => exact change_endDecoding p result
  | start fault => exact change_start p fault
  | finish fault => exact change_finish p fault

/-! ## From one event to a run -/

variable {queued : Option String} {events : List Event}

theorem Change.current (h : Change p queued q) (hp : p.Current) : q.Current := by
  cases h with
  | queued path => exact hp
  | stopped => exact fun cue generation htaken => Nat.le_succ_of_le (hp cue generation htaken)
  | taken kept silent isOn before queue task =>
    intro cue generation htaken
    rw [task] at htaken
    cases htaken
    exact Nat.le_of_eq kept.generation.symm
  | started kept before task queue started logged =>
    intro cue generation htaken
    rw [task] at htaken
    cases htaken
  | aside kept silent queue task =>
    intro cue generation htaken
    rw [kept.generation]
    obtain task | task := task
    · rw [task] at htaken
      exact hp cue generation htaken
    · rw [task] at htaken
      cases htaken

/-- What was started meanwhile, and what still stands in the line, comes from the line and from what
joined it, in order. -/
def Follows (p q : Player) : Prop :=
  ∃ later joined, q.started = p.started ++ later ∧ q.accepted = p.accepted ++ joined ∧
    later ++ q.line <+ p.line ++ joined

theorem Follows.refl (p : Player) : Follows p p :=
  ⟨[], [], (List.append_nil _).symm, (List.append_nil _).symm, by simp⟩

theorem Follows.trans (hpq : Follows p q) (hqr : Follows q r) : Follows p r := by
  obtain ⟨later, joined, hstarted, haccepted, hsub⟩ := hpq
  obtain ⟨later', joined', hstarted', haccepted', hsub'⟩ := hqr
  refine ⟨later ++ later', joined ++ joined', ?_, ?_, ?_⟩
  · rw [hstarted', hstarted, List.append_assoc]
  · rw [haccepted', haccepted, List.append_assoc]
  · calc later ++ later' ++ r.line
      _ = later ++ (later' ++ r.line) := List.append_assoc _ _ _
      _ <+ later ++ (q.line ++ joined') := hsub'.append_left later
      _ = later ++ q.line ++ joined' := (List.append_assoc _ _ _).symm
      _ <+ p.line ++ joined ++ joined' := hsub.append_right joined'
      _ = p.line ++ (joined ++ joined') := List.append_assoc _ _ _

/-- An event that starts nothing and lets nothing join follows if it adds nothing to the line. -/
theorem follows_of_line (hstarted : q.started = p.started) (haccepted : q.accepted = p.accepted)
    (hline : q.line <+ p.line) : Follows p q :=
  ⟨[], [], by rw [hstarted, List.append_nil], by rw [haccepted, List.append_nil], by simpa⟩

theorem ready_of_taken (h : p.task.taken? = some (cue, p.generation)) : p.ready = [cue] := by
  rw [ready, h]
  exact if_pos rfl

theorem ready_of_none (h : p.task.taken? = none) : p.ready = [] := by
  rw [ready, h]

theorem Change.follows (h : Change p queued q) (hp : p.Current) : Follows p q := by
  cases h with
  | queued path =>
    refine ⟨[], [{ number := p.accepted.length, path }], (List.append_nil _).symm, rfl, ?_⟩
    have hline : (p.enqueue path).line =
        p.line ++ [{ number := p.accepted.length, path }] := (List.append_assoc _ _ _).symm
    exact hline ▸ List.Sublist.refl _
  | stopped => exact follows_of_line rfl rfl (by rw [line_stop hp]; exact List.nil_sublist _)
  | taken kept silent isOn before queue task =>
    rw [← kept.generation] at task
    have hline : q.line = p.line := by
      rw [line, line, ready_of_taken task, ready_of_none before, queue]
      rfl
    exact follows_of_line silent.started kept.accepted (hline ▸ List.Sublist.refl _)
  | @started _ cue kept before task queue started logged =>
    have hline : [cue] ++ q.line = p.line ++ [] := by
      rw [line, line, ready_of_taken before, ready_of_none task, queue, List.append_nil]
      rfl
    exact ⟨[cue], [], started, by rw [kept.accepted, List.append_nil],
      hline ▸ List.Sublist.refl _⟩
  | aside kept silent queue task =>
    have hready : q.ready <+ p.ready := by
      obtain task | task := task
      · have hsame : q.ready = p.ready := by rw [ready, ready, task, kept.generation]
        exact hsame ▸ List.Sublist.refl _
      · rw [ready_of_none task]
        exact List.nil_sublist _
    refine follows_of_line silent.started kept.accepted ?_
    rw [line, line, queue]
    exact hready.append_right p.queue

theorem run_cons (p : Player) (event : Event) (events : List Event) :
    p.run (event :: events) = (p.step event).run events := rfl

theorem run_append (p : Player) (before after : List Event) :
    p.run (before ++ after) = (p.run before).run after :=
  List.foldl_append

/-- **What is started comes from the line and from what joins it, in order.** -/
theorem run_follows (hp : p.Current) (events : List Event) :
    (p.run events).Current ∧ Follows p (p.run events) := by
  induction events generalizing p with
  | nil => exact ⟨hp, .refl p⟩
  | cons event rest ih =>
    have hstep := step_change p event
    obtain ⟨hcurrent, hfollows⟩ := ih (hstep.current hp)
    exact ⟨hcurrent, (hstep.follows hp).trans hfollows⟩

/-! ## When the player is over -/

/-- The player is over, and the worker has no cue that may still be started. Then it takes none
either. -/
structure Shut (p : Player) : Prop where
  current : p.Current
  isOver : p.isOver = true
  ready : p.ready = []

theorem ready_eq_nil_of_line (h : p.line = []) : p.ready = [] :=
  (List.append_eq_nil_iff.mp h).1

/-- A stop shuts a player that is over. -/
theorem shut_stop (hp : p.Current) (hover : p.isOver = true) : p.stop.Shut :=
  ⟨Change.stopped.current hp, hover, ready_eq_nil_of_line (line_stop hp)⟩

theorem Shut.change (hp : p.Shut) (h : Change p queued q) : q.Shut ∧ q.started = p.started := by
  cases h with
  | queued path => exact ⟨⟨hp.current, hp.isOver, hp.ready⟩, rfl⟩
  | stopped => exact ⟨shut_stop hp.current hp.isOver, rfl⟩
  | taken kept silent isOn before queue task =>
    rw [hp.isOver] at isOn
    cases isOn
  | started kept before task queue started logged =>
    have hready := hp.ready
    rw [ready_of_taken before] at hready
    cases hready
  | aside kept silent queue task =>
    refine ⟨⟨(Change.aside kept silent queue task).current hp.current, kept.isOver hp.isOver, ?_⟩,
      silent.started⟩
    obtain task | task := task
    · rw [Player.ready, task, kept.generation]
      exact hp.ready
    · exact ready_of_none task

/-- **Nothing is started once the player is shut.** -/
theorem Shut.run (hp : p.Shut) (events : List Event) :
    (p.run events).Shut ∧ (p.run events).started = p.started := by
  induction events generalizing p with
  | nil => exact ⟨hp, rfl⟩
  | cons event rest ih =>
    obtain ⟨hshut, hstarted⟩ := hp.change (step_change p event)
    obtain ⟨hrun, hsame⟩ := ih hshut
    exact ⟨hrun, hsame.trans hstarted⟩

theorem Change.isOver (h : Change p queued q) (hp : p.isOver = true) : q.isOver = true := by
  cases h with
  | queued path => exact hp
  | stopped => exact hp
  | taken kept silent isOn before queue task => exact kept.isOver hp
  | started kept before task queue started logged => exact kept.isOver hp
  | aside kept silent queue task => exact kept.isOver hp

theorem isOver_run (hp : p.isOver = true) (events : List Event) : (p.run events).isOver = true := by
  induction events generalizing p with
  | nil => exact hp
  | cons event rest ih => exact ih ((step_change p event).isOver hp)

/-- A player that was closed and then stopped is shut. -/
theorem shut_of_closed (hp : p.Current) (h : [.close, .stop] <+ events) : (p.run events).Shut := by
  obtain ⟨toClose, toStop, rfl, hclose, hstop⟩ := List.cons_sublist_iff.mp h
  obtain ⟨before, between, rfl⟩ := List.append_of_mem hclose
  obtain ⟨between', after, rfl⟩ := List.append_of_mem (List.singleton_sublist.mp hstop)
  have hover : (p.run (before ++ .close :: between ++ between')).isOver = true := by
    rw [List.append_assoc, run_append, List.cons_append, run_cons]
    exact isOver_run rfl _
  have hcurrent := (run_follows hp (before ++ .close :: between ++ between')).1
  rw [← List.append_assoc, run_append, run_cons]
  exact ((shut_stop hcurrent hover).run after).1

/-! ## What the player has on record -/

/-- The record of a player: cues are numbered in the order in which they were queued, and the device
was told to play what was started. -/
structure Recorded (p : Player) (files : List String) : Prop where
  numbered : p.accepted.map Cue.number = List.range p.accepted.length
  files : p.accepted.map Cue.path = files
  told : p.startedFiles = p.started.map Cue.path

theorem Change.recorded {files : List String} (h : Change p queued q) (hp : p.Recorded files) :
    q.Recorded (files ++ queued.toList) := by
  have hkept {q : Player} (haccepted : q.accepted = p.accepted)
      (htold : q.startedFiles = q.started.map Cue.path) :
      q.Recorded (files ++ (none : Option String).toList) :=
    ⟨by rw [haccepted, hp.numbered], by rw [haccepted, hp.files]; simp, htold⟩
  cases h with
  | queued path =>
    have haccepted : (p.enqueue path).accepted =
        p.accepted ++ [{ number := p.accepted.length, path }] := rfl
    refine ⟨?_, ?_, hp.told⟩
    · rw [haccepted, List.map_append, hp.numbered, List.length_append]
      exact List.range_succ.symm
    · rw [haccepted, List.map_append, hp.files]
      rfl
  | stopped => exact hkept rfl hp.told
  | taken kept silent isOn before queue task =>
    exact hkept kept.accepted (by rw [silent.logged, silent.started, hp.told])
  | started kept before task queue started logged =>
    refine hkept kept.accepted ?_
    rw [logged, started, List.map_append, hp.told]
    rfl
  | aside kept silent queue task =>
    exact hkept kept.accepted (by rw [silent.logged, silent.started, hp.told])

theorem run_recorded {files : List String} (hp : p.Recorded files) (events : List Event) :
    (p.run events).Recorded (files ++ events.filterMap Event.queuedFile?) := by
  induction events generalizing p files with
  | nil => rwa [List.filterMap_nil, List.append_nil]
  | cons event rest ih =>
    have hrest := ih ((step_change p event).recorded hp)
    rw [List.append_assoc] at hrest
    rw [run_cons]
    cases hfile : event.queuedFile? <;> simpa [hfile] using hrest

/-! ## Whatever happens -/

/-- **Cues are started in order, each at most once, and never behind a stop that they came before.**
Whatever happens to a new player, in whatever order, the cues that the device is told to play are a
subsequence of those that were queued; those after a stop are a subsequence of those queued after
it; and when closing has taken its two steps, no cue is started any more. -/
theorem started_in_order (device : Option AudioDevice) (events : List Event) :
    (run { device } events).Recorded (events.filterMap Event.queuedFile?) ∧
    (run { device } events).started <+ (run { device } events).accepted ∧
    ((run { device } events).started.map Cue.number).Pairwise (· < ·) ∧
    (∀ before after, events = before ++ .stop :: after → ∃ later joined,
      (run { device } events).started = (run { device } before).started ++ later ∧
      (run { device } events).accepted = (run { device } before).accepted ++ joined ∧
      later <+ joined) ∧
    ∀ before after, events = before ++ after → [.close, .stop] <+ before →
      (run { device } events).started = (run { device } before).started := by
  have hcurrent : ({ device } : Player).Current := nofun
  have hrecorded := run_recorded (p := { device }) ⟨rfl, rfl, rfl⟩ events
  have hsub : (run { device } events).started <+ (run { device } events).accepted := by
    obtain ⟨-, later, joined, hstarted, haccepted, hsub⟩ := run_follows hcurrent events
    rw [hstarted, haccepted]
    exact (List.sublist_append_left later _).trans hsub
  refine ⟨hrecorded, hsub, ?_, ?_, ?_⟩
  · refine List.Pairwise.sublist (hsub.map Cue.number) ?_
    rw [hrecorded.numbered]
    exact List.pairwise_lt_range
  · rintro before after rfl
    have hbefore := (run_follows hcurrent before).1
    have hstop : ((run { device } before).stop).Current := Change.stopped.current hbefore
    obtain ⟨-, later, joined, hstarted, haccepted, hsub⟩ := run_follows hstop after
    rw [line_stop hbefore, List.nil_append] at hsub
    rw [run_append, run_cons]
    exact ⟨later, joined, hstarted, haccepted, (List.sublist_append_left later _).trans hsub⟩
  · rintro before after rfl hclosed
    rw [run_append]
    exact ((shut_of_closed hcurrent hclosed).run after).2

-- the first cue is decoded when the player is stopped, and the second one is queued behind that
example : (run {} [.enqueue "ring.wav", .dequeue, .stop, .enqueue "busy.wav", .decoded (.ok 8000),
    .start none, .dequeue, .decoded (.ok 8000), .start none]).startedFiles = ["busy.wav"] := by
  decide

/-! ## The worker on its own -/

theorem handleNext_eq_run (fate : String → Fate) (p : Player) :
    ∃ events, p.handleNext fate = p.run events := by
  unfold handleNext
  dsimp only
  split
  · rename_i cue generation _
    generalize fate cue.path = f
    refine ⟨.dequeue :: ((if f.stopsPlayer then [.stop] else []) ++ [.decoded f.decoding,
      .start f.starting] ++ if f.endless then [] else [.finish f.finishing]), ?_⟩
    cases f.stopsPlayer <;> cases f.endless <;> rfl
  · exact ⟨[.dequeue], rfl⟩

/-- **The worker on its own takes the same steps** as among others. -/
theorem settle_eq_run (fate : String → Fate) (p : Player) :
    ∃ events, p.settle fate = p.run events := by
  have hwithin (fuel : Nat) (p : Player) : ∃ events, settleWithin fate fuel p = p.run events := by
    induction fuel generalizing p with
    | zero => exact ⟨[], rfl⟩
    | succ fuel ih =>
      unfold settleWithin
      split
      · exact ⟨[], rfl⟩
      · obtain ⟨handled, hhandled⟩ := handleNext_eq_run fate p
        dsimp only
        rw [hhandled]
        split
        · exact ⟨handled, rfl⟩
        · obtain ⟨rest, hrest⟩ := ih (p.run handled)
          exact ⟨handled ++ rest, by rw [hrest, run_append]⟩
  exact hwithin _ p

end Player

end DialUp.Audio
