import DialUp.Proofs.Audio.Player

/-!
# After a cancellation

A player that was cancelled takes no more cues. But the one that it took before is decoded to the
end and then started, unless the player is stopped by then; and a cancellation does not stop the
device.

* `startsTaken`: whether the events to come start the cue that was taken;
* `started_of_over`: nothing else is started once the player is over;
* `silencedInAll_run`: the device is stopped at most once for each stop of the player;
* `cancelled_run`: what a cancellation thus leaves of a player, whatever else happens to it.
-/

namespace DialUp.Audio.Player

variable {p : Player} {cue : Cue} {generation rate : Nat}

/-! ## The way of a cue that was taken -/

/-- The event decides about a cue that is being decoded: that ends, or the player is stopped. -/
def Event.endsDecoding (event : Event) : Bool := event matches .decoded _ | .stop

/-- The event decides about a decoded cue: it is started, or the player is stopped. -/
def Event.endsWaiting (event : Event) : Bool := event matches .start _ | .stop

/-- Whether a decoded cue is started: a start comes, and no stop before it. -/
def startsDecoded (events : List Event) : Bool :=
  events.find? Event.endsWaiting matches some (.start _)

/-- Whether a cue is started that is being decoded: its decoding ends with success, and no stop
comes before that or between that and the start. -/
def startsDecoding (events : List Event) : Bool :=
  match events.dropWhile (!·.endsDecoding) with
  | .decoded (.ok _) :: rest => startsDecoded rest
  | _ => false

/-- Whether the cue is started that the worker has taken, if there is one. -/
def startsTaken : Task → List Event → Bool
  | .decoding _ _, events => startsDecoding events
  | .decoded _ _ _, events => startsDecoded events
  | .idle, _ | .playing _, _ => false

/-- The worker is where it was, and nothing is started. -/
structure Waits (p q : Player) : Prop where
  task : q.task = p.task
  generation : q.generation = p.generation
  started : q.started = p.started

theorem waits_self (p : Player) : Waits p p := ⟨rfl, rfl, rfl⟩

/-- The worker has one cue at a time. So as long as it has one that is not started yet, nothing but
a stop, the end of a decoding and a start makes a difference to it. -/
theorem waits_of_taken (htaken : p.task.taken? = some (cue, generation)) (event : Event)
    (hdecoding : event.endsDecoding = false) (hwaiting : event.endsWaiting = false) :
    Waits p (p.step event) := by
  cases event with
  | stop | decoded => cases hdecoding
  | start => cases hwaiting
  | enqueue | close | cancel => exact ⟨rfl, rfl, rfl⟩
  | silence fault =>
    unfold step silence
    dsimp only
    split
    · exact waits_self p
    · rw [(tell_eq _ _ _).1]
      exact ⟨rfl, rfl, rfl⟩
  | dequeue =>
    unfold step dequeue
    dsimp only
    split
    · rename_i hidle
      rw [hidle] at htaken
      cases htaken
    · exact waits_self p
  | finish fault =>
    unfold step finish
    dsimp only
    split
    · rename_i hplaying
      rw [hplaying] at htaken
      cases htaken
    · exact waits_self p

/-- Once a player is over whose worker has no cue, nothing is started. -/
theorem started_of_none (hp : p.Current) (hover : p.isOver = true) (htask : p.task.taken? = none)
    (events : List Event) : (p.run events).started = p.started :=
  (Shut.run ⟨hp, hover, ready_of_none htask⟩ events).2

theorem started_of_stop (hp : p.Current) (hover : p.isOver = true) (events : List Event) :
    (p.run (.stop :: events)).started = p.started :=
  ((shut_stop hp hover).run events).2

theorem current_of_taken (h : p.task.taken? = some (cue, p.generation)) : p.Current := by
  rintro other generation hother
  rw [h] at hother
  cases hother
  exact Nat.le_refl _

/-- A decoded cue is started unless a stop comes first, and nothing else is. -/
theorem started_of_decoded (hover : p.isOver = true)
    (htask : p.task = .decoded cue p.generation rate) (events : List Event) :
    (p.run events).started = p.started ++ if startsDecoded events then [cue] else [] := by
  induction events generalizing p with
  | nil => exact (List.append_nil _).symm
  | cons event rest ih =>
    have htaken : p.task.taken? = some (cue, p.generation) := congrArg Task.taken? htask
    have hcurrent := current_of_taken htaken
    have hafter := (step_change p event).isOver hover
    have hwaits := waits_of_taken htaken event
    cases event with
    | stop => exact (started_of_stop hcurrent hover rest).trans (List.append_nil _).symm
    | start fault =>
      have hstarted : (p.start fault).task.taken? = none ∧
          (p.start fault).started = p.started ++ [cue] := by
        rw [start, htask]
        dsimp only
        rw [if_pos rfl]
        cases fault <;> exact ⟨rfl, rfl⟩
      have hnext := (step_change p (.start fault)).current hcurrent
      exact (started_of_none hnext hafter hstarted.1 rest).trans hstarted.2
    | decoded result =>
      have hsame : p.step (.decoded result) = p := by
        unfold step endDecoding
        dsimp only
        rw [htask]
      rw [run_cons, hsame]
      exact ih hover htask
    | _ =>
      -- the cue is still to be decided about
      have hwaits := hwaits rfl rfl
      rw [run_cons, ih hafter (by rw [hwaits.task, hwaits.generation, htask]), hwaits.started]
      rfl

/-- A cue that is being decoded is started if its decoding succeeds, unless a stop comes first, and
nothing else is. -/
theorem started_of_decoding (hover : p.isOver = true)
    (htask : p.task = .decoding cue p.generation) (events : List Event) :
    (p.run events).started = p.started ++ if startsDecoding events then [cue] else [] := by
  induction events generalizing p with
  | nil => exact (List.append_nil _).symm
  | cons event rest ih =>
    have htaken : p.task.taken? = some (cue, p.generation) := congrArg Task.taken? htask
    have hcurrent := current_of_taken htaken
    have hafter := (step_change p event).isOver hover
    have hwaits := waits_of_taken htaken event
    cases event with
    | stop => exact (started_of_stop hcurrent hover rest).trans (List.append_nil _).symm
    | decoded result =>
      cases result with
      | ok rate =>
        have hnext : p.step (.decoded (.ok rate)) =
            { p with task := .decoded cue p.generation rate } := by
          unfold step endDecoding
          dsimp only
          rw [htask]
        rw [hnext] at hafter
        rw [run_cons, hnext]
        exact started_of_decoded hafter rfl rest
      | error reason =>
        have hnext : (p.step (.decoded (.error reason))).task = .idle ∧
            (p.step (.decoded (.error reason))).started = p.started := by
          unfold step endDecoding
          dsimp only
          rw [htask]
          exact ⟨rfl, rfl⟩
        rw [run_cons, started_of_none ((step_change p _).current hcurrent) hafter
          (congrArg Task.taken? hnext.1), hnext.2]
        exact (List.append_nil _).symm
    | start fault =>
      have hsame : p.step (.start fault) = p := by
        rw [step, start, htask]
      rw [run_cons, hsame]
      exact ih hover htask
    | _ =>
      -- the cue is still to be decided about
      have hwaits := hwaits rfl rfl
      rw [run_cons, ih hafter (by rw [hwaits.task, hwaits.generation, htask]), hwaits.started]
      rfl

/-- **Once the player is over, nothing is started but the cue that was taken**, and that one exactly
if the events to come lead to its start. -/
theorem started_of_over (hp : p.Current) (hover : p.isOver = true) (events : List Event) :
    (p.run events).started =
      p.started ++ if startsTaken p.task events then p.ready else [] := by
  by_cases hready : p.ready = []
  · rw [(Shut.run ⟨hp, hover, hready⟩ events).2, hready, ite_self, List.append_nil]
  have hway (cue : Cue) (generation : Nat) (htaken : p.task.taken? = some (cue, generation)) :
      generation = p.generation ∧ p.ready = [cue] := by
    by_cases hgeneration : generation = p.generation
    · exact ⟨hgeneration, ready_of_taken (hgeneration ▸ htaken)⟩
    · rw [ready, htaken] at hready
      exact absurd (if_neg hgeneration) hready
  cases htask : p.task with
  | idle | playing => exact absurd (ready_of_none (congrArg Task.taken? htask)) hready
  | decoding cue generation =>
    obtain ⟨rfl, hcue⟩ := hway cue generation (congrArg Task.taken? htask)
    rw [hcue]
    exact started_of_decoding hover htask events
  | decoded cue generation rate =>
    obtain ⟨rfl, hcue⟩ := hway cue generation (congrArg Task.taken? htask)
    rw [hcue]
    exact started_of_decoded hover htask events

/-! ## How often the device is stopped -/

/-- How often the device was stopped. -/
def silenced (p : Player) : Nat := p.log.count .silence

/-- How often the device was stopped, or is yet to be. -/
def silencedInAll (p : Player) : Nat := p.silenced + p.silencing

theorem silencedInAll_emit (p : Player) (effect : Effect) (h : effect ≠ .silence) :
    (p.emit effect).silencedInAll = p.silencedInAll :=
  congrArg (· + p.silencing) (List.count_cons_of_ne h)

theorem silencedInAll_tell (p : Player) (fault : Option String) (notice : String → Notice) :
    (p.tell fault notice).silencedInAll = p.silencedInAll := by
  cases fault with
  | none => rfl
  | some reason => exact silencedInAll_emit p (.notice (notice reason)) nofun

theorem silencedInAll_stop (p : Player) :
    p.stop.silencedInAll = p.silencedInAll + if p.isPlaying then 1 else 0 := by
  change p.silenced + (if p.isPlaying then p.silencing + 1 else p.silencing) = _
  unfold silencedInAll
  split <;> omega

theorem silencedInAll_silence (p : Player) (fault : Option String) :
    (p.silence fault).silencedInAll = p.silencedInAll := by
  unfold silence
  split
  · rfl
  · rename_i silencing hsilencing
    rw [silencedInAll_tell]
    change (Effect.silence :: p.log).count .silence + silencing = p.silenced + p.silencing
    rw [List.count_cons_self, hsilencing, silenced]
    omega

theorem silencedInAll_dequeue (p : Player) : p.dequeue.silencedInAll = p.silencedInAll := by
  unfold dequeue
  split
  · rename_i hidle
    have hplaying : p.isPlaying = false := by
      rw [isPlaying, hidle]
    split
    · rw [silencedInAll_stop, hplaying]
      rfl
    · split
      · rfl
      · exact silencedInAll_emit _ (.decode _) nofun
  · rfl

theorem silencedInAll_endDecoding (p : Player) (result : Except String Nat) :
    (p.endDecoding result).silencedInAll = p.silencedInAll := by
  unfold endDecoding
  split
  · rfl
  · exact silencedInAll_emit _ (.notice _) nofun
  · rfl

theorem silencedInAll_start (p : Player) (fault : Option String) :
    (p.start fault).silencedInAll = p.silencedInAll := by
  unfold start
  split
  · rename_i cue generation rate _
    split
    · have htold := silencedInAll_emit { p with started := p.started ++ [cue] }
        (.start cue.path rate p.device) nofun
      cases fault with
      | none => exact htold
      | some reason => exact (silencedInAll_emit _ (.notice _) nofun).trans htold
    · rfl
  · rfl

theorem silencedInAll_finish (p : Player) (fault : Option String) :
    (p.finish fault).silencedInAll = p.silencedInAll := by
  unfold finish
  split
  · exact silencedInAll_tell _ fault _
  · rfl

/-- Only a stop brings about that the device is stopped once more. -/
theorem silencedInAll_step (p : Player) (event : Event) :
    (p.step event).silencedInAll ≤ p.silencedInAll + if event matches .stop then 1 else 0 := by
  cases event with
  | stop =>
    rw [step, silencedInAll_stop]
    refine Nat.add_le_add_left ?_ _
    split <;> decide
  | enqueue | close | cancel => exact Nat.le_refl _
  | silence fault => exact Nat.le_of_eq (silencedInAll_silence p fault)
  | dequeue => exact Nat.le_of_eq (silencedInAll_dequeue p)
  | decoded result => exact Nat.le_of_eq (silencedInAll_endDecoding p result)
  | start fault => exact Nat.le_of_eq (silencedInAll_start p fault)
  | finish fault => exact Nat.le_of_eq (silencedInAll_finish p fault)

theorem silencedInAll_run (p : Player) (events : List Event) :
    (p.run events).silencedInAll ≤ p.silencedInAll + events.countP (· matches .stop) := by
  induction events generalizing p with
  | nil => exact Nat.le_refl _
  | cons event rest ih =>
    rw [run_cons, List.countP_cons]
    have hstep := silencedInAll_step p event
    have hrest := ih (p.step event)
    omega

/-! ## Whatever happens -/

/-- **A cancellation only keeps the worker from taking more cues.** Whatever happens to a new player
before and after, the cue that the worker has taken by then is still started if its decoding ends
well and no stop comes in between, and no other cue is; and the device is stopped only for stops of
the player that came before and have yet to do so, or that come later. -/
theorem cancelled_run (device : Option AudioDevice) (before after : List Event) :
    (run { device } (before ++ .cancel :: after)).started = (run { device } before).started ++
      (if startsTaken (run { device } before).task after then (run { device } before).ready
        else []) ∧
    (run { device } (before ++ .cancel :: after)).silenced ≤ (run { device } before).silenced +
      (run { device } before).silencing + after.countP (· matches .stop) := by
  have hcurrent := (run_follows (p := { device }) nofun before).1
  rw [run_append, run_cons]
  refine ⟨?_, ?_⟩
  · exact started_of_over (p := (run { device } before).step .cancel) hcurrent (Bool.or_true _)
      after
  · exact Nat.le_trans (Nat.le_add_right _ _) (silencedInAll_run _ after)

/-- A cue that is being decoded when the player is cancelled is started, and one that is being
played then is played on. -/
theorem cancelled_unstopped :
    (run {} [.enqueue "ring.wav", .dequeue, .cancel]).startedFiles = [] ∧
    (run {} [.enqueue "ring.wav", .dequeue, .cancel, .decoded (.ok 8000), .start none]).startedFiles
      = ["ring.wav"] ∧
    (run {} [.enqueue "ring.wav", .dequeue, .decoded (.ok 8000), .start none, .cancel]).isPlaying =
      true ∧
    (run {} [.enqueue "ring.wav", .dequeue, .decoded (.ok 8000), .start none, .cancel]).silenced =
      0 := by
  decide

end DialUp.Audio.Player
