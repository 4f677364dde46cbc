import DialUp.Proofs.Server.Reception
import DialUp.Proofs.Session.Record
import DialUp.Server.Basic

/-!
# One session at a time

Clients arrive, sessions end and the server is started and stopped in any order, and each takes its
steps among those of the others. The reception stays in its phases all the while, so the slot is
never given back by who has not got it; and what a stop finds at the place that the server keeps is
the session that is running.

* `step_change`: what can come of an event; `run_keep`: what events keep;
* `Sound`, `Sound.run`: what holds at every point of a run;
* `arrive_run`: what becomes of a client that arrives;
* `left_of_wayOut`: what becomes of a session that ends;
* `stop_run`: what a stop has closed when it is over;
* `reaches_operateAll`, `Sound.stops`: the operations on a server are such runs, and what a stop as
  a whole comes to;
* `one_session_at_a_time`: all of it together.
-/

namespace DialUp.Server

variable {s t last : Server} {event : Event} {events before after : List Event}
  {target : Option Nat} {n k : Nat}

/-- Whether an event turns a client away, and if so, whether the client is reached. -/
def Event.refusal? : Event → Option Bool
  | .refuse reached => some reached
  | .start _ | .arrive _ | .seat | .failAccepting _ | .work _ _ | .finish _ | .withdraw _
  | .release _ | .beginStop | .endAccepting | .seek | .conclude => none

/-! ## What an event does -/

/-- What can come of an event. -/
inductive Change (s : Server) : Event → Server → Prop
  | nothing {event : Event} (refusal : event.refusal? = none) : Change s event s
  | started {bindFault : Option String} (stopped : s.running = false) :
      Change s (.start bindFault)
        { s with running := true, halt := .no, reception := s.reception.openDesk }
  | seated (desk : s.reception.desk = .admitting) :
      Change s .seat
        { s with
          reception := s.reception.seat
          sessions := s.sessions ++ [Session.start s.settings s.around] }
  /-- Something is done at the reception, but no session begins. -/
  | received {event : Event} {reception : Reception}
      (move : Reception.Move event.refusal? s.reception reception)
      (quiet : Reception.Quiet s.reception reception) : Change s event { s with reception }
  | worked (number : Nat) (change : Session → Session) :
      Change s (.work number change) (s.work number change)
  | called (running : s.running = true) (halt : s.halt = .no) :
      Change s .beginStop { s with halt := .called }
  | sought (halt : s.halt = .called) :
      Change s .seek { s with halt := .found s.reception.current }
  | concluded {sessions : List Session} (halt : ∃ target, s.halt = .found target)
      (length : sessions.length = s.sessions.length) :
      Change s .conclude { s with sessions, running := false, halt := .done }

theorem change_start {bindFault : Option String} (h : s.step (.start bindFault) = .ok t) :
    Change s (.start bindFault) t := by
  unfold step start at h
  cases hrunning : s.running with
  | true =>
    simp only [hrunning] at h
    cases h
    exact .nothing rfl
  | false =>
    cases bindFault <;> simp only [hrunning] at h <;> cases h
    · exact .started hrunning
    · exact .nothing rfl

theorem change_seat (s : Server) : Change s .seat s.seat := by
  unfold seat
  split
  · rename_i hdesk
    exact .seated hdesk
  · exact .nothing rfl

theorem step_release (h : s.step (.release n) = .ok t) :
    ∃ reception, s.reception.release n = .ok reception ∧ t = { s with reception } := by
  simp only [step] at h
  cases hrelease : s.reception.release n with
  | error fault =>
    rw [hrelease] at h
    cases h
  | ok reception =>
    rw [hrelease] at h
    cases h
    exact ⟨reception, rfl, rfl⟩

theorem change_release (h : s.step (.release n) = .ok t) : Change s (.release n) t := by
  obtain ⟨_, hrelease, rfl⟩ := step_release h
  exact .received (.release hrelease) (Reception.quiet_release hrelease)

theorem change_beginStop (s : Server) : Change s .beginStop s.beginStop := by
  unfold beginStop
  split
  · rename_i hboth
    rw [Bool.and_eq_true, beq_iff_eq] at hboth
    exact .called hboth.1 hboth.2
  · exact .nothing rfl

theorem change_endAccepting (s : Server) : Change s .endAccepting s.endAccepting := by
  unfold endAccepting
  split
  · exact .nothing rfl
  · exact .received (.closeDesk _) (Reception.quiet_closeDesk _)

theorem change_seek (s : Server) : Change s .seek s.seek := by
  unfold seek
  split
  · rename_i hcalled
    exact .sought hcalled
  · exact .nothing rfl

theorem change_conclude (s : Server) : Change s .conclude s.conclude := by
  unfold conclude
  split
  · rename_i number hfound
    exact .concluded ⟨_, hfound⟩ (List.length_modify _ _ _)
  · rename_i hfound
    exact .concluded ⟨_, hfound⟩ rfl
  · exact .nothing rfl

theorem step_change (h : s.step event = .ok t) : Change s event t := by
  cases event with
  | start bindFault => exact change_start h
  | arrive peer => cases h; exact .received (.arrive _ peer) (Reception.quiet_arrive _ peer)
  | seat => cases h; exact change_seat s
  | refuse reached =>
    cases h
    exact .received (.refuse _ reached) (Reception.quiet_refuse _ reached)
  | failAccepting reason =>
    cases h
    exact .received (.closeDesk _) (Reception.quiet_closeDesk _)
  | work number change => cases h; exact .worked number change
  | finish number => cases h; exact .received (.finish _ number) (Reception.quiet_finish _ number)
  | withdraw number =>
    cases h
    exact .received (.withdraw _ number) (Reception.quiet_withdraw _ number)
  | release number => exact change_release h
  | beginStop => cases h; exact change_beginStop s
  | endAccepting => cases h; exact change_endAccepting s
  | seek => cases h; exact change_seek s
  | conclude => cases h; exact change_conclude s

theorem Change.move (h : Change s event t) :
    Reception.Move event.refusal? s.reception t.reception := by
  cases h with
  | nothing refusal => rw [refusal]; exact .stay _
  | started => exact .openDesk _
  | seated => exact .seat _
  | received move => exact move
  | worked | called | sought | concluded => exact .stay _

/-! ## From one event to a run -/

/-- What holds of a server at every point of a run. -/
structure Sound (s : Server) : Prop where
  phase : ∃ k phase, s.reception.InPhase k phase
  fresh : s.reception.Fresh
  /-- Each session has a stage. -/
  counted : s.sessions.length = s.reception.stages.length
  /-- A server that is being stopped is running. -/
  running : s.halt = .called ∨ (∃ target, s.halt = .found target) → s.running = true
  /-- A session that was found is there. -/
  found : ∀ n, s.halt = .found (some n) → n < s.sessions.length

theorem Sound.current_lt (h : s.Sound) (hn : s.reception.current = some n) :
    n < s.sessions.length := by
  obtain ⟨k, phase, hphase⟩ := h.phase
  rw [h.counted]
  obtain hstage | hstage := hphase.current_iff.mp hn <;>
    exact (List.getElem?_eq_some_iff.mp hstage).1

theorem Sound.change (h : s.Sound) (hchange : Change s event t) : t.Sound := by
  have hphase := hchange.move.inPhase h.phase
  have hfresh := hchange.move.fresh h.fresh
  cases hchange with
  | nothing => exact h
  | started stopped =>
    refine ⟨hphase, hfresh, h.counted.trans ?_, fun _ => rfl, nofun⟩
    dsimp only
    unfold Reception.openDesk
    split <;> rfl
  | seated desk =>
    refine ⟨hphase, hfresh, ?_, h.running, fun n hn => ?_⟩
    · simp [Reception.seat, desk, h.counted]
    · have hlt := h.found n hn
      rw [List.length_append]
      omega
  | received move quiet =>
    exact ⟨hphase, hfresh, h.counted.trans quiet.length.symm, h.running, h.found⟩
  | worked number change =>
    have hlength : (s.work number change).sessions.length = s.sessions.length :=
      List.length_modify _ _ _
    exact ⟨hphase, hfresh, hlength.trans h.counted, h.running,
      fun n hn => hlength ▸ h.found n hn⟩
  | called running halt => exact ⟨hphase, hfresh, h.counted, fun _ => running, nofun⟩
  | sought halt =>
    exact ⟨hphase, hfresh, h.counted, fun _ => h.running (.inl halt),
      fun n hn => h.current_lt (Halt.found.inj hn)⟩
  | concluded _ length => exact ⟨hphase, hfresh, length.trans h.counted, by simp, nofun⟩

/-- **No event makes a session give back what it has not got.** -/
theorem Sound.step (h : s.Sound) (event : Event) : ∃ t, s.step event = .ok t ∧ t.Sound := by
  have hok : ∃ t, s.step event = .ok t := by
    obtain ⟨k, phase, hphase⟩ := h.phase
    cases event with
    | start bindFault =>
      unfold Server.step
      dsimp only
      split <;> exact ⟨_, rfl⟩
    | release number =>
      obtain ⟨reception, hrelease, -⟩ := hphase.release number
      exact ⟨{ s with reception }, by simp only [Server.step, hrelease]; rfl⟩
    | _ => exact ⟨_, rfl⟩
  obtain ⟨t, hstep⟩ := hok
  exact ⟨t, hstep, h.change (step_change hstep)⟩

theorem run_cons_eq_ok : s.run (event :: events) = .ok t ↔
    ∃ next, s.step event = .ok next ∧ next.run events = .ok t := by
  unfold run
  rw [List.foldlM_cons]
  cases s.step event <;> simp [bind, Except.bind]

theorem run_append (s : Server) (before after : List Event) :
    s.run (before ++ after) = s.run before >>= fun t => t.run after :=
  List.foldlM_append

theorem run_append_eq_ok : s.run (before ++ after) = .ok t ↔
    ∃ next, s.run before = .ok next ∧ next.run after = .ok t := by
  rw [run_append]
  cases s.run before <;> simp [bind, Except.bind]

/-- **At every point of a run a server is sound**, and the run gets to its end. -/
theorem Sound.run (h : s.Sound) (events : List Event) : ∃ t, s.run events = .ok t ∧ t.Sound := by
  induction events generalizing s with
  | nil => exact ⟨s, rfl, h⟩
  | cons event rest ih =>
    obtain ⟨next, hnext, hsound⟩ := h.step event
    obtain ⟨last, hrest, hlast⟩ := ih hsound
    exact ⟨last, run_cons_eq_ok.mpr ⟨next, hnext, hrest⟩, hlast⟩

/-- **What every event keeps** that is allowed holds after a run of such events. -/
theorem run_keep {P : Server → Prop} {A : Event → Prop}
    (keep : ∀ {s t : Server} {event : Event}, A event → Change s event t → P s → P t)
    (hevents : ∀ event ∈ events, A event) (hrun : s.run events = .ok t) (h : P s) : P t := by
  induction events generalizing s with
  | nil => cases hrun; exact h
  | cons event rest ih =>
    obtain ⟨next, hstep, hrest⟩ := run_cons_eq_ok.mp hrun
    obtain ⟨hevent, hlater⟩ := List.forall_mem_cons.mp hevents
    exact ih hlater hrest (keep hevent (step_change hstep) h)

theorem sound_create (config : Configuration) (settings : Session.Settings)
    (around : Session.Surroundings) (host : Option String) (port : Option Int) :
    (create config settings around host port).Sound where
  phase := ⟨0, .free, rfl, by simp [create], by simp [create], rfl, rfl⟩
  fresh := ⟨nofun, fun _ _ => rfl⟩
  counted := rfl
  running := by simp [create]
  found := nofun

/-! ## Clients that are turned away -/

/-- The sessions are as they were, and so are the slot and the place that the server keeps. -/
structure Untouched (s t : Server) : Prop where
  sessions : t.sessions = s.sessions
  stages : t.reception.stages = s.reception.stages
  guard : t.reception.guard = s.reception.guard
  current : t.reception.current = s.reception.current

theorem untouched_arrive (peer : String) (hheld : s.reception.guard.held = true)
    (h : s.step (.arrive peer) = .ok t) : Untouched s t := by
  cases h
  by_cases hdesk : s.reception.desk = .waiting
  · rw [Reception.arrive_of_held hdesk hheld]
    exact ⟨rfl, rfl, rfl, rfl⟩
  · rw [Reception.arrive_of_desk hdesk]
    exact ⟨rfl, rfl, rfl, rfl⟩

theorem untouched_refuse (reached : Bool) (h : s.step (.refuse reached) = .ok t) :
    Untouched s t := by
  cases h
  unfold Reception.refuse
  split
  · cases reached <;> exact ⟨rfl, rfl, rfl, rfl⟩
  · exact ⟨rfl, rfl, rfl, rfl⟩

/-- Nothing more is done to a client that the desk has done with. -/
theorem done_run {client : Nat} {deeds : List Deed} (h : s.reception.Done client deeds)
    (hrun : s.run events = .ok t) : t.reception.Done client deeds :=
  run_keep (P := fun u => u.reception.Done client deeds) (A := fun _ => True)
    (fun _ hchange h => h.move hchange.move) (fun _ _ => trivial) hrun h

/-- A client that is turned away gets what it gets at the next refusal. -/
theorem refused_run {client : Nat} (h : s.reception.Refused client)
    (hrun : s.run events = .ok t) : t.reception.dealings client =
      (events.findSome? Event.refusal?).elim [] (Reception.farewell client) := by
  induction events generalizing s with
  | nil => cases hrun; exact h.dealings
  | cons event rest ih =>
    obtain ⟨next, hstep, hrest⟩ := run_cons_eq_ok.mp hrun
    have hmove := (step_change hstep).move
    rw [List.findSome?_cons]
    cases hrefusal : event.refusal? with
    | none => exact ih (h.move (hrefusal ▸ hmove)) hrest
    | some reached => exact (done_run (h.done (hrefusal ▸ hmove)) hrest).dealings

/-- A client arrives at a desk that is waiting: if the slot is held, the client gets the farewell at
the next refusal and nothing else, and otherwise nothing at all is done to it at the desk. -/
theorem arrive_run {peer : String} (h : s.Sound) (hdesk : s.reception.desk = .waiting)
    (hrun : s.run (.arrive peer :: events) = .ok t) :
    t.reception.dealings s.reception.clients =
      if s.reception.guard.held then
        (events.findSome? Event.refusal?).elim [] (Reception.farewell s.reception.clients)
      else [] := by
  have hnew := h.fresh.dealings s.reception.clients (Nat.le_refl _)
  change Server.run { s with reception := s.reception.arrive peer } events = .ok t at hrun
  cases hheld : s.reception.guard.held with
  | true =>
    rw [Reception.arrive_of_held hdesk hheld] at hrun
    have hrefused : Reception.Refused { s.reception with
        desk := .refusing s.reception.clients peer, clients := s.reception.clients + 1 }
        s.reception.clients := ⟨Nat.lt_succ_self _, ⟨peer, rfl⟩, hnew⟩
    exact refused_run hrefused hrun
  | false =>
    rw [Reception.arrive_of_free hdesk hheld] at hrun
    have hdone : Reception.Done (Reception.note { s.reception with
        guard := ⟨true⟩, desk := .admitting, clients := s.reception.clients + 1 }
        (.took s.reception.stages.length)) s.reception.clients [] :=
      ⟨Nat.lt_succ_self _, nofun, (Reception.dealings_note_of_none rfl).trans hnew⟩
    exact (done_run hdone hrun).dealings

/-! ## Sessions that end -/

/-- The way out of a session: its run is over, it loses its place, and it gives the slot back. -/
def wayOut (n : Nat) : List Event := [.finish n, .withdraw n, .release n]

theorem passed_run (h : s.reception.Passed n k) (hrun : s.run events = .ok t) :
    t.reception.Passed n k :=
  run_keep (P := fun u => u.reception.Passed n k) (A := fun _ => True)
    (fun _ hchange h => h.move hchange.move) (fun _ _ => trivial) hrun h

/-- A session that takes its next step at some point of a run has got further after it. -/
theorem passed_of_mem (hmem : event ∈ events) (hrun : s.run events = .ok t)
    (h : s.reception.Passed n k) (hnext : ∀ {s t : Server}, s.step event = .ok t →
      s.reception.Passed n k → t.reception.Passed n (k + 1)) :
    t.reception.Passed n (k + 1) := by
  obtain ⟨before, after, rfl⟩ := List.append_of_mem hmem
  obtain ⟨r, hbefore, hrest⟩ := run_append_eq_ok.mp hrun
  obtain ⟨next, hstep, hafter⟩ := run_cons_eq_ok.mp hrest
  exact passed_run (hnext hstep (passed_run h hbefore)) hafter

/-- **A session that goes all the way out has left**, whatever happens meanwhile. -/
theorem left_of_wayOut (hn : n < s.reception.stages.length) (hway : (wayOut n).Sublist events)
    (hrun : s.run events = .ok t) : t.reception.stages[n]? = some .left := by
  obtain ⟨finishing, later, rfl, hfinish, hway⟩ := List.cons_sublist_iff.mp hway
  obtain ⟨withdrawing, releasing, rfl, hwithdraw, hway⟩ := List.cons_sublist_iff.mp hway
  have hrelease := List.singleton_sublist.mp hway
  obtain ⟨s₁, hrun₁, hlater⟩ := run_append_eq_ok.mp hrun
  obtain ⟨s₂, hrun₂, hrun₃⟩ := run_append_eq_ok.mp hlater
  have began : s.reception.Passed n 0 := ⟨_, List.getElem?_eq_getElem hn, Nat.zero_le _⟩
  have ended : s₁.reception.Passed n 1 := by
    refine passed_of_mem hfinish hrun₁ began fun hstep h => ?_
    cases hstep
    exact h.finish
  have withdrawn : s₂.reception.Passed n 2 := by
    refine passed_of_mem hwithdraw hrun₂ ended fun hstep h => ?_
    cases hstep
    exact h.withdraw
  have released : t.reception.Passed n 3 := by
    refine passed_of_mem hrelease hrun₃ withdrawn fun hstep h => ?_
    obtain ⟨_, hgiven, rfl⟩ := step_release hstep
    exact h.release hgiven
  exact released.left

/-! ## Stopping -/

/-- The session with the number is there, and it is closed. -/
def IsClosed (s : Server) (n : Nat) : Prop :=
  ∃ session, s.sessions[n]? = some session ∧ session.closed = true

/-- What a stop has done when it is over, of which the look at the sessions that it took is given.
It has closed the session that was running then, and if the desk was closed by then, whatever
session is running at all. -/
structure Stopped (looked last : Server) : Prop where
  running : last.running = false
  closed : ∀ n : Nat, looked.reception.stages[n]? = some .running → last.IsClosed n
  sealed : looked.reception.desk = .closed →
    ∀ n : Nat, last.reception.stages[n]? = some .running → last.IsClosed n

/-- A stop has begun and has not taken its look yet. -/
structure Called (s : Server) : Prop where
  sound : s.Sound
  halt : s.halt = .called

theorem Called.change (h : s.Called) (hevent : event ≠ .seek) (hchange : Change s event t) :
    t.Called := by
  refine ⟨h.sound.change hchange, ?_⟩
  have hhalt := h.halt
  cases hchange with
  | nothing | seated | received | worked | called => first | exact hhalt | rfl
  | started stopped =>
    rw [h.sound.running (.inl hhalt)] at stopped
    cases stopped
  | sought => exact absurd rfl hevent
  | concluded found =>
    obtain ⟨target, hfound⟩ := found
    rw [hhalt] at hfound
    cases hfound

theorem Called.run (h : s.Called) (hevents : .seek ∉ events) (hrun : s.run events = .ok t) :
    t.Called :=
  run_keep (fun hevent hchange h => h.change hevent hchange)
    (fun _ hmem heq => hevents (heq ▸ hmem)) hrun h

/-- Between the look that a stop takes and its end. -/
structure Seeking (s : Server) (target : Option Nat) : Prop where
  sound : s.Sound
  halt : s.halt = .found target

/-- The desk is closed, and no session is running but the one that was found. -/
structure Sealed (s : Server) (target : Option Nat) : Prop where
  seeking : s.Seeking target
  desk : s.reception.desk = .closed
  running : ∀ n : Nat, s.reception.stages[n]? = some .running → target = some n

theorem Seeking.running (h : s.Seeking target) : s.running = true :=
  h.sound.running (.inr ⟨target, h.halt⟩)

theorem Seeking.change (h : s.Seeking target) (hevent : event ≠ .conclude)
    (hchange : Change s event t) : t.Seeking target := by
  refine ⟨h.sound.change hchange, ?_⟩
  have hhalt := h.halt
  cases hchange with
  | nothing | seated | received | worked => exact hhalt
  | started stopped =>
    rw [h.running] at stopped
    cases stopped
  | called running halt =>
    rw [halt] at hhalt
    cases hhalt
  | sought halt =>
    rw [halt] at hhalt
    cases hhalt
  | concluded => exact absurd rfl hevent

theorem Sealed.change (h : s.Sealed target) (hevent : event ≠ .conclude)
    (hchange : Change s event t) : t.Sealed target := by
  have hseeking := h.seeking.change hevent hchange
  cases hchange with
  | nothing | worked | called | sought => exact ⟨hseeking, h.desk, h.running⟩
  | started stopped =>
    rw [h.seeking.running] at stopped
    cases stopped
  | seated desk =>
    rw [h.desk] at desk
    cases desk
  | received move quiet =>
    exact ⟨hseeking, quiet.closed h.desk, fun n hn => h.running n (quiet.running n hn)⟩
  | concluded => exact absurd rfl hevent

theorem Seeking.run (h : s.Seeking target) (hevents : .conclude ∉ events)
    (hrun : s.run events = .ok t) : t.Seeking target :=
  run_keep (P := (Seeking · target)) (fun hevent hchange h => h.change hevent hchange)
    (fun _ hmem heq => hevents (heq ▸ hmem)) hrun h

theorem Sealed.run (h : s.Sealed target) (hevents : .conclude ∉ events)
    (hrun : s.run events = .ok t) : t.Sealed target :=
  run_keep (P := (Sealed · target)) (fun hevent hchange h => h.change hevent hchange)
    (fun _ hmem heq => hevents (heq ▸ hmem)) hrun h

/-- The end of a stop closes the session that was found. -/
theorem Seeking.conclude (h : s.Seeking (some n)) (hstep : s.step .conclude = .ok t) :
    t.IsClosed n := by
  have hn := h.sound.found n h.halt
  cases hstep
  unfold Server.conclude
  rw [h.halt]
  refine ⟨(s.sessions[n]).close, ?_, Session.closed_close _⟩
  simp [work, hn]

theorem Seeking.over (h : s.Seeking target) (hstep : s.step .conclude = .ok t) :
    t.running = false ∧ t.reception = s.reception := by
  cases hstep
  unfold Server.conclude
  rw [h.halt]
  cases target <;> exact ⟨rfl, rfl⟩

theorem Sound.current_of_running (h : s.Sound) (hn : s.reception.stages[n]? = some .running) :
    s.reception.current = some n := by
  obtain ⟨k, phase, hphase⟩ := h.phase
  exact hphase.current_iff.mpr (.inl hn)

/-- From its look on, a stop gets to its end. -/
theorem Called.stopped (h : s.Called) (hevents : .conclude ∉ events)
    (hrun : s.run (.seek :: (events ++ [.conclude])) = .ok last) : Stopped s last := by
  have hseek : s.step .seek = .ok { s with halt := .found s.reception.current } := by
    simp [step, seek, h.halt]
  have hseeking : Seeking { s with halt := .found s.reception.current } s.reception.current :=
    ⟨h.sound.change (.sought h.halt), rfl⟩
  obtain ⟨_, hstep, hrest⟩ := run_cons_eq_ok.mp hrun
  cases hseek.symm.trans hstep
  obtain ⟨t, hbetween, hend⟩ := run_append_eq_ok.mp hrest
  obtain ⟨_, hover, hnil⟩ := run_cons_eq_ok.mp hend
  cases hnil
  have hfound := hseeking.run hevents hbetween
  obtain ⟨hstopped, hsame⟩ := hfound.over hover
  refine ⟨hstopped, fun n hn => ?_, fun hdesk n hn => ?_⟩
  · rw [h.sound.current_of_running hn] at hfound
    exact hfound.conclude hover
  · have hsealed : Sealed { s with halt := .found s.reception.current } s.reception.current :=
      ⟨hseeking, hdesk, fun n hn => h.sound.current_of_running hn⟩
    rw [hsame] at hn
    rw [(hsealed.run hevents hbetween).running n hn] at hfound
    exact hfound.conclude hover

theorem Sound.called (h : s.Sound) (hrunning : s.running = true) (hhalt : s.halt = .no) :
    s.beginStop.Called := by
  have hbegun : s.beginStop = { s with halt := .called } := by simp [beginStop, hrunning, hhalt]
  rw [hbegun]
  exact ⟨h.change (.called hrunning hhalt), rfl⟩

/-- **A stop of a server that is running** closes the session that is running when it takes its
look, whatever else happens meanwhile. -/
theorem stop_run {waiting between : List Event} {looked : Server} (h : s.Sound)
    (hrunning : s.running = true) (hhalt : s.halt = .no) (hwaiting : .seek ∉ waiting)
    (hbetween : .conclude ∉ between) (hlooked : s.run (.beginStop :: waiting) = .ok looked)
    (hlast : looked.run (.seek :: (between ++ [.conclude])) = .ok last) : Stopped looked last := by
  obtain ⟨_, hbegun, hwaited⟩ := run_cons_eq_ok.mp hlooked
  cases hbegun
  exact ((h.called hrunning hhalt).run hwaiting hwaited).stopped hbetween hlast

/-! ## Operations as runs -/

/-- From one server to another there is a run. -/
def Reaches (s t : Server) : Prop := ∃ events, s.run events = .ok t

theorem Reaches.refl (s : Server) : Reaches s s := ⟨[], rfl⟩

theorem Reaches.trans {u : Server} (hst : Reaches s t) (htu : Reaches t u) : Reaches s u := by
  obtain ⟨before, hbefore⟩ := hst
  obtain ⟨after, hafter⟩ := htu
  exact ⟨before ++ after, by rw [run_append, hbefore]; exact hafter⟩

/-- **What is reached from a sound server is sound.** -/
theorem Reaches.sound (h : Reaches s t) (hs : s.Sound) : t.Sound := by
  obtain ⟨events, hrun⟩ := h
  obtain ⟨t', hrun', ht'⟩ := hs.run events
  rw [hrun] at hrun'
  cases hrun'
  exact ht'

theorem reaches_start {bindFault : Option String} {notices : List Notice}
    (h : s.start bindFault = .ok (t, notices)) : Reaches s t :=
  ⟨[.start bindFault], by simp only [run, step, List.foldlM, h]; rfl⟩

theorem reaches_failAccepting (s : Server) (reason : String) :
    Reaches s (s.failAccepting reason).1 :=
  ⟨[.failAccepting reason], rfl⟩

theorem reaches_discharge (s : Server) (number : Nat) : Reaches s (s.discharge number) := by
  unfold discharge
  split
  · split
    · split
      · rename_i reception hleave
        refine ⟨wayOut number, ?_⟩
        change (((s.reception.finish number).withdraw number).release number >>= fun reception =>
          .ok { s with reception }) >>= pure = _
        rw [Reception.leave] at hleave
        rw [hleave]
        rfl
      · exact .refl s
    · exact .refl s
  · exact .refl s

theorem reaches_onSession (s : Server) (number : Nat) (change : Session → Session) :
    Reaches s (s.onSession number change) :=
  Reaches.trans ⟨[.work number change], rfl⟩ (reaches_discharge _ number)

theorem reaches_stop (s : Server) : Reaches s s.stop := by
  unfold stop
  split
  · exact .refl s
  · have hsteps : Reaches s s.beginStop.endAccepting.seek.conclude :=
      ⟨[.beginStop, .endAccepting, .seek, .conclude], rfl⟩
    dsimp only
    split
    · exact hsteps.trans (reaches_discharge _ _)
    · exact hsteps

theorem reaches_welcome (s : Server) (peer : String) (gone : Bool) :
    Reaches s (s.welcome peer gone).2.1 := by
  have harrive : Reaches s { s with reception := s.reception.arrive peer } :=
    ⟨[.arrive peer], rfl⟩
  unfold welcome
  split
  · exact .refl s
  · dsimp only
    split
    · exact harrive.trans (Reaches.trans ⟨[.seat], rfl⟩ (reaches_onSession _ _ _))
    · exact harrive.trans ⟨[.refuse true], rfl⟩

theorem reaches_remote (s : Server) (actions : List Line.Action) :
    Reaches s (s.remote actions) := by
  unfold remote
  split
  · exact .refl s
  · exact reaches_onSession s _ _

/-- What is asked of a server as a whole. -/
inductive Operation
  | start (bindFault : Option String)
  | stop
  | failAccepting (reason : String)
  | welcome (peer : String) (gone : Bool)
  | receive (session : Nat) (data : Bytes)
  | hangUp (session : Nat)
  | remote (actions : List Line.Action)

/-- The server after an operation. -/
def operate (s : Server) : Operation → Server
  | .start bindFault =>
    match s.start bindFault with
    | .ok (t, _) => t
    | .error _ => s
  | .stop => s.stop
  | .failAccepting reason => (s.failAccepting reason).1
  | .welcome peer gone => (s.welcome peer gone).2.1
  | .receive session data => s.receive session data
  | .hangUp session => s.hangUp session
  | .remote actions => s.remote actions

theorem reaches_operate (s : Server) (operation : Operation) : Reaches s (s.operate operation) := by
  cases operation with
  | start bindFault =>
    unfold operate
    dsimp only
    split
    · rename_i t notices hstart
      exact reaches_start hstart
    · exact .refl s
  | stop => exact reaches_stop s
  | failAccepting reason => exact reaches_failAccepting s reason
  | welcome peer gone => exact reaches_welcome s peer gone
  | receive session data => exact reaches_onSession s session _
  | hangUp session => exact reaches_onSession s session _
  | remote actions => exact reaches_remote s actions

/-- No stop is under way. -/
def Unhalted (s : Server) : Prop := s.running = true → s.halt = .no

theorem Unhalted.of_kept (h : s.Unhalted) (hrunning : t.running = s.running)
    (hhalt : t.halt = s.halt) : t.Unhalted :=
  fun ht => hhalt.trans (h (hrunning.symm.trans ht))

theorem discharge_kept (s : Server) (number : Nat) : ∃ reception,
    s.discharge number = { s with reception } ∧ Reception.Quiet s.reception reception := by
  unfold discharge
  split
  · split
    · split
      · rename_i hleave
        exact ⟨_, rfl, Reception.quiet_leave hleave⟩
      · exact ⟨_, rfl, .refl _⟩
    · exact ⟨_, rfl, .refl _⟩
  · exact ⟨_, rfl, .refl _⟩

theorem Unhalted.onSession (h : s.Unhalted) (number : Nat) (change : Session → Session) :
    (s.onSession number change).Unhalted := by
  obtain ⟨_, heq, -⟩ := discharge_kept (s.work number change) number
  rw [Server.onSession, heq]
  exact h.of_kept rfl rfl

/-- A stop with nothing between its steps. -/
theorem stop_eq (hrunning : s.running = true) (hhalt : s.halt = .no) :
    s.stop = match s.reception.current with
      | some n => discharge { s with
          sessions := s.sessions.modify n Session.close
          reception := s.reception.closeDesk
          running := false
          halt := .done } n
      | none => { s with reception := s.reception.closeDesk, running := false, halt := .done } := by
  obtain ⟨desk, hclose⟩ := s.reception.closeDesk_kept
  cases hcurrent : s.reception.current <;>
    simp [stop, beginStop, endAccepting, seek, Server.conclude, work, hrunning, hhalt, hclose,
      hcurrent]

theorem stop_kept (hrunning : s.running = true) (hhalt : s.halt = .no) :
    ∃ sessions reception, s.stop = { s with sessions, reception, running := false, halt := .done } ∧
      Reception.Quiet s.reception reception := by
  have closed := Reception.quiet_closeDesk s.reception
  rw [stop_eq hrunning hhalt]
  cases s.reception.current with
  | none => exact ⟨_, _, rfl, closed⟩
  | some n =>
    obtain ⟨_, heq, hquiet⟩ := discharge_kept { s with
      sessions := s.sessions.modify n Session.close
      reception := s.reception.closeDesk
      running := false
      halt := .done } n
    exact ⟨_, _, heq, closed.trans hquiet⟩

theorem Unhalted.operate (h : s.Unhalted) (operation : Operation) :
    (s.operate operation).Unhalted := by
  cases operation with
  | start bindFault =>
    unfold Server.operate start
    cases hrunning : s.running with
    | true => simpa [hrunning] using h
    | false =>
      cases bindFault with
      | some reason => simpa [hrunning] using h
      | none => exact fun _ => rfl
  | stop =>
    show s.stop.Unhalted
    cases hrunning : s.running with
    | true =>
      obtain ⟨_, _, heq, -⟩ := stop_kept hrunning (h hrunning)
      rw [heq]
      nofun
    | false =>
      rw [stop, hrunning]
      exact h
  | failAccepting reason => exact h.of_kept rfl rfl
  | welcome peer gone =>
    show (s.welcome peer gone).2.1.Unhalted
    unfold welcome
    split
    · exact h
    · dsimp only
      split
      · refine Unhalted.onSession (s := Server.seat _) (h.of_kept ?_ ?_) _ _ <;>
          unfold seat <;> split <;> rfl
      · exact h.of_kept rfl rfl
  | receive session data => exact h.onSession session _
  | hangUp session => exact h.onSession session _
  | remote actions =>
    show (s.remote actions).Unhalted
    unfold remote
    split
    · exact h
    · exact h.onSession _ _

/-- A stop of the server leaves no session running: the one that is running is closed, and gives the
slot back. -/
structure Stops (s : Server) : Prop where
  running : s.stop.running = false
  quiet : ∀ n : Nat, s.stop.reception.stages[n]? ≠ some .running
  closed : ∀ n : Nat, s.reception.stages[n]? = some .running → s.stop.IsClosed n ∧
    s.stop.reception.stages[n]? = some .left ∧ s.stop.reception.guard.held = false ∧
    s.stop.reception.slot = s.reception.slot ++ [.gave n]

theorem Sound.stops (h : s.Sound) (hrunning : s.running = true) (hhalt : s.halt = .no) :
    s.Stops := by
  have closed (n : Nat) (hn : s.reception.stages[n]? = some .running) : s.stop.IsClosed n ∧
      s.stop.reception.stages[n]? = some .left ∧ s.stop.reception.guard.held = false ∧
      s.stop.reception.slot = s.reception.slot ++ [.gave n] := by
    have hcurrent := h.current_of_running hn
    have hlt := h.current_lt hcurrent
    obtain ⟨k, phase, hphase⟩ := h.phase
    have hheld : s.reception.guard.held = true :=
      hphase.orderly.held.mpr (.inr ⟨n, .running, hn, nofun⟩)
    obtain ⟨desk, hclose⟩ := s.reception.closeDesk_kept
    have hleave := Reception.leave_of_running (r := { s.reception with desk }) hheld hn
    have hsession : (s.sessions.modify n Session.close)[n]? = some (s.sessions[n].close) := by
      simp [hlt]
    rw [stop_eq hrunning hhalt, hcurrent]
    unfold discharge
    simp only [hsession, Session.closed_close, if_true, hclose, hleave]
    refine ⟨⟨_, hsession, Session.closed_close _⟩, ?_, rfl, Reception.slot_note⟩
    exact List.getElem?_set_self (List.getElem?_eq_some_iff.mp hn).1
  obtain ⟨_, _, heq, hquiet⟩ := stop_kept hrunning hhalt
  refine ⟨by rw [heq], fun n hn => ?_, closed⟩
  have hleft := (closed n (hquiet.running n (by rwa [heq] at hn))).2.1
  rw [hn] at hleft
  cases hleft

/-- The server after operations. -/
def operateAll (s : Server) (operations : List Operation) : Server := operations.foldl operate s

/-- **Operations are runs.** -/
theorem reaches_operateAll (s : Server) (operations : List Operation) :
    Reaches s (s.operateAll operations) := by
  induction operations generalizing s with
  | nil => exact .refl s
  | cons operation rest ih => exact (reaches_operate s operation).trans (ih _)

theorem Unhalted.operateAll (h : s.Unhalted) (operations : List Operation) :
    (s.operateAll operations).Unhalted := by
  induction operations generalizing s with
  | nil => exact h
  | cons operation rest ih => exact ih (h.operate operation)

/-! ## Whatever happens -/

/-- **One session at a time.** Whatever happens at a new server, in whatever order, no session gives
back a slot that it has not got, and at most one session has not finished, for which the slot is
held; it is taken and given back in turns, and the place that the server keeps is that of the
running session. A client that arrives while the slot is held gets the farewell and nothing else,
and the sessions stay untouched. A session that goes all the way out, with whatever else between its
steps, has taken the slot once and given it back once. A stop of a server that is running closes the
session that is running when it takes its look. Whatever is asked of the server as a whole after
that is another such run, and if no stop was under way, each stop of it leaves no session running,
with the slot free if there was one. -/
theorem one_session_at_a_time (config : Configuration) (settings : Session.Settings)
    (around : Session.Surroundings) (host : Option String) (port : Option Int)
    (events : List Event) :
    ∃ s, (create config settings around host port).run events = .ok s ∧ s.reception.Orderly ∧
    (∀ peer t, s.reception.guard.held = true → s.step (.arrive peer) = .ok t → Untouched s t) ∧
    (∀ reached t, s.step (.refuse reached) = .ok t → Untouched s t) ∧
    (∀ before peer after, events = before ++ .arrive peer :: after →
      ∃ r, (create config settings around host port).run before = .ok r ∧
        (r.reception.desk = .waiting → s.reception.dealings r.reception.clients =
          if r.reception.guard.held then
            (after.findSome? Event.refusal?).elim [] (Reception.farewell r.reception.clients)
          else [])) ∧
    (∀ before after, events = before ++ after →
      ∃ r, (create config settings around host port).run before = .ok r ∧
        ∀ n < r.reception.stages.length, (wayOut n).Sublist after →
          s.reception.stages[n]? = some .left ∧
          s.reception.slot.count (.took n) = 1 ∧ s.reception.slot.count (.gave n) = 1) ∧
    (∀ before waiting between,
      events = before ++ (.beginStop :: waiting ++ .seek :: (between ++ [.conclude])) →
      ∃ r looked, (create config settings around host port).run before = .ok r ∧
        r.run (.beginStop :: waiting) = .ok looked ∧
        (r.running = true → r.halt = .no → .seek ∉ waiting → .conclude ∉ between →
          Stopped looked s)) ∧
    ∀ operations, Reaches s (s.operateAll operations) ∧
      (s.operateAll operations).reception.Orderly ∧
      (s.Unhalted → (s.operateAll operations).running = true →
        (s.operateAll operations).Stops) := by
  have hsound := sound_create config settings around host port
  obtain ⟨s, hrun, hs⟩ := hsound.run events
  obtain ⟨k, phase, hphase⟩ := hs.phase
  refine ⟨s, hrun, hphase.orderly, fun peer t hheld hstep => untouched_arrive peer hheld hstep,
    fun reached t hstep => untouched_refuse reached hstep, ?_, ?_, ?_, fun operations => ?_⟩
  · rintro before peer after rfl
    obtain ⟨r, hbefore, hr⟩ := hsound.run before
    rw [run_append, hbefore] at hrun
    exact ⟨r, hbefore, fun hdesk => arrive_run hr hdesk hrun⟩
  · rintro before after rfl
    obtain ⟨r, hbefore, hafter⟩ := run_append_eq_ok.mp hrun
    refine ⟨r, hbefore, fun n hn hway => ?_⟩
    have hleft := left_of_wayOut hn hway hafter
    exact ⟨hleft, hphase.turns_of_left hleft⟩
  · rintro before waiting between rfl
    obtain ⟨r, hbefore, hafter⟩ := run_append_eq_ok.mp hrun
    obtain ⟨looked, hlooked, hlast⟩ := run_append_eq_ok.mp hafter
    obtain ⟨r', hbefore', hr⟩ := hsound.run before
    cases hbefore.symm.trans hbefore'
    exact ⟨r, looked, hbefore, hlooked, fun hrunning hhalt hwaiting hbetween =>
      stop_run hr hrunning hhalt hwaiting hbetween hlooked hlast⟩
  · have hreaches := reaches_operateAll s operations
    have hoperated := hreaches.sound hs
    obtain ⟨_, _, hlater⟩ := hoperated.phase
    exact ⟨hreaches, hlater.orderly, fun hunhalted hrunning =>
      hoperated.stops hrunning (hunhalted.operateAll operations hrunning)⟩

/-- Settings that leave everything as it is usual. -/
def usualSettings : Session.Settings := .of {} none none Session.usualHeldLimit .quiet

/-- A network that refuses every connect. -/
def refusingSurroundings : Session.Surroundings where
  network _ _ := { answer := .refused "" }

/-- A session runs, and another client is turned away. -/
def servingEvents : List Event :=
  [.start none, .arrive "first", .seat, .arrive "second", .refuse true]

/-- The session is over between the look of a stop and its end, and is closed all the same; so it is
by a stop with nothing between its steps. -/
theorem one_session_at_a_time_stopped :
    let new := create {} usualSettings refusingSurroundings none none
    let stopping := .beginStop :: [.endAccepting] ++ .seek :: (wayOut 0 ++ [.conclude])
    (∃ s, new.run (servingEvents ++ stopping) = .ok s ∧ s.IsClosed 0 ∧ s.running = false ∧
      s.reception.dealings 1 = [.told 1 busyMessage, .hungUp 1] ∧
      s.reception.slot.count (.gave 0) = 1) ∧
    ∃ s, new.run servingEvents = .ok s ∧ s.stop.IsClosed 0 ∧ s.stop.running = false ∧
      s.stop.reception.guard.held = false := by
  intro new stopping
  constructor
  · obtain ⟨s, hrun, -, -, -, harrive, hway, hstop, -⟩ := one_session_at_a_time {}
      usualSettings refusingSurroundings none none (servingEvents ++ stopping)
    obtain ⟨_, hr, hdealings⟩ :=
      harrive (servingEvents.take 3) "second" (.refuse true :: stopping) rfl
    obtain ⟨_, hserving, hleft⟩ := hway servingEvents stopping rfl
    obtain ⟨_, _, hserving', hlooked, hstopped⟩ :=
      hstop servingEvents [.endAccepting] (wayOut 0) rfl
    cases hr
    cases hserving
    cases hserving'
    cases hlooked
    have hstopped := hstopped rfl rfl (by simp) (by simp [wayOut])
    have hway : (wayOut 0).Sublist stopping :=
      ((List.sublist_append_left _ _).cons _).trans (List.sublist_append_right _ _)
    exact ⟨s, hrun, hstopped.closed 0 rfl, hstopped.running, hdealings rfl,
      (hleft 0 (by decide) hway).2.2⟩
  · obtain ⟨s, hrun, -, -, -, -, -, -, hoperate⟩ := one_session_at_a_time {}
      usualSettings refusingSurroundings none none servingEvents
    have hstops := (hoperate []).2.2
    cases hrun
    have hstops := hstops (fun _ => rfl) rfl
    obtain ⟨hclosed, -, hfree, -⟩ := hstops.closed 0 rfl
    exact ⟨_, rfl, hclosed, hstops.running, hfree⟩

end DialUp.Server
