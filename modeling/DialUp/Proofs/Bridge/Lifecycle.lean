import DialUp.Proofs.Bridge

/-!
# The life of a bridge

A bridge may be asked to do anything in any order: to connect, more than once, to send, to
disconnect; its session may be cancelled, and the remote end of its line acts as it likes. `life`
is what has come of a list of such steps.

* `Life.Kept.next`: what one step keeps;
* `lifecycle`: a bridge makes one line at most, its signals are the data that the remote end sent
  while the line was open, and the end of the connection comes once, after all data.
-/

namespace DialUp.Bridge

/-- What a bridge is asked to do, or what happens to it. -/
inductive Step
  | connect (endpoint : String) (answer : Answer)
  | send (data : Bytes)
  | disconnect
  /-- The session of the bridge is cancelled. -/
  | cancel
  /-- The remote end of the line acts. -/
  | remote (actions : List Line.Action)
  deriving DecidableEq, Repr

/-- A bridge with its history. -/
structure Life where
  bridge : Bridge := {}
  cancelled : Bool := false
  /-- Whether a connect has succeeded. -/
  granted : Bool := false
  /-- All signals so far, the first one first. -/
  emitted : List Signal := []
  /-- How many lines were made. -/
  made : Nat := 0
  /-- All bytes that the remote end sent on the accepted line while it was open. -/
  incoming : Bytes := []
  deriving DecidableEq, Repr

namespace Life

/-! ## Steps -/

/-- What a step comes to. The reader has caught up at its end. -/
def turn (l : Life) : Step → Turn
  | .connect endpoint answer => (l.bridge.connect l.cancelled endpoint answer).2
  | .send data => l.bridge.send l.cancelled data
  | .disconnect => l.bridge.disconnect
  | .cancel => l.bridge.pump true
  | .remote actions => l.bridge.act l.cancelled actions

/-- The step is a connect that succeeds. -/
def grants (l : Life) : Step → Bool
  | .connect endpoint answer => (l.bridge.connect l.cancelled endpoint answer).1
  | .send _ | .disconnect | .cancel | .remote _ => false

/-- The step makes a line: there was none before, or a connect has put another in its place. -/
def makes (l : Life) (step : Step) : Bool :=
  let line := (l.turn step).bridge.line
  match step with
  | .connect .. => line != l.bridge.line
  | .send _ | .disconnect | .cancel | .remote _ => l.bridge.line.isNone && line.isSome

/-- What the remote end sends by a step on the line that is accepted, while it is open. -/
def sends (l : Life) : Step → Bytes
  | .connect _ (.accepted plan) =>
    if l.bridge.used || l.cancelled then [] else Line.sentBy plan.onConnect
  | .connect _ (.refused _) | .connect _ (.broken _) => []
  | .send data =>
    (l.bridge.line.map fun line => if line.accepts then line.sentBack data else []).getD []
  | .remote actions => if l.bridge.line.any (·.isOpen) then Line.sentBy actions else []
  | .disconnect | .cancel => []

/-- The history after one more step. -/
def next (l : Life) (step : Step) : Life where
  bridge := (l.turn step).bridge
  cancelled := l.cancelled || step == .cancel
  granted := l.granted || l.grants step
  emitted := l.emitted ++ (l.turn step).signals
  made := l.made + (l.makes step).toNat
  incoming := l.incoming ++ l.sends step

end Life

/-- The history of a new bridge after some steps. -/
def life (steps : List Step) : Life := steps.foldl Life.next {}

namespace Life

variable {l : Life} {step : Step}

/-! ## What every step keeps -/

/-- The end of a connection, which is told if there was one and it is over. -/
def ending (l : Life) : List Signal := if l.granted && !l.bridge.connected then [.closed] else []

/-- What is true of a bridge and its history at all times. -/
structure Kept (l : Life) : Prop where
  sound : l.bridge.Sound
  /-- A bridge that was never asked to connect has no history. -/
  fresh : l.bridge.used = false → l = { cancelled := l.cancelled }
  made : l.made ≤ 1
  stopped : l.cancelled = true → l.bridge.connected = false
  silent : l.granted = false → l.bridge.connected = false ∧ l.emitted = [] ∧ l.incoming = []
  read : l.granted = true → l.bridge.Drained ∧ l.bridge.taken = l.incoming
  signals : ∃ chunks : List Bytes, l.emitted = chunks.map .data ++ l.ending ∧
    chunks.flatten = l.incoming ∧ ∀ chunk ∈ chunks, 1 ≤ chunk.length ∧ chunk.length ≤ 4096

theorem Kept.used (h : l.Kept) (hc : l.bridge.connected = true) : l.bridge.used = true := by
  cases hu : l.bridge.used with
  | true => rfl
  | false =>
    rw [h.fresh hu] at hc
    cases hc

/-- A step that is no first connect, as the history shows it. -/
structure Plain (l : Life) (step : Step) : Prop where
  follows : (l.turn step).Follows l.bridge
  sized : (l.turn step).Sized
  arrived : (l.turn step).bridge.arrived = l.bridge.arrived ++ l.sends step
  used : (l.turn step).bridge.used = l.bridge.used
  grants : l.grants step = true → l.bridge.connected = true
  makes : l.makes step = false
  stopped : step = .cancel → (l.turn step).bridge.connected = false

/-- Such a step leaves a bridge without a live connection alone. -/
theorem Plain.next_of_dead (hp : l.Plain step) (hc : l.bridge.connected = false) :
    l.next step = { l with cancelled := l.cancelled || step == .cancel } := by
  obtain ⟨hsame, hnone⟩ := hp.follows.idle hc
  have hsends : l.sends step = [] := by
    have harrived := hp.arrived
    rw [hsame] at harrived
    exact List.self_eq_append_right.mp harrived
  have hgrants : l.grants step = false := by
    cases hg : l.grants step with
    | false => rfl
    | true => exact absurd (hc.symm.trans (hp.grants hg)) (by decide)
  simp [next, hsame, hnone, hsends, hgrants, hp.makes]

/-- What a live bridge reads in such a step is what the remote end sends in it. -/
theorem Plain.payload_eq (h : l.Kept) (hp : l.Plain step) (hc : l.bridge.connected = true)
    (hg : l.granted = true) : payload (l.turn step).signals = l.sends step := by
  obtain ⟨hdrained, htaken⟩ := h.read hg
  have harrived := hp.arrived
  rw [arrived_of_drained hdrained, arrived_of_drained (hp.follows.drained hc),
    hp.follows.taken] at harrived
  exact List.append_cancel_left harrived

theorem Kept.granted (h : l.Kept) (hc : l.bridge.connected = true) : l.granted = true := by
  cases hg : l.granted with
  | true => rfl
  | false => exact absurd ((h.silent hg).1.symm.trans hc) (by decide)

theorem payload_ending (chunks : List Bytes) (ends : Bool) :
    payload (chunks.map .data ++ if ends then [.closed] else []) = chunks.flatten := by
  rw [payload_append, payload_data]
  cases ends <;> exact List.append_nil _

theorem Plain.kept (h : l.Kept) (hp : l.Plain step) : (l.next step).Kept := by
  cases hc : l.bridge.connected with
  | false =>
    rw [hp.next_of_dead hc]
    refine ⟨h.sound, fun hu => ?_, h.made, fun _ => hc, h.silent, h.read, h.signals⟩
    rw [h.fresh hu]
  | true =>
    have hg := h.granted hc
    obtain ⟨-, htaken⟩ := h.read hg
    have hpayload := hp.payload_eq h hc hg
    have hgranted : (l.next step).granted = true := by simp [next, hg]
    refine ⟨hp.follows.sound, fun hu => ?_, ?_, fun hcancel => ?_, fun hsilent => ?_,
      fun _ => ⟨hp.follows.drained hc, ?_⟩, ?_⟩
    · exact absurd ((hp.used.trans (h.used hc)).symm.trans hu) (by decide)
    · show l.made + (l.makes step).toNat ≤ 1
      rw [hp.makes]
      exact h.made
    · -- A live bridge was not cancelled before, so it is now.
      have hbefore : l.cancelled = false := by
        cases hcancelled : l.cancelled with
        | false => rfl
        | true => exact absurd ((h.stopped hcancelled).symm.trans hc) (by decide)
      refine hp.stopped ?_
      simpa [next, hbefore] using hcancel
    · exact absurd (hsilent.symm.trans hgranted) (by decide)
    · show (l.turn step).bridge.taken = l.incoming ++ l.sends step
      rw [hp.follows.taken, htaken, hpayload]
    · obtain ⟨chunks, hemitted, hflatten, hsized⟩ := h.signals
      obtain ⟨more, hmore⟩ := hp.follows.signals
      have hending : l.ending = [] := by simp [ending, hc]
      have hending' : (l.next step).ending =
          if l.bridge.connected && !(l.turn step).bridge.connected then [.closed] else [] := by
        rw [ending, hgranted, hc]
        rfl
      refine ⟨chunks ++ more, ?_, ?_, fun chunk hchunk => ?_⟩
      · show l.emitted ++ (l.turn step).signals = _
        rw [hemitted, hending, hmore, hending', List.append_nil, List.map_append,
          List.append_assoc]
      · show _ = l.incoming ++ l.sends step
        rw [List.flatten_append, hflatten, ← hpayload, hmore, payload_ending]
      · rcases List.mem_append.mp hchunk with hchunk | hchunk
        · exact hsized chunk hchunk
        · refine hp.sized chunk ?_
          rw [hmore]
          exact List.mem_append_left _ (List.mem_map_of_mem hchunk)

/-! ## The steps -/

/-- A bridge without a line has no live connection, so it gets no line but by a connect. -/
theorem Kept.isNone_and_isSome (h : l.Kept) (hf : (l.turn step).Follows l.bridge) :
    (l.bridge.line.isNone && (l.turn step).bridge.line.isSome) = false := by
  cases hl : l.bridge.line with
  | some line => rfl
  | none =>
    have hdead : l.bridge.connected = false := by
      cases hc : l.bridge.connected with
      | false => rfl
      | true =>
        obtain ⟨line, hline, -⟩ := h.sound.live hc
        rw [hl] at hline
        cases hline
    rw [(hf.idle hdead).1, hl]
    rfl

/-- Every step but the first connect. -/
theorem Kept.plain (h : l.Kept)
    (hstep : ∀ endpoint answer, step = .connect endpoint answer → l.bridge.used = true) :
    l.Plain step := by
  have hcancel : l.bridge.connected = true → l.cancelled = false := by
    intro hc
    cases hcancelled : l.cancelled with
    | false => rfl
    | true => exact absurd ((h.stopped hcancelled).symm.trans hc) (by decide)
  cases step with
  | connect endpoint answer =>
    obtain ⟨notices, hconnect⟩ :=
      connect_of_used (hstep endpoint answer rfl) l.cancelled endpoint answer
    have hturn : l.turn (.connect endpoint answer) = { bridge := l.bridge, notices } := by
      rw [turn, hconnect]
    have hsends : l.sends (.connect endpoint answer) = [] := by
      cases answer <;> simp [sends, hstep endpoint _ rfl]
    refine ⟨?_, ?_, ?_, ?_, ?_, ?_, (fun hc => nomatch hc)⟩
    · rw [hturn]
      exact Turn.follows_self h.sound _
    · rw [hturn]
      exact fun _ hchunk => nomatch hchunk
    · rw [hturn, hsends, List.append_nil]
    · rw [hturn]
    · rw [grants, hconnect]
      exact id
    · simp [makes, hturn]
  | send data =>
    have hf : (l.turn (.send data)).Follows l.bridge := send_follows h.sound hcancel data
    exact ⟨hf, send_sized _ _ data, arrived_send h.sound _ data, used_send _ _ data,
      (fun hg => nomatch hg), h.isNone_and_isSome hf, (fun hc => nomatch hc)⟩
  | disconnect =>
    have hf : (l.turn .disconnect).Follows l.bridge := disconnect_follows h.sound
    exact ⟨hf, disconnect_sized _, (arrived_disconnect _).trans (List.append_nil _).symm,
      used_disconnect _, (fun hg => nomatch hg), h.isNone_and_isSome hf, (fun hc => nomatch hc)⟩
  | cancel =>
    -- The reader of a cancelled session ends the connection, if there is one.
    have hpump : l.bridge.pump true = l.bridge.disconnect := by
      unfold pump disconnect
      cases l.bridge.connected <;> rfl
    have hturn : l.turn .cancel = l.bridge.disconnect := hpump
    have hf : (l.turn .cancel).Follows l.bridge := by
      rw [hturn]
      exact disconnect_follows h.sound
    refine ⟨hf, ?_, ?_, ?_, (fun hg => nomatch hg), h.isNone_and_isSome hf, fun _ => ?_⟩
    · rw [hturn]
      exact disconnect_sized _
    · rw [hturn, arrived_disconnect]
      exact (List.append_nil _).symm
    · rw [hturn, used_disconnect]
    · rw [hturn, connected_disconnect]
  | remote actions =>
    have hf : (l.turn (.remote actions)).Follows l.bridge := act_follows h.sound hcancel actions
    exact ⟨hf, act_sized _ _ actions, arrived_act h.sound _ actions, used_act _ _ actions,
      (fun hg => nomatch hg), h.isNone_and_isSome hf, (fun hc => nomatch hc)⟩

/-- A connect that failed leaves nothing behind but the mark that it was made. -/
theorem kept_of_refused (hs : l.bridge.Sound) (hu : l.bridge.used = true)
    (hc : l.bridge.connected = false) (hg : l.granted = false) (hmade : l.made ≤ 1)
    (hemitted : l.emitted = []) (hincoming : l.incoming = []) : l.Kept where
  sound := hs
  fresh h := absurd (hu.symm.trans h) (by decide)
  made := hmade
  stopped _ := hc
  silent _ := ⟨hc, hemitted, hincoming⟩
  read h := absurd (hg.symm.trans h) (by decide)
  signals := ⟨[], by simp [hemitted, ending, hg], hincoming.symm, by simp⟩

theorem made_first {cancelled : Bool} (step : Step) :
    (({ cancelled } : Life).next step).made ≤ 1 :=
  Nat.le_trans (Nat.le_of_eq (Nat.zero_add _)) (Bool.toNat_le _)

/-- The first connect that succeeds: the reader has got all that the remote end has sent. -/
theorem kept_of_accepted (endpoint : String) (plan : Line.Plan) :
    (({} : Life).next (.connect endpoint (.accepted plan))).Kept := by
  let b : Bridge :=
    { used := true, remote := some endpoint, line := some (.started plan), connected := true }
  obtain ⟨htaken, hopen⟩ := Line.started_kept plan
  have hf : (b.pump false).Follows b := pump_follows rfl rfl hopen
  have hpayload : payload (b.pump false).signals = Line.sentBy plan.onConnect := by
    have harrived := arrived_pump (b := b) false rfl hopen
    rw [arrived_of_drained (hf.drained rfl), hf.taken] at harrived
    simpa [b, taken, arrived, htaken, Line.arrived_started] using harrived
  refine ⟨hf.sound, fun hu => ?_, ?_, (fun hc => absurd hc Bool.false_ne_true),
    (fun hg => absurd hg.symm Bool.false_ne_true), fun _ => ⟨hf.drained rfl, ?_⟩, ?_⟩
  · exact absurd ((used_pump false b).symm.trans hu) Bool.noConfusion
  · exact made_first _
  · show (b.pump false).bridge.taken = Line.sentBy plan.onConnect
    rw [hf.taken, hpayload]
    simp [b, taken, htaken]
  · obtain ⟨chunks, hchunks⟩ := hf.signals
    refine ⟨chunks, ?_, ?_, fun chunk hchunk => ?_⟩
    · exact hchunks
    · show _ = Line.sentBy plan.onConnect
      rw [← hpayload, hchunks, payload_ending]
    · refine pump_sized false b chunk ?_
      rw [hchunks]
      exact List.mem_append_left _ (List.mem_map_of_mem hchunk)

/-- The first connect, of a bridge to which nothing has happened. -/
theorem kept_first (cancelled : Bool) (endpoint : String) (answer : Answer) :
    (({ cancelled } : Life).next (.connect endpoint answer)).Kept := by
  cases answer with
  | refused | broken =>
    refine kept_of_refused ⟨?_, ?_, ?_⟩ rfl rfl rfl (made_first _) rfl rfl
    · exact fun hc => nomatch hc
    · exact fun _ _ hl => nomatch hl
    · exact fun hc => nomatch hc
  | accepted plan =>
    cases cancelled with
    | true =>
      -- The line is closed as soon as it is there.
      refine kept_of_refused ⟨?_, ?_, ?_⟩ rfl rfl rfl (made_first _) rfl rfl
      · exact fun hc => nomatch hc
      · rintro - line ⟨⟩
        rfl
      · exact fun hc => nomatch hc
    | false => exact kept_of_accepted endpoint plan

theorem Kept.next (h : l.Kept) (step : Step) : (l.next step).Kept := by
  by_cases hfirst : ∃ endpoint answer, step = .connect endpoint answer ∧ l.bridge.used = false
  · obtain ⟨endpoint, answer, rfl, hu⟩ := hfirst
    rw [h.fresh hu]
    exact kept_first _ endpoint answer
  · refine Plain.kept h (h.plain fun endpoint answer hstep => ?_)
    cases hu : l.bridge.used with
    | true => rfl
    | false => exact absurd ⟨endpoint, answer, hstep, hu⟩ hfirst

theorem kept_start : ({} : Life).Kept where
  sound := ⟨(fun h => nomatch h), (fun _ _ h => nomatch h), (fun h => nomatch h)⟩
  fresh _ := rfl
  made := Nat.zero_le _
  stopped _ := rfl
  silent _ := ⟨rfl, rfl, rfl⟩
  read h := nomatch h
  signals := ⟨[], rfl, rfl, fun _ h => nomatch h⟩

/-- **Every history is kept in order**, by induction on its steps. -/
theorem kept_life (steps : List Step) : (life steps).Kept := by
  suffices ∀ l : Life, l.Kept → (steps.foldl Life.next l).Kept from this {} kept_start
  induction steps with
  | nil => exact fun _ h => h
  | cons step rest ih => exact fun l h => ih _ (h.next step)

/-- A bridge is live exactly while the line that it accepted is open. -/
theorem Kept.connected_iff (h : l.Kept) : l.bridge.connected = true ↔
    l.granted = true ∧ ∃ line, l.bridge.line = some line ∧ line.isOpen = true := by
  constructor
  · exact fun hc => ⟨h.granted hc, h.sound.live hc⟩
  · rintro ⟨-, line, hl, hopen⟩
    cases hc : l.bridge.connected with
    | true => rfl
    | false => exact absurd ((h.sound.dead hc line hl).symm.trans hopen) (by decide)

/-- A connect of a cancelled bridge, whether or not it is its first. -/
theorem Kept.connect_of_cancelled (h : l.Kept) (hcancelled : l.cancelled = true)
    (endpoint : String) (answer : Answer) :
    (l.bridge.connect l.cancelled endpoint answer).1 = false ∧
      (l.bridge.connect l.cancelled endpoint answer).2.signals = [] := by
  cases hu : l.bridge.used with
  | true =>
    obtain ⟨notices, hconnect⟩ := connect_of_used hu l.cancelled endpoint answer
    rw [hconnect]
    exact ⟨h.stopped hcancelled, rfl⟩
  | false =>
    rw [h.fresh hu, hcancelled]
    cases answer <;> exact ⟨rfl, rfl⟩

end Life

/-- **The life of a bridge.** After any steps, one line was made at most; the bridge is connected
exactly while the line that it accepted is open; it has reported nothing unless a connect has
succeeded, and then the data that the remote end sent while the line was open, in chunks of a
read's size, and after that the end of the connection exactly if it is over. Once the bridge is
cancelled, a connect fails, reports nothing and leaves no line open. -/
theorem lifecycle (steps : List Step) :
    let l := life steps
    l.made ≤ 1 ∧
    (l.bridge.connected = true ↔
      l.granted = true ∧ ∃ line, l.bridge.line = some line ∧ line.isOpen = true) ∧
    (l.granted = false → l.emitted = []) ∧
    (∃ chunks : List Bytes,
      l.emitted = chunks.map .data ++
        (if l.granted && !l.bridge.connected then [.closed] else []) ∧
      chunks.flatten = l.incoming ∧
      ∀ chunk ∈ chunks, 1 ≤ chunk.length ∧ chunk.length ≤ 4096) ∧
    (l.cancelled = true → ∀ endpoint answer,
      let outcome := l.bridge.connect l.cancelled endpoint answer
      outcome.1 = false ∧ outcome.2.signals = [] ∧
        ∀ line, outcome.2.bridge.line = some line → line.isOpen = false) := by
  intro l
  have h : l.Kept := Life.kept_life steps
  refine ⟨h.made, h.connected_iff, fun hg => (h.silent hg).2.1, h.signals,
    fun hcancelled endpoint answer => ?_⟩
  obtain ⟨hfails, hsilent⟩ := h.connect_of_cancelled hcancelled endpoint answer
  have hnext := h.next (.connect endpoint answer)
  refine ⟨hfails, hsilent, hnext.sound.dead (hnext.stopped ?_)⟩
  simp [Life.next, hcancelled]

/-- A remote end that greets, that is written to and that hangs up, and then another connect, which
the cancelled session makes in vain. -/
theorem lifecycle_cancelled :
    let connect := Step.connect "host:23" (.accepted
      { onConnect := [.deliver [0x61]], echoes := true })
    let l := life [connect, .send [0x62], .remote [.deliver [0x63], .hangUp], .disconnect, connect,
      .cancel]
    (l.emitted = [.data [0x61], .data [0x62], .data [0x63], .closed] ∧ l.granted = true ∧
      l.made = 1 ∧ l.cancelled = true) ∧
    ∀ endpoint answer, (l.bridge.connect l.cancelled endpoint answer).1 = false := by
  intro connect l
  have hcancelled : l.cancelled = true := by decide +kernel
  exact ⟨by decide +kernel, fun endpoint answer =>
    ((lifecycle [connect, .send [0x62], .remote [.deliver [0x63], .hangUp], .disconnect, connect,
      .cancel]).2.2.2.2 hcancelled endpoint answer).1⟩

end DialUp.Bridge
