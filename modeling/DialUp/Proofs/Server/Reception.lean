import DialUp.Server.Reception

/-!
# Who has the slot

The sessions before a certain one have left, and that one is the only one that the slot is used for:
it is free, taken for a client whose session is about to begin, or held by a session on its way from
its beginning to its end. So there are five phases (`Phase`), and they tell all there is to know
about the guard, the desk, the place that the server keeps and the turns of the slot (`InPhase`).

* `Move.inPhase`: whatever is done at the reception, it is in one of the phases;
* `Orderly`, `InPhase.orderly`: so at most one session has not finished, the slot is held for it and
  given back once, and the place that the server keeps is its own;
* `Move.onward`, `InPhase.turns_of_left`: a session never goes back on its way out, and one that has
  left has taken the slot once and given it back once;
* `Refused.move`, `Refused.done`: what becomes of a client that is turned away.
-/

namespace DialUp.Server

/-- Whether a deed is a taking or a giving back of the slot. -/
def Deed.isTurn : Deed → Bool
  | .took _ | .gave _ => true
  | .told _ _ | .hungUp _ | .notice _ => false

/-- The client that a deed is done to. -/
def Deed.client? : Deed → Option Nat
  | .told client _ | .hungUp client => some client
  | .took _ | .gave _ | .notice _ => none

/-- How far on its way out a session is that has got to a stage. -/
def Stage.rank : Stage → Nat
  | .running => 0
  | .ended => 1
  | .leaving => 2
  | .left => 3

namespace Reception

variable {r r' : Reception} {k n client : Nat} {stage : Stage} {desk : Desk} {deed : Deed}

/-- The turns of the slot, in order. -/
def slot (r : Reception) : List Deed := r.log.reverse.filter Deed.isTurn

/-- What was done to a client, in order. -/
def dealings (r : Reception) (client : Nat) : List Deed :=
  r.log.reverse.filter (·.client? == some client)

@[simp] theorem slot_note : (r.note deed).slot = r.slot ++ if deed.isTurn then [deed] else [] := by
  simp [slot, note, List.filter_cons]

@[simp] theorem dealings_note : (r.note deed).dealings client =
    r.dealings client ++ if deed.client? = some client then [deed] else [] := by
  simp [dealings, note, List.filter_cons]

/-! ## Phases -/

/-- What the slot is used for. -/
inductive Phase
  | free
  /-- It is taken for a session that is about to begin. -/
  | coming
  | running
  | ended
  | leaving
  deriving DecidableEq, Repr

/-- The stage of the session that has the slot. -/
def Phase.stage? : Phase → Option Stage
  | .free | .coming => none
  | .running => some .running
  | .ended => some .ended
  | .leaving => some .leaving

/-- So many turns of the slot, each of which is over: it is taken for a session and given back by
that session. -/
def turns (k : Nat) : List Deed := (List.range k).flatMap fun n => [.took n, .gave n]

/-- All sessions have left but the one with the given number, which is in the given phase. -/
structure InPhase (r : Reception) (k : Nat) (phase : Phase) : Prop where
  stages : r.stages = List.replicate k .left ++ phase.stage?.toList
  held : r.guard.held = true ↔ phase ≠ .free
  desk : r.desk = .admitting ↔ phase = .coming
  current : r.current = if phase = .running ∨ phase = .ended then some k else none
  slot : r.slot = turns k ++ if phase = .free then [] else [.took k]

variable {phase : Phase}

theorem turns_succ : turns (k + 1) = turns k ++ [.took k, .gave k] := by
  simp [turns, List.range_succ]

/-- Only the session that has the slot has not left. -/
theorem InPhase.of_getElem? (h : InPhase r k phase) (hn : r.stages[n]? = some stage)
    (hstage : stage ≠ .left) : n = k ∧ phase.stage? = some stage := by
  rw [h.stages] at hn
  by_cases hlt : n < k
  · rw [List.getElem?_append_left (by simpa using hlt), List.getElem?_replicate_of_lt hlt] at hn
    cases hn
    exact absurd rfl hstage
  · rw [List.getElem?_append_right (by simpa using hlt), List.length_replicate] at hn
    have hzero : n - k = 0 := by
      obtain ⟨hin, -⟩ := List.getElem?_eq_some_iff.mp hn
      cases hphase : phase.stage? <;> simp [hphase] at hin
      omega
    rw [hzero] at hn
    refine ⟨by omega, ?_⟩
    cases hphase : phase.stage? with
    | none => simp [hphase] at hn
    | some other => simpa [hphase] using hn

theorem InPhase.getElem? (h : InPhase r k phase) : r.stages[k]? = phase.stage? := by
  rw [h.stages, List.getElem?_append_right (by simp)]
  cases phase.stage? <;> simp

/-! ## What is done at the reception -/

theorem arrive_of_free {peer : String} (hdesk : r.desk = .waiting) (h : r.guard.held = false) :
    r.arrive peer =
      { r with guard := ⟨true⟩, desk := .admitting, clients := r.clients + 1 }.note
        (.took r.stages.length) := by
  simp [arrive, hdesk, Guard.tryAcquire, h]

/-- A client that arrives while the slot is held changes nothing but the desk. -/
theorem arrive_of_held {peer : String} (hdesk : r.desk = .waiting) (h : r.guard.held = true) :
    r.arrive peer = { r with desk := .refusing r.clients peer, clients := r.clients + 1 } := by
  have hguard : (⟨true⟩ : Guard) = r.guard := by rw [← h]
  simp [arrive, hdesk, Guard.tryAcquire, h, hguard]

theorem arrive_of_desk {peer : String} (hdesk : r.desk ≠ .waiting) : r.arrive peer = r := by
  unfold arrive
  split
  · rename_i hwaiting
    exact absurd hwaiting hdesk
  · rfl

/-- What can be done at the reception; the label tells whether a client that is turned away is
reached. -/
inductive Move : Option Bool → Reception → Reception → Prop
  | stay (r : Reception) : Move none r r
  | openDesk (r : Reception) : Move none r r.openDesk
  | closeDesk (r : Reception) : Move none r r.closeDesk
  | arrive (r : Reception) (peer : String) : Move none r (r.arrive peer)
  | seat (r : Reception) : Move none r r.seat
  | refuse (r : Reception) (reached : Bool) : Move (some reached) r (r.refuse reached)
  | finish (r : Reception) (n : Nat) : Move none r (r.finish n)
  | withdraw (r : Reception) (n : Nat) : Move none r (r.withdraw n)
  | release {r r' : Reception} {n : Nat} (h : r.release n = .ok r') : Move none r r'

variable {label : Option Bool}

theorem InPhase.withDesk (h : InPhase r k phase) (hold : r.desk ≠ .admitting) (desk : Desk)
    (hnew : desk ≠ .admitting) (clients : Nat) : InPhase { r with desk, clients } k phase where
  stages := h.stages
  held := h.held
  desk := iff_of_false hnew fun hphase => hold (h.desk.mpr hphase)
  current := h.current
  slot := h.slot

/-- Deeds that are no turns of the slot do not matter to it. -/
theorem InPhase.noted (h : InPhase r k phase) (hdeed : deed.isTurn = false) :
    InPhase (r.note deed) k phase where
  stages := h.stages
  held := h.held
  desk := h.desk
  current := h.current
  slot := by simp [hdeed, h.slot]

theorem InPhase.openDesk (h : InPhase r k phase) : InPhase r.openDesk k phase := by
  unfold Reception.openDesk
  split
  · rename_i hdesk
    exact h.withDesk (by simp [hdesk]) .waiting nofun r.clients
  · exact h

theorem InPhase.closeDesk (h : InPhase r k phase) : InPhase r.closeDesk k phase := by
  unfold Reception.closeDesk
  split
  · rename_i hdesk
    exact h.withDesk (by simp [hdesk]) .closed nofun r.clients
  · exact h

/-- A client gets the slot exactly if it is free. -/
theorem InPhase.arrive (h : InPhase r k phase) (peer : String) :
    InPhase (r.arrive peer) k (if r.desk = .waiting ∧ phase = .free then .coming else phase) := by
  by_cases hdesk : r.desk = .waiting
  · have hwaiting : r.desk ≠ .admitting := by simp [hdesk]
    by_cases hphase : phase = .free
    · subst hphase
      have hfree : r.guard.held = false := Bool.eq_false_iff.mpr fun hheld => h.held.mp hheld rfl
      have hlength : r.stages.length = k := by simp [h.stages, Phase.stage?]
      rw [if_pos ⟨hdesk, rfl⟩, arrive_of_free hdesk hfree, hlength]
      refine ⟨h.stages, iff_of_true rfl nofun, iff_of_true rfl rfl, h.current, ?_⟩
      rw [slot_note]
      change r.slot ++ [.took k] = turns k ++ [.took k]
      rw [h.slot, if_pos rfl, List.append_nil]
    · rw [if_neg fun hboth => hphase hboth.2, arrive_of_held hdesk (h.held.mpr hphase)]
      exact h.withDesk hwaiting (.refusing r.clients peer) (by simp) _
  · rw [if_neg fun hboth => hdesk hboth.1, arrive_of_desk hdesk]
    exact h

theorem InPhase.seat (h : InPhase r k phase) : ∃ phase', InPhase r.seat k phase' := by
  unfold Reception.seat
  split
  · rename_i hdesk
    have hphase := h.desk.mp hdesk
    subst hphase
    have hstages : r.stages = List.replicate k .left := by simp [h.stages, Phase.stage?]
    refine ⟨.running, ?_, h.held.trans (by simp), iff_of_false nofun nofun, ?_, h.slot⟩
    · change r.stages ++ [.running] = _
      rw [hstages]
      rfl
    · change some r.stages.length = some k
      rw [hstages, List.length_replicate]
  · exact ⟨phase, h⟩

theorem InPhase.refuse (h : InPhase r k phase) (reached : Bool) :
    InPhase (r.refuse reached) k phase := by
  unfold Reception.refuse
  split
  · rename_i client peer hdesk
    have hwaiting := h.withDesk (by simp [hdesk]) .waiting nofun r.clients
    cases reached with
    | false => exact (hwaiting.noted rfl).noted rfl
    | true => exact ((hwaiting.noted rfl).noted rfl).noted rfl
  · exact h

/-- The session that has the slot gets to another stage. -/
theorem InPhase.set_stages (h : InPhase r k phase) (hphase : phase.stage? = some stage)
    (next : Stage) : r.stages.set k next = List.replicate k .left ++ [next] := by
  rw [h.stages, hphase, List.set_append_right _ _ (by simp)]
  simp

theorem InPhase.finish (h : InPhase r k phase) (n : Nat) :
    ∃ phase', InPhase (r.finish n) k phase' := by
  unfold Reception.finish
  split
  · rename_i hrunning
    obtain ⟨rfl, hstage⟩ := h.of_getElem? hrunning nofun
    have hset := h.set_stages hstage .ended
    cases phase <;> cases hstage
    exact ⟨.ended, hset, h.held.trans (by simp), h.desk.trans (by simp), h.current, h.slot⟩
  · exact ⟨phase, h⟩

theorem InPhase.withdraw (h : InPhase r k phase) (n : Nat) :
    ∃ phase', InPhase (r.withdraw n) k phase' := by
  unfold Reception.withdraw
  split
  · rename_i hended
    obtain ⟨rfl, hstage⟩ := h.of_getElem? hended nofun
    have hset := h.set_stages hstage .leaving
    cases phase <;> cases hstage
    exact ⟨.leaving, hset, h.held.trans (by simp), h.desk.trans (by simp), rfl, h.slot⟩
  · exact ⟨phase, h⟩

/-- Who gives the slot back has it. -/
theorem InPhase.release (h : InPhase r k phase) (n : Nat) :
    ∃ r', r.release n = .ok r' ∧ ∃ k' phase', InPhase r' k' phase' := by
  unfold Reception.release
  split
  · rename_i hleaving
    obtain ⟨rfl, hstage⟩ := h.of_getElem? hleaving nofun
    have hset := h.set_stages hstage .left
    cases phase <;> cases hstage
    have hrelease : r.guard.release = .ok ⟨false⟩ := if_pos (h.held.mpr nofun)
    rw [hrelease]
    refine ⟨_, rfl, n + 1, .free, ?_, iff_of_false nofun fun hne => hne rfl, ?_, h.current, ?_⟩
    · change r.stages.set n .left = _
      rw [hset, List.replicate_succ']
      exact (List.append_nil _).symm
    · exact h.desk.trans (by simp)
    · rw [slot_note]
      change r.slot ++ [.gave n] = turns (n + 1) ++ []
      rw [h.slot, turns_succ]
      simp
  · exact ⟨r, rfl, k, phase, h⟩

/-- **Whatever is done at the reception, it is in one of the phases.** -/
theorem Move.inPhase (hmove : Move label r r') (h : ∃ k phase, InPhase r k phase) :
    ∃ k phase, InPhase r' k phase := by
  obtain ⟨k, phase, h⟩ := h
  cases hmove with
  | stay => exact ⟨k, phase, h⟩
  | openDesk => exact ⟨k, phase, h.openDesk⟩
  | closeDesk => exact ⟨k, phase, h.closeDesk⟩
  | arrive => exact ⟨k, _, h.arrive _⟩
  | seat => exact ⟨k, h.seat⟩
  | refuse => exact ⟨k, phase, h.refuse _⟩
  | finish => exact ⟨k, h.finish _⟩
  | withdraw => exact ⟨k, h.withdraw _⟩
  | release hrelease =>
    obtain ⟨r'', hr'', hphase⟩ := h.release _
    rw [hrelease] at hr''
    cases hr''
    exact hphase

/-! ## One session -/

/-- The session has begun, and has not given the slot back. -/
def Unfinished (r : Reception) (n : Nat) : Prop :=
  ∃ stage, r.stages[n]? = some stage ∧ stage ≠ .left

/-- One session at a time. -/
structure Orderly (r : Reception) : Prop where
  one : ∀ m n, r.Unfinished m → r.Unfinished n → m = n
  /-- The slot is held exactly for a session that is about to begin or has not finished. -/
  held : r.guard.held = true ↔ r.desk = .admitting ∨ ∃ n, r.Unfinished n
  /-- The slot is taken and given back in turns: each session that has left has had its turn, and
  the slot is held for the next one. -/
  turns : r.slot = turns (r.stages.count .left) ++
    if r.guard.held then [.took (r.stages.count .left)] else []
  /-- The server keeps the place of a session until the session loses it. -/
  current : ∀ n, r.current = some n ↔
    r.stages[n]? = some .running ∨ r.stages[n]? = some .ended
  /-- What a session loses is its own place. -/
  withdrawn : ∀ n, (r.withdraw n).current = r.current ∨ r.current = some n

theorem InPhase.unfinished_iff (h : InPhase r k phase) :
    r.Unfinished n ↔ n = k ∧ phase.stage? ≠ none := by
  constructor
  · rintro ⟨stage, hn, hstage⟩
    obtain ⟨rfl, hphase⟩ := h.of_getElem? hn hstage
    exact ⟨rfl, by simp [hphase]⟩
  · rintro ⟨rfl, hphase⟩
    have hstage := h.getElem?
    cases phase with
    | free | coming => exact absurd rfl hphase
    | running => exact ⟨.running, hstage, nofun⟩
    | ended => exact ⟨.ended, hstage, nofun⟩
    | leaving => exact ⟨.leaving, hstage, nofun⟩

theorem InPhase.current_iff (h : InPhase r k phase) : r.current = some n ↔
    r.stages[n]? = some .running ∨ r.stages[n]? = some .ended := by
  have hiff : r.current = some n ↔ (phase = .running ∨ phase = .ended) ∧ n = k := by
    rw [h.current]
    split <;> simp_all [eq_comm]
  rw [hiff]
  constructor
  · rintro ⟨rfl | rfl, rfl⟩
    · exact .inl h.getElem?
    · exact .inr h.getElem?
  · rintro (hn | hn)
    · obtain ⟨rfl, hphase⟩ := h.of_getElem? hn nofun
      cases phase <;> cases hphase
      exact ⟨.inl rfl, rfl⟩
    · obtain ⟨rfl, hphase⟩ := h.of_getElem? hn nofun
      cases phase <;> cases hphase
      exact ⟨.inr rfl, rfl⟩

/-- **In each of the phases there is one session at a time.** -/
theorem InPhase.orderly (h : InPhase r k phase) : r.Orderly where
  one m n hm hn := (h.unfinished_iff.mp hm).1.trans (h.unfinished_iff.mp hn).1.symm
  held := by
    simp only [h.held, h.desk, h.unfinished_iff, exists_eq_left]
    cases phase <;> simp [Phase.stage?]
  turns := by
    have hcount : r.stages.count .left = k := by
      rw [h.stages]
      cases phase <;> simp [Phase.stage?]
    rw [hcount, h.slot]
    by_cases hphase : phase = .free
    · rw [if_pos hphase, if_neg fun hheld => h.held.mp hheld hphase]
    · rw [if_neg hphase, if_pos (h.held.mpr hphase)]
  current _ := h.current_iff
  withdrawn n := by
    unfold Reception.withdraw
    split
    · rename_i hended
      exact .inr (h.current_iff.mpr (.inr hended))
    · exact .inl rfl

/-! ## Where no session begins -/

/-- No session begins, and a closed desk stays closed. -/
structure Quiet (r r' : Reception) : Prop where
  length : r'.stages.length = r.stages.length
  running : ∀ n : Nat, r'.stages[n]? = some .running → r.stages[n]? = some .running
  closed : r.desk = .closed → r'.desk = .closed

theorem Quiet.refl (r : Reception) : Quiet r r := ⟨rfl, fun _ => id, id⟩

theorem Quiet.trans {r'' : Reception} (h : Quiet r r') (h' : Quiet r' r'') : Quiet r r'' :=
  ⟨h'.length.trans h.length, fun n hn => h.running n (h'.running n hn),
    fun hdesk => h'.closed (h.closed hdesk)⟩

theorem closeDesk_kept (r : Reception) : ∃ desk, r.closeDesk = { r with desk } := by
  unfold closeDesk
  split <;> exact ⟨_, rfl⟩

theorem quiet_closeDesk (r : Reception) : Quiet r r.closeDesk := by
  unfold closeDesk
  split
  · exact ⟨rfl, fun _ => id, fun _ => rfl⟩
  · exact .refl r

theorem quiet_arrive (r : Reception) (peer : String) : Quiet r (r.arrive peer) := by
  by_cases hdesk : r.desk = .waiting
  · cases hheld : r.guard.held with
    | false =>
      rw [arrive_of_free hdesk hheld]
      exact ⟨rfl, fun _ => id, fun hclosed => by simp [hdesk] at hclosed⟩
    | true =>
      rw [arrive_of_held hdesk hheld]
      exact ⟨rfl, fun _ => id, fun hclosed => by simp [hdesk] at hclosed⟩
  · rw [arrive_of_desk hdesk]
    exact .refl r

theorem quiet_refuse (r : Reception) (reached : Bool) : Quiet r (r.refuse reached) := by
  unfold refuse
  split
  · rename_i hdesk
    cases reached <;> exact ⟨rfl, fun _ => id, fun hclosed => by simp [hdesk] at hclosed⟩
  · exact .refl r

/-- A session that gets to another stage is not one that begins. -/
theorem running_of_set (next : Stage) (hnext : next ≠ .running) (m n : Nat)
    (h : (r.stages.set m next)[n]? = some .running) : r.stages[n]? = some .running := by
  rw [List.getElem?_set] at h
  split at h
  · split at h
    · exact absurd (Option.some.inj h) hnext
    · cases h
  · exact h

theorem quiet_finish (r : Reception) (m : Nat) : Quiet r (r.finish m) := by
  unfold finish
  split
  · exact ⟨List.length_set, running_of_set .ended nofun m, id⟩
  · exact .refl r

theorem quiet_withdraw (r : Reception) (m : Nat) : Quiet r (r.withdraw m) := by
  unfold withdraw
  split
  · exact ⟨List.length_set, running_of_set .leaving nofun m, id⟩
  · exact .refl r

theorem release_eq_ok (h : r.release n = .ok r') :
    (r.stages[n]? ≠ some .leaving ∧ r' = r) ∨ r.stages[n]? = some .leaving ∧
      ∃ guard, r' = { r with guard, stages := r.stages.set n .left }.note (.gave n) := by
  unfold release at h
  split at h
  · rename_i hleaving
    cases hguard : r.guard.release with
    | error fault =>
      rw [hguard] at h
      cases h
    | ok guard =>
      rw [hguard] at h
      cases h
      exact .inr ⟨hleaving, guard, rfl⟩
  · rename_i hstage
    cases h
    exact .inl ⟨hstage, rfl⟩

theorem quiet_release (h : r.release n = .ok r') : Quiet r r' := by
  obtain ⟨-, rfl⟩ | ⟨-, _, rfl⟩ := release_eq_ok h
  · exact .refl _
  · exact ⟨List.length_set, running_of_set .left nofun n, id⟩

theorem quiet_leave (h : r.leave n = .ok r') : Quiet r r' :=
  ((quiet_finish r n).trans (quiet_withdraw _ n)).trans (quiet_release h)

/-! ## The way out of a session -/

/-- No session goes back on its way out. -/
def Onward (r r' : Reception) : Prop :=
  ∀ (n : Nat) (stage : Stage), r.stages[n]? = some stage →
    ∃ stage', r'.stages[n]? = some stage' ∧ stage.rank ≤ stage'.rank

theorem onward_of_stages (h : r'.stages = r.stages) : Onward r r' :=
  fun _ stage hn => ⟨stage, by rw [h, hn], Nat.le_refl _⟩

theorem onward_set {next : Stage} (hn : r.stages[n]? = some stage) (hrank : stage.rank ≤ next.rank)
    (h : r'.stages = r.stages.set n next) : Onward r r' := by
  intro m other hm
  rw [h, List.getElem?_set]
  split
  · rename_i heq
    subst heq
    obtain ⟨hlt, -⟩ := List.getElem?_eq_some_iff.mp hn
    obtain rfl : stage = other := Option.some.inj (hn.symm.trans hm)
    exact ⟨next, if_pos hlt, hrank⟩
  · exact ⟨other, hm, Nat.le_refl _⟩

theorem Move.onward (hmove : Move label r r') : Onward r r' := by
  cases hmove with
  | stay => exact onward_of_stages rfl
  | openDesk => unfold Reception.openDesk; split <;> exact onward_of_stages rfl
  | closeDesk => unfold Reception.closeDesk; split <;> exact onward_of_stages rfl
  | arrive =>
    unfold Reception.arrive
    split
    · split <;> exact onward_of_stages rfl
    · exact onward_of_stages rfl
  | seat =>
    unfold Reception.seat
    split
    · intro n stage hn
      refine ⟨stage, ?_, Nat.le_refl _⟩
      rw [List.getElem?_append_left (List.getElem?_eq_some_iff.mp hn).1, hn]
    · exact onward_of_stages rfl
  | refuse _ reached =>
    unfold Reception.refuse
    split
    · cases reached <;> exact onward_of_stages rfl
    · exact onward_of_stages rfl
  | finish =>
    unfold Reception.finish
    split
    · rename_i hrunning
      exact onward_set hrunning (Nat.le_succ _) rfl
    · exact onward_of_stages rfl
  | withdraw =>
    unfold Reception.withdraw
    split
    · rename_i hended
      exact onward_set hended (Nat.le_succ _) rfl
    · exact onward_of_stages rfl
  | release hrelease =>
    obtain ⟨-, rfl⟩ | ⟨hleaving, _, rfl⟩ := release_eq_ok hrelease
    · exact onward_of_stages rfl
    · exact onward_set hleaving (Nat.le_succ _) rfl

/-- A session has begun and has got so far on its way out. -/
def Passed (r : Reception) (n k : Nat) : Prop :=
  ∃ stage, r.stages[n]? = some stage ∧ k ≤ stage.rank

theorem Passed.move (h : Passed r n k) (hmove : Move label r r') : Passed r' n k := by
  obtain ⟨stage, hn, hk⟩ := h
  obtain ⟨stage', hn', hrank⟩ := hmove.onward n stage hn
  exact ⟨stage', hn', Nat.le_trans hk hrank⟩

/-- A session that has got so far and no further takes its next step. -/
theorem Passed.next (stage next : Stage) (h : Passed r n k) (hk : stage.rank = k)
    (hnext : next.rank = k + 1)
    (hstep : (r.stages[n]? = some stage ∧ r'.stages = r.stages.set n next) ∨
      (r.stages[n]? ≠ some stage ∧ r' = r)) : Passed r' n (k + 1) := by
  obtain ⟨other, hn, hrank⟩ := h
  obtain ⟨-, hstages⟩ | ⟨hstage, rfl⟩ := hstep
  · obtain ⟨hlt, -⟩ := List.getElem?_eq_some_iff.mp hn
    exact ⟨next, by rw [hstages, List.getElem?_set_self hlt], Nat.le_of_eq hnext.symm⟩
  · refine ⟨other, hn, Nat.lt_of_le_of_ne hrank fun heq => hstage ?_⟩
    have hsame : other = stage := by cases other <;> cases stage <;> simp_all [Stage.rank]
    rw [hn, hsame]

theorem Passed.finish (h : Passed r n 0) : Passed (r.finish n) n 1 := by
  refine h.next .running .ended rfl rfl ?_
  unfold Reception.finish
  split
  · rename_i hrunning
    exact .inl ⟨hrunning, rfl⟩
  · rename_i hstage
    exact .inr ⟨hstage, rfl⟩

theorem Passed.withdraw (h : Passed r n 1) : Passed (r.withdraw n) n 2 := by
  refine h.next .ended .leaving rfl rfl ?_
  unfold Reception.withdraw
  split
  · rename_i hended
    exact .inl ⟨hended, rfl⟩
  · rename_i hstage
    exact .inr ⟨hstage, rfl⟩

theorem Passed.release (h : Passed r n 2) (hrelease : r.release n = .ok r') : Passed r' n 3 := by
  refine h.next .leaving .left rfl rfl ?_
  obtain ⟨hstage, rfl⟩ | ⟨hleaving, _, rfl⟩ := release_eq_ok hrelease
  · exact .inr ⟨hstage, rfl⟩
  · exact .inl ⟨hleaving, rfl⟩

theorem Passed.left (h : Passed r n 3) : r.stages[n]? = some .left := by
  obtain ⟨stage, hn, hrank⟩ := h
  cases stage with
  | left => exact hn
  | running | ended | leaving => simp [Stage.rank] at hrank

theorem count_turns (k n : Nat) : (Reception.turns k).count (.took n) = (if n < k then 1 else 0) ∧
    (Reception.turns k).count (.gave n) = if n < k then 1 else 0 := by
  induction k with
  | zero => exact ⟨rfl, rfl⟩
  | succ k ih =>
    rw [turns_succ, List.count_append, List.count_append, ih.1, ih.2]
    by_cases hlast : n = k
    · subst hlast
      simp
    · have hne : ¬ k = n := fun heq => hlast heq.symm
      by_cases hlt : n < k <;> simp [hne, hlt] <;> omega

/-- **A session that has left has taken the slot once and given it back once.** -/
theorem InPhase.turns_of_left (h : InPhase r k phase) (hn : r.stages[n]? = some .left) :
    r.slot.count (.took n) = 1 ∧ r.slot.count (.gave n) = 1 := by
  have hlt : n < k := by
    refine Nat.lt_of_not_le fun hge => ?_
    rw [h.stages, List.getElem?_append_right (by simpa using hge), List.length_replicate] at hn
    have hmem := List.mem_of_getElem? hn
    cases phase <;> simp [Phase.stage?] at hmem
  obtain ⟨htook, hgave⟩ := count_turns k n
  rw [h.slot, List.count_append, List.count_append, htook, hgave, if_pos hlt]
  have hne : ¬ k = n := by omega
  split <;> simp [hne]

/-- The whole way out of a session that holds the slot. -/
theorem leave_of_running (hheld : r.guard.held = true) (hn : r.stages[n]? = some .running) :
    r.leave n = .ok ({ r with
      guard := ⟨false⟩
      current := none
      stages := r.stages.set n .left }.note (.gave n)) := by
  obtain ⟨hlt, -⟩ := List.getElem?_eq_some_iff.mp hn
  have hfinish : r.finish n = { r with stages := r.stages.set n .ended } := if_pos hn
  have hwithdraw : Reception.withdraw { r with stages := r.stages.set n .ended } n =
      { r with current := none, stages := (r.stages.set n .ended).set n .leaving } :=
    if_pos (List.getElem?_set_self hlt)
  have hleaving : ((r.stages.set n .ended).set n .leaving)[n]? = some .leaving :=
    List.getElem?_set_self (by rwa [List.length_set])
  have hrelease : r.guard.release = .ok ⟨false⟩ := if_pos hheld
  rw [leave, hfinish, hwithdraw, Reception.release, if_pos hleaving]
  dsimp only
  rw [hrelease, List.set_set, List.set_set]
  rfl

/-! ## Clients that are turned away -/

/-- What a client gets that is turned away. -/
def farewell (client : Nat) (reached : Bool) : List Deed :=
  if reached then [.told client busyMessage, .hungUp client] else [.hungUp client]

theorem dealings_note_of_none (h : deed.client? = none) :
    (r.note deed).dealings client = r.dealings client := by
  simp [h]

theorem refuse_eq {other : Nat} {peer : String} (client : Nat)
    (hdesk : r.desk = .refusing other peer) (reached : Bool) : (r.refuse reached).desk = .waiting ∧
      (r.refuse reached).clients = r.clients ∧ (r.refuse reached).dealings client =
        r.dealings client ++ if other = client then farewell client reached else [] := by
  have hwaiting : Reception.dealings { r with desk := .waiting } client = r.dealings client := rfl
  unfold refuse
  rw [hdesk]
  cases reached <;> refine ⟨rfl, rfl, ?_⟩ <;>
    by_cases hother : other = client <;> simp [hwaiting, hother, Deed.client?, farewell]

theorem refuse_of_desk (hdesk : ∀ client peer, r.desk ≠ .refusing client peer) (reached : Bool) :
    r.refuse reached = r := by
  unfold refuse
  split
  · rename_i hrefusing
    exact absurd hrefusing (hdesk _ _)
  · rfl

theorem Move.clients_le (hmove : Move label r r') : r.clients ≤ r'.clients := by
  cases hmove with
  | stay => exact Nat.le_refl _
  | openDesk => unfold Reception.openDesk; split <;> exact Nat.le_refl _
  | closeDesk => unfold Reception.closeDesk; split <;> exact Nat.le_refl _
  | arrive =>
    unfold Reception.arrive
    split
    · split <;> exact Nat.le_succ _
    · exact Nat.le_refl _
  | seat => unfold Reception.seat; split <;> exact Nat.le_refl _
  | refuse _ reached =>
    cases hdesk : r.desk with
    | refusing other peer => exact Nat.le_of_eq (refuse_eq 0 hdesk reached).2.1.symm
    | closed | waiting | admitting =>
      have hsame := refuse_of_desk (fun _ _ => by rw [hdesk]; nofun) reached
      exact Nat.le_of_eq (congrArg clients hsame).symm
  | finish => unfold Reception.finish; split <;> exact Nat.le_refl _
  | withdraw => unfold Reception.withdraw; split <;> exact Nat.le_refl _
  | release hrelease =>
    obtain ⟨-, rfl⟩ | ⟨-, _, rfl⟩ := release_eq_ok hrelease <;> exact Nat.le_refl _

/-- Nothing is done to a client, and the desk neither turns to it nor away from it. -/
structure Passes (client : Nat) (r r' : Reception) : Prop where
  desk : ∀ peer, r'.desk = .refusing client peer ↔ r.desk = .refusing client peer
  dealings : r'.dealings client = r.dealings client

theorem Passes.refl (client : Nat) (r : Reception) : Passes client r r := ⟨fun _ => .rfl, rfl⟩

theorem passes_arrive {peer : String}
    (h : client < r.clients ∨ (r.arrive peer).clients ≤ client) :
    Passes client r (r.arrive peer) := by
  by_cases hdesk : r.desk = .waiting
  · cases hheld : r.guard.held with
    | false =>
      rw [arrive_of_free hdesk hheld]
      exact ⟨fun _ => by simp [note, hdesk], dealings_note_of_none rfl⟩
    | true =>
      rw [arrive_of_held hdesk hheld] at h ⊢
      have hne : r.clients ≠ client := by
        dsimp only at h
        omega
      exact ⟨fun _ => by simp [hdesk, hne], rfl⟩
  · rw [arrive_of_desk hdesk]
    exact .refl client r

/-- **What is done at the reception passes a client** that arrives neither then nor is turned away
then. -/
theorem Move.passes (hmove : Move label r r') (h : client < r.clients ∨ r'.clients ≤ client)
    (hlabel : label = none ∨ ∀ peer, r.desk ≠ .refusing client peer) : Passes client r r' := by
  cases hmove with
  | stay => exact .refl client r
  | openDesk =>
    unfold Reception.openDesk
    split
    · rename_i hdesk
      exact ⟨fun _ => by simp [hdesk], rfl⟩
    · exact .refl client r
  | closeDesk =>
    unfold Reception.closeDesk
    split
    · rename_i hdesk
      exact ⟨fun _ => by simp [hdesk], rfl⟩
    · exact .refl client r
  | arrive => exact passes_arrive h
  | seat =>
    unfold Reception.seat
    split
    · rename_i hdesk
      exact ⟨fun _ => by simp [hdesk], rfl⟩
    · exact .refl client r
  | refuse _ reached =>
    have hother := hlabel.resolve_left nofun
    cases hdesk : r.desk with
    | refusing other peer =>
      have hne : other ≠ client := fun heq => hother peer (heq ▸ hdesk)
      obtain ⟨hwaiting, -, hdealings⟩ := refuse_eq client hdesk reached
      refine ⟨fun _ => ?_, ?_⟩
      · simp [hwaiting, hdesk, hne]
      · rw [hdealings, if_neg hne, List.append_nil]
    | closed | waiting | admitting =>
      rw [refuse_of_desk (fun _ _ => by rw [hdesk]; nofun) reached]
      exact .refl client r
  | finish =>
    unfold Reception.finish
    split <;> exact ⟨fun _ => .rfl, rfl⟩
  | withdraw =>
    unfold Reception.withdraw
    split <;> exact ⟨fun _ => .rfl, rfl⟩
  | release hrelease =>
    obtain ⟨-, rfl⟩ | ⟨-, _, rfl⟩ := release_eq_ok hrelease
    · exact .refl client _
    · exact ⟨fun _ => .rfl, dealings_note_of_none rfl⟩

/-- Nothing was done to clients that have yet to arrive. -/
structure Fresh (r : Reception) : Prop where
  desk : ∀ client peer, r.desk = .refusing client peer → client < r.clients
  dealings : ∀ client, r.clients ≤ client → r.dealings client = []

theorem Move.fresh (hmove : Move label r r') (h : r.Fresh) : r'.Fresh := by
  have hpasses {client : Nat} (hclient : r'.clients ≤ client) : Passes client r r' :=
    hmove.passes (.inr hclient) (.inr fun peer hdesk =>
      Nat.not_le_of_lt (h.desk client peer hdesk) (Nat.le_trans hmove.clients_le hclient))
  constructor
  · intro client peer hdesk
    refine Nat.lt_of_not_le fun hclient => ?_
    have hbefore := h.desk client peer (((hpasses hclient).desk peer).mp hdesk)
    exact Nat.not_le_of_lt hbefore (Nat.le_trans hmove.clients_le hclient)
  · intro client hclient
    rw [(hpasses hclient).dealings]
    exact h.dealings client (Nat.le_trans hmove.clients_le hclient)

/-- A client is being turned away, and nothing was done to it yet. -/
structure Refused (r : Reception) (client : Nat) : Prop where
  arrived : client < r.clients
  desk : ∃ peer, r.desk = .refusing client peer
  dealings : r.dealings client = []

/-- The desk has done with a client. -/
structure Done (r : Reception) (client : Nat) (deeds : List Deed) : Prop where
  arrived : client < r.clients
  desk : ∀ peer, r.desk ≠ .refusing client peer
  dealings : r.dealings client = deeds

variable {deeds : List Deed} {reached : Bool}

theorem Done.move (h : Done r client deeds) (hmove : Move label r r') : Done r' client deeds := by
  obtain ⟨hdesk, hdealings⟩ := hmove.passes (.inl h.arrived) (.inr h.desk)
  exact ⟨Nat.lt_of_lt_of_le h.arrived hmove.clients_le,
    fun peer hpeer => h.desk peer ((hdesk peer).mp hpeer), hdealings.trans h.dealings⟩

theorem Refused.move (h : Refused r client) (hmove : Move none r r') : Refused r' client := by
  obtain ⟨hdesk, hdealings⟩ := hmove.passes (.inl h.arrived) (.inl rfl)
  obtain ⟨peer, hpeer⟩ := h.desk
  exact ⟨Nat.lt_of_lt_of_le h.arrived hmove.clients_le, ⟨peer, (hdesk peer).mpr hpeer⟩,
    hdealings.trans h.dealings⟩

theorem Refused.done (h : Refused r client) (hmove : Move (some reached) r r') :
    Done r' client (farewell client reached) := by
  cases hmove
  obtain ⟨peer, hpeer⟩ := h.desk
  obtain ⟨hwaiting, hclients, hdealings⟩ := refuse_eq client hpeer reached
  refine ⟨by rw [hclients]; exact h.arrived, fun peer => by rw [hwaiting]; nofun, ?_⟩
  rw [hdealings, h.dealings, if_pos rfl, List.nil_append]

end Reception

end DialUp.Server
