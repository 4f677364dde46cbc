import Mathlib.Data.List.Perm.Subperm
import DialUp.Proofs.Session.Chores
import DialUp.Proofs.Session.Delivery

/-!
# Whose bytes the client gets

What the log says the client got from a line was indeed read from that line, and was written while
its bridge was the current one. This holds after failed writes too, when the order is lost.

* `Moment.heardOf`: a move gives the client bytes of the current bridge only;
* `Tick.sourced`: what the client gets of a bridge was read from its line, byte by byte;
* `Path.in_order`: as long as every write succeeds, in the order in which it was read.
-/

namespace DialUp.Session

variable {s s' p : Session} {i : Nat} {m : Moment}

/-! ## What a move gives the client -/

/-- The client gets bytes of bridge `i` only while that is the current one. -/
def HeardOf (i : Nat) (s s' : Session) : Prop :=
  s'.relayed i ≠ s.relayed i → s.current = some i ∧ s'.current = some i

theorem heardOf_of_eq (h : s'.relayed i = s.relayed i) : HeardOf i s s' := fun hne => absurd h hne

/-- The client gets bytes of no bridge but the current one, and that stays the current one. -/
theorem heardOf_of_current (hc : s'.current = s.current)
    (h : s.current ≠ some i → s'.relayed i = s.relayed i) : HeardOf i s s' := by
  intro hne
  by_cases hi : s.current = some i
  · exact ⟨hi, hc.trans hi⟩
  · exact absurd (h hi) hne

theorem heardOf_execute (intent : Intent) (s : Session) (i : Nat) :
    HeardOf i s (left (execute intent) s) := by
  cases intent with
  | reset | hangUp => exact heardOf_of_eq (relayed_dropConnection s i)
  | setEcho | setVerbose | acknowledge => exact heardOf_of_eq rfl
  | escape =>
    refine heardOf_of_eq ?_
    show (if s.mode = .connected then { s with mode := .command } else s).relayed i = _
    split <;> rfl
  | goOnline =>
    obtain ⟨_, _, _, _, _, heq, hothers⟩ := left_goOnline s
    exact heardOf_of_current (by rw [execute, heq]) (hothers i)
  | dial number => exact heardOf_of_eq ((chores_dial number s).relayed i)

theorem heardOf_typeByte (byte : UInt8) (s : Session) (i : Nat) :
    HeardOf i s (left (typeByte byte) s) := by
  obtain ⟨⟨_, _, _, _, hrelayed⟩, -⟩ | ⟨intent, s₁, -, ⟨_, _, _, heq, hrelayed⟩, happly⟩ :=
    typeByte_cases byte s
  · exact heardOf_of_eq (hrelayed i)
  · have hexecute := heardOf_execute intent s₁ i
    rw [left_congr happly]
    unfold HeardOf at hexecute ⊢
    rw [hrelayed i, show s₁.current = s.current by rw [heq]] at hexecute
    exact hexecute

theorem heardOf_forward (data : Bytes) (s : Session) (i : Nat) :
    HeardOf i s (left (forward data) s) := by
  obtain ⟨-, ok, heq⟩ | ⟨-, ⟨-, heq⟩ | ⟨j, -, heq⟩⟩ := left_forward data s
  · rw [heq]
    exact heardOf_of_eq (relayed_say _ ok _ i)
  · rw [heq]
    exact heardOf_of_eq rfl
  · rw [heq]
    exact heardOf_of_eq (relayed_onBridge j _ i)

theorem relayed_hold (s : Session) (j : Nat) (chunk : Bytes) (i : Nat) :
    (s.hold j chunk).relayed i = s.relayed i := by
  unfold hold
  dsimp only
  split
  · rw [relayed_emit, relayed_emit]
    exact (List.append_nil _).trans (List.append_nil _)
  · rfl

theorem heardOf_handle (event : Nat × Signal) (s : Session) (i : Nat) :
    HeardOf i s (left (handle event) s) := by
  obtain ⟨-, heq⟩ | ⟨chunk, -, hc, ⟨ok, heq⟩ | heq⟩ | ⟨-, -, ⟨ok, heq⟩ | heq⟩ :=
    left_handle event s
  · rw [heq]
    exact heardOf_of_eq rfl
  · rw [heq]
    refine heardOf_of_current (current_wrote ok _ _) fun hi => ?_
    exact relayed_wrote_other (fun h => hi (by rw [hc, Origin.line.inj h])) s ok chunk
  · rw [heq]
    exact heardOf_of_eq (relayed_hold s _ chunk i)
  · rw [heq]
    exact heardOf_of_eq (relayed_say _ ok _ i)
  · rw [heq]
    exact heardOf_of_eq rfl

/-- **A move gives the client bytes of the current bridge only**, and that stays the current one. -/
theorem Moment.heardOf (m : Moment) (i : Nat) : HeardOf i m.state m.next := by
  obtain ⟨s, move⟩ := m
  cases move with
  | type byte => exact heardOf_typeByte byte s i
  | forward data => exact heardOf_forward data s i
  | handle event => exact heardOf_handle event { s with queue := s.queue.drop 1 } i
  | remote j actions => exact heardOf_of_eq (relayed_onBridge j _ i)
  | close => exact heardOf_of_eq (relayed_close s i)

theorem Effect.Quiet.given {e : Effect} (h : e.Quiet) (i : Nat) : e.given i = [] := by
  cases e <;> first | exact h.elim | rfl

/-- A tick gives the client bytes of the current bridge only. -/
theorem Tick.relayed_of_other (h : Tick s s') (hi : s.current ≠ some i) :
    s'.relayed i = s.relayed i := by
  cases h with
  | cue | type | flags | enter | online | shut | discard | shelve | connect | skip => rfl
  | note e quiet =>
    rw [relayed_emit, quiet.given]
    exact List.append_nil _
  | call =>
    rw [relayed_emit]
    exact List.append_nil _
  | write ok data => exact relayed_say s ok data i
  | turn j op => exact relayed_onBridge j op i
  | @flush ok j chunk rest current =>
    rw [relayed_wrote_other fun h => hi (by rw [current, Origin.line.inj h])]
    rfl
  | @relay ok j chunk rest _ current =>
    rw [relayed_wrote_other fun h => hi (by rw [current, Origin.line.inj h])]
    rfl
  | hold => exact relayed_hold _ _ _ i


/-! ## Where the bytes come from -/

/-- The bytes of bridge `i` that the client may still get. -/
def waiting (s : Session) (i : Nat) : Bytes :=
  if s.current = some i then s.held.flatten ++ s.queued i else []

theorem waiting_of_current (h : s.current = some i) :
    s.waiting i = s.held.flatten ++ s.queued i := if_pos h

theorem waiting_of_other (h : s.current ≠ some i) : s.waiting i = [] := if_neg h

/-- What the client has got of a bridge or may still get was read from its line, byte by byte. -/
def Sourced (s : Session) : Prop :=
  ∀ i x, (s.relayed i).count x + (s.waiting i).count x ≤ (s.taken i).count x

/-- A bridge that there is not yet has given nothing. -/
theorem Balanced.relayed_eq_nil (h : s.Balanced) (hi : s.bridges.length ≤ i) :
    s.relayed i = [] := by
  have hpassed := h.fresh i hi
  unfold passed at hpassed
  refine List.flatMap_eq_nil_iff.mpr fun e he => ?_
  exact (List.append_eq_nil_iff.mp (List.flatMap_eq_nil_iff.mp hpassed e he)).1

theorem Wired.waiting_eq_nil (h : s.Wired) (hi : s.bridges.length ≤ i) : s.waiting i = [] :=
  waiting_of_other fun hc => absurd (h.current_lt i hc) (Nat.not_lt.mpr hi)

theorem taken_of_bridges (h : s'.bridges = s.bridges) (i : Nat) : s'.taken i = s.taken i := by
  rw [taken, h, taken]

/-- Bytes that move on from one place to the next, or are dropped. -/
theorem Sourced.move (h : s.Sourced) (hbridges : s'.bridges = s.bridges)
    (hmove : ∀ i x, (s'.relayed i).count x + (s'.waiting i).count x ≤
      (s.relayed i).count x + (s.waiting i).count x) : s'.Sourced := by
  intro i x
  rw [taken_of_bridges hbridges]
  exact Nat.le_trans (hmove i x) (h i x)

/-- A chunk that waits is written, or would be if the client took it. -/
theorem Sourced.wrote {ok : Bool} {j : Nat} {chunk : Bytes} (h : s'.Sourced)
    (hbridges : s.bridges = s'.bridges) (hrelayed : ∀ i, s.relayed i = s'.relayed i)
    (hj : s.current = some j) (hj' : s'.current = some j)
    (hwaiting : ∀ x, chunk.count x + (s.waiting j).count x ≤ (s'.waiting j).count x) :
    (s.wrote ok (.line j) chunk).Sourced := by
  have hwaiting' : ∀ i, (s.wrote ok (.line j) chunk).waiting i = s.waiting i := by
    obtain ⟨_, _, heq⟩ := wrote_kept s ok (.line j) chunk
    rw [heq]
    exact fun _ => rfl
  refine h.move ((bridges_wrote ok _ _).trans hbridges) fun i x => ?_
  rw [hwaiting', relayed_wrote, hrelayed, List.count_append]
  by_cases hij : i = j
  · subst hij
    have hgiven : (if ok && Origin.line i == .line i then chunk else []).count x ≤
        chunk.count x := by
      split
      · exact Nat.le_refl _
      · exact Nat.zero_le _
    have := hwaiting x
    omega
  · have hcurrent : s.current ≠ some i := by
      rw [hj]
      exact fun h => hij (Option.some.inj h).symm
    have hcurrent' : s'.current ≠ some i := by
      rw [hj']
      exact fun h => hij (Option.some.inj h).symm
    have hother : (Origin.line j == .line i) = false :=
      beq_false_of_ne fun h => hij (Origin.line.inj h).symm
    rw [waiting_of_other hcurrent, waiting_of_other hcurrent', hother, Bool.and_false]
    exact Nat.le_refl _

/-- What an operation on a bridge reads is queued. -/
theorem Sourced.onBridge (h : s.Sourced) {op : Bridge → Bridge.Turn} (j : Nat)
    (hop : ∀ b, s.bridges[j]? = some b → (op b).Follows b) : (s.onBridge j op).Sourced := by
  cases hb : s.bridges[j]? with
  | none =>
    rw [show s.onBridge j op = s by simp [Session.onBridge, hb]]
    exact h
  | some b =>
    intro i x
    have hsource := h i x
    have hqueued : (s.onBridge j op).queued i =
        s.queued i ++ if i = j then payload (op b).signals else [] := by
      rw [queued, signalsOf_onBridge op hb, payload_append]
      split <;> rfl
    have htaken : (s.onBridge j op).taken i =
        s.taken i ++ if i = j then payload (op b).signals else [] := by
      rw [taken, getElem?_onBridge op hb, taken]
      split
      · rename_i hij
        rw [hij, hb, Option.map_some, Option.map_some, Option.getD_some, Option.getD_some,
          (hop b hb).taken]
      · rw [List.append_nil]
    rw [relayed_onBridge, htaken, List.count_append]
    by_cases hi : s.current = some i
    · rw [waiting_of_current hi, List.count_append] at hsource
      rw [waiting_of_current (by rw [current_onBridge]; exact hi), held_onBridge, hqueued,
        List.count_append, List.count_append]
      omega
    · rw [waiting_of_other (by rw [current_onBridge]; exact hi), List.count_nil]
      omega

/-- A new bridge: its line was read only by the connect, and nothing has come of it yet. -/
theorem Sourced.connect (h : s.Sourced) (hs : s.Sound) (hb : s.Balanced) {b : Bridge}
    {t : Bridge.Turn} (idle : s.current = none) (untouched : b.taken = []) (follows : t.Follows b) :
    Sourced { s with
      bridges := s.bridges ++ [t.bridge]
      current := some s.bridges.length
      queue := s.queue ++ t.signals.map (s.bridges.length, ·) } := by
  intro i x
  rcases Nat.lt_trichotomy i s.bridges.length with hlt | rfl | hgt
  · have hcurrent : some s.bridges.length ≠ some i :=
      fun h => absurd (Option.some.inj h) (Nat.ne_of_gt hlt)
    rw [waiting_of_other hcurrent, taken, List.getElem?_append_left hlt]
    exact Nat.le_trans (Nat.le_add_right _ _) (h i x)
  · have hqueued : Session.queued { s with
        bridges := s.bridges ++ [t.bridge]
        current := some s.bridges.length
        queue := s.queue ++ t.signals.map (s.bridges.length, ·) } s.bridges.length =
        payload t.signals := by
      rw [queued, signalsOf_append (s := s) _ rfl, signals_same,
        signalsOf_eq_nil hs.queued (Nat.le_refl _), List.nil_append]
    have hrelayed : s.relayed s.bridges.length = [] := hb.relayed_eq_nil (Nat.le_refl _)
    have hheld : s.held = [] := hs.tidy.bare idle
    rw [waiting_of_current rfl, hqueued, taken, List.getElem?_concat_length, Option.map_some,
      Option.getD_some, follows.taken, untouched, List.nil_append]
    show (s.relayed s.bridges.length).count x + (s.held.flatten ++ payload t.signals).count x ≤ _
    rw [hrelayed, hheld]
    simp
  · have hcurrent : some s.bridges.length ≠ some i :=
      fun h => absurd (Option.some.inj h) (Nat.ne_of_lt hgt)
    have hrelayed : s.relayed i = [] := hb.relayed_eq_nil (Nat.le_of_lt hgt)
    rw [waiting_of_other hcurrent]
    show (s.relayed i).count x + _ ≤ _
    rw [hrelayed]
    exact Nat.zero_le _

theorem Tick.sourced (h : Tick s s') (hs : s.Sound) (hb : s.Balanced) (hsourced : s.Sourced) :
    s'.Sourced := by
  cases h with
  | cue | type | flags | enter | online | shut => exact hsourced
  | note e quiet =>
    refine hsourced.move rfl fun i x => ?_
    rw [relayed_emit, quiet.given, List.append_nil]
    exact Nat.le_refl _
  | call route =>
    refine hsourced.move rfl fun i x => ?_
    rw [relayed_emit]
    exact Nat.le_of_eq (congrArg (· + _) (congrArg _ (List.append_nil _)))
  | write ok data =>
    refine hsourced.move (bridges_wrote ok _ _) fun i x => ?_
    have hrelayed := relayed_say s ok data i
    obtain ⟨_, _, heq⟩ := wrote_kept s ok .modem data
    rw [hrelayed, heq]
    exact Nat.le_refl _
  | turn j op follows => exact hsourced.onBridge j follows
  | discard mode =>
    refine hsourced.move rfl fun i x => ?_
    have hnone : ({ s with current := none, mode }.clearHeld).current ≠ some i :=
      fun hc => nomatch (show (none : Option Nat) = some i from hc)
    rw [waiting_of_other hnone]
    exact Nat.le_add_right _ _
  | shelve b =>
    intro i x
    rcases Nat.lt_or_ge i s.bridges.length with hlt | hge
    · rw [taken, List.getElem?_append_left hlt]
      exact hsourced i x
    · have hrelayed : s.relayed i = [] := hb.relayed_eq_nil hge
      have hwaiting : s.waiting i = [] := hs.wired.waiting_eq_nil hge
      show (s.relayed i).count x + (s.waiting i).count x ≤ _
      rw [hrelayed, hwaiting]
      exact Nat.zero_le _
  | connect b t idle _ _ untouched follows => exact hsourced.connect hs hb idle untouched follows
  | @flush ok j chunk rest current held =>
    refine hsourced.wrote rfl (fun _ => rfl) current current fun x => ?_
    rw [waiting_of_current (s := s) current, held, List.flatten_cons,
      waiting_of_current (s := s.unhold chunk rest) current, List.append_assoc]
    exact Nat.le_of_eq List.count_append.symm
  | @skip event rest queue stale =>
    refine hsourced.move rfl fun i x => ?_
    by_cases hi : s.current = some i
    · have hother : event.1 ≠ i := fun h => stale (by rw [h]; exact hi)
      rw [waiting_of_current hi, waiting_of_current (s := { s with queue := rest }) hi,
        queued_cons queue, if_neg hother]
      exact Nat.le_refl _
    · rw [waiting_of_other (s := { s with queue := rest }) hi]
      exact Nat.le_add_right _ _
  | @relay ok j chunk rest queue current held =>
    refine hsourced.wrote (s := { s with queue := rest }) rfl (fun _ => rfl) current current
      fun x => ?_
    rw [waiting_of_current (s := s) current, queued_cons queue, if_pos rfl, payload_single,
      waiting_of_current (s := { s with queue := rest }) current]
    simp only [List.count_append]
    exact Nat.le_of_eq (Nat.add_left_comm _ _ _)
  | @hold j chunk rest queue current =>
    obtain ⟨excess, -, hheld, -, -⟩ := hold_spec { s with queue := rest } j chunk
    have hrelayed := relayed_hold { s with queue := rest } j chunk
    obtain ⟨_, _, _, heq⟩ := hold_kept { s with queue := rest } j chunk
    rw [heq] at hheld hrelayed ⊢
    refine hsourced.move rfl fun i x => ?_
    rw [hrelayed]
    refine Nat.add_le_add_left ?_ _
    by_cases hi : s.current = some i
    · obtain rfl : j = i := Option.some.inj (current.symm.trans hi)
      have hdrop := ((s.held.flatten ++ chunk).drop_sublist excess).count_le x
      rw [waiting_of_current hi, queued_cons queue, if_pos rfl, payload_single,
        waiting_of_current (by exact hi), hheld]
      simp only [List.count_append] at hdrop ⊢
      exact Nat.le_trans (Nat.add_le_add_right hdrop _) (Nat.le_of_eq (Nat.add_assoc _ _ _))
    · rw [waiting_of_other (by exact hi)]
      exact Nat.zero_le _

theorem Ticks.sourced (h : Ticks s s') (hs : s.Sound) (hb : s.Balanced) (hsourced : s.Sourced) :
    s'.Sourced := by
  induction h with
  | refl => exact hsourced
  | tail before ht ih =>
    exact ht.sourced (Ticks.sound before hs) (Ticks.balanced before hs hb) ih

theorem sourced_start (settings : Settings) (around : Surroundings) :
    (start settings around).Sourced :=
  fun _ _ => Nat.zero_le _

/-- What the client gets of a bridge is part of what was read from its line. -/
theorem Sourced.subperm (h : s.Sourced) (i : Nat) : (s.relayed i).Subperm (s.taken i) :=
  List.subperm_ext_iff.mpr fun x _ => Nat.le_trans (Nat.le_add_right _ _) (h i x)

/-! ## The order of what the client gets -/

/-- What was read from a line stays read. -/
theorem Tick.taken_append (h : Tick s s') (i : Nat) : ∃ more, s'.taken i = s.taken i ++ more := by
  have same : s'.bridges = s.bridges → ∃ more, s'.taken i = s.taken i ++ more :=
    fun heq => ⟨[], (taken_of_bridges heq i).trans (List.append_nil _).symm⟩
  cases h with
  | note | cue | type | flags | enter | online | shut | discard | call | skip => exact same rfl
  | write | flush | relay => exact same (bridges_wrote _ _ _)
  | hold => exact same (bridges_hold _ _)
  | turn j op follows =>
    cases hb : s.bridges[j]? with
    | none => exact same (by simp [Session.onBridge, hb])
    | some b =>
      unfold taken
      rw [getElem?_onBridge op hb]
      split
      · rename_i hij
        rw [hij, hb]
        exact ⟨_, (follows b hb).taken⟩
      · exact ⟨[], (List.append_nil _).symm⟩
  | shelve | connect =>
    unfold taken
    rcases Nat.lt_or_ge i s.bridges.length with hlt | hge
    · rw [List.getElem?_append_left hlt]
      exact ⟨[], (List.append_nil _).symm⟩
    · rw [List.getElem?_eq_none hge]
      exact ⟨_, rfl⟩

theorem Ticks.taken_append (h : Ticks s s') (i : Nat) :
    ∃ more, s'.taken i = s.taken i ++ more := by
  induction h with
  | refl => exact ⟨[], (List.append_nil _).symm⟩
  | tail _ ht ih =>
    obtain ⟨more, heq⟩ := ih
    obtain ⟨more', heq'⟩ := ht.taken_append i
    exact ⟨more ++ more', by rw [heq', heq, List.append_assoc]⟩

theorem relayed_sublist_passed (s : Session) (i : Nat) :
    (s.relayed i).Sublist (s.passed i) := by
  unfold relayed passed
  induction s.log.reverse with
  | nil => exact .slnil
  | cons e rest ih =>
    rw [List.flatMap_cons, List.flatMap_cons]
    exact (List.sublist_append_left _ _).append ih

/-- **The client gets the bytes of each line in the order in which they were read**, as long as
every write succeeds. -/
theorem Path.in_order {made : List Moment} (h : Path s made p) (hs : s.Steady) (hb : s.Balanced)
    (hnone : s.relayed i = []) (hd : p.Delivered) : (p.relayed i).Sublist (p.taken i) := by
  induction h with
  | start =>
    rw [hnone]
    exact List.nil_sublist _
  | @step made p move before possible ih =>
    have hsteady := before.steady hs
    have hticks := ticks_move hsteady possible
    by_cases hsame : (left move.act p).relayed i = p.relayed i
    · have hbefore := ih (hticks.later.delivered hsteady.sound.counted hd)
      obtain ⟨more, heq⟩ := Ticks.taken_append hticks i
      rw [hsame, heq]
      exact hbefore.trans (List.sublist_append_left _ _)
    · -- The bridge is the current one, all of whose bytes are accounted for.
      have hc := ((Moment.heardOf ⟨p, move⟩ i) hsame).2
      have hbalanced := Ticks.balanced ((before.ticks hs).trans hticks) hs.sound hb
      have haccounted := hbalanced.accounted hd i hc
      rw [Accounted, List.append_assoc] at haccounted
      rw [← haccounted]
      exact (relayed_sublist_passed _ i).trans (List.sublist_append_left _ _)

end DialUp.Session
