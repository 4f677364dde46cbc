import DialUp.Proofs.Session.Invariant

/-!
# Reasoning about the operations of a session

`Goes o a s Q`: operation `a`, which runs from `s`, gets from `o` to the state in which it stops
by ticks; it fails only for a lost client, after a write that failed; and if it does not fail,
its result and its last state satisfy `Q`. The state `o` lies behind `s` where an operation makes
several changes that are one tick together. `GoesOr B o a s Q` is the same of an operation that may
connect: that can also break down, and then the breakdown and the last state satisfy `B`.

There is one rule for each way in which operations are put together. What an operation on the
side leaves as it is, such as the playing of a cue, is `Aside`.
-/

namespace DialUp.Session

variable {s s' s'' o : Session} {α β : Type}

/-- The state in which an operation stops, whether or not it fails. -/
def left (a : EStateM Fault Session α) (s : Session) : Session :=
  match a s with
  | .ok _ s' => s'
  | .error _ s' => s'

theorem left_bind (a : EStateM Fault Session α) (f : α → EStateM Fault Session β)
    (s : Session) : left (a >>= f) s =
      match a s with
      | .ok x s' => left (f x) s'
      | .error _ s' => s' := by
  show left (EStateM.bind a f) s = _
  unfold left EStateM.bind
  cases a s <;> rfl

/-- The operation has lost its client. -/
def losesClient : EStateM.Result Fault Session α → Bool
  | .error (.clientLost _) _ => true
  | _ => false

/-- What an operation that began in `o` may fail for: a client that is lost, after a write that
failed, or a connect that broke down, as `B` says. -/
def Excused (B : Breakdown → Session → Prop) (o s : Session) : Fault → Prop
  | .clientLost _ => o.outputs ≤ o.writes → ¬ s.Delivered
  | .broken breakdown => B breakdown s
  | .clientUnreadable _ | .bridgeMissing => False

/-- **The operation gets from `o` to its end by ticks**; it fails only for a lost client or a
connect that breaks down, of which `B` holds then. -/
def GoesOr (B : Breakdown → Session → Prop) (o : Session) (a : EStateM Fault Session α)
    (s : Session) (Q : α → Session → Prop) : Prop :=
  match a s with
  | .ok x s' => Ticks o s' ∧ Q x s'
  | .error fault s' => Ticks o s' ∧ Excused B o s' fault

/-- **The operation gets from `o` to its end by ticks**, and fails only for a lost client. -/
abbrev Goes (o : Session) (a : EStateM Fault Session α) (s : Session) (Q : α → Session → Prop) :
    Prop :=
  GoesOr (fun _ _ => False) o a s Q

section Readings

variable {B : Breakdown → Session → Prop} {a : EStateM Fault Session α} {Q : α → Session → Prop}

theorem GoesOr.ticks (h : GoesOr B o a s Q) : Ticks o (left a s) := by
  unfold GoesOr at h
  unfold left
  split <;> rename_i heq <;> rw [heq] at h <;> exact h.1

theorem GoesOr.of_ok {x : α} (h : GoesOr B o a s Q) (heq : a s = .ok x s') : Q x s' := by
  rw [GoesOr, heq] at h
  exact h.2

theorem GoesOr.of_error {fault : Fault} (h : GoesOr B o a s Q) (heq : a s = .error fault s') :
    Ticks o s' ∧ Excused B o s' fault := by
  rwa [GoesOr, heq] at h

/-- An operation raises only for a lost client or for a connect that breaks down. -/
theorem GoesOr.fault {fault : Fault} (h : GoesOr B o a s Q) (heq : a s = .error fault s') :
    (∃ reason, fault = .clientLost reason) ∨ ∃ b, fault = .broken b ∧ B b s' := by
  have hexcused := (h.of_error heq).2
  cases fault with
  | clientLost reason => exact .inl ⟨reason, rfl⟩
  | broken b => exact .inr ⟨b, rfl, hexcused⟩
  | clientUnreadable _ | bridgeMissing => exact hexcused.elim

/-- Where every write has succeeded, so has the operation, unless a connect broke down. -/
theorem GoesOr.of_delivered (h : GoesOr B s a s Q) (hs : s.outputs ≤ s.writes)
    (hd : (left a s).Delivered) : (∃ x, Q x (left a s)) ∨ ∃ b, B b (left a s) := by
  unfold left at hd ⊢
  cases hr : a s with
  | ok x s' => exact .inl ⟨x, h.of_ok hr⟩
  | error fault s' =>
    rw [hr] at hd
    have hexcused := (h.of_error hr).2
    cases fault with
    | clientLost _ => exact absurd hd (hexcused hs)
    | broken b => exact .inr ⟨b, hexcused⟩
    | clientUnreadable _ | bridgeMissing => exact hexcused.elim

end Readings

theorem Excused.mono {B B' : Breakdown → Session → Prop} {fault : Fault} (h : Excused B o s fault)
    (hB : ∀ b, B b s → B' b s) : Excused B' o s fault := by
  cases fault with
  | broken b => exact hB b h
  | clientLost _ => exact h
  | clientUnreadable _ | bridgeMissing => exact h.elim

/-- What comes before an operation counts no failed write as delivered. -/
theorem Excused.earlier {B : Breakdown → Session → Prop} {fault : Fault} (ht : Ticks o s')
    (h : Excused B s' s fault) : Excused B o s fault := by
  cases fault with
  | clientLost _ =>
    intro hcounted
    refine h ?_
    have := ht.later.writes
    omega
  | broken b => exact h
  | clientUnreadable _ | bridgeMissing => exact h.elim

/-! ## The rules -/

section Rules

variable {B B' : Breakdown → Session → Prop} {a : EStateM Fault Session α}
  {f : α → EStateM Fault Session β} {P : α → Session → Prop} {Q : β → Session → Prop}
  {Q' : α → Session → Prop}

theorem goes_pure {x : α} (ht : Ticks o s) (h : P x s) : GoesOr B o (pure x) s P := ⟨ht, h⟩

/-- What comes after an operation starts afresh from its last state. -/
theorem goes_bindOr (ha : GoesOr B o a s P)
    (hf : ∀ x s', Ticks o s' → P x s' → GoesOr B s' (f x) s' Q) :
    GoesOr B o (a >>= f) s Q := by
  unfold GoesOr at ha
  show GoesOr B o (EStateM.bind a f) s Q
  unfold GoesOr EStateM.bind
  cases hr : a s with
  | error fault s' =>
    rw [hr] at ha
    exact ha
  | ok x s' =>
    rw [hr] at ha
    obtain ⟨ht, hx⟩ := ha
    have hnext := hf x s' ht hx
    unfold GoesOr at hnext
    dsimp only
    cases hr' : f x s' with
    | ok y s'' =>
      rw [hr'] at hnext
      exact ⟨ht.trans hnext.1, hnext.2⟩
    | error fault s'' =>
      rw [hr'] at hnext
      exact ⟨ht.trans hnext.1, hnext.2.earlier ht⟩

theorem goes_mono_or (ha : GoesOr B o a s P) (h : ∀ x s', Ticks o s' → P x s' → Q' x s')
    (hB : ∀ b s', Ticks o s' → B b s' → B' b s') : GoesOr B' o a s Q' := by
  unfold GoesOr at ha ⊢
  split <;> rename_i heq <;> rw [heq] at ha
  · exact ⟨ha.1, h _ _ ha.1 ha.2⟩
  · exact ⟨ha.1, ha.2.mono fun b => hB b _ ha.1⟩

/-- What never breaks down, as a part of what may. -/
theorem goes_last (ha : Goes o a s P) (h : ∀ x s', Ticks o s' → P x s' → Q' x s') :
    GoesOr B o a s Q' :=
  goes_mono_or ha h fun _ _ _ hB => hB.elim

theorem goes_bind (ha : Goes o a s P)
    (hf : ∀ x s', Ticks o s' → P x s' → GoesOr B s' (f x) s' Q) : GoesOr B o (a >>= f) s Q :=
  goes_bindOr (goes_last ha fun _ _ _ h => h) hf

theorem goes_mono (ha : GoesOr B o a s P) (h : ∀ x s', Ticks o s' → P x s' → Q' x s') :
    GoesOr B o a s Q' :=
  goes_mono_or ha h fun _ _ _ hB => hB

theorem goes_get {f : Session → EStateM Fault Session β} (h : GoesOr B o (f s) s Q) :
    GoesOr B o (get >>= f) s Q := h

theorem goes_set_bind {f : PUnit → EStateM Fault Session β} (h : GoesOr B o (f ⟨⟩) s' Q) :
    GoesOr B o (set s' >>= f) s Q := h

theorem goes_modify_bind {g : Session → Session} {f : Unit → EStateM Fault Session β}
    (h : GoesOr B o (f ()) (g s) Q) : GoesOr B o (modify g >>= f) s Q := h

theorem goes_set (ht : Ticks o s') : Goes o (set s') s fun _ s'' => s'' = s' := ⟨ht, rfl⟩

theorem goes_modify {Q : Unit → Session → Prop} {g : Session → Session} (ht : Ticks o (g s))
    (h : Q () (g s)) : GoesOr B o (modify g) s Q := ⟨ht, h⟩

theorem goes_throw {b : Breakdown} (ht : Ticks o s) (h : B b s) :
    GoesOr B o (throw (.broken b)) s P := ⟨ht, h⟩

end Rules

/-! ## Writes -/

theorem write_eq (origin : Origin) (data : Bytes) (s : Session) :
    write origin data s =
      match s.refusal? with
      | some reason => .error (.clientLost reason) (s.wrote false origin data)
      | none => .ok () (s.wrote true origin data) := by
  unfold write
  show (match s.refusal? with
    | some reason => throw (.clientLost reason)
    | none => modify (·.emit (.output origin data)) : Act) { s with writes := s.writes + 1 } = _
  cases s.refusal? <;> rfl

theorem not_delivered_wrote {origin : Origin} {data : Bytes} (h : s.outputs ≤ s.writes) :
    ¬ (s.wrote false origin data).Delivered := by
  intro hd
  have heq : s.outputs = s.writes + 1 := hd
  omega

/-- A failed write would show. -/
theorem ok_of_delivered {ok : Bool} {origin : Origin} {data : Bytes}
    (hs : s.outputs ≤ s.writes) (hd : (s.wrote ok origin data).Delivered) : ok = true := by
  cases ok with
  | true => rfl
  | false => exact absurd hd (not_delivered_wrote hs)

/-- A write, of which `ht` tells the tick it is part of. -/
theorem goes_write (origin : Origin) (data : Bytes)
    (ht : ∀ ok, (ok = true → s.closed = false) → Ticks o (s.wrote ok origin data))
    (hcounted : o.outputs ≤ o.writes → s.outputs ≤ s.writes) :
    Goes o (write origin data) s fun _ s' => s' = s.wrote true origin data := by
  unfold Goes GoesOr
  rw [write_eq]
  cases h : s.refusal? with
  | some reason =>
    exact ⟨ht false (by simp), fun hc => not_delivered_wrote (hcounted hc)⟩
  | none =>
    refine ⟨ht true fun _ => ?_, rfl⟩
    unfold refusal? at h
    split at h
    · cases h
    · rename_i hc
      simpa using hc

theorem news_wrote (origin : Origin) (data : Bytes) :
    (s.wrote true origin data).news =
      if (Effect.output origin data).isNews then .output origin data :: s.news else s.news := by
  unfold wrote
  rw [if_pos rfl, news_emit]
  rfl

/-- The modem writes something of its own. -/
theorem goes_say (data : Bytes) :
    Goes s (write .modem data) s fun _ s' => s' = s.wrote true .modem data :=
  goes_write .modem data (fun ok hok => .single (.write ok data hok)) id

-- From here on only the rules are used; unfolding would run the operations.
attribute [irreducible] GoesOr

/-! ## What an operation on the side leaves alone -/

/-- Nothing has changed but the log, the counts of cues and writes, and that the session may be
closed. -/
structure Aside (s s' : Session) : Prop where
  mode : s'.mode = s.mode
  typed : s'.typed = s.typed
  current : s'.current = s.current
  held : s'.held = s.held
  connects : s'.connects = s.connects
  answer : s'.lastAnswer? = s.lastAnswer?
  news : s'.news = s.news

theorem Aside.refl (s : Session) : Aside s s := ⟨rfl, rfl, rfl, rfl, rfl, rfl, rfl⟩

theorem Aside.trans (h : Aside s s') (h' : Aside s' s'') : Aside s s'' where
  mode := h'.mode.trans h.mode
  typed := h'.typed.trans h.typed
  current := h'.current.trans h.current
  held := h'.held.trans h.held
  connects := h'.connects.trans h.connects
  answer := h'.answer.trans h.answer
  news := h'.news.trans h.news

theorem lastAnswer?_wrote (ok : Bool) (origin : Origin) (data : Bytes) :
    (s.wrote ok origin data).lastAnswer? = s.lastAnswer? := by
  cases ok with
  | true => exact lastAnswer?_emit rfl
  | false => rfl

theorem aside_wrote {data : Bytes} (h : (Effect.output .modem data).isNews = false) :
    Aside s (s.wrote true .modem data) := by
  refine ⟨rfl, rfl, rfl, rfl, rfl, lastAnswer?_wrote .., ?_⟩
  rw [news_wrote, h]
  rfl

theorem aside_emit {e : Effect} (h : e.isNews = false) (hroute : e.route? = none) :
    Aside s (s.emit e) := by
  refine ⟨rfl, rfl, rfl, rfl, rfl, lastAnswer?_emit hroute, ?_⟩
  rw [news_emit, h]
  rfl

theorem aside_onBridge (s : Session) (i : Nat) (op : Bridge → Bridge.Turn) :
    Aside s (s.onBridge i op) := by
  obtain ⟨-, heq⟩ | ⟨b, -, heq⟩ := onBridge_cases (s := s) i op
  · rw [heq]
    exact .refl s
  · have hnews := news_absorb (s := s) (i := i) (op b)
    have hanswer := lastAnswer?_absorb (s := s) (i := i) (op b)
    rw [heq]
    rw [absorb_eq] at hnews hanswer ⊢
    exact ⟨rfl, rfl, rfl, rfl, rfl, hanswer, hnews⟩

end DialUp.Session
