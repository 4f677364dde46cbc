import DialUp.Proofs.Session.Record

/-!
# Two sessions of which one echoes

Two sessions that differ in the echo flag do not stay the same: one writes to the client what the
other does not. What they can differ in is the flag, the number of writes, and echoes in the log.
`Twin s t` says that they differ in nothing else.

Most of what a session does reads none of the three (`Blind`), and keeps twins twins.

An operation is `Fair` if it does the same to twins and leaves twins, or else loses the client of
the first one. There is one rule for each way in which operations are put together.

* `Twin.blind`: a blind change keeps twins twins;
* `fair_write`: whatever the first can write to the client, the second can;
* `fair_echoBack`: an echo of the first one alone is no more than that.
-/

namespace DialUp.Session

variable {s t : Session} {α β : Type}

/-! ## Logs without echoes -/

/-- What the modem echoes: a printable character, the end of a line, or that a character is
erased. -/
def IsEcho (data : Bytes) : Prop :=
  (∃ byte : UInt8, 0x20 ≤ byte ∧ byte < 0x7F ∧ data = [byte]) ∨ data = [0x0D, 0x0A] ∨
    data = [0x08, 0x20, 0x08]

/-- **The second log is the first one without some of its echoes.** -/
inductive Unechoed : List Effect → List Effect → Prop
  | nil : Unechoed [] []
  | same (e : Effect) {log log' : List Effect} (h : Unechoed log log') :
      Unechoed (e :: log) (e :: log')
  | echo {data : Bytes} (hdata : IsEcho data) {log log' : List Effect} (h : Unechoed log log') :
      Unechoed (.output .modem data :: log) log'

theorem Unechoed.refl (log : List Effect) : Unechoed log log := by
  induction log with
  | nil => exact .nil
  | cons e log ih => exact .same e ih

theorem Unechoed.append {log log' : List Effect} (h : Unechoed log log') (new : List Effect) :
    Unechoed (new ++ log) (new ++ log') := by
  induction new with
  | nil => exact h
  | cons e new ih => exact .same e ih

/-! ## Twins -/

/-- **The second session is like the first one, but for echoes** that it has not written. -/
structure Twin (s t : Session) : Prop where
  same : ∃ echo writes log, t = { s with echo, writes, log }
  echo : t.echo = true → s.echo = true
  log : Unechoed s.log t.log
  behind : t.writes ≤ s.writes
  /-- None of the writes by which the second session is behind has failed, or it might fail where
  the first one did not. -/
  served : ∀ n, t.writes ≤ n → n < s.writes → s.around.clientFault n = none

/-- A session that does not echo, beside one that may. -/
theorem twin_silenced (s : Session) : Twin s { s with echo := false } where
  same := ⟨false, s.writes, s.log, rfl⟩
  echo := nofun
  log := .refl s.log
  behind := Nat.le_refl _
  served n hn hn' := absurd hn (by show ¬ s.writes ≤ n; omega)

/-- What is read of a session is the same in its twins. -/
def Shared {β : Sort*} (f : Session → β) : Prop :=
  ∀ s echo writes log, f { s with echo, writes, log } = f s

theorem Shared.twin {β : Sort*} {f : Session → β} (hf : Shared f) (h : Twin s t) : f t = f s := by
  obtain ⟨_, _, _, rfl⟩ := h.same
  exact hf ..

theorem Twin.around (h : Twin s t) : t.around = s.around :=
  Shared.twin (f := Session.around) (fun _ _ _ _ => rfl) h

theorem Twin.closed (h : Twin s t) : t.closed = s.closed :=
  Shared.twin (f := Session.closed) (fun _ _ _ _ => rfl) h

/-! ## Changes that read no echoes -/

/-- **A change that reads neither the echo flag, nor the number of writes, nor the log**, and does
no more to them than to note something. What is around the session stays, as always. -/
def BlindAt (f : Session → Session) (s : Session) : Prop :=
  (f s).around = s.around ∧ ∃ new : List Effect, ∀ echo writes log,
    f { s with echo, writes, log } = { f s with echo, writes, log := new ++ log }

/-- The same, whatever it is done to. -/
def Blind (f : Session → Session) : Prop := ∀ s, BlindAt f s

/-- **A blind change keeps twins twins.** -/
theorem Twin.blind (h : Twin s t) {f : Session → Session} (hf : BlindAt f s) :
    Twin (f s) (f t) := by
  obtain ⟨haround, new, heq⟩ := hf
  have hs : f s = { f s with echo := s.echo, writes := s.writes, log := new ++ s.log } :=
    heq s.echo s.writes s.log
  obtain ⟨⟨echo, writes, log, rfl⟩, hecho, hlog, hbehind, hserved⟩ := h
  rw [heq echo writes log]
  refine ⟨⟨_, _, _, rfl⟩, ?_, ?_, ?_, ?_⟩
  · rw [hs]
    exact hecho
  · rw [hs]
    exact hlog.append new
  · rw [hs]
    exact hbehind
  · rw [haround, hs]
    exact hserved

variable {f g : Session → Session}

/-- A change is blind if it does to `s` and its twins what a blind one does. -/
theorem BlindAt.congr (hg : BlindAt g s)
    (h : ∀ echo writes log, f { s with echo, writes, log } = g { s with echo, writes, log }) :
    BlindAt f s := by
  obtain ⟨haround, new, heq⟩ := hg
  have hs : f s = g s := h s.echo s.writes s.log
  refine ⟨by rw [hs, haround], new, fun echo writes log => ?_⟩
  rw [h, heq, hs]

theorem BlindAt.comp (hf : BlindAt f s) (hg : BlindAt g (f s)) :
    BlindAt (fun s => g (f s)) s := by
  obtain ⟨hfaround, new, hfeq⟩ := hf
  obtain ⟨hgaround, new', hgeq⟩ := hg
  refine ⟨hgaround.trans hfaround, new' ++ new, fun echo writes log => ?_⟩
  dsimp only
  rw [hfeq, hgeq, List.append_assoc]

theorem blind_ite {c : Session → Prop} [DecidablePred c] (hc : Shared c) (hf : Blind f)
    (hg : Blind g) : Blind fun s => if c s then f s else g s := by
  intro s
  by_cases h : c s
  · exact (hf s).congr fun echo writes log => if_pos (by rw [hc s echo writes log]; exact h)
  · exact (hg s).congr fun echo writes log => if_neg (by rw [hc s echo writes log]; exact h)

theorem blind_id : Blind id := fun _ => ⟨rfl, [], fun _ _ _ => rfl⟩

theorem blind_emit (e : Effect) : Blind (·.emit e) := fun _ => ⟨rfl, [e], fun _ _ _ => rfl⟩

theorem blind_enter (mode : Mode) : Blind fun s => { s with mode } :=
  fun _ => ⟨rfl, [], fun _ _ _ => rfl⟩

theorem blind_notices (notices : List Notice) : Blind (·.emitAll (notices.map .notice)) := by
  intro s
  have noted : BlindAt (fun s =>
      { s with log := (notices.map Effect.notice).reverse ++ s.log }) s :=
    ⟨rfl, (notices.map Effect.notice).reverse, fun _ _ _ => rfl⟩
  exact noted.congr fun _ _ _ => emitAll_eq _

theorem blind_absorb (i : Nat) (turn : Bridge.Turn) : Blind (·.absorb i turn) := by
  intro s
  have taken : BlindAt (fun s => { s with
      bridges := s.bridges.set i turn.bridge
      queue := s.queue ++ turn.signals.map (i, ·) }) s := ⟨rfl, [], fun _ _ _ => rfl⟩
  exact taken.comp (blind_notices turn.notices _)

theorem blind_onBridge (i : Nat) (op : Bridge → Bridge.Turn) : Blind (·.onBridge i op) := by
  intro s
  cases hb : s.bridges[i]? with
  | none => exact (blind_id s).congr fun _ _ _ => by simp [onBridge, hb]
  | some b => exact (blind_absorb i (op b) s).congr fun _ _ _ => by simp [onBridge, hb]

theorem blind_endConnection (bridge : Option Nat) : Blind (·.endConnection bridge) := by
  cases bridge with
  | none => exact blind_id
  | some i => exact blind_onBridge i _

theorem blind_closeAudio : Blind Session.closeAudio :=
  blind_ite (fun _ _ _ _ => rfl) (blind_emit .audioClosed) blind_id

theorem blind_close : Blind Session.close := by
  refine blind_ite (fun _ _ _ _ => rfl) blind_id fun s => ?_
  have marked : BlindAt (fun s => { s with closed := true }.emit .audioStopped) s :=
    ⟨rfl, [.audioStopped], fun _ _ _ => rfl⟩
  have ended := marked.comp (blind_endConnection s.current _)
  exact ((ended.comp (blind_emit .clientClosed _)).comp (blind_closeAudio _)).congr
    fun _ _ _ => rfl

theorem blind_dropConnection : Blind Session.dropConnection := by
  intro s
  have cleared : BlindAt (fun s => { s with current := none }.clearHeld) s :=
    ⟨rfl, [], fun _ _ _ => rfl⟩
  exact (cleared.comp (blind_endConnection s.current _)).comp (blind_enter .command _)

theorem blind_keep (held : List Bytes) (heldSize : Nat) :
    Blind fun s => { s with held, heldSize } :=
  fun _ => ⟨rfl, [], fun _ _ _ => rfl⟩

theorem blind_hold (number : Nat) (chunk : Bytes) : Blind (·.hold number chunk) := by
  intro s
  by_cases h : s.settings.heldLimit < s.heldSize + chunk.length
  · generalize hexcess : s.heldSize + chunk.length - s.settings.heldLimit = excess
    have kept := blind_keep (dropOldest excess (s.held ++ [chunk])) s.settings.heldLimit s
    have dropped := kept.comp
      (blind_emit (.dropped number ((s.held ++ [chunk]).flatten.take excess)) _)
    refine (dropped.comp (blind_emit (.notice (overflowNotice s.settings.heldLimit)) _)).congr ?_
    intro _ _ _
    rw [← hexcess]
    exact if_pos h
  · exact (blind_keep (s.held ++ [chunk]) (s.heldSize + chunk.length) s).congr
      fun _ _ _ => if_neg h

theorem blind_cued (name : String) : Blind (·.cued name) := by
  intro s
  have counted : BlindAt (fun s => { s with cues := s.cues + 1 }) s := ⟨rfl, [], fun _ _ _ => rfl⟩
  exact counted.comp (blind_emit (.cue name s.mode) _)

theorem blind_adopt (turn : Bridge.Turn) : Blind (·.adopt turn) := by
  intro s
  cases hline : turn.bridge.line with
  | none => exact (blind_notices turn.notices s).congr fun _ _ _ => by simp [adopt, hline]
  | some line =>
    have appended : BlindAt (fun s => { s with bridges := s.bridges ++ [turn.bridge] }) s :=
      ⟨rfl, [], fun _ _ _ => rfl⟩
    exact (appended.comp (blind_absorb s.bridges.length turn _)).congr
      fun _ _ _ => by simp [adopt, hline]

theorem blind_record (number : Nat) : Blind (·.record number) :=
  fun _ => ⟨rfl, [], fun _ _ _ => rfl⟩

theorem blind_closeUnrecorded (number : Nat) : Blind (·.closeUnrecorded number) := by
  intro s
  exact ((blind_close s).comp (blind_endConnection (some number) _)).congr
    fun _ _ _ => closeUnrecorded_eq _ number

theorem blind_settle (live : Bool) (turn : Bridge.Turn) (closesUnrecorded : Bool) :
    Blind (·.settle live turn closesUnrecorded) := by
  intro s
  have adopted := blind_adopt turn s
  cases live with
  | false => exact adopted.congr fun _ _ _ => rfl
  | true =>
    cases closesUnrecorded with
    | false => exact (adopted.comp (blind_record s.bridges.length _)).congr fun _ _ _ => rfl
    | true =>
      exact ((adopted.comp (blind_closeUnrecorded s.bridges.length _)).comp
        (blind_record s.bridges.length _)).congr fun _ _ _ => rfl

theorem blind_called (route : Route) : Blind (·.called route) := by
  intro s
  have made : BlindAt (·.calling route) s :=
    ⟨rfl, [.connect route s.settings.connectTimeout s.openLines], fun _ _ _ => rfl⟩
  by_cases h : (s.around.network s.connects route).closesSession = true
  · exact (made.comp (blind_close _)).congr fun _ _ _ => by simp [called, h]
  · exact made.congr fun _ _ _ => by simp [called, h]

/-! ## Results that agree -/

/-- **The results of two operations agree**: they come to the same and leave twins, unless the
first one has lost its client. -/
inductive Agrees : EStateM.Result Fault Session α → EStateM.Result Fault Session α → Prop
  | lost {reason : String} {s : Session} {r : EStateM.Result Fault Session α} :
      Agrees (.error (.clientLost reason) s) r
  | ok {x : α} {s t : Session} (h : Twin s t) : Agrees (.ok x s) (.ok x t)
  | error {fault : Fault} {s t : Session} (h : Twin s t) : Agrees (.error fault s) (.error fault t)

/-- **An operation that is fair**: to twins it does the same. -/
def Fair (a : EStateM Fault Session α) : Prop := ∀ ⦃s t⦄, Twin s t → Agrees (a s) (a t)

section Rules

variable {a : EStateM Fault Session α} {k : α → EStateM Fault Session β}

theorem fair_pure (x : α) : Fair (pure x) := fun _ _ h => .ok h

theorem fair_bind (ha : Fair a) (hk : ∀ x, Fair (k x)) : Fair (a >>= k) := by
  intro s t h
  rw [bind_apply, bind_apply]
  have hfirst := ha h
  generalize a s = r at hfirst
  generalize a t = r' at hfirst
  cases hfirst with
  | lost => exact .lost
  | ok h' => exact hk _ h'
  | error h' => exact .error h'

/-- What comes next depends on what is the same in twins. -/
theorem fair_get {k : Session → EStateM Fault Session β} (hshared : Shared k)
    (hk : ∀ s, Fair (k s)) : Fair (get >>= k) := by
  intro s t h
  rw [get_apply, get_apply, hshared.twin h]
  exact hk s h

/-- So it does after a change. -/
theorem fair_update {f : Session → Session} {k : Session → EStateM Fault Session β}
    (hf : Blind f) (hshared : Shared k) (hk : ∀ s, Fair (k s)) :
    Fair (do let s ← get; set (f s); k s) := by
  intro s t h
  show Agrees (k s (f s)) (k t (f t))
  rw [hshared.twin h]
  exact hk s (h.blind (hf s))

theorem fair_modify {f : Session → Session} (hf : Blind f) : Fair (modify f : Act) :=
  fun s _ h => .ok (h.blind (hf s))

end Rules

/-! ## Writes -/

theorem served_of_refusal (h : s.refusal? = none) :
    s.closed = false ∧ s.around.clientFault s.writes = none := by
  unfold refusal? at h
  split at h
  · cases h
  · rename_i hopen
    exact ⟨Bool.eq_false_iff.mpr hopen, h⟩

/-- With its next write, the first session serves one more number. -/
theorem Twin.served_next (h : Twin s t) (hs : s.refusal? = none) (n : Nat) (hn : t.writes ≤ n)
    (hn' : n < s.writes + 1) : s.around.clientFault n = none := by
  by_cases hnext : n = s.writes
  · rw [hnext]
    exact (served_of_refusal hs).2
  · exact h.served n hn (by omega)

/-- What the first session can write, the second can. -/
theorem Twin.refusal? (h : Twin s t) (hs : s.refusal? = none) : t.refusal? = none := by
  rw [Session.refusal?, h.closed, (served_of_refusal hs).1, if_neg (by decide), h.around]
  exact h.served_next hs t.writes (Nat.le_refl _) (Nat.lt_succ_of_le h.behind)

/-- **Both write.** -/
theorem fair_write (origin : Origin) (data : Bytes) : Fair (write origin data) := by
  intro s t h
  rw [write_eq, write_eq]
  cases hs : s.refusal? with
  | some reason => exact .lost
  | none =>
    rw [h.refusal? hs]
    refine .ok ?_
    have hnext := h.served_next hs
    obtain ⟨⟨echo, writes, log, rfl⟩, hecho, hlog, hbehind, -⟩ := h
    exact ⟨⟨echo, writes + 1, .output origin data :: log, rfl⟩, hecho, .same _ hlog,
      Nat.succ_le_succ hbehind, fun n hn hn' => hnext n (Nat.le_of_succ_le hn) hn'⟩

/-- **Only the first one writes**, which is an echo. -/
theorem agrees_echo {data : Bytes} (hdata : IsEcho data) (h : Twin s t) :
    Agrees (write .modem data s) (.ok () t) := by
  rw [write_eq]
  cases hs : s.refusal? with
  | some reason => exact .lost
  | none =>
    refine .ok ?_
    have hnext := h.served_next hs
    obtain ⟨⟨echo, writes, log, rfl⟩, hecho, hlog, hbehind, -⟩ := h
    exact ⟨⟨echo, writes, log, rfl⟩, hecho, .echo hdata hlog, Nat.le_succ_of_le hbehind, hnext⟩

/-- **The first one echoes if the second one does**, and may echo alone. -/
theorem fair_echoBack {data : Bytes} (hdata : IsEcho data) : Fair (echoBack data) := by
  intro s t h
  rw [echoBack_apply, echoBack_apply]
  by_cases ht : t.echo = true
  · rw [if_pos (h.echo ht), if_pos ht]
    exact fair_write _ _ h
  · rw [if_neg ht]
    split
    · exact agrees_echo hdata h
    · exact .ok h

end DialUp.Session
