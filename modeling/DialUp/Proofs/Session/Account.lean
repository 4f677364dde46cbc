import Mathlib.Data.List.Basic
import DialUp.Session.Typing
import DialUp.Proofs.Bridge

/-!
# What the log of a session says

Readings of a session that the statements about its runs are made of: which writes succeeded
(`Delivered`), which remote bytes the client got or missed (`relayed`, `dropped`, and `passed` for
both in order), which are still on their way (`queued`), how often the modem itself wrote
`NO CARRIER` (`noCarriers`), and what the last connect was answered (`lastAnswer?`). Of these, the
result codes and the dropped bytes are `news`: few operations make any.
-/

namespace DialUp.Session

variable {s s' : Session} {i : Nat}

/-! ## Effects -/

/-- Bytes for the client. -/
def Effect.isOutput : Effect → Bool
  | .output .. => true
  | _ => false

/-- The bytes of bridge `i` that the client gets by an effect. -/
def Effect.given (i : Nat) : Effect → Bytes
  | .output (.line j) data => if j = i then data else []
  | _ => []

/-- The bytes of bridge `i` that are dropped by an effect. -/
def Effect.denied (i : Nat) : Effect → Bytes
  | .dropped j data => if j = i then data else []
  | _ => []

/-- The result code of a dial that failed or of a connection that was lost. -/
def Effect.noCarrier : Effect := .output .modem (Bytes.ofText "NO CARRIER\r\n")

/-- Dropped bytes, and the result code `NO CARRIER`. -/
def Effect.isNews : Effect → Bool
  | .output .modem data => data == Bytes.ofText "NO CARRIER\r\n"
  | .dropped .. => true
  | _ => false

/-- An effect that neither gives nor denies the client anything, and is no connect. -/
def Effect.Quiet : Effect → Prop
  | .output .. | .dropped .. | .connect .. => False
  | .cue .. | .audioStopped | .clientClosed | .audioClosed | .notice _ => True

/-- The route of a connect. -/
def Effect.route? : Effect → Option Route
  | .connect route _ _ => some route
  | _ => none

theorem Effect.Quiet.route? {e : Effect} (h : e.Quiet) : e.route? = none := by
  cases e with
  | connect => exact h.elim
  | _ => rfl

/-! ## Readings of a session -/

/-- How many writes to the client have succeeded. -/
def outputs (s : Session) : Nat := s.log.countP Effect.isOutput

/-- **Every write to the client so far has succeeded.** -/
def Delivered (s : Session) : Prop := s.outputs = s.writes

instance (s : Session) : Decidable s.Delivered := inferInstanceAs (Decidable (_ = _))

/-- How often the modem itself wrote `NO CARRIER`. -/
def noCarriers (s : Session) : Nat := s.log.count Effect.noCarrier

/-- The result codes `NO CARRIER` and the drops so far, the last one first. -/
def news (s : Session) : List Effect := s.log.filter Effect.isNews

/-- The bytes of bridge `i` that were written to the client, in order. -/
def relayed (s : Session) (i : Nat) : Bytes := s.log.reverse.flatMap (Effect.given i)

/-- The bytes of bridge `i` that were dropped, in order. -/
def dropped (s : Session) (i : Nat) : Bytes := s.log.reverse.flatMap (Effect.denied i)

/-- The bytes of bridge `i` that were written to the client or dropped, in order. -/
def passed (s : Session) (i : Nat) : Bytes :=
  s.log.reverse.flatMap fun e => e.given i ++ e.denied i

/-- What the network answered to the last connect, if there was one. -/
def lastAnswer? (s : Session) : Option Answer :=
  (s.log.findSome? Effect.route?).map fun route =>
    (s.around.network (s.connects - 1) route).answer

/-- The signals of bridge `i` that wait to be handled. -/
def signalsOf (s : Session) (i : Nat) : List Signal :=
  (s.queue.filter fun event => event.1 == i).map Prod.snd

/-- The bytes of bridge `i` that wait to be handled. -/
def queued (s : Session) (i : Nat) : Bytes := payload (s.signalsOf i)

/-- All bytes that were read from the line of bridge `i`. -/
def taken (s : Session) (i : Nat) : Bytes := (s.bridges[i]?.map Bridge.taken).getD []

/-- Where nothing was dropped, what has passed was written to the client. -/
theorem passed_eq_relayed (h : s.dropped i = []) : s.passed i = s.relayed i := by
  unfold dropped at h
  unfold passed relayed
  refine List.flatMap_congr fun e he => ?_
  rw [List.flatMap_eq_nil_iff.mp h e he, List.append_nil]

/-- All that was dropped is in the news. -/
theorem dropped_eq_news (s : Session) (i : Nat) :
    s.dropped i = s.news.reverse.flatMap (Effect.denied i) := by
  unfold dropped news
  induction s.log with
  | nil => rfl
  | cons e rest ih =>
    cases hnews : e.isNews with
    | true => simp [hnews, ih]
    | false =>
      have hdenied : e.denied i = [] := by
        cases e with
        | dropped => cases hnews
        | _ => rfl
      simp [hnews, hdenied, ih]

theorem noCarriers_eq_news (s : Session) : s.noCarriers = s.news.count Effect.noCarrier :=
  (List.count_filter (by decide)).symm

/-! ## What noting an effect does to them -/

theorem outputs_emit (e : Effect) :
    (s.emit e).outputs = s.outputs + if e.isOutput then 1 else 0 :=
  List.countP_cons

theorem news_emit (e : Effect) :
    (s.emit e).news = if e.isNews then e :: s.news else s.news :=
  List.filter_cons

theorem passed_emit (e : Effect) :
    (s.emit e).passed i = s.passed i ++ (e.given i ++ e.denied i) := by
  simp [passed, emit]

theorem lastAnswer?_emit {e : Effect} (h : e.route? = none) :
    (s.emit e).lastAnswer? = s.lastAnswer? := by
  simp [lastAnswer?, emit, h]

/-! ## Operations on bridges -/

theorem emitAll_eq (es : List Effect) : s.emitAll es = { s with log := es.reverse ++ s.log } := by
  unfold emitAll
  induction es generalizing s with
  | nil => rfl
  | cons e rest ih =>
    rw [List.foldl_cons, ih, emit, List.reverse_cons, List.append_assoc, List.singleton_append]

/-- What a turn of bridge `i` leaves behind, once that is all noted. -/
theorem absorb_eq (turn : Bridge.Turn) : s.absorb i turn =
    { s with
      bridges := s.bridges.set i turn.bridge
      queue := s.queue ++ turn.signals.map (i, ·)
      log := (turn.notices.map Effect.notice).reverse ++ s.log } :=
  emitAll_eq _

theorem onBridge_cases (i : Nat) (op : Bridge → Bridge.Turn) :
    (s.bridges[i]? = none ∧ s.onBridge i op = s) ∨
      ∃ b, s.bridges[i]? = some b ∧ s.onBridge i op = s.absorb i (op b) := by
  unfold onBridge
  cases h : s.bridges[i]? with
  | none => exact .inl ⟨rfl, rfl⟩
  | some b => exact .inr ⟨b, rfl, rfl⟩

/-- Notices are nothing to the client. -/
theorem outputs_absorb (turn : Bridge.Turn) : (s.absorb i turn).outputs = s.outputs := by
  rw [absorb_eq]
  simp [outputs, List.countP_append, Effect.isOutput, Function.comp_def]

theorem news_absorb (turn : Bridge.Turn) : (s.absorb i turn).news = s.news := by
  rw [absorb_eq]
  simp [news, List.filter_append, List.filter_eq_nil_iff, Effect.isNews]

theorem lastAnswer?_absorb (turn : Bridge.Turn) :
    (s.absorb i turn).lastAnswer? = s.lastAnswer? := by
  have hnone : ((turn.notices.map Effect.notice).reverse.findSome? Effect.route?) = none := by
    simp [List.findSome?_eq_none_iff, Effect.route?]
  rw [absorb_eq]
  simp [lastAnswer?, List.findSome?_append, hnone]

theorem passed_absorb (j : Nat) (turn : Bridge.Turn) : (s.absorb i turn).passed j = s.passed j := by
  rw [absorb_eq]
  simp [passed, List.flatMap_map, Effect.given, Effect.denied]

/-! ## The signals that wait -/

theorem signalsOf_append {j : Nat} (events : List (Nat × Signal))
    (h : s'.queue = s.queue ++ events) :
    s'.signalsOf j = s.signalsOf j ++ (events.filter fun event => event.1 == j).map Prod.snd := by
  rw [signalsOf, h, List.filter_append, List.map_append]
  rfl

theorem signals_same (i : Nat) (signals : List Signal) :
    ((signals.map (Prod.mk i)).filter fun event => event.1 == i).map Prod.snd = signals := by
  simp [List.filter_map, Function.comp_def]

theorem signals_other {j : Nat} (hj : j ≠ i) (signals : List Signal) :
    ((signals.map (Prod.mk i)).filter fun event => event.1 == j).map Prod.snd = [] := by
  simp [List.filter_map, Function.comp_def, hj.symm]

end DialUp.Session
