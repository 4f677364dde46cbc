import DialUp.Proofs.Session.Twins

/-!
# Echo is only a matter of display

Whether a session echoes what is typed shows in nothing but the echoes. Every operation does the
same to twins, so twins stay twins over a whole run, and what the client gets without the echoes is
part of what it gets with them.

* `agrees_dial`, `agrees_execute`, `agrees_typeByte`: so for everything that a typed byte can lead
  to;
* `agrees_call`: so for every call;
* `echo_only_shows`: and for a run, as long as the client takes what is written to it.
-/

namespace DialUp.Session

variable {s t : Session} {α : Type}

/-! ## Dialing -/

theorem fair_writeText (text : String) : Fair (writeText text) := fair_write _ _

theorem fair_tell (notice : Notice) : Fair (tell notice) := fair_modify (blind_emit _)

theorem fair_enter (mode : Mode) : Fair (enter mode) := fair_modify (blind_enter mode)

theorem fair_complain (name : String) : Fair (complain name) := by
  refine fair_get (fun _ _ _ _ => rfl) fun s => ?_
  split
  · split
    · exact fair_tell _
    · exact fair_pure _
  · exact fair_pure _

theorem fair_play (name : String) : Fair (play name) := by
  refine fair_update (blind_cued name) (fun _ _ _ _ => rfl) fun s => ?_
  refine fair_bind (fair_complain name) fun _ => ?_
  split
  · exact fair_modify blind_close
  · exact fair_pure _

theorem fair_playItems (items : List DialTones.Item) : Fair (playItems items) := by
  induction items with
  | nil => exact fair_pure _
  | cons item rest ih =>
    refine fair_bind ?_ fun _ => ih
    cases item with
    | cue name => exact fair_play name
    | pause _ => exact fair_pure _

theorem fair_playTones (timing : DialTones.Timing) (number : List Char) :
    Fair (playTones timing number) := by
  induction number with
  | nil => exact fair_pure _
  | cons c rest ih =>
    refine fair_get (fun _ _ _ _ => rfl) fun s => ?_
    split
    · exact fair_bind (fair_playItems _) fun _ => ih
    · exact fair_pure _

theorem fair_announce (entry : Entry) : Fair (announce entry) := by
  unfold announce
  split
  · split
    · exact fair_play _
    · exact fair_pure _
  · exact fair_pure _

theorem fair_connect (route : Route) : Fair (connect route) := by
  intro s t h
  have called := h.blind (blind_called route s)
  have hscript : t.around.network t.connects route = s.around.network s.connects route :=
    Shared.twin (f := fun s => s.around.network s.connects route) (fun _ _ _ _ => rfl) h
  rw [connect_apply, connect_apply, afterConnect, afterConnect, called.closed, hscript]
  dsimp only
  split
  · exact .error (called.blind (blind_settle _ _ _ _))
  · exact .ok (called.blind (blind_settle _ _ _ _))

theorem fair_dialRoute (route : Route) : Fair (dialRoute route) := by
  refine fair_bind (fair_connect route) fun live => ?_
  split
  · refine fair_bind (fair_play _) fun _ => fair_bind (fair_play _) fun _ => ?_
    exact fair_bind (fair_enter _) fun _ => fair_writeText _
  · refine fair_bind (fair_play _) fun _ => fair_bind (fair_enter _) fun _ => ?_
    exact fair_bind (fair_writeText _) fun _ => fair_tell _

theorem fair_sayEnter (text : String) (mode : Mode) : Fair (do writeText text; enter mode) :=
  fair_bind (fair_writeText text) fun _ => fair_enter mode

theorem fair_dialEntry (entry : Entry) : Fair (dialEntry entry) := by
  refine fair_bind (fair_announce entry) fun _ => ?_
  split
  · refine fair_bind (fair_enter _) fun _ => fair_bind (fair_play _) fun _ => ?_
    exact fair_sayEnter _ _
  · split
    · exact fair_bind (fair_tell _) fun _ => fair_sayEnter _ _
    · exact fair_dialRoute _

/-- **Twins dial alike.** -/
theorem fair_dial (number : String) : Fair (dial number) := by
  have dropped : Blind fun s => if s.current.isSome then s.dropConnection else s :=
    blind_ite (fun _ _ _ _ => rfl) blind_dropConnection blind_id
  refine fair_bind (fair_modify dropped) fun _ => fair_bind (fair_enter _) fun _ => ?_
  refine fair_bind (fair_play _) fun _ => fair_bind (fair_playTones _ _) fun _ => ?_
  refine fair_get (fun _ _ _ _ => rfl) fun s => ?_
  split
  · refine fair_bind (fair_tell _) fun _ => fair_bind (fair_play _) fun _ => ?_
    exact fair_sayEnter _ _
  · exact fair_dialEntry _

/-! ## Online -/

theorem fair_flush (number : Nat) (chunks : List Bytes) : Fair (flush number chunks) := by
  induction chunks with
  | nil => exact fair_pure _
  | cons chunk rest ih =>
    have taken : Blind (·.unhold chunk rest) := fun _ => ⟨rfl, [], fun _ _ _ => rfl⟩
    exact fair_bind (fair_modify taken) fun _ => fair_bind (fair_write _ _) fun _ => ih

theorem fair_goOnline : Fair goOnline := by
  refine fair_get (fun _ _ _ _ => rfl) fun s => ?_
  split
  · exact fair_pure _
  · split
    · exact fair_bind (fair_enter _) fun _ => fair_flush _ _
    · exact fair_pure _

theorem fair_forward (data : Bytes) : Fair (forward data) := by
  unfold forward
  split
  · exact fair_bind (fair_enter _) fun _ => fair_writeText _
  · intro s t h
    rw [get_apply, get_apply, Shared.twin (f := Session.current) (fun _ _ _ _ => rfl) h,
      h.closed]
    cases s.current with
    | none => exact .error h
    | some i => exact .ok (h.blind (blind_onBridge i _ s))

theorem fair_loseConnection : Fair loseConnection := by
  have ended : Blind fun s => ({ s with current := none }.clearHeld : Session) :=
    fun _ => ⟨rfl, [], fun _ _ _ => rfl⟩
  refine fair_update ended (fun _ _ _ _ => rfl) fun s => ?_
  split
  · exact fair_bind (fair_enter _) fun _ => fair_writeText _
  · exact fair_pure _

theorem fair_handleFirst (event : Nat × Signal) : Fair (handleFirst event) := by
  have dequeued : Blind fun s => { s with queue := s.queue.drop 1 } :=
    fun _ => ⟨rfl, [], fun _ _ _ => rfl⟩
  refine fair_bind (fair_modify dequeued) fun _ => fair_get (fun _ _ _ _ => rfl) fun s => ?_
  split
  · split
    · split
      · exact fair_write _ _
      · exact fair_modify (blind_hold _ _)
    · exact fair_loseConnection
  · exact fair_pure _

theorem fair_handleAll (events : List (Nat × Signal)) : Fair (handleAll events) := by
  induction events with
  | nil => exact fair_pure _
  | cons event rest ih => exact fair_bind (fair_handleFirst event) fun _ => ih

/-! ## Typing -/

/-- The flag itself is set in both. -/
theorem fair_setEcho (enabled : Bool) : Fair (execute (.setEcho enabled)) := by
  intro s t h
  obtain ⟨⟨echo, writes, log, rfl⟩, -, hlog, hbehind, hserved⟩ := h
  exact .ok ⟨⟨enabled, writes, log, rfl⟩, id, hlog, hbehind, hserved⟩

theorem fair_execute (intent : Intent) : Fair (execute intent) := by
  cases intent with
  | reset | hangUp => exact fair_modify blind_dropConnection
  | setEcho enabled => exact fair_setEcho enabled
  | setVerbose enabled => exact fair_modify fun _ => ⟨rfl, [], fun _ _ _ => rfl⟩
  | escape => exact fair_modify (blind_ite (fun _ _ _ _ => rfl) (blind_enter .command) blind_id)
  | goOnline => exact fair_goOnline
  | dial number => exact fair_dial number
  | acknowledge => exact fair_pure _

theorem fair_respond (response : Response) : Fair (respond response) := by
  unfold respond
  split
  · exact fair_pure _
  · exact fair_writeText _

theorem fair_handleLine (line : String) : Fair (handleLine line) := by
  refine fair_bind (fair_respond _) fun _ => ?_
  split
  · exact fair_execute _
  · exact fair_pure _

/-- **Twins take a typed byte alike**, but for its echo. -/
theorem fair_typeByte (byte : UInt8) : Fair (typeByte byte) := by
  intro s t h
  have typed : ∀ typed, Twin { s with typed } { t with typed } :=
    fun typed => h.blind (f := fun s => { s with typed }) ⟨rfl, [], fun _ _ _ => rfl⟩
  have htyped : t.typed = s.typed := Shared.twin (f := Session.typed) (fun _ _ _ _ => rfl) h
  rw [typeByte_apply, typeByte_apply, htyped]
  split
  · split
    · have ended : IsEcho [0x0D, 0x0A] := .inr (.inl rfl)
      exact fair_bind (fair_echoBack ended) (fun _ => fair_handleLine _) (typed [])
    · exact .ok h
  · split
    · split
      · exact fair_echoBack (.inr (.inr rfl)) (typed _)
      · exact .ok h
    · split
      · rename_i hprintable
        obtain ⟨hlow, hhigh⟩ := (Bool.and_eq_true _ _).mp hprintable
        exact fair_echoBack (.inl ⟨byte, of_decide_eq_true hlow, of_decide_eq_true hhigh, rfl⟩)
          (typed _)
      · exact .ok h

theorem fair_feedBytes (data : Bytes) : Fair (feedBytes data) := by
  induction data with
  | nil => exact fair_pure _
  | cons byte rest ih =>
    refine fair_get (fun _ _ _ _ => rfl) fun s => ?_
    split
    · exact fair_forward _
    · exact fair_bind (fair_typeByte byte) fun _ => ih

theorem fair_feed (data : Bytes) : Fair (feed data) := by
  refine fair_get (fun _ _ _ _ => rfl) fun s => ?_
  split
  · exact fair_forward data
  · exact fair_feedBytes data

/-! ## Runs -/

/-- **Twins take a call alike.** -/
theorem fair_call (call : Call) : Fair call.act := by
  cases call with
  | feed data => exact fair_feed data
  | events => exact fair_get (fun _ _ _ _ => rfl) fun s => fair_handleAll _
  | remote i actions =>
    refine fair_modify fun s => ?_
    exact (blind_onBridge i (·.act s.closed actions) s).congr fun _ _ _ => rfl
  | close => exact fair_modify blind_close

/-- **No call of the run has lost its client**: what was written to the client was taken. -/
def served (s : Session) : List Call → Bool
  | [] => true
  | call :: rest => !losesClient (call.act s) && (left call.act s).served rest

/-- Where the first operation has not lost its client, the second has not, and they leave twins. -/
theorem Agrees.twin {a b : EStateM Fault Session α} (h : Agrees (a s) (b t))
    (hserved : losesClient (a s) = false) :
    losesClient (b t) = false ∧ Twin (left a s) (left b t) := by
  unfold left
  generalize a s = r at h hserved
  generalize b t = r' at h
  cases h with
  | lost => cases hserved
  | ok h => exact ⟨rfl, h⟩
  | @error fault _ _ h => exact ⟨by cases fault <;> exact hserved, h⟩

/-- **Twins stay twins over a run.** -/
theorem Twin.after {calls : List Call} (h : Twin s t) (hserved : s.served calls = true) :
    t.served calls = true ∧ Twin (s.after calls) (t.after calls) := by
  induction calls generalizing s t with
  | nil => exact ⟨rfl, h⟩
  | cons call rest ih =>
    obtain ⟨hcall, hrest⟩ := (Bool.and_eq_true _ _).mp hserved
    obtain ⟨hserved', htwin⟩ := (fair_call call h).twin ((Bool.not_eq_true' _).mp hcall)
    obtain ⟨hrest', hafter⟩ := ih htwin hrest
    refine ⟨?_, hafter⟩
    show (!losesClient (call.act t) && (left call.act t).served rest) = true
    rw [hserved', hrest']
    rfl

/-! ## What the client gets -/

/-- The bytes that an effect gives the client. -/
def Effect.shown : Effect → Bytes
  | .output _ data => data
  | _ => []

/-- All that the client got, in order. -/
def shown (s : Session) : Bytes := s.log.reverse.flatMap Effect.shown

/-- Without some echoes, the client gets part of what it got. -/
theorem Unechoed.shown {log log' : List Effect} (h : Unechoed log log') :
    (log'.reverse.flatMap Effect.shown).Sublist (log.reverse.flatMap Effect.shown) := by
  induction h with
  | nil => exact .slnil
  | same e _ ih =>
    rw [List.reverse_cons, List.reverse_cons, List.flatMap_append, List.flatMap_append]
    exact ih.append (.refl _)
  | echo _ _ ih =>
    rw [List.reverse_cons, List.flatMap_append]
    exact ih.trans (List.sublist_append_left _ _)

/-- All else that was done is the same. -/
theorem Unechoed.others {log log' : List Effect} (h : Unechoed log log') :
    log'.filter (!·.isOutput) = log.filter (!·.isOutput) := by
  induction h with
  | nil => rfl
  | same e _ ih => rw [List.filter_cons, List.filter_cons, ih]
  | echo _ _ ih => exact ih

/-- **Echo is only a matter of display.** Of two sessions that differ in nothing but the echo flag,
in whatever state, let both go through the same calls, and let the client of the one that echoes
take all that it is given. Then the other client does so too, and the sessions still differ in
nothing but the flag, the number of writes and the log: so they have the same mode, line being
typed, held bytes, signals and bridges, with the same bytes on every line. Apart from what the
clients were given, they have done the same, the cues and connects included. What the clients got
differs only by echoes, which one of them got more. -/
theorem echo_only_shows (s : Session) (calls : List Call)
    (h : served { s with echo := true } calls = true) :
    let on := after { s with echo := true } calls
    let off := after { s with echo := false } calls
    served { s with echo := false } calls = true ∧
    off = { on with echo := off.echo, writes := off.writes, log := off.log } ∧
    off.log.filter (!·.isOutput) = on.log.filter (!·.isOutput) ∧
    Unechoed on.log off.log ∧ off.shown.Sublist on.shown := by
  intro on off
  obtain ⟨hserved, htwin⟩ := (twin_silenced { s with echo := true }).after h
  have hsame : off = { on with echo := off.echo, writes := off.writes, log := off.log } := by
    obtain ⟨echo, writes, log, heq⟩ := htwin.same
    have heq : off = { on with echo, writes, log } := heq
    rw [heq]
  exact ⟨hserved, hsame, htwin.log.others, htwin.log, htwin.log.shown⟩

/-- A dial with data behind it, remote data while the client is in command mode, both switches of
the echo, and a line with a correction in it that goes back online. -/
def echoedCalls : List Call :=
  [.feed (Bytes.ofText "ATD1\rHi"), .events, .feed escapeBytes, .remote 0 [.deliver [0x62]],
    .events, .feed (Bytes.ofText "ATE1\rATE0\rATH" ++ [0x08]), .feed (Bytes.ofText "O\r"), .events]

/-- The first command and the second are echoed to one client, what is typed between the switches
to both, and what comes after them to none. -/
theorem echo_only_shows_switched :
    let s := start someSettings someSurroundings
    let on := after { s with echo := true } echoedCalls
    let off := after { s with echo := false } echoedCalls
    (served { s with echo := true } echoedCalls = true ∧ on.received 0 = Bytes.ofText "Hi" ∧
      on.mode = .connected ∧ on.shown.length = off.shown.length + 12) ∧
    served { s with echo := false } echoedCalls = true ∧
    off = { on with echo := off.echo, writes := off.writes, log := off.log } ∧
    off.log.filter (!·.isOutput) = on.log.filter (!·.isOutput) ∧
    Unechoed on.log off.log ∧ off.shown.Sublist on.shown :=
  ⟨by decide +kernel, echo_only_shows (start someSettings someSurroundings) echoedCalls
    (by decide +kernel)⟩

end DialUp.Session
