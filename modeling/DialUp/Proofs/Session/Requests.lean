import DialUp.Proofs.Session.Record
import DialUp.Proofs.Session.Undelivered

/-!
# What a session asks the network for

A session connects only when it dials, and then to the endpoint that its phonebook gives for the
number, with the deadline that it was set up with. No write to the client lies between the command
of a dial and its connect, so nothing can keep the one from leading to the other.

`Asked new s s'` tells which connects were made on the way from `s` to `s'`.

* `asked_dial`: a dial makes one connect, or none if its number has no endpoint;
* `Moment.asked`: no move but a dial makes any;
* `Path.asked`: so all connects of a run are permitted by what the session was set up with.
-/

namespace DialUp

/-- The endpoint of an entry, if it has one that can be read. -/
def Entry.endpoint? (entry : Entry) : Option Route :=
  (entry.route.filter (!·.isEmpty)).bind fun text => (Route.parse text).toOption

/-- The endpoint of the entry that answers to a number. -/
def Phonebook.endpoint? (book : Phonebook) (number : String) : Option Route :=
  (book.resolve (normalize number)).bind Entry.endpoint?

/-- An endpoint is that of an entry of the phonebook. -/
theorem Phonebook.mem_of_endpoint? {book : Phonebook} {number : String} {route : Route}
    (h : book.endpoint? number = some route) :
    ∃ entry ∈ book, ∃ text ∈ entry.route, Route.parse text = .ok route := by
  obtain ⟨entry, hentry, h⟩ := Option.bind_eq_some_iff.mp h
  obtain ⟨text, htext, h⟩ := Option.bind_eq_some_iff.mp h
  refine ⟨entry, List.mem_of_find?_eq_some hentry, text, (Option.filter_eq_some_iff.mp htext).1, ?_⟩
  cases hparse : Route.parse text with
  | error fault =>
    rw [hparse] at h
    cases h
  | ok found =>
    rw [hparse] at h
    cases h
    rfl

namespace Session

variable {s s' s'' p : Session} {α β : Type}

/-! ## Connects -/

/-- What a session asks the network for. -/
structure Request where
  route : Route
  timeout : Numeral.Double

/-- The connect that an effect is. -/
def Effect.request? : Effect → Option Request
  | .connect route timeout _ => some ⟨route, timeout⟩
  | _ => none

/-- **The connects of a session**, the last one first. -/
def requests (s : Session) : List Request := s.log.filterMap Effect.request?

theorem mem_requests {route : Route} {timeout : Numeral.Double} {busy : List Nat}
    (h : .connect route timeout busy ∈ s.log) : ⟨route, timeout⟩ ∈ s.requests :=
  List.mem_filterMap.mpr ⟨_, h, rfl⟩

/-- **What a session is set up to ask for.** -/
structure Settings.Permits (settings : Settings) (r : Request) : Prop where
  timeout : r.timeout = settings.connectTimeout
  endpoint : ∃ number, settings.phonebook.endpoint? number = some r.route

/-- The given connects were made since, and the session is set up as it was. -/
structure Asked (new : List Request) (s s' : Session) : Prop where
  settings : s'.settings = s.settings
  requests : s'.requests = new ++ s.requests

variable {new later : List Request}

theorem Asked.refl (s : Session) : Asked [] s s := ⟨rfl, rfl⟩

theorem Asked.trans (h : Asked new s s') (h' : Asked later s' s'') :
    Asked (later ++ new) s s'' where
  settings := h'.settings.trans h.settings
  requests := by rw [h'.requests, h.requests, List.append_assoc]

/-- What comes after a session that has made no connect. -/
theorem Asked.after (h' : Asked new s' s'') (h : Asked [] s s') : Asked new s s'' := by
  have both := h.trans h'
  rwa [List.append_nil] at both

/-- What comes before a session that makes no connect any more. -/
theorem Asked.before (h : Asked new s s') (h' : Asked [] s' s'') : Asked new s s'' := h.trans h'

/-! ## Changes that are no connects -/

theorem asked_emit {e : Effect} (h : e.request? = none) (s : Session) : Asked [] s (s.emit e) :=
  ⟨rfl, List.filterMap_cons_none h⟩

theorem asked_wrote (ok : Bool) (origin : Origin) (data : Bytes) (s : Session) :
    Asked [] s (s.wrote ok origin data) := by
  cases ok with
  | false => exact ⟨rfl, rfl⟩
  | true => exact ⟨rfl, rfl⟩

theorem asked_notices (notices : List Notice) (s : Session) :
    Asked [] s (s.emitAll (notices.map .notice)) := by
  unfold emitAll
  induction notices generalizing s with
  | nil => exact .refl s
  | cons notice rest ih => exact (ih _).after (asked_emit rfl s)

theorem asked_absorb (i : Nat) (turn : Bridge.Turn) (s : Session) :
    Asked [] s (s.absorb i turn) := by
  have noted := asked_notices turn.notices { s with
    bridges := s.bridges.set i turn.bridge
    queue := s.queue ++ turn.signals.map (i, ·) }
  exact ⟨noted.settings, noted.requests⟩

theorem asked_onBridge (i : Nat) (op : Bridge → Bridge.Turn) (s : Session) :
    Asked [] s (s.onBridge i op) := by
  unfold onBridge
  split
  · exact asked_absorb i _ s
  · exact .refl s

theorem asked_hold (i : Nat) (chunk : Bytes) (s : Session) : Asked [] s (s.hold i chunk) := by
  unfold hold
  dsimp only
  split
  · exact ⟨rfl, rfl⟩
  · exact ⟨rfl, rfl⟩

theorem asked_close (s : Session) : Asked [] s s.close := by
  by_cases h : s.closed = true
  · rw [close, if_pos h]
    exact .refl s
  · obtain ⟨_, _, heq⟩ := close_eq (Bool.eq_false_iff.mpr h)
    rw [heq, Settings.farewell]
    cases s.settings.speaker.owned <;> exact ⟨rfl, rfl⟩

theorem asked_dropConnection (s : Session) : Asked [] s s.dropConnection := by
  obtain ⟨_, _, heq⟩ := dropConnection_kept s
  rw [heq]
  exact ⟨rfl, rfl⟩

theorem Chore.asked (h : Chore false s s') : Asked [] s s' := by
  cases h with
  | note e quiet =>
    refine asked_emit ?_ s
    cases e <;> first | exact quiet.elim | rfl
  | say ok data => exact asked_wrote ok _ data s
  | edit => exact ⟨rfl, rfl⟩
  | close => exact asked_close s
  | drop => exact asked_dropConnection s
  | call _ made | settle _ _ _ made => cases made

/-- **Chores that make no calls make no connects.** -/
theorem Chores.asked (h : Chores false s s') : Asked [] s s' :=
  h.keep (P := Asked [] s) (fun hc hs => hs.before hc.asked) (.refl s)

/-! ## Operations one after another -/

theorem asked_bind {a : EStateM Fault Session α} {f : α → EStateM Fault Session β}
    (ha : Asked [] s (left a s)) (hf : ∀ x s', Asked [] s' (left (f x) s')) :
    Asked [] s (left (a >>= f) s) :=
  keep_bind (P := Asked [] s) ha fun x s' h => h.before (hf x s')

theorem asked_write (origin : Origin) (data : Bytes) (s : Session) :
    Asked [] s (left (write origin data) s) := by
  obtain ⟨ok, heq⟩ := left_write origin data s
  rw [heq]
  exact asked_wrote ok origin data s

/-- **An operation that gets ready**: it never fails, and it makes no connect. -/
def Readies (a : EStateM Fault Session α) : Prop :=
  ∀ s, ∃ x s', a s = .ok x s' ∧ Asked [] s s'

theorem readies_bind {a : EStateM Fault Session α} {f : α → EStateM Fault Session β}
    (ha : Readies a) (hf : ∀ x, Readies (f x)) : Readies (a >>= f) := by
  intro s
  obtain ⟨x, s₁, hrun, h₁⟩ := ha s
  obtain ⟨y, s₂, hnext, h₂⟩ := hf x s₁
  exact ⟨y, s₂, by rw [bind_apply, hrun]; exact hnext, h₁.before h₂⟩

theorem readies_get {f : Session → EStateM Fault Session β} (h : ∀ t, Readies (f t)) :
    Readies (get >>= f) :=
  fun s => h s s

/-- What comes after an operation that gets ready makes all the connects. -/
theorem Readies.then {a : EStateM Fault Session α} {f : α → EStateM Fault Session β}
    (ha : Readies a) (hf : ∀ x s', Asked [] s s' → Asked new s' (left (f x) s')) :
    Asked new s (left (a >>= f) s) := by
  obtain ⟨x, s₁, hrun, h₁⟩ := ha s
  rw [left_bind, hrun]
  exact (hf x s₁ h₁).after h₁

theorem readies_pure : Readies (pure () : Act) := fun s => ⟨⟨⟩, s, rfl, .refl s⟩

theorem readies_enter (mode : Mode) : Readies (enter mode) :=
  fun s => ⟨⟨⟩, { s with mode }, rfl, ⟨rfl, rfl⟩⟩

theorem readies_tell (notice : Notice) : Readies (tell notice) :=
  fun s => ⟨⟨⟩, _, rfl, asked_emit rfl s⟩

theorem readies_complain (name : String) : Readies (complain name) := by
  intro s
  obtain hquiet | ⟨notice, htold⟩ := complain_apply name s
  · exact ⟨⟨⟩, s, hquiet, .refl s⟩
  · exact ⟨⟨⟩, _, htold, asked_emit rfl s⟩

theorem readies_play (name : String) : Readies (play name) := by
  intro s
  have cued : Asked [] s (s.cued name) := ⟨rfl, rfl⟩
  have interrupted : Readies (if s.around.interrupts s.cues name then modify close else pure () :
      Act) := by
    split
    · exact fun t => ⟨⟨⟩, t.close, rfl, asked_close t⟩
    · exact readies_pure
  obtain ⟨x, s', hrun, h'⟩ :=
    readies_bind (readies_complain name) (fun _ => interrupted) (s.cued name)
  exact ⟨x, s', hrun, h'.after cued⟩

theorem readies_playItems (items : List DialTones.Item) : Readies (playItems items) := by
  induction items with
  | nil => exact readies_pure
  | cons item rest ih =>
    refine readies_bind ?_ fun _ => ih
    cases item with
    | cue name => exact readies_play name
    | pause _ => exact readies_pure

theorem readies_playTones (timing : DialTones.Timing) (number : List Char) :
    Readies (playTones timing number) := by
  induction number with
  | nil => exact readies_pure
  | cons c rest ih =>
    unfold playTones
    refine readies_get fun t => ?_
    split
    · exact readies_bind (readies_playItems _) fun _ => ih
    · exact readies_pure

theorem readies_announce (entry : Entry) : Readies (announce entry) := by
  unfold announce
  split
  · split
    · exact readies_play _
    · exact readies_pure
  · exact readies_pure

/-! ## A dial -/

theorem asked_adopt (turn : Bridge.Turn) (s : Session) : Asked [] s (s.adopt turn) := by
  unfold adopt
  split
  · exact ⟨(asked_absorb _ turn _).settings, (asked_absorb _ turn _).requests⟩
  · exact asked_notices _ s

theorem asked_settle (live : Bool) (turn : Bridge.Turn) (closesUnrecorded : Bool) (s : Session) :
    Asked [] s (s.settle live turn closesUnrecorded) := by
  refine settle_keep live closesUnrecorded (asked_adopt turn s)
    (fun t h => h.before (asked_close t)) (fun t bridge h => ?_)
    fun _ _ h => ⟨h.settings, h.requests⟩
  cases bridge with
  | none => exact h
  | some number => exact h.before (asked_onBridge number Bridge.disconnect t)

/-- A connect asks for its endpoint, with the deadline that the session was set up with. -/
theorem asked_afterConnect (route : Route) (s : Session) :
    Asked [⟨route, s.settings.connectTimeout⟩] s (s.afterConnect route) := by
  have made : Asked [⟨route, s.settings.connectTimeout⟩] s (s.calling route) := ⟨rfl, rfl⟩
  refine Asked.before ?_ (asked_settle _ _ _ _)
  unfold called
  split
  · exact made.before (asked_close _)
  · exact made

theorem asked_dialRoute (route : Route) (s : Session) :
    Asked [⟨route, s.settings.connectTimeout⟩] s (left (dialRoute route) s) := by
  have asked := asked_afterConnect route s
  unfold dialRoute
  rw [left_bind, connect_apply]
  dsimp only
  cases (Bridge.connect _ _ _ _).2.raised with
  | some => exact asked
  | none =>
    refine asked.before ?_
    dsimp only
    split
    · refine (readies_play _).then fun _ s₂ _ => (readies_play _).then fun _ s₃ _ => ?_
      exact (readies_enter _).then fun _ s₄ _ => asked_write _ _ s₄
    · refine (readies_play _).then fun _ s₂ _ => (readies_enter _).then fun _ s₃ _ => ?_
      exact asked_bind (asked_write _ _ s₃) fun _ s₄ => (chores_tell _ s₄).asked

/-- What is said when a dial has come to nothing. -/
theorem asked_sayEnter (text : String) (mode : Mode) (s : Session) :
    Asked [] s (left (do writeText text; enter mode) s) :=
  asked_bind (asked_write _ _ s) fun _ s₁ => (chores_enter mode s₁).asked

theorem asked_dialEntry (entry : Entry) (s : Session) :
    Asked (entry.endpoint?.toList.map (⟨·, s.settings.connectTimeout⟩)) s
      (left (dialEntry entry) s) := by
  unfold dialEntry
  refine (readies_announce entry).then fun _ s₁ h₁ => ?_
  rw [← h₁.settings, Entry.endpoint?]
  cases entry.route.filter (!·.isEmpty) with
  | none =>
    refine (readies_enter _).then fun _ s₂ _ => (readies_play _).then fun _ s₃ _ => ?_
    exact asked_sayEnter _ _ s₃
  | some text =>
    rw [Option.bind_some]
    dsimp only
    cases Route.parse text with
    | error fault =>
      exact asked_bind (chores_tell _ s₁).asked fun _ s₂ => asked_sayEnter _ _ s₂
    | ok route => exact asked_dialRoute route s₁

/-- **A dial makes one connect**, to the endpoint of the entry that answers to the number, or none
if there is no such entry or endpoint. -/
theorem asked_dial (number : String) (s : Session) :
    Asked ((s.settings.phonebook.endpoint? number).toList.map (⟨·, s.settings.connectTimeout⟩)) s
      (left (dial number) s) := by
  have dropped : Asked [] s (if s.current.isSome then s.dropConnection else s) := by
    split
    · exact asked_dropConnection s
    · exact .refl s
  rw [left_congr (dial_apply number s), ← dropped.settings]
  refine Asked.after ?_ dropped
  unfold dialTone
  refine (readies_enter _).then fun _ s₁ h₁ => (readies_play _).then fun _ s₂ h₂ => ?_
  refine (readies_playTones _ _).then fun _ s₃ h₃ => ?_
  rw [← h₁.settings, ← h₂.settings, ← h₃.settings, left_get, Phonebook.endpoint?]
  cases s₃.settings.phonebook.resolve (Phonebook.normalize number) with
  | none =>
    refine asked_bind (chores_tell _ s₃).asked fun _ s₄ => ?_
    exact (readies_play _).then fun _ s₅ _ => asked_sayEnter _ _ s₅
  | some entry => exact asked_dialEntry entry s₃

/-! ## Moves -/

theorem asked_flush (number : Nat) (chunks : List Bytes) (s : Session) :
    Asked [] s (left (flush number chunks) s) := by
  induction chunks generalizing s with
  | nil => exact .refl s
  | cons chunk rest ih =>
    have taken : Asked [] s (s.unhold chunk rest) := ⟨rfl, rfl⟩
    exact Asked.after (asked_bind (s := s.unhold chunk rest) (asked_write _ _ _) fun _ s₁ => ih s₁)
      taken

theorem asked_goOnline (s : Session) : Asked [] s (left goOnline s) := by
  unfold goOnline
  rw [left_get]
  split
  · exact .refl s
  · split
    · exact (readies_enter _).then fun _ s₁ _ => asked_flush _ _ s₁
    · exact .refl s

/-- **Carrying out a command makes a connect** only if it is a dial, and then as that does. -/
theorem asked_execute (intent : Intent) (s : Session) :
    Asked [] s (left (execute intent) s) ∨
      ∃ number route, intent = .dial number ∧
        s.settings.phonebook.endpoint? number = some route ∧
        Asked [⟨route, s.settings.connectTimeout⟩] s (left (execute intent) s) := by
  cases intent with
  | reset | hangUp => exact .inl (asked_dropConnection s)
  | setEcho | setVerbose | acknowledge => exact .inl ⟨rfl, rfl⟩
  | escape =>
    refine .inl ?_
    show Asked [] s (if s.mode = .connected then { s with mode := .command } else s)
    split <;> exact ⟨rfl, rfl⟩
  | goOnline => exact .inl (asked_goOnline s)
  | dial number =>
    have dialed := asked_dial number s
    cases hendpoint : s.settings.phonebook.endpoint? number with
    | none =>
      rw [hendpoint] at dialed
      exact .inl dialed
    | some route =>
      rw [hendpoint] at dialed
      exact .inr ⟨number, route, rfl, hendpoint, dialed⟩

theorem asked_echoBack (data : Bytes) (s : Session) : Asked [] s (left (echoBack data) s) := by
  show Asked [] s (left (if s.echo then write .modem data else pure ()) s)
  split
  · exact asked_write _ _ s
  · exact .refl s

theorem asked_respond (response : Response) (s : Session) :
    Asked [] s (left (respond response) s) := by
  unfold respond
  split
  · exact .refl s
  · exact asked_write _ _ s

theorem asked_typed (typed : List Char) (s : Session) : Asked [] s { s with typed } := ⟨rfl, rfl⟩

/-- A typed byte that completes no command makes no connect. -/
theorem asked_of_no_intent {byte : UInt8} (h : s.intent? byte = none) :
    Asked [] s (left (typeByte byte) s) := by
  show Asked [] s (left (if _ then (if _ then _ else _) else if _ then (if _ then _ else _)
    else if _ then _ else _ : Act) s)
  split
  · rename_i hend
    split
    · rename_i htyped
      rw [intent?, if_pos (by rw [hend, htyped]; rfl)] at h
      refine asked_bind (asked_typed [] s) fun _ s₁ => ?_
      refine asked_bind (asked_echoBack _ s₁) fun _ s₂ => ?_
      refine asked_bind (asked_respond _ s₂) fun _ s₃ => ?_
      rw [h]
      exact .refl s₃
    · exact .refl s
  · split
    · split
      · exact asked_bind (asked_typed _ s) fun _ s₁ => asked_echoBack _ s₁
      · exact .refl s
    · split
      · exact asked_bind (asked_typed _ s) fun _ s₁ => asked_echoBack _ s₁
      · exact .refl s

/-- A typed byte makes a connect only if it completes the command of a dial. -/
theorem asked_typeByte (byte : UInt8) (s : Session) :
    Asked [] s (left (typeByte byte) s) ∨
      ∃ number route, s.intent? byte = some (.dial number) ∧
        s.settings.phonebook.endpoint? number = some route ∧
        Asked [⟨route, s.settings.connectTimeout⟩] s (left (typeByte byte) s) := by
  cases hintent : s.intent? byte with
  | none => exact .inl (asked_of_no_intent hintent)
  | some intent =>
    have ended : Asked [] s s.lineEnded := by
      unfold lineEnded
      split
      · exact (asked_typed [] s).before (asked_wrote true _ _ _)
      · exact asked_typed [] s
    obtain ⟨-, happly | ⟨reason, writes, hlost | hlost⟩⟩ := typeByte_of_intent hintent
    · rw [left_congr happly]
      generalize (Command.interpret _).response = response
      have answered : Asked [] s (s.answered response) := ended.before (asked_wrote true _ _ _)
      rw [← answered.settings]
      obtain hnone | ⟨number, route, rfl, hendpoint, hasked⟩ :=
        asked_execute intent (s.answered response)
      · exact .inl (hnone.after answered)
      · exact .inr ⟨number, route, rfl, hendpoint, hasked.after answered⟩
    · rw [left_error hlost]
      exact .inl ⟨rfl, rfl⟩
    · rw [left_error hlost]
      exact .inl ⟨ended.settings, ended.requests⟩

theorem asked_forward (data : Bytes) (s : Session) : Asked [] s (left (forward data) s) := by
  obtain ⟨-, ok, heq⟩ | ⟨-, ⟨-, heq⟩ | ⟨i, -, heq⟩⟩ := left_forward data s
  · rw [heq]
    have entered : Asked [] s { s with mode := .command } := ⟨rfl, rfl⟩
    exact entered.before (asked_wrote ok _ _ _)
  · rw [heq]
    exact .refl s
  · rw [heq]
    exact asked_onBridge i _ s

theorem asked_handleFirst (event : Nat × Signal) (s : Session) :
    Asked [] s (left (handleFirst event) s) := by
  have dequeued : Asked [] s { s with queue := s.queue.drop 1 } := ⟨rfl, rfl⟩
  suffices h : Asked [] { s with queue := s.queue.drop 1 }
      (left (handle event) { s with queue := s.queue.drop 1 }) from h.after dequeued
  obtain ⟨-, heq⟩ | ⟨chunk, -, -, ⟨-, heq⟩ | ⟨-, heq⟩⟩ | ⟨-, -, ⟨-, heq⟩ | ⟨-, heq⟩⟩ :=
    handle_cases event { s with queue := s.queue.drop 1 }
  · rw [left_ok heq]
    exact .refl _
  · rw [left_congr heq]
    exact asked_write _ _ _
  · rw [left_ok heq]
    exact asked_hold _ _ _
  · rw [left_congr heq]
    have ended : Asked [] { s with queue := s.queue.drop 1 } ({ s with
        queue := s.queue.drop 1, current := none, mode := .command }.clearHeld) := ⟨rfl, rfl⟩
    exact ended.before (asked_write _ _ _)
  · rw [left_ok heq]
    exact ⟨rfl, rfl⟩

/-! ## Runs -/

/-- **No move but a dial makes a connect**, and that makes one, to the endpoint of its number. -/
theorem Moment.asked (m : Moment) :
    Asked [] m.state m.next ∨
      ∃ byte number route, m.move = .type byte ∧ m.state.intent? byte = some (.dial number) ∧
        m.state.settings.phonebook.endpoint? number = some route ∧
        Asked [⟨route, m.state.settings.connectTimeout⟩] m.state m.next := by
  obtain ⟨s, move⟩ := m
  cases move with
  | type byte =>
    obtain hnone | ⟨number, route, hintent, hendpoint, hasked⟩ := asked_typeByte byte s
    · exact .inl hnone
    · exact .inr ⟨byte, number, route, rfl, hintent, hendpoint, hasked⟩
  | forward data => exact .inl (asked_forward data s)
  | handle event => exact .inl (asked_handleFirst event s)
  | remote i actions => exact .inl (asked_onBridge i _ s)
  | close => exact .inl (asked_close s)

variable {made : List Moment}

/-- **All connects of a path are permitted** by what the session was set up with, which stays. -/
theorem Path.asked (h : Path s made p) :
    ∃ new, Asked new s p ∧ ∀ r ∈ new, s.settings.Permits r := by
  induction h with
  | start => exact ⟨[], .refl s, fun r hr => nomatch hr⟩
  | @step made p move _ _ ih =>
    obtain ⟨new, hasked, hpermits⟩ := ih
    obtain hnone | ⟨byte, number, route, -, -, hendpoint, hone⟩ := Moment.asked ⟨p, move⟩
    · exact ⟨new, hasked.before hnone, hpermits⟩
    · refine ⟨_, hasked.trans hone, List.forall_mem_cons.mpr ⟨?_, hpermits⟩⟩
      rw [← hasked.settings]
      exact ⟨rfl, number, hendpoint⟩

/-- **All connects of a run are permitted** by what the session was set up with. -/
theorem permits_of_connect {settings : Settings} {around : Surroundings} {calls : List Call}
    {n : Nat} {route : Route} {timeout : Numeral.Double} {busy : List Nat}
    (h : .connect route timeout busy ∈ ((start settings around).point calls n).log) :
    settings.Permits ⟨route, timeout⟩ := by
  obtain ⟨new, hasked, hpermits⟩ := (path_point (steady_start settings around) calls n).asked
  have hmem := mem_requests h
  rw [hasked.requests, show (start settings around).requests = [] from rfl, List.append_nil] at hmem
  exact hpermits _ hmem

end Session

end DialUp
