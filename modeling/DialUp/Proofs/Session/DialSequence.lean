import DialUp.Proofs.Session.Closing
import DialUp.Proofs.Session.LineEnds
import DialUp.Proofs.Session.Requests

/-!
# The dial sequence

All that a dial does, in order. It is answered, an earlier connection is dropped, and the dial tone
and the tones of the digits are played. What comes then is read off the phonebook and the network
beforehand (`Outcome`): the announcement of the entry, and one of five endings, unless the connect
breaks down: then the dial ends there.

Nothing of that is told of a session that is closed meanwhile. Besides that, a dial fails only by a
write that the client does not take, or by its connect.

* `Did`: what an operation leaves of an open session, besides its deeds;
* `Comes`: what comes of an operation that may break down;
* `did_playTones`, `comes_connect`, `comes_dialEntry`, `comes_dialTone`: so for the parts of a dial;
* `Blames`: what fails only by a write or a connect; `missed_of_dial`: so for the line of a dial;
* `dial_sequence`: so for a typed byte that completes the command of a dial.
-/

namespace DialUp

/-- What is noted of an item when it is played. -/
def DialTones.Item.cued? (mode : Mode) : DialTones.Item → Option Session.Effect
  | .cue name => some (.cue name mode)
  | .pause _ => none

namespace Session

variable {s s' s'' : Session}

/-! ## Deeds -/

/-- What was done so far to the client, to the speaker and to the network, in order. Messages to the
operator and dropped bytes are left out. -/
def deeds (s : Session) : List Effect := (s.log.filter (!·.isNote)).reverse

/-- What the modem says. -/
def said (text : String) : Effect := .output .modem (Bytes.ofText text)

theorem deeds_emit {e : Effect} (h : e.isNote = false) (s : Session) :
    (s.emit e).deeds = s.deeds ++ [e] := by
  simp [deeds, emit, h]

theorem deeds_note {e : Effect} (h : e.isNote = true) (s : Session) :
    (s.emit e).deeds = s.deeds := by
  simp [deeds, emit, h]

theorem deeds_notices (s : Session) (notices : List Notice) :
    (s.emitAll (notices.map .notice)).deeds = s.deeds := by
  unfold emitAll
  induction notices generalizing s with
  | nil => rfl
  | cons notice rest ih => exact (ih _).trans (deeds_note rfl s)

theorem deeds_dropConnection (s : Session) : s.dropConnection.deeds = s.deeds := by
  obtain ⟨_, _, heq⟩ := dropConnection_kept s
  rw [heq]
  rfl

/-! ## What an operation leaves -/

/-- **What an operation has done** that leads to a mode: if the session is open still, it has done
nothing but the given deeds. -/
structure Did (mode : Mode) (deeds : List Effect) (s s' : Session) : Prop where
  entered : s'.mode = mode
  same : s'.closed = false → ∃ cues writes log, s' = { s with mode, cues, writes, log }
  deeds : s'.closed = false → s'.deeds = s.deeds ++ deeds

theorem Did.opened {mode : Mode} {deeds : List Effect} (h : Did mode deeds s s')
    (hopen : s'.closed = false) : s.closed = false := by
  obtain ⟨_, _, _, rfl⟩ := h.same hopen
  exact hopen

theorem Did.refl (s : Session) : Did s.mode [] s s :=
  ⟨rfl, fun _ => ⟨_, _, _, rfl⟩, fun _ => (List.append_nil _).symm⟩

theorem Did.trans {mode mode' : Mode} {deeds later : List Effect} (h : Did mode deeds s s')
    (h' : Did mode' later s' s'') : Did mode' (deeds ++ later) s s'' where
  entered := h'.entered
  same hopen := by
    obtain ⟨_, _, _, heq⟩ := h.same (h'.opened hopen)
    obtain ⟨_, _, _, heq'⟩ := h'.same hopen
    subst heq
    exact ⟨_, _, _, heq'⟩
  deeds hopen := by
    rw [h'.deeds hopen, h.deeds (h'.opened hopen), List.append_assoc]

variable {mode mode' : Mode}

theorem did_enter (mode : Mode) (s : Session) :
    Ends (enter mode) s fun _ s' => Did mode [] s s' :=
  ends_left ⟨rfl, fun _ => ⟨_, _, _, rfl⟩, fun _ => (List.append_nil _).symm⟩

theorem did_note (e : Effect) (h : e.isNote = true) (s : Session) : Did s.mode [] s (s.emit e) :=
  ⟨rfl, fun _ => ⟨_, _, _, rfl⟩, fun _ => by rw [deeds_note h, List.append_nil]⟩

theorem did_tell (notice : Notice) (hmode : s.mode = mode) :
    Ends (tell notice) s fun _ s' => Did mode [] s s' := by
  subst hmode
  exact ends_left (did_note _ rfl s)

theorem did_wrote (data : Bytes) (s : Session) :
    Did s.mode [.output .modem data] s (s.wrote true .modem data) :=
  ⟨rfl, fun _ => ⟨_, _, _, rfl⟩, fun _ => deeds_emit rfl { s with writes := s.writes + 1 }⟩

theorem did_say (text : String) (hmode : s.mode = mode) :
    Ends (writeText text) s fun _ s' => Did mode [said text] s s' := by
  subst hmode
  intro x s' heq
  rw [(ends_write .modem _ s x s' heq).1]
  exact did_wrote _ s

/-- A cue is played. If the session is closed meanwhile, nothing is told of it. -/
theorem did_play (name : String) (hmode : s.mode = mode) :
    Ends (play name) s fun _ s' => Did mode [.cue name mode] s s' := by
  subst hmode
  have cued : Did s.mode [.cue name s.mode] s (s.cued name) :=
    ⟨rfl, fun _ => ⟨_, _, _, rfl⟩, fun _ => deeds_emit rfl { s with cues := s.cues + 1 }⟩
  obtain ⟨s₁, hs₁, hplay⟩ := left_play name s
  have h₁ : Did s.mode [.cue name s.mode] s s₁ := by
    obtain rfl | ⟨notice, rfl⟩ := hs₁
    · exact cued
    · exact cued.trans (did_note (.notice notice) rfl (s.cued name))
  refine ends_left ?_
  rw [hplay]
  split
  · have hclosed : s₁.close.closed ≠ false := by simp [closed_close]
    exact ⟨(aside_close s₁).mode.trans h₁.entered, fun h => absurd h hclosed,
      fun h => absurd h hclosed⟩
  · exact h₁

theorem did_playItems (items : List DialTones.Item) (hmode : s.mode = mode) :
    Ends (playItems items) s fun _ s' => Did mode (items.filterMap (·.cued? mode)) s s' := by
  induction items generalizing s with
  | nil =>
    subst hmode
    exact ends_left (.refl s)
  | cons item rest ih =>
    have first : Ends (playItem item) s fun _ s' => Did mode (item.cued? mode).toList s s' := by
      cases item with
      | cue name => exact did_play name hmode
      | pause _ =>
        subst hmode
        exact ends_left (.refl s)
    refine ends_bind first fun _ s₁ h₁ x s' heq => ?_
    have h := h₁.trans (ih h₁.entered x s' heq)
    cases item <;> exact h

/-- The tones of a number: one for each digit, in order. -/
def tones (number : String) : List Effect :=
  (number.toList.filter Text.isDigit).map fun c => .cue (toneCue c.toString) .dialing

/-- **The tones are played to the end**, unless the session is closed meanwhile. -/
theorem did_playTones (timing : DialTones.Timing) (number : List Char) (hmode : s.mode = mode) :
    Ends (playTones timing number) s fun _ s' =>
      Did mode ((number.filter Text.isDigit).map fun c => .cue (toneCue c.toString) mode) s s' := by
  induction number generalizing s with
  | nil =>
    subst hmode
    exact ends_left (.refl s)
  | cons c rest ih =>
    have items : (DialTones.ofChar timing c).filterMap (·.cued? mode) =
        ([c].filter Text.isDigit).map fun c => .cue (toneCue c.toString) mode := by
      unfold DialTones.ofChar
      by_cases hdigit : Text.isDigit c = true
      · simp [hdigit, DialTones.Item.cued?]
      · simp only [hdigit, Bool.false_eq_true, if_false]
        split <;> simp [hdigit, DialTones.Item.cued?]
    unfold playTones
    refine ends_get ?_
    split
    · refine ends_bind (did_playItems _ hmode) fun _ s₁ h₁ x s' heq => ?_
      have h := h₁.trans (ih h₁.entered x s' heq)
      rwa [items, ← List.map_append, ← List.filter_append] at h
    · rename_i hclosed
      have hclosed : s.closed ≠ false := by simpa using hclosed
      exact ends_left ⟨hmode, fun h => absurd h hclosed, fun h => absurd h hclosed⟩

/-! ## Operations that may break down -/

section Comes

variable {α β : Type}

/-- **What comes of an operation**, if it does not lose its client: its result and its last state
satisfy `Q`, or it has broken down and `B` holds. -/
structure Comes (a : EStateM Fault Session α) (s : Session) (Q : α → Session → Prop)
    (B : Breakdown → Session → Prop) : Prop where
  ends : Ends a s Q
  breaks : ∀ b s', a s = .error (.broken b) s' → B b s'

variable {a : EStateM Fault Session α} {f : α → EStateM Fault Session β}
  {P : α → Session → Prop} {Q : β → Session → Prop} {A B : Breakdown → Session → Prop}

theorem comes_bind (ha : Comes a s P A) (hB : ∀ b s', A b s' → B b s')
    (hf : ∀ x s', P x s' → Comes (f x) s' Q B) : Comes (a >>= f) s Q B where
  ends := ends_bind ha.ends fun x s' h => (hf x s' h).ends
  breaks b s'' heq := by
    rw [bind_apply] at heq
    cases hr : a s with
    | ok x s' =>
      rw [hr] at heq
      exact (hf x s' (ha.ends x s' hr)).breaks b s'' heq
    | error fault s' =>
      rw [hr] at heq
      cases heq
      exact hB b s'' (ha.breaks b s'' hr)

/-- The operation never breaks down. -/
def Unbroken (a : EStateM Fault Session α) : Prop := ∀ s b s', a s ≠ .error (.broken b) s'

theorem comes_of_ends (h : Ends a s P) (ha : Unbroken a) : Comes a s P B :=
  ⟨h, fun b s' heq => absurd heq (ha s b s')⟩

/-- What may break down after an operation that never does. -/
theorem comes_after (h : Ends a s P) (ha : Unbroken a) (hf : ∀ x s', P x s' → Comes (f x) s' Q B) :
    Comes (a >>= f) s Q B :=
  comes_bind (comes_of_ends h ha) (fun _ _ hB => hB) hf

theorem comes_get {f : Session → EStateM Fault Session β} (h : Comes (f s) s Q B) :
    Comes (get >>= f) s Q B := ⟨h.ends, h.breaks⟩

theorem Readies.unbroken (ha : Readies a) : Unbroken a := by
  intro s b s' heq
  obtain ⟨x, s₁, hok, -⟩ := ha s
  cases hok.symm.trans heq

theorem unbroken_writeText (text : String) : Unbroken (writeText text) := by
  intro s b s' heq
  obtain ⟨-, hok⟩ | ⟨reason, hlost⟩ := write_outcome .modem (Bytes.ofText text) s
  · cases hok.symm.trans heq
  · cases hlost.symm.trans heq

end Comes

/-! ## Outcomes -/

/-- What a dial comes to. -/
inductive Outcome
  /-- Nobody has the number. -/
  | unknown
  /-- The entry has no route. -/
  | busy
  /-- The entry's route cannot be read. -/
  | malformed
  /-- The remote endpoint cannot be reached. -/
  | refused (route : Route)
  | connected (route : Route)
  /-- The connect breaks down. -/
  | broken (route : Route) (breakdown : Breakdown)
  deriving DecidableEq, Repr

/-- The outcome of dialing an endpoint that answers as given. -/
def Outcome.ofAnswer (route : Route) : Answer → Outcome
  | .refused _ => .refused route
  | .accepted _ => .connected route
  | .broken b => .broken route b

/-- The outcome of dialing an endpoint. -/
def routeOutcome (s : Session) (route : Route) : Outcome :=
  .ofAnswer route (s.around.network s.connects route).answer

/-- The outcome of dialing an entry. -/
def entryOutcome (s : Session) (entry : Entry) : Outcome :=
  match entry.route.filter (!·.isEmpty) with
  | none => .busy
  | some text =>
    match Route.parse text with
    | .error _ => .malformed
    | .ok route => s.routeOutcome route

/-- The outcome of dialing a number, which the first entry that answers to it decides. -/
def outcome (s : Session) (number : String) : Outcome :=
  match s.settings.phonebook.resolve (Phonebook.normalize number) with
  | none => .unknown
  | some entry => s.entryOutcome entry

/-- The announcement of an entry, if it has one. -/
def announced (entry : Entry) : List Effect :=
  (entry.announce.filter (!·.isEmpty)).toList.map (.cue · .dialing)

/-- The announcement of a number. -/
def announcement (s : Session) (number : String) : List Effect :=
  (s.settings.phonebook.resolve (Phonebook.normalize number)).toList.flatMap announced

/-- What is done in the end: cues, a connect with no other line open, and a result code. -/
def Outcome.deeds (timeout : Numeral.Double) : Outcome → List Effect
  | .unknown => [.cue "connect_failed" .dialing, said "NO CARRIER\r\n"]
  | .busy => [.cue "busy" .busy, said "BUSY\r\n"]
  | .malformed => [said "NO CARRIER\r\n"]
  | .refused route =>
    [.connect route timeout [], .cue "connect_failed" .dialing, said "NO CARRIER\r\n"]
  | .connected route =>
    [.connect route timeout [], .cue "modem_noise" .dialing, .cue "connect_success" .dialing,
      said "CONNECT 57600\r\n"]
  | .broken route _ => [.connect route timeout []]

/-- The mode that the session is in then. -/
def Outcome.lastMode : Outcome → Mode
  | .connected _ => .connected
  | .broken .. => .dialing
  | .unknown | .busy | .malformed | .refused _ => .command

/-- The endpoint that the session is connected to. -/
def Outcome.link? : Outcome → Option Route
  | .connected route => some route
  | _ => none

/-- How the connect broke down, if it did. -/
def Outcome.breakdown? : Outcome → Option Breakdown
  | .broken _ b => some b
  | _ => none

/-- With the bridges that there were before, the session is in the mode of the outcome: with a new
bridge to the endpoint that it is connected to, or without any. -/
structure Linked (o : Outcome) (bridges : List Bridge) (s : Session) : Prop where
  mode : s.mode = o.lastMode
  current : s.current = o.link?.map fun _ => bridges.length
  bridges : ∃ new : List Bridge, s.bridges = bridges ++ new ∧
    new.map (·.remote) = o.link?.toList.map (some ·.text)

/-- What a dial that came to an outcome leaves, besides its deeds. -/
structure Came (o : Outcome) (deeds : List Effect) (s s' : Session) : Prop where
  deeds : s'.deeds = s.deeds ++ deeds
  held : s'.held = s.held
  linked : Linked o s.bridges s'

/-- **A dial came to an outcome**, unless the session is closed. It has raised what the connect
broke down with, if it did. -/
def Reached (o : Outcome) (deeds : List Effect) (s : Session) (raised : Option Breakdown)
    (s' : Session) : Prop :=
  s'.closed = false → s.closed = false ∧ o.breakdown? = raised ∧ Came o deeds s s'

/-- What a dial that comes to an outcome comes to. -/
abbrev Dials (a : Act) (s : Session) (o : Outcome) (deeds : List Effect) : Prop :=
  Comes a s (fun _ s' => Reached o deeds s none s') fun b s' => Reached o deeds s (some b) s'

/-- There is no connection, if the session is open. -/
def Free (s : Session) : Prop := s.closed = false → s.current = none ∧ s.openLines = []

theorem Did.free {deeds : List Effect} (h : Did mode deeds s s') (hfree : s.Free) : s'.Free := by
  intro hopen
  have hnone := hfree (h.opened hopen)
  obtain ⟨_, _, _, rfl⟩ := h.same hopen
  exact hnone

/-- A session without a connection that is in command mode in the end has none. -/
theorem Did.reached {o : Outcome} {deeds : List Effect} (h : Did .command deeds s s')
    (hfree : s.Free) (ho : o.link? = none) (hmode : o.lastMode = .command)
    (hbroken : o.breakdown? = none) : Reached o deeds s none s' := by
  intro hopen
  have hopened := h.opened hopen
  have hdeeds := h.deeds hopen
  obtain ⟨hc, -⟩ := hfree hopened
  obtain ⟨_, _, _, rfl⟩ := h.same hopen
  refine ⟨hopened, hbroken, hdeeds, rfl, hmode.symm, ?_, [], (List.append_nil _).symm, ?_⟩
  · rw [ho]
    exact hc
  · rw [ho]
    rfl

/-- **What was done before a dial came to its outcome does not matter to that**, if it can be read
off the rest of the session. -/
theorem Did.then {o : Session → Outcome} {f : Session → List Effect} {deeds : List Effect}
    {raised : Option Breakdown} (h : Did mode deeds s s')
    (hsame : ∀ mode cues writes log,
      o { s with mode, cues, writes, log } = o s ∧ f { s with mode, cues, writes, log } = f s)
    (h' : Reached (o s') (f s') s' raised s'') : Reached (o s) (deeds ++ f s) s raised s'' := by
  intro hopen
  obtain ⟨hopen', hraised, hcame⟩ := h' hopen
  refine ⟨h.opened hopen', ?_⟩
  have hdeeds := h.deeds hopen'
  obtain ⟨_, _, _, rfl⟩ := h.same hopen'
  obtain ⟨ho, hf⟩ := hsame _ _ _ _
  rw [ho] at hraised
  rw [ho, hf] at hcame
  exact ⟨hraised, by rw [hcame.deeds, hdeeds, List.append_assoc], hcame.held, hcame.linked⟩

/-- So it is, whatever comes of the dial. -/
theorem Did.dials {o : Session → Outcome} {f : Session → List Effect} {deeds : List Effect}
    {a : Act} (h : Did mode deeds s s')
    (hsame : ∀ mode cues writes log,
      o { s with mode, cues, writes, log } = o s ∧ f { s with mode, cues, writes, log } = f s)
    (h' : Dials a s' (o s') (f s')) :
    Comes a s' (fun _ s'' => Reached (o s) (deeds ++ f s) s none s'')
      fun b s'' => Reached (o s) (deeds ++ f s) s (some b) s'' where
  ends x s'' heq := h.then hsame (h'.ends x s'' heq)
  breaks b s'' heq := h.then hsame (h'.breaks b s'' heq)

/-! ## The parts of a dial -/

theorem did_announce (entry : Entry) (hmode : s.mode = .dialing) :
    Ends (announce entry) s fun _ s' => Did .dialing (announced entry) s s' := by
  have quiet : Ends (pure () : Act) s fun _ s' => Did .dialing [] s s' := by
    have := Did.refl s
    rw [hmode] at this
    exact ends_left this
  unfold announce announced
  split
  · rename_i name hname
    rw [hname]
    cases hempty : name.isEmpty with
    | true => simpa [Option.filter, hempty] using quiet
    | false => simpa [Option.filter, hempty] using did_play name hmode
  · rename_i hname
    rw [hname]
    exact quiet

/-- The session when it has asked for a connect with no line open. -/
def asking (s : Session) (route : Route) : Session :=
  { s with connects := s.connects + 1 }.emit (.connect route s.settings.connectTimeout [])

/-- A connect is noted with the lines that are open, of which there are none. -/
theorem called_of_open (hfree : s.Free) (route : Route) (hopen : (s.called route).closed = false) :
    s.closed = false ∧ s.called route = s.asking route := by
  unfold called at hopen ⊢
  split at hopen
  · rw [closed_close] at hopen
    cases hopen
  · rename_i hcloses
    have hopen : s.closed = false := hopen
    rw [if_neg hcloses, calling, asking, (hfree hopen).2]
    exact ⟨hopen, rfl⟩

/-- What a connect leaves: a new bridge if the endpoint accepts it. -/
structure Connected (route : Route) (s s' : Session) : Prop where
  opened : s.closed = false
  deeds : s'.deeds = s.deeds ++ [.connect route s.settings.connectTimeout []]
  held : s'.held = s.held
  current : s'.current = (s.routeOutcome route).link?.map fun _ => s.bridges.length
  bridges : ∃ new : List Bridge, s'.bridges = s.bridges ++ new ∧
    new.map (·.remote) = (s.routeOutcome route).link?.toList.map (some ·.text)

/-- Nothing but messages came of the connect. -/
theorem connected_notices (hfree : s.Free) (hopen : s.closed = false) {route : Route}
    (hlink : (s.routeOutcome route).link? = none) (notices : List Notice) :
    Connected route s ((s.asking route).emitAll (notices.map .notice)) where
  opened := hopen
  deeds := (deeds_notices _ notices).trans (deeds_emit rfl _)
  held := by rw [emitAll_eq]; rfl
  current := by
    rw [emitAll_eq, hlink]
    exact (hfree hopen).1
  bridges := by
    rw [emitAll_eq, hlink]
    exact ⟨[], (List.append_nil _).symm, rfl⟩

/-- A line came of the connect, and its bridge is recorded. -/
theorem connected_record (hopen : s.closed = false) {route : Route}
    (hlink : (s.routeOutcome route).link? = some route) {turn : Bridge.Turn}
    (hline : turn.bridge.line.isSome = true) (hremote : turn.bridge.remote = some route.text) :
    Connected route s (((s.asking route).adopt turn).record s.bridges.length) := by
  have hnotes := deeds_notices ({ s.asking route with
    bridges := s.bridges ++ [turn.bridge]
    queue := s.queue ++ turn.signals.map (s.bridges.length, ·) }) turn.notices
  rw [adopt_eq _ hline]
  rw [emitAll_eq] at hnotes ⊢
  refine ⟨hopen, hnotes.trans (deeds_emit rfl { s with connects := s.connects + 1 }), rfl, ?_,
    [turn.bridge], rfl, ?_⟩
  · rw [hlink]
    rfl
  · rw [hlink]
    exact congrArg (fun remote => [remote]) hremote

/-- **A connect asks its endpoint**, once, and what it came to is taken over. -/
theorem connected_settle (hfree : s.Free) {route : Route} {answer : Answer}
    {outcome : Bool × Bridge.Turn} (hanswer : (s.around.network s.connects route).answer = answer)
    (h : Bridge.Connects (s.called route).closed route.text answer outcome)
    (hremote : outcome.2.bridge.remote = some route.text) {closesUnrecorded : Bool}
    (hopen : ((s.called route).settle outcome.1 outcome.2 closesUnrecorded).closed = false) :
    (s.called route).closed = false ∧
      Connected route s ((s.called route).settle outcome.1 outcome.2 closesUnrecorded) := by
  have called := called_of_open hfree route
  have houtcome : s.routeOutcome route = .ofAnswer route answer := by rw [routeOutcome, hanswer]
  generalize s.called route = s₁ at *
  cases h with
  | refused notices refuses =>
    dsimp only [settle, adopt, Bool.false_eq_true, if_false] at hopen ⊢
    rw [emitAll_eq] at hopen
    obtain ⟨hopened, rfl⟩ := called hopen
    refine ⟨hopen, connected_notices hfree hopened ?_ notices⟩
    cases answer with
    | refused => rw [houtcome]; rfl
    | accepted | broken => cases refuses
  | broken breakdown =>
    have hopen : s₁.closed = false := hopen
    obtain ⟨hopened, rfl⟩ := called hopen
    refine ⟨hopen, connected_notices hfree hopened ?_ []⟩
    rw [houtcome]
    rfl
  | cancelled b line dead sound cancels =>
    -- The session was closed meanwhile.
    obtain ⟨_, hsettle⟩ := settle_kept (Bool.false_and closesUnrecorded) s₁ { bridge := b }
    rw [hsettle, adopt_eq _ line, emitAll_eq] at hopen
    exact absurd (hopen.symm.trans cancels) (by decide)
  | accepted b t line live untouched follows quiet cancels refuses breaks =>
    cases closesUnrecorded with
    | true =>
      -- Closed before the bridge was recorded.
      have hclosed : ((s₁.adopt t).close.endConnection (some s₁.bridges.length)).closed = true := by
        obtain ⟨_, _, hend⟩ := endConnection_kept (s₁.adopt t).close (some s₁.bridges.length)
        rw [hend]
        exact closed_close _
      rw [settle_closed] at hopen
      exact absurd (hopen.symm.trans hclosed) (by decide)
    | false =>
      have hopen₁ : s₁.closed = false := by
        obtain ⟨_, hsettle⟩ := settle_kept (Bool.and_false true) s₁ t
        rw [hsettle, adopt_eq _ line, emitAll_eq] at hopen
        exact hopen
      obtain ⟨hopened, rfl⟩ := called hopen₁
      refine ⟨hopen₁, connected_record hopened ?_ line hremote⟩
      cases answer with
      | accepted => rw [houtcome]; rfl
      | refused => cases refuses
      | broken => cases breaks

theorem connected_afterConnect (hfree : s.Free) {route : Route}
    (hopen : (s.afterConnect route).closed = false) :
    (s.called route).closed = false ∧ Connected route s (s.afterConnect route) :=
  connected_settle hfree rfl (Bridge.connect_cases ..) (Bridge.remote_connect ..) hopen

theorem mode_afterConnect (route : Route) (s : Session) :
    (s.afterConnect route).mode = s.mode := by
  have called : (s.called route).mode = s.mode := by
    unfold called
    split
    · exact (aside_close _).mode
    · rfl
  unfold afterConnect
  dsimp only
  obtain ⟨_, _, _, _, _, hsettle, -⟩ := settle_side (s.called route) _ _ _
  rw [hsettle]
  exact called

/-- What comes of a connect, of which `Connected` tells the rest. -/
theorem comes_connect (hfree : s.Free) (route : Route) :
    Comes (connect route) s
      (fun live s' => s'.mode = s.mode ∧ (s'.closed = false → Connected route s s' ∧
        s.routeOutcome route = if live then .connected route else .refused route))
      fun b s' => s'.mode = s.mode ∧ (s'.closed = false → Connected route s s' ∧
        s.routeOutcome route = .broken route b) where
  ends live s' heq := by
    rw [connect_apply] at heq
    dsimp only at heq
    rw [Bridge.raised_connect, Bridge.live_connect] at heq
    unfold routeOutcome
    cases hanswer : (s.around.network s.connects route).answer with
    | broken b =>
      rw [hanswer] at heq
      cases heq
    | refused | accepted =>
      rw [hanswer] at heq
      cases heq
      refine ⟨mode_afterConnect route s, fun hopen => ?_⟩
      obtain ⟨hopen₁, h⟩ := connected_afterConnect hfree hopen
      refine ⟨h, ?_⟩
      rw [hopen₁]
      rfl
  breaks b s' heq := by
    rw [connect_apply] at heq
    dsimp only at heq
    rw [Bridge.raised_connect] at heq
    unfold routeOutcome
    cases hanswer : (s.around.network s.connects route).answer with
    | refused | accepted =>
      rw [hanswer] at heq
      cases heq
    | broken b =>
      rw [hanswer] at heq
      cases heq
      exact ⟨mode_afterConnect route s, fun hopen => ⟨(connected_afterConnect hfree hopen).2, rfl⟩⟩

/-- What is played and said after a connect belongs to its outcome. -/
theorem Connected.reached {route : Route} {o : Outcome} {deeds : List Effect}
    (h : s'.closed = false → Connected route s s' ∧ s.routeOutcome route = o)
    (h' : Did o.lastMode deeds s' s'')
    (hdeeds : .connect route s.settings.connectTimeout [] :: deeds =
      o.deeds s.settings.connectTimeout) :
    Reached (s.routeOutcome route) ((s.routeOutcome route).deeds s.settings.connectTimeout)
      s o.breakdown? s'' := by
  intro hopen
  obtain ⟨hconnected, ho⟩ := h (h'.opened hopen)
  have hlater := h'.deeds hopen
  obtain ⟨_, _, _, rfl⟩ := h'.same hopen
  refine ⟨hconnected.opened, by rw [ho], ?_, hconnected.held, ?_, hconnected.current,
    hconnected.bridges⟩
  · rw [hlater, hconnected.deeds, List.append_assoc, List.singleton_append, hdeeds, ho]
  · rw [ho]

theorem comes_dialRoute (hfree : s.Free) (hmode : s.mode = .dialing) (route : Route) :
    Dials (dialRoute route) s (s.routeOutcome route)
      ((s.routeOutcome route).deeds s.settings.connectTimeout) := by
  unfold dialRoute
  refine comes_bind (comes_connect hfree route) (fun b s' ⟨hmode', h'⟩ => ?_)
    fun live s₁ ⟨hmode₁, h₁⟩ => ?_
  · have here := Did.refl s'
    rw [hmode', hmode] at here
    exact Connected.reached (o := .broken route b) h' here rfl
  · rw [hmode] at hmode₁
    cases live with
    | true =>
      refine comes_after (did_play _ hmode₁) (readies_play _).unbroken fun _ s₂ h₂ => ?_
      refine comes_after (did_play _ h₂.entered) (readies_play _).unbroken fun _ s₃ h₃ => ?_
      refine comes_after (did_enter .connected s₃) (readies_enter _).unbroken fun _ s₄ h₄ => ?_
      refine comes_of_ends (fun x s₅ heq => ?_) (unbroken_writeText _)
      have h := ((h₂.trans h₃).trans h₄).trans (did_say _ h₄.entered x s₅ heq)
      exact Connected.reached (o := .connected route) h₁ h rfl
    | false =>
      refine comes_after (did_play _ hmode₁) (readies_play _).unbroken fun _ s₂ h₂ => ?_
      refine comes_after (did_enter .command s₂) (readies_enter _).unbroken fun _ s₃ h₃ => ?_
      refine comes_after (did_say _ h₃.entered) (unbroken_writeText _) fun _ s₄ h₄ => ?_
      refine comes_of_ends (fun x s₅ heq => ?_) (readies_tell _).unbroken
      have h := ((h₂.trans h₃).trans h₄).trans (did_tell _ h₄.entered x s₅ heq)
      exact Connected.reached (o := .refused route) h₁ h rfl

/-- What is done when an entry is dialed. -/
def entryDeeds (s : Session) (entry : Entry) : List Effect :=
  announced entry ++ (s.entryOutcome entry).deeds s.settings.connectTimeout

theorem comes_dialEntry (hfree : s.Free) (hmode : s.mode = .dialing) (entry : Entry) :
    Dials (dialEntry entry) s (s.entryOutcome entry) (s.entryDeeds entry) := by
  unfold dialEntry
  refine comes_after (did_announce entry hmode) (readies_announce entry).unbroken fun _ s₁ h₁ => ?_
  have hfree₁ := h₁.free hfree
  refine h₁.dials (o := (·.entryOutcome entry))
    (f := fun s => (s.entryOutcome entry).deeds s.settings.connectTimeout)
    (fun _ _ _ _ => ⟨rfl, rfl⟩) ?_
  split
  · rename_i hroute
    rw [show s₁.entryOutcome entry = .busy by simp [entryOutcome, hroute]]
    refine comes_after (did_enter .busy s₁) (readies_enter _).unbroken fun _ s₂ h₂ => ?_
    refine comes_after (did_play _ h₂.entered) (readies_play _).unbroken fun _ s₃ h₃ => ?_
    refine comes_after (did_say _ h₃.entered) (unbroken_writeText _) fun _ s₄ h₄ => ?_
    refine comes_of_ends (fun x s₅ heq => ?_) (readies_enter _).unbroken
    have h := ((h₂.trans h₃).trans h₄).trans (did_enter .command s₄ x s₅ heq)
    exact h.reached hfree₁ rfl rfl rfl
  · rename_i text hroute
    split
    · rename_i fault hparse
      rw [show s₁.entryOutcome entry = .malformed by simp [entryOutcome, hroute, hparse]]
      refine comes_after (did_tell _ h₁.entered) (readies_tell _).unbroken fun _ s₂ h₂ => ?_
      refine comes_after (did_say _ h₂.entered) (unbroken_writeText _) fun _ s₃ h₃ => ?_
      refine comes_of_ends (fun x s₄ heq => ?_) (readies_enter _).unbroken
      have h := (h₂.trans h₃).trans (did_enter .command s₃ x s₄ heq)
      exact h.reached hfree₁ rfl rfl rfl
    · rename_i route hparse
      rw [show s₁.entryOutcome entry = s₁.routeOutcome route by simp [entryOutcome, hroute, hparse]]
      exact comes_dialRoute hfree₁ h₁.entered route

/-- What is done when the number was dialed. -/
def numberDeeds (s : Session) (number : String) : List Effect :=
  s.announcement number ++ (s.outcome number).deeds s.settings.connectTimeout

/-- **The dial sequence**, once there is no connection. -/
theorem comes_dialTone (hfree : s.Free) (number : String) :
    Dials (dialTone number) s (s.outcome number)
      (.cue "dialtone" .dialing :: tones number ++ s.numberDeeds number) := by
  unfold dialTone
  refine comes_after (did_enter .dialing s) (readies_enter _).unbroken fun _ s₁ h₁ => ?_
  refine comes_after (did_play _ h₁.entered) (readies_play _).unbroken fun _ s₂ h₂ => ?_
  refine comes_after (did_playTones _ _ h₂.entered) (readies_playTones _ _).unbroken
    fun _ s₃ h₃ => comes_get ?_
  have h := (h₁.trans h₂).trans h₃
  have hfree₃ := h.free hfree
  refine h.dials (o := (·.outcome number)) (f := (·.numberDeeds number))
    (fun _ _ _ _ => ⟨rfl, rfl⟩) ?_
  split
  · rename_i hentry
    have ho : s₃.outcome number = .unknown := by simp [outcome, hentry]
    have hdeeds : s₃.numberDeeds number = Outcome.unknown.deeds s₃.settings.connectTimeout := by
      simp [numberDeeds, announcement, hentry, ho]
    rw [ho, hdeeds]
    refine comes_after (did_tell _ h₃.entered) (readies_tell _).unbroken fun _ s₄ h₄ => ?_
    refine comes_after (did_play _ h₄.entered) (readies_play _).unbroken fun _ s₅ h₅ => ?_
    refine comes_after (did_say _ h₅.entered) (unbroken_writeText _) fun _ s₆ h₆ => ?_
    refine comes_of_ends (fun x s₇ heq => ?_) (readies_enter _).unbroken
    have hend := ((h₄.trans h₅).trans h₆).trans (did_enter .command s₆ x s₇ heq)
    exact hend.reached hfree₃ rfl rfl rfl
  · rename_i entry hentry
    have ho : s₃.outcome number = s₃.entryOutcome entry := by simp [outcome, hentry]
    have hdeeds : s₃.numberDeeds number = s₃.entryDeeds entry := by
      simp [numberDeeds, entryDeeds, announcement, hentry, ho]
    rw [ho, hdeeds]
    exact comes_dialEntry hfree₃ h₃.entered entry

/-! ## Dials that fail -/

/-- Of the writes since then, one was not taken by the client, or the session is closed. -/
def Missed (s s' : Session) : Prop :=
  s'.closed = true ∨ ∃ k, s.writes ≤ k ∧ k < s'.writes ∧ s.around.clientFault k ≠ none

/-- The writes are counted, and the world around the session is the same. -/
structure Counted (s s' : Session) : Prop where
  around : s'.around = s.around
  writes : s.writes ≤ s'.writes

theorem counted_wrote (ok : Bool) (origin : Origin) (data : Bytes) (s : Session) :
    Counted s (s.wrote ok origin data) := by
  cases ok <;> exact ⟨rfl, Nat.le_succ _⟩

theorem Chore.counted {calls : Bool} (h : Chore calls s s') : Counted s s' := by
  cases h with
  | note | edit | call => exact ⟨rfl, Nat.le_refl _⟩
  | say ok data => exact counted_wrote ok .modem data s
  | close =>
    by_cases hclosed : s.closed = true
    · rw [Session.close, if_pos hclosed]
      exact ⟨rfl, Nat.le_refl _⟩
    · obtain ⟨_, _, heq⟩ := close_eq (Bool.eq_false_iff.mpr hclosed)
      rw [heq]
      exact ⟨rfl, Nat.le_refl _⟩
  | drop =>
    obtain ⟨_, _, heq⟩ := dropConnection_kept s
    rw [heq]
    exact ⟨rfl, Nat.le_refl _⟩
  | settle live turn closes =>
    obtain ⟨_, _, _, _, _, heq, -⟩ := settle_side s live turn closes
    rw [heq]
    exact ⟨rfl, Nat.le_refl _⟩

theorem Chores.counted {calls : Bool} (h : Chores calls s s') : Counted s s' :=
  h.keep (P := Counted s)
    (fun hc hs => ⟨hc.counted.around.trans hs.around, hs.writes.trans hc.counted.writes⟩)
    ⟨rfl, Nat.le_refl _⟩

theorem Missed.before (h : Missed s' s'') (hcounted : Counted s s') : Missed s s'' := by
  obtain hclosed | ⟨k, hle, hlt, hfault⟩ := h
  · exact .inl hclosed
  · rw [hcounted.around] at hfault
    exact .inr ⟨k, hcounted.writes.trans hle, hlt, hfault⟩

/-- **The operation fails only by a write** that the client does not take, or to a client that is
closed, unless it breaks down. -/
def Blames {α : Type} (a : EStateM Fault Session α) : Prop :=
  ∀ s fault s', a s = .error fault s' → (∃ b, fault = .broken b) ∨ Missed s s'

section Blames

variable {α β : Type} {a : EStateM Fault Session α} {f : α → EStateM Fault Session β}

theorem blames_bind (ha : Blames a) (hcounted : ∀ s, Counted s (left a s))
    (hf : ∀ x, Blames (f x)) : Blames (a >>= f) := by
  intro s fault s' heq
  have hcounted := hcounted s
  rw [bind_apply] at heq
  cases hr : a s with
  | error fault₁ s₁ =>
    rw [hr] at heq
    cases heq
    exact ha s fault s' hr
  | ok x s₁ =>
    rw [hr] at heq
    rw [left_ok hr] at hcounted
    exact (hf x s₁ fault s' heq).imp_right (·.before hcounted)

theorem blames_get {f : Session → EStateM Fault Session β} (hf : ∀ s, Blames (f s)) :
    Blames (get >>= f) := fun s => hf s s

theorem Readies.blames (ha : Readies a) : Blames a := by
  intro s fault s' heq
  obtain ⟨x, s₁, hok, -⟩ := ha s
  cases hok.symm.trans heq

/-- What comes after an operation that gets ready is to blame. -/
theorem blames_after (ha : Readies a) (hchores : ∀ s, Chores true s (left a s))
    (hf : ∀ x, Blames (f x)) : Blames (a >>= f) :=
  blames_bind ha.blames (fun s => (hchores s).counted) hf

end Blames

theorem blames_write (origin : Origin) (data : Bytes) : Blames (write origin data) := by
  intro s fault s' heq
  rw [write_eq] at heq
  unfold refusal? at heq
  split at heq
  · rename_i reason hrefusal
    cases heq
    right
    cases hclosed : s.closed with
    | true => exact .inl hclosed
    | false =>
      rw [hclosed, if_neg Bool.noConfusion] at hrefusal
      exact .inr ⟨s.writes, Nat.le_refl _, Nat.lt_succ_self _, by rw [hrefusal]; simp⟩
  · cases heq

theorem counted_write (origin : Origin) (data : Bytes) (s : Session) :
    Counted s (left (write origin data) s) := by
  obtain ⟨ok, heq⟩ := left_write origin data s
  rw [heq]
  exact counted_wrote ok origin data s

/-- A result code that is said at the end. -/
theorem blames_sayThen {a : Act} (text : String) (ha : Readies a) :
    Blames (do writeText text; a) :=
  blames_bind (blames_write _ _) (counted_write _ _) fun _ => ha.blames

theorem blames_dialRoute (route : Route) : Blames (dialRoute route) := by
  have connects : Blames (connect route) := by
    intro s fault s' heq
    rw [connect_apply] at heq
    dsimp only at heq
    split at heq
    · cases heq
      exact .inl ⟨_, rfl⟩
    · cases heq
  refine blames_bind connects (fun s => (chores_connect route s).counted) fun live => ?_
  split
  · refine blames_after (readies_play _) (chores_play _) fun _ => ?_
    refine blames_after (readies_play _) (chores_play _) fun _ => ?_
    exact blames_after (readies_enter _) (chores_enter _) fun _ => blames_write _ _
  · refine blames_after (readies_play _) (chores_play _) fun _ => ?_
    refine blames_after (readies_enter _) (chores_enter _) fun _ => ?_
    exact blames_sayThen _ (readies_tell _)

theorem blames_dialEntry (entry : Entry) : Blames (dialEntry entry) := by
  refine blames_after (readies_announce entry) (chores_announce entry) fun _ => ?_
  split
  · refine blames_after (readies_enter _) (chores_enter _) fun _ => ?_
    refine blames_after (readies_play _) (chores_play _) fun _ => ?_
    exact blames_sayThen _ (readies_enter _)
  · split
    · refine blames_after (readies_tell _) (chores_tell _) fun _ => ?_
      exact blames_sayThen _ (readies_enter _)
    · exact blames_dialRoute _

theorem blames_dialTone (number : String) : Blames (dialTone number) := by
  refine blames_after (readies_enter _) (chores_enter _) fun _ => ?_
  refine blames_after (readies_play _) (chores_play _) fun _ => ?_
  refine blames_after (readies_playTones _ _) (chores_playTones _ _) fun _ => ?_
  refine blames_get fun s => ?_
  split
  · refine blames_after (readies_tell _) (chores_tell _) fun _ => ?_
    refine blames_after (readies_play _) (chores_play _) fun _ => ?_
    exact blames_sayThen _ (readies_enter _)
  · exact blames_dialEntry _

theorem blames_dial (number : String) : Blames (dial number) := by
  intro s fault s' heq
  rw [dial_apply] at heq
  have hblames := blames_dialTone number _ fault s' heq
  split at hblames
  · exact hblames.imp_right (·.before (Chore.drop : Chore true _ _).counted)
  · exact hblames

theorem blames_echoThen {a : Act} (data : Bytes) (ha : Blames a) :
    Blames (do echoBack data; a) := by
  refine blames_bind (blames_get fun s => ?_) (fun s => ?_) fun _ => ha
  · split
    · exact blames_write _ _
    · exact readies_pure.blames
  · show Counted s (left (if s.echo then Session.write .modem data else pure () : Act) s)
    split
    · exact counted_write _ _ s
    · exact ⟨rfl, Nat.le_refl _⟩

/-- **The line of a dial fails only by a write**, or by its connect. -/
theorem blames_dialLine {line number : String}
    (h : (Command.interpret line).intent = some (.dial number)) : Blames (handleLine line) := by
  have hresponse := Command.response_of_dial h
  unfold handleLine
  dsimp only
  rw [h, hresponse]
  exact blames_bind (blames_write _ _) (counted_write _ _) fun _ => blames_dial number

/-! ## Before the dial tone -/

/-- The session when a dial was answered and an earlier connection is dropped. -/
def readied (s : Session) : Session :=
  let t := s.answered .ok
  if t.current.isSome then t.dropConnection else t

/-- What a dial is answered with: the end of the line, if that is echoed, and `OK`. -/
def okDeeds (s : Session) : List Effect :=
  (if s.echo then [.output .modem [0x0D, 0x0A]] else []) ++ [said "OK\r\n"]

/-- A byte with an intent ends a line that has it. -/
theorem line_of_dial {byte : UInt8} {number : String}
    (hdial : s.intent? byte = some (.dial number)) :
    let line := String.ofList s.typed.reverse
    (Command.interpret line).intent = some (.dial number) ∧
      typeByte byte s = (do echoBack [0x0D, 0x0A]; handleLine line : Act)
        { s with typed := [] } := by
  intro line
  unfold intent? at hdial
  split at hdial
  · rename_i hline
    obtain ⟨hend, htyped⟩ := (Bool.and_eq_true _ _).mp hline
    exact ⟨hdial, by rw [typeByte_apply, if_pos hend, if_pos htyped]⟩
  · cases hdial

/-- **The byte that completes the command of a dial fails only by a write**, or by its connect. -/
theorem missed_of_dial {byte : UInt8} {number : String} {fault : Fault}
    (hdial : s.intent? byte = some (.dial number)) (hfails : typeByte byte s = .error fault s') :
    (∃ b, fault = .broken b) ∨ Missed s s' := by
  obtain ⟨hintent, happly⟩ := line_of_dial hdial
  have hblames : _ ∨ Missed { s with typed := [] } s' :=
    blames_echoThen _ (blames_dialLine hintent) _ fault s' (happly.symm.trans hfails)
  exact hblames

/-- A dial is answered, and dials when an earlier connection is dropped. -/
theorem typeByte_dial {byte : UInt8} {number : String}
    (hdial : s.intent? byte = some (.dial number))
    (hkept : ∀ fault s', typeByte byte s = .error fault s' → ∃ b, fault = .broken b) :
    typeByte byte s = dialTone number s.readied := by
  obtain ⟨-, happly | ⟨reason, writes, hlost | hlost⟩⟩ := typeByte_of_intent hdial
  · rw [happly, Command.response_of_dial (line_of_dial hdial).1]
    rfl
  · obtain ⟨_, hbroken⟩ := hkept _ _ hlost
    cases hbroken
  · obtain ⟨_, hbroken⟩ := hkept _ _ hlost
    cases hbroken

theorem deeds_answered (s : Session) : (s.answered .ok).deeds = s.deeds ++ s.okDeeds := by
  have answers : ∀ t : Session, (t.wrote true .modem (Bytes.ofText Response.ok.text)).deeds =
      t.deeds ++ [said "OK\r\n"] := fun t => deeds_emit rfl { t with writes := t.writes + 1 }
  unfold answered lineEnded okDeeds
  split
  · rw [answers, ← List.append_assoc]
    exact congrArg (· ++ _) (deeds_emit rfl { s with typed := [], writes := s.writes + 1 })
  · exact answers { s with typed := [] }

theorem ticks_answered (hoff : s.mode ≠ .connected) (hopen : s.closed = false)
    (response : Response) : Ticks s (s.answered response) := by
  have ended : Ticks s s.lineEnded := by
    unfold lineEnded
    split
    · exact .tail (.single (.type [] hoff)) (.write true _ fun _ => hopen)
    · exact .single (.type [] hoff)
  refine .tail ended (.write true _ fun _ => ?_)
  unfold lineEnded
  split <;> exact hopen

/-- Nothing that the outcome is read off has changed. -/
theorem readied_kept (s : Session) :
    ∃ mode typed current bridges held heldSize queue writes log, s.readied =
      { s with mode, typed, current, bridges, held, heldSize, queue, writes, log } := by
  have kept : ∃ typed writes log, s.answered .ok = { s with typed, writes, log } := by
    unfold answered lineEnded
    split <;> exact ⟨_, _, _, rfl⟩
  obtain ⟨_, _, _, hkept⟩ := kept
  unfold readied
  dsimp only
  split
  · obtain ⟨_, _, heq⟩ := dropConnection_kept (s.answered .ok)
    rw [heq, hkept]
    exact ⟨_, _, _, _, _, _, _, _, _, rfl⟩
  · rw [hkept]
    exact ⟨_, _, _, _, _, _, _, _, _, rfl⟩

theorem deeds_readied (s : Session) : s.readied.deeds = s.deeds ++ s.okDeeds := by
  unfold readied
  dsimp only
  split
  · rw [deeds_dropConnection, deeds_answered]
  · exact deeds_answered s

/-- There is no connection when the dial tone is played, nor anything held back from one. -/
structure Cleared (s : Session) : Prop where
  current : s.current = none
  held : s.held = []
  openLines : s.openLines = []

theorem cleared_readied (hs : s.Sound) (hoff : s.mode ≠ .connected) (hopen : s.closed = false) :
    s.readied.Cleared := by
  have hsound : (s.answered .ok).Sound := (ticks_answered hoff hopen .ok).sound hs
  unfold readied
  dsimp only
  split
  · have hung := hung_dropConnection (s.answered .ok)
    have hwired := ((ticks_dropConnection hsound).sound hsound).wired
    exact ⟨hung.current, hung.held, hwired.openLines_eq_nil hung.current⟩
  · rename_i hc
    have hc : (s.answered .ok).current = none := by simpa using hc
    exact ⟨hc, hsound.tidy.bare hc, hsound.wired.openLines_eq_nil hc⟩

/-! ## The result -/

/-- **The dial sequence.** In a run, let a session that is offline be fed the byte that completes
the command of a dial. Let the client take all writes of this call, and let the session be open
when it is over. The dial is answered with `OK`, and the dial tone is not played before an earlier
connection is dropped with what is held back from it, so that no line is open. Besides the answer
all that is done, in order, is this: the dial tone, a tone for each digit of the number, the
announcement of the first entry that answers to it, and what belongs to the one outcome that the
phonebook and the network decide. In the end nothing is held back.

The call succeeds, unless the connect breaks down: that it raises. The session is online with a new
bridge to the endpoint if that accepts the connect; else it is in command mode, without a bridge.
Only a dial that breaks down is not over: no cue is played and nothing is said after its connect,
and the mode is that of a dial still. -/
theorem dial_sequence (settings : Settings) (around : Surroundings) (calls : List Call) (n : Nat)
    (byte : UInt8) (number : String)
    (hoff : ((start settings around).point calls n).mode ≠ .connected)
    (hdial : ((start settings around).point calls n).intent? byte = some (.dial number))
    (htaken : ∀ k, ((start settings around).point calls n).writes ≤ k →
      k < (left (feed [byte]) ((start settings around).point calls n)).writes →
      around.clientFault k = none)
    (hopen : (left (feed [byte]) ((start settings around).point calls n)).closed = false) :
    let s := (start settings around).point calls n
    let s₁ := s.readied
    let s' := left (feed [byte]) s
    let o := s.outcome number
    feed [byte] s = (match o.breakdown? with
      | none => .ok () s'
      | some b => .error (.broken b) s') ∧
    (feed [byte] s = dialTone number s₁ ∧ s₁.deeds = s.deeds ++ s.okDeeds ∧ s₁.Cleared) ∧
    s'.deeds = s₁.deeds ++ (.cue "dialtone" .dialing :: tones number ++
      (s.announcement number ++ o.deeds settings.connectTimeout)) ∧
    s'.held = [] ∧ Linked o s₁.bridges s' := by
  intro s s₁ s' o
  have hstart := steady_start settings around
  have hpath := path_point hstart calls n
  have hs : s.Steady := hpath.steady hstart
  have hlater := (hpath.ticks hstart).later
  have hsettings : s.settings = settings := hlater.settings
  have haround : s.around = around := hlater.around
  have hkept : ∀ fault s'', feed [byte] s = .error fault s'' → ∃ b, fault = .broken b := by
    intro fault s'' hr
    have hleft : s'' = s' := (left_error hr).symm
    rw [feed_single hoff, hleft] at hr
    obtain hbroken | hclosed | ⟨k, hle, hlt, hfault⟩ := missed_of_dial hdial hr
    · exact hbroken
    · exact absurd (hopen.symm.trans hclosed) Bool.noConfusion
    · rw [haround] at hfault
      exact absurd (htaken k hle hlt) hfault
  have hfeed : feed [byte] s = dialTone number s₁ := by
    rw [feed_single hoff] at hkept ⊢
    exact typeByte_dial hdial hkept
  have hcleared : s₁.closed = false → s₁.Cleared := by
    intro hopen₁
    obtain ⟨_, _, _, _, _, _, _, _, _, hreadied⟩ := readied_kept s
    rw [show s₁ = _ from hreadied] at hopen₁
    exact cleared_readied hs.sound hoff hopen₁
  have hfree : s₁.Free := fun h => ⟨(hcleared h).current, (hcleared h).openLines⟩
  have hdials := comes_dialTone hfree number
  have hsame : s₁.outcome number = o ∧ s₁.numberDeeds number = s.numberDeeds number := by
    obtain ⟨_, _, _, _, _, _, _, _, _, hreadied⟩ := readied_kept s
    rw [show s₁ = _ from hreadied]
    exact ⟨rfl, rfl⟩
  rw [hsame.1, hsame.2] at hdials
  -- As no write failed, the call has succeeded, or its connect has broken down.
  obtain ⟨raised, hraised, hreached⟩ : ∃ raised : Option Breakdown,
      (feed [byte] s = match raised with
        | none => .ok () s'
        | some b => .error (.broken b) s') ∧ Reached o _ s₁ raised s' := by
    cases hr : feed [byte] s with
    | ok x s'' =>
      obtain rfl : s' = s'' := left_ok hr
      exact ⟨none, rfl, hdials.ends x s' (hfeed.symm.trans hr)⟩
    | error fault s'' =>
      obtain rfl : s' = s'' := left_error hr
      obtain ⟨b, rfl⟩ := hkept fault s' hr
      exact ⟨some b, rfl, hdials.breaks b s' (hfeed.symm.trans hr)⟩
  obtain ⟨hopen₁, hbreakdown, hcame⟩ := hreached hopen
  rw [← hbreakdown] at hraised
  refine ⟨hraised, ⟨hfeed, deeds_readied s, hcleared hopen₁⟩, ?_,
    hcame.held.trans (hcleared hopen₁).held, hcame.linked⟩
  rw [hcame.deeds, numberDeeds, hsettings]

/-- The endpoint of a dial has a host name that cannot be encoded: the client is told nothing of it,
no cue follows the tone, and the session is dialing still. -/
theorem dial_broken_off :
    let s := (start badHost badHostNetwork).after [.feed (Bytes.ofText "ATD1")]
    let s' := left (feed [cr]) s
    (s.mode = .command ∧ s.intent? cr = some (.dial "1") ∧ s'.closed = false ∧ s'.Delivered) ∧
      s'.noCarriers = 0 ∧ .cue "connect_failed" .dialing ∉ s'.deeds ∧ s'.mode = .dialing := by
  decide +kernel

/-- A phonebook with an entry that is announced. -/
def announcedSettings : Settings :=
  { someSettings with
    phonebook := someSettings.phonebook ++
      [{ number := "5-55A", route := some "other:9", announce := some "jingle" }] }

/-- With remote data held back from a live connection, another number is typed. -/
def redialCalls : List Call :=
  [.feed (Bytes.ofText "ATD1\r"), .feed escapeBytes, .events, .feed (Bytes.ofText "ATDT5 55A")]

/-- The first connection and its data are dropped, and the other entry is announced and reached. -/
theorem dial_sequence_again :
    let s := (start announcedSettings someSurroundings).point redialCalls 16
    let s' := left (feed [cr]) s
    (s.mode = .command ∧ s.intent? cr = some (.dial "5 55A") ∧ s'.closed = false ∧
      s.held = [[0x61]] ∧ s.openLines = [0]) ∧
    s'.deeds = s.deeds ++ ([.output .modem [0x0D, 0x0A], said "OK\r\n"] ++
      [.cue "dialtone" .dialing, .cue "tone_5" .dialing, .cue "tone_5" .dialing,
        .cue "tone_5" .dialing, .cue "jingle" .dialing,
        .connect ⟨"other", 9⟩ announcedSettings.connectTimeout [], .cue "modem_noise" .dialing,
        .cue "connect_success" .dialing, said "CONNECT 57600\r\n"]) ∧
    s'.held = [] ∧ s'.mode = .connected ∧ s'.current = some 1 := by
  intro s s'
  have hoff : s.mode ≠ .connected := by decide +kernel
  have hdial : s.intent? cr = some (.dial "5 55A") := by decide +kernel
  have hopen : s'.closed = false := by decide +kernel
  have houtcome : s.outcome "5 55A" = .connected ⟨"other", 9⟩ := by decide +kernel
  obtain ⟨-, ⟨-, hready, -⟩, hdeeds, hheld, hlinked⟩ :=
    dial_sequence announcedSettings someSurroundings redialCalls 16 cr "5 55A" hoff hdial
      (fun _ _ _ => rfl) hopen
  rw [hready, houtcome] at hdeeds
  rw [houtcome] at hlinked
  have hbridges : s.readied.bridges.length = 1 := by decide +kernel
  have hok : s.okDeeds = [.output .modem [0x0D, 0x0A], said "OK\r\n"] := by decide +kernel
  have htones : tones "5 55A" = List.replicate 3 (.cue "tone_5" .dialing) := by decide +kernel
  have hannouncement : s.announcement "5 55A" = [.cue "jingle" .dialing] := by decide +kernel
  refine ⟨⟨by decide +kernel, hdial, hopen, by decide +kernel, by decide +kernel⟩, ?_, hheld,
    hlinked.mode, ?_⟩
  · rw [hdeeds, hok, htones, hannouncement, List.append_assoc]
    rfl
  · rw [hlinked.current, hbridges]
    rfl

end Session

end DialUp
