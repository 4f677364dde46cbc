import DialUp.Proofs.Session.Typing

/-!
# What a command leaves alone

A session that carries out a command makes small changes, `Chore`, none of which gives the client
a remote byte or writes anything to a line. `Chores` is any number of them, whichever state the
operation stops in, and for every state that it starts from. A chore makes a new line only if it
is part of a call.

* `chores_dial`: a dial is nothing but chores;
* `Chores.relayed`, `Chores.received`: neither the client nor a remote end gets anything by them;
* `typeByte_cases`: a typed byte is echoed, and may complete a command, which is answered and then
  carried out;
* `left_goOnline`, `left_forward`, `left_handle`: what going back online, forwarding and handling a
  signal do, which are no chores.
-/

namespace DialUp.Session

variable {s s' s'' : Session} {calls : Bool} {α β : Type}

/-! ## Operations one after another -/

theorem bind_apply (a : EStateM Fault Session α) (f : α → EStateM Fault Session β) (s : Session) :
    (a >>= f) s =
      match a s with
      | .ok x s' => f x s'
      | .error fault s' => .error fault s' := by
  show EStateM.bind a f s = _
  unfold EStateM.bind
  cases a s <;> rfl

theorem get_apply (f : Session → EStateM Fault Session β) (s : Session) :
    (get >>= f) s = f s s := rfl

theorem left_ok {a : EStateM Fault Session α} {x : α} (h : a s = .ok x s') : left a s = s' := by
  rw [left, h]

theorem left_error {a : EStateM Fault Session α} {fault : Fault} (h : a s = .error fault s') :
    left a s = s' := by
  rw [left, h]

theorem left_congr {a b : EStateM Fault Session α} (h : a s = b s') : left a s = left b s' := by
  rw [left, left, h]

theorem left_get (f : Session → EStateM Fault Session β) (s : Session) :
    left (get >>= f) s = left (f s) s := rfl

/-! ## Chores -/

/-- **A small change that gives nobody a byte but the client the modem's own.** -/
inductive Chore (calls : Bool) (s : Session) : Session → Prop
  | note (e : Effect) (quiet : e.Quiet) : Chore calls s (s.emit e)
  | say (ok : Bool) (data : Bytes) : Chore calls s (s.wrote ok .modem data)
  | edit (mode : Mode) (cues : Nat) : Chore calls s { s with mode, cues }
  | close : Chore calls s s.close
  | drop : Chore calls s s.dropConnection
  | call (route : Route) (made : calls = true) :
      Chore calls s ({ s with connects := s.connects + 1 }.emit
        (.connect route s.settings.connectTimeout s.openLines))
  /-- A connect has come to something. -/
  | settle (live : Bool) (turn : Bridge.Turn) (closesUnrecorded : Bool) (made : calls = true)
      (unsent : turn.bridge.received = []) : Chore calls s (s.settle live turn closesUnrecorded)

/-- Any number of chores. -/
abbrev Chores (calls : Bool) : Session → Session → Prop := Relation.ReflTransGen (Chore calls)

/-- What every chore keeps holds after any number of them. -/
theorem Chores.keep {P : Session → Prop} (step : ∀ {s s'}, Chore calls s s' → P s → P s')
    (h : Chores calls s s') (hs : P s) : P s' := by
  induction h with
  | refl => exact hs
  | tail _ hc ih => exact step hc ih

theorem chores_bind {a : EStateM Fault Session α} {f : α → EStateM Fault Session β}
    (ha : Chores calls s (left a s)) (hf : ∀ x s', Chores calls s' (left (f x) s')) :
    Chores calls s (left (a >>= f) s) := by
  rw [left_bind]
  cases hr : a s with
  | ok x s' =>
    rw [left_ok hr] at ha
    exact ha.trans (hf x s')
  | error fault s' =>
    rw [left_error hr] at ha
    exact ha

theorem chores_get {f : Session → EStateM Fault Session β} (h : Chores calls s (left (f s) s)) :
    Chores calls s (left (get >>= f) s) := h

theorem left_write (origin : Origin) (data : Bytes) (s : Session) :
    ∃ ok, left (write origin data) s = s.wrote ok origin data := by
  rw [left, write_eq]
  cases s.refusal? with
  | some reason => exact ⟨false, rfl⟩
  | none => exact ⟨true, rfl⟩

theorem chores_say (data : Bytes) (s : Session) :
    Chores calls s (left (write .modem data) s) := by
  obtain ⟨ok, heq⟩ := left_write .modem data s
  rw [heq]
  exact .single (.say ok data)

theorem chores_writeText (text : String) (s : Session) :
    Chores calls s (left (writeText text) s) :=
  chores_say _ s

theorem chores_tell (notice : Notice) (s : Session) : Chores calls s (left (tell notice) s) :=
  .single (.note _ trivial)

theorem chores_enter (mode : Mode) (s : Session) : Chores calls s (left (enter mode) s) :=
  .single (.edit mode s.cues)

theorem chores_complain (name : String) (s : Session) :
    Chores calls s (left (complain name) s) := by
  unfold complain
  refine chores_get ?_
  split
  · split
    · exact chores_tell _ s
    · exact .refl
  · exact .refl

theorem chores_play (name : String) (s : Session) : Chores calls s (left (play name) s) := by
  unfold play
  refine chores_get ?_
  have noted : Chores calls s ({ s with cues := s.cues + 1 }.emit (.cue name s.mode)) :=
    (Relation.ReflTransGen.single (.edit s.mode (s.cues + 1))).tail (.note _ trivial)
  refine noted.trans (chores_bind (chores_complain name _) fun _ s' => ?_)
  split
  · exact .single .close
  · exact .refl

theorem chores_playItems (items : List DialTones.Item) (s : Session) :
    Chores calls s (left (playItems items) s) := by
  induction items generalizing s with
  | nil => exact .refl
  | cons item rest ih =>
    refine chores_bind ?_ fun _ s' => ih s'
    cases item with
    | cue name => exact chores_play name s
    | pause _ => exact .refl

theorem chores_playTones (timing : DialTones.Timing) (number : List Char) (s : Session) :
    Chores calls s (left (playTones timing number) s) := by
  induction number generalizing s with
  | nil => exact .refl
  | cons c rest ih =>
    unfold playTones
    refine chores_get ?_
    split
    · exact chores_bind (chores_playItems _ s) fun _ s' => ih s'
    · exact .refl

theorem chores_announce (entry : Entry) (s : Session) :
    Chores calls s (left (announce entry) s) := by
  unfold announce
  split
  · split
    · exact chores_play _ s
    · exact .refl
  · exact .refl

/-! ## A dial -/

/-- The session when it has asked for a connect. -/
def calling (s : Session) (route : Route) : Session :=
  { s with connects := s.connects + 1 }.emit
    (.connect route s.settings.connectTimeout s.openLines)

/-- The session when its connect is answered, before that shows. -/
def called (s : Session) (route : Route) : Session :=
  if (s.around.network s.connects route).closesSession then (s.calling route).close
  else s.calling route

/-- Taking over what a connect came to leaves the session as open or closed as it was. -/
theorem settle_kept {live closesUnrecorded : Bool} (h : (live && closesUnrecorded) = false)
    (s : Session) (turn : Bridge.Turn) :
    ∃ current, s.settle live turn closesUnrecorded = { s.adopt turn with current } := by
  unfold settle
  cases live with
  | false => exact ⟨_, rfl⟩
  | true => exact ⟨some s.bridges.length, by rw [show closesUnrecorded = false from h]; rfl⟩

/-- The session is closed before the bridge is recorded. -/
theorem settle_closed (s : Session) (turn : Bridge.Turn) :
    s.settle true turn true =
      ((s.adopt turn).close.endConnection (some s.bridges.length)).record s.bridges.length := by
  rw [← closeUnrecorded_eq]
  rfl

/-- What is kept by each of its parts is kept when it is taken over what a connect came to. -/
theorem settle_keep {P : Session → Prop} {turn : Bridge.Turn} (live closesUnrecorded : Bool)
    (adopted : P (s.adopt turn)) (close : ∀ t, P t → P t.close)
    (ended : ∀ t bridge, P t → P (t.endConnection bridge))
    (recorded : ∀ t number, P t → P (t.record number)) :
    P (s.settle live turn closesUnrecorded) := by
  cases live with
  | false => exact adopted
  | true =>
    cases closesUnrecorded with
    | false => exact recorded _ _ adopted
    | true =>
      rw [settle_closed]
      exact recorded _ _ (ended _ _ (close _ adopted))

/-- The session after its connect was answered. -/
def afterConnect (s : Session) (route : Route) : Session :=
  let script := s.around.network s.connects route
  let outcome := Bridge.connect (s.called route).closed {} route.text script.answer
  (s.called route).settle outcome.1 outcome.2 script.closesUnrecorded

/-- A connect raises only if it breaks down. -/
theorem connect_apply (route : Route) (s : Session) :
    connect route s =
      let outcome := Bridge.connect (s.called route).closed {} route.text
        (s.around.network s.connects route).answer
      match outcome.2.raised with
      | some breakdown => .error (.broken breakdown) (s.afterConnect route)
      | none => .ok outcome.1 (s.afterConnect route) := by
  let outcome := Bridge.connect (s.called route).closed {} route.text
    (s.around.network s.connects route).answer
  show (match outcome.2.raised with
    | some breakdown => throw (Fault.broken breakdown)
    | none => pure outcome.1 : EStateM Fault Session Bool) (s.afterConnect route) = _
  dsimp only
  cases outcome.2.raised <;> rfl

theorem left_connect (route : Route) (s : Session) :
    left (connect route) s = s.afterConnect route := by
  rw [left, connect_apply]
  dsimp only
  cases (Bridge.connect _ _ _ _).2.raised <;> rfl

theorem chores_called (route : Route) (s : Session) : Chores true s (s.called route) := by
  unfold called
  split
  · exact (Relation.ReflTransGen.single (.call route rfl)).tail .close
  · exact .single (.call route rfl)

theorem chores_connect (route : Route) (s : Session) :
    Chores true s (left (connect route) s) := by
  rw [left_connect]
  exact (chores_called route s).tail (.settle _ _ _ rfl (Bridge.received_connect _ _ _))

theorem chores_dialRoute (route : Route) (s : Session) :
    Chores true s (left (dialRoute route) s) := by
  unfold dialRoute
  refine chores_bind (chores_connect route s) fun live s₁ => ?_
  split
  · refine chores_bind (chores_play _ s₁) fun _ s₂ => ?_
    refine chores_bind (chores_play _ s₂) fun _ s₃ => ?_
    exact chores_bind (chores_enter _ s₃) fun _ s₄ => chores_writeText _ s₄
  · refine chores_bind (chores_play _ s₁) fun _ s₂ => ?_
    refine chores_bind (chores_enter _ s₂) fun _ s₃ => ?_
    exact chores_bind (chores_writeText _ s₃) fun _ s₄ => chores_tell _ s₄

theorem chores_dialEntry (entry : Entry) (s : Session) :
    Chores true s (left (dialEntry entry) s) := by
  unfold dialEntry
  refine chores_bind (chores_announce entry s) fun _ s₁ => ?_
  split
  · refine chores_bind (chores_enter _ s₁) fun _ s₂ => ?_
    refine chores_bind (chores_play _ s₂) fun _ s₃ => ?_
    exact chores_bind (chores_writeText _ s₃) fun _ s₄ => chores_enter _ s₄
  · split
    · refine chores_bind (chores_tell _ s₁) fun _ s₂ => ?_
      exact chores_bind (chores_writeText _ s₂) fun _ s₃ => chores_enter _ s₃
    · exact chores_dialRoute _ s₁

/-- What is dialed after the connection that there was is dropped. -/
def dialTone (number : String) : Act := do
  enter .dialing
  play "dialtone"
  playTones {} number.toList
  match (← get).settings.phonebook.resolve (Phonebook.normalize number) with
  | none =>
    tell (.warning ("Number not found in phonebook: " ++ number))
    play "connect_failed"
    noCarrier
    enter .command
  | some entry => dialEntry entry

theorem dial_apply (number : String) (s : Session) :
    dial number s = dialTone number (if s.current.isSome then s.dropConnection else s) := rfl

theorem chores_dialTone (number : String) (s : Session) :
    Chores true s (left (dialTone number) s) := by
  unfold dialTone
  refine chores_bind (chores_enter _ s) fun _ s₁ => ?_
  refine chores_bind (chores_play _ s₁) fun _ s₂ => ?_
  refine chores_bind (chores_playTones _ _ s₂) fun _ s₃ => ?_
  refine chores_get ?_
  split
  · refine chores_bind (chores_tell _ s₃) fun _ s₄ => ?_
    refine chores_bind (chores_play _ s₄) fun _ s₅ => ?_
    exact chores_bind (chores_writeText _ s₅) fun _ s₆ => chores_enter _ s₆
  · exact chores_dialEntry _ s₃

/-- **A dial is nothing but chores**. -/
theorem chores_dial (number : String) (s : Session) : Chores true s (left (dial number) s) := by
  rw [left, dial_apply]
  show Chores true s (left (dialTone number) _)
  split
  · exact (Relation.ReflTransGen.single .drop).trans (chores_dialTone number _)
  · exact chores_dialTone number s

/-! ## What the client gets by chores -/

theorem relayed_emit (e : Effect) (i : Nat) :
    (s.emit e).relayed i = s.relayed i ++ e.given i := by
  simp [relayed, emit]

theorem relayed_emitAll {es : List Effect} (h : ∀ e ∈ es, ∀ i, e.given i = []) (s : Session)
    (i : Nat) : (s.emitAll es).relayed i = s.relayed i := by
  unfold emitAll
  induction es generalizing s with
  | nil => rfl
  | cons e rest ih =>
    rw [List.foldl_cons, ih (fun e he => h e (List.mem_cons_of_mem _ he)), relayed_emit,
      h e List.mem_cons_self, List.append_nil]

theorem relayed_notices (s : Session) (notices : List Notice) (i : Nat) :
    (s.emitAll (notices.map .notice)).relayed i = s.relayed i := by
  refine relayed_emitAll (fun e he i => ?_) s i
  obtain ⟨notice, -, rfl⟩ := List.mem_map.mp he
  rfl

theorem relayed_wrote (s : Session) (ok : Bool) (origin : Origin) (data : Bytes) (i : Nat) :
    (s.wrote ok origin data).relayed i =
      s.relayed i ++ if ok && origin == .line i then data else [] := by
  cases ok with
  | false => exact (List.append_nil _).symm
  | true =>
    unfold wrote
    rw [if_pos rfl, relayed_emit]
    cases origin <;> simp [Effect.given, relayed]

/-- The client gets nothing of a bridge by what comes from elsewhere. -/
theorem relayed_wrote_other {origin : Origin} {i : Nat} (h : origin ≠ .line i) (s : Session)
    (ok : Bool) (data : Bytes) : (s.wrote ok origin data).relayed i = s.relayed i := by
  rw [relayed_wrote, show (origin == .line i) = false from beq_false_of_ne h, Bool.and_false]
  exact List.append_nil _

theorem relayed_say (s : Session) (ok : Bool) (data : Bytes) (i : Nat) :
    (s.wrote ok .modem data).relayed i = s.relayed i :=
  relayed_wrote_other Origin.noConfusion s ok data

theorem relayed_onBridge (j : Nat) (op : Bridge → Bridge.Turn) (i : Nat) :
    (s.onBridge j op).relayed i = s.relayed i := by
  obtain ⟨-, heq⟩ | ⟨b, -, heq⟩ := onBridge_cases (s := s) j op
  · rw [heq]
  · rw [heq]
    exact relayed_notices _ _ i

theorem relayed_endConnection (s : Session) (bridge : Option Nat) (i : Nat) :
    (s.endConnection bridge).relayed i = s.relayed i := by
  cases bridge with
  | none => rfl
  | some j => exact relayed_onBridge j _ i

theorem relayed_closeAudio (s : Session) (i : Nat) : s.closeAudio.relayed i = s.relayed i := by
  unfold closeAudio
  split
  · exact (relayed_emit _ i).trans (List.append_nil _)
  · rfl

theorem relayed_close (s : Session) (i : Nat) : s.close.relayed i = s.relayed i := by
  unfold close
  split
  · rfl
  · rw [relayed_closeAudio, relayed_emit, relayed_endConnection, relayed_emit]
    exact (List.append_nil _).trans (List.append_nil _)

theorem relayed_dropConnection (s : Session) (i : Nat) :
    s.dropConnection.relayed i = s.relayed i := by
  have ended := relayed_endConnection ({ s with current := none }.clearHeld) s.current i
  exact ended

theorem relayed_adopt (s : Session) (turn : Bridge.Turn) (i : Nat) :
    (s.adopt turn).relayed i = s.relayed i := by
  unfold adopt
  split
  · exact relayed_notices _ _ i
  · exact relayed_notices s _ i

theorem relayed_settle (s : Session) (live : Bool) (turn : Bridge.Turn) (closesUnrecorded : Bool)
    (i : Nat) : (s.settle live turn closesUnrecorded).relayed i = s.relayed i :=
  settle_keep (P := fun t => t.relayed i = s.relayed i) live closesUnrecorded
    (relayed_adopt s turn i) (fun t h => (relayed_close t i).trans h)
    (fun t bridge h => (relayed_endConnection t bridge i).trans h) fun _ _ h => h

theorem Chore.relayed (h : Chore calls s s') (i : Nat) : s'.relayed i = s.relayed i := by
  cases h with
  | note e quiet =>
    rw [relayed_emit]
    cases e <;> first | exact quiet.elim | exact List.append_nil _
  | say ok data => exact relayed_say s ok data i
  | edit => rfl
  | close => exact relayed_close s i
  | drop => exact relayed_dropConnection s i
  | call route =>
    rw [relayed_emit]
    exact List.append_nil _
  | settle live turn closes => exact relayed_settle s live turn closes i

/-- **The client gets no remote byte by chores**. -/
theorem Chores.relayed (h : Chores calls s s') (i : Nat) : s'.relayed i = s.relayed i :=
  h.keep (P := fun s' => s'.relayed i = s.relayed i) (fun hc heq => (hc.relayed i).trans heq) rfl

/-! ## What the remote ends get by chores -/

/-- All bytes that were written to the line of bridge `i`. -/
def received (s : Session) (i : Nat) : Bytes := (s.bridges[i]?.map Bridge.received).getD []

/-- An operation on a bridge, as the remote ends see it. -/
theorem received_onBridge {j : Nat} {op : Bridge → Bridge.Turn} {b : Bridge}
    (hb : s.bridges[j]? = some b) (i : Nat) :
    (s.onBridge j op).received i = if i = j then (op b).bridge.received else s.received i := by
  unfold received
  rw [getElem?_onBridge op hb]
  split <;> rfl

theorem received_endConnection (s : Session) (bridge : Option Nat) (i : Nat) :
    (s.endConnection bridge).received i = s.received i := by
  cases bridge with
  | none => rfl
  | some j =>
    obtain ⟨-, heq⟩ | ⟨b, hb, -⟩ := onBridge_cases (s := s) j Bridge.disconnect
    · rw [endConnection, heq]
    · rw [endConnection, received_onBridge hb, Bridge.received_disconnect]
      split
      · rename_i hij
        rw [hij, received, hb]
        rfl
      · rfl

theorem received_close (s : Session) (i : Nat) : s.close.received i = s.received i := by
  unfold close
  split
  · rfl
  · rw [closeAudio_eq]
    exact received_endConnection ({ s with closed := true }.emit .audioStopped) s.current i

/-- A line that a connect has made has received nothing yet. -/
theorem received_adopt (s : Session) {turn : Bridge.Turn} (h : turn.bridge.received = [])
    (i : Nat) : (s.adopt turn).received i = s.received i := by
  cases hl : turn.bridge.line with
  | none =>
    simp only [adopt, hl, emitAll_eq]
    rfl
  | some line =>
    rw [adopt_eq turn (by rw [hl]; rfl), emitAll_eq]
    show ((s.bridges ++ [turn.bridge])[i]?.map Bridge.received).getD [] = _
    rcases Nat.lt_trichotomy i s.bridges.length with hlt | rfl | hgt
    · rw [List.getElem?_append_left hlt]
      rfl
    · rw [List.getElem?_concat_length, Option.map_some, Option.getD_some, h, received,
        List.getElem?_eq_none (Nat.le_refl _)]
      rfl
    · rw [received, List.getElem?_eq_none (Nat.le_of_lt hgt),
        List.getElem?_eq_none (by simp; omega)]

theorem received_settle (s : Session) (live : Bool) {turn : Bridge.Turn}
    (closesUnrecorded : Bool) (h : turn.bridge.received = []) (i : Nat) :
    (s.settle live turn closesUnrecorded).received i = s.received i :=
  settle_keep (P := fun t => t.received i = s.received i) live closesUnrecorded
    (received_adopt s h i) (fun t h => (received_close t i).trans h)
    (fun t bridge h => (received_endConnection t bridge i).trans h) fun _ _ h => h

theorem Chore.received (h : Chore calls s s') (i : Nat) : s'.received i = s.received i := by
  cases h with
  | note | edit | call => rfl
  | say ok data =>
    obtain ⟨_, _, heq⟩ := wrote_kept s ok .modem data
    rw [heq]
    rfl
  | close => exact received_close s i
  | drop => exact received_endConnection ({ s with current := none }.clearHeld) s.current i
  | settle live turn closes _ unsent => exact received_settle s live closes unsent i

/-- **Nothing is written to a line by chores**. -/
theorem Chores.received (h : Chores calls s s') (i : Nat) : s'.received i = s.received i :=
  h.keep (P := fun s' => s'.received i = s.received i) (fun hc heq => (hc.received i).trans heq) rfl

/-! ## Typing -/

/-- The session has changed the typed line and said something of its own. -/
def Talked (s s' : Session) : Prop :=
  ∃ typed writes log, s' = { s with typed, writes, log } ∧ ∀ i, s'.relayed i = s.relayed i

theorem Talked.refl (s : Session) : Talked s s := ⟨_, _, _, rfl, fun _ => rfl⟩

theorem Talked.trans (h : Talked s s') (h' : Talked s' s'') : Talked s s'' := by
  obtain ⟨_, _, _, rfl, hrelayed⟩ := h
  obtain ⟨_, _, _, rfl, hrelayed'⟩ := h'
  exact ⟨_, _, _, rfl, fun i => (hrelayed' i).trans (hrelayed i)⟩

theorem talked_write (data : Bytes) (s : Session) : Talked s (left (write .modem data) s) := by
  obtain ⟨ok, heq⟩ := left_write .modem data s
  rw [heq]
  have hrelayed := relayed_say s ok data
  obtain ⟨_, _, hkept⟩ := wrote_kept s ok .modem data
  rw [hkept] at hrelayed ⊢
  exact ⟨_, _, _, rfl, hrelayed⟩

theorem talked_echoBack (data : Bytes) (s : Session) : Talked s (left (echoBack data) s) := by
  show Talked s (left (if s.echo then write .modem data else pure ()) s)
  split
  · exact talked_write data s
  · exact .refl s

theorem talked_respond (response : Response) (s : Session) :
    Talked s (left (respond response) s) := by
  unfold respond
  split
  · exact .refl s
  · exact talked_write _ s

/-- The line is changed and the client sees it. -/
theorem talked_edit (typed : List Char) (data : Bytes) (s : Session) :
    Talked s (left (do set { s with typed }; echoBack data) s) :=
  Talked.trans ⟨typed, _, _, rfl, fun _ => rfl⟩ (talked_echoBack data { s with typed })

/-- **A line is answered, and then its intent is carried out**, unless the answer fails. -/
theorem handleLine_cases (line : String) (s : Session) :
    (Talked s (left (handleLine line) s) ∧ ∀ s', handleLine line s = .ok () s' →
      (Command.interpret line).intent = none) ∨
    ∃ intent s₁, (Command.interpret line).intent = some intent ∧ Talked s s₁ ∧
      handleLine line s = execute intent s₁ := by
  have answered := talked_respond (Command.interpret line).response s
  unfold handleLine
  dsimp only
  rw [left_bind, bind_apply]
  cases hr : respond (Command.interpret line).response s with
  | error fault s₁ =>
    rw [left_error hr] at answered
    exact .inl ⟨answered, fun _ h => by cases h⟩
  | ok _ s₁ =>
    rw [left_ok hr] at answered
    cases hintent : (Command.interpret line).intent with
    | none => exact .inl ⟨answered, fun _ _ => rfl⟩
    | some intent => exact .inr ⟨intent, s₁, rfl, answered, rfl⟩

/-- **A typed byte is echoed**, and may complete a command, which is answered and carried out. -/
theorem typeByte_cases (byte : UInt8) (s : Session) :
    (Talked s (left (typeByte byte) s) ∧ ∀ s', typeByte byte s = .ok () s' →
      s.intent? byte = none) ∨
    ∃ intent s₁, s.intent? byte = some intent ∧ Talked s s₁ ∧
      typeByte byte s = execute intent s₁ := by
  by_cases hline : ((byte == 0x0D || byte == 0x0A) && !s.typed.isEmpty) = true
  · obtain ⟨hend, htyped⟩ := (Bool.and_eq_true _ _).mp hline
    have hintent : s.intent? byte =
        (Command.interpret (String.ofList s.typed.reverse)).intent := by
      rw [intent?, if_pos hline]
    have htype : typeByte byte s = (do
        echoBack [0x0D, 0x0A]
        handleLine (String.ofList s.typed.reverse)) { s with typed := [] } := by
      show (if _ then (if _ then _ else _) else _ : Act) s = _
      rw [if_pos hend, if_pos htyped]
      rfl
    have cleared : Talked s { s with typed := [] } := ⟨[], _, _, rfl, fun _ => rfl⟩
    have echoed := cleared.trans (talked_echoBack [0x0D, 0x0A] { s with typed := [] })
    rw [hintent, left_congr htype, htype, left_bind, bind_apply]
    cases hr : echoBack [0x0D, 0x0A] { s with typed := [] } with
    | error fault s₁ =>
      rw [left_error hr] at echoed
      exact .inl ⟨echoed, fun _ h => by cases h⟩
    | ok _ s₁ =>
      rw [left_ok hr] at echoed
      obtain ⟨answered, hnone⟩ | ⟨intent, s₂, hsome, answered, heq⟩ :=
        handleLine_cases (String.ofList s.typed.reverse) s₁
      · exact .inl ⟨echoed.trans answered, hnone⟩
      · exact .inr ⟨intent, s₂, hsome, echoed.trans answered, heq⟩
  · refine .inl ⟨?_, fun _ _ => by rw [intent?, if_neg hline]⟩
    show Talked s (left (if _ then (if _ then _ else _) else if _ then (if _ then _ else _)
      else if _ then _ else _ : Act) s)
    split
    · rename_i hend
      rw [if_neg fun htyped => hline (by rw [hend, htyped]; rfl)]
      exact .refl s
    · split
      · split
        · exact talked_edit _ _ s
        · exact .refl s
      · split
        · exact talked_edit _ _ s
        · exact .refl s

/-! ## Chunks -/

theorem feed_of_offline (hoff : s.mode ≠ .connected) (data : Bytes) :
    feed data s = feedBytes data s := by
  show (if s.mode = .connected then _ else _ : Act) s = _
  rw [if_neg hoff]

theorem feedBytes_cons (hoff : s.mode ≠ .connected) (byte : UInt8) (rest : Bytes) :
    feedBytes (byte :: rest) s =
      match typeByte byte s with
      | .ok _ s' => feedBytes rest s'
      | .error fault s' => .error fault s' := by
  show (if s.mode = .connected then _ else _ : Act) s = _
  rw [if_neg hoff, bind_apply]
  cases typeByte byte s <;> rfl

theorem feed_single (hoff : s.mode ≠ .connected) (byte : UInt8) :
    feed [byte] s = typeByte byte s := by
  rw [feed_of_offline hoff, feedBytes_cons hoff]
  cases typeByte byte s <;> rfl

/-! ## Going back online -/

/-- What is held back goes to the client; of the other bridges it gets nothing. -/
theorem left_flush (j : Nat) (chunks : List Bytes) (s : Session) :
    ∃ held heldSize writes log, left (flush j chunks) s = { s with held, heldSize, writes, log } ∧
      ∀ i, i ≠ j → (left (flush j chunks) s).relayed i = s.relayed i := by
  induction chunks generalizing s with
  | nil => exact ⟨_, _, _, _, rfl, fun _ _ => rfl⟩
  | cons chunk rest ih =>
    have hflush : left (flush j (chunk :: rest)) s =
        left (do write (.line j) chunk; flush j rest) (s.unhold chunk rest) := rfl
    have written : ∀ ok i, i ≠ j →
        ((s.unhold chunk rest).wrote ok (.line j) chunk).relayed i = s.relayed i := by
      intro ok i hij
      exact relayed_wrote_other (fun h => hij (Origin.line.inj h).symm) (s.unhold chunk rest) ok
        chunk
    rw [hflush, left_bind]
    obtain ⟨ok, hleft⟩ := left_write (.line j) chunk (s.unhold chunk rest)
    obtain ⟨writes, log, hkept⟩ := wrote_kept (s.unhold chunk rest) ok (.line j) chunk
    have hothers := written ok
    cases hr : write (.line j) chunk (s.unhold chunk rest) with
    | error fault s₁ =>
      rw [left_error hr] at hleft
      subst hleft
      rw [hkept] at hothers
      exact ⟨_, _, writes, log, hkept, fun i hij => by rw [hkept]; exact hothers i hij⟩
    | ok _ s₁ =>
      rw [left_ok hr] at hleft
      subst hleft
      rw [hkept] at hothers ⊢
      obtain ⟨_, _, _, _, heq, hrest⟩ := ih { s.unhold chunk rest with writes, log }
      exact ⟨_, _, _, _, heq, fun i hij => (hrest i hij).trans (hothers i hij)⟩

/-- Going back online touches no bridge, and hands out bytes of the current one only. -/
theorem left_goOnline (s : Session) :
    ∃ mode held heldSize writes log,
      left goOnline s = { s with mode, held, heldSize, writes, log } ∧
      ∀ i, s.current ≠ some i → (left goOnline s).relayed i = s.relayed i := by
  unfold goOnline
  rw [left_get]
  split
  · exact ⟨_, _, _, _, _, rfl, fun _ _ => rfl⟩
  · rename_i j hc
    split
    · obtain ⟨_, _, _, _, heq, hothers⟩ := left_flush j s.held { s with mode := .connected }
      exact ⟨_, _, _, _, _, heq, fun i hij => hothers i fun h => hij (by rw [h, hc])⟩
    · exact ⟨_, _, _, _, _, rfl, fun _ _ => rfl⟩

/-! ## Online data -/

/-- A chunk that is the escape sequence is answered; any other is sent by the current bridge. -/
theorem left_forward (data : Bytes) (s : Session) :
    (data = escapeBytes ∧ ∃ ok, left (forward data) s =
      ({ s with mode := .command } : Session).wrote ok .modem (Bytes.ofText "OK\r\n")) ∨
    (data ≠ escapeBytes ∧ ((s.current = none ∧ left (forward data) s = s) ∨
      ∃ j, s.current = some j ∧
        left (forward data) s = s.onBridge j (·.send s.closed data))) := by
  unfold forward
  by_cases hescape : (data == escapeBytes) = true
  · rw [if_pos hescape]
    exact .inl ⟨eq_of_beq hescape, left_write .modem _ _⟩
  · rw [if_neg hescape]
    refine .inr ⟨fun h => hescape (by rw [h]; exact BEq.rfl), ?_⟩
    rw [left_get]
    split
    · rename_i hnone
      exact .inl ⟨hnone, rfl⟩
    · rename_i j hsome
      exact .inr ⟨j, hsome, rfl⟩

/-! ## Signals -/

/-- What handling a signal does. -/
theorem handle_cases (event : Nat × Signal) (s : Session) :
    (s.current ≠ some event.1 ∧ handle event s = .ok () s) ∨
    (∃ chunk, event.2 = .data chunk ∧ s.current = some event.1 ∧
      ((s.mode = .connected ∧ handle event s = write (.line event.1) chunk s) ∨
        (s.mode ≠ .connected ∧ handle event s = .ok () (s.hold event.1 chunk)))) ∨
    (event.2 = .closed ∧ s.current = some event.1 ∧
      ((s.mode = .connected ∧
          handle event s = noCarrier ({ s with current := none, mode := .command }.clearHeld)) ∨
        (s.mode ≠ .connected ∧
          handle event s = .ok () ({ s with current := none }.clearHeld)))) := by
  obtain ⟨i, signal⟩ := event
  by_cases hc : s.current = some i
  · have hcurrent : (s.current == some i) = true := by simp [hc]
    cases signal with
    | data chunk =>
      refine .inr (.inl ⟨chunk, rfl, hc, ?_⟩)
      have hhandle : handle (i, .data chunk) s = (if s.mode = .connected then
          write (.line i) chunk else modify (·.hold i chunk) : Act) s := by
        show (if (s.current == some i) = true then _ else _ : Act) s = _
        rw [if_pos hcurrent]
      rw [hhandle]
      by_cases hon : s.mode = .connected
      · exact .inl ⟨hon, by rw [if_pos hon]⟩
      · exact .inr ⟨hon, by rw [if_neg hon]; rfl⟩
    | closed =>
      refine .inr (.inr ⟨rfl, hc, ?_⟩)
      have hhandle : handle (i, .closed) s = (if s.mode = .connected then
          (do enter .command; noCarrier) else pure () : Act)
            { s with current := none }.clearHeld := by
        show (if (s.current == some i) = true then _ else _ : Act) s = _
        rw [if_pos hcurrent]
        rfl
      rw [hhandle]
      by_cases hon : s.mode = .connected
      · exact .inl ⟨hon, by rw [if_pos hon]; rfl⟩
      · exact .inr ⟨hon, by rw [if_neg hon]; rfl⟩
  · refine .inl ⟨hc, ?_⟩
    show (if (s.current == some i) = true then _ else _ : Act) s = _
    rw [if_neg (by simp [hc])]
    rfl

/-- The session after a signal was handled, whether or not the client was lost by that. -/
theorem left_handle (event : Nat × Signal) (s : Session) :
    (s.current ≠ some event.1 ∧ left (handle event) s = s) ∨
    (∃ chunk, event.2 = .data chunk ∧ s.current = some event.1 ∧
      ((∃ ok, left (handle event) s = s.wrote ok (.line event.1) chunk) ∨
        left (handle event) s = s.hold event.1 chunk)) ∨
    (event.2 = .closed ∧ s.current = some event.1 ∧
      ((∃ ok, left (handle event) s =
          ({ s with current := none, mode := .command }.clearHeld).wrote ok .modem
            (Bytes.ofText "NO CARRIER\r\n")) ∨
        left (handle event) s = { s with current := none }.clearHeld)) := by
  obtain ⟨hstale, heq⟩ | ⟨chunk, hdata, hc, ⟨-, heq⟩ | ⟨-, heq⟩⟩ |
    ⟨hclosed, hc, ⟨-, heq⟩ | ⟨-, heq⟩⟩ := handle_cases event s
  · exact .inl ⟨hstale, left_ok heq⟩
  · refine .inr (.inl ⟨chunk, hdata, hc, .inl ?_⟩)
    rw [left_congr heq]
    exact left_write _ _ _
  · exact .inr (.inl ⟨chunk, hdata, hc, .inr (left_ok heq)⟩)
  · refine .inr (.inr ⟨hclosed, hc, .inl ?_⟩)
    rw [left_congr heq]
    exact left_write _ _ _
  · exact .inr (.inr ⟨hclosed, hc, .inr (left_ok heq)⟩)

end DialUp.Session
