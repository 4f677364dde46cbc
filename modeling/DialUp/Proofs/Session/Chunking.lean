import Mathlib.Data.List.Infix
import DialUp.Proofs.Session.Chores
import DialUp.Proofs.Session.Delivery
import DialUp.Session.Run

/-!
# The cuts in what the client types do not show

The network may cut what a client sends anywhere. As long as the session is offline, that makes no
difference: the bytes are typed one by one, whichever chunks they come in. Only the byte that puts
a session online is followed by something else, for what comes after it in the same chunk is
online data.

* `feed_append`: a chunk does the same as its two parts, unless the first one goes online too soon;
* `Idle.feed`: a session without a connection gets one only by going online, and nothing that
  succeeds closes it;
* `Idle.converse_chunks`: so a session that stays offline has no signals to handle between its
  chunks, and comes to the same however its input is cut.
-/

namespace DialUp.Session

variable {s s' : Session} {α β : Type}

/-! ## Chunks and their parts -/

/-- The session is online after a chunk that it has taken. -/
def putsOnline (s : Session) (data : Bytes) : Bool :=
  match feed data s with
  | .ok _ s' => s'.mode == .connected
  | .error _ _ => false

theorem offline_of_feed {data : Bytes} (h : s.putsOnline data = false)
    (hfeed : feed data s = .ok () s') : s'.mode ≠ .connected := by
  rw [putsOnline, hfeed] at h
  exact ne_of_beq_false h

/-- A chunk that is not empty does the same whether or not the session is online already. -/
theorem feedBytes_eq_feed {data : Bytes} (h : data ≠ []) (s : Session) :
    feedBytes data s = feed data s := by
  by_cases hon : s.mode = .connected
  · obtain ⟨byte, rest, rfl⟩ := List.exists_cons_of_ne_nil h
    show (if s.mode = .connected then _ else _ : Act) s =
      (if s.mode = .connected then _ else _ : Act) s
    rw [if_pos hon, if_pos hon]
  · exact (feed_of_offline hon data).symm

theorem feed_cons (hoff : s.mode ≠ .connected) {byte : UInt8} (htype : typeByte byte s = .ok () s')
    (hoff' : s'.mode ≠ .connected) (rest : Bytes) : feed (byte :: rest) s = feed rest s' := by
  rw [feed_of_offline hoff, feedBytes_cons hoff, htype, feed_of_offline hoff']

/-- **A chunk does the same as its two parts**, unless the first one goes online too soon. -/
theorem feed_append {a b : Bytes} (hoff : s.mode ≠ .connected) (hb : b ≠ [])
    (h : ∀ p, p <+: a → p ≠ a → s.putsOnline p = false) :
    feed (a ++ b) s = (do feed a; feed b : Act) s := by
  rw [feed_of_offline hoff, bind_apply, feed_of_offline hoff]
  induction a generalizing s with
  | nil => exact feedBytes_eq_feed hb s
  | cons byte rest ih =>
    rw [List.cons_append, feedBytes_cons hoff, feedBytes_cons hoff]
    cases htype : typeByte byte s with
    | error fault s' => rfl
    | ok _ s' =>
      by_cases hrest : rest = []
      · subst hrest
        exact feedBytes_eq_feed hb s'
      · have hone : feed [byte] s = .ok () s' := by
          rw [feed_single hoff, htype]
        have hoff' : s'.mode ≠ .connected :=
          offline_of_feed (h [byte] ⟨rest, rfl⟩ fun heq => hrest (List.cons.inj heq).2.symm) hone
        refine ih hoff' fun p hp hne => ?_
        have hlonger := h (byte :: p) (List.cons_prefix_cons.mpr ⟨rfl, hp⟩)
          fun heq => hne (List.cons.inj heq).2
        rwa [putsOnline, feed_cons hoff htype hoff'] at hlonger

section Parts

variable {a : Bytes} (hoff : s.mode ≠ .connected)
  (h : ∀ p, p <+: a → p ≠ a → s.putsOnline p = false)

include hoff h

/-- What comes after a chunk that failed is lost. -/
theorem feed_of_failed {fault : Fault} (hfeed : feed a s = .error fault s') (b : Bytes) :
    feed (a ++ b) s = .error fault s' := by
  by_cases hb : b = []
  · rw [hb, List.append_nil, hfeed]
  · rw [feed_append hoff hb h, bind_apply, hfeed]

/-- What comes after a chunk is fed to the session that the chunk has left. -/
theorem feed_of_fed (hfeed : feed a s = .ok () s') (hoff' : s'.mode ≠ .connected) (b : Bytes) :
    feed (a ++ b) s = feed b s' := by
  by_cases hb : b = []
  · rw [hb, List.append_nil, hfeed, feed_of_offline hoff']
    rfl
  · rw [feed_append hoff hb h, bind_apply, hfeed]

end Parts

/-! ## Operations that succeed -/

/-- If the operation does not fail, its result and its last state satisfy `Q`. -/
def Ends (a : EStateM Fault Session α) (s : Session) (Q : α → Session → Prop) : Prop :=
  ∀ x s', a s = .ok x s' → Q x s'

theorem ends_bind {a : EStateM Fault Session α} {f : α → EStateM Fault Session β}
    {P : α → Session → Prop} {Q : β → Session → Prop} (ha : Ends a s P)
    (hf : ∀ x s', P x s' → Ends (f x) s' Q) : Ends (a >>= f) s Q := by
  intro y s'' heq
  rw [bind_apply] at heq
  cases hr : a s with
  | ok x s' =>
    rw [hr] at heq
    exact hf x s' (ha x s' hr) y s'' heq
  | error fault s' =>
    rw [hr] at heq
    cases heq

theorem ends_get {f : Session → EStateM Fault Session β} {Q : β → Session → Prop}
    (h : Ends (f s) s Q) : Ends (get >>= f) s Q := h

theorem ends_left {a : EStateM Fault Session α} {P : Session → Prop} (h : P (left a s)) :
    Ends a s fun _ s' => P s' := by
  intro x s' heq
  rwa [left_ok heq] at h

/-- There is no connection, and no signal waits. -/
structure Bare (s : Session) : Prop where
  current : s.current = none
  queue : s.queue = []

theorem Chore.bare (h : Chore false s s') (hs : s.Bare) : s'.Bare := by
  cases h with
  | note | edit => exact ⟨hs.current, hs.queue⟩
  | say ok data =>
    obtain ⟨_, _, heq⟩ := wrote_kept s ok .modem data
    rw [heq]
    exact ⟨hs.current, hs.queue⟩
  | close =>
    unfold Session.close
    rw [hs.current]
    split
    · exact hs
    · rw [closeAudio_eq]
      exact ⟨rfl, hs.queue⟩
  | drop =>
    unfold dropConnection
    rw [hs.current]
    exact ⟨rfl, hs.queue⟩
  | call _ made | settle _ _ _ made => cases made

/-- **A session without a connection gets none by chores** that make no calls. -/
theorem Chores.bare (h : Chores false s s') (hs : s.Bare) : s'.Bare := h.keep Chore.bare hs

theorem Bare.ends {a : EStateM Fault Session α} (hs : s.Bare) (h : Chores false s (left a s)) :
    Ends a s fun _ s' => s'.Bare :=
  ends_left (h.bare hs)

/-- A closed session writes nothing. -/
theorem ends_write (origin : Origin) (data : Bytes) (s : Session) :
    Ends (write origin data) s fun _ s' =>
      s' = s.wrote true origin data ∧ s'.closed = false := by
  intro _ s' heq
  rw [write_eq] at heq
  cases hr : s.refusal? with
  | some reason =>
    rw [hr] at heq
    cases heq
  | none =>
    rw [hr] at heq
    cases heq
    refine ⟨rfl, ?_⟩
    show s.closed = false
    unfold refusal? at hr
    split at hr
    · cases hr
    · rename_i hopen
      exact Bool.eq_false_iff.mpr hopen

/-- Open, and online unless there is no connection. -/
structure Settled (s : Session) : Prop where
  opened : s.closed = false
  bare : s.mode ≠ .connected → s.Bare

/-- What the modem says last tells that the session is open still. -/
theorem Bare.ends_say (hs : s.Bare) (text : String) :
    Ends (writeText text) s fun _ s' => s'.closed = false ∧ s'.Bare := by
  intro x s' heq
  obtain ⟨-, hopen⟩ := ends_write .modem _ s x s' heq
  exact ⟨hopen, hs.ends (chores_writeText text s) x s' heq⟩

theorem Bare.ends_say_enter (hs : s.Bare) (text : String) (mode : Mode) :
    Ends (do writeText text; enter mode) s fun _ s' => s'.Settled := by
  refine ends_bind (hs.ends_say text) fun _ s₁ ⟨hopen, hbare⟩ => ?_
  exact ends_left ⟨hopen, fun _ => ⟨hbare.current, hbare.queue⟩⟩

/-! ## Dialing -/

theorem Bare.called (hs : s.Bare) (route : Route) : (s.called route).Bare := by
  unfold Session.called
  split
  · exact (Chore.close : Chore false _ _).bare ⟨hs.current, hs.queue⟩
  · exact ⟨hs.current, hs.queue⟩

/-- What a connect came to is taken over: unless it is live, there is no connection and no
signal. -/
theorem Bare.settle (hs : s.Bare) {endpoint : String} {answer : Answer}
    {outcome : Bool × Bridge.Turn} (h : Bridge.Connects s.closed endpoint answer outcome)
    (hfails : outcome.1 = false) (closesUnrecorded : Bool) :
    (s.settle outcome.1 outcome.2 closesUnrecorded).Bare := by
  cases h with
  | refused notices =>
    show (emitAll _ _).Bare
    rw [emitAll_eq]
    exact ⟨hs.current, hs.queue⟩
  | broken => exact hs
  | cancelled b line =>
    show (s.adopt { bridge := b }).Bare
    rw [adopt_eq _ line]
    exact ⟨hs.current, (List.append_nil _).trans hs.queue⟩
  | accepted => cases hfails

/-- A connect that fails leaves no connection and no signal. -/
theorem Bare.ends_connect (hs : s.Bare) (route : Route) :
    Ends (connect route) s fun live s' => live = false → s'.Bare := by
  intro live s' heq hfails
  have hsettled := (hs.called route).settle (Bridge.connect_cases (s.called route).closed route.text
    (s.around.network s.connects route).answer)
  rw [connect_apply] at heq
  dsimp only at heq
  split at heq
  · cases heq
  · cases heq
    exact hsettled hfails _

theorem Bare.ends_dialRoute (hs : s.Bare) (route : Route) :
    Ends (dialRoute route) s fun _ s' => s'.Settled := by
  unfold dialRoute
  refine ends_bind (hs.ends_connect route) fun live s₁ h₁ => ?_
  cases live with
  | true =>
    refine ends_bind (P := fun _ _ => True) (fun _ _ _ => trivial) fun _ s₂ _ => ?_
    refine ends_bind (P := fun _ _ => True) (fun _ _ _ => trivial) fun _ s₃ _ => ?_
    refine ends_bind (P := fun _ s' => s'.mode = .connected) (ends_left rfl) fun _ s₄ hon => ?_
    intro x s₅ heq
    obtain ⟨rfl, hopen⟩ := ends_write .modem _ s₄ x s₅ heq
    exact ⟨hopen, fun hoff => absurd hon hoff⟩
  | false =>
    refine ends_bind ((h₁ rfl).ends (chores_play _ s₁)) fun _ s₂ h₂ => ?_
    refine ends_bind (h₂.ends (chores_enter _ s₂)) fun _ s₃ h₃ => ?_
    refine ends_bind (h₃.ends_say _) fun _ s₄ ⟨hopen, h₄⟩ => ?_
    exact ends_left ⟨hopen, fun _ => ⟨h₄.current, h₄.queue⟩⟩

theorem Bare.ends_dialEntry (hs : s.Bare) (entry : Entry) :
    Ends (dialEntry entry) s fun _ s' => s'.Settled := by
  unfold dialEntry
  refine ends_bind (hs.ends (chores_announce entry s)) fun _ s₁ h₁ => ?_
  split
  · refine ends_bind (h₁.ends (chores_enter _ s₁)) fun _ s₂ h₂ => ?_
    refine ends_bind (h₂.ends (chores_play _ s₂)) fun _ s₃ h₃ => ?_
    exact h₃.ends_say_enter _ _
  · split
    · refine ends_bind (h₁.ends (chores_tell _ s₁)) fun _ s₂ h₂ => ?_
      exact h₂.ends_say_enter _ _
    · exact h₁.ends_dialRoute _

/-- **A dial puts the session online or makes no connection.** -/
theorem Bare.ends_dial (hs : s.Bare) (number : String) :
    Ends (dial number) s fun _ s' => s'.Settled := by
  have hdial : dial number s = dialTone number s := by
    rw [dial_apply, hs.current]
    rfl
  intro x s' heq
  rw [hdial] at heq
  revert x s'
  show Ends (dialTone number) s _
  unfold dialTone
  refine ends_bind (hs.ends (chores_enter _ s)) fun _ s₁ h₁ => ?_
  refine ends_bind (h₁.ends (chores_play _ s₁)) fun _ s₂ h₂ => ?_
  refine ends_bind (h₂.ends (chores_playTones _ _ s₂)) fun _ s₃ h₃ => ?_
  refine ends_get ?_
  split
  · refine ends_bind (h₃.ends (chores_tell _ s₃)) fun _ s₄ h₄ => ?_
    refine ends_bind (h₄.ends (chores_play _ s₄)) fun _ s₅ h₅ => ?_
    exact h₅.ends_say_enter _ _
  · exact h₃.ends_dialEntry _

/-! ## Typing -/

theorem Talked.bare (h : Talked s s') (hs : s.Bare) : s'.Bare := by
  obtain ⟨_, _, _, rfl, -⟩ := h
  exact ⟨hs.current, hs.queue⟩

theorem Talked.closed (h : Talked s s') : s'.closed = s.closed := by
  obtain ⟨_, _, _, rfl, -⟩ := h
  rfl

theorem Talked.mode (h : Talked s s') : s'.mode = s.mode := by
  obtain ⟨_, _, _, rfl, -⟩ := h
  rfl

theorem ends_execute (hs : s.Bare) (hopen : s.closed = false) (intent : Intent) :
    Ends (execute intent) s fun _ s' => s'.Settled := by
  cases intent with
  | reset | hangUp =>
    refine ends_left ⟨?_, fun _ => Chore.drop.bare hs⟩
    show s.dropConnection.closed = false
    rw [dropConnection, hs.current]
    exact hopen
  | setEcho | setVerbose | acknowledge =>
    exact ends_left ⟨hopen, fun _ => ⟨hs.current, hs.queue⟩⟩
  | escape =>
    refine ends_left ?_
    show (if s.mode = .connected then { s with mode := .command } else s).Settled
    split
    · exact ⟨hopen, fun _ => ⟨hs.current, hs.queue⟩⟩
    · exact ⟨hopen, fun _ => hs⟩
  | goOnline =>
    have hstays : goOnline s = .ok () s := by
      unfold goOnline
      rw [get_apply, hs.current]
      rfl
    intro x s' heq
    cases hstays.symm.trans heq
    exact ⟨hopen, fun _ => hs⟩
  | dial number => exact hs.ends_dial number

/-- Offline and open, without a connection. -/
structure Idle (s : Session) : Prop extends s.Bare where
  opened : s.closed = false
  offline : s.mode ≠ .connected

theorem Idle.ends_typeByte (hs : s.Idle) (byte : UInt8) :
    Ends (typeByte byte) s fun _ s' => s'.Settled := by
  intro x s' heq
  obtain ⟨htalked, -⟩ | ⟨intent, s₁, -, htalked, happly⟩ := typeByte_cases byte s
  · rw [left_ok heq] at htalked
    exact ⟨htalked.closed.trans hs.opened, fun _ => htalked.bare hs.toBare⟩
  · exact ends_execute (htalked.bare hs.toBare) (htalked.closed.trans hs.opened) intent x s'
      (happly.symm.trans heq)

/-- **A session that stays offline stays without a connection**, and open. -/
theorem Idle.feed {data : Bytes} (hs : s.Idle) (h : ∀ p, p <+: data → s.putsOnline p = false)
    (hfeed : feed data s = .ok () s') : s'.Idle := by
  induction data generalizing s with
  | nil =>
    rw [feed_of_offline hs.offline] at hfeed
    cases hfeed
    exact hs
  | cons byte rest ih =>
    cases htype : typeByte byte s with
    | error fault s₁ =>
      rw [feed_of_offline hs.offline, feedBytes_cons hs.offline, htype] at hfeed
      cases hfeed
    | ok _ s₁ =>
      have hsettled := hs.ends_typeByte byte _ s₁ htype
      have hone : Session.feed [byte] s = .ok () s₁ := by
        rw [feed_single hs.offline, htype]
      have hoff := offline_of_feed (h [byte] ⟨rest, rfl⟩) hone
      have hidle : s₁.Idle := ⟨hsettled.bare hoff, hsettled.opened, hoff⟩
      rw [feed_cons hs.offline htype hoff] at hfeed
      refine ih hidle (fun p hp => ?_) hfeed
      have hlonger := h (byte :: p) (List.cons_prefix_cons.mpr ⟨rfl, hp⟩)
      rwa [putsOnline, feed_cons hs.offline htype hoff] at hlonger

/-! ## Whole sessions -/

/-- Between two chunks there is nothing to handle. -/
theorem Idle.converse_cons (hs : s.Idle) (ending : Option String) (chunk : Bytes)
    (rest : List Bytes) :
    converse ending (chunk :: rest) s = (do Session.feed chunk; converse ending rest : Act) s := by
  have hevents : processEvents s = .ok () s := by
    show handleAll s.queue s = _
    rw [hs.queue]
    rfl
  show (if !s.closed then _ else _ : Act) s = _
  rw [hs.opened, if_pos (by decide), bind_apply, hevents]
  rfl

/-- **A session that stays offline comes to the same however its input is cut.** -/
theorem Idle.converse_chunks (hs : s.Idle) (ending : Option String) {chunks : List Bytes}
    (h : ∀ p, p <+: chunks.flatten → s.putsOnline p = false) :
    converse ending chunks s =
      (do Session.feed chunks.flatten; converse ending [] : Act) s := by
  induction chunks generalizing s with
  | nil =>
    rw [bind_apply, List.flatten_nil, feed_of_offline hs.offline]
    rfl
  | cons chunk rest ih =>
    rw [List.flatten_cons] at h ⊢
    have hchunk : ∀ p, p <+: chunk → s.putsOnline p = false :=
      fun p hp => h p (hp.trans (List.prefix_append _ _))
    have hparts : ∀ p, p <+: chunk → p ≠ chunk → s.putsOnline p = false :=
      fun p hp _ => hchunk p hp
    rw [hs.converse_cons, bind_apply, bind_apply]
    cases hfeed : Session.feed chunk s with
    | error fault s₁ => rw [feed_of_failed hs.offline hparts hfeed]
    | ok _ s₁ =>
      have hidle := hs.feed hchunk hfeed
      have hnext := feed_of_fed hs.offline hparts hfeed hidle.offline
      rw [hnext, ← bind_apply]
      refine ih hidle fun p hp => ?_
      have hlonger := h (chunk ++ p) ((List.prefix_append_right_inj chunk).mpr hp)
      rwa [putsOnline, hnext] at hlonger

theorem flatten_chunksOf {size : Nat} (hsize : 0 < size) (data : Bytes) :
    (chunksOf size data).flatten = data := by
  induction data using chunksOf.induct size with
  | case1 data h =>
    rw [chunksOf, dif_pos h]
    obtain hzero | rfl := h
    · exact absurd hzero (Nat.ne_of_gt hsize)
    · rfl
  | case2 data h ih =>
    rw [chunksOf, dif_neg h, List.flatten_cons, ih, List.take_append_drop]

theorem talked_greet (s : Session) : Talked s (left greet s) := by
  show Talked s (left (if s.settings.greeting then writeText greeting else pure ()) s)
  split
  · exact talked_write _ s
  · exact .refl s

/-- A closed session takes nothing from its client. -/
theorem converse_of_closed (hs : s.closed = true) (ending : Option String) (chunks : List Bytes) :
    converse ending chunks s = .ok () s := by
  cases chunks with
  | nil | cons =>
    show (if !s.closed then _ else _ : Act) s = _
    rw [hs]
    rfl

/-- **The size of the chunks does not show** in a session that never goes online. -/
theorem converse_chunksOf (hs : s.Bare) (hoff : s.mode ≠ .connected) {input : Bytes}
    (h : ∀ p, p <+: input → s.putsOnline p = false) {size : Nat} (hsize : 0 < size)
    (ending : Option String) :
    converse ending (chunksOf size input) s =
      if s.closed then .ok () s else (do Session.feed input; converse ending [] : Act) s := by
  cases hclosed : s.closed with
  | true => exact converse_of_closed hclosed ending _
  | false =>
    have hidle : s.Idle := ⟨hs, hclosed, hoff⟩
    rw [← flatten_chunksOf hsize input] at h
    rw [hidle.converse_chunks ending h, flatten_chunksOf hsize]
    rfl

/-- **The cuts in what the client types do not show.** A chunk does the same as its two parts, to
the client, to every line and to the session, unless a proper part of the first one leaves the
session online; and what comes after a part that fails is lost. So the run of a session that has
no connection yet, and that no part of its input puts online, is the same whatever the size in
which the input is read. -/
theorem typing_uncut :
    (∀ (s : Session) (a b : Bytes), s.mode ≠ .connected → b ≠ [] →
      (∀ p, p <+: a → p ≠ a → s.putsOnline p = false) →
      feed (a ++ b) s = (do feed a; feed b : Act) s ∧
        ∀ fault s', feed a s = .error fault s' → feed (a ++ b) s = .error fault s') ∧
    ∀ (s : Session) (input : Bytes), s.mode ≠ .connected → s.current = none → s.queue = [] →
      (∀ s₁, greet s = .ok () s₁ → ∀ p, p <+: input → s₁.putsOnline p = false) →
      ∀ (ending : Option String) (m n : Nat), 0 < m → 0 < n →
        run input m ending s = run input n ending s := by
  refine ⟨fun s a b hoff hb h => ⟨feed_append hoff hb h, fun fault s' hfeed =>
    feed_of_failed hoff h hfeed b⟩, fun s input hoff hcurrent hqueue h ending m n hm hn => ?_⟩
  have hsame : (do greet; converse ending (chunksOf m input) : Act) s =
      (do greet; converse ending (chunksOf n input) : Act) s := by
    rw [bind_apply, bind_apply]
    cases hgreet : greet s with
    | error fault s₁ => rfl
    | ok _ s₁ =>
      have htalked := talked_greet s
      rw [left_ok hgreet] at htalked
      have hbare := htalked.bare ⟨hcurrent, hqueue⟩
      have hoff₁ : s₁.mode ≠ .connected := by rwa [htalked.mode]
      have hinput := h s₁ hgreet
      dsimp only
      rw [converse_chunksOf hbare hoff₁ hinput hm, converse_chunksOf hbare hoff₁ hinput hn]
  unfold run runOver
  rw [show (do greet; attend ending (waitsOf (chunksOf m input)) : Act) s =
    (do greet; attend ending (waitsOf (chunksOf n input)) : Act) s from hsame]

/-- A dial that goes online and a chunk that is cut right after it, and an input that never goes
online, read in chunks of two sizes. -/
theorem typing_uncut_dialed :
    let s := start someSettings someSurroundings
    let dialed := Bytes.ofText "ATD1\r"
    let data := Bytes.ofText "hello"
    let input := Bytes.ofText "ATE0\rATD2\rATH\r"
    ((left (feed (dialed ++ data)) s).received 0 = data ∧ s.putsOnline dialed = true ∧
      s.noCarriers + 1 = (left (run input 1 none) s).noCarriers) ∧
    feed (dialed ++ data) s = (do feed dialed; feed data : Act) s ∧
    run input 1 none s = run input 4 none s := by
  intro s dialed data input
  have hdialed : ∀ p ∈ dialed.inits, p ≠ dialed → s.putsOnline p = false := by decide +kernel
  have hinput : ∀ p ∈ input.inits, (left greet s).putsOnline p = false := by decide +kernel
  refine ⟨by decide +kernel, (typing_uncut.1 s dialed data (by decide) (by decide)
    fun p hp => hdialed p ((List.mem_inits p dialed).mpr hp)).1,
    typing_uncut.2 s input (by decide) rfl rfl (fun s₁ hgreet p hp => ?_) none 1 4
      (by decide) (by decide)⟩
  rw [← left_ok hgreet]
  exact hinput p ((List.mem_inits p input).mpr hp)

end DialUp.Session
