import DialUp.Proofs.Session.Discarded
import DialUp.Proofs.Session.Escape
import DialUp.Proofs.Session.Lasting

/-!
# What ends a line

A carriage return ends the line that is being typed, and so does a line feed. With both, the second
one finds nothing typed, and a line that is empty is passed over. That is, unless the line has put
the session online: what comes behind it is online data then, and be it the line feed that was
meant to end the line.

* `talked_feed`: nothing happens to what is typed before the line is ended;
* `typed_lineEnd`: nothing is typed once it is;
* `feed_lineFeed`: so a line feed on its own does nothing, or is forwarded;
* `online_iff_intent`: only a dial and the command to go back online make that difference.
-/

namespace DialUp.Session

variable {s s' : Session} {line : Bytes} {byte : UInt8} {α β : Type}

/-- Carriage return. -/
abbrev cr : UInt8 := 0x0D

/-- Line feed. -/
abbrev lf : UInt8 := 0x0A

/-- No byte of the line ends it. -/
def Unended (line : Bytes) : Prop := ∀ byte ∈ line, byte ≠ cr ∧ byte ≠ lf

instance (line : Bytes) : Decidable (Unended line) :=
  inferInstanceAs (Decidable (∀ byte ∈ line, _))

/-! ## Before the end -/

theorem talked_typeByte (h : byte ≠ cr ∧ byte ≠ lf) (s : Session) :
    Talked s (left (typeByte byte) s) := by
  obtain ⟨htalked, -⟩ | ⟨intent, _, hintent, -, -⟩ := typeByte_cases byte s
  · exact htalked
  · have hnone : s.intent? byte = none := by simp [intent?, h.1, h.2]
    cases hintent.symm.trans hnone

/-- **A line that is not ended is typed**, and that is all. -/
theorem talked_feed (hline : Unended line) (hoff : s.mode ≠ .connected) :
    Talked s (left (feed line) s) := by
  induction line generalizing s with
  | nil =>
    rw [left_congr (feed_of_offline hoff [])]
    exact .refl s
  | cons byte rest ih =>
    obtain ⟨hbyte, hrest⟩ := List.forall_mem_cons.mp hline
    have htalked := talked_typeByte hbyte s
    rw [left_congr (feed_of_offline hoff _), left, feedBytes_cons hoff]
    cases htype : typeByte byte s with
    | error fault s₁ => rwa [left_error htype] at htalked
    | ok _ s₁ =>
      rw [left_ok htype] at htalked
      have hoff₁ : s₁.mode ≠ .connected := by rwa [htalked.mode]
      have hmore := ih hrest hoff₁
      rw [left_congr (feed_of_offline hoff₁ rest)] at hmore
      exact htalked.trans hmore

theorem putsOnline_unended (hline : Unended line) (hoff : s.mode ≠ .connected) :
    s.putsOnline line = false := by
  have htalked := talked_feed hline hoff
  unfold putsOnline
  cases hfeed : feed line s with
  | error => rfl
  | ok _ s₁ =>
    rw [left_ok hfeed] at htalked
    exact beq_false_of_ne (by rwa [htalked.mode])

theorem Unended.of_prefix {p : Bytes} (hline : Unended line) (h : p <+: line) : Unended p :=
  fun byte hbyte => hline byte (h.subset hbyte)

/-! ## The end -/

/-- Nothing is typed. -/
def Untyped (s : Session) : Prop := s.typed = []

theorem Untyped.write (h : s.Untyped) (origin : Origin) (data : Bytes) :
    (left (write origin data) s).Untyped := by
  obtain ⟨ok, heq⟩ := left_write origin data s
  obtain ⟨_, _, hkept⟩ := wrote_kept s ok origin data
  rw [heq, hkept]
  exact h

theorem Untyped.echoBack (h : s.Untyped) (data : Bytes) : (left (echoBack data) s).Untyped := by
  show (left (if s.echo then Session.write .modem data else pure () : Act) s).Untyped
  split
  · exact h.write .modem data
  · exact h

theorem Chore.untyped {calls : Bool} (h : Chore calls s s') (hs : s.Untyped) : s'.Untyped := by
  cases h with
  | note | edit | call => exact hs
  | say ok data =>
    obtain ⟨_, _, heq⟩ := wrote_kept s ok .modem data
    rw [heq]
    exact hs
  | close => exact (aside_close s).typed.trans hs
  | drop => exact (hung_dropConnection s).typed.trans hs
  | settle live turn closes =>
    obtain ⟨_, _, _, _, _, heq, -⟩ := settle_side s live turn closes
    rw [heq]
    exact hs

theorem Untyped.execute (h : s.Untyped) (intent : Intent) : (left (execute intent) s).Untyped := by
  cases intent with
  | reset | hangUp => exact (Chore.drop : Chore false s _).untyped h
  | setEcho | setVerbose | acknowledge => exact h
  | escape =>
    show (if s.mode = .connected then { s with mode := .command } else s).Untyped
    split <;> exact h
  | goOnline =>
    obtain ⟨_, _, _, _, _, heq, -⟩ := left_goOnline s
    show (left goOnline s).Untyped
    rw [heq]
    exact h
  | dial number => exact (chores_dial number s).keep Chore.untyped h

theorem Untyped.handleLine (h : s.Untyped) (text : String) :
    (left (handleLine text) s).Untyped := by
  refine keep_bind ?_ fun _ s₁ h₁ => ?_
  · unfold respond
    split
    · exact h
    · exact h.write .modem _
  · cases (Command.interpret text).intent with
    | none => exact h₁
    | some intent => exact h₁.execute intent

/-- **Nothing is typed once the line is ended.** -/
theorem typed_lineEnd (hend : byte = cr ∨ byte = lf) (s : Session) :
    (left (typeByte byte) s).typed = [] := by
  have hline : (byte == 0x0D || byte == 0x0A) = true := by simpa using hend
  have htype := typeByte_apply byte s
  rw [if_pos hline] at htype
  by_cases htyped : s.typed = []
  · rw [if_neg (by simp [htyped])] at htype
    rw [left_ok htype, htyped]
  · rw [if_pos (by simpa using htyped)] at htype
    rw [left_congr htype]
    have hempty : ({ s with typed := [] } : Session).Untyped := rfl
    exact keep_bind (P := Untyped) (hempty.echoBack _) fun _ s₁ h₁ => h₁.handleLine _

/-- A line feed ends a line like a carriage return. -/
theorem typeByte_lineFeed (s : Session) : typeByte lf s = typeByte cr s := by
  rw [typeByte_apply, typeByte_apply]
  rfl

/-- A line and what ends it are fed one after the other. -/
theorem feed_lineEnd (hline : Unended line) (hoff : s.mode ≠ .connected) (byte : UInt8) :
    feed (line ++ [byte]) s = (do feed line; typeByte byte : Act) s := by
  rw [feed_append hoff (by simp) fun p hp _ => putsOnline_unended (hline.of_prefix hp) hoff,
    bind_apply, bind_apply]
  have htalked := talked_feed hline hoff
  cases hfeed : feed line s with
  | error => rfl
  | ok _ s₁ =>
    rw [left_ok hfeed] at htalked
    exact feed_single (by rwa [htalked.mode]) byte

/-- **Behind the end of a line a line feed does nothing**, but where the line has gone online. -/
theorem feed_lineFeed (htyped : s.typed = []) :
    feed [lf] s = if s.mode = .connected then forward [lf] s else .ok () s := by
  split
  · rename_i hon
    show (if s.mode = .connected then _ else _ : Act) s = _
    rw [if_pos hon]
  · rename_i hoff
    rw [feed_single hoff, typeByte_apply, if_pos (by decide), if_neg (by simp [htyped])]

theorem feed_both (hline : Unended line) (hoff : s.mode ≠ .connected) :
    feed (line ++ [cr, lf]) s =
      match feed (line ++ [cr]) s with
      | .ok _ s' => if s'.mode = .connected then forward [lf] s' else .ok () s'
      | .error fault s' => .error fault s' := by
  have hparts : ∀ p, p <+: line ++ [cr] → p ≠ line ++ [cr] → s.putsOnline p = false := by
    intro p hp hne
    obtain heq | hp := List.prefix_concat_iff.mp hp
    · exact absurd heq hne
    · exact putsOnline_unended (hline.of_prefix hp) hoff
  rw [show line ++ [cr, lf] = (line ++ [cr]) ++ [lf] by simp, feed_append hoff (by simp) hparts,
    bind_apply]
  cases hfeed : feed (line ++ [cr]) s with
  | error => rfl
  | ok _ s' =>
    refine feed_lineFeed ?_
    rw [feed_lineEnd hline hoff, bind_apply] at hfeed
    cases hfirst : feed line s with
    | error fault s₁ =>
      rw [hfirst] at hfeed
      cases hfeed
    | ok _ s₁ =>
      rw [hfirst] at hfeed
      rw [← left_ok hfeed]
      exact typed_lineEnd (.inl rfl) s₁

/-! ## Lines that go online -/

/-- Only a dial and the command to go back online put a session online. -/
theorem offline_execute {intent : Intent} (hdial : ∀ number, intent ≠ .dial number)
    (honline : intent ≠ .goOnline) (hoff : s.mode ≠ .connected) :
    (left (execute intent) s).mode ≠ .connected := by
  cases intent with
  | reset | hangUp =>
    show s.dropConnection.mode ≠ _
    rw [(hung_dropConnection s).mode]
    decide
  | setEcho | setVerbose | acknowledge => exact hoff
  | escape =>
    show (if s.mode = .connected then { s with mode := .command } else s).mode ≠ _
    rw [if_neg hoff]
    exact hoff
  | goOnline => exact absurd rfl honline
  | dial number => exact absurd rfl (hdial number)

/-- **A byte that puts a session online completes one of two commands.** -/
theorem online_iff_intent (hoff : s.mode ≠ .connected)
    (hon : (left (typeByte byte) s).mode = .connected) :
    s.intent? byte = some .goOnline ∨ ∃ number, s.intent? byte = some (.dial number) := by
  obtain ⟨htalked, -⟩ | ⟨intent, s₁, hintent, htalked, htype⟩ := typeByte_cases byte s
  · exact absurd (htalked.mode.symm.trans hon) hoff
  · rw [left_congr htype] at hon
    have hoff₁ : s₁.mode ≠ .connected := by rwa [htalked.mode]
    by_cases honline : intent = .goOnline
    · exact .inl (by rw [hintent, honline])
    · by_cases hdial : ∃ number, intent = .dial number
      · obtain ⟨number, rfl⟩ := hdial
        exact .inr ⟨number, hintent⟩
      · exact absurd hon
          (offline_execute (fun number h => hdial ⟨number, h⟩) honline hoff₁)

/-- **Forwarding shows exactly if the connection is live**: the line gets the data then, or the
connection ends. -/
theorem forward_eq_self_iff (hs : s.Steady) (hon : s.mode = .connected) {data : Bytes}
    (hdata : data ≠ escapeBytes) (hne : data ≠ []) :
    forward data s = .ok () s ↔ s.bridge?.any Bridge.connected = false := by
  obtain ⟨i, hc, hforward⟩ := forward_of_online hs hon hdata
  obtain ⟨b, hb⟩ : ∃ b, s.bridges[i]? = some b :=
    ⟨_, List.getElem?_eq_getElem (hs.sound.wired.current_lt i hc)⟩
  have hbridge : s.bridge? = some b := by rw [bridge?, hc, Option.bind_some, hb]
  rw [hforward, hbridge, Option.any_some]
  constructor
  · intro hsame
    have hsame : s.onBridge i (·.send s.closed data) = s := by
      simpa only [EStateM.Result.ok.injEq, true_and] using hsame
    have hsent : (b.send s.closed data).bridge = b := by
      have hget := getElem?_onBridge (·.send s.closed data) hb i
      rw [if_pos rfl, hsame, hb] at hget
      exact (Option.some.inj hget).symm
    cases haccepts : b.accepts with
    | true =>
      have hreceived := b.received_send s.closed data
      rw [hsent, haccepts, if_pos rfl] at hreceived
      exact absurd (List.self_eq_append_right.mp hreceived) hne
    | false =>
      have hsound := hs.sound.wired.sound b (List.mem_of_getElem? hb)
      have hdead := Bridge.dead_of_refused hsound haccepts s.closed data
      rwa [hsent] at hdead
  · intro hdead
    have hidle : b.send s.closed data = { bridge := b } := by
      unfold Bridge.send
      rw [hdead]
    have hset : s.bridges.set i b = s.bridges := by
      obtain ⟨hlt, rfl⟩ := List.getElem?_eq_some_iff.mp hb
      exact List.set_getElem_self hlt
    rw [onBridge_some hb, hidle]
    simp [hset]

/-! ## The result -/

theorem received_unended (hline : Unended line) (hoff : s.mode ≠ .connected) (i : Nat) :
    (left (feed line) s).received i = s.received i := by
  obtain ⟨_, _, _, heq, -⟩ := talked_feed hline hoff
  rw [heq]
  rfl

/-- No line gets anything of what is typed, up to the byte that ends it. -/
theorem received_lineEnd (hline : Unended line) (hoff : s.mode ≠ .connected) (byte : UInt8)
    (i : Nat) : (left (feed (line ++ [byte])) s).received i = s.received i := by
  rw [left_congr (feed_lineEnd hline hoff byte), left_bind, ← received_unended hline hoff i]
  cases hfeed : feed line s with
  | error => rw [left_error hfeed]
  | ok _ s₁ =>
    rw [left_ok hfeed]
    exact received_typeByte byte s₁ i

/-- **Both ends together do the same as one**, unless that one goes online with a live
connection. -/
theorem feed_both_eq_iff (hs : s.Steady) (hline : Unended line) (hoff : s.mode ≠ .connected) :
    feed (line ++ [cr, lf]) s = feed (line ++ [cr]) s ↔
      ¬ (s.putsOnline (line ++ [cr]) = true ∧
        (left (feed (line ++ [cr])) s).bridge?.any Bridge.connected = true) := by
  have hboth := feed_both hline hoff
  have hs' : (left (feed (line ++ [cr])) s).Steady :=
    (path_call hs (.feed (line ++ [cr]))).steady hs
  unfold putsOnline
  cases hfeed : feed (line ++ [cr]) s with
  | error fault s' =>
    rw [hfeed] at hboth
    exact iff_of_true hboth fun h => nomatch h.1
  | ok _ s' =>
    rw [hfeed] at hboth
    rw [left_ok hfeed] at hs' ⊢
    rw [hboth]
    by_cases hon : s'.mode = .connected
    · simp only [hon, if_true]
      rw [forward_eq_self_iff hs' hon (by decide) (by decide)]
      simp
    · simp [hon]

/-- **What a line gets of both ends**: the second one, if the first one goes online with it and it
takes what is sent. -/
theorem received_both (hline : Unended line) (hoff : s.mode ≠ .connected) (i : Nat) :
    let s' := left (feed (line ++ [cr])) s
    (left (feed (line ++ [cr, lf])) s).received i = s.received i ++
      if s.putsOnline (line ++ [cr]) = true ∧ s'.current = some i ∧
          s'.bridges[i]?.any Bridge.accepts = true then [lf] else [] := by
  have hboth := feed_both hline hoff
  have hreceived := received_lineEnd hline hoff cr i
  unfold putsOnline
  cases hfeed : feed (line ++ [cr]) s with
  | error fault s' =>
    rw [hfeed] at hboth
    rw [left_error hfeed] at hreceived
    rw [left_error hboth, hreceived]
    simp
  | ok _ s' =>
    rw [hfeed] at hboth
    rw [left_ok hfeed] at hreceived ⊢
    by_cases hon : s'.mode = .connected
    · have hforward : feed (line ++ [cr, lf]) s = forward [lf] s' := by simpa [hon] using hboth
      rw [left_congr hforward, received_forward, hreceived]
      simp [Moment.sent, escapeBytes, hon]
    · have hsame : feed (line ++ [cr, lf]) s = .ok () s' := by simpa [hon] using hboth
      rw [left_ok hsame, hreceived]
      simp [hon]

/-- A line that goes online is a dial or the command to go back online. -/
theorem intent_of_putsOnline (hline : Unended line) (hoff : s.mode ≠ .connected)
    (h : s.putsOnline (line ++ [cr]) = true) : ∃ s₁, feed line s = .ok () s₁ ∧
      (s₁.intent? cr = some .goOnline ∨ ∃ number, s₁.intent? cr = some (.dial number)) := by
  have htalked := talked_feed hline hoff
  rw [putsOnline, feed_lineEnd hline hoff, bind_apply] at h
  cases hfirst : feed line s with
  | error fault s₁ =>
    rw [hfirst] at h
    cases h
  | ok _ s₁ =>
    rw [hfirst] at h
    rw [left_ok hfirst] at htalked
    refine ⟨s₁, rfl, online_iff_intent (by rwa [htalked.mode]) ?_⟩
    cases htype : typeByte cr s₁ with
    | error fault s₂ =>
      simp only [htype] at h
      cases h
    | ok _ s₂ =>
      simp only [htype] at h
      rw [left_ok htype]
      exact eq_of_beq h

/-- **What ends a line.** In a run, let a session that is offline be fed a line. A line feed ends
it just as a carriage return does, and no line gets a byte by either. Both together do the same as
one of them, unless that one has put the session online with a live connection; then, and only
then, they differ, for the line feed is sent, and the current line gets it if it takes it. No
command does that but a dial and the one to go back online. -/
theorem line_ends_alike (settings : Settings) (around : Surroundings) (calls : List Call) (n : Nat)
    (line : Bytes) (hline : Unended line)
    (hoff : ((start settings around).point calls n).mode ≠ .connected) :
    let s := (start settings around).point calls n
    let s' := left (feed (line ++ [cr])) s
    feed (line ++ [lf]) s = feed (line ++ [cr]) s ∧
    (∀ i, s'.received i = s.received i) ∧
    (feed (line ++ [cr, lf]) s = feed (line ++ [cr]) s ↔
      ¬ (s.putsOnline (line ++ [cr]) = true ∧ s'.bridge?.any Bridge.connected = true)) ∧
    (∀ i, (left (feed (line ++ [cr, lf])) s).received i = s.received i ++
      if s.putsOnline (line ++ [cr]) = true ∧ s'.current = some i ∧
          s'.bridges[i]?.any Bridge.accepts = true then [lf] else []) ∧
    (s.putsOnline (line ++ [cr]) = true → ∃ s₁, feed line s = .ok () s₁ ∧
      (s₁.intent? cr = some .goOnline ∨ ∃ number, s₁.intent? cr = some (.dial number))) := by
  intro s s'
  have hstart := steady_start settings around
  have hsteady : s.Steady := (path_point hstart calls n).steady hstart
  refine ⟨?_, received_lineEnd hline hoff cr, feed_both_eq_iff hsteady hline hoff,
    received_both hline hoff, intent_of_putsOnline hline hoff⟩
  rw [feed_lineEnd hline hoff, feed_lineEnd hline hoff, bind_apply, bind_apply]
  simp only [typeByte_lineFeed]

/-- A connection from which the client has escaped. -/
def escapedCalls : List Call := [.feed (Bytes.ofText "ATD1\r"), .feed escapeBytes]

/-- With a connection that is live, a command to hang up that has both ends does what it does with
one, and the line gets nothing. -/
theorem line_ends_alike_hangUp :
    let s := (start someSettings someSurroundings).point escapedCalls 6
    let line := Bytes.ofText "ATH"
    (Unended line ∧ s.mode = .command ∧ s.openLines = [0] ∧
      (left (feed (line ++ [cr])) s).openLines = []) ∧
    feed (line ++ [lf]) s = feed (line ++ [cr]) s ∧
    feed (line ++ [cr, lf]) s = feed (line ++ [cr]) s ∧
    (left (feed (line ++ [cr, lf])) s).received 0 = s.received 0 := by
  intro s line
  have hline : Unended line := by decide +kernel
  have hoff : s.mode ≠ .connected := by decide +kernel
  obtain ⟨hlineFeed, -, hboth, hreceived, -⟩ :=
    line_ends_alike someSettings someSurroundings escapedCalls 6 line hline hoff
  refine ⟨by decide +kernel, hlineFeed, hboth.mpr (by decide +kernel), ?_⟩
  have honline : s.putsOnline (line ++ [cr]) = false := by decide +kernel
  exact (hreceived 0).trans (by simp [s, honline])

/-- The remote end gets the line feed behind a dial, and the one behind the command to go back
online. -/
theorem lineFeed_sent :
    let s := start someSettings someSurroundings
    let dial := Bytes.ofText "ATD1"
    let escaped := s.point escapedCalls 6
    let back := Bytes.ofText "ATO"
    (s.mode = .command ∧ Unended dial ∧ (left (feed (dial ++ [cr])) s).received 0 = [] ∧
      (left (feed (dial ++ [cr, lf])) s).received 0 = [lf]) ∧
    (escaped.mode = .command ∧ Unended back ∧
      (left (feed (back ++ [cr])) escaped).received 0 = [] ∧
      (left (feed (back ++ [cr, lf])) escaped).received 0 = [lf]) ∧
    feed (dial ++ [cr, lf]) s ≠ feed (dial ++ [cr]) s := by
  intro s dial escaped back
  have hgets : (left (feed (dial ++ [cr])) s).received 0 = [] ∧
      (left (feed (dial ++ [cr, lf])) s).received 0 = [lf] := by decide +kernel
  refine ⟨⟨rfl, by decide +kernel, hgets⟩, by decide +kernel, fun hsame => ?_⟩
  have hreceived := hgets.2
  rw [left, hsame, ← left, hgets.1] at hreceived
  cases hreceived

end DialUp.Session
