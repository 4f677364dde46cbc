import DialUp.Proofs.Command
import DialUp.Proofs.Session.Equations

/-!
# A command whose answer cannot be delivered has no effect

A command is answered first and carried out after that. So while the client takes nothing, typing
can change the line that is being typed, and nothing else.

* `muted_feed`: a chunk that is typed while writes fail raises at its first write;
* `typeByte_of_intent`: a command is carried out in the state in which its answer was written.
-/

namespace DialUp.Session

variable {s s' : Session} {reason : String}

/-! ## While the client takes nothing -/

/-- **All that comes of typing while the client takes nothing**: the typed line is another one,
and the first write, if there was any, has failed. -/
def Muted (reason : String) (s : Session) (result : EStateM.Result Fault Session Unit) : Prop :=
  ∃ typed, result = .ok () { s with typed } ∨
    result = .error (.clientLost reason) { s with typed, writes := s.writes + 1 }

theorem Muted.refl (reason : String) (s : Session) : Muted reason s (.ok () s) :=
  ⟨s.typed, .inl rfl⟩

theorem Muted.of_typed {typed : List Char} {result : EStateM.Result Fault Session Unit}
    (h : Muted reason { s with typed } result) : Muted reason s result := h

theorem muted_write (h : s.refusal? = some reason) (origin : Origin) (data : Bytes) :
    Muted reason s (write origin data s) :=
  ⟨s.typed, .inr (write_of_refused h origin data)⟩

theorem muted_echoBack (h : s.refusal? = some reason) (data : Bytes) :
    Muted reason s (echoBack data s) := by
  rw [echoBack_apply]
  split
  · exact muted_write h _ _
  · exact .refl reason s

/-- A line is not carried out unless it is answered. -/
theorem muted_handleLine (h : s.refusal? = some reason) (line : String) :
    Muted reason s (handleLine line s) := by
  rw [handleLine_apply, respond_apply]
  by_cases hsilence : (Command.interpret line).response = .silence
  · have hnone : (Command.interpret line).intent = none :=
      (Command.interpretCanonical_silence hsilence).2
    rw [if_pos hsilence, hnone]
    exact .refl reason s
  · rw [if_neg hsilence, writeText, write_of_refused h]
    exact ⟨s.typed, .inr rfl⟩

theorem muted_typeByte (h : s.refusal? = some reason) (byte : UInt8) :
    Muted reason s (typeByte byte s) := by
  have typed : ∀ typed, refusal? { s with typed } = some reason := fun _ => h
  rw [typeByte_apply]
  split
  · split
    · -- The line is complete.
      rw [bind_apply]
      obtain ⟨rest, heq | heq⟩ := muted_echoBack (typed []) [0x0D, 0x0A]
      · rw [heq]
        exact .of_typed (muted_handleLine (typed rest) _)
      · rw [heq]
        exact ⟨rest, .inr rfl⟩
    · exact .refl reason s
  · split
    · split
      · exact .of_typed (muted_echoBack (typed _) _)
      · exact .refl reason s
    · split
      · exact .of_typed (muted_echoBack (typed _) _)
      · exact .refl reason s

/-- **A chunk that is typed while the client takes nothing** raises at its first write. -/
theorem muted_feed (h : s.refusal? = some reason) (hoff : s.mode ≠ .connected) (data : Bytes) :
    Muted reason s (feed data s) := by
  rw [feed_of_offline hoff]
  induction data generalizing s with
  | nil => exact .refl reason s
  | cons byte rest ih =>
    rw [feedBytes_cons hoff]
    obtain ⟨typed, heq | heq⟩ := muted_typeByte h byte
    · rw [heq]
      exact .of_typed (ih (s := { s with typed }) h hoff)
    · rw [heq]
      exact ⟨typed, .inr rfl⟩

/-! ## Commands are answered first -/

/-- The session when the line that is typed has ended, and the client has seen that. -/
def lineEnded (s : Session) : Session :=
  if s.echo then { s with typed := [] }.wrote true .modem [0x0D, 0x0A] else { s with typed := [] }

/-- The session when the line that is typed is answered, before anything is carried out. -/
def answered (s : Session) (response : Response) : Session :=
  s.lineEnded.wrote true .modem (Bytes.ofText response.text)

theorem echo_lineEnd (s : Session) :
    echoBack [0x0D, 0x0A] { s with typed := [] } = .ok () s.lineEnded ∨
      ∃ reason, echoBack [0x0D, 0x0A] { s with typed := [] } =
        .error (.clientLost reason) { s with typed := [], writes := s.writes + 1 } := by
  rw [echoBack_apply]
  unfold lineEnded
  by_cases hecho : s.echo = true
  · rw [if_pos hecho, if_pos hecho]
    obtain ⟨-, hok⟩ | hlost := write_outcome .modem [0x0D, 0x0A] { s with typed := [] }
    · exact .inl hok
    · exact .inr hlost
  · rw [if_neg hecho, if_neg hecho]
    exact .inl rfl

/-- **A command is carried out in the state in which its answer was written.** If the answer, or
the echo before it, cannot be written, it is not carried out at all. -/
theorem typeByte_of_intent {byte : UInt8} {intent : Intent} (h : s.intent? byte = some intent) :
    let response := (Command.interpret (String.ofList s.typed.reverse)).response
    response ≠ .silence ∧
      (typeByte byte s = execute intent (s.answered response) ∨
        ∃ reason writes, typeByte byte s =
            .error (.clientLost reason) { s with typed := [], writes } ∨
          typeByte byte s = .error (.clientLost reason) { s.lineEnded with writes }) := by
  intro response
  unfold intent? at h
  by_cases hline : ((byte == 0x0D || byte == 0x0A) && !s.typed.isEmpty) = true
  · rw [if_pos hline] at h
    obtain ⟨hend, htyped⟩ := (Bool.and_eq_true _ _).mp hline
    have hanswer : response ≠ .silence := Command.response_ne_silence h
    refine ⟨hanswer, ?_⟩
    rw [typeByte_apply, if_pos hend, if_pos htyped, bind_apply]
    obtain hecho | ⟨reason, hlost⟩ := s.echo_lineEnd
    · rw [hecho]
      dsimp only
      rw [handleLine_apply, respond_apply, if_neg hanswer, h, writeText]
      obtain ⟨-, hok⟩ | ⟨reason, hlost⟩ :=
        write_outcome .modem (Bytes.ofText response.text) s.lineEnded
      · rw [hok]
        exact .inl rfl
      · rw [hlost]
        exact .inr ⟨reason, _, .inr rfl⟩
    · rw [hlost]
      exact .inr ⟨reason, _, .inl rfl⟩
  · rw [if_neg hline] at h
    cases h

/-- **A command whose answer cannot be delivered has no effect.** A chunk that is typed while the
client takes nothing changes the line being typed and nothing else, neither in the session nor on
any line nor in what was done so far, and it raises as soon as something is to be written. And
always, with or without echo, a command is carried out only in the state in which its answer,
which is never empty, was written. -/
theorem undelivered_no_effect (s : Session) (hoff : s.mode ≠ .connected) :
    (∀ reason data, s.refusal? = some reason →
      ∃ typed, feed data s = .ok () { s with typed } ∨
        feed data s = .error (.clientLost reason) { s with typed, writes := s.writes + 1 }) ∧
    ∀ byte intent, s.intent? byte = some intent →
      let response := (Command.interpret (String.ofList s.typed.reverse)).response
      response ≠ .silence ∧
        (typeByte byte s = execute intent (s.answered response) ∨
          ∃ reason writes, typeByte byte s =
              .error (.clientLost reason) { s with typed := [], writes } ∨
            typeByte byte s = .error (.clientLost reason) { s.lineEnded with writes }) :=
  ⟨fun _ data hrefused => muted_feed hrefused hoff data, fun _ _ h => typeByte_of_intent h⟩

/-- A client that is lost after its fifteenth write. -/
def lostSurroundings : Surroundings where
  network := someSurroundings.network
  clientFault n := if 15 ≤ n then some "gone" else none

/-- An escape from a connection that has more to tell, and a command typed without echo. -/
def hangUpCalls : List Call :=
  [.feed (Bytes.ofText "ATD1\r"), .events, .feed escapeBytes, .feed (Bytes.ofText "ATE0\r"),
    .remote 0 [.deliver [0x62]], .events, .remote 0 [.deliver [0x63]], .feed (Bytes.ofText "ATH")]

/-- The command to hang up is complete when the client is lost, and the line stays open. -/
theorem undelivered_no_effect_hangUp :
    let s := (start someSettings lostSurroundings).after hangUpCalls
    (s.mode = .command ∧ s.refusal? = some "gone" ∧ s.intent? 0x0D = some .hangUp ∧
      s.held = [[0x62]] ∧ s.openLines = [0] ∧ (left (feed [0x0D]) s).openLines = [0] ∧
      (left (feed [0x0D]) s).typed = []) ∧
    (∃ typed, feed [0x0D] s = .ok () { s with typed } ∨
      feed [0x0D] s = .error (.clientLost "gone") { s with typed, writes := s.writes + 1 }) ∧
    Response.ok ≠ .silence ∧
      (typeByte 0x0D s = execute .hangUp (s.answered .ok) ∨
        ∃ reason writes, typeByte 0x0D s =
            .error (.clientLost reason) { s with typed := [], writes } ∨
          typeByte 0x0D s = .error (.clientLost reason) { s.lineEnded with writes }) := by
  intro s
  have hstate : s.mode = .command ∧ s.refusal? = some "gone" ∧ s.intent? 0x0D = some .hangUp ∧
      s.held = [[0x62]] ∧ s.openLines = [0] ∧ (left (feed [0x0D]) s).openLines = [0] ∧
      (left (feed [0x0D]) s).typed = [] := by decide +kernel
  have hoff : s.mode ≠ .connected := by
    rw [hstate.1]
    decide
  have hanswer : (Command.interpret (String.ofList s.typed.reverse)).response = .ok := by
    decide +kernel
  obtain ⟨hmuted, hcommand⟩ := undelivered_no_effect s hoff
  have hhangUp := hcommand 0x0D .hangUp hstate.2.2.1
  rw [hanswer] at hhangUp
  exact ⟨hstate, hmuted "gone" [0x0D] hstate.2.1, hhangUp⟩

end DialUp.Session
