import DialUp.Proofs.Session.Dialing
import DialUp.Proofs.Session.Online

/-!
# The law of command mode

* `goes_typeByte`: a byte typed in command mode leaves a session that was at rest at rest, and
  leads to `NO CARRIER` exactly if it completes the command of a dial that fails.
-/

namespace DialUp.Session

variable {s s' : Session}

/-- The intent of the command that a typed byte completes. -/
def intent? (s : Session) (byte : UInt8) : Option Intent :=
  if (byte == 0x0D || byte == 0x0A) && !s.typed.isEmpty then
    (Command.interpret (String.ofList s.typed.reverse)).intent
  else none

/-- Carrying out the intent, if there is one, is a dial that fails. -/
def intentFails (s : Session) : Option Intent → Bool
  | some (.dial number) => s.dialFails number
  | _ => false

theorem Dialed.moved {fails : Bool} (h : Dialed s s' fails) : Moved s s' (newsOf fails) where
  rest _ := h.rest
  told := h.told

theorem Moved.of_aside {news : List Effect} {s'' : Session} (h : Moved s' s'' news)
    (ha : Aside s s') : Moved s s'' news where
  rest hr := h.rest (ha.atRest hr)
  told hopen := by rw [h.told hopen, ha.news]

/-- The session has moved, but its dial broke down. -/
def BrokenMove (s : Session) (news : List Effect) (b : Breakdown) (s' : Session) : Prop :=
  Moved s s' news ∧ s'.Stranded b

theorem Broke.moved {fails : Bool} {b : Breakdown} (h : Broke s fails b s') :
    BrokenMove s (newsOf fails) b s' :=
  ⟨⟨fun _ => h.stranded.atRest, fun _ => h.news⟩, h.stranded⟩

theorem Hung.moved (h : Hung s s') : Moved s s' [] where
  rest _ := ⟨.inl h.mode, fun hon => nomatch h.mode.symm.trans hon⟩
  told _ := h.news

theorem goes_execute (hs : s.Sound) (hoff : s.mode ≠ .connected) (htyped : s.typed = [])
    (intent : Intent) :
    GoesOr (BrokenMove s (newsOf (s.intentFails (some intent)))) s (execute intent) s fun _ s' =>
      Moved s s' (newsOf (s.intentFails (some intent))) := by
  cases intent with
  | reset | hangUp =>
    exact goes_modify (ticks_dropConnection hs) (hung_dropConnection s).moved
  | setEcho enabled =>
    exact goes_modify (.single (.flags enabled s.verbose))
      (Aside.moved ⟨rfl, rfl, rfl, rfl, rfl, rfl, rfl⟩)
  | setVerbose enabled =>
    exact goes_modify (.single (.flags s.echo enabled))
      (Aside.moved ⟨rfl, rfl, rfl, rfl, rfl, rfl, rfl⟩)
  | escape =>
    refine goes_modify ?_ ?_
    · rw [if_neg hoff]
    · rw [if_neg hoff]
      exact (Aside.refl s).moved
  | goOnline => exact goes_last (goes_goOnline htyped) fun _ _ _ h => h
  | dial number =>
    exact goes_mono_or (goes_dial hs htyped number) (fun _ _ _ h => h.moved) fun _ _ _ h => h.moved
  | acknowledge => exact goes_pure .refl (Aside.refl s).moved

/-- No response of the command set is a lost carrier. -/
theorem goes_respond (response : Response) :
    Goes s (respond response) s fun _ s' => Aside s s' := by
  unfold respond
  split
  · exact goes_pure .refl (.refl s)
  · refine goes_reply _ ?_
    cases response <;> decide

theorem intentFails_congr (hl : Later s s') (hc : s'.connects = s.connects)
    (intent : Option Intent) : s'.intentFails intent = s.intentFails intent := by
  unfold intentFails
  split
  · exact dialFails_congr hl hc _
  · rfl

theorem goes_handleLine (hs : s.Sound) (hoff : s.mode ≠ .connected) (htyped : s.typed = [])
    (line : String) :
    GoesOr (BrokenMove s (newsOf (s.intentFails (Command.interpret line).intent))) s
      (handleLine line) s fun _ s' =>
        Moved s s' (newsOf (s.intentFails (Command.interpret line).intent)) := by
  unfold handleLine
  refine goes_bind (goes_respond _) fun _ s₁ ht₁ h₁ => ?_
  rw [← intentFails_congr ht₁.later h₁.connects]
  split
  · rename_i intent hintent
    rw [hintent]
    refine goes_mono_or (goes_execute (ht₁.sound hs) (by rw [h₁.mode]; exact hoff)
      (h₁.typed.trans htyped) intent) (fun _ _ _ h => h.of_aside h₁)
      fun _ _ _ h => ⟨h.1.of_aside h₁, h.2⟩
  · rename_i hintent
    rw [hintent]
    exact goes_pure .refl (Moved.of_aside (Aside.refl s₁).moved h₁)

theorem goes_echoBack {data : Bytes} (h : (Effect.output .modem data).isNews = false) :
    Goes s (echoBack data) s fun _ s' => Aside s s' := by
  unfold echoBack
  refine goes_get ?_
  split
  · refine goes_mono (goes_say data) fun _ s' _ h' => ?_
    rw [h']
    exact aside_wrote h
  · exact goes_pure .refl (.refl s)

/-- The line is changed and the client sees it. -/
theorem goes_edit (hoff : s.mode ≠ .connected) (typed : List Char) {data : Bytes}
    (h : (Effect.output .modem data).isNews = false) :
    Goes s (do set { s with typed }; echoBack data) s fun _ s' =>
      Aside { s with typed } s' := by
  refine goes_bind (goes_set (.single (.type typed hoff))) fun _ s₁ _ h₁ => ?_
  subst h₁
  exact goes_echoBack h

theorem AtRest.typed (h : s.AtRest) (typed : List Char) : ({ s with typed } : Session).AtRest where
  mode := by
    obtain hmode | hmode | ⟨b, hb⟩ := h.mode
    · exact .inl hmode
    · exact .inr (.inl hmode)
    · exact .inr (.inr ⟨b, hb.mode, hb.current, hb.answer⟩)
  held := h.held

theorem Aside.moved_of_typed {typed : List Char} (h : Aside { s with typed } s') :
    Moved s s' [] where
  rest hr := h.atRest (hr.typed typed)
  told _ := h.news

/-- **One byte typed in command mode**. -/
theorem goes_typeByte (hs : s.Sound) (hoff : s.mode ≠ .connected) (byte : UInt8) :
    GoesOr (BrokenMove s (newsOf (s.intentFails (s.intent? byte)))) s (typeByte byte) s
      fun _ s' => Moved s s' (newsOf (s.intentFails (s.intent? byte))) := by
  unfold typeByte
  refine goes_get ?_
  by_cases hend : (byte == 0x0D || byte == 0x0A) = true
  · rw [if_pos hend]
    by_cases hline : (!s.typed.isEmpty) = true
    · -- A line is complete; what was typed is forgotten before it is answered.
      rw [if_pos hline]
      refine goes_bind (goes_set (.single (.type [] hoff))) fun _ s₁ ht₁ h₁ => ?_
      refine goes_bind (goes_echoBack (by decide)) fun _ s₂ ht₂ h₂ => ?_
      have hl := Ticks.later (ht₁.trans ht₂)
      have hs₂ := ht₂.sound (ht₁.sound hs)
      rw [h₁] at h₂
      have hintent : s.intent? byte =
          (Command.interpret (String.ofList s.typed.reverse)).intent := by
        rw [intent?, hend, hline]
        rfl
      rw [hintent, ← intentFails_congr hl h₂.connects]
      have hoff₂ : s₂.mode ≠ .connected := by rw [h₂.mode]; exact hoff
      have htyped₂ : s₂.typed = [] := h₂.typed
      have hnews₂ : s₂.news = s.news := h₂.news
      have moved {s' : Session} {news : List Effect} (h' : Moved s₂ s' news) :
          Moved s s' news := by
        refine ⟨fun hr => h'.rest (h₂.atRest (hr.typed [])), ?_⟩
        rw [← hnews₂]
        exact h'.told
      exact goes_mono_or (goes_handleLine hs₂ hoff₂ htyped₂ _) (fun _ _ _ h' => moved h')
        fun _ _ _ h' => ⟨moved h'.1, h'.2⟩
    · rw [if_neg hline, show s.intent? byte = none by simp [intent?, hline]]
      exact goes_pure .refl (Aside.refl s).moved
  · rw [if_neg hend, show s.intent? byte = none by simp [intent?, hend]]
    split
    · split
      · exact goes_last (goes_edit hoff _ (by decide)) fun _ _ _ h => h.moved_of_typed
      · exact goes_pure .refl (Aside.refl s).moved
    · split
      · have hnews : (Effect.output .modem [byte]).isNews = false :=
          beq_false_of_ne fun heq => nomatch (List.cons.inj heq).2
        exact goes_last (goes_edit hoff _ hnews) fun _ _ _ h => h.moved_of_typed
      · exact goes_pure .refl (Aside.refl s).moved

end DialUp.Session
