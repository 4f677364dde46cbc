import DialUp.Proofs.Command
import DialUp.Proofs.Text.Capital

/-!
# Responses and intents fit together

* `fits_interpret`: a line that is not understood asks for nothing, and `CONNECT` is the answer to a
  return to online mode and to nothing else;
* `interpret_silence_iff`, `interpretCanonical_error_iff`: which lines have no text, and which are
  not understood;
* `reply_by_line`: what the answer to a line is, by the line, and what goes with it.
-/

namespace DialUp

/-! ## The texts of the responses -/

theorem Response.text_inj (response other : Response) :
    response.text = other.text ↔ response = other := by
  cases response <;> cases other <;> decide

theorem Response.text_ascii (response : Response) : ∀ c ∈ response.text.toList, c.toNat < 0x80 := by
  have hall : response.text.toList.all (fun c => c.toNat < 0x80) = true := by
    cases response <;> decide
  simpa using hall

/-- The responses that report success end with `OK`. -/
theorem Response.ok_suffix_text {response : Response} (hsilence : response ≠ .silence)
    (herror : response ≠ .error) (hconnect : response ≠ .connect) :
    "OK\r\n".toList <:+ response.text.toList := by
  cases response with
  | silence => exact absurd rfl hsilence
  | error => exact absurd rfl herror
  | connect => exact absurd rfl hconnect
  | ok | banner => decide

namespace Command

variable {cs : List Char}

/-! ## What goes with a response -/

/-- The response and the intent of an answer fit together. -/
structure Fits (reply : Reply) : Prop where
  silence : reply.response = .silence → reply.intent = none
  error : reply.response = .error → reply.intent = none
  connect : reply.response = .connect ↔ reply.intent = some .goOnline

/-- An answer that is `OK` fits any intent but the return to online mode. -/
theorem fits_ok {intent : Option Intent} (h : intent ≠ some .goOnline) : Fits ⟨.ok, intent⟩ :=
  ⟨nofun, nofun, iff_of_false nofun h⟩

theorem Rule.fits_reply (rule : Rule) (cs : List Char) : Fits (rule.reply cs) := by
  cases rule with
  | identify => exact ⟨nofun, nofun, iff_of_false nofun nofun⟩
  | online => exact ⟨nofun, nofun, iff_of_true rfl rfl⟩
  | register =>
    refine fits_ok ?_
    split <;> nofun
  | _ => exact fits_ok nofun

/-- What holds of every rule's answer, and of `OK` alone, holds of what a text is answered with. -/
theorem Rule.lookUp_of_forall {P : Reply → Prop} (hrules : ∀ rule : Rule, P (rule.reply cs))
    (hother : P ⟨.ok, none⟩) (rules : List Rule) : P (Rule.lookUp rules cs) := by
  unfold Rule.lookUp
  split
  · exact hrules _
  · exact hother

theorem Rule.fits_lookUp (rules : List Rule) (cs : List Char) : Fits (Rule.lookUp rules cs) :=
  Rule.lookUp_of_forall (fun rule => Rule.fits_reply rule cs) (fits_ok nofun) rules

/-- **The answer to every line fits**: what is not understood asks for nothing, and only a return to
online mode is answered with `CONNECT`. -/
theorem fits_interpret (line : String) : Fits (interpret line) := by
  unfold interpret interpretCanonical
  split
  · exact ⟨fun _ => rfl, nofun, iff_of_false nofun nofun⟩
  · split
    · exact fits_ok nofun
    · split
      · exact Rule.fits_lookUp _ _
      · exact ⟨nofun, fun _ => rfl, iff_of_false nofun nofun⟩

/-! ## Lines that are not understood -/

theorem Rule.reply_ne_error (rule : Rule) (cs : List Char) : (rule.reply cs).response ≠ .error := by
  cases rule <;> exact Response.noConfusion

theorem Rule.lookUp_ne_error (rules : List Rule) (cs : List Char) :
    (Rule.lookUp rules cs).response ≠ .error :=
  Rule.lookUp_of_forall (P := fun reply => reply.response ≠ .error)
    (fun rule => Rule.reply_ne_error rule cs) Response.noConfusion rules

/-- A line is a command if it begins with `AT`, directly or behind an escape sequence. -/
theorem exists_withoutEscape_iff :
    (∃ rest, withoutEscape cs = 'A' :: 'T' :: rest) ↔
      "AT".toList <+: cs ∨ "+++AT".toList <+: cs := by
  unfold withoutEscape
  split
  · rename_i hescape
    have hprefix : "+++AT".toList <+: cs := List.isPrefixOf_iff_prefix.mp hescape
    obtain ⟨rest, rfl⟩ := hprefix
    exact iff_of_true ⟨rest, rfl⟩ (.inr (List.prefix_append _ _))
  · rename_i hescape
    have hplain : ¬ "+++AT".toList <+: cs := mt List.isPrefixOf_iff_prefix.mpr hescape
    rw [or_iff_left hplain]
    exact exists_congr fun rest => eq_comm

/-- **A line is not understood** exactly if it has some text, is not the escape sequence and does
not begin with `AT`, directly or behind an escape sequence. -/
theorem interpretCanonical_error_iff : (interpretCanonical cs).response = .error ↔
    cs ≠ [] ∧ cs ≠ "+++".toList ∧ ¬ "AT".toList <+: cs ∧ ¬ "+++AT".toList <+: cs := by
  rw [← not_or, ← exists_withoutEscape_iff]
  unfold interpretCanonical
  split
  · rename_i hempty
    exact iff_of_false nofun fun h => h.1 (List.isEmpty_iff.mp hempty)
  · rename_i hempty
    split
    · rename_i hescape
      exact iff_of_false nofun fun h => h.2.1 (beq_iff_eq.mp hescape)
    · rename_i hescape
      have htext : cs ≠ [] ∧ cs ≠ "+++".toList :=
        ⟨mt List.isEmpty_iff.mpr hempty, mt beq_iff_eq.mpr hescape⟩
      split
      · rename_i rest hcommand
        exact iff_of_false (Rule.lookUp_ne_error _ _) fun h => h.2.2 ⟨rest, hcommand⟩
      · rename_i hother
        exact iff_of_true rfl ⟨htext.1, htext.2, fun ⟨rest, hcommand⟩ => hother rest hcommand⟩

/-- **Silence is for the line without text.** -/
theorem interpret_silence_iff {line : String} :
    (interpret line).response = .silence ↔ Text.trim line.toList = [] := by
  refine Iff.trans ⟨fun h => (interpretCanonical_silence h).1, fun h => ?_⟩ Text.upper_eq_nil_iff
  rw [interpret, h]
  rfl

/-- **What a line is answered with**, by its text without the blanks around it and in capitals. Only
a line without any text is met with silence, and only one that is neither the escape sequence nor a
command with `ERROR`; neither asks for anything. `CONNECT` goes with the return to online mode, and
all other answers end with `OK`. Every answer is ASCII, and a line that asks for anything gets
one. -/
theorem reply_by_line (line : String) :
    let reply := interpret line
    let text := reply.response.text
    let cs := canonical line.toList
    ((text = "" ↔ Text.trim line.toList = []) ∧ (text = "" → reply.intent = none)) ∧
    ((text = "ERROR\r\n" ↔ cs ≠ [] ∧ cs ≠ "+++".toList ∧
        ¬ "AT".toList <+: cs ∧ ¬ "+++AT".toList <+: cs) ∧
      (text = "ERROR\r\n" → reply.intent = none)) ∧
    (text = "CONNECT 57600\r\n" ↔ reply.intent = some .goOnline) ∧
    (text ≠ "" → text ≠ "ERROR\r\n" → text ≠ "CONNECT 57600\r\n" →
      "OK\r\n".toList <:+ text.toList) ∧
    (∀ c ∈ text.toList, c.toNat < 0x80) ∧
    ∀ intent, reply.intent = some intent → text ≠ "" := by
  intro reply text cs
  have hfits : Fits reply := fits_interpret line
  have hsilence : text = "" ↔ reply.response = .silence :=
    Response.text_inj reply.response .silence
  have herror : text = "ERROR\r\n" ↔ reply.response = .error :=
    Response.text_inj reply.response .error
  have hconnect : text = "CONNECT 57600\r\n" ↔ reply.response = .connect :=
    Response.text_inj reply.response .connect
  simp only [ne_eq, hsilence, herror, hconnect]
  refine ⟨⟨interpret_silence_iff, hfits.silence⟩, ⟨interpretCanonical_error_iff, hfits.error⟩,
    hfits.connect, Response.ok_suffix_text, Response.text_ascii _,
    fun intent => response_ne_silence⟩

end Command

end DialUp
