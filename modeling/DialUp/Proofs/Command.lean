import DialUp.Command
import DialUp.Proofs.Text.Trimming
import DialUp.Proofs.Text.Typable

/-!
# What lines are answered with

* `interpretCanonical_silence`: only a line without any text is met with silence, and it asks for
  nothing, so whatever a line asks for comes with an answer;
* `interpretCanonical_of_dial`: a line that dials is answered with `OK`, and dials what stands
  behind `AT`;
* `dialable_of_dial`: a number that a typed line dials is made of a few characters only;
* `interpret_dial`: any number made of those is dialed by some line.
-/

namespace DialUp.Command

variable {cs : List Char}

/-! ## Every command has an answer -/

theorem Rule.reply_ne_silence (rule : Rule) (cs : List Char) :
    (rule.reply cs).response ≠ .silence := by
  cases rule <;> exact Response.noConfusion

theorem Rule.lookUp_ne_silence (rules : List Rule) (cs : List Char) :
    (Rule.lookUp rules cs).response ≠ .silence := by
  unfold Rule.lookUp
  split
  · exact Rule.reply_ne_silence _ cs
  · exact Response.noConfusion

/-- **Silence is for the empty line**, which asks for nothing. -/
theorem interpretCanonical_silence (h : (interpretCanonical cs).response = .silence) :
    cs = [] ∧ (interpretCanonical cs).intent = none := by
  unfold interpretCanonical at h ⊢
  cases hempty : cs.isEmpty with
  | true => exact ⟨List.isEmpty_iff.mp hempty, rfl⟩
  | false =>
    rw [hempty, if_neg Bool.noConfusion] at h
    split at h
    · cases h
    · split at h
      · exact absurd h (Rule.lookUp_ne_silence _ _)
      · cases h

/-- What a line asks for comes with an answer. -/
theorem response_ne_silence {line : String} {intent : Intent}
    (h : (interpret line).intent = some intent) : (interpret line).response ≠ .silence := by
  intro hsilence
  have hnone := (interpretCanonical_silence hsilence).2
  rw [interpret, hnone] at h
  cases h

/-! ## Lines that dial -/

/-- No rule but the one for dialing dials. -/
theorem Rule.lookUp_of_dial {rules : List Rule} {number : String}
    (h : (Rule.lookUp rules cs).intent = some (.dial number)) :
    Rule.lookUp rules cs = Rule.dial.reply cs := by
  unfold Rule.lookUp at h ⊢
  split at h
  · rename_i rule _
    cases rule with
    | dial => rfl
    | register =>
      simp only [reply] at h
      split at h <;> cases h
    | _ => cases h
  · cases h

/-- **A line that dials** is answered with `OK`, and dials what stands behind `AT`. -/
theorem interpretCanonical_of_dial {number : String}
    (h : (interpretCanonical cs).intent = some (.dial number)) :
    interpretCanonical cs = ⟨.ok, some (.dial number)⟩ ∧
      ∃ rest, withoutEscape cs = 'A' :: 'T' :: rest ∧ number.toList = dialedNumber rest := by
  unfold interpretCanonical at h ⊢
  split at h
  · cases h
  · rename_i hempty
    split at h
    · cases h
    · rename_i hescape
      rw [if_neg hempty, if_neg hescape]
      split at h
      · rename_i rest hline
        have hreply := Rule.lookUp_of_dial h
        rw [hreply] at h
        obtain rfl : String.ofList (dialedNumber rest) = number :=
          Intent.dial.inj (Option.some.inj h)
        exact ⟨hreply, rest, hline, String.toList_ofList⟩
      · cases h

/-- A dial is answered with `OK`. -/
theorem response_of_dial {line number : String}
    (h : (interpret line).intent = some (.dial number)) : (interpret line).response = .ok :=
  congrArg Reply.response (interpretCanonical_of_dial h).1

/-! ## Dialed numbers -/

/-- A character that the numbers of typed lines can have besides spaces: visible ASCII, but no
small letter and no modifier. -/
def isDialable (c : Char) : Bool :=
  0x21 ≤ c.toNat && c.toNat ≤ 0x7E && !Text.isSmall c && !List.contains ['W', 'P', 'T', ',', ';'] c

theorem dialable_of_typable {c : Char} (hc : Text.isTypable c = true)
    (hsmall : Text.isSmall c = false) (hspace : c ≠ ' ') (hmodifier : isModifier c = false) :
    isDialable c = true := by
  refine Text.typable_forall (P := fun c => Text.isTypable c = true → Text.isSmall c = false →
    c ≠ ' ' → isModifier c = false → isDialable c = true) ?_ hc hc hsmall hspace hmodifier
  decide +kernel

theorem typable_of_dialable {c : Char} (h : isDialable c = true) : Text.isTypable c = true := by
  simp only [isDialable, Bool.and_eq_true, decide_eq_true_eq] at h
  exact Text.isTypable_iff.mpr ⟨by omega, h.1.1.2⟩

/-- A dialable character is left as it is by all that happens to a line, unless it is a hyphen. -/
theorem kept_of_dialable {c : Char} (h : isDialable c = true) (hhyphen : c ≠ '-') :
    Text.isBlank c = false ∧ Text.isSmall c = false ∧ isModifier c = false := by
  refine Text.typable_forall (P := fun c => isDialable c = true → c ≠ '-' →
    Text.isBlank c = false ∧ Text.isSmall c = false ∧ isModifier c = false) ?_
    (typable_of_dialable h) h hhyphen
  decide +kernel

theorem mem_bareNumber {c : Char} (h : c ∈ bareNumber cs) : c ∈ cs ∧ isModifier c = false := by
  simpa using List.mem_filter.mp (Text.mem_of_mem_trim h)

/-- A trimmed number without modifiers is left as it is. -/
theorem bareNumber_eq_self (hmodifiers : ∀ c ∈ cs, isModifier c = false)
    (htrimmed : Text.trim cs = cs) : bareNumber cs = cs := by
  have hfilter : cs.filter (fun c => !isModifier c) = cs := by
    refine List.filter_eq_self.mpr fun c hc => ?_
    rw [hmodifiers c hc]
    rfl
  rw [bareNumber, hfilter, htrimmed]

/-- A dialed number is what stands behind the prefix, without its modifiers. -/
theorem exists_bareNumber (cs : List Char) :
    ∃ rest, rest <:+ cs ∧ dialedNumber cs = bareNumber rest := by
  unfold dialedNumber
  split
  · rename_i rest
    exact ⟨rest, List.suffix_append ['D', 'T'] rest, rfl⟩
  · rename_i rest
    exact ⟨rest, List.suffix_append ['D', 'P'] rest, rfl⟩
  · exact ⟨cs.drop 1, List.drop_suffix 1 cs, rfl⟩

theorem mem_dialedNumber {c : Char} (h : c ∈ dialedNumber cs) : c ∈ cs ∧ isModifier c = false := by
  obtain ⟨rest, hrest, hnumber⟩ := exists_bareNumber cs
  rw [hnumber] at h
  obtain ⟨hc, hmodifier⟩ := mem_bareNumber h
  exact ⟨hrest.subset hc, hmodifier⟩

theorem mem_withoutEscape {c : Char} (h : c ∈ withoutEscape cs) : c ∈ cs := by
  unfold withoutEscape at h
  split at h
  · exact List.mem_of_mem_drop h
  · exact h

/-- A dialed number is made of characters of the line that are no modifiers. -/
theorem mem_of_dial {number : String} {c : Char}
    (h : (interpretCanonical cs).intent = some (.dial number)) (hc : c ∈ number.toList) :
    c ∈ cs ∧ isModifier c = false := by
  obtain ⟨-, rest, hline, hnumber⟩ := interpretCanonical_of_dial h
  rw [hnumber] at hc
  obtain ⟨hrest, hmodifier⟩ := mem_dialedNumber hc
  refine ⟨mem_withoutEscape ?_, hmodifier⟩
  simp [hline, hrest]

/-- **Few characters can be dialed**: a number that a typed line dials has no others but spaces. -/
theorem dialable_of_dial {line number : String}
    (hline : ∀ c ∈ line.toList, Text.isTypable c = true)
    (h : (interpret line).intent = some (.dial number)) :
    ∀ c ∈ number.toList, c ≠ ' ' → isDialable c = true := by
  intro c hc hspace
  obtain ⟨hupper, hmodifier⟩ := mem_of_dial h hc
  obtain ⟨htypable, hsmall⟩ :=
    Text.mem_upper (fun c hc => hline c (Text.mem_of_mem_trim hc)) hupper
  exact dialable_of_typable htypable hsmall hspace hmodifier

/-- The line that dials a number. It has the prefix for tone dialing, since a number that begins
with the letter of a prefix would lose it. -/
def dialLine (number : String) : String := "ATDT" ++ number

theorem bareNumber_of_dialable (h : ∀ c ∈ cs, isDialable c = true ∧ c ≠ '-') :
    bareNumber cs = cs := by
  have hkept := fun c hc => kept_of_dialable (h c hc).1 (h c hc).2
  exact bareNumber_eq_self (fun c hc => (hkept c hc).2.2)
    (Text.trim_of_no_blanks fun c hc => (hkept c hc).1)

theorem toList_dialLine (number : String) :
    (dialLine number).toList = 'A' :: 'T' :: 'D' :: 'T' :: number.toList := by
  simp [dialLine]

/-- The line can be typed, and is in canonical form already. -/
theorem kept_dialLine {number : String} (h : ∀ c ∈ number.toList, isDialable c = true ∧ c ≠ '-') :
    ∀ c ∈ (dialLine number).toList,
      Text.isTypable c = true ∧ Text.isBlank c = false ∧ Text.isSmall c = false := by
  intro c hc
  simp only [toList_dialLine, List.mem_cons] at hc
  rcases hc with rfl | rfl | rfl | rfl | hc
  · decide
  · decide
  · decide
  · decide
  · obtain ⟨hdialable, hhyphen⟩ := h c hc
    obtain ⟨hblank, hsmall, -⟩ := kept_of_dialable hdialable hhyphen
    exact ⟨typable_of_dialable hdialable, hblank, hsmall⟩

/-- **Every number without other characters is dialed** by a line. -/
theorem interpret_dial {number : String}
    (h : ∀ c ∈ number.toList, isDialable c = true ∧ c ≠ '-') :
    (interpret (dialLine number)).intent = some (.dial number) := by
  have hkept := kept_dialLine h
  have hcanonical : canonical (dialLine number).toList = (dialLine number).toList := by
    rw [canonical, Text.trim_of_no_blanks fun c hc => (hkept c hc).2.1]
    exact Text.upper_of_capitals fun c hc => ⟨(hkept c hc).1, (hkept c hc).2.2⟩
  rw [interpret, hcanonical, toList_dialLine]
  show some (Intent.dial (String.ofList (bareNumber number.toList))) = _
  rw [bareNumber_of_dialable h, String.ofList_toList]

end DialUp.Command
