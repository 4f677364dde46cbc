import DialUp.Proofs.Command

/-!
# Dialed numbers are in normal form

A dialed number has no modifiers, is trimmed and is in capitals. Taking one character out of a
number can bring another one to its front, or a blank to its end, but dialing what is left changes
nothing more: no part of it is taken for a prefix or for a modifier.

* `isClean_of_dial`: what is dialed is in this form;
* `interpret_clean`: and a number in this form is dialed as it is, with any prefix.
-/

namespace DialUp.Command

variable {number : List Char}

/-- The form of a number that dialing leaves as it is. -/
structure IsClean (number : List Char) : Prop where
  modifiers : ∀ c ∈ number, isModifier c = false
  trimmed : Text.trim number = number
  capitals : ∀ c ∈ number, Text.capital c = [c]

/-- **What a line dials is clean.** -/
theorem isClean_of_dial {line number : String}
    (h : (interpret line).intent = some (.dial number)) : IsClean number.toList where
  modifiers c hc := (mem_of_dial h hc).2
  trimmed := by
    obtain ⟨-, rest, -, hnumber⟩ := interpretCanonical_of_dial h
    obtain ⟨behind, -, hbare⟩ := exists_bareNumber rest
    rw [hnumber, hbare]
    exact Text.trim_trim _
  capitals c hc := Text.capital_of_mem_upper (mem_of_dial h hc).1

/-! ## Dialing a clean number -/

/-- A clean number does not begin with the letter of a dial prefix. -/
theorem dialedNumber_of_clean (h : IsClean number) : dialedNumber ('D' :: number) = number := by
  have hbare := bareNumber_eq_self h.modifiers h.trimmed
  cases number with
  | nil => rfl
  | cons c rest =>
    have hletter := h.modifiers c List.mem_cons_self
    unfold dialedNumber
    split
    · rename_i heq
      cases heq
      cases hletter
    · rename_i heq
      cases heq
      cases hletter
    · exact hbare

/-- A line that begins with visible capitals and ends with a clean number is in canonical form. -/
theorem canonical_of_clean {start : List Char} (hne : start ≠ [])
    (hblank : ∀ c ∈ start, Text.isBlank c = false) (hcapital : ∀ c ∈ start, Text.capital c = [c])
    (h : IsClean number) : canonical (start ++ number) = start ++ number := by
  have htrim : Text.trim (start ++ number) = start ++ number := by
    refine Text.trim_eq_self_iff.mpr ⟨fun c hc => ?_, fun c hc => ?_⟩
    · rw [List.head?_append_of_ne_nil _ hne] at hc
      exact hblank c (List.mem_of_mem_head? hc)
    · rw [List.getLast?_append, Option.mem_def, Option.or_eq_some_iff] at hc
      rcases hc with hc | ⟨-, hc⟩
      · exact (Text.trim_eq_self_iff.mp h.trimmed).2 c hc
      · exact hblank c (List.mem_of_mem_getLast? hc)
  rw [canonical, htrim]
  exact Text.upper_eq_self fun c hc => (List.mem_append.mp hc).elim (hcapital c) (h.capitals c)

/-- The beginnings of a line that dials the number behind them. -/
def dialStarts : List String := ["ATD", "ATDT", "ATDP", "+++ATD"]

theorem dialStarts_plain : ∀ start ∈ dialStarts, start.toList ≠ [] ∧
    ∀ c ∈ start.toList, Text.isBlank c = false ∧ Text.capital c = [c] := by
  have hall : dialStarts.all (fun start => !start.toList.isEmpty &&
      start.toList.all fun c => !Text.isBlank c && Text.capital c == [c]) = true := by
    decide
  simpa using hall

/-- **A clean number is dialed as it is.** -/
theorem interpret_clean {number : String} (h : IsClean number.toList) :
    ∀ start ∈ dialStarts, interpret (start ++ number) = ⟨.ok, some (.dial number)⟩ := by
  intro start hstart
  obtain ⟨hne, hkept⟩ := dialStarts_plain start hstart
  rw [interpret, String.toList_append, canonical_of_clean hne (fun c hc => (hkept c hc).1)
    (fun c hc => (hkept c hc).2) h]
  -- The line is looked up as the rule for dialing has it, with or without a dial prefix.
  have hdials : ∀ cs, dialedNumber cs = number.toList →
      Rule.dial.reply cs = ⟨.ok, some (.dial number)⟩ := by
    intro cs hcs
    rw [Rule.reply, hcs, String.ofList_toList]
  have hbare := bareNumber_eq_self h.modifiers h.trimmed
  simp only [dialStarts, List.mem_cons, List.not_mem_nil, or_false] at hstart
  rcases hstart with rfl | rfl | rfl | rfl
  · exact hdials ('D' :: number.toList) (dialedNumber_of_clean h)
  · exact hdials ('D' :: 'T' :: number.toList) hbare
  · exact hdials ('D' :: 'P' :: number.toList) hbare
  · exact hdials ('D' :: number.toList) (dialedNumber_of_clean h)

/-- **Dialed numbers are in normal form.** What a line dials has none of the modifiers in it and no
blank at either end, and a line made of it dials it again. -/
theorem dialed_again {line number : String}
    (h : (interpret line).intent = some (.dial number)) :
    (∀ c ∈ ['W', 'P', 'T', ',', ';', '-'], c ∉ number.toList) ∧
    ((∀ c ∈ number.toList.head?, Text.isBlank c = false) ∧
      ∀ c ∈ number.toList.getLast?, Text.isBlank c = false) ∧
    ∀ start ∈ dialStarts, interpret (start ++ number) = ⟨.ok, some (.dial number)⟩ := by
  have hclean := isClean_of_dial h
  refine ⟨fun c hmodifier hc => ?_, Text.trim_eq_self_iff.mp hclean.trimmed,
    interpret_clean hclean⟩
  have hall : ['W', 'P', 'T', ',', ';', '-'].all isModifier = true := by decide
  have hkept := hclean.modifiers c hc
  rw [List.all_eq_true.mp hall c hmodifier] at hkept
  cases hkept

/-- Taking the modifiers out brings a blank and a `D` to the front of this number, and the capital
form of one letter is written with two characters. -/
theorem dialed_again_exposed :
    let line := " +++atdtp dt\u00df-1 w;"
    let number := "DSS1"
    (interpret line).intent = some (.dial number) ∧
    ((∀ c ∈ ['W', 'P', 'T', ',', ';', '-'], c ∉ number.toList) ∧
      ((∀ c ∈ number.toList.head?, Text.isBlank c = false) ∧
        ∀ c ∈ number.toList.getLast?, Text.isBlank c = false) ∧
      ∀ start ∈ dialStarts, interpret (start ++ number) = ⟨.ok, some (.dial number)⟩) := by
  intro line number
  have hdial : (interpret line).intent = some (.dial number) := by decide +kernel
  exact ⟨hdial, dialed_again hdial⟩

end DialUp.Command
