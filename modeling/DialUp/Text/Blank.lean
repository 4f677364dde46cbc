import DialUp.Text.Ranges

/-!
# Blank characters

`isBlank` holds of the white space of every script, the information separators U+001C to U+001F
and the next-line character U+0085 included. `trim` drops blanks from both ends of a text.

* `trim_eq_nil_iff`: nothing is left exactly of a text of blanks;
* `trim_trim`: trimming twice changes nothing more.
-/

namespace DialUp.Text

/-- The blank characters. -/
def blanks : Ranges := [
  (0x9, 0xD), (0x1C, 0x20), (0x85, 0x85), (0xA0, 0xA0), (0x1680, 0x1680), (0x2000, 0x200A),
  (0x2028, 0x2029), (0x202F, 0x202F), (0x205F, 0x205F), (0x3000, 0x3000)]

/-- White space of any script. -/
def isBlank (c : Char) : Bool := blanks.has c

/-- The text without the blanks at its start. -/
def trimStart (cs : List Char) : List Char := cs.dropWhile isBlank

/-- The text without the blanks at its end. -/
def trimEnd (cs : List Char) : List Char := (cs.reverse.dropWhile isBlank).reverse

/-- The text without the blanks at either end. -/
def trim (cs : List Char) : List Char := trimEnd (trimStart cs)

/-- The string without the blanks at either end. -/
def trimmed (s : String) : String := String.ofList (trim s.toList)

theorem trimStart_eq_nil_iff {cs : List Char} :
    trimStart cs = [] ↔ ∀ c ∈ cs, isBlank c = true := by
  induction cs with
  | nil => simp [trimStart]
  | cons c cs ih =>
    unfold trimStart at *
    by_cases h : isBlank c = true <;> simp [h, ih]

theorem trimEnd_eq_nil_iff {cs : List Char} :
    trimEnd cs = [] ↔ ∀ c ∈ cs, isBlank c = true := by
  unfold trimEnd
  rw [List.reverse_eq_nil_iff]
  exact trimStart_eq_nil_iff.trans (by simp)

/-- What is left begins with no blank. -/
theorem not_blank_of_trimStart {cs rest : List Char} {c : Char}
    (h : trimStart cs = c :: rest) : isBlank c = false := by
  have := List.head?_dropWhile_not isBlank cs
  rw [show cs.dropWhile isBlank = c :: rest from h] at this
  exact this

theorem trimStart_trimStart (cs : List Char) : trimStart (trimStart cs) = trimStart cs := by
  cases h : trimStart cs with
  | nil => rfl
  | cons c rest => simp [trimStart, not_blank_of_trimStart h]

theorem trimEnd_trimEnd (cs : List Char) : trimEnd (trimEnd cs) = trimEnd cs := by
  have h := trimStart_trimStart cs.reverse
  unfold trimStart at h
  simp [trimEnd, h]

/-- The blanks at the end stand behind what is left. -/
theorem trimEnd_prefix_self (cs : List Char) : trimEnd cs <+: cs := by
  have h := (List.dropWhile_suffix (l := cs.reverse) isBlank).reverse
  rwa [List.reverse_reverse] at h

/-- Nothing is left exactly of a text of blanks. -/
theorem trim_eq_nil_iff {cs : List Char} : trim cs = [] ↔ ∀ c ∈ cs, isBlank c = true := by
  rw [trim, trimEnd_eq_nil_iff, ← trimStart_eq_nil_iff, trimStart_trimStart, trimStart_eq_nil_iff]

/-- The blanks at the end do not hide one at the start. -/
theorem trimStart_trim (cs : List Char) : trimStart (trim cs) = trim cs := by
  cases h : trim cs with
  | nil => rfl
  | cons c rest =>
    obtain ⟨back, hback⟩ := trimEnd_prefix_self (trimStart cs)
    have hc : trimStart cs = c :: (rest ++ back) := by
      rw [← hback, show trimEnd (trimStart cs) = c :: rest from h, List.cons_append]
    simp [trimStart, not_blank_of_trimStart hc]

theorem trimEnd_trim (cs : List Char) : trimEnd (trim cs) = trim cs :=
  trimEnd_trimEnd (trimStart cs)

/-- Trimming twice changes nothing more. -/
theorem trim_trim (cs : List Char) : trim (trim cs) = trim cs := by
  rw [trim, trimStart_trim, trimEnd_trim]

end DialUp.Text
