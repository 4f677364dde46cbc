import Mathlib.Data.List.DropRight
import DialUp.Text.Blank

/-!
# What trimming leaves

* `trim_surrounded`: blanks around a text do not matter;
* `trim_separated`: those beside a separator inside it stay;
* `trim_eq_self_iff`: a text is left as it is exactly if no blank stands at either end.
-/

namespace DialUp.Text

variable {cs left right before after : List Char} {c : Char}

/-! ## Characters of a trimmed text -/

/-- What is left of a text is part of it. -/
theorem mem_of_mem_trim (h : c ∈ trim cs) : c ∈ cs :=
  (List.dropWhile_suffix isBlank).subset ((trimEnd_prefix_self (trimStart cs)).subset h)

/-- Only blanks are dropped. -/
theorem mem_trimStart_iff (hc : isBlank c = false) : c ∈ trimStart cs ↔ c ∈ cs := by
  refine ⟨fun h => (List.dropWhile_suffix isBlank).subset h, fun h => ?_⟩
  rw [← List.takeWhile_append_dropWhile (p := isBlank) (l := cs), List.mem_append] at h
  rcases h with h | h
  · rw [List.mem_takeWhile_imp h] at hc
    cases hc
  · exact h

theorem mem_trimEnd_iff (hc : isBlank c = false) : c ∈ trimEnd cs ↔ c ∈ cs := by
  have h := @mem_trimStart_iff cs.reverse c hc
  rw [List.mem_reverse] at h
  exact List.mem_reverse.trans h

theorem mem_trim_iff (hc : isBlank c = false) : c ∈ trim cs ↔ c ∈ cs :=
  (mem_trimEnd_iff hc).trans (mem_trimStart_iff hc)

/-! ## Texts that stay as they are -/

theorem trimStart_eq_self_iff : trimStart cs = cs ↔ ∀ c ∈ cs.head?, isBlank c = false := by
  constructor
  · intro h c hc
    rw [← h] at hc
    have hfirst := List.head?_dropWhile_not isBlank cs
    rw [show cs.dropWhile isBlank = trimStart cs from rfl, Option.mem_def.mp hc] at hfirst
    exact hfirst
  · intro h
    cases cs with
    | nil => rfl
    | cons c rest =>
      refine List.dropWhile_cons_of_neg ?_
      rw [h c rfl]
      exact Bool.noConfusion

theorem trimEnd_eq_self_iff : trimEnd cs = cs ↔ ∀ c ∈ cs.getLast?, isBlank c = false := by
  have h := @trimStart_eq_self_iff cs.reverse
  rw [List.head?_reverse] at h
  refine Iff.trans ?_ h
  rw [trimEnd, List.reverse_eq_iff]
  rfl

/-- **A text is left as it is** exactly if no blank stands at either end. -/
theorem trim_eq_self_iff :
    trim cs = cs ↔
      (∀ c ∈ cs.head?, isBlank c = false) ∧ ∀ c ∈ cs.getLast?, isBlank c = false := by
  rw [← trimStart_eq_self_iff, ← trimEnd_eq_self_iff]
  constructor
  · intro h
    have hstart := trimStart_trim cs
    have hend := trimEnd_trim cs
    rw [h] at hstart hend
    exact ⟨hstart, hend⟩
  · rintro ⟨hstart, hend⟩
    rw [trim, hstart, hend]

/-- A text without blanks is left as it is. -/
theorem trim_of_no_blanks (h : ∀ c ∈ cs, isBlank c = false) : trim cs = cs :=
  trim_eq_self_iff.mpr
    ⟨fun c hc => h c (List.mem_of_mem_head? hc), fun c hc => h c (List.mem_of_mem_getLast? hc)⟩

/-! ## Blanks around a text -/

/-- A text of blanks. -/
def IsBlank (text : String) : Prop := ∀ c ∈ text.toList, isBlank c = true

theorem trimStart_append (h : ∀ c ∈ before, isBlank c = true) :
    trimStart (before ++ cs) = trimStart cs :=
  List.dropWhile_append_of_pos h

theorem trimEnd_append (h : ∀ c ∈ after, isBlank c = true) :
    trimEnd (cs ++ after) = trimEnd cs := by
  rw [trimEnd, List.reverse_append, List.dropWhile_append_of_pos (by simpa using h)]
  rfl

/-- **Blanks around a text do not matter.** -/
theorem trim_surrounded (hbefore : ∀ c ∈ before, isBlank c = true)
    (hafter : ∀ c ∈ after, isBlank c = true) : trim (before ++ cs ++ after) = trim cs := by
  rw [List.append_assoc, trim, trimStart_append hbefore, trimStart, List.dropWhile_append]
  split
  · -- The text is blank itself, so nothing is left of it with the blanks behind it either.
    rename_i hnil
    rw [trim, trimStart, List.isEmpty_iff.mp hnil]
    exact trimEnd_eq_nil_iff.mpr fun c hc => hafter c ((List.dropWhile_suffix isBlank).subset hc)
  · exact trimEnd_append hafter

theorem mem_surrounded_iff (hbefore : ∀ c ∈ before, isBlank c = true)
    (hafter : ∀ c ∈ after, isBlank c = true) (hc : isBlank c = false) :
    c ∈ before ++ cs ++ after ↔ c ∈ cs := by
  rw [← mem_trim_iff hc, trim_surrounded hbefore hafter, mem_trim_iff hc]

theorem trim_trimStart (cs : List Char) : trim (trimStart cs) = trim cs := by
  rw [trim, trimStart_trimStart, trim]

theorem trim_trimEnd (cs : List Char) : trim (trimEnd cs) = trim cs := by
  have hblank : ∀ c ∈ cs.rtakeWhile isBlank, isBlank c = true := fun c hc =>
    List.mem_rtakeWhile_imp hc
  have hsplit : trimEnd cs ++ cs.rtakeWhile isBlank = cs :=
    List.rdropWhile_append_rtakeWhile
  calc trim (trimEnd cs) = trim ([] ++ trimEnd cs ++ cs.rtakeWhile isBlank) :=
        (trim_surrounded (by simp) hblank).symm
    _ = trim cs := by rw [List.nil_append, hsplit]

/-! ## Separators -/

theorem trimStart_separated (hc : isBlank c = false) :
    trimStart (left ++ c :: right) = trimStart left ++ c :: right := by
  have hkept : (c :: right).dropWhile isBlank = c :: right :=
    List.dropWhile_cons_of_neg (by rw [hc]; exact Bool.noConfusion)
  rw [trimStart, List.dropWhile_append, hkept]
  split
  · rename_i hnil
    rw [trimStart, List.isEmpty_iff.mp hnil, List.nil_append]
  · rfl

theorem trimEnd_separated (hc : isBlank c = false) :
    trimEnd (left ++ c :: right) = left ++ c :: trimEnd right := by
  have h := @trimStart_separated right.reverse left.reverse c hc
  have hreverse : (left ++ c :: right).reverse = right.reverse ++ c :: left.reverse := by simp
  rw [trimEnd, hreverse, show List.dropWhile isBlank _ = trimStart _ from rfl, h]
  simp [trimEnd, trimStart]

/-- **The blanks beside a separator stay.** -/
theorem trim_separated (hc : isBlank c = false) :
    trim (left ++ c :: right) = trimStart left ++ c :: trimEnd right := by
  rw [trim, trimStart_separated hc, trimEnd_separated hc]

end DialUp.Text
