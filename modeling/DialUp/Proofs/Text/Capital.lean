import Mathlib.Data.List.Basic
import Mathlib.Data.Nat.Bitwise
import DialUp.Text.Surrogate
import DialUp.Text.Upper

/-!
# Capital letters stay

No character that the capital form of another one is written with has a capital form itself. The
tables are too long to compare every character of the one side with every character of the other,
so the code points of each side are put into a bit mask, and the masks have no bit in common.

* `capital_of_mem_capital`: the characters of a capital form are their own capital forms;
* `capital_of_mem_upper`: so are those of a text in capitals;
* `upper_eq_self`: and a text of such characters is in capitals already;
* `upper_eq_nil_iff`: no character is lost.
-/

namespace DialUp.Text

variable {n : Nat} {c d : Char} {codes others : List Nat} {cs : List Char}

/-! ## Sets of code points -/

/-- The code points of a set as the bits of a number. -/
def mask (codes : List Nat) : Nat := codes.foldr (fun n bits => bits ||| 1 <<< n) 0

theorem testBit_mask (h : n ∈ codes) : (mask codes).testBit n = true := by
  induction codes with
  | nil => cases h
  | cons code rest ih =>
    show (mask rest ||| 1 <<< code).testBit n = true
    rw [Nat.testBit_or, Bool.or_eq_true, Nat.one_shiftLeft]
    rcases List.mem_cons.mp h with rfl | h
    · exact Or.inr Nat.testBit_two_pow_self
    · exact Or.inl (ih h)

/-- Sets whose masks have no bit in common have no element in common. -/
theorem not_mem_of_mask (hmasks : mask codes &&& mask others = 0) (h : n ∈ codes) :
    n ∉ others := by
  intro hother
  have hbit : (mask codes &&& mask others).testBit n = true := by
    rw [Nat.testBit_and, testBit_mask h, testBit_mask hother]
    rfl
  rw [hmasks, Nat.zero_testBit] at hbit
  cases hbit

/-! ## The code points of the tables -/

/-- The code points of a run. -/
def CaseRun.members (r : CaseRun) : List Nat :=
  (List.range ((r.last - r.first) / r.step + 1)).map fun i => r.first + r.step * i

theorem CaseRun.mem_members {r : CaseRun} (h : r.has n = true) : n ∈ r.members := by
  simp only [has, Bool.and_eq_true, decide_eq_true_eq, beq_iff_eq] at h
  obtain ⟨⟨hfirst, hlast⟩, hstep⟩ := h
  refine List.mem_map.mpr ⟨(n - r.first) / r.step, List.mem_range.mpr ?_, ?_⟩
  · exact Nat.lt_succ_of_le (Nat.div_le_div_right (by omega))
  · have hdivides := Nat.div_add_mod (n - r.first) r.step
    omega

/-- The characters that have a capital form. -/
def smallCodes : List Nat :=
  (List.range 26).map (0x61 + ·) ++ caseRuns.flatMap CaseRun.members ++ capitalWords.map Prod.fst

/-- The characters that capital forms are written with. -/
def capitalCodes : List Nat :=
  (List.range 26).map (0x41 + ·) ++
    caseRuns.flatMap (fun r => r.members.map fun (n : Nat) => (n + r.shift).toNat) ++
    capitalWords.flatMap Prod.snd

theorem mask_capitalCodes : mask capitalCodes &&& mask smallCodes = 0 := by
  decide +kernel

theorem isValidChar_of_capitalCodes : ∀ n ∈ capitalCodes, n.isValidChar := by
  decide +kernel

/-! ## Capital forms -/

/-- A character without a capital form is left as it is. -/
theorem capital_eq_self (h : c.toNat ∉ smallCodes) : capital c = [c] := by
  simp only [smallCodes, List.mem_append, not_or] at h
  obtain ⟨⟨hletter, hrun⟩, hword⟩ := h
  unfold capital
  dsimp only
  split
  · split
    · exact absurd (List.mem_map.mpr ⟨c.toNat - 0x61, List.mem_range.mpr (by omega), by omega⟩)
        hletter
    · rfl
  · split
    · rename_i r hfind
      have hhas := List.find?_some hfind
      exact absurd (List.mem_flatMap.mpr
        ⟨r, List.mem_of_find?_eq_some hfind, CaseRun.mem_members hhas⟩) hrun
    · split
      · rename_i word hlookup
        obtain ⟨front, back, hwords, -⟩ := List.lookup_eq_some_iff.mp hlookup
        exact absurd (List.mem_map.mpr ⟨(c.toNat, word), by simp [hwords], rfl⟩) hword
      · rfl

/-- A character is left as it is, or its capital form is one of the tables. -/
theorem capital_cases (c : Char) :
    capital c = [c] ∨ ∀ d ∈ capital c, ∃ n ∈ capitalCodes, d = Char.ofNat n := by
  simp only [capitalCodes, List.mem_append]
  unfold capital
  dsimp only
  split
  · split
    · refine Or.inr fun d hd => ⟨c.toNat - 0x20, Or.inl (Or.inl ?_), List.mem_singleton.mp hd⟩
      exact List.mem_map.mpr ⟨c.toNat - 0x61, List.mem_range.mpr (by omega), by omega⟩
    · exact Or.inl rfl
  · split
    · rename_i r hfind
      have hhas := List.find?_some hfind
      refine Or.inr fun d hd => ⟨_, Or.inl (Or.inr ?_), List.mem_singleton.mp hd⟩
      exact List.mem_flatMap.mpr ⟨r, List.mem_of_find?_eq_some hfind,
        List.mem_map.mpr ⟨c.toNat, CaseRun.mem_members hhas, rfl⟩⟩
    · split
      · rename_i word hlookup
        obtain ⟨front, back, hwords, -⟩ := List.lookup_eq_some_iff.mp hlookup
        refine Or.inr fun d hd => ?_
        obtain ⟨n, hn, rfl⟩ := List.mem_map.mp hd
        exact ⟨n, Or.inr (List.mem_flatMap.mpr ⟨(c.toNat, word), by simp [hwords], hn⟩), rfl⟩
      · exact Or.inl rfl

/-- **The characters of a capital form are their own capital forms.** -/
theorem capital_of_mem_capital (h : d ∈ capital c) : capital d = [d] := by
  rcases capital_cases c with hself | hcodes
  · rw [hself, List.mem_singleton] at h
    rw [h, hself]
  · obtain ⟨n, hn, rfl⟩ := hcodes d h
    refine capital_eq_self ?_
    rw [toNat_ofNat_of_isValidChar (isValidChar_of_capitalCodes n hn)]
    exact not_mem_of_mask mask_capitalCodes hn

/-! ## Texts in capitals -/

/-- **A text in capitals has no characters with other capital forms.** -/
theorem capital_of_mem_upper (h : d ∈ upper cs) : capital d = [d] := by
  obtain ⟨c, -, hd⟩ := List.mem_flatMap.mp h
  exact capital_of_mem_capital hd

/-- **A text of capitals is in capitals already.** -/
theorem upper_eq_self (h : ∀ c ∈ cs, capital c = [c]) : upper cs = cs := by
  have hcapitals : upper cs = cs.flatMap fun c => [c] := List.flatMap_congr h
  rw [hcapitals, List.flatMap_singleton']

theorem capitalWords_ne_nil : ∀ entry ∈ capitalWords, entry.2 ≠ [] := by
  decide

/-- A capital form is written with at least one character. -/
theorem capital_ne_nil (c : Char) : capital c ≠ [] := by
  unfold capital
  dsimp only
  split
  · split <;> exact List.cons_ne_nil _ _
  · split
    · exact List.cons_ne_nil _ _
    · split
      · rename_i word hlookup
        obtain ⟨front, back, hwords, -⟩ := List.lookup_eq_some_iff.mp hlookup
        exact mt List.map_eq_nil_iff.mp (capitalWords_ne_nil (c.toNat, word) (by simp [hwords]))
      · exact List.cons_ne_nil _ _

/-- **Only of an empty text nothing is left** in capitals. -/
theorem upper_eq_nil_iff : upper cs = [] ↔ cs = [] := by
  cases cs with
  | nil => exact iff_of_true rfl rfl
  | cons c rest =>
    refine iff_of_false (fun h => ?_) (List.cons_ne_nil _ _)
    rw [upper, List.flatMap_cons] at h
    exact capital_ne_nil c (List.append_eq_nil_iff.mp h).1

end DialUp.Text
