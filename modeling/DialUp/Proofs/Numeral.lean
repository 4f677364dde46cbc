import Mathlib.Data.List.TakeWhile
import DialUp.Numeral.Decimal

/-!
# Numbers as texts and back

An integer that was read from a text, and the whole part of a finite double, have few enough digits
to be written. A number with few enough digits is read back from its text.

* `integerText?_of_readInteger?`: what was read can be written;
* `readInteger?_decimalText`: what was written is read back;
* `Double.integerText?_truncated`: the whole part of a double can be written;
* `integerText_ne_empty`, `doubleText_ne_empty`: what is written of a number is not empty.
-/

namespace DialUp

theorem Text.decimalValue?_lt {c : Char} {d : Nat} (h : decimalValue? c = some d) : d < 10 := by
  unfold decimalValue? at h
  split at h
  · split at h
    · cases h
      omega
    · cases h
  · obtain ⟨first, hfirst, rfl⟩ := Option.map_eq_some_iff.mp h
    have hrange := List.find?_some hfirst
    simp only [decide_eq_true_eq] at hrange
    omega

namespace Numeral

/-! ## Integers as texts -/

theorem integerText?_eq_none_iff {i : Int} :
    integerText? i = none ↔ Nat.pow 10 maxDigits ≤ i.natAbs := by
  simp only [integerText?, ite_eq_right_iff, reduceCtorEq, imp_false, Nat.not_lt]

theorem integerText?_eq {i : Int} (h : integerText? i ≠ none) :
    integerText? i = some (integerText i) := by
  unfold integerText? at h ⊢
  split
  · rfl
  · rename_i hlong
    exact absurd (if_neg hlong) h

theorem integerText?_ne_none_of_lt {i : Int} {digits : Nat} (h : i.natAbs < Nat.pow 10 digits)
    (hdigits : digits ≤ maxDigits) : integerText? i ≠ none := by
  rw [Ne, integerText?_eq_none_iff, Nat.not_le]
  generalize maxDigits = limit at hdigits ⊢
  exact Nat.lt_of_lt_of_le h (Nat.pow_le_pow_right (by decide) hdigits)

theorem moreDigits?_lt {cs : List Char} {ds : List Nat} (h : moreDigits? cs = some ds) :
    ∀ d ∈ ds, d < 10 := by
  fun_induction moreDigits? cs generalizing ds with
  | case1 =>
    cases h
    simp
  | case2 c rest ih | case3 c rest _ ih =>
    obtain ⟨d, hd, h⟩ := Option.bind_eq_some_iff.mp h
    obtain ⟨more, hmore, h⟩ := Option.bind_eq_some_iff.mp h
    cases h
    exact List.forall_mem_cons.mpr ⟨Text.decimalValue?_lt hd, ih hmore⟩

theorem digits?_lt {cs : List Char} {ds : List Nat} (h : digits? cs = some ds) :
    ∀ d ∈ ds, d < 10 := by
  cases cs with
  | nil => cases h
  | cons c rest =>
    obtain ⟨d, hd, h⟩ := Option.bind_eq_some_iff.mp h
    obtain ⟨more, hmore, h⟩ := Option.bind_eq_some_iff.mp h
    cases h
    exact List.forall_mem_cons.mpr ⟨Text.decimalValue?_lt hd, moreDigits?_lt hmore⟩

theorem foldl_digits_lt {ds : List Nat} (h : ∀ d ∈ ds, d < 10) (n : Nat) :
    ds.foldl (fun n d => 10 * n + d) n < (n + 1) * Nat.pow 10 ds.length := by
  induction ds generalizing n with
  | nil => exact (Nat.mul_one (n + 1)).symm ▸ Nat.lt_succ_self n
  | cons d rest ih =>
    obtain ⟨hd, hrest⟩ := List.forall_mem_cons.mp h
    calc rest.foldl (fun n d => 10 * n + d) (10 * n + d)
        < (10 * n + d + 1) * Nat.pow 10 rest.length := ih hrest _
      _ ≤ ((n + 1) * 10) * Nat.pow 10 rest.length := Nat.mul_le_mul_right _ (by omega)
      _ = (n + 1) * (Nat.pow 10 rest.length * 10) := by
        rw [Nat.mul_assoc, Nat.mul_comm 10]

theorem natAbs_signed (negative : Bool) (n : Nat) :
    (if negative then -(n : Int) else n).natAbs = n := by
  cases negative <;> simp

/-- **An integer that was read can be written.** -/
theorem integerText?_of_readInteger? {cs : List Char} {i : Int} (h : readInteger? cs = some i) :
    integerText? i ≠ none := by
  obtain ⟨ds, hds, h⟩ := Option.bind_eq_some_iff.mp h
  split at h
  · cases h
  · rename_i hlength
    have hvalue := foldl_digits_lt (digits?_lt hds) 0
    rw [Nat.zero_add, Nat.one_mul] at hvalue
    obtain rfl := Option.some.inj h
    exact integerText?_ne_none_of_lt (by rwa [natAbs_signed]) (Nat.not_lt.mp hlength)

/-! ## Texts read back -/

/-- A digit is read as its value. It is no blank, no sign, no underscore and no colon. -/
theorem digitChar_plain {d : Nat} (h : d < 10) :
    Text.decimalValue? (digitChar d) = some d ∧ Text.isBlank (digitChar d) = false ∧
      digitChar d ∉ ['-', '+', '_', ':'] := by
  have hall : ∀ d < 10, Text.decimalValue? (digitChar d) = some d ∧
      Text.isBlank (digitChar d) = false ∧ digitChar d ∉ ['-', '+', '_', ':'] := by
    decide +kernel
  exact hall d h

/-- A number is written with the digits that stand for it. -/
theorem exists_digits (n : Nat) :
    ∃ ds, decimalText n = ds.map digitChar ∧ ds ≠ [] ∧ (∀ d ∈ ds, d < 10) ∧ ofDigits 10 ds = n := by
  fun_induction decimalText n with
  | case1 n hn => exact ⟨[n], rfl, by simp, by simpa using hn, by simp [ofDigits]⟩
  | case2 n hn ih =>
    obtain ⟨ds, htext, -, hds, hvalue⟩ := ih
    refine ⟨ds ++ [n % 10], by simp [htext], by simp, ?_, ?_⟩
    · intro d hd
      rcases List.mem_append.mp hd with hd | hd
      · exact hds d hd
      · obtain rfl := List.mem_singleton.mp hd
        omega
    · have hlast : ofDigits 10 (ds ++ [n % 10]) = 10 * ofDigits 10 ds + n % 10 := by
        simp [ofDigits]
      rw [hlast, hvalue]
      omega

theorem mem_decimalText {n : Nat} {c : Char} (h : c ∈ decimalText n) :
    Text.isBlank c = false ∧ c ∉ ['-', '+', '_', ':'] := by
  obtain ⟨ds, htext, -, hds, -⟩ := exists_digits n
  rw [htext] at h
  obtain ⟨d, hd, rfl⟩ := List.mem_map.mp h
  exact (digitChar_plain (hds d hd)).2

theorem length_decimalText_le {n digits : Nat} (h : n < Nat.pow 10 digits) (hpos : 0 < digits) :
    (decimalText n).length ≤ digits := by
  fun_induction decimalText n generalizing digits with
  | case1 n hn => exact hpos
  | case2 n hn ih =>
    obtain ⟨k, rfl⟩ := Nat.exists_eq_add_one_of_ne_zero hpos.ne'
    have hpow : Nat.pow 10 (k + 1) = Nat.pow 10 k * 10 := rfl
    rw [hpow] at h
    have hk : 0 < k := by
      rcases Nat.eq_zero_or_pos k with rfl | hk
      · have : Nat.pow 10 0 = 1 := rfl
        omega
      · exact hk
    have hfront := ih (Nat.div_lt_of_lt_mul (by omega)) hk
    simpa using hfront

theorem moreDigits?_digits {ds : List Nat} (h : ∀ d ∈ ds, d < 10) :
    moreDigits? (ds.map digitChar) = some ds := by
  induction ds with
  | nil => rfl
  | cons d rest ih =>
    obtain ⟨hd, hrest⟩ := List.forall_mem_cons.mp h
    obtain ⟨hvalue, -, hplain⟩ := digitChar_plain hd
    rw [List.map_cons, moreDigits?, hvalue, ih hrest]
    · rfl
    · rintro c more hunderscore -
      exact hplain (by simp [hunderscore])

theorem digits?_digits {ds : List Nat} (h : ∀ d ∈ ds, d < 10) (hds : ds ≠ []) :
    digits? (ds.map digitChar) = some ds := by
  cases ds with
  | nil => exact absurd rfl hds
  | cons d rest =>
    obtain ⟨hd, hrest⟩ := List.forall_mem_cons.mp h
    rw [List.map_cons, digits?, (digitChar_plain hd).1, moreDigits?_digits hrest]
    rfl

theorem unpadded_of_no_blanks {cs : List Char} (h : ∀ c ∈ cs, Text.isBlank c = false) :
    unpadded cs = cs := by
  have hkept : ∀ ds : List Char, (∀ c ∈ ds, Text.isBlank c = false) →
      ds.dropWhile isPadding = ds := by
    intro ds hds
    refine List.dropWhile_eq_self_iff.mpr fun hpos => ?_
    simp [isPadding, hds _ (List.getElem_mem hpos)]
  rw [unpadded, hkept cs h, hkept cs.reverse fun c hc => h c (List.mem_reverse.mp hc),
    List.reverse_reverse]

theorem signed_of_plain {cs : List Char} (h : ∀ c ∈ cs, c ∉ ['-', '+', '_', ':']) :
    signed cs = (false, cs) := by
  unfold signed
  split
  · exact absurd (by simp) (h '-' List.mem_cons_self)
  · exact absurd (by simp) (h '+' List.mem_cons_self)
  · rfl

/-- **A number that was written is read back.** -/
theorem readInteger?_decimalText {n : Nat} (h : (decimalText n).length ≤ maxDigits) :
    readInteger? (decimalText n) = some (n : Int) := by
  have hplain := fun c hc => mem_decimalText (n := n) (c := c) hc
  obtain ⟨ds, htext, hne, hds, hvalue⟩ := exists_digits n
  have hlength : ds.length ≤ maxDigits := by
    rw [htext, List.length_map] at h
    exact h
  have hdigits : digits? (decimalText n) = some ds := by
    rw [htext]
    exact digits?_digits hds hne
  rw [readInteger?, unpadded_of_no_blanks fun c hc => (hplain c hc).1,
    signed_of_plain fun c hc => (hplain c hc).2]
  show (digits? (decimalText n) >>= _) = _
  rw [hdigits]
  show (if maxDigits < ds.length then none else some ((ofDigits 10 ds : Nat) : Int)) = _
  rw [if_neg (Nat.not_lt.mpr hlength), hvalue]

/-! ## Whole parts of doubles -/

/-- A finite double in normal form. -/
def Double.IsFinite : Double → Prop
  | .finite _ significand exponent =>
    significand < Nat.pow 2 53 ∧ exponent ≤ greatestExponent
  | _ => False

theorem Double.scaled_le (significand : Nat) (exponent : Int) :
    (scaled significand 1 (-exponent)).1 / (scaled significand 1 (-exponent)).2 ≤
      significand * Nat.pow 2 exponent.toNat := by
  unfold scaled
  split
  · exact Nat.le_trans (Nat.div_le_self _ _) (Nat.le_mul_of_pos_right _ (Nat.two_pow_pos _))
  · exact Nat.le_of_eq (by rw [Int.neg_neg, Nat.div_one])

/-- **The whole part of a finite double can be written.** -/
theorem Double.integerText?_truncated {negative : Bool} {significand : Nat} {exponent : Int}
    (h : (Double.finite negative significand exponent).IsFinite) :
    integerText? (truncated negative significand exponent) ≠ none := by
  obtain ⟨hsignificand, hexponent⟩ := h
  have hdigits : 53 + exponent.toNat ≤ maxDigits := by
    rw [greatestExponent] at hexponent
    rw [maxDigits]
    omega
  refine integerText?_ne_none_of_lt ?_ hdigits
  rw [truncated, natAbs_signed]
  calc (scaled significand 1 (-exponent)).1 / (scaled significand 1 (-exponent)).2
      ≤ significand * Nat.pow 2 exponent.toNat := scaled_le significand exponent
    _ < Nat.pow 2 53 * Nat.pow 2 exponent.toNat :=
      Nat.mul_lt_mul_of_pos_right hsignificand (Nat.two_pow_pos _)
    _ = Nat.pow 2 (53 + exponent.toNat) := (Nat.pow_add 2 53 _).symm
    _ ≤ Nat.pow 10 (53 + exponent.toNat) := Nat.pow_le_pow_left (by decide) _

/-! ## What is written is not empty -/

theorem decimalText_ne_nil (n : Nat) : decimalText n ≠ [] := by
  obtain ⟨ds, htext, hne, -⟩ := exists_digits n
  rw [htext]
  simpa using hne

theorem integerText_ne_empty (i : Int) : integerText i ≠ "" := by
  rw [integerText, Ne, String.ofList_eq_empty_iff]
  split
  · exact List.cons_ne_nil _ _
  · exact decimalText_ne_nil _

theorem laidOut_ne_nil (ds : List Char) (power : Int) : laidOut ds power ≠ [] := by
  unfold laidOut
  split
  · exact List.cons_ne_nil _ _
  · split
    · dsimp only
      split <;> simp
    · split <;> simp

theorem doubleText_ne_empty (x : Double) : doubleText x ≠ "" := by
  cases x with
  | nan => decide
  | infinite negative => cases negative <;> decide
  | finite negative s e =>
    have hmagnitude : magnitudeText s e ≠ [] := by
      unfold magnitudeText
      split
      · exact List.cons_ne_nil _ _
      · exact laidOut_ne_nil _ _
    rw [doubleText, Ne, String.ofList_eq_empty_iff]
    split
    · exact List.cons_ne_nil _ _
    · exact hmagnitude

end Numeral

end DialUp
