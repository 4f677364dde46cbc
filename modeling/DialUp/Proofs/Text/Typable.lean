import DialUp.Proofs.Text.Capital

/-!
# Characters that can be typed

A client types the printable characters of ASCII. Each of them has a capital form of one character
that can be typed as well.

* `mem_upper`: a typed text in capitals has no small letters;
* `upper_of_capitals`: a typed text without small letters is in capitals already.
-/

namespace DialUp.Text

/-- What a client can type: the printable characters of ASCII. -/
def isTypable (c : Char) : Bool := 0x20 ≤ c.toNat && c.toNat ≤ 0x7E

/-- The small letters of ASCII. -/
def isSmall (c : Char) : Bool := 0x61 ≤ c.toNat && c.toNat ≤ 0x7A

theorem isTypable_iff {c : Char} : isTypable c = true ↔ 0x20 ≤ c.toNat ∧ c.toNat ≤ 0x7E := by
  simp only [isTypable, Bool.and_eq_true, decide_eq_true_eq]

theorem isSmall_iff {c : Char} : isSmall c = true ↔ 0x61 ≤ c.toNat ∧ c.toNat ≤ 0x7A := by
  simp only [isSmall, Bool.and_eq_true, decide_eq_true_eq]

/-- What holds of each code holds of each character that can be typed. -/
theorem typable_forall {P : Char → Prop} (h : ∀ n < 0x7F, P (Char.ofNat n)) {c : Char}
    (hc : isTypable c = true) : P c := by
  have hcode := h c.toNat (Nat.lt_succ_of_le (isTypable_iff.mp hc).2)
  rwa [Char.ofNat_toNat] at hcode

theorem isTypable_of_byte {byte : UInt8} (h : (0x20 ≤ byte && byte < 0x7F) = true) :
    isTypable (Char.ofNat byte.toNat) = true := by
  simp only [Bool.and_eq_true, decide_eq_true_eq, UInt8.le_iff_toNat_le,
    UInt8.lt_iff_toNat_lt] at h
  have hvalid : byte.toNat.isValidChar := Or.inl (Nat.lt_trans byte.toNat_lt (by decide))
  rw [isTypable_iff, toNat_ofNat_of_isValidChar hvalid]
  exact ⟨h.1, Nat.le_of_lt_succ h.2⟩

/-- The capital form of a character that can be typed. -/
theorem capital_eq_of_typable {c : Char} (hc : isTypable c = true) :
    capital c = if isSmall c then [Char.ofNat (c.toNat - 0x20)] else [c] := by
  have hascii : c.toNat < 0x80 := Nat.lt_of_le_of_lt (isTypable_iff.mp hc).2 (by decide)
  unfold capital
  dsimp only
  rw [if_pos hascii]
  simp only [isSmall_iff]

/-- A capital form is one character that can be typed and is no small letter. -/
theorem capital_of_typable {c : Char} (hc : isTypable c = true) :
    ∀ d ∈ capital c, isTypable d = true ∧ isSmall d = false := by
  rw [capital_eq_of_typable hc]
  intro d hd
  split at hd
  · rename_i hsmall
    obtain ⟨hfirst, hlast⟩ := isSmall_iff.mp hsmall
    have hvalid : (c.toNat - 0x20).isValidChar := Or.inl (by omega)
    rw [List.mem_singleton.mp hd, isTypable_iff, Bool.eq_false_iff, ne_eq, isSmall_iff,
      toNat_ofNat_of_isValidChar hvalid]
    omega
  · rename_i hsmall
    rw [List.mem_singleton.mp hd]
    exact ⟨hc, Bool.eq_false_iff.mpr hsmall⟩

theorem capital_of_not_small {c : Char} (hc : isTypable c = true) (hsmall : isSmall c = false) :
    capital c = [c] := by
  rw [capital_eq_of_typable hc, hsmall]
  rfl

/-- A typed text in capitals can be typed, and has no small letters. -/
theorem mem_upper {cs : List Char} (h : ∀ c ∈ cs, isTypable c = true) {d : Char}
    (hd : d ∈ upper cs) : isTypable d = true ∧ isSmall d = false := by
  obtain ⟨c, hc, hd⟩ := List.mem_flatMap.mp hd
  exact capital_of_typable (h c hc) d hd

/-- A typed text without small letters is in capitals already. -/
theorem upper_of_capitals {cs : List Char}
    (h : ∀ c ∈ cs, isTypable c = true ∧ isSmall c = false) : upper cs = cs :=
  upper_eq_self fun c hc => capital_of_not_small (h c hc).1 (h c hc).2

end DialUp.Text
