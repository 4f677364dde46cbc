/-!
# Surrogates

A text may hold surrogates, the code points U+D800 to U+DFFF, which are no characters. Each is kept
as a stand-in: the private character that lies `standInOffset` above it.

* `codeOf_ofCode`: the code point of a stand-in is the surrogate that it stands for.
-/

namespace DialUp.Text

/-- How far above a surrogate its stand-in lies. -/
def standInOffset : Nat := 0x100000

/-- Whether a code point is a surrogate. -/
def isSurrogate (code : Nat) : Bool := 0xD800 ≤ code && code ≤ 0xDFFF

/-- The character of a code point, or the stand-in of a surrogate. -/
def ofCode (code : Nat) : Char :=
  Char.ofNat (if isSurrogate code then code + standInOffset else code)

/-- The code point of a character: of a stand-in the surrogate. -/
def codeOf (c : Char) : Nat :=
  if isSurrogate (c.toNat - standInOffset) then c.toNat - standInOffset else c.toNat

theorem toNat_ofNat_of_isValidChar {n : Nat} (h : n.isValidChar) : (Char.ofNat n).toNat = n := by
  rw [Char.ofNat, dif_pos h]
  rfl

/-- A code point below the stand-ins is that of its character. -/
theorem codeOf_ofCode {code : Nat} (h : code < 0xD800 + standInOffset) :
    codeOf (ofCode code) = code := by
  unfold standInOffset at h
  by_cases hs : isSurrogate code = true
  · have hb : 0xD800 ≤ code ∧ code ≤ 0xDFFF := by simpa [isSurrogate] using hs
    have hv : (code + 0x100000).isValidChar := by
      unfold Nat.isValidChar
      omega
    simp [ofCode, codeOf, standInOffset, hs, toNat_ofNat_of_isValidChar hv]
  · have hb : ¬ (0xD800 ≤ code ∧ code ≤ 0xDFFF) := by simpa [isSurrogate] using hs
    have hv : code.isValidChar := by
      unfold Nat.isValidChar
      omega
    have hn : isSurrogate (code - 0x100000) = false := by
      simp only [isSurrogate, Bool.and_eq_false_iff, decide_eq_false_iff_not]
      omega
    simp [ofCode, codeOf, standInOffset, hs, hn, toNat_ofNat_of_isValidChar hv]

end DialUp.Text
