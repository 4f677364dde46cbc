import DialUp.Yaml.Reading

/-!
# Bytes that are no text

A document is decoded as it is read, and a short one at once. So bytes that are no UTF-8 keep a
short document from being read whatever else is in it.

* `decode_left`: what is left of a run is left again;
* `read_of_not_isUtf8`: what becomes of a short document that is no UTF-8.
-/

namespace DialUp.Yaml

/-- The bytes are UTF-8 from the first to the last. -/
def IsUtf8 (data : Bytes) : Prop := (decode data).invalid = false ∧ (decode data).left = []

instance (data : Bytes) : Decidable (IsUtf8 data) := inferInstanceAs (Decidable (_ ∧ _))

/-! ## Runs -/

/-- What is left of a run is the beginning of a character, and is left again. -/
theorem decode_left (data : Bytes) :
    decode (decode data).left = { left := (decode data).left } := by
  fun_induction decode data with
  | case3 a n h₁ h₂ =>
    rw [decode.eq_def]
    dsimp only
    rw [if_neg h₁, if_pos h₂]
  | case6 a n h₁ h₂ h₃ =>
    rw [decode.eq_def]
    dsimp only
    rw [if_neg h₁, if_neg h₂, if_pos h₃]
  | case8 a n h₁ h₂ h₃ b val hval =>
    rw [decode.eq_def]
    dsimp only
    rw [if_neg h₁, if_neg h₂, if_pos h₃, hval]
  | case11 a n h₁ h₂ h₃ h₄ =>
    rw [decode.eq_def]
    dsimp only
    rw [if_neg h₁, if_neg h₂, if_neg h₃, if_pos h₄]
  | case13 a n h₁ h₂ h₃ h₄ b x hx =>
    rw [decode.eq_def]
    dsimp only
    rw [if_neg h₁, if_neg h₂, if_neg h₃, if_pos h₄, hx]
  | case15 a n h₁ h₂ h₃ h₄ b x c hx y hy =>
    rw [decode.eq_def]
    dsimp only
    rw [if_neg h₁, if_neg h₂, if_neg h₃, if_pos h₄, hx]
    dsimp only
    rw [hy]
  | _ => simp_all [decode, Run.cons]

theorem length_chars_le (data : Bytes) : (decode data).chars.length ≤ data.length := by
  fun_induction decode data <;> simp_all [Run.cons] <;> omega

theorem length_unifyBreaks_le (cs : List Char) : (unifyBreaks cs).length ≤ cs.length := by
  fun_induction unifyBreaks cs <;> simp_all
  omega

theorem isUtf8_left_iff {data : Bytes} :
    IsUtf8 (decode data).left ↔ (decode data).left = [] := by
  rw [IsUtf8, decode_left]
  exact and_iff_right rfl

/-- A carriage return in front makes no difference. -/
theorem isUtf8_cons_return {data : Bytes} : IsUtf8 (0x0D :: data) ↔ IsUtf8 data := by
  have hdecode : decode (0x0D :: data) = (decode data).cons 0x0D := by
    rw [decode.eq_def]
    rfl
  rw [IsUtf8, hdecode]
  rfl

/-! ## Short documents -/

variable {data : Bytes}

namespace Supply

/-- Bytes that are left at the end of a document must be a character. -/
theorem refill_of_left {s : Supply} (hend : s.bytes = []) (h : ¬ IsUtf8 s.left) (wanted : Nat) :
    s.refill wanted = none := by
  unfold refill
  rw [hend, List.take_nil]
  dsimp only
  rw [List.append_nil]
  split
  · rfl
  · rename_i hvalid
    rw [if_pos (by rfl), if_neg]
    intro hleft
    exact h ⟨Bool.eq_false_iff.mpr hvalid, List.isEmpty_iff.mp hleft⟩

/-- A short document is decoded at once. If it is no UTF-8, something is left at its end. -/
theorem refill_of_not_isUtf8 (hshort : data.length < batchSize) (h : ¬ IsUtf8 data) {wanted : Nat}
    {s : Supply} (hs : refill { bytes := data } wanted = some s) :
    s.bytes = [] ∧ s.ready.length < batchSize ∧ ¬ IsUtf8 s.left := by
  have hportion : data.take (portionFor { bytes := data } wanted) = data := by
    refine List.take_of_length_le (Nat.le_trans (Nat.le_of_lt hshort) ?_)
    exact Nat.le_trans (by decide) (Nat.le_max_left portionSize _)
  unfold refill at hs
  dsimp only at hs
  rw [hportion, List.nil_append] at hs
  split at hs
  · cases hs
  · rename_i hvalid
    have hleft : ¬ IsUtf8 (decode data).left := fun hleft =>
      h ⟨Bool.eq_false_iff.mpr hvalid, isUtf8_left_iff.mp hleft⟩
    split at hs
    · rename_i hempty
      rw [List.isEmpty_iff.mp hempty] at h
      exact absurd (by decide) h
    · cases hs
      refine ⟨List.drop_length, ?_, ?_⟩
      · rw [List.nil_append]
        refine Nat.lt_of_le_of_lt (length_unifyBreaks_le _) (Nat.lt_of_le_of_lt ?_ hshort)
        refine Nat.le_trans ?_ (length_chars_le data)
        split
        · exact (List.dropLast_sublist _).length_le
        · exact Nat.le_refl _
      · dsimp only
        split
        · exact fun hreturn => hleft (isUtf8_cons_return.mp hreturn)
        · exact hleft

theorem fill_of_not_isUtf8 (hshort : data.length < batchSize) (h : ¬ IsUtf8 data) (fuel : Nat) :
    fill (fuel + 2) { bytes := data } = none := by
  have hdata : data.isEmpty = false := by
    cases data with
    | nil => exact absurd (by decide) h
    | cons => rfl
  rw [fill, if_neg (by simp [batchSize, hdata])]
  cases hs : refill { bytes := data } (batchSize - 0) with
  | none => rfl
  | some s =>
    obtain ⟨hbytes, hready, hleft⟩ := refill_of_not_isUtf8 hshort h hs
    have hrest : s.left.isEmpty = false := by
      cases hempty : s.left with
      | nil => exact absurd (hempty ▸ by decide) hleft
      | cons => rfl
    change fill (fuel + 1) s = none
    rw [fill, if_neg (by simp [hrest, Nat.not_le.mpr hready]), refill_of_left hbytes hleft]
    rfl

end Supply

/-- **A short document that is no UTF-8 cannot be read**, whatever else is wrong with it. -/
theorem read_of_not_isUtf8 (hshort : data.length < batchSize) (h : ¬ IsUtf8 data) :
    read data = .error (.valueless .undecodable) := by
  have hbatches : Supply.batches (data.length + 2) { bytes := data } = ([], true) := by
    rw [Supply.batches, Supply.fill_of_not_isUtf8 hshort h]
  have hsource : Source.ofBytes data = ⟨[], some (.valueless .undecodable)⟩ := by
    rw [Source.ofBytes, hbatches]
    rfl
  rw [read, hsource]
  rfl

end DialUp.Yaml
