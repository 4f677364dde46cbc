import DialUp.DialTones

/-!
# Dialing that is cut short

Cancellation is looked for before each character, while a digit has two items and most characters
have none. A sequence that is cancelled by the time `n` items are out may so go on for a while, but
only with pauses.

* `playFrom_prefix`: what is played is the beginning of the whole sequence;
* `lt_of_playFrom_eq_cue`: none of its tones comes after the cancellation;
* `le_length_of_playFrom_ne`: and it does not end before the cancellation, unless it is whole.
-/

namespace DialUp.DialTones

variable {timing : Timing} {n count i : Nat} {cs : List Char} {c : Char} {name : String}

/-- The sequence that nothing cuts short. -/
def whole (timing : Timing) (cs : List Char) : List Item :=
  cs.flatMap (ofChar timing) ++ [.pause timing.trailingGap]

theorem whole_cons (timing : Timing) (c : Char) (cs : List Char) :
    whole timing (c :: cs) = ofChar timing c ++ whole timing cs := by
  simp [whole]

theorem playFrom_none (timing : Timing) (count : Nat) (cs : List Char) :
    playFrom timing none count cs = whole timing cs := by
  induction cs generalizing count with
  | nil => rfl
  | cons c rest ih =>
    rw [whole_cons, ← ih (count + (ofChar timing c).length)]
    rfl

/-- The next character finds the sequence cancelled or is played. -/
theorem playFrom_cons (timing : Timing) (n count : Nat) (c : Char) (cs : List Char) :
    playFrom timing (some n) count (c :: cs) =
      if n ≤ count then []
      else ofChar timing c ++ playFrom timing (some n) (count + (ofChar timing c).length) cs := by
  simp [playFrom]

/-- The tone of a character comes before its pause. -/
theorem eq_zero_of_cue (h : (ofChar timing c)[i]? = some (.cue name)) : i = 0 := by
  unfold ofChar at h
  split at h
  · match i, h with
    | 0, _ => rfl
    | 1, h => cases h
  · split at h
    · match i, h with
      | 0, _ => rfl
    · cases h

/-! ## The cancelled sequence -/

/-- **What is played is the beginning of the whole sequence.** -/
theorem playFrom_prefix (timing : Timing) (n count : Nat) (cs : List Char) :
    playFrom timing (some n) count cs <+: whole timing cs := by
  induction cs generalizing count with
  | nil => exact List.prefix_rfl
  | cons c rest ih =>
    rw [playFrom_cons, whole_cons]
    split
    · exact List.nil_prefix
    · exact (List.prefix_append_right_inj _).mpr (ih _)

/-- **No tone starts after the cancellation.** -/
theorem lt_of_playFrom_eq_cue
    (h : (playFrom timing (some n) count cs)[i]? = some (.cue name)) : count + i < n := by
  induction cs generalizing count i with
  | nil =>
    match i, h with
    | 0, h => cases h
  | cons c rest ih =>
    rw [playFrom_cons] at h
    split at h
    · cases h
    · rename_i hcount
      by_cases hi : i < (ofChar timing c).length
      · -- The character was begun before the cancellation, and its tone is its first item.
        rw [List.getElem?_append_left hi] at h
        have hfirst := eq_zero_of_cue h
        omega
      · rw [List.getElem?_append_right (Nat.not_lt.mp hi)] at h
        have hlater := ih h
        omega

/-- **The sequence does not end before the cancellation**, unless it is whole. -/
theorem le_length_of_playFrom_ne (h : playFrom timing (some n) count cs ≠ whole timing cs) :
    n ≤ count + (playFrom timing (some n) count cs).length := by
  induction cs generalizing count with
  | nil => exact absurd rfl h
  | cons c rest ih =>
    rw [playFrom_cons, whole_cons] at h
    rw [playFrom_cons]
    split
    · rename_i hcount
      exact Nat.le_add_right_of_le hcount
    · rename_i hcount
      rw [if_neg hcount] at h
      have hrest := ih fun heq => h (congrArg _ heq)
      rw [List.length_append]
      omega

/-- **Dialing that is cancelled** once `n` items are out plays the beginning of the whole sequence,
which has a tone and a pause for each digit, a longer pause for each space and hyphen, nothing for
other characters, and a pause at the end. All its tones are among the first `n` items, and it has
as many items unless it is whole. -/
theorem cancelled_beginning (timing : Timing) (n : Nat) (number : String) :
    play timing none number =
      (number.toList.flatMap fun c =>
        if Text.isDigit c = true then [.cue ("tone_" ++ c.toString), .pause timing.toneGap]
        else if c = ' ' ∨ c = '-' then [.pause timing.separatorGap]
        else []) ++ [.pause timing.trailingGap] ∧
    play timing (some n) number <+: play timing none number ∧
    (∀ i name, (play timing (some n) number)[i]? = some (.cue name) → i < n) ∧
    (play timing (some n) number ≠ play timing none number →
      n ≤ (play timing (some n) number).length) := by
  have hwhole : play timing none number = whole timing number.toList := playFrom_none timing 0 _
  refine ⟨?_, ?_, fun i name hcue => ?_, fun hcut => ?_⟩
  · rw [hwhole]
    show (number.toList.flatMap fun c => ofChar timing c) ++ _ = _
    simp only [ofChar, toneCue, Bool.or_eq_true, beq_iff_eq]
  · rw [hwhole]
    exact playFrom_prefix timing n 0 _
  · have hlt := lt_of_playFrom_eq_cue hcue
    rwa [Nat.zero_add] at hlt
  · rw [hwhole] at hcut
    have hle := le_length_of_playFrom_ne hcut
    rwa [Nat.zero_add] at hle

/-- The cancellation comes between the tone of the second digit and its pause: that pause is still
played, the space behind it is not. -/
example : play {} (some 3) "12 3" =
    [.cue "tone_1", .pause (.ofQuotient false 1 10), .cue "tone_2",
      .pause (.ofQuotient false 1 10)] := by
  decide +kernel

end DialUp.DialTones
