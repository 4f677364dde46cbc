import Mathlib.Data.List.Basic
import DialUp.Phonebook

/-!
# Which entry answers to a number

* `normalize_normalize`: leaving out spaces and hyphens once is enough;
* `position?_eq_some_iff`: the entry that answers is the first one with the number;
* `resolve_eq_some_iff`: and that is the one which is found.
-/

namespace DialUp.Phonebook

variable {book : Phonebook} {i : Nat} {c : Char}

/-! ## Numbers -/

@[simp] theorem mem_normalize (number : String) :
    c ∈ (normalize number).toList ↔ c ∈ number.toList ∧ c ≠ ' ' ∧ c ≠ '-' := by
  simp [normalize]

/-- A number without spaces and hyphens is left as it is. -/
theorem normalize_of_bare {number : String} (h : ∀ c ∈ number.toList, c ≠ ' ' ∧ c ≠ '-') :
    normalize number = number := by
  have hkept : number.toList.filter (fun c => c != ' ' && c != '-') = number.toList := by
    refine List.filter_eq_self.mpr fun c hc => ?_
    simpa using h c hc
  rw [normalize, hkept, String.ofList_toList]

@[simp] theorem normalize_normalize (number : String) :
    normalize (normalize number) = normalize number :=
  normalize_of_bare fun _ hc => ((mem_normalize number).mp hc).2

/-! ## Entries -/

theorem answersTo_iff {number : String} {entry : Entry} :
    answersTo number entry = true ↔ normalize entry.number = normalize number := by
  simp [answersTo]

/-- **The first entry with a number answers to it.** -/
theorem position?_eq_some_iff {number : String} :
    book.position? number = some i ↔
      ∃ entry ∈ book[i]?, normalize entry.number = normalize number ∧
        ∀ earlier ∈ book.take i, normalize earlier.number ≠ normalize number := by
  unfold position?
  rw [List.findIdx?_eq_some_iff_getElem]
  constructor
  · rintro ⟨hi, hanswers, hfirst⟩
    refine ⟨book[i], List.getElem?_eq_getElem hi, answersTo_iff.mp hanswers, ?_⟩
    intro earlier hearlier hsame
    obtain ⟨j, hj, rfl⟩ := List.mem_take_iff_getElem.mp hearlier
    exact hfirst j (by omega) (answersTo_iff.mpr hsame)
  · rintro ⟨entry, hentry, hsame, hfirst⟩
    obtain ⟨hi, rfl⟩ := List.getElem?_eq_some_iff.mp hentry
    refine ⟨hi, answersTo_iff.mpr hsame, ?_⟩
    intro j hj hanswers
    have hearlier : book[j] ∈ book.take i := List.mem_take_iff_getElem.mpr ⟨j, by omega, rfl⟩
    exact hfirst _ hearlier (answersTo_iff.mp hanswers)

/-- **Looking an entry up finds the first one with the number.** -/
theorem resolve_eq_some_iff {number : String} {entry : Entry} :
    book.resolve number = some entry ↔
      ∃ i, book.position? number = some i ∧ book[i]? = some entry := by
  rw [resolve, List.find?_eq_bind_findIdx?_getElem?, Option.bind_eq_some_iff]
  rfl

end DialUp.Phonebook
