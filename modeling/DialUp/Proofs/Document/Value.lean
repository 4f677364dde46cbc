import DialUp.Document.Conversion
import DialUp.Proofs.Numeral

/-!
# Keys and scalars of a value

A text is the same key only as itself, so a mapping under text keys is changed at one of them
without touching the others. A value of whatever depth is made of scalars, and it can be written
exactly if each of them can.

* `get?_insert_self`, `get?_insert_of_ne`: a key that was given a value has it, and no other text
  key is touched;
* `isSome_writtenWith?_iff`: what can be written;
* `Value.Short`, `written?_ne_none`: in particular a value with no place and no integer that is too
  long, and with it all that it is made of;
* `plain?_ne_empty`: what counts as true is not written as an empty text.
-/

namespace DialUp.Document

namespace Value

variable {key other : String} {v : Value} {pairs : List (Value × Value)}

/-! ## Text keys -/

theorem sameKey_text_iff {k : Value} : k.sameKey (.text key) = true ↔ k = .text key := by
  cases k <;> simp [sameKey]

theorem get?_insert_self (key : String) (v : Value) (pairs : List (Value × Value)) :
    get? (insert (.text key) v pairs) key = some v := by
  induction pairs with
  | nil => simp [insert, get?, sameKey]
  | cons pair rest ih =>
    obtain ⟨k, w⟩ := pair
    by_cases h : k.sameKey (.text key) = true
    · simp [insert, get?, h]
    · simpa [insert, get?, h] using ih

theorem get?_insert_of_ne (hne : other ≠ key) (v : Value) (pairs : List (Value × Value)) :
    get? (insert (.text key) v pairs) other = get? pairs other := by
  induction pairs with
  | nil => simp [insert, get?, sameKey, hne.symm]
  | cons pair rest ih =>
    obtain ⟨k, w⟩ := pair
    by_cases h : k.sameKey (.text key) = true
    · obtain rfl := sameKey_text_iff.mp h
      simp [insert, get?, sameKey, hne.symm]
    · by_cases hother : k.sameKey (.text other) = true
      · simp [insert, get?, h, hother]
      · simpa [insert, get?, h, hother] using ih

/-! ## Scalars -/

mutual

/-- The parts of a value, however deep, that are no collections themselves. -/
def scalars : Value → List Value
  | .list items => scalarsOfItems items
  | .map pairs => scalarsOfPairs pairs
  | .set members => scalarsOfItems members
  | .pair first second => first.scalars ++ second.scalars
  | v => [v]

/-- The scalars of the items of a list. -/
def scalarsOfItems : List Value → List Value
  | [] => []
  | v :: rest => v.scalars ++ scalarsOfItems rest

/-- The scalars of the pairs of a mapping. -/
def scalarsOfPairs : List (Value × Value) → List Value
  | [] => []
  | (key, v) :: rest => key.scalars ++ v.scalars ++ scalarsOfPairs rest

end

theorem scalars_subset_of_mem_pairs {pair : Value × Value} (h : pair ∈ pairs) :
    pair.1.scalars ⊆ scalarsOfPairs pairs ∧ pair.2.scalars ⊆ scalarsOfPairs pairs := by
  induction pairs with
  | nil => cases h
  | cons first rest ih =>
    rw [scalarsOfPairs]
    rcases List.mem_cons.mp h with rfl | h
    · exact ⟨by simp, by simp⟩
    · obtain ⟨hkey, hvalue⟩ := ih h
      exact ⟨List.subset_append_of_subset_right _ hkey,
        List.subset_append_of_subset_right _ hvalue⟩

theorem scalars_subset_of_mem_items {items : List Value} (h : v ∈ items) :
    v.scalars ⊆ scalarsOfItems items := by
  induction items with
  | nil => cases h
  | cons first rest ih =>
    rw [scalarsOfItems]
    rcases List.mem_cons.mp h with rfl | h
    · exact List.subset_append_left _ _
    · exact List.subset_append_of_subset_right _ (ih h)

/-! ## What can be written -/

theorem isSome_bind_some {α β : Type} (x : Option α) (f : α → β) :
    (x >>= fun a => some (f a)).isSome = true ↔ x.isSome = true := by
  cases x <;> simp

theorem isSome_bind_bind {α β γ : Type} (x : Option α) (y : Option β) (f : α → β → γ) :
    (x >>= fun a => y >>= fun b => some (f a b)).isSome = true ↔
      x.isSome = true ∧ y.isSome = true := by
  cases x <;> cases y <;> simp

variable (partText? : Nat → Option String)

/-- Whether a scalar can be written. -/
def isWritable : Value → Bool
  | .int i => (Numeral.integerText? i).isSome
  | .part place => (partText? place).isSome
  | _ => true

mutual

/-- **A value can be written exactly if each of its scalars can.** -/
theorem isSome_writtenWith?_iff : ∀ v : Value, (writtenWith? partText? v).isSome = true ↔
    ∀ scalar ∈ v.scalars, scalar.isWritable partText? = true
  | .list items => (isSome_bind_some _ _).trans (isSome_writtenItems?_iff items)
  | .map pairs => (isSome_bind_some _ _).trans (isSome_writtenPairs?_iff pairs)
  | .set [] => by simp [writtenWith?, scalars, scalarsOfItems]
  | .set (v :: rest) => (isSome_bind_some _ _).trans (isSome_writtenItems?_iff (v :: rest))
  | .pair first second => by
    refine (isSome_bind_bind _ _ _).trans ?_
    rw [scalars, List.forall_mem_append, isSome_writtenWith?_iff first,
      isSome_writtenWith?_iff second]
  | .null | .bool _ | .int _ | .float _ | .text _ | .bytes _ | .date _ | .moment _ | .part _ => by
    simp [writtenWith?, scalars, isWritable]

theorem isSome_writtenItems?_iff : ∀ items : List Value,
    (writtenItems? partText? items).isSome = true ↔
      ∀ scalar ∈ scalarsOfItems items, scalar.isWritable partText? = true
  | [] => by simp [writtenItems?, scalarsOfItems]
  | v :: rest => by
    refine (isSome_bind_bind _ _ _).trans ?_
    rw [scalarsOfItems, List.forall_mem_append, isSome_writtenWith?_iff v,
      isSome_writtenItems?_iff rest]

theorem isSome_writtenPairs?_iff : ∀ pairs : List (Value × Value),
    (writtenPairs? partText? pairs).isSome = true ↔
      ∀ scalar ∈ scalarsOfPairs pairs, scalar.isWritable partText? = true
  | [] => by simp [writtenPairs?, scalarsOfPairs]
  | (key, v) :: rest => by
    rw [scalarsOfPairs, List.forall_mem_append, List.forall_mem_append,
      ← isSome_writtenWith?_iff key, ← isSome_writtenWith?_iff v, ← isSome_writtenPairs?_iff rest]
    cases hkey : writtenWith? partText? key <;> cases hv : writtenWith? partText? v <;>
      cases hrest : writtenPairs? partText? rest <;> simp [writtenPairs?, hkey, hv, hrest]

end

end Value

/-! ## Values without places and long integers -/

/-- A scalar that can be written by itself: no place, and no integer that is too long. -/
def Value.IsShort : Value → Prop
  | .int i => Numeral.integerText? i ≠ none
  | .part _ => False
  | _ => True

/-- A value all of whose scalars can be written by themselves. -/
def Value.Short (v : Value) : Prop := ∀ scalar ∈ v.scalars, scalar.IsShort

section

variable {d : Document} {v default : Value} {pairs : List (Value × Value)} {key : String}

theorem Value.short_null : Value.null.Short := by
  simp [Short, scalars, IsShort]

theorem Value.short_text {s : String} : (Value.text s).Short := by
  simp [Short, scalars, IsShort]

theorem Value.short_int {i : Int} {digits : Nat} (h : i.natAbs < Nat.pow 10 digits)
    (hdigits : digits ≤ Numeral.maxDigits) : (Value.int i).Short := fun scalar hscalar => by
  rw [List.mem_singleton.mp hscalar, IsShort]
  exact Numeral.integerText?_ne_none_of_lt h hdigits

theorem Value.Short.pair (h : (Value.map pairs).Short) {pair : Value × Value}
    (hpair : pair ∈ pairs) : pair.1.Short ∧ pair.2.Short := by
  obtain ⟨hkey, hvalue⟩ := scalars_subset_of_mem_pairs hpair
  exact ⟨fun scalar hscalar => h scalar (hkey hscalar),
    fun scalar hscalar => h scalar (hvalue hscalar)⟩

theorem Value.Short.item {items : List Value} (h : (Value.list items).Short) (hv : v ∈ items) :
    v.Short := fun scalar hscalar => h scalar (scalars_subset_of_mem_items hv hscalar)

theorem Value.Short.get? (h : (Value.map pairs).Short) (hv : Value.get? pairs key = some v) :
    v.Short := by
  obtain ⟨pair, hpair, rfl⟩ := Option.map_eq_some_iff.mp hv
  exact (h.pair (List.mem_of_find?_eq_some hpair)).2

theorem Value.Short.getD (h : (Value.map pairs).Short) (key : String) (hdefault : default.Short) :
    ((Value.get? pairs key).getD default).Short := by
  cases hv : Value.get? pairs key with
  | none => exact hdefault
  | some v => exact h.get? hv

theorem written?_ne_none (h : v.Short) : d.written? v ≠ none := by
  rw [← Option.isSome_iff_ne_none]
  refine (Value.isSome_writtenWith?_iff _ v).mpr fun scalar hscalar => ?_
  have hshort := h scalar hscalar
  cases scalar with
  | int i =>
    rw [Value.IsShort] at hshort
    rw [Value.isWritable, Option.isSome_iff_ne_none]
    exact hshort
  | part place => exact hshort.elim
  | _ => rfl

theorem plain?_ne_none (h : v.Short) : d.plain? v ≠ none := by
  unfold plain?
  split
  · nofun
  · nofun
  · nofun
  · exact written?_ne_none h

/-- A value without places stands for itself. -/
theorem look_of_short (h : v.Short) : d.look v = v :=
  look_of_not_part fun place hplace => by
    subst hplace
    exact h (.part place) (List.mem_singleton_self _)

theorem short_look_orElse (h : v.Short) (hdefault : default.Short) :
    (d.look (d.orElse v default)).Short := by
  unfold orElse
  split
  · rwa [look_of_short h]
  · rwa [look_of_short hdefault]

end

/-! ## What is written is not empty -/

section

variable {partText? : Nat → Option String} {v : Value} {d : Document}

theorem padded_ne_empty (width n : Nat) : padded width n ≠ "" := by
  simp [padded, Numeral.decimalText_ne_nil]

theorem Date.text_ne_empty (day : Date) : day.text ≠ "" := by
  simp [Date.text, padded_ne_empty]

theorem Moment.text_ne_empty (m : Moment) : m.text ≠ "" := by
  simp [Moment.text, Date.text_ne_empty]

theorem Moment.longText_ne_empty (m : Moment) : m.longText ≠ "" :=
  fun hnone => absurd (String.append_eq_empty_iff.mp hnone).2 (by decide)

/-- What is written of a value is not empty, if nothing empty is written of a place. -/
theorem Value.writtenWith?_ne_empty (hparts : ∀ place, partText? place ≠ some "") :
    v.writtenWith? partText? ≠ some "" := by
  intro h
  cases v with
  | part place => exact hparts place h
  | int i =>
    rw [writtenWith?, Numeral.integerText?] at h
    split at h
    · exact Numeral.integerText_ne_empty i (Option.some.inj h)
    · cases h
  | float x => exact Numeral.doubleText_ne_empty x (Option.some.inj h)
  | bool b => cases b <;> simp [writtenWith?] at h
  | set members => cases members <;> simp [writtenWith?, Option.bind_eq_some_iff] at h
  | text s => simp [writtenWith?, Text.quoted] at h
  | bytes data => simp [writtenWith?, Text.quotedBytes] at h
  | date day => simp [writtenWith?, Date.longText] at h
  | moment m => exact m.longText_ne_empty (Option.some.inj h)
  | null | list | map | pair => simp [writtenWith?, Option.bind_eq_some_iff] at h

theorem writtenInside?_ne_empty (way : List Nat) (fuel : Nat) (v : Value) :
    d.writtenInside? way fuel v ≠ some "" := by
  induction fuel generalizing way v with
  | zero => nofun
  | succ fuel ih =>
    refine Value.writtenWith?_ne_empty fun place => ?_
    split
    · cases d.partAt place <;> simp [Value.ellipsis]
    · exact ih _ _

/-- **What counts as true has a plain form that is not empty**, if it has one. -/
theorem plain?_ne_empty (h : d.isTruthy v = true) : d.plain? v ≠ some "" := by
  cases v with
  | text s =>
    intro hplain
    rw [Option.some.inj hplain] at h
    cases h
  | date day => exact fun hplain => day.text_ne_empty (Option.some.inj hplain)
  | moment m => exact fun hplain => m.text_ne_empty (Option.some.inj hplain)
  | _ => exact writtenInside?_ne_empty _ _ _

end

end DialUp.Document
