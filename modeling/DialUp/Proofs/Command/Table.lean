import Mathlib.Data.List.Perm.Basic
import DialUp.Command

/-!
# The rules do not overlap

The first rule that covers a command applies, so the order of the table could matter. It does not:
how a command begins tells the only rule that can cover it.

* `covers_unique`: no two rules cover the same text;
* `lookUp_of_covers`, `lookUp_of_uncovered`: what is answered, whatever the order of the rules;
* `lookUp_perm`: so the order of the rules does not matter.
-/

namespace DialUp.Command

namespace Rule

variable {cs : List Char} {rule other : Rule} {rules : List Rule}

/-- The only rule that can cover a text, by how the text begins. -/
def candidate? : List Char → Option Rule
  | 'Z' :: _ => some .reset
  | 'E' :: _ => some .echo
  | 'V' :: _ => some .verbose
  | 'Q' :: _ => some .quiet
  | 'H' :: _ => some .hangUp
  | 'D' :: _ => some .dial
  | 'A' :: _ => some .answer
  | 'I' :: _ => some .identify
  | 'X' :: _ => some .resultSet
  | 'S' :: _ => some .register
  | '&' :: 'F' :: _ => some .factory
  | '&' :: 'D' :: _ => some .signals
  | '&' :: 'C' :: _ => some .signals
  | 'O' :: _ => some .online
  | _ => none

theorem candidate?_of_prefix {word : List Char} (h : word.isPrefixOf cs = true)
    (hword : ∀ rest, candidate? (word ++ rest) = some rule) : candidate? cs = some rule := by
  obtain ⟨rest, rfl⟩ := List.isPrefixOf_iff_prefix.mp h
  exact hword rest

/-- **How a text begins tells the rule** that covers it. -/
theorem candidate?_of_covers (h : rule.covers cs = true) : candidate? cs = some rule := by
  cases rule with
  | dial | identify | resultSet | register => exact candidate?_of_prefix h fun _ => rfl
  | answer =>
    obtain rfl := beq_iff_eq.mp h
    rfl
  | signals =>
    rcases Bool.or_eq_true_iff.mp h with h | h
    · exact candidate?_of_prefix h fun _ => rfl
    · exact candidate?_of_prefix h fun _ => rfl
  | reset | echo | verbose | quiet | hangUp | factory | online =>
    rcases Bool.or_eq_true_iff.mp h with h | h
    · obtain rfl := beq_iff_eq.mp h
      rfl
    · obtain rfl := beq_iff_eq.mp h
      rfl

/-- **No two rules cover the same text.** -/
theorem covers_unique (h : rule.covers cs = true) (h' : other.covers cs = true) : rule = other :=
  Option.some.inj ((candidate?_of_covers h).symm.trans (candidate?_of_covers h'))

/-- A rule that covers the text gives the answer, wherever it stands. -/
theorem lookUp_of_covers (hmem : rule ∈ rules) (h : rule.covers cs = true) :
    lookUp rules cs = rule.reply cs := by
  cases hfind : rules.find? (·.covers cs) with
  | none => exact absurd h (List.find?_eq_none.mp hfind rule hmem)
  | some first =>
    have hfirst := List.find?_some hfind
    obtain rfl := covers_unique hfirst h
    rw [lookUp, hfind]

/-- A text that no rule covers is acknowledged. -/
theorem lookUp_of_uncovered (h : ∀ rule ∈ rules, rule.covers cs = false) :
    lookUp rules cs = ⟨.ok, none⟩ := by
  have hfind : rules.find? (·.covers cs) = none :=
    List.find?_eq_none.mpr fun rule hrule => by simp [h rule hrule]
  rw [lookUp, hfind]

/-- **The order of the rules does not matter.** -/
theorem lookUp_perm {rules' : List Rule} (horder : rules.Perm rules') (cs : List Char) :
    lookUp rules cs = lookUp rules' cs := by
  by_cases hcovered : ∃ rule ∈ rules, rule.covers cs = true
  · obtain ⟨rule, hmem, h⟩ := hcovered
    rw [lookUp_of_covers hmem h, lookUp_of_covers (horder.mem_iff.mp hmem) h]
  · have huncovered : ∀ rule ∈ rules, rule.covers cs = false := fun rule hmem =>
      Bool.eq_false_iff.mpr fun h => hcovered ⟨rule, hmem, h⟩
    rw [lookUp_of_uncovered huncovered,
      lookUp_of_uncovered fun rule hmem => huncovered rule (horder.mem_iff.mpr hmem)]

theorem mem_table (rule : Rule) : rule ∈ table := by
  cases rule <;> decide

end Rule

/-- The answer to a line when the rules are tried in the given order. -/
def interpretWith (rules : List Rule) (line : String) : Reply :=
  let cs := canonical line.toList
  if cs.isEmpty then ⟨.silence, none⟩
  else if cs == escapeSequence then ⟨.ok, some .escape⟩
  else match withoutEscape cs with
    | 'A' :: 'T' :: rest => Rule.lookUp rules rest
    | _ => ⟨.error, none⟩

theorem interpretWith_table (line : String) : interpretWith Rule.table line = interpret line := rfl

/-- **The rules may be tried in any order.** Each of the thirteen is tried once; at most one of them
covers a text, and it gives the answer to it, so every line has the answer that the table gives. -/
theorem order_irrelevant {rules : List Rule} (horder : rules.Perm Rule.table) :
    (rules.length = 13 ∧ ∀ rule, rule ∈ rules) ∧
    (∀ (cs : List Char) (rule other : Rule),
      rule.covers cs = true → other.covers cs = true → rule = other) ∧
    (∀ (cs : List Char) (rule : Rule), rule.covers cs = true →
      Rule.lookUp rules cs = rule.reply cs) ∧
    ∀ line, interpretWith rules line = interpret line := by
  have hmem : ∀ rule, rule ∈ rules := fun rule => horder.mem_iff.mpr (Rule.mem_table rule)
  refine ⟨⟨horder.length_eq, hmem⟩, fun cs rule other => Rule.covers_unique,
    fun cs rule => Rule.lookUp_of_covers (hmem rule), fun line => ?_⟩
  have hlook : Rule.lookUp rules = Rule.lookUp Rule.table := funext (Rule.lookUp_perm horder)
  rw [← interpretWith_table, interpretWith, hlook]
  rfl

/-- The rules from last to first: a chained hang-up is still found by the rule for registers, and
the commands of other rules that follow a `D` are dialed. -/
theorem order_irrelevant_reverse :
    let rules := Rule.table.reverse
    rules.Perm Rule.table ∧ rules ≠ Rule.table ∧
    (∀ line, interpretWith rules line = interpret line) ∧
    interpretWith rules " ats0=0h0" = ⟨.ok, some .hangUp⟩ ∧
    interpretWith rules "ATD&FZ0" = ⟨.ok, some (.dial "&FZ0")⟩ := by
  intro rules
  have horder : rules.Perm Rule.table := Rule.table.reverse_perm
  refine ⟨horder, by decide, (order_irrelevant horder).2.2.2, ?_, ?_⟩
  · decide +kernel
  · decide +kernel

end DialUp.Command
