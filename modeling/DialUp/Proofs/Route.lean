import Mathlib.Data.List.TakeWhile
import DialUp.Proofs.Configuration.Phonebook
import DialUp.Proofs.Numeral
import DialUp.Proofs.Text.Trimming
import DialUp.Route

/-!
# What is read as a route

* `halves?_separated`: a text has two halves exactly if it has one colon, which stands between them;
* `wellFormed_of_parse`: the host of a route is trimmed, is not empty and has no colon, and its
  port is one that can be connected to;
* `parse_text`: any such route is read back from its written form;
* `parse_surrounded`, `parse_padded`: blanks around a text or its parts do not matter;
* `report?_of_parse`: the report on a text that is not a route can be written.
-/

namespace DialUp.Route

/-- A remote endpoint that can be asked for. -/
structure WellFormed (r : Route) : Prop where
  host : Text.IsTrimmed r.host
  colon : ':' ∉ r.host.toList
  port : 0 < r.port ∧ r.port < 65536

variable {cs left right : List Char} {text : String} {r : Route}

/-! ## The parts of a text -/

theorem halves?_eq_some (h : halves? cs = some (left, right)) :
    cs = left ++ ':' :: right ∧ ':' ∉ left ∧ ':' ∉ right := by
  unfold halves? at h
  split at h
  · rename_i c rest hdrop
    have hcolon : c = ':' := by
      have hfirst := List.head?_dropWhile_not (· != ':') cs
      rw [hdrop] at hfirst
      simpa using hfirst
    split at h
    · cases h
    · rename_i hrest
      cases h
      refine ⟨?_, fun hleft => ?_, by simpa using hrest⟩
      · rw [hcolon] at hdrop
        rw [← hdrop, List.takeWhile_append_dropWhile]
      · have hbefore := List.mem_takeWhile_imp hleft
        simp at hbefore
  · cases h

theorem halves?_of_not_mem (h : ':' ∉ left) :
    halves? (left ++ ':' :: right) = if ':' ∈ right then none else some (left, right) := by
  have hleft : ∀ c ∈ left, (c != ':') = true := fun c hc =>
    bne_iff_ne.mpr fun heq => h (heq ▸ hc)
  have hdrop : (left ++ ':' :: right).dropWhile (· != ':') = ':' :: right := by
    rw [List.dropWhile_append_of_pos hleft]
    rfl
  have htake : (left ++ ':' :: right).takeWhile (· != ':') = left := by
    rw [List.takeWhile_append_of_pos hleft]
    exact List.append_nil left
  unfold halves?
  rw [hdrop, htake]
  simp only [List.contains_iff_mem]

/-- **Two halves** are what stands before and behind the only colon. -/
theorem halves?_separated (left right : List Char) :
    halves? (left ++ ':' :: right) =
      if ':' ∈ left ∨ ':' ∈ right then none else some (left, right) := by
  by_cases hleft : ':' ∈ left
  · -- The first colon is one of the left half, and the separator is a second one.
    obtain ⟨front, back, rfl, hfront⟩ := List.eq_append_cons_of_mem hleft
    rw [List.append_assoc, List.cons_append, halves?_of_not_mem hfront, if_pos (by simp),
      if_pos (Or.inl hleft)]
  · rw [halves?_of_not_mem hleft]
    simp only [hleft, false_or]

/-- Reads a route from its parts, which have been trimmed. -/
def ofParts (host portText : List Char) : Except Fault Route :=
  if host.isEmpty then .error .emptyHost
  else match Numeral.readInteger? portText with
    | none => .error (.badPort (String.ofList portText))
    | some port =>
      if 0 < port ∧ port < 65536 then .ok ⟨String.ofList host, port.toNat⟩
      else .error (.portRange port)

theorem parse_eq (text : String) :
    parse text =
      match halves? (Text.trim text.toList) with
      | none => .error .shape
      | some (left, right) => ofParts (Text.trim left) (Text.trim right) :=
  rfl

theorem colon_not_blank : Text.isBlank ':' = false := by decide

/-- Only the colon and the trimmed parts matter of a text. -/
theorem parse_separated (left right : String) :
    parse (left ++ ":" ++ right) =
      if ':' ∈ left.toList ∨ ':' ∈ right.toList then .error .shape
      else ofParts (Text.trim left.toList) (Text.trim right.toList) := by
  have htext : (left ++ ":" ++ right).toList = left.toList ++ ':' :: right.toList := by simp
  rw [parse_eq, htext, Text.trim_separated colon_not_blank, halves?_separated]
  simp only [Text.mem_trimStart_iff colon_not_blank, Text.mem_trimEnd_iff colon_not_blank]
  by_cases hcolons : ':' ∈ left.toList ∨ ':' ∈ right.toList
  · rw [if_pos hcolons, if_pos hcolons]
  · rw [if_neg hcolons, if_neg hcolons]
    show ofParts _ _ = _
    rw [Text.trim_trimStart, Text.trim_trimEnd]

/-! ## Routes that are read -/

/-- What the parts of a route say. -/
theorem ofParts_eq_ok {host portText : List Char} (h : ofParts host portText = .ok r) :
    host ≠ [] ∧ r.host.toList = host ∧ 0 < r.port ∧ r.port < 65536 := by
  unfold ofParts at h
  split at h
  · cases h
  · rename_i hhost
    split at h
    · cases h
    · rename_i port _
      split at h
      · rename_i hport
        cases h
        refine ⟨fun hnil => hhost (List.isEmpty_iff.mpr hnil), String.toList_ofList, ?_⟩
        show 0 < port.toNat ∧ port.toNat < 65536
        omega
      · cases h

/-- **What is read as a route is well-formed.** -/
theorem wellFormed_of_parse (h : parse text = .ok r) : r.WellFormed := by
  rw [parse_eq] at h
  split at h
  · cases h
  · rename_i left right hhalves
    obtain ⟨-, hleft, -⟩ := halves?_eq_some hhalves
    obtain ⟨hne, hhost, hport⟩ := ofParts_eq_ok h
    refine ⟨⟨fun hempty => hne ?_, ?_⟩, fun hcolon => hleft ?_, hport⟩
    · rw [← hhost, hempty]
      rfl
    · rw [Text.trimmed, hhost, Text.trim_trim, ← hhost, String.ofList_toList]
    · rw [hhost] at hcolon
      exact Text.mem_of_mem_trim hcolon

theorem ofParts_of_port {host portText : List Char} {port : Nat} (hhost : host ≠ [])
    (hread : Numeral.readInteger? portText = some (port : Int))
    (hport : 0 < port ∧ port < 65536) : ofParts host portText = .ok ⟨String.ofList host, port⟩ := by
  have hrange : 0 < (port : Int) ∧ (port : Int) < 65536 := by omega
  rw [ofParts, if_neg (by simpa using hhost), hread]
  show (if 0 < (port : Int) ∧ (port : Int) < 65536 then _ else _) = _
  rw [if_pos hrange]
  rfl

theorem readInteger?_port {port : Nat} (h : port < 65536) :
    Numeral.readInteger? (Numeral.decimalText port) = some (port : Int) := by
  have hlength : (Numeral.decimalText port).length ≤ 5 :=
    Numeral.length_decimalText_le (Nat.lt_trans h (by decide)) (by decide)
  exact Numeral.readInteger?_decimalText (Nat.le_trans hlength (by decide))

/-- **A well-formed route is read back** from its written form. -/
theorem parse_text (h : r.WellFormed) : parse r.text = .ok r := by
  obtain ⟨hnonempty, htrimmed⟩ := h.host
  have hdigits := fun c hc => Numeral.mem_decimalText (n := r.port) (c := c) hc
  have hcolon : ':' ∉ Numeral.decimalText r.port := fun hmem => (hdigits ':' hmem).2 (by simp)
  have hhost : Text.trim r.host.toList = r.host.toList := by
    simpa [Text.trimmed] using congrArg String.toList htrimmed
  have hport : Text.trim (Numeral.decimalText r.port) = Numeral.decimalText r.port :=
    Text.trim_of_no_blanks fun c hc => (hdigits c hc).1
  rw [text, parse_separated, String.toList_ofList, if_neg (not_or.mpr ⟨h.colon, hcolon⟩), hhost,
    hport, ofParts_of_port (by simpa using hnonempty) (readInteger?_port h.port.2) h.port,
    String.ofList_toList]

/-! ## Blanks -/

/-- **Blanks around a text do not matter.** -/
theorem parse_surrounded {before after : String} (hbefore : Text.IsBlank before)
    (hafter : Text.IsBlank after) (text : String) :
    parse (before ++ text ++ after) = parse text := by
  rw [parse_eq, parse_eq, String.toList_append, String.toList_append,
    Text.trim_surrounded hbefore hafter]

/-- **Blanks around the host and around the port do not matter.** -/
theorem parse_padded {b₁ b₂ b₃ b₄ : String} (h₁ : Text.IsBlank b₁) (h₂ : Text.IsBlank b₂)
    (h₃ : Text.IsBlank b₃) (h₄ : Text.IsBlank b₄) (left right : String) :
    parse ((b₁ ++ left ++ b₂) ++ ":" ++ (b₃ ++ right ++ b₄)) = parse (left ++ ":" ++ right) := by
  rw [parse_separated, parse_separated]
  simp only [String.toList_append, Text.trim_surrounded h₁ h₂, Text.trim_surrounded h₃ h₄,
    Text.mem_surrounded_iff h₁ h₂ colon_not_blank, Text.mem_surrounded_iff h₃ h₄ colon_not_blank]

/-! ## Texts that are not routes -/

/-- The report on a text that is not a route, unless it has a number that cannot be written. -/
def Fault.report? : Fault → Option String
  | .portRange port => (Numeral.integerText? port).map ("Route port out of range: " ++ ·)
  | fault => some fault.message

theorem report?_of_ofParts {host portText : List Char} {fault : Fault}
    (h : ofParts host portText = .error fault) : fault.report? = some fault.message := by
  unfold ofParts at h
  split at h
  · cases h
    rfl
  · split at h
    · cases h
      rfl
    · rename_i port hport
      split at h
      · cases h
      · cases h
        have hwritten := Numeral.integerText?_eq (Numeral.integerText?_of_readInteger? hport)
        rw [Fault.report?, hwritten]
        rfl

/-- **What is wrong with a text can be reported**: a port that is out of range was read from a text,
so it has few enough digits to be written. -/
theorem report?_of_parse {fault : Fault} (h : parse text = .error fault) :
    fault.report? = some fault.message := by
  rw [parse_eq] at h
  split at h
  · cases h
    rfl
  · exact report?_of_ofParts h

/-- **The written form of a route is canonical.** A text is read as a route, which is well-formed
and is read back from its written form, or it is refused with a report; the routes that are read are
all the well-formed ones. What is read, and what is reported, does not depend on blanks around the
text or around either of its parts. -/
theorem canonical_text (text : String) :
    ((∃ r, parse text = .ok r ∧ r.WellFormed ∧ parse r.text = .ok r) ∨
      ∃ fault, parse text = .error fault ∧ fault.report? = some fault.message ∧
        (fault.failure text).kind = .route) ∧
    (∀ r : Route, r.WellFormed → parse r.text = .ok r) ∧
    (∀ before after, Text.IsBlank before → Text.IsBlank after →
      parse (before ++ text ++ after) = parse text) ∧
    ∀ left right, text = left ++ ":" ++ right →
      ∀ b₁ b₂ b₃ b₄, Text.IsBlank b₁ → Text.IsBlank b₂ → Text.IsBlank b₃ → Text.IsBlank b₄ →
        parse ((b₁ ++ left ++ b₂) ++ ":" ++ (b₃ ++ right ++ b₄)) = parse text := by
  refine ⟨?_, fun r => parse_text, fun before after hbefore hafter => ?_, ?_⟩
  · cases hparse : parse text with
    | ok r =>
      have hr := wellFormed_of_parse hparse
      exact Or.inl ⟨r, rfl, hr, parse_text hr⟩
    | error fault => exact Or.inr ⟨fault, rfl, report?_of_parse hparse, rfl⟩
  · exact parse_surrounded hbefore hafter text
  · rintro left right rfl b₁ b₂ b₃ b₄ h₁ h₂ h₃ h₄
    exact parse_padded h₁ h₂ h₃ h₄ left right

end DialUp.Route
