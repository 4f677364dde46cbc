import DialUp.Proofs.Configuration.Overrides
import DialUp.Proofs.Yaml.Source

/-!
# When a file has no document and no report

Before a file is read as a configuration, its document is read and given the settings of the
environment. What is wrong by then is reported, but for a path that nothing can lie under, a file
that holds no value, and a section `config` that no setting can be given to.

* `toPairs_eq_ok_iff`: which values a mapping can be made of;
* `slips_fileDocumentBy_iff`, `slips_overridden_iff`: what has no report when the document is read,
  and when it is given the settings of the environment;
* `document_or_report`: so there is a document or a report exactly if none of these is the case.
-/

namespace DialUp.Configuration

open Document (Value Mishap)

variable {d : Document} {v item : Value} {pairs root : List (Value × Value)} {items : List Value}
  {path : String} {found : Found Bytes} {env : Overrides} {headings : List String} {α : Type}

/-! ## Mappings made of pairs -/

/-- The item gives a key and a value. -/
def IsPair (d : Document) (item : Value) : Prop :=
  ∃ key value, d.items? item = some [key, value] ∧ key.isKey = true

/-- The value has items, each of which gives a key and a value. -/
def IsPaired (d : Document) (v : Value) : Prop :=
  ∃ items, d.items? (d.look v) = some items ∧ ∀ item ∈ items, IsPair d item

theorem addItem_eq_ok_iff :
    (∃ more, d.addItem pairs item = .ok more) ↔ IsPair d item := by
  unfold Document.addItem IsPair
  split
  · rename_i hnone
    simp [hnone]
  · rename_i key value hitems
    cases hkey : key.isKey <;> simp [hitems, hkey]
  · rename_i others hother hitems
    refine iff_of_false nofun ?_
    rintro ⟨key, value, hpair, -⟩
    exact hother key value (Option.some.inj (hitems.symm.trans hpair))

theorem addItems_eq_ok_iff :
    (∃ more, items.foldlM d.addItem pairs = .ok more) ↔ ∀ item ∈ items, IsPair d item := by
  induction items generalizing pairs with
  | nil => exact iff_of_true ⟨pairs, rfl⟩ (List.forall_mem_nil _)
  | cons item rest ih =>
    have hfirst : (∃ more, d.addItem pairs item = .ok more) ↔ IsPair d item := addItem_eq_ok_iff
    rw [List.foldlM_cons, List.forall_mem_cons, ← hfirst]
    cases hitem : d.addItem pairs item with
    | error mishap => exact iff_of_false nofun fun ⟨⟨_, h⟩, _⟩ => nomatch h
    | ok more => exact ih.trans (and_iff_right ⟨more, rfl⟩).symm

/-- **A mapping can be made of a mapping and of what is paired**, and of nothing else. -/
theorem toPairs_eq_ok_iff :
    (∃ pairs, d.toPairs v = .ok pairs) ↔ (∃ pairs, d.look v = .map pairs) ∨ IsPaired d v := by
  unfold Document.toPairs IsPaired
  split
  · rename_i pairs hlook
    exact iff_of_true ⟨pairs, rfl⟩ (.inl ⟨pairs, hlook⟩)
  · rename_i hother
    rw [or_iff_right fun ⟨pairs, hlook⟩ => hother pairs hlook]
    split
    · rename_i hnone
      simp [hnone]
    · rename_i items hitems
      rw [addItems_eq_ok_iff, hitems]
      simp

/-! ## Reading the document -/

theorem slips_unreported_iff {x : Except Mishap α} :
    Slips (unreported x) ↔ ¬ ∃ a, x = .ok a := by
  cases x <;> simp [Slips, unreported]

/-- How the reports begin that are about a file or about the settings of the environment. -/
def loadingHeadings : List String :=
  ["Error loading ", "Configuration file not found: ", "Invalid YAML in ",
    "Invalid value for HAYESMODEM_PORT: "]

theorem reports_fileDocumentBy : Reports loadingHeadings (fileDocumentBy reader path found) := by
  have hunloadable (reason : String) : Reports loadingHeadings (fail ("Error loading " ++ path ++
      ": " ++ reason ++ ": " ++ Text.quoted path) : Except Fault Document) := by
    simp only [String.append_assoc]
    exact reports_fail _ (by decide)
  unfold fileDocumentBy
  dsimp only
  split
  · exact fun _ h => by cases h
  · cases found with
    | nothing => exact reports_fail _ (by decide)
    | directory => exact hunloadable _
    | inaccessible reason => exact hunloadable _
    | file data =>
      dsimp only
      cases reader data with
      | ok d => exact reports_ok _
      | error fault =>
        cases fault with
        | malformed => exact reports_fail _ (by decide)
        | valueless mishap => exact fun _ h => by cases h

/-- Reading a document has no report for a path that nothing can lie under, and for a file that
holds no value. -/
theorem slips_fileDocumentBy_iff : Slips (fileDocumentBy reader path found) ↔
    '\x00' ∈ path.toList ∨
      ∃ data mishap, found = .file data ∧ reader data = .error (.valueless mishap) := by
  unfold fileDocumentBy
  dsimp only
  split
  · rename_i hnull
    exact iff_of_true ⟨_, rfl⟩ (.inl (List.contains_iff_mem.mp hnull))
  · rename_i hnull
    rw [or_iff_right fun hmem => hnull (List.contains_iff_mem.mpr hmem)]
    cases found with
    | file data =>
      dsimp only
      cases hread : reader data with
      | ok d => simp [hread, not_slips_ok]
      | error fault =>
        cases fault with
        | malformed => simp [hread, not_slips_fail]
        | valueless mishap => exact iff_of_true ⟨mishap, rfl⟩ ⟨data, mishap, rfl, hread⟩
    | _ => simp [not_slips_fail]

/-! ## The settings of the environment -/

theorem reports_overridePort {port : Option String} :
    Reports loadingHeadings (overridePort port root) := by
  unfold overridePort
  split
  · exact reports_ok _
  · split
    · exact reports_ok _
    · exact reports_fail _ (by decide)

theorem not_slips_overridePort {port : Option String} : ¬ Slips (overridePort port root) := by
  unfold overridePort
  split
  · exact not_slips_ok _
  · split
    · exact not_slips_ok _
    · exact not_slips_fail _

theorem reports_overridden : Reports loadingHeadings (overridden env d) := by
  unfold overridden
  split
  · exact reports_bind (reports_unreported _) fun _ =>
      reports_bind reports_overridePort fun _ => reports_ok _
  · exact reports_ok _

/-- A mapping is made of a section if it does for one, or is made of pairs. -/
theorem toPairs_orElse_eq_ok_iff :
    (∃ settings, d.toPairs (d.orElse v (.map [])) = .ok settings) ↔
      IsSection d v ∨ IsPaired d v := by
  unfold Document.orElse IsSection
  cases d.isTruthy v with
  | false => exact iff_of_true ⟨[], rfl⟩ (.inl nofun)
  | true => simp [toPairs_eq_ok_iff]

/-- The settings of the environment have no report for a section that does not do for one and is
not made of pairs. -/
theorem slips_overridden_iff : Slips (overridden env d) ↔ ∃ root, d.look d.root = .map root ∧
    ¬ IsSection d (Value.getD root "config") ∧ ¬ IsPaired d (Value.getD root "config") := by
  unfold overridden
  split
  · rename_i root hroot
    rw [slips_bind_iff, slips_unreported_iff, toPairs_orElse_eq_ok_iff, not_or, or_iff_left]
    · simp [hroot]
    · rintro ⟨settings, -, hslips⟩
      obtain hport | ⟨own, -, hdone⟩ := slips_bind_iff.mp hslips
      · exact not_slips_overridePort hport
      · exact not_slips_ok _ hdone
  · rename_i hother
    exact iff_of_false (not_slips_ok _) fun ⟨root, hroot, _⟩ => hother root hroot

/-! ## Documents and reports -/

/-- What is reported of a file and of the settings of the environment. -/
theorem reports_documentBy {env : Option Overrides} :
    Reports loadingHeadings (documentBy reader path found env) := by
  refine reports_bind reports_fileDocumentBy fun d => ?_
  cases env with
  | none => exact reports_ok d
  | some env => exact reports_overridden

/-- A reading whose errors are reported, if they have a report, has a result or a report exactly if
nothing slips through. -/
theorem ok_or_fail_iff {x : Except Fault α} (h : Reports headings x) :
    ((∃ a, x = .ok a) ∨ ∃ message, x = fail message) ↔ ¬ Slips x := by
  cases x with
  | ok a => exact iff_of_true (.inl ⟨a, rfl⟩) (not_slips_ok a)
  | error fault =>
    cases fault with
    | reported failure =>
      obtain ⟨heading, -, rest, rfl⟩ := h failure rfl
      exact iff_of_true (.inr ⟨heading ++ rest, rfl⟩) (not_slips_fail _)
    | unreported mishap =>
      refine iff_of_false ?_ (not_not_intro ⟨mishap, rfl⟩)
      rintro (⟨a, ha⟩ | ⟨message, hmessage⟩)
      · cases ha
      · cases hmessage

/-- What gets in the way of a document without a report of it. -/
inductive Escapes (reader : Reader) (path : String) (found : Found Bytes)
    (env : Option Overrides) : Prop
  /-- Nothing can lie under the path. -/
  | unnameable (h : '\x00' ∈ path.toList)
  /-- The bytes of the file are no text. -/
  | undecodable (data : Bytes) (mishap : Mishap) (hfound : found = .file data)
      (hread : reader data = .error (.valueless mishap)) (h : ¬ Yaml.IsUtf8 data)
  /-- The text of the file is well formed, but stands for no value. -/
  | valueless (data : Bytes) (mishap : Mishap) (hfound : found = .file data)
      (hread : reader data = .error (.valueless mishap)) (h : Yaml.IsUtf8 data)
  /-- The settings of the environment have no section to go to. -/
  | shapeless (settings : Overrides) (d : Document) (root : List (Value × Value))
      (henv : env = some settings) (hread : fileDocumentBy reader path found = .ok d)
      (hroot : d.look d.root = .map root) (hsection : ¬ IsSection d (Value.getD root "config"))
      (hpaired : ¬ IsPaired d (Value.getD root "config"))

theorem slips_documentBy_iff {env : Option Overrides} :
    Slips (documentBy reader path found env) ↔ Escapes reader path found env := by
  unfold documentBy
  rw [slips_bind_iff, slips_fileDocumentBy_iff]
  constructor
  · rintro ((hnull | ⟨data, mishap, hfound, hread⟩) | ⟨d, hread, hslips⟩)
    · exact .unnameable hnull
    · by_cases h : Yaml.IsUtf8 data
      · exact .valueless data mishap hfound hread h
      · exact .undecodable data mishap hfound hread h
    · cases env with
      | none => exact absurd hslips (not_slips_ok d)
      | some settings =>
        obtain ⟨root, hroot, hsection, hpaired⟩ := slips_overridden_iff.mp hslips
        exact .shapeless settings d root rfl hread hroot hsection hpaired
  · rintro (hnull | ⟨data, mishap, hfound, hread, -⟩ | ⟨data, mishap, hfound, hread, -⟩ |
      ⟨settings, d, root, rfl, hread, hroot, hsection, hpaired⟩)
    · exact .inl (.inl hnull)
    · exact .inl (.inr ⟨data, mishap, hfound, hread⟩)
    · exact .inl (.inr ⟨data, mishap, hfound, hread⟩)
    · exact .inr ⟨d, hread, slips_overridden_iff.mpr ⟨root, hroot, hsection, hpaired⟩⟩

/-- **There is a document, or a report of why there is none**, exactly if nothing escapes: no null
character is in the path, what the file holds is read or said to be malformed, and the section
`config` does for one or is made of pairs if the environment counts. Every short file that is no
text escapes. -/
theorem document_or_report (reader : Reader) (path : String) (found : Found Bytes)
    (env : Option Overrides) :
    (((∃ d, documentBy reader path found env = .ok d) ∨
      ∃ message, documentBy reader path found env = fail message) ↔
      ¬ Escapes reader path found env) ∧
    ∀ data, data.length < Yaml.batchSize → ¬ Yaml.IsUtf8 data →
      Escapes Yaml.read path (.file data) env := by
  refine ⟨?_, fun data hshort h => ?_⟩
  · exact (ok_or_fail_iff reports_documentBy).trans (not_congr slips_documentBy_iff)
  · exact .undecodable data .undecodable rfl (Yaml.read_of_not_isUtf8 hshort h) h

/-- A byte that begins no character, a number as the section `config`, which no items can be taken
of, and a text, whose characters are no pairs. -/
theorem document_unreported :
    documentBy Yaml.read "modem.yml" (.file [0xFF]) none = .error (.unreported .undecodable) ∧
    documentBy Yaml.read "modem.yml" (.file (Bytes.ofText "config: 5\n")) (some {}) =
      .error (.unreported .badKind) ∧
    documentBy Yaml.read "modem.yml" (.file (Bytes.ofText "config: abc\n")) (some {}) =
      .error (.unreported .badValue) := by
  refine ⟨refusal?_eq_some.mp ?_, refusal?_eq_some.mp ?_, refusal?_eq_some.mp ?_⟩ <;>
    decide +kernel

end DialUp.Configuration
