import DialUp.Configuration.File
import DialUp.Proofs.Configuration.Refusal

/-!
# When no setting comes from the environment

Settings of the environment come into the section `config`, which is made a mapping for them, also
if there are none. A section that is a mapping, or counts as none, reads the same before and after.
Any other is reported as it stands, and made a mapping it is not: it is an error without a report,
or there are settings to be found in it.

* `IsSection`: a value that does for a section;
* `ofDocument_withSettings`: what the mapping in the place of such a section changes, which is
  nothing;
* `load_unset`: so the settings of the environment, when there are none, change nothing exactly
  if the section does.
-/

namespace DialUp.Configuration

open Document (Value Mishap)

variable {d : Document} {root settings : List (Value × Value)} {basePath name path : String}
  {found : Found Bytes} {reader : Reader}

/-! ## Sections -/

/-- The value counts as none, or stands for a mapping. -/
def IsSection (d : Document) (v : Value) : Prop :=
  d.isTruthy v = true → ∃ pairs, d.look v = .map pairs

theorem isSection_iff :
    IsSection d (Value.getD root name) ↔ ∃ pairs, sectionOf d root name = .ok pairs := by
  unfold sectionOf Document.orElse IsSection
  cases d.isTruthy (Value.getD root name) with
  | false => exact ⟨fun _ => ⟨[], rfl⟩, fun _ => nofun⟩
  | true =>
    constructor
    · intro h
      obtain ⟨pairs, hpairs⟩ := h rfl
      exact ⟨pairs, by simp [hpairs]⟩
    · rintro ⟨pairs, hpairs⟩ -
      split at hpairs
      · rename_i same hlook
        exact ⟨same, hlook⟩
      · cases hpairs

/-- What stands for a section is what the section is made into. -/
theorem toPairs_of_sectionOf (h : sectionOf d root name = .ok settings) :
    d.toPairs (d.orElse (Value.getD root name) (.map [])) = .ok settings := by
  unfold sectionOf at h
  split at h
  · rename_i pairs hlook
    cases h
    rw [Document.toPairs, hlook]
  · cases h

theorem ofDocument_of_not_isSection (hroot : d.look d.root = .map root)
    (h : ¬ IsSection d (Value.getD root "config")) :
    ofDocument d basePath = fail "Section 'config' must be a mapping" := by
  have hsection : sectionOf d root "config" = fail "Section 'config' must be a mapping" := by
    rw [isSection_iff] at h
    unfold sectionOf at h ⊢
    split
    · rename_i pairs hlook
      rw [hlook] at h
      exact absurd ⟨pairs, rfl⟩ h
    · rfl
  unfold ofDocument
  rw [hroot]
  dsimp only
  rw [hsection]
  rfl

/-! ## A document with other settings -/

section

variable (root : Value) (d : Document)

theorem written?_root (v : Value) : ({ d with root } : Document).written? v = d.written? v := by
  have hinside (way : List Nat) (fuel : Nat) (v : Value) :
      ({ d with root } : Document).writtenInside? way fuel v = d.writtenInside? way fuel v := by
    induction fuel generalizing way v with
    | zero => rfl
    | succ fuel ih =>
      simp only [Document.writtenInside?, ih]
      rfl
  exact hinside _ _ v

theorem plain_root (v : Value) : ({ d with root } : Document).plain v = d.plain v := by
  simp only [Document.plain, Document.plain?, written?_root]

theorem converted_root {α : Type} (name : String) (v : Value) (x : Except Mishap α) :
    converted { d with root } name v x = converted d name v x := by
  simp only [converted, Document.written, written?_root]

theorem portOf_root (v : Value) : portOf { d with root } v = portOf d v := by
  simp only [portOf, converted_root, Document.written, written?_root]

theorem positiveOf_root (name : String) (v : Value) :
    positiveOf { d with root } name v = positiveOf d name v := by
  simp only [positiveOf, converted_root]

theorem entryOf_root (index : Nat) (v : Value) :
    entryOf { d with root } index v = entryOf d index v := by
  have hoptional : optionalText { d with root } = optionalText d := by
    funext v
    simp only [optionalText, plain_root]
  unfold entryOf
  rw [hoptional]
  rfl

theorem phonebookOf_root (v : Value) : phonebookOf { d with root } v = phonebookOf d v := by
  have hentries (index : Nat) (items : List Value) :
      entriesOf { d with root } index items = entriesOf d index items := by
    induction items generalizing index with
    | nil => rfl
    | cons v rest ih => simp only [entriesOf, entryOf_root, ih]
  simp only [phonebookOf, hentries]
  rfl

theorem soundsOf_root (pairs : List (Value × Value)) :
    soundsOf { d with root } pairs = soundsOf d pairs := by
  have hadd : addSound { d with root } = addSound d := by
    funext sounds pair
    simp only [addSound, plain_root]
    rfl
  simp only [soundsOf, hadd]

end

/-- The document with a mapping as its section `config`. -/
def withSettings (d : Document) (root settings : List (Value × Value)) : Document :=
  { d with root := .map (Value.insert (.text "config") (.map settings) root) }

theorem sectionOf_settings :
    sectionOf (withSettings d root settings)
      (Value.insert (.text "config") (.map settings) root) "config" = .ok settings := by
  unfold sectionOf
  rw [Value.getD, Value.get?_insert_self]
  cases settings <;> rfl

theorem getD_settings (name : String) (h : name ≠ "config") :
    Value.getD (Value.insert (.text "config") (.map settings) root) name =
      Value.getD root name := by
  rw [Value.getD, Value.get?_insert_of_ne h, Value.getD]

theorem sectionOf_withSettings (name : String) (h : name ≠ "config") :
    sectionOf (withSettings d root settings)
      (Value.insert (.text "config") (.map settings) root) name = sectionOf d root name := by
  unfold sectionOf
  rw [getD_settings name h]
  rfl

/-- **A section that is written as the mapping it stands for reads the same.** -/
theorem ofDocument_withSettings (hroot : d.look d.root = .map root)
    (h : sectionOf d root "config" = .ok settings) :
    ofDocument (withSettings d root settings) basePath = ofDocument d basePath := by
  have hsame : (withSettings d root settings).look (withSettings d root settings).root =
      .map (Value.insert (.text "config") (.map settings) root) := rfl
  unfold ofDocument
  rw [hroot, hsame]
  dsimp only
  rw [sectionOf_settings, h]
  simp only [sectionOf_withSettings "audio" (by decide),
    sectionOf_withSettings "sounds" (by decide), getD_settings "phonebook" (by decide)]
  simp only [withSettings, portOf_root, plain_root, positiveOf_root, phonebookOf_root,
    soundsOf_root]
  rfl

/-- With a mapping as its section `config`, a document is refused for something else, if at all. -/
theorem ofDocument_withSettings_ne :
    ofDocument (withSettings d root settings) basePath ≠
      fail "Section 'config' must be a mapping" := by
  intro h
  obtain ⟨_, -, hnone⟩ | ⟨same, hroot, _, place, _, -, -, hplace⟩ := ofDocument_eq_error h
  · exact hnone _ rfl
  have hsame : same = Value.insert (.text "config") (.map settings) root := by
    cases hroot
    rfl
  subst hsame
  by_cases hsettings : place = .settings
  · rw [hsettings, Place.refusal?, sectionOf_settings] at hplace
    cases hplace
  · obtain ⟨heading, hheading, rest, hmessage⟩ := place.reported hplace
    have hprefix : heading.toList <+: "Section 'config' must be a mapping".toList := by
      rw [(Failure.mk.inj hmessage).2.1, String.toList_append]
      exact List.prefix_append _ _
    have hother : ∀ place : Place, place ≠ .settings → ∀ heading ∈ place.headings,
        ¬ heading.toList <+: "Section 'config' must be a mapping".toList := by
      rintro (_ | _) <;> decide
    exact hother place hsettings heading hheading hprefix

/-! ## Without settings of the environment -/

theorem loadBy_of_ok (env : Overrides) (hread : fileDocumentBy reader path found = .ok d)
    (hroot : d.look d.root = .map root) : loadBy reader path found (some env) =
      unreported (d.toPairs (d.orElse (Value.getD root "config") (.map []))) >>= fun settings =>
        overridePort env.port settings >>= fun own =>
          ofDocument (withSettings d root (overrideHost env.host own)) (Path.directory path) := by
  have hover : overridden env d =
      unreported (d.toPairs (d.orElse (Value.getD root "config") (.map []))) >>= fun settings =>
        overridePort env.port settings >>= fun own =>
          .ok (withSettings d root (overrideHost env.host own)) := by
    unfold overridden
    rw [hroot]
    rfl
  rw [loadBy, documentBy, hread]
  change overridden env d >>= _ = _
  rw [hover]
  cases unreported (d.toPairs (d.orElse (Value.getD root "config") (.map []))) with
  | error fault => rfl
  | ok settings =>
    change (overridePort env.port settings >>= _) >>= _ = overridePort env.port settings >>= _
    cases overridePort env.port settings <;> rfl

theorem loadBy_unset_of_ok (hread : fileDocumentBy reader path found = .ok d)
    (hroot : d.look d.root = .map root) : loadBy reader path found (some {}) =
      unreported (d.toPairs (d.orElse (Value.getD root "config") (.map []))) >>= fun settings =>
        ofDocument (withSettings d root settings) (Path.directory path) :=
  loadBy_of_ok {} hread hroot

theorem loadBy_none_of_ok (hread : fileDocumentBy reader path found = .ok d) :
    loadBy reader path found none = ofDocument d (Path.directory path) := by
  rw [loadBy, documentBy, hread]
  rfl

/-- With a section that does, the settings of the environment change nothing. -/
theorem loadBy_unset_of_isSection (hread : fileDocumentBy reader path found = .ok d)
    (hroot : d.look d.root = .map root) (h : IsSection d (Value.getD root "config")) :
    loadBy reader path found (some {}) = loadBy reader path found none := by
  obtain ⟨settings, hsettings⟩ := isSection_iff.mp h
  rw [loadBy_unset_of_ok hread hroot, loadBy_none_of_ok hread, toPairs_of_sectionOf hsettings]
  exact ofDocument_withSettings hroot hsettings

/-- With any other section, they do. -/
theorem loadBy_unset_of_not_isSection (hread : fileDocumentBy reader path found = .ok d)
    (hroot : d.look d.root = .map root) (h : ¬ IsSection d (Value.getD root "config")) :
    loadBy reader path found (some {}) ≠ loadBy reader path found none := by
  rw [loadBy_unset_of_ok hread hroot, loadBy_none_of_ok hread, ofDocument_of_not_isSection hroot h]
  cases d.toPairs (d.orElse (Value.getD root "config") (.map [])) with
  | error mishap => exact nofun
  | ok settings => exact ofDocument_withSettings_ne

/-- **Without settings, it makes no difference whether those of the environment count**, exactly if
the section `config` counts as none or stands for a mapping. Any other section is reported if they
do not count; if they do, it is made a mapping, in which settings are found, or it has no report. -/
theorem load_unset (reader : Reader) (path : String) (found : Found Bytes) :
    (loadBy reader path found (some {}) = loadBy reader path found none ↔
      ∀ d root, fileDocumentBy reader path found = .ok d → d.look d.root = .map root →
        IsSection d (Value.getD root "config")) ∧
    ∀ d root, fileDocumentBy reader path found = .ok d → d.look d.root = .map root →
      ¬ IsSection d (Value.getD root "config") →
      loadBy reader path found none = fail "Section 'config' must be a mapping" ∧
      loadBy reader path found (some {}) = unreported (d.toPairs (Value.getD root "config")) >>=
        fun settings => ofDocument (withSettings d root settings) (Path.directory path) := by
  refine ⟨⟨fun hsame d root hread hroot => ?_, fun h => ?_⟩, fun d root hread hroot h => ⟨?_, ?_⟩⟩
  · exact Classical.not_not.mp fun hnot =>
      loadBy_unset_of_not_isSection hread hroot hnot hsame
  · cases hread : fileDocumentBy reader path found with
    | error fault =>
      rw [loadBy, loadBy, documentBy, documentBy, hread]
      rfl
    | ok d =>
      by_cases hroot : ∃ root, d.look d.root = .map root
      · obtain ⟨root, hroot⟩ := hroot
        exact loadBy_unset_of_isSection hread hroot (h d root hread hroot)
      · -- what is no mapping is not given any settings
        have hover : overridden {} d = .ok d := by
          unfold overridden
          split
          · rename_i root hmap
            exact absurd ⟨root, hmap⟩ hroot
          · rfl
        rw [loadBy_none_of_ok hread, loadBy, documentBy, hread]
        change overridden {} d >>= _ = _
        rw [hover]
        rfl
  · rw [loadBy_none_of_ok hread, ofDocument_of_not_isSection hroot h]
  · have htruthy : d.isTruthy (Value.getD root "config") = true := by
      cases htruthy : d.isTruthy (Value.getD root "config") with
      | true => rfl
      | false => exact absurd (fun htrue => by rw [htruthy] at htrue; cases htrue) h
    rw [loadBy_unset_of_ok hread hroot, Document.orElse, if_pos htruthy]

/-- A number as the section `config` is reported only as long as the environment does not count, and
of a list of pairs the settings are taken only if it does. -/
theorem section_by_environment :
    load "modem.yml" (.file (Bytes.ofText "config: 5\n")) none =
      fail "Section 'config' must be a mapping" ∧
    load "modem.yml" (.file (Bytes.ofText "config: 5\n")) (some {}) =
      .error (.unreported .badKind) ∧
    load "modem.yml" (.file (Bytes.ofText "config: [[port, 6000]]\n")) none =
      fail "Section 'config' must be a mapping" ∧
    (load "modem.yml" (.file (Bytes.ofText "config: [[port, 6000]]\n")) (some {})).toOption.map
      (·.port) = some 6000 := by
  refine ⟨refusal?_eq_some.mp ?_, refusal?_eq_some.mp ?_, refusal?_eq_some.mp ?_, ?_⟩ <;>
    decide +kernel

end DialUp.Configuration
