import Mathlib.Data.List.Forall2
import DialUp.Proofs.Configuration.Phonebook
import DialUp.Proofs.Document.Value

/-!
# What is true of every configuration

Whatever a document holds, a configuration that is read from it listens on a port, has an entry for
each item of the document's phonebook, and a file for each of its sounds.

* `optionalText_eq_ok_iff`, `entriesOf_eq_ok_iff`: what the texts and the entries of a phonebook are
  read as;
* `entriesOf_ne_ok`: no phonebook is read of which an item has no number;
* `portOf_lt`, `addSounds_ne_empty`, `deviceOf_eq_ok_iff`: what a port, the sound files and a device
  are read as;
* `well_formed_if_read`: what is thus true of every configuration.
-/

namespace DialUp

/-- A configuration that can be used: its port is one, each entry has a number and no blanks around
its texts, and each sound has a file. -/
structure Configuration.WellFormed (config : Configuration) : Prop where
  port : 0 < config.port ∧ config.port < 65536
  phonebook : ∀ entry ∈ config.phonebook, entry.WellFormed
  sounds : ∀ sound ∈ config.sounds, sound.2 ≠ ""

namespace Configuration

open Document (Value Mishap)

variable {d : Document} {v : Value} {basePath : String} {config : Configuration}

/-! ## The phonebook -/

/-- The optional text that a value stands for: its plain form without the blanks around it. Null,
and a value of which nothing is left so, stand for none. -/
inductive StandsFor (d : Document) : Value → Option String → Prop
  | null : StandsFor d .null none
  | blank {v : Value} {plain : String} (hv : v ≠ .null) (hplain : d.plain? v = some plain)
      (hblank : Text.trimmed plain = "") : StandsFor d v none
  | text {v : Value} {plain : String} (hv : v ≠ .null) (hplain : d.plain? v = some plain)
      (htext : Text.trimmed plain ≠ "") : StandsFor d v (some (Text.trimmed plain))

theorem unreported_eq_ok_iff {α : Type} {x : Except Mishap α} {a : α} :
    unreported x = .ok a ↔ x = .ok a := by
  cases x <;> simp [unreported]

theorem plain_eq_ok_iff {plain : String} : d.plain v = .ok plain ↔ d.plain? v = some plain := by
  unfold Document.plain
  cases d.plain? v <;> simp

theorem optionalText_eq_ok_iff {text? : Option String} :
    optionalText d v = .ok text? ↔ StandsFor d v text? := by
  unfold optionalText
  split
  · constructor
    · intro h
      cases h
      exact .null
    · intro h
      cases h with
      | null => rfl
      | blank hv | text hv => exact absurd rfl hv
  · rename_i hv
    simp only [bind_eq_ok, unreported_eq_ok_iff, plain_eq_ok_iff]
    constructor
    · rintro ⟨plain, hplain, h⟩
      cases h
      split
      · rename_i hempty
        exact .blank hv hplain (String.isEmpty_iff.mp hempty)
      · rename_i hempty
        exact .text hv hplain fun hnone => hempty (String.isEmpty_iff.mpr hnone)
    · intro h
      cases h with
      | null => exact absurd rfl hv
      | @blank _ plain _ hplain hblank =>
        refine ⟨plain, hplain, ?_⟩
        rw [hblank]
        rfl
      | @text _ plain _ hplain htext =>
        refine ⟨plain, hplain, ?_⟩
        rw [if_neg fun hempty => htext (String.isEmpty_iff.mp hempty)]
        rfl

/-- The item of a phonebook is a mapping that says what the entry says. -/
def Describes (d : Document) (v : Value) (entry : Entry) : Prop :=
  ∃ pairs, d.look v = .map pairs ∧
    StandsFor d (Value.getD pairs "number") (some entry.number) ∧
    StandsFor d (Value.getD pairs "route_to") entry.route ∧
    StandsFor d (Value.getD pairs "play") entry.announce

theorem entryOf_eq_ok_iff {index : Nat} {entry : Entry} :
    entryOf d index v = .ok entry ↔ Describes d v entry := by
  unfold entryOf Describes
  dsimp only
  split
  · rename_i pairs hpairs
    simp only [bind_eq_ok, optionalText_eq_ok_iff, hpairs, Value.map.injEq, exists_eq_left']
    constructor
    · rintro ⟨number?, hnumber, h⟩
      cases number? with
      | none => cases h
      | some number =>
        obtain ⟨route, hroute, h⟩ := bind_eq_ok.mp h
        obtain ⟨announce, hannounce, h⟩ := bind_eq_ok.mp h
        cases h
        exact ⟨hnumber, optionalText_eq_ok_iff.mp hroute, optionalText_eq_ok_iff.mp hannounce⟩
    · rintro ⟨hnumber, hroute, hannounce⟩
      refine ⟨some entry.number, hnumber, bind_eq_ok.mpr ⟨entry.route, ?_, bind_eq_ok.mpr
        ⟨entry.announce, ?_, rfl⟩⟩⟩
      · exact optionalText_eq_ok_iff.mpr hroute
      · exact optionalText_eq_ok_iff.mpr hannounce
  · rename_i hother
    exact iff_of_false nofun fun ⟨pairs, hpairs, _⟩ => hother pairs hpairs

/-- **There is one entry for each item, in the same order.** -/
theorem entriesOf_eq_ok_iff {items : List Value} {index : Nat} {book : Phonebook} :
    entriesOf d index items = .ok book ↔ List.Forall₂ (Describes d) items book := by
  induction items generalizing index book with
  | nil =>
    rw [List.forall₂_nil_left_iff]
    exact ⟨fun h => by cases h; rfl, fun h => by rw [h]; rfl⟩
  | cons v rest ih =>
    simp only [entriesOf, bind_eq_ok, entryOf_eq_ok_iff, ih, List.forall₂_cons_left_iff]
    constructor
    · rintro ⟨entry, hentry, entries, hentries, h⟩
      cases h
      exact ⟨entry, entries, hentry, hentries, rfl⟩
    · rintro ⟨entry, entries, hentry, hentries, rfl⟩
      exact ⟨entry, hentry, entries, hentries, rfl⟩

/-- The item of a phonebook is no mapping, or its number is missing, null or blank. -/
inductive Unnumbered (d : Document) (v : Value) : Prop
  | noMapping (h : ∀ pairs, d.look v ≠ .map pairs)
  | missing {pairs : List (Value × Value)} (h : d.look v = .map pairs)
      (hnumber : Value.get? pairs "number" = none)
  | null {pairs : List (Value × Value)} (h : d.look v = .map pairs)
      (hnumber : Value.get? pairs "number" = some .null)
  | blank {pairs : List (Value × Value)} {text : String} (h : d.look v = .map pairs)
      (hnumber : Value.get? pairs "number" = some (.text text))
      (hblank : ∀ c ∈ text.toList, Text.isBlank c = true)

theorem StandsFor.left {text : String} (h : StandsFor d v (some text)) :
    v ≠ .null ∧ ∃ plain, d.plain? v = some plain ∧ Text.trimmed plain ≠ "" := by
  cases h with
  | text hv hplain htext => exact ⟨hv, _, hplain, htext⟩

theorem not_describes {entry : Entry} (h : Unnumbered d v) : ¬ Describes d v entry := by
  rintro ⟨pairs, hpairs, hnumber, -⟩
  obtain ⟨hnull, plain, hplain, hleft⟩ := hnumber.left
  rw [Value.getD] at hnull hplain
  cases h with
  | noMapping h => exact h pairs hpairs
  | missing h hmissing =>
    cases h.symm.trans hpairs
    exact hnull (by rw [hmissing]; rfl)
  | null h hnumber =>
    cases h.symm.trans hpairs
    exact hnull (by rw [hnumber]; rfl)
  | blank h hnumber hblank =>
    cases h.symm.trans hpairs
    rw [hnumber] at hplain
    cases hplain
    exact hleft (by rw [Text.trimmed, Text.trim_eq_nil_iff.mpr hblank])

/-- **A phonebook with an item that has no number is not read**, wherever the item stands. -/
theorem entriesOf_ne_ok {items : List Value} {index : Nat} {book : Phonebook} (hv : v ∈ items)
    (h : Unnumbered d v) : entriesOf d index items ≠ .ok book := by
  intro hread
  have hall := entriesOf_eq_ok_iff.mp hread
  obtain ⟨i, hi, rfl⟩ := List.mem_iff_get.mp hv
  exact not_describes h (hall.get i.isLt (hall.length_eq ▸ i.isLt))

/-! ## Port, sounds and device -/

theorem portOf_lt {port : Nat} (h : portOf d v = .ok port) : 0 < port ∧ port < 65536 := by
  obtain ⟨i, -, h⟩ := bind_eq_ok.mp h
  split at h
  · rename_i hrange
    cases h
    omega
  · obtain ⟨_, -, h⟩ := bind_eq_ok.mp h
    cases h

theorem mem_setSound {name path : String} {sounds : List (String × String)}
    {sound : String × String} (h : sound ∈ setSound name path sounds) :
    sound.2 = path ∨ sound ∈ sounds := by
  induction sounds with
  | nil =>
    rw [setSound, List.mem_singleton] at h
    exact .inl (h ▸ rfl)
  | cons first rest ih =>
    obtain ⟨n, p⟩ := first
    rw [setSound] at h
    split at h
    · rcases List.mem_cons.mp h with rfl | h
      · exact .inl rfl
      · exact .inr (List.mem_cons_of_mem _ h)
    · rcases List.mem_cons.mp h with rfl | h
      · exact .inr List.mem_cons_self
      · exact (ih h).imp_right (List.mem_cons_of_mem _)

theorem addSound_ne_empty {sounds sounds' : List (String × String)} {pair : Value × Value}
    (hsounds : ∀ sound ∈ sounds, sound.2 ≠ "") (h : addSound d sounds pair = .ok sounds') :
    ∀ sound ∈ sounds', sound.2 ≠ "" := by
  unfold addSound at h
  split at h
  · rename_i htruthy
    simp only [bind_eq_ok, unreported_eq_ok_iff, plain_eq_ok_iff] at h
    obtain ⟨name, -, path, hpath, h⟩ := h
    cases h
    intro sound hsound
    rcases mem_setSound hsound with rfl | hsound
    · exact fun hnone => Document.plain?_ne_empty htruthy (hnone ▸ hpath)
    · exact hsounds sound hsound
  · cases h
    exact hsounds

theorem addSounds_ne_empty {pairs : List (Value × Value)} {sounds sounds' : List (String × String)}
    (hsounds : ∀ sound ∈ sounds, sound.2 ≠ "")
    (h : pairs.foldlM (addSound d) sounds = .ok sounds') : ∀ sound ∈ sounds', sound.2 ≠ "" := by
  induction pairs generalizing sounds with
  | nil =>
    cases h
    exact hsounds
  | cons pair rest ih =>
    rw [List.foldlM_cons, bind_eq_ok] at h
    obtain ⟨next, hnext, h⟩ := h
    exact ih (addSound_ne_empty hsounds hnext) h

/-- A device as a document has it. -/
def deviceValue : Option AudioDevice → Value
  | none => .null
  | some (.index i) => .int i
  | some (.name s) => .text s

theorem deviceOf_eq_ok_iff {device : Option AudioDevice} :
    deviceOf v = .ok device ↔ v = deviceValue device := by
  constructor
  · intro h
    unfold deviceOf at h
    split at h <;> cases h <;> rfl
  · rintro rfl
    rcases device with _ | (i | s) <;> rfl

/-! ## Configurations -/

/-- **A configuration that is read is well-formed.** It has one entry for each item of the
phonebook, in the same order, which says what the item says, and the device that is given, a whole
number or a text, if one is. An item of the phonebook that has no number keeps the document from
being read, wherever it stands. -/
theorem well_formed_if_read (d : Document) (basePath : String) :
    (∀ config, ofDocument d basePath = .ok config → config.WellFormed ∧
      ∃ sections : Sections, sections.Of d ∧
        (∃ items,
          d.look (d.orElse (Value.getD sections.root "phonebook") (.list [])) = .list items ∧
          List.Forall₂ (Describes d) items config.phonebook) ∧
        Value.getD sections.audio "device" = deviceValue config.audioDevice) ∧
    ∀ root items, d.look d.root = .map root → d.look (Value.getD root "phonebook") = .list items →
      ∀ v ∈ items, Unnumbered d v → ∃ fault, ofDocument d basePath = .error fault := by
  refine ⟨fun config h => ?_, fun root items hroot hitems v hv hunnumbered => ?_⟩
  · have hentries := wellFormed_of_ofDocument h
    obtain ⟨-, sections, hsections, hread⟩ := ofDocument_eq_ok_iff.mp h
    have hsounds := addSounds_ne_empty (List.forall_mem_nil _) hread.sounds
    refine ⟨⟨portOf_lt hread.port, hentries, hsounds⟩, sections, hsections, ?_,
      deviceOf_eq_ok_iff.mp hread.audioDevice⟩
    have hbook := hread.phonebook
    unfold phonebookOf at hbook
    split at hbook
    · rename_i items hitems
      exact ⟨items, hitems, entriesOf_eq_ok_iff.mp hbook⟩
    · cases hbook
  · cases hread : ofDocument d basePath with
    | error fault => exact ⟨fault, rfl⟩
    | ok config =>
      obtain ⟨-, sections, hsections, hparts⟩ := ofDocument_eq_ok_iff.mp hread
      cases hroot.symm.trans hsections.root
      have htruthy : d.isTruthy (Value.getD sections.root "phonebook") = true := by
        rw [Document.isTruthy, hitems]
        cases items with
        | nil => cases hv
        | cons => rfl
      have hbook := hparts.phonebook
      rw [phonebookOf, Document.orElse, if_pos htruthy, hitems] at hbook
      exact absurd hbook (entriesOf_ne_ok hv hunnumbered)

/-- A document with the given items in its phonebook, two sounds and a device. -/
def switchboardDocument (items : List Value) : Document where
  root := .map [(.text "phonebook", .list items),
    (.text "sounds", .map [(.text "busy", .text "busy.wav"), (.text "ring", .null)]),
    (.text "audio", .map [(.text "device", .int 2)])]

/-- A number that is no text, and texts with blanks around them. -/
def numberedItems : List Value :=
  [.map [(.text "number", .int 5551234)],
    .map [(.text "number", .text " 1 "), (.text "route_to", .text "host:23 ")]]

/-- An item with a blank number. -/
def blankItem : Value := .map [(.text "number", .text " \t")]

/-- What the document with the numbered items is read as. -/
def switchboard : Configuration where
  phonebook := [{ number := "5551234" }, { number := "1", route := some "host:23" }]
  sounds := [("busy", "busy.wav")]
  audioDevice := some (.index 2)

theorem well_formed_if_read_switchboard :
    (ofDocument (switchboardDocument numberedItems) "." = .ok switchboard ∧
      switchboard.WellFormed) ∧
    ∃ fault, ofDocument (switchboardDocument (numberedItems ++ [blankItem])) "." =
      .error fault := by
  have hread : ofDocument (switchboardDocument numberedItems) "." = .ok switchboard := by
    decide +kernel
  have hblank : Unnumbered (switchboardDocument (numberedItems ++ [blankItem])) blankItem :=
    .blank rfl rfl (List.all_eq_true.mp (by decide))
  exact ⟨⟨hread, ((well_formed_if_read _ ".").1 _ hread).1⟩,
    (well_formed_if_read _ ".").2 _ _ rfl rfl _ (by simp) hblank⟩

end Configuration

end DialUp
