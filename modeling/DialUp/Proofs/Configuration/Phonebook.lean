import DialUp.Proofs.Configuration.Reading

/-!
# Which phonebooks a configuration can have

The texts of an entry are trimmed when they are read, and an entry without a number is refused.
Nothing more is asked of an entry, so nothing tells whether it can be dialed.

* `wellFormed_of_ofDocument`: the entries of a configuration are well-formed;
* `ofDocument_phonebookDocument`: and any phonebook of well-formed entries is that of a
  configuration.
-/

namespace DialUp

/-- A text that trimming leaves as it is, and that is not empty. -/
def Text.IsTrimmed (text : String) : Prop := text ≠ "" ∧ Text.trimmed text = text

instance (text : String) : Decidable (Text.IsTrimmed text) := inferInstanceAs (Decidable (_ ∧ _))

/-- What a configuration can say of an entry. -/
structure Entry.WellFormed (entry : Entry) : Prop where
  number : Text.IsTrimmed entry.number
  route : ∀ text ∈ entry.route, Text.IsTrimmed text
  announce : ∀ text ∈ entry.announce, Text.IsTrimmed text

instance (entry : Entry) : Decidable entry.WellFormed :=
  decidable_of_iff (Text.IsTrimmed entry.number ∧ (∀ text ∈ entry.route, Text.IsTrimmed text) ∧
      ∀ text ∈ entry.announce, Text.IsTrimmed text)
    ⟨fun ⟨number, route, announce⟩ => ⟨number, route, announce⟩,
      fun h => ⟨h.number, h.route, h.announce⟩⟩

namespace Configuration

open Document (Value)

variable {d : Document} {v : Value} {text : String} {entry : Entry} {book : Phonebook}

/-! ## What is read is well-formed -/

theorem trimmed_trimmed (text : String) : Text.trimmed (Text.trimmed text) = Text.trimmed text := by
  simp [Text.trimmed, Text.trim_trim]

theorem isTrimmed_of_optionalText (h : optionalText d v = .ok (some text)) :
    Text.IsTrimmed text := by
  unfold optionalText at h
  split at h
  · cases h
  · obtain ⟨plain, -, h⟩ := bind_eq_ok.mp h
    dsimp only at h
    split at h
    · cases h
    · rename_i hempty
      cases h
      refine ⟨fun hnone => hempty ?_, trimmed_trimmed plain⟩
      rw [hnone]
      rfl

theorem wellFormed_of_entryOf {index : Nat} (h : entryOf d index v = .ok entry) :
    entry.WellFormed := by
  unfold entryOf at h
  dsimp only at h
  split at h
  · obtain ⟨number?, hnumber, h⟩ := bind_eq_ok.mp h
    cases number? with
    | none => cases h
    | some number =>
      obtain ⟨route, hroute, h⟩ := bind_eq_ok.mp h
      obtain ⟨announce, hannounce, h⟩ := bind_eq_ok.mp h
      cases h
      refine ⟨isTrimmed_of_optionalText hnumber, fun text htext => ?_, fun text htext => ?_⟩
      · rw [Option.mem_def] at htext
        exact isTrimmed_of_optionalText (hroute.trans (congrArg _ htext))
      · rw [Option.mem_def] at htext
        exact isTrimmed_of_optionalText (hannounce.trans (congrArg _ htext))
  · cases h

theorem wellFormed_of_entriesOf {items : List Value} {index : Nat}
    (h : entriesOf d index items = .ok book) : ∀ entry ∈ book, entry.WellFormed := by
  induction items generalizing index book with
  | nil =>
    cases h
    simp
  | cons v rest ih =>
    obtain ⟨entry, hentry, h⟩ := bind_eq_ok.mp h
    obtain ⟨entries, hentries, h⟩ := bind_eq_ok.mp h
    cases h
    exact List.forall_mem_cons.mpr ⟨wellFormed_of_entryOf hentry, ih hentries⟩

theorem wellFormed_of_phonebookOf (h : phonebookOf d v = .ok book) :
    ∀ entry ∈ book, entry.WellFormed := by
  unfold phonebookOf at h
  split at h
  · exact wellFormed_of_entriesOf h
  · cases h

/-- **The entries of a configuration are well-formed.** -/
theorem wellFormed_of_ofDocument {basePath : String} {config : Configuration}
    (h : ofDocument d basePath = .ok config) : ∀ entry ∈ config.phonebook, entry.WellFormed := by
  obtain ⟨-, sections, -, hread⟩ := ofDocument_eq_ok_iff.mp h
  exact wellFormed_of_phonebookOf hread.phonebook

/-! ## What is well-formed can be read -/

/-- An optional text as a document has it. -/
def textValue : Option String → Value
  | none => .null
  | some text => .text text

/-- An entry as a document has it. -/
def entryValue (entry : Entry) : Value :=
  .map [(.text "number", .text entry.number), (.text "route_to", textValue entry.route),
    (.text "play", textValue entry.announce)]

/-- The document of a phonebook, which leaves all else out. -/
def phonebookDocument (book : Phonebook) : Document where
  root := .map [(.text "phonebook", .list (book.map entryValue))]

theorem optionalText_textValue {text? : Option String}
    (h : ∀ text ∈ text?, Text.IsTrimmed text) : optionalText d (textValue text?) = .ok text? := by
  cases text? with
  | none => rfl
  | some text =>
    obtain ⟨hnonempty, htrimmed⟩ := h text rfl
    have hplain : optionalText d (.text text) =
        .ok (if (Text.trimmed text).isEmpty then none else some (Text.trimmed text)) := rfl
    rw [textValue, hplain, htrimmed, if_neg (by simpa using hnonempty)]

theorem entryOf_entryValue (h : entry.WellFormed) (index : Nat) :
    entryOf d index (entryValue entry) = .ok entry := by
  have hnumber : optionalText d (textValue (some entry.number)) = .ok (some entry.number) :=
    optionalText_textValue (by simpa using h.number)
  show (optionalText d (textValue (some entry.number)) >>= _) = _
  rw [hnumber]
  show (optionalText d (textValue entry.route) >>= _) = _
  rw [optionalText_textValue h.route]
  show (optionalText d (textValue entry.announce) >>= _) = _
  rw [optionalText_textValue h.announce]
  rfl

theorem entriesOf_entryValue (h : ∀ entry ∈ book, entry.WellFormed) (index : Nat) :
    entriesOf d index (book.map entryValue) = .ok book := by
  induction book generalizing index with
  | nil => rfl
  | cons entry rest ih =>
    obtain ⟨hentry, hrest⟩ := List.forall_mem_cons.mp h
    rw [List.map_cons, entriesOf, entryOf_entryValue hentry, ih hrest]
    rfl

theorem phonebookOf_entryValue (h : ∀ entry ∈ book, entry.WellFormed) :
    phonebookOf d (.list (book.map entryValue)) = .ok book := by
  have hentries := entriesOf_entryValue (d := d) h 0
  cases book with
  | nil => exact hentries
  | cons entry rest => exact hentries

/-- **Any phonebook of well-formed entries is that of a configuration.** -/
theorem ofDocument_phonebookDocument (h : ∀ entry ∈ book, entry.WellFormed) (basePath : String) :
    ofDocument (phonebookDocument book) basePath = .ok { phonebook := book, basePath } := by
  have hbook := phonebookOf_entryValue (d := phonebookDocument book) h
  -- Whatever the document leaves out has a default that passes its own check.
  have hread : ofDocument (phonebookDocument book) basePath =
      (do
        let phonebook ← phonebookOf (phonebookDocument book) (.list (book.map entryValue))
        return { phonebook, basePath }) := by
    rfl
  rw [hread, hbook]
  rfl

end Configuration

end DialUp
