import DialUp.Proofs.Command
import DialUp.Proofs.Configuration.Phonebook
import DialUp.Proofs.Phonebook
import DialUp.Proofs.Session.Record

/-!
# Which entries of a phonebook can be dialed

Between the line that a client types and the entry that is dialed, the line is trimmed and put into
capitals, the modifiers are dropped from the number, and spaces and hyphens are left out on both
sides. An entry with a number that cannot come out of that is there for nothing.

* `Phonebook.dialable_of_dial`, `Phonebook.dial_of_dialable`: the entries that lines can dial;
* `Path.typable`: nothing but printable ASCII is ever in the line being typed;
* `dialable_entries`: so these are the entries that sessions can dial, and a configuration does not
  ask whether an entry is one of them.
-/

namespace DialUp

namespace Phonebook

variable {book : Phonebook} {i : Nat} {line number : String}

/-- **An entry can be dialed**: it is the first one with its number, which is made of characters
that a typed line can dial. -/
def Dialable (book : Phonebook) (i : Nat) : Prop :=
  ∃ entry ∈ book[i]?,
    (∀ earlier ∈ book.take i, normalize earlier.number ≠ normalize entry.number) ∧
      (normalize entry.number).toList.all Command.isDialable = true

instance (book : Phonebook) (i : Nat) : Decidable (book.Dialable i) :=
  inferInstanceAs (Decidable (∃ entry ∈ book[i]?, _))

/-- What a typed line dials can be dialed. -/
theorem dialable_of_dial (hline : ∀ c ∈ line.toList, Text.isTypable c = true)
    (h : (Command.interpret line).intent = some (.dial number))
    (hposition : book.position? (normalize number) = some i) : book.Dialable i := by
  obtain ⟨entry, hentry, hsame, hfirst⟩ := position?_eq_some_iff.mp hposition
  rw [normalize_normalize] at hsame
  refine ⟨entry, hentry, ?_, ?_⟩
  · rw [hsame]
    simpa using hfirst
  · rw [hsame, List.all_eq_true]
    intro c hc
    obtain ⟨hc, hspace, -⟩ := (mem_normalize number).mp hc
    exact Command.dialable_of_dial hline h c hc hspace

/-- What can be dialed is dialed by the line with its number. -/
theorem dial_of_dialable (h : book.Dialable i) :
    ∃ line number, line ≠ "" ∧ (∀ c ∈ line.toList, Text.isTypable c = true) ∧
      (Command.interpret line).intent = some (.dial number) ∧
      ∃ entry, book.position? (normalize number) = some i ∧ book[i]? = some entry ∧
        book.resolve (normalize number) = some entry := by
  obtain ⟨entry, hentry, hfirst, hdialable⟩ := h
  have hnumber : ∀ c ∈ (normalize entry.number).toList, Command.isDialable c = true ∧ c ≠ '-' :=
    fun c hc => ⟨List.all_eq_true.mp hdialable c hc, ((mem_normalize _).mp hc).2.2⟩
  have hposition : book.position? (normalize (normalize entry.number)) = some i := by
    refine position?_eq_some_iff.mpr ⟨entry, hentry, ?_, ?_⟩
    · simp
    · simpa using hfirst
  refine ⟨Command.dialLine (normalize entry.number), normalize entry.number, ?_, ?_,
    Command.interpret_dial hnumber, entry, hposition, hentry,
    resolve_eq_some_iff.mpr ⟨i, hposition, hentry⟩⟩
  · intro hempty
    have hlist := Command.toList_dialLine (normalize entry.number)
    simp [hempty] at hlist
  · exact fun c hc => (Command.kept_dialLine hnumber c hc).1

end Phonebook

namespace Session

variable {s p : Session} {made : List Moment}

/-! ## What a client can type -/

/-- The line being typed is printable ASCII. -/
def Typable (s : Session) : Prop := ∀ c ∈ s.typed, Text.isTypable c = true

theorem Typable.close (h : s.Typable) : s.close.Typable := by
  rw [Typable, (aside_close s).typed]
  exact h

theorem basic_typable : Basic Typable where
  alike h h' := by
    rw [Typable, h'.typed]
    exact h
  type typed h htyped := by
    intro c hc
    rcases htyped c hc with hold | hnew
    · exact h c hold
    · exact hnew
  note e _ h := h
  output _ _ _ h := h

theorem Typable.settle (h : s.Typable) (live : Bool) (turn : Bridge.Turn)
    (closesUnrecorded : Bool) : (s.settle live turn closesUnrecorded).Typable :=
  settle_keep live closesUnrecorded (basic_typable.adopt h turn) (fun _ h => h.close)
    (fun _ bridge h => basic_typable.endConnection h bridge) fun _ _ h => h

theorem lasting_typable : Lasting Typable where
  toBasic := basic_typable
  play name h := by
    rename_i s
    obtain ⟨s', hs', heq⟩ := left_play name s
    have hcued : s'.Typable := by
      rcases hs' with rfl | ⟨notice, rfl⟩ <;> exact h
    rw [heq]
    split
    · exact hcued.close
    · exact hcued
  afterConnect route h := by
    refine Typable.settle ?_ _ _ _
    unfold called
    split
    · exact Typable.close h
    · exact h

/-- **Nothing but printable ASCII is ever in the line being typed.** -/
theorem Path.typable (h : Path s made p) (hs : s.Typable) : p.Typable := by
  induction h with
  | start => exact hs
  | step move _ _ ih =>
    by_cases hclose : move = .close
    · subst hclose
      exact ih.close
    · exact lasting_typable.move ih hclose

/-- The command that a typed byte completes is that of a line of printable ASCII. -/
theorem line_of_intent {byte : UInt8} {intent : Intent} (hs : s.Typable)
    (h : s.intent? byte = some intent) :
    ∃ line : String, (∀ c ∈ line.toList, Text.isTypable c = true) ∧
      (Command.interpret line).intent = some intent := by
  unfold intent? at h
  split at h
  · refine ⟨String.ofList s.typed.reverse, ?_, h⟩
    intro c hc
    exact hs c (by simpa using hc)
  · cases h

/-! ## The result -/

/-- **Which entries of a phonebook can be dialed.** There is a line that a client can type and
that dials entry `i` exactly if no earlier entry has the same number, up to spaces and hyphens, and
the number has no other characters than visible ASCII without small letters, `W`, `P`, `T`, comma
and semicolon. In no run does any command dial another entry. And a phonebook can be configured
whether or not its entries can be dialed: all that is asked is that their texts are trimmed and
not empty. -/
theorem dialable_entries (book : Phonebook) :
    (∀ i, (∃ line number, line ≠ "" ∧ (∀ c ∈ line.toList, Text.isTypable c = true) ∧
        (Command.interpret line).intent = some (.dial number) ∧
        ∃ entry, book.position? (Phonebook.normalize number) = some i ∧ book[i]? = some entry ∧
          book.resolve (Phonebook.normalize number) = some entry) ↔ book.Dialable i) ∧
    (∀ (settings : Settings) (around : Surroundings) (calls : List Call) (n : Nat),
      settings.phonebook = book →
      ∀ m ∈ (start settings around).past calls n, ∀ byte number entry, m.move = .type byte →
        m.state.intent? byte = some (.dial number) →
        m.state.settings.phonebook.resolve (Phonebook.normalize number) = some entry →
        ∃ i, book[i]? = some entry ∧ book.Dialable i) ∧
    ∀ basePath, (∃ d config, Configuration.ofDocument d basePath = .ok config ∧
        config.phonebook = book) ↔ ∀ entry ∈ book, entry.WellFormed := by
  refine ⟨fun i => ⟨?_, Phonebook.dial_of_dialable⟩, ?_, fun basePath => ⟨?_, ?_⟩⟩
  · rintro ⟨line, number, -, hline, hdial, _, hposition, -, -⟩
    exact Phonebook.dialable_of_dial hline hdial hposition
  · rintro settings around calls n rfl m hm byte number entry - hintent hresolve
    have hstart := steady_start settings around
    obtain ⟨_, hbefore, -, -⟩ := (path_point hstart calls n).mem hstart hm
    have htypable : m.state.Typable := hbefore.typable fun c hc => nomatch hc
    have hsettings : m.state.settings = settings := (hbefore.ticks hstart).later.settings
    obtain ⟨line, hline, hdial⟩ := line_of_intent htypable hintent
    rw [hsettings] at hresolve
    obtain ⟨i, hposition, hentry⟩ := Phonebook.resolve_eq_some_iff.mp hresolve
    exact ⟨i, hentry, Phonebook.dialable_of_dial hline hdial hposition⟩
  · rintro ⟨d, config, hread, rfl⟩
    exact Configuration.wellFormed_of_ofDocument hread
  · intro hbook
    exact ⟨_, _, Configuration.ofDocument_phonebookDocument hbook basePath, rfl⟩

/-- An entry, the same number grouped otherwise, a number with a dial modifier, one with a small
letter, and one with none of what can be dialed left. -/
def mixedBook : Phonebook :=
  [{ number := "555-1" }, { number := "5 551" }, { number := "5P5" }, { number := "a1" },
    { number := "-" }]

/-- All of them can be configured, and two can be dialed, one of them by a number that is empty. -/
theorem dialable_entries_mixed :
    ((List.range 6).filter fun i => mixedBook.Dialable i) = [0, 4] ∧
    (∃ line number, line ≠ "" ∧ (∀ c ∈ line.toList, Text.isTypable c = true) ∧
        (Command.interpret line).intent = some (.dial number) ∧
        ∃ entry, mixedBook.position? (Phonebook.normalize number) = some 4 ∧
          mixedBook[4]? = some entry ∧
          mixedBook.resolve (Phonebook.normalize number) = some entry) ∧
    ∃ d config, Configuration.ofDocument d "." = .ok config ∧ config.phonebook = mixedBook := by
  have h := dialable_entries mixedBook
  exact ⟨by decide +kernel, (h.1 4).mpr (by decide +kernel), (h.2.2 ".").mpr (by decide +kernel)⟩

end Session

end DialUp
