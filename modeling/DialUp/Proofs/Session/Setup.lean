import DialUp.Proofs.Route
import DialUp.Proofs.Session.Requests

/-!
# What a session is set up with shows in its connects

A session can be given a phonebook and a deadline of its own, and takes the configured ones
otherwise. Whether they count as given is asked of their values: an empty phonebook and a deadline
of zero are none.

* `supplied_phonebook`: so a phonebook of one's own replaces the configured one exactly if it has an
  entry;
* `configured_requests`: with the configured deadline, every connect is to an endpoint that can be
  connected to, and its deadline is above zero exactly if the configured one is a number.
-/

namespace DialUp

/-- Whether the number is above zero. It does not hold of what is not a number. -/
def Numeral.Double.positive : Double → Bool
  | .nan => false
  | .infinite negative => !negative
  | .finite negative significand _ => !negative && significand != 0

/-- What is not above zero, and neither zero nor below, is not a number. -/
theorem Numeral.Double.positive_of_number {x : Double} (h : x.nonpositive = false) (hx : x ≠ .nan) :
    x.positive = true := by
  cases x with
  | nan => exact absurd rfl hx
  | infinite negative => simpa [positive, nonpositive] using h
  | finite negative significand exponent => simpa [positive, nonpositive] using h

namespace Session

/-! ## A phonebook of one's own -/

/-- A phonebook with an entry takes the place of the configured one. -/
theorem settings_of_supplied {book : Phonebook} (h : book ≠ []) (config : Configuration)
    (timeout : Option Numeral.Double) (limit : Nat) (speaker : Speaker) :
    Settings.of config (some book) timeout limit speaker =
      Settings.of { config with phonebook := book } none timeout limit speaker := by
  have hkept : (some book).filter (fun book => !book.isEmpty) = some book := by
    cases book with
    | nil => exact absurd rfl h
    | cons entry rest => rfl
  rw [Settings.of, hkept]
  rfl

/-- A dial of a session that is given an empty phonebook. -/
def emptyDial (configured : Phonebook) : Session :=
  (start (.of { phonebook := configured } (some []) none 0 .quiet) someSurroundings).point
    [.feed (Bytes.ofText "ATD1\r")] 5

/-- What is configured shows. -/
theorem log_emptyDial : (emptyDial someSettings.phonebook).log ≠ (emptyDial []).log := by
  decide +kernel

/-- **A phonebook of one's own replaces the configured one exactly if it has an entry.** With such
a phonebook, a session comes to the same whichever phonebook is configured, at every point of every
run: it looks numbers up in its own and connects to the endpoints of that alone. Where what is
configured never shows in what the session does, the phonebook has an entry, for an empty one is as
good as none. -/
theorem supplied_phonebook (book : Phonebook) :
    (book ≠ [] → ∀ config other timeout limit speaker around calls n,
      let s := (start (.of config (some book) timeout limit speaker) around).point calls n
      s = (start (.of { config with phonebook := other } (some book) timeout limit speaker)
        around).point calls n ∧
      s.settings.phonebook = book ∧
      ∀ route deadline busy, .connect route deadline busy ∈ s.log →
        ∃ entry ∈ book, ∃ text ∈ entry.route, Route.parse text = .ok route) ∧
    ((∀ config other timeout limit speaker around calls n,
      ((start (.of config (some book) timeout limit speaker) around).point calls n).log =
        ((start (.of { config with phonebook := other } (some book) timeout limit speaker)
          around).point calls n).log) → book ≠ []) ∧
    ∀ config timeout limit speaker,
      Settings.of config (some []) timeout limit speaker =
        Settings.of config none timeout limit speaker := by
  refine ⟨fun hbook config other timeout limit speaker around calls n => ?_,
    fun hsame hempty => ?_, fun _ _ _ _ => rfl⟩
  · rw [settings_of_supplied hbook, settings_of_supplied hbook]
    have hpath := path_point (steady_start
      (.of { config with phonebook := book } none timeout limit speaker) around) calls n
    obtain ⟨_, hasked, -⟩ := hpath.asked
    refine ⟨rfl, congrArg Settings.phonebook hasked.settings,
      fun route deadline busy hconnect => ?_⟩
    obtain ⟨number, hendpoint⟩ := (permits_of_connect hconnect).endpoint
    exact Phonebook.mem_of_endpoint? hendpoint
  · subst hempty
    exact log_emptyDial (hsame { phonebook := someSettings.phonebook } [] none 0 .quiet
      someSurroundings [.feed (Bytes.ofText "ATD1\r")] 5)

/-- The configured endpoint is connected to by a session that was given an empty phonebook. -/
theorem empty_phonebook_unsupplied :
    (emptyDial someSettings.phonebook).log.countP Effect.isConnect = 1 ∧
      (emptyDial []).log.countP Effect.isConnect = 0 := by
  decide +kernel

/-! ## The configured deadline -/

/-- A document with one endpoint and the given deadline. -/
def deadlineDocument (timeout : String) : Document where
  root := .map [(.text "config", .map [(.text "connect_timeout", .text timeout)]),
    (.text "phonebook", .list (someSettings.phonebook.map Configuration.entryValue))]

/-- A dial without a deadline that is a number. -/
theorem connects_without_number (greeting : Bool) :
    .connect ⟨"host", 23⟩ .nan [] ∈
      ((start { phonebook := someSettings.phonebook, connectTimeout := .nan, greeting }
        someSurroundings).point [.feed (Bytes.ofText "ATD1\r")] 5).log := by
  cases greeting <;> decide +kernel

/-- **Connects under a configuration.** Of a session that has no deadline of its own, whichever
phonebook it has, every connect is to a host that is trimmed, is not empty and has no colon, at a
port that can be connected to, and has the configured deadline. That is above zero, unless it is
not a number; so all deadlines of all such sessions are above zero exactly if it is one. -/
theorem configured_requests {d : Document} {basePath : String} {config : Configuration}
    (h : Configuration.ofDocument d basePath = .ok config) :
    (∀ phonebook limit speaker around calls n route deadline busy,
      .connect route deadline busy ∈
        ((start (.of config phonebook none limit speaker) around).point calls n).log →
      route.WellFormed ∧ deadline = config.connectTimeout ∧
        (deadline ≠ .nan → deadline.positive = true)) ∧
    (config.connectTimeout ≠ .nan ↔
      ∀ phonebook limit speaker around calls n route deadline busy,
        .connect route deadline busy ∈
          ((start (.of config phonebook none limit speaker) around).point calls n).log →
        deadline.positive = true) := by
  have hall : ∀ phonebook limit speaker around calls n route deadline busy,
      .connect route deadline busy ∈
        ((start (.of config phonebook none limit speaker) around).point calls n).log →
      route.WellFormed ∧ deadline = config.connectTimeout ∧
        (deadline ≠ .nan → deadline.positive = true) := by
    intro phonebook limit speaker around calls n route deadline busy hconnect
    obtain ⟨hdeadline, number, hendpoint⟩ := permits_of_connect hconnect
    obtain ⟨entry, -, text, -, hparse⟩ := Phonebook.mem_of_endpoint? hendpoint
    have hdeadline : deadline = config.connectTimeout := hdeadline
    refine ⟨Route.wellFormed_of_parse hparse, hdeadline, fun hnumber => ?_⟩
    rw [hdeadline] at hnumber ⊢
    exact Numeral.Double.positive_of_number (Configuration.nonpositive_of_ofDocument h) hnumber
  refine ⟨hall, fun hnumber _ _ _ _ _ _ _ _ _ hconnect => ?_, fun hpositive hnan => ?_⟩
  · obtain ⟨-, rfl, hdeadline⟩ := hall _ _ _ _ _ _ _ _ _ hconnect
    exact hdeadline hnumber
  · have hconnect := connects_without_number config.greeting
    have hsetup : Settings.of config (some someSettings.phonebook) none usualHeldLimit .quiet =
        { phonebook := someSettings.phonebook, connectTimeout := .nan
          greeting := config.greeting } := by
      rw [← hnan]
      rfl
    rw [← hsetup] at hconnect
    exact absurd (hpositive _ _ _ _ _ _ _ _ _ hconnect) (by decide)

/-- The configuration of `deadlineDocument`, whose deadline was read. -/
def deadlineConfiguration (connectTimeout : Numeral.Double) : Configuration :=
  { connectTimeout, phonebook := someSettings.phonebook }

/-- A deadline of two seconds is read, and a connect has it. -/
theorem configured_requests_seconds :
    let config := deadlineConfiguration (.ofQuotient false 2 1)
    let s := (start (.of config none none usualHeldLimit .quiet) someSurroundings).point
      [.feed (Bytes.ofText "ATD1\r")] 5
    Configuration.ofDocument (deadlineDocument "2") "." = .ok config ∧
      .connect ⟨"host", 23⟩ config.connectTimeout [] ∈ s.log ∧
      Route.WellFormed ⟨"host", 23⟩ ∧ config.connectTimeout.positive = true := by
  intro config s
  have hread : Configuration.ofDocument (deadlineDocument "2") "." = .ok config := by
    decide +kernel
  have hconnect : .connect ⟨"host", 23⟩ config.connectTimeout [] ∈ s.log := by decide +kernel
  obtain ⟨hroute, -, hdeadline⟩ := (configured_requests hread).1 _ _ _ _ _ _ _ _ _ hconnect
  exact ⟨hread, hconnect, hroute, hdeadline (by decide +kernel)⟩

/-- A deadline that is not a number is read, and a connect has it. -/
theorem deadline_without_number :
    let config := deadlineConfiguration .nan
    let s := (start (.of config none none usualHeldLimit .quiet) someSurroundings).point
      [.feed (Bytes.ofText "ATD1\r")] 5
    Configuration.ofDocument (deadlineDocument "nan") "." = .ok config ∧
      .connect ⟨"host", 23⟩ .nan [] ∈ s.log ∧ Numeral.Double.positive .nan = false := by
  decide +kernel

end Session

end DialUp
