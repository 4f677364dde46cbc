import DialUp.Proofs.Configuration.Reading
import DialUp.Proofs.Document.Value

/-!
# Why a document is refused

A document is read at nine places, in a fixed order, and refused for the first of them that does not
do. What is wrong with a place is reported in words that begin with the name of the place, unless it
slips through: then there is an error without a report.

* `refusal?_ofDocument`: the first place that does not do decides;
* `Reports`, `Slips`: what is reported of a place, and what slips through at it;
* `reported_unless_slips`: so there is a configuration or a report exactly if the first place that
  does not do lets nothing through.
-/

namespace DialUp.Configuration

open Document (Value Mishap)

variable {d : Document} {root pairs : List (Value × Value)} {basePath name : String} {v : Value}
  {fault : Fault} {α β : Type}

/-! ## The places of a document -/

/-- Where a document is read. -/
inductive Place
  | settings
  | audio
  | port
  | host
  | deadline
  | phonebook
  | sounds
  | soundFiles
  | device
  deriving DecidableEq, Repr

namespace Place

/-- The places in the order in which they are read. -/
def inOrder : List Place :=
  [.settings, .audio, .port, .host, .deadline, .phonebook, .sounds, .soundFiles, .device]

end Place

/-- What goes wrong in a reading, if anything does. -/
def refusal? : Except Fault α → Option Fault
  | .ok _ => none
  | .error fault => some fault

theorem refusal?_eq_some {x : Except Fault α} : refusal? x = some fault ↔ x = .error fault := by
  cases x <;> simp [refusal?]

/-- The pairs of a section, if there is one. -/
def pairsOf (d : Document) (root : List (Value × Value)) (name : String) : List (Value × Value) :=
  match sectionOf d root name with
  | .ok pairs => pairs
  | .error _ => []

theorem pairsOf_of_ok (h : sectionOf d root name = .ok pairs) : pairsOf d root name = pairs := by
  rw [pairsOf, h]

/-- A setting, or its default. -/
def settingOf (d : Document) (root : List (Value × Value)) (key : String) (default : Value) :
    Value :=
  (Value.get? (pairsOf d root "config") key).getD default

/-- What is given as the port. -/
def givenPort (d : Document) (root : List (Value × Value)) : Value :=
  settingOf d root "port" (.int 5000)

/-- What is given as the host. -/
def givenHost (d : Document) (root : List (Value × Value)) : Value :=
  settingOf d root "host" (.text "127.0.0.1")

/-- What is given as the deadline of connects. -/
def givenDeadline (d : Document) (root : List (Value × Value)) : Value :=
  settingOf d root "connect_timeout" (.int 10)

/-- What is wrong with a place, if anything is. -/
def Place.refusal? (d : Document) (root : List (Value × Value)) : Place → Option Fault
  | .settings => Configuration.refusal? (sectionOf d root "config")
  | .audio => Configuration.refusal? (sectionOf d root "audio")
  | .port => Configuration.refusal? (portOf d (givenPort d root))
  | .host => Configuration.refusal? (unreported (d.plain (givenHost d root)))
  | .deadline => Configuration.refusal? (positiveOf d "connect_timeout" (givenDeadline d root))
  | .phonebook => Configuration.refusal? (phonebookOf d (Value.getD root "phonebook"))
  | .sounds => Configuration.refusal? (sectionOf d root "sounds")
  | .soundFiles => Configuration.refusal? (soundsOf d (pairsOf d root "sounds"))
  | .device => Configuration.refusal? (deviceOf (Value.getD (pairsOf d root "audio") "device"))

/-- A reading goes on to the places behind if its first part succeeds. -/
theorem refusal?_bind {place : Place} {places : List Place} {x : Except Fault α}
    {f : α → Except Fault β} (hx : place.refusal? d root = refusal? x)
    (hf : ∀ a, x = .ok a → refusal? (f a) = places.findSome? (·.refusal? d root)) :
    refusal? (x >>= f) = (place :: places).findSome? (·.refusal? d root) := by
  rw [List.findSome?_cons, hx]
  cases x with
  | error fault => rfl
  | ok a => exact hf a rfl

/-- **The first place that does not do decides** why a document is refused. -/
theorem refusal?_ofDocument (basePath : String) (hroot : d.look d.root = .map root) :
    refusal? (ofDocument d basePath) = Place.inOrder.findSome? (·.refusal? d root) := by
  unfold ofDocument
  rw [hroot]
  refine refusal?_bind rfl fun settings hsettings => refusal?_bind rfl fun audio haudio => ?_
  have hgiven : ∀ key default, (Value.get? settings key).getD default =
      settingOf d root key default := fun key default => by
    rw [settingOf, pairsOf_of_ok hsettings]
  dsimp only
  rw [hgiven, hgiven, hgiven]
  refine refusal?_bind rfl fun _ _ => refusal?_bind rfl fun _ _ => refusal?_bind rfl fun _ _ => ?_
  refine refusal?_bind rfl fun _ _ => refusal?_bind rfl fun sounds hsounds => ?_
  refine refusal?_bind (by rw [Place.refusal?, pairsOf_of_ok hsounds]) fun _ _ => ?_
  exact refusal?_bind (by rw [Place.refusal?, pairsOf_of_ok haudio]) fun _ _ => rfl

/-! ## What is reported -/

/-- The reports of a reading begin with one of the given headings. -/
def Reports (headings : List String) (x : Except Fault α) : Prop :=
  ∀ failure, x = .error (.reported failure) →
    ∃ heading ∈ headings, ∃ rest, failure = { kind := .config, message := heading ++ rest }

section

variable {headings : List String}

theorem reports_fail {heading : String} (rest : String) (h : heading ∈ headings) :
    Reports headings (fail (heading ++ rest) : Except Fault α) := by
  rintro failure hfailure
  cases hfailure
  exact ⟨heading, h, rest, rfl⟩

theorem reports_ok (a : α) : Reports headings (.ok a) := fun _ h => by cases h

theorem reports_unreported (x : Except Mishap α) : Reports headings (unreported x) := by
  cases x <;> exact fun _ h => by cases h

theorem reports_bind {x : Except Fault α} {f : α → Except Fault β} (hx : Reports headings x)
    (hf : ∀ a, Reports headings (f a)) : Reports headings (x >>= f) := by
  cases x with
  | error fault => exact fun failure h => hx failure (by cases h; rfl)
  | ok a => exact hf a

theorem Reports.mono {more : List String} {x : Except Fault α} (h : Reports headings x)
    (hsub : headings ⊆ more) : Reports more x := fun failure hfailure => by
  obtain ⟨heading, hheading, hmessage⟩ := h failure hfailure
  exact ⟨heading, hsub hheading, hmessage⟩

theorem reports_fail_self {message : String} (h : message ∈ headings) :
    Reports headings (fail message : Except Fault α) := by
  have hreports := reports_fail (α := α) "" h
  rwa [String.append_empty] at hreports

theorem reports_sectionOf (h : "Section '" ++ name ++ "' must be a mapping" ∈ headings) :
    Reports headings (sectionOf d root name) := by
  unfold sectionOf
  split
  · exact reports_ok _
  · exact reports_fail_self h

theorem reports_converted (h : "Invalid " ++ name ++ ": " ∈ headings) (x : Except Mishap α) :
    Reports headings (converted d name v x) := by
  unfold converted
  split
  · exact reports_ok _
  · exact fun _ h => by cases h
  · exact reports_bind (reports_unreported _) fun _ => reports_fail _ h

theorem reports_portOf : Reports ["Invalid port: ", "Port out of range: "] (portOf d v) := by
  refine reports_bind (reports_converted (by decide) _) fun port => ?_
  split
  · exact reports_ok _
  · exact reports_bind (reports_unreported _) fun _ => reports_fail _ (by decide)

theorem reports_positiveOf (h : "Invalid " ++ name ++ ": " ∈ headings)
    (hsign : name ++ " must be positive, got " ∈ headings) :
    Reports headings (positiveOf d name v) := by
  refine reports_bind (reports_converted h _) fun x => ?_
  split
  · exact reports_fail _ hsign
  · exact reports_ok _

theorem reports_optionalText : Reports headings (optionalText d v) := by
  unfold optionalText
  split
  · exact reports_ok _
  · exact reports_bind (reports_unreported _) fun _ => reports_ok _

theorem reports_entryOf (index : Nat) : Reports ["Phonebook entry "] (entryOf d index v) := by
  unfold entryOf
  dsimp only
  rw [String.append_assoc, String.append_assoc]
  split
  · refine reports_bind reports_optionalText fun number => ?_
    split
    · exact reports_fail _ (List.mem_singleton_self _)
    · exact reports_bind reports_optionalText fun _ =>
        reports_bind reports_optionalText fun _ => reports_ok _
  · exact reports_fail _ (List.mem_singleton_self _)

theorem reports_entriesOf (items : List Value) (index : Nat) :
    Reports ["Phonebook entry "] (entriesOf d index items) := by
  induction items generalizing index with
  | nil => exact reports_ok _
  | cons v rest ih =>
    exact reports_bind (reports_entryOf index) fun _ => reports_bind (ih _) fun _ => reports_ok _

theorem reports_phonebookOf :
    Reports ["Section 'phonebook' must be a list", "Phonebook entry "] (phonebookOf d v) := by
  unfold phonebookOf
  split
  · exact (reports_entriesOf _ _).mono (by decide)
  · exact reports_fail_self (by decide)

theorem reports_addSound {sounds : List (String × String)} {pair : Value × Value} :
    Reports headings (addSound d sounds pair) := by
  unfold addSound
  split
  · exact reports_bind (reports_unreported _) fun _ =>
      reports_bind (reports_unreported _) fun _ => reports_ok _
  · exact reports_ok _

theorem reports_addSounds (sounds : List (String × String)) :
    Reports headings (pairs.foldlM (addSound d) sounds) := by
  induction pairs generalizing sounds with
  | nil => exact reports_ok sounds
  | cons pair rest ih =>
    rw [List.foldlM_cons]
    exact reports_bind reports_addSound fun sounds => ih sounds

theorem reports_deviceOf :
    Reports ["audio.device must be a device index or name"] (deviceOf v) := by
  unfold deviceOf
  split
  · exact reports_ok _
  · exact reports_ok _
  · exact reports_ok _
  · exact reports_fail_self (by decide)

end

/-- How the reports of a place begin. -/
def Place.headings : Place → List String
  | .settings => ["Section 'config' must be a mapping"]
  | .audio => ["Section 'audio' must be a mapping"]
  | .port => ["Invalid port: ", "Port out of range: "]
  | .deadline => ["Invalid connect_timeout: ", "connect_timeout must be positive, got "]
  | .phonebook => ["Section 'phonebook' must be a list", "Phonebook entry "]
  | .sounds => ["Section 'sounds' must be a mapping"]
  | .device => ["audio.device must be a device index or name"]
  | .host | .soundFiles => []

/-- **Every report names the place that it is about.** -/
theorem Place.reported {place : Place} {failure : Failure}
    (h : place.refusal? d root = some (.reported failure)) :
    ∃ heading ∈ place.headings, ∃ rest,
      failure = { kind := .config, message := heading ++ rest } := by
  have hreports : ∀ {α : Type} {x : Except Fault α}, Reports place.headings x →
      place.refusal? d root = Configuration.refusal? x → ∃ heading ∈ place.headings, ∃ rest,
        failure = { kind := .config, message := heading ++ rest } := by
    intro α x hx heq
    exact hx failure (refusal?_eq_some.mp (heq.symm.trans h))
  cases place with
  | settings | audio | sounds => exact hreports (reports_sectionOf (by decide)) rfl
  | port => exact hreports reports_portOf rfl
  | host => exact hreports (reports_unreported _) rfl
  | deadline => exact hreports (reports_positiveOf (by decide) (by decide)) rfl
  | phonebook => exact hreports reports_phonebookOf rfl
  | soundFiles => exact hreports (reports_addSounds []) rfl
  | device => exact hreports reports_deviceOf rfl

/-- A document is refused for having no root mapping, or for the first place that does not do. -/
theorem ofDocument_eq_error (h : ofDocument d basePath = .error fault) :
    (∃ message, fault = Configuration.fault message ∧ ∀ root, d.look d.root ≠ .map root) ∨
      ∃ root, d.look d.root = .map root ∧ ∃ before place after,
        Place.inOrder = before ++ place :: after ∧
        (∀ earlier ∈ before, earlier.refusal? d root = none) ∧
        place.refusal? d root = some fault := by
  by_cases hroot : ∃ root, d.look d.root = .map root
  · obtain ⟨root, hroot⟩ := hroot
    have hfirst := refusal?_ofDocument basePath hroot
    rw [refusal?_eq_some.mpr h, eq_comm, List.findSome?_eq_some_iff] at hfirst
    obtain ⟨before, place, after, horder, hplace, hbefore⟩ := hfirst
    exact .inr ⟨root, hroot, before, place, after, horder, hbefore, hplace⟩
  · refine .inl ⟨"Configuration root must be a mapping", ?_, fun root h => hroot ⟨root, h⟩⟩
    unfold ofDocument at h
    split at h
    · rename_i root hmap
      exact absurd ⟨root, hmap⟩ hroot
    · cases h
      rfl

theorem ofDocument_reported {failure : Failure}
    (h : ofDocument d basePath = .error (.reported failure)) :
    ∃ message, failure = { kind := .config, message } := by
  obtain ⟨message, hmessage, -⟩ | ⟨_, _, _, place, _, _, _, hplace⟩ := ofDocument_eq_error h
  · cases hmessage
    exact ⟨message, rfl⟩
  · obtain ⟨heading, -, rest, hfailure⟩ := place.reported hplace
    exact ⟨heading ++ rest, hfailure⟩

/-! ## What slips through -/

/-- The reading ends with an error that has no report. -/
def Slips (x : Except Fault α) : Prop := ∃ mishap, x = .error (.unreported mishap)

theorem not_slips_ok (a : α) : ¬ Slips (.ok a) := fun ⟨_, h⟩ => by cases h

theorem not_slips_fail (message : String) : ¬ Slips (fail message : Except Fault α) :=
  fun ⟨_, h⟩ => by cases h

theorem slips_bind_iff {x : Except Fault α} {f : α → Except Fault β} :
    Slips (x >>= f) ↔ Slips x ∨ ∃ a, x = .ok a ∧ Slips (f a) := by
  cases x with
  | error fault => simp [Slips, bind, Except.bind]
  | ok a => simp [Slips, bind, Except.bind]

/-- After a first part that reports nothing, whatever it gives, a second may still slip through. -/
theorem slips_bind_of_silent {x : Except Fault α} {f : α → Except Fault β} {P : Prop}
    (hx : Reports [] x) (hf : ∀ a, Slips (f a) ↔ P) : Slips (x >>= f) ↔ Slips x ∨ P := by
  rw [slips_bind_iff]
  simp only [hf]
  cases x with
  | ok a => simp
  | error fault =>
    cases fault with
    | reported failure =>
      obtain ⟨heading, hheading, -⟩ := hx failure rfl
      cases hheading
    | unreported mishap => simp [Slips]

theorem slips_plain_iff : Slips (unreported (d.plain v)) ↔ d.plain? v = none := by
  unfold Document.plain
  cases d.plain? v <;> simp [Slips, unreported]

theorem slips_written_iff : Slips (unreported (d.written v)) ↔ d.written? v = none := by
  unfold Document.written
  cases d.written? v <;> simp [Slips, unreported]

/-- A conversion to a number fails because the value is too large, because it is no number, or
because it is a text that reads as none, which can always be written. -/
def Numeric (d : Document) (v : Value) (x : Except Mishap α) : Prop :=
  ∀ mishap, x = .error mishap →
    mishap = .tooLarge ∨ mishap = .badKind ∨ mishap = .badValue ∧ (d.written? v).isSome = true

theorem numeric_toInt (d : Document) (v : Value) : Numeric d v v.toInt := by
  intro mishap h
  cases v with
  | float x =>
    cases x with
    | nan => exact .inr (.inr ⟨by cases h; rfl, rfl⟩)
    | infinite negative => exact .inl (by cases h; rfl)
    | finite negative significand exponent => cases h
  | text s =>
    refine .inr (.inr ⟨?_, rfl⟩)
    rw [Value.toInt] at h
    cases hread : Numeral.readInteger? s.toList <;> rw [hread] at h <;> cases h
    rfl
  | bytes data =>
    refine .inr (.inr ⟨?_, rfl⟩)
    rw [Value.toInt] at h
    cases hread : Numeral.readInteger? (Value.numeralChars data) <;> rw [hread] at h <;> cases h
    rfl
  | bool | int => cases h
  | _ => exact .inr (.inl (by cases h; rfl))

theorem numeric_toDouble (d : Document) (v : Value) : Numeric d v v.toDouble := by
  intro mishap h
  cases v with
  | int i =>
    rw [Value.toDouble] at h
    cases hread : Numeral.Double.ofInt? i <;> rw [hread] at h <;> cases h
    exact .inl rfl
  | text s =>
    refine .inr (.inr ⟨?_, rfl⟩)
    rw [Value.toDouble] at h
    cases hread : Numeral.readDouble? s.toList <;> rw [hread] at h <;> cases h
    rfl
  | bytes data =>
    refine .inr (.inr ⟨?_, rfl⟩)
    rw [Value.toDouble] at h
    cases hread : Numeral.readDouble? (Value.numeralChars data) <;> rw [hread] at h <;> cases h
    rfl
  | bool | float => cases h
  | _ => exact .inr (.inl (by cases h; rfl))

theorem slips_converted_iff {x : Except Mishap α} (h : Numeric d v x) :
    Slips (converted d name v x) ↔
      x = .error .tooLarge ∨ x = .error .badKind ∧ d.written? v = none := by
  have hinvalid : Slips (do fail ("Invalid " ++ name ++ ": " ++ (← unreported (d.written v))) :
      Except Fault α) ↔ d.written? v = none := by
    simp [slips_bind_iff, slips_written_iff, not_slips_fail]
  cases x with
  | ok a => simp [converted, not_slips_ok]
  | error mishap =>
    obtain rfl | rfl | ⟨rfl, hwritten⟩ := h mishap rfl
    · simp [converted, Slips]
    · simpa [converted] using hinvalid
    · simpa [converted, Option.isSome_iff_ne_none.mp hwritten] using hinvalid

theorem converted_eq_ok_iff {x : Except Mishap α} {a : α} :
    converted d name v x = .ok a ↔ x = .ok a := by
  unfold converted
  split
  · simp
  · simp
  · simp [bind_eq_ok, fail]

/-- Only an infinite double is too large for a whole number. -/
theorem toInt_eq_tooLarge_iff :
    v.toInt = .error .tooLarge ↔ ∃ negative, v = .float (.infinite negative) := by
  cases v with
  | float x => cases x <;> simp [Value.toInt]
  | text s =>
    cases h : Numeral.readInteger? s.toList <;> simp [Value.toInt, Value.toInt.orBadValue, h]
  | bytes data =>
    cases h : Numeral.readInteger? (Value.numeralChars data) <;>
      simp [Value.toInt, Value.toInt.orBadValue, h]
  | _ => simp [Value.toInt]

/-- Only an integer is too large for a double. -/
theorem toDouble_eq_tooLarge_iff :
    v.toDouble = .error .tooLarge ↔ ∃ i, v = .int i ∧ Numeral.Double.ofInt? i = none := by
  cases v with
  | int i => cases h : Numeral.Double.ofInt? i <;> simp [Value.toDouble, h]
  | text s =>
    cases h : Numeral.readDouble? s.toList <;> simp [Value.toDouble, Value.toDouble.orBadValue, h]
  | bytes data =>
    cases h : Numeral.readDouble? (Value.numeralChars data) <;>
      simp [Value.toDouble, Value.toDouble.orBadValue, h]
  | _ => simp [Value.toDouble]

/-- What slips through as a port: an infinite double, what is no number and cannot be written, and
a whole number that is too long to be written. -/
def PortSlips (d : Document) (v : Value) : Prop :=
  (∃ negative, v = .float (.infinite negative)) ∨
    v.toInt = .error .badKind ∧ d.written? v = none ∨
    ∃ i, v.toInt = .ok i ∧ Numeral.integerText? i = none

theorem slips_portOf_iff : Slips (portOf d v) ↔ PortSlips d v := by
  have hrange (port : Int) : Slips (do
      if 0 < port ∧ port < 65536 then return port.toNat
      else fail ("Port out of range: " ++ (← unreported (d.written (.int port)))) :
      Except Fault Nat) ↔ Numeral.integerText? port = none := by
    split
    · have hsmall : port.natAbs < Nat.pow 10 5 := by
        rw [show Nat.pow 10 5 = 100000 from rfl]
        omega
      exact iff_of_false (not_slips_ok _) (Numeral.integerText?_ne_none_of_lt hsmall (by decide))
    · simp only [slips_bind_iff, slips_written_iff, not_slips_fail, and_false, exists_false,
        or_false]
      rfl
  rw [portOf, slips_bind_iff, slips_converted_iff (numeric_toInt d v), toInt_eq_tooLarge_iff,
    PortSlips, or_assoc]
  simp only [converted_eq_ok_iff, hrange]

/-- What slips through as the deadline: an integer that is too large for a double, and what is no
number and cannot be written. -/
def DeadlineSlips (d : Document) (v : Value) : Prop :=
  (∃ i, v = .int i ∧ Numeral.Double.ofInt? i = none) ∨
    v.toDouble = .error .badKind ∧ d.written? v = none

theorem slips_positiveOf_iff : Slips (positiveOf d name v) ↔ DeadlineSlips d v := by
  rw [positiveOf, slips_bind_iff, slips_converted_iff (numeric_toDouble d v),
    toDouble_eq_tooLarge_iff, DeadlineSlips]
  refine or_iff_left ?_
  rintro ⟨x, -, hx⟩
  split at hx
  · exact not_slips_fail _ hx
  · exact not_slips_ok _ hx

theorem plain?_null : d.plain? .null ≠ none := nofun

theorem slips_optionalText_iff : Slips (optionalText d v) ↔ d.plain? v = none := by
  unfold optionalText
  split
  · exact iff_of_false (not_slips_ok _) plain?_null
  · rw [slips_bind_iff, slips_plain_iff]
    exact or_iff_left fun ⟨_, _, h⟩ => not_slips_ok _ h

/-- What slips through as an entry of the phonebook: a mapping whose number cannot be written, or
that has a number, but a route or an announcement that cannot. -/
def EntrySlips (d : Document) (v : Value) : Prop :=
  ∃ pairs, d.look v = .map pairs ∧ (d.plain? (Value.getD pairs "number") = none ∨
    (∃ number, optionalText d (Value.getD pairs "number") = .ok (some number)) ∧
      (d.plain? (Value.getD pairs "route_to") = none ∨ d.plain? (Value.getD pairs "play") = none))

theorem slips_entryOf_iff (index : Nat) : Slips (entryOf d index v) ↔ EntrySlips d v := by
  have hrest (number : String) (pairs : List (Value × Value)) : Slips (do
      let route ← optionalText d (Value.getD pairs "route_to")
      let announce ← optionalText d (Value.getD pairs "play")
      return ({ number, route, announce } : Entry)) ↔
        d.plain? (Value.getD pairs "route_to") = none ∨
          d.plain? (Value.getD pairs "play") = none := by
    refine (slips_bind_of_silent reports_optionalText fun route =>
      slips_bind_of_silent reports_optionalText fun announce =>
        iff_false_intro (not_slips_ok _)).trans ?_
    rw [or_false, slips_optionalText_iff, slips_optionalText_iff]
  unfold entryOf
  dsimp only
  split
  · rename_i pairs hpairs
    rw [slips_bind_iff, slips_optionalText_iff]
    constructor
    · rintro (h | ⟨number?, hnumber, h⟩)
      · exact ⟨pairs, hpairs, .inl h⟩
      · cases number? with
        | none => exact absurd h (not_slips_fail _)
        | some number => exact ⟨pairs, hpairs, .inr ⟨⟨number, hnumber⟩, (hrest number pairs).mp h⟩⟩
    · rintro ⟨_, hsame, h⟩
      cases hpairs.symm.trans hsame
      obtain h | ⟨⟨number, hnumber⟩, h⟩ := h
      · exact .inl h
      · exact .inr ⟨some number, hnumber, (hrest number pairs).mpr h⟩
  · rename_i hother
    exact iff_of_false (not_slips_fail _) fun ⟨pairs, hpairs, _⟩ => hother pairs hpairs

theorem slips_entriesOf_iff (items : List Value) (index : Nat) :
    Slips (entriesOf d index items) ↔ ∃ before entry after, items = before ++ entry :: after ∧
      (∃ book, entriesOf d index before = .ok book) ∧ EntrySlips d entry := by
  induction items generalizing index with
  | nil => exact iff_of_false (not_slips_ok _) (by simp)
  | cons v rest ih =>
    rw [entriesOf, slips_bind_iff, slips_entryOf_iff]
    constructor
    · rintro (h | ⟨first, hfirst, h⟩)
      · exact ⟨[], v, rest, rfl, ⟨[], rfl⟩, h⟩
      · rw [slips_bind_iff, ih] at h
        obtain ⟨before, entry, after, rfl, ⟨book, hbook⟩, hentry⟩ | ⟨_, -, h⟩ := h
        · refine ⟨v :: before, entry, after, rfl, ⟨first :: book, ?_⟩, hentry⟩
          rw [entriesOf, hfirst, hbook]
          rfl
        · exact absurd h (not_slips_ok _)
    · rintro ⟨before, entry, after, hitems, ⟨book, hbook⟩, hentry⟩
      cases before with
      | nil =>
        cases hitems
        exact .inl hentry
      | cons w before =>
        cases hitems
        obtain ⟨first, hfirst, hbook⟩ := bind_eq_ok.mp hbook
        obtain ⟨book, hbook, -⟩ := bind_eq_ok.mp hbook
        refine .inr ⟨first, hfirst, slips_bind_iff.mpr (.inl ?_)⟩
        exact (ih (index + 1)).mpr ⟨before, entry, after, rfl, ⟨book, hbook⟩, hentry⟩

/-- What slips through as the sound file of a cue: a file or a name that cannot be written. -/
def SoundSlips (d : Document) (pair : Value × Value) : Prop :=
  d.isTruthy pair.2 = true ∧ (d.plain? pair.1 = none ∨ d.plain? pair.2 = none)

theorem slips_addSound_iff {sounds : List (String × String)} {pair : Value × Value} :
    Slips (addSound d sounds pair) ↔ SoundSlips d pair := by
  unfold addSound SoundSlips
  split
  · rename_i hfile
    refine (slips_bind_of_silent (reports_unreported _) fun name =>
      slips_bind_of_silent (reports_unreported _) fun path =>
        iff_false_intro (not_slips_ok _)).trans ?_
    rw [or_false, slips_plain_iff, slips_plain_iff, and_iff_right hfile]
  · rename_i hfile
    exact iff_of_false (not_slips_ok _) fun h => hfile h.1

theorem slips_addSounds_iff (sounds : List (String × String)) :
    Slips (pairs.foldlM (addSound d) sounds) ↔ ∃ pair ∈ pairs, SoundSlips d pair := by
  induction pairs generalizing sounds with
  | nil => exact iff_of_false (not_slips_ok _) (by simp)
  | cons pair rest ih =>
    rw [List.foldlM_cons, slips_bind_of_silent reports_addSound ih, slips_addSound_iff]
    simp

theorem slips_phonebookOf_iff : Slips (phonebookOf d v) ↔ ∃ before entry after,
    d.look (d.orElse v (.list [])) = .list (before ++ entry :: after) ∧
      (∃ book, entriesOf d 0 before = .ok book) ∧ EntrySlips d entry := by
  unfold phonebookOf
  split
  · rename_i items hitems
    rw [slips_entriesOf_iff, hitems]
    simp only [Value.list.injEq]
  · rename_i hother
    exact iff_of_false (not_slips_fail _) fun ⟨_, _, _, h, _⟩ => hother _ h

/-- What slips through at a place. -/
def Place.Slips (d : Document) (root : List (Value × Value)) : Place → Prop
  | .port => PortSlips d (givenPort d root)
  | .host => d.plain? (givenHost d root) = none
  | .deadline => DeadlineSlips d (givenDeadline d root)
  | .phonebook => ∃ before entry after,
    d.look (d.orElse (Value.getD root "phonebook") (.list [])) = .list (before ++ entry :: after) ∧
      (∃ book, entriesOf d 0 before = .ok book) ∧ EntrySlips d entry
  | .soundFiles => ∃ pair ∈ pairsOf d root "sounds", SoundSlips d pair
  | .settings | .audio | .sounds | .device => False

/-- **What slips through at a place**, and that nothing else does. -/
theorem Place.slips_iff {place : Place} :
    (∃ mishap, place.refusal? d root = some (.unreported mishap)) ↔ place.Slips d root := by
  have hslips {α : Type} (x : Except Fault α) :
      (∃ mishap, Configuration.refusal? x = some (.unreported mishap)) ↔ Configuration.Slips x := by
    simp only [refusal?_eq_some, Configuration.Slips]
  have hsection (name : String) : ¬ Configuration.Slips (sectionOf d root name) := by
    unfold sectionOf
    split
    · exact not_slips_ok _
    · exact not_slips_fail _
  have hdevice :
      ¬ Configuration.Slips (deviceOf (Value.getD (pairsOf d root "audio") "device")) := by
    unfold deviceOf
    split
    · exact not_slips_ok _
    · exact not_slips_ok _
    · exact not_slips_ok _
    · exact not_slips_fail _
  cases place with
  | settings | audio | sounds => exact (hslips _).trans (iff_false_intro (hsection _))
  | port => exact (hslips _).trans slips_portOf_iff
  | host => exact (hslips _).trans slips_plain_iff
  | deadline => exact (hslips _).trans slips_positiveOf_iff
  | phonebook => exact (hslips _).trans slips_phonebookOf_iff
  | soundFiles => exact (hslips _).trans (slips_addSounds_iff [])
  | device => exact (hslips _).trans (iff_false_intro hdevice)

/-! ## Where nothing slips through -/

theorem not_portSlips (h : v.Short)
    (hfinite : ∀ x, v = .float x → x = .nan ∨ x.IsFinite) : ¬ PortSlips d v := by
  rintro (⟨negative, rfl⟩ | ⟨-, hwritten⟩ | ⟨i, hi, hlong⟩)
  · obtain hnan | hinfinite := hfinite _ rfl
    · cases hnan
    · exact hinfinite
  · exact Document.written?_ne_none h hwritten
  · cases v with
    | bool b =>
      cases hi
      have hdigit : (if b then 1 else 0 : Int).natAbs < Nat.pow 10 1 := by cases b <;> decide
      exact Numeral.integerText?_ne_none_of_lt hdigit (by decide) hlong
    | int j =>
      cases hi
      exact h _ (List.mem_singleton_self _) hlong
    | float x =>
      obtain rfl | hx := hfinite x rfl
      · cases hi
      · cases x with
        | nan | infinite => exact hx
        | finite negative significand exponent =>
          cases hi
          exact Numeral.Double.integerText?_truncated hx hlong
    | text s =>
      rw [Value.toInt] at hi
      cases hread : Numeral.readInteger? s.toList <;> rw [hread] at hi <;> cases hi
      exact Numeral.integerText?_of_readInteger? hread hlong
    | bytes data =>
      rw [Value.toInt] at hi
      cases hread : Numeral.readInteger? (Value.numeralChars data) <;> rw [hread] at hi <;> cases hi
      exact Numeral.integerText?_of_readInteger? hread hlong
    | _ => cases hi

theorem not_entrySlips (h : v.Short) : ¬ EntrySlips d v := by
  rintro ⟨pairs, hpairs, hwritten⟩
  rw [Document.look_of_short h] at hpairs
  subst hpairs
  have hplain (key : String) : d.plain? (Value.getD pairs key) ≠ none :=
    Document.plain?_ne_none (h.getD key Value.short_null)
  obtain hnumber | ⟨-, hroute | hannounce⟩ := hwritten
  · exact hplain _ hnumber
  · exact hplain _ hroute
  · exact hplain _ hannounce

theorem short_pairsOf (h : (Value.map root).Short) (name : String) :
    (Value.map (pairsOf d root name)).Short := by
  have hempty : (Value.map []).Short := nofun
  have hsection := Document.short_look_orElse (d := d) (h.getD name Value.short_null) hempty
  unfold pairsOf
  split
  · rename_i pairs hpairs
    unfold sectionOf at hpairs
    split at hpairs
    · rename_i hlook
      cases hpairs
      rwa [← hlook]
    · cases hpairs
  · exact hempty

/-- Nothing slips through at a document without places and long integers, whose port is not infinite
and whose deadline is not an integer that is too large. -/
theorem Place.not_slips (h : (Value.map root).Short)
    (hport : ∀ x, givenPort d root = .float x → x = .nan ∨ x.IsFinite)
    (hdeadline : ∀ i, givenDeadline d root = .int i → Numeral.Double.ofInt? i ≠ none)
    (place : Place) : ¬ place.Slips d root := by
  have hsetting (key : String) {default : Value} (hdefault : default.Short) :
      (settingOf d root key default).Short := (short_pairsOf h _).getD key hdefault
  have hnumber (key : String) {i : Int} (hi : i.natAbs < Nat.pow 10 4) :
      (settingOf d root key (.int i)).Short := hsetting key (Value.short_int hi (by decide))
  cases place with
  | settings | audio | sounds | device => exact id
  | port => exact not_portSlips (hnumber "port" (by decide)) hport
  | host => exact Document.plain?_ne_none (hsetting _ Value.short_text)
  | deadline =>
    rintro (⟨i, hi, hlarge⟩ | ⟨-, hwritten⟩)
    · exact hdeadline i hi hlarge
    · exact Document.written?_ne_none (hnumber "connect_timeout" (by decide)) hwritten
  | phonebook =>
    rintro ⟨before, entry, after, hentries, -, hentry⟩
    have hempty : (Value.list []).Short := nofun
    have hshort := Document.short_look_orElse (d := d) (h.getD "phonebook" Value.short_null) hempty
    rw [show ((Value.get? root "phonebook").getD .null) = Value.getD root "phonebook" from rfl,
      hentries] at hshort
    exact not_entrySlips (hshort.item (by simp)) hentry
  | soundFiles =>
    rintro ⟨pair, hpair, -, hwritten⟩
    obtain ⟨hname, hpath⟩ := (short_pairsOf h _).pair hpair
    obtain hwritten | hwritten := hwritten
    · exact Document.plain?_ne_none hname hwritten
    · exact Document.plain?_ne_none hpath hwritten

/-! ## What a document comes to -/

/-- Something slips through at the first place of a document that does not do. -/
def SlipsThrough (d : Document) : Prop :=
  ∃ root, d.look d.root = .map root ∧ ∃ before place after,
    Place.inOrder = before ++ place :: after ∧
    (∀ earlier ∈ before, earlier.refusal? d root = none) ∧ place.Slips d root

theorem slips_ofDocument_iff (basePath : String) :
    Slips (ofDocument d basePath) ↔ SlipsThrough d := by
  constructor
  · rintro ⟨mishap, h⟩
    obtain ⟨root, hroot, before, place, after, horder, hbefore, hplace⟩ :=
      (ofDocument_eq_error h).resolve_left fun ⟨_, hmessage, _⟩ => by cases hmessage
    exact ⟨root, hroot, before, place, after, horder, hbefore, Place.slips_iff.mp ⟨mishap, hplace⟩⟩
  · rintro ⟨root, hroot, before, place, after, horder, hbefore, hslips⟩
    obtain ⟨mishap, hplace⟩ := Place.slips_iff.mpr hslips
    refine ⟨mishap, refusal?_eq_some.mp ?_⟩
    rw [refusal?_ofDocument basePath hroot, List.findSome?_eq_some_iff]
    exact ⟨before, place, after, horder, hplace, hbefore⟩

/-- **A document is read, or what is wrong with it is reported**, exactly if nothing slips through
at the first place that does not do. That is so of every document without shared collections, unless
an integer in it has too many digits to be written, the port is an infinite double, or the deadline
is an integer too large for a double. -/
theorem reported_unless_slips (basePath : String) :
    (∀ d : Document, ((∃ config, ofDocument d basePath = .ok config) ∨
      ∃ message, ofDocument d basePath = fail message) ↔ ¬ SlipsThrough d) ∧
    ∀ root : List (Value × Value), (Value.map root).Short →
      (∀ x, givenPort { root := .map root } root = .float x → x = .nan ∨ x.IsFinite) →
      (∀ i, givenDeadline { root := .map root } root = .int i →
        Numeral.Double.ofInt? i ≠ none) →
      (∃ config, ofDocument { root := .map root } basePath = .ok config) ∨
        ∃ message, ofDocument { root := .map root } basePath = fail message := by
  have hall (d : Document) : ((∃ config, ofDocument d basePath = .ok config) ∨
      ∃ message, ofDocument d basePath = fail message) ↔ ¬ SlipsThrough d := by
    rw [← slips_ofDocument_iff basePath]
    constructor
    · rintro (⟨config, h⟩ | ⟨message, h⟩)
      · rw [h]
        exact not_slips_ok config
      · rw [h]
        exact not_slips_fail message
    · intro hnot
      cases hread : ofDocument d basePath with
      | ok config => exact .inl ⟨config, rfl⟩
      | error fault =>
        cases fault with
        | reported failure =>
          obtain ⟨message, rfl⟩ := ofDocument_reported hread
          exact .inr ⟨message, rfl⟩
        | unreported mishap => exact absurd ⟨mishap, hread⟩ hnot
  refine ⟨hall, fun root hshort hport hdeadline => (hall _).mpr ?_⟩
  rintro ⟨same, hsame, before, place, after, -, -, hslips⟩
  cases (hsame : Value.map root = .map same)
  exact Place.not_slips hshort hport hdeadline place hslips

/-- A document with one setting. -/
def settingDocument (key : String) (v : Value) : Document where
  root := .map [(.text "config", .map [(.text key, v)])]

/-- An infinite port, a deadline too large for a double and a host too long to be written. -/
theorem numbers_slip_through :
    ofDocument (settingDocument "port" (.float (.infinite false))) "." =
      .error (.unreported .tooLarge) ∧
    ofDocument (settingDocument "connect_timeout" (.int (Nat.pow 10 400))) "." =
      .error (.unreported .tooLarge) ∧
    ofDocument (settingDocument "host" (.int (Nat.pow 10 4300))) "." =
      .error (.unreported .badValue) := by
  refine ⟨refusal?_eq_some.mp ?_, refusal?_eq_some.mp ?_, refusal?_eq_some.mp ?_⟩ <;>
    decide +kernel

end DialUp.Configuration
