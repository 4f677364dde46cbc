import DialUp.Configuration.Reading

/-!
# What a configuration says of its document

A document is read as a configuration exactly if each part of the one is what is read at its place
in the other.

* `ofDocument_eq_ok_iff`: the parts, by name;
* `nonpositive_of_ofDocument`: so a configured deadline is neither zero nor below.
-/

namespace DialUp.Configuration

open Document (Value)

variable {d : Document} {basePath : String} {config : Configuration} {v : Value}

theorem bind_eq_ok {α β : Type} {x : Except Fault α} {f : α → Except Fault β} {b : β} :
    (x >>= f) = .ok b ↔ ∃ a, x = .ok a ∧ f a = .ok b := by
  cases x with
  | error fault => simp [bind, Except.bind]
  | ok a => simp [bind, Except.bind]

/-- The pairs of a root mapping and of the sections in it. -/
structure Sections where
  root : List (Value × Value)
  settings : List (Value × Value)
  sounds : List (Value × Value)
  audio : List (Value × Value)

/-- The document has the given sections. -/
structure Sections.Of (sections : Sections) (d : Document) : Prop where
  root : d.look d.root = .map sections.root
  settings : sectionOf d sections.root "config" = .ok sections.settings
  sounds : sectionOf d sections.root "sounds" = .ok sections.sounds
  audio : sectionOf d sections.root "audio" = .ok sections.audio

/-- A setting, or its default. -/
def Sections.setting (sections : Sections) (key : String) (default : Value) : Value :=
  (Value.get? sections.settings key).getD default

/-- **Each part of the configuration is read at its place** in the sections. -/
structure ReadAt (sections : Sections) (d : Document) (config : Configuration) : Prop where
  port : portOf d (sections.setting "port" (.int 5000)) = .ok config.port
  host : unreported (d.plain (sections.setting "host" (.text "127.0.0.1"))) = .ok config.host
  connectTimeout : positiveOf d "connect_timeout" (sections.setting "connect_timeout" (.int 10)) =
    .ok config.connectTimeout
  greeting : config.greeting = d.isTruthy (sections.setting "greeting" (.bool true))
  phonebook : phonebookOf d (Value.getD sections.root "phonebook") = .ok config.phonebook
  sounds : soundsOf d sections.sounds = .ok config.sounds
  audioEnabled :
    config.audioEnabled = d.isTruthy ((Value.get? sections.audio "enabled").getD (.bool true))
  audioDevice : deviceOf (Value.getD sections.audio "device") = .ok config.audioDevice

/-- **What is read as a configuration**, and that nothing else is. -/
theorem ofDocument_eq_ok_iff :
    ofDocument d basePath = .ok config ↔ config.basePath = basePath ∧
      ∃ sections : Sections, sections.Of d ∧ ReadAt sections d config := by
  constructor
  · intro h
    unfold ofDocument at h
    split at h
    · rename_i root hroot
      simp only [bind_eq_ok] at h
      obtain ⟨settings, hsettings, audio, haudio, port, hport, host, hhost, timeout, htimeout, book,
        hbook, pairs, hpairs, sounds, hsounds, device, hdevice, h⟩ := h
      cases h
      exact ⟨rfl, ⟨root, settings, pairs, audio⟩, ⟨hroot, hsettings, hpairs, haudio⟩,
        ⟨hport, hhost, htimeout, rfl, hbook, hsounds, rfl, hdevice⟩⟩
    · cases h
  · rintro ⟨rfl, sections, hsections, h⟩
    unfold ofDocument
    rw [hsections.root]
    simp only [bind_eq_ok]
    refine ⟨_, hsections.settings, _, hsections.audio, _, h.port, _, h.host, _, h.connectTimeout, _,
      h.phonebook, _, hsections.sounds, _, h.sounds, _, h.audioDevice, ?_⟩
    have hgreeting := h.greeting
    have haudio := h.audioEnabled
    cases config
    cases hgreeting
    cases haudio
    rfl

theorem nonpositive_of_positiveOf {name : String} {x : Numeral.Double}
    (h : positiveOf d name v = .ok x) : x.nonpositive = false := by
  obtain ⟨y, -, hy⟩ := bind_eq_ok.mp h
  split at hy
  · cases hy
  · rename_i hpositive
    cases hy
    exact Bool.eq_false_iff.mpr hpositive

/-- **A configured deadline is neither zero nor below.** -/
theorem nonpositive_of_ofDocument (h : ofDocument d basePath = .ok config) :
    config.connectTimeout.nonpositive = false := by
  obtain ⟨-, sections, -, hread⟩ := ofDocument_eq_ok_iff.mp h
  exact nonpositive_of_positiveOf hread.connectTimeout

end DialUp.Configuration
