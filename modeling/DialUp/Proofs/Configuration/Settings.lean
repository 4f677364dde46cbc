import DialUp.Proofs.Configuration.Overrides

/-!
# What the settings of the environment change

The port and the host that the environment sets come in place of those in the section `config`. What
is read of the document then is what is read of one that has them there, and nothing but the port
and the host differs from what the file says.

* `Overrides.Replaces`: a section with the port and the host of the environment in place of its own;
* `ofDocument_withSettings_congr`: in which order and how often a section has its settings makes no
  difference;
* `ofDocument_replaced`: with another port and another host, all else is read as before;
* `load_overridden`: what a file is thus read as with the settings of the environment.
-/

namespace DialUp.Configuration

open Document (Value)

/-- The second section has the port and the host that the environment sets, and is the same as the
first one otherwise. -/
structure Overrides.Replaces (env : Overrides) (settings replaced : List (Value × Value)) :
    Prop where
  port : ∀ text ∈ env.port, ∃ i, Numeral.readInteger? text.toList = some i ∧
    Value.get? replaced "port" = some (.int i)
  ownPort : env.port = none → Value.get? replaced "port" = Value.get? settings "port"
  host : ∀ text ∈ env.host, Value.get? replaced "host" = some (.text text)
  ownHost : env.host = none → Value.get? replaced "host" = Value.get? settings "host"
  others : ∀ key, key ≠ "port" → key ≠ "host" → Value.get? replaced key = Value.get? settings key

variable {env : Overrides} {d : Document} {root settings replaced other : List (Value × Value)}
  {basePath path : String} {found : Found Bytes} {reader : Reader} {config : Configuration}

/-! ## Sections with other settings -/

theorem get?_overrideHost_of_ne {key : String} (h : key ≠ "host") (host : Option String) :
    Value.get? (overrideHost host settings) key = Value.get? settings key := by
  cases host with
  | none => rfl
  | some text => exact Value.get?_insert_of_ne h _ _

/-- The port and the host of the environment replace those of a section. -/
theorem replaces_of_overridePort (h : overridePort env.port settings = .ok other) :
    env.Replaces settings (overrideHost env.host other) := by
  have hport : Value.get? (overrideHost env.host other) "port" = Value.get? other "port" :=
    get?_overrideHost_of_ne (by decide) _
  have hothers : ∀ key, key ≠ "port" → Value.get? other key = Value.get? settings key := by
    intro key hkey
    unfold overridePort at h
    split at h
    · cases h
      rfl
    · split at h
      · cases h
        exact Value.get?_insert_of_ne hkey _ _
      · cases h
  refine ⟨fun text htext => ?_, fun hnone => ?_, fun text htext => ?_, fun hnone => ?_,
    fun key hkey hhost => (get?_overrideHost_of_ne hhost _).trans (hothers key hkey)⟩
  · rw [Option.mem_def.mp htext] at h
    dsimp only [overridePort] at h
    split at h
    · rename_i i hi
      cases h
      exact ⟨i, hi, hport.trans (Value.get?_insert_self _ _ _)⟩
    · cases h
  · rw [hnone] at h
    cases h
    exact hport
  · rw [Option.mem_def.mp htext]
    exact Value.get?_insert_self _ _ _
  · rw [hnone]
    exact hothers "host" (by decide)

/-- A port that is an integer can be set. -/
theorem overridePort_of_readable (settings : List (Value × Value))
    (h : ∀ text ∈ env.port, Numeral.readInteger? text.toList ≠ none) :
    ∃ own, overridePort env.port settings = .ok own := by
  cases hport : env.port with
  | none => exact ⟨settings, rfl⟩
  | some text =>
    obtain ⟨i, hi⟩ := Option.ne_none_iff_exists'.mp (h text hport)
    exact ⟨Value.insert (.text "port") (.int i) settings, by rw [overridePort, hi]⟩

/-- Sections with the port and the host of the environment have the same settings. -/
theorem Overrides.Replaces.same (h : env.Replaces settings replaced)
    (hother : env.Replaces settings other) (key : String) :
    Value.get? replaced key = Value.get? other key := by
  by_cases hport : key = "port"
  · subst hport
    cases henv : env.port with
    | none => rw [h.ownPort henv, hother.ownPort henv]
    | some text =>
      obtain ⟨i, hi, hgiven⟩ := h.port text henv
      obtain ⟨j, hj, hother⟩ := hother.port text henv
      rw [hgiven, hother, Option.some.inj (hi.symm.trans hj)]
  · by_cases hhost : key = "host"
    · subst hhost
      cases henv : env.host with
      | none => rw [h.ownHost henv, hother.ownHost henv]
      | some text => rw [h.host text henv, hother.host text henv]
    · rw [h.others key hport hhost, hother.others key hport hhost]

/-- **Two sections with the same settings are read alike.** -/
theorem ofDocument_withSettings_congr
    (h : ∀ key, Value.get? other key = Value.get? settings key) :
    ofDocument (withSettings d root other) basePath =
      ofDocument (withSettings d root settings) basePath := by
  have hread (pairs : List (Value × Value)) :
      (withSettings d root pairs).look (withSettings d root pairs).root =
        .map (Value.insert (.text "config") (.map pairs) root) := rfl
  unfold ofDocument
  rw [hread, hread]
  dsimp only
  rw [sectionOf_settings, sectionOf_settings]
  simp only [sectionOf_withSettings "audio" (by decide),
    sectionOf_withSettings "sounds" (by decide), getD_settings "phonebook" (by decide)]
  simp only [withSettings, portOf_root, plain_root, positiveOf_root, phonebookOf_root,
    soundsOf_root]
  simp only [bind, Except.bind, h]
  rfl

/-- What is read in the sections does not depend on the root that they are in. -/
theorem ReadAt.withRoot {sections : Sections} (h : ReadAt sections d config) (root : Value) :
    ReadAt sections { d with root } config where
  port := (portOf_root root d _).trans h.port
  host := (congrArg unreported (plain_root root d _)).trans h.host
  connectTimeout := (positiveOf_root root d _ _).trans h.connectTimeout
  greeting := h.greeting
  phonebook := (phonebookOf_root root d _).trans h.phonebook
  sounds := (soundsOf_root root d _).trans h.sounds
  audioEnabled := h.audioEnabled
  audioDevice := h.audioDevice

/-- What a document with other settings is read as. -/
theorem ofDocument_withSettings_eq_ok_iff :
    ofDocument (withSettings d root settings) basePath = .ok config ↔
      config.basePath = basePath ∧ ∃ sounds audio, sectionOf d root "sounds" = .ok sounds ∧
        sectionOf d root "audio" = .ok audio ∧ ReadAt ⟨root, settings, sounds, audio⟩ d config := by
  have hsection (name : String) (hname : name ≠ "config") :
      sectionOf (withSettings d root settings)
        (Value.insert (.text "config") (.map settings) root) name = sectionOf d root name :=
    sectionOf_withSettings name hname
  have hphonebook : Value.getD (Value.insert (.text "config") (.map settings) root) "phonebook" =
      Value.getD root "phonebook" := getD_settings "phonebook" (by decide)
  rw [ofDocument_eq_ok_iff]
  refine and_congr_right fun _ => ⟨?_, ?_⟩
  · rintro ⟨⟨_, _, sounds, audio⟩, hsections, hread⟩
    cases hsections.root
    obtain rfl := Except.ok.inj (sectionOf_settings.symm.trans hsections.settings)
    have hread := hread.withRoot d.root
    refine ⟨sounds, audio, (hsection "sounds" (by decide)).symm.trans hsections.sounds,
      (hsection "audio" (by decide)).symm.trans hsections.audio,
      { hread with phonebook := ?_ }⟩
    exact hphonebook ▸ hread.phonebook
  · rintro ⟨sounds, audio, hsounds, haudio, hread⟩
    refine ⟨⟨_, settings, sounds, audio⟩, ⟨rfl, sectionOf_settings,
      (hsection "sounds" (by decide)).trans hsounds, (hsection "audio" (by decide)).trans haudio⟩,
      { hread.withRoot (withSettings d root settings).root with phonebook := ?_ }⟩
    rw [hphonebook]
    exact (hread.withRoot _).phonebook

/-- **With another port and another host, all else is read as before.** -/
theorem ofDocument_replaced {port : Nat} {host : String}
    (hothers : ∀ key, key ≠ "port" → key ≠ "host" → Value.get? other key = Value.get? settings key)
    (hport : portOf d ((Value.get? other "port").getD (.int 5000)) = .ok port)
    (hhost : unreported (d.plain ((Value.get? other "host").getD (.text "127.0.0.1"))) = .ok host)
    (h : ofDocument (withSettings d root settings) basePath = .ok config) :
    ofDocument (withSettings d root other) basePath = .ok { config with port, host } := by
  obtain ⟨hbase, sounds, audio, hsounds, haudio, hread⟩ := ofDocument_withSettings_eq_ok_iff.mp h
  refine ofDocument_withSettings_eq_ok_iff.mpr ⟨hbase, sounds, audio, hsounds, haudio, ?_⟩
  have hkept (key : String) (hkey : key ≠ "port") (hhost : key ≠ "host") (default : Value) :
      (Value.get? other key).getD default = (Value.get? settings key).getD default := by
    rw [hothers key hkey hhost]
  refine ⟨hport, hhost, ?_, ?_, hread.phonebook, hread.sounds, hread.audioEnabled,
    hread.audioDevice⟩
  · rw [Sections.setting, hkept "connect_timeout" (by decide) (by decide)]
    exact hread.connectTimeout
  · rw [Sections.setting, hkept "greeting" (by decide) (by decide)]
    exact hread.greeting

theorem portOf_int {i : Int} (hpos : 0 < i) (hmax : i < 65536) :
    portOf d (.int i) = .ok i.toNat := by
  change (if 0 < i ∧ i < 65536 then _ else _) = _
  rw [if_pos ⟨hpos, hmax⟩]
  rfl

/-- With a port in range from the environment, a document is read that is in order but for its
port. -/
theorem Overrides.Replaces.read {text : String} {i : Int} {v : Value}
    (h : env.Replaces settings replaced) (htext : env.port = some text)
    (hi : Numeral.readInteger? text.toList = some i) (hpos : 0 < i) (hmax : i < 65536)
    (hread : ofDocument (withSettings d root (Value.insert (.text "port") v settings)) basePath =
      .ok config) :
    ofDocument (withSettings d root replaced) basePath =
      .ok { config with port := i.toNat, host := env.host.getD config.host } := by
  obtain ⟨-, _, _, -, -, hparts⟩ := ofDocument_withSettings_eq_ok_iff.mp hread
  have hinsert (key : String) (hkey : key ≠ "port") :
      Value.get? (Value.insert (.text "port") v settings) key = Value.get? settings key :=
    Value.get?_insert_of_ne hkey _ _
  refine ofDocument_replaced (fun key hkey hhost => ?_) ?_ ?_ hread
  · rw [h.others key hkey hhost, hinsert key hkey]
  · obtain ⟨j, hj, hport⟩ := h.port text htext
    rw [hport, ← Option.some.inj (hi.symm.trans hj)]
    exact portOf_int hpos hmax
  · cases henv : env.host with
    | none =>
      rw [h.ownHost henv, ← hinsert "host" (by decide)]
      exact hparts.host
    | some host =>
      rw [h.host host henv]
      rfl

/-! ## Files and the environment -/

/-- What a file is read as with the settings of the environment, if its section `config` is one. -/
theorem loadBy_of_section (env : Overrides) (hread : fileDocumentBy reader path found = .ok d)
    (hroot : d.look d.root = .map root) (hsettings : sectionOf d root "config" = .ok settings) :
    loadBy reader path found (some env) = overridePort env.port settings >>= fun own =>
      ofDocument (withSettings d root (overrideHost env.host own)) (Path.directory path) := by
  rw [loadBy_of_ok env hread hroot, toPairs_of_sectionOf hsettings]
  rfl

/-- **A file is read with the settings of the environment as if it had them itself.** A port that is
no integer is reported, before anything else that is wrong with the file. Any other setting is read
as it is in the file, and with a port in range a file is read that is in order but for its port. -/
theorem load_overridden (env : Overrides) (hread : fileDocumentBy reader path found = .ok d)
    (hroot : d.look d.root = .map root) (hsettings : sectionOf d root "config" = .ok settings) :
    (∀ text ∈ env.port, Numeral.readInteger? text.toList = none →
      loadBy reader path found (some env) =
        fail ("Invalid value for HAYESMODEM_PORT: " ++ Text.quoted text)) ∧
    ((∀ text ∈ env.port, Numeral.readInteger? text.toList ≠ none) →
      ∃ replaced, env.Replaces settings replaced) ∧
    (∀ replaced, env.Replaces settings replaced →
      loadBy reader path found (some env) =
        ofDocument (withSettings d root replaced) (Path.directory path)) ∧
    (∀ config config', loadBy reader path found none = .ok config →
      loadBy reader path found (some env) = .ok config' →
      config' = { config with port := config'.port, host := config'.host }) ∧
    ∀ text i v config, env.port = some text → Numeral.readInteger? text.toList = some i →
      0 < i → i < 65536 →
      ofDocument (withSettings d root (Value.insert (.text "port") v settings))
        (Path.directory path) = .ok config →
      loadBy reader path found (some env) =
        .ok { config with port := i.toNat, host := env.host.getD config.host } := by
  have hload := loadBy_of_section env hread hroot hsettings
  refine ⟨fun text htext hunreadable => ?_, fun hreadable => ?_, fun replaced hreplaced => ?_,
    fun config config' hown hconfig => ?_, fun text i v config htext hi hpos hmax hother => ?_⟩
  · rw [hload, Option.mem_def.mp htext, overridePort, hunreadable]
    rfl
  · obtain ⟨own, hown⟩ := overridePort_of_readable settings hreadable
    exact ⟨_, replaces_of_overridePort hown⟩
  · have hreadable : ∀ text ∈ env.port, Numeral.readInteger? text.toList ≠ none := by
      intro text htext hnone
      obtain ⟨i, hi, -⟩ := hreplaced.port text htext
      rw [hnone] at hi
      cases hi
    obtain ⟨own, hown⟩ := overridePort_of_readable settings hreadable
    rw [hload, hown]
    exact ofDocument_withSettings_congr ((replaces_of_overridePort hown).same hreplaced)
  · rw [loadBy_none_of_ok hread, ← ofDocument_withSettings hroot hsettings] at hown
    rw [hload] at hconfig
    obtain ⟨own, hport, hconfig⟩ := bind_eq_ok.mp hconfig
    obtain ⟨-, _, _, -, -, hparts⟩ := ofDocument_withSettings_eq_ok_iff.mp hconfig
    have hreplaced := ofDocument_replaced (replaces_of_overridePort hport).others hparts.port
      hparts.host hown
    exact Except.ok.inj (hconfig.symm.trans hreplaced)
  · have hown : overridePort env.port settings =
        .ok (Value.insert (.text "port") (.int i) settings) := by
      rw [htext, overridePort, hi]
    rw [hload, hown]
    exact (replaces_of_overridePort hown).read htext hi hpos hmax hother

/-- A file that gives a port out of range. -/
def misdirectedFile : Found Bytes :=
  .file (Bytes.ofText "config:\n  port: 0\n  greeting: off\n")

/-- Whether a file has a document with a section `config`, and root and section pass a test. -/
def passes (found : Found Bytes)
    (test : Document → List (Value × Value) → List (Value × Value) → Bool) : Bool :=
  match fileDocumentBy Yaml.read "modem.yml" found with
  | .ok d =>
    match d.look d.root with
    | .map root =>
      match sectionOf d root "config" with
      | .ok settings => test d root settings
      | .error _ => false
    | _ => false
  | .error _ => false

/-- With a port from the environment the file is read, and without one it is not. -/
theorem load_overridden_misdirected :
    ∃ d root settings, fileDocumentBy Yaml.read "modem.yml" misdirectedFile = .ok d ∧
      d.look d.root = .map root ∧ sectionOf d root "config" = .ok settings ∧
      load "modem.yml" misdirectedFile none = fail "Port out of range: 0" ∧
      load "modem.yml" misdirectedFile (some { port := some "8023", host := some "::1" }) =
        .ok { port := 8023, host := "::1", greeting := false
              basePath := Path.directory "modem.yml" } := by
  have hpasses : passes misdirectedFile (fun d root settings => decide
      (ofDocument (withSettings d root (Value.insert (.text "port") (.int 5000) settings))
          (Path.directory "modem.yml") =
        .ok { greeting := false, basePath := Path.directory "modem.yml" })) = true := by
    decide +kernel
  have hown : load "modem.yml" misdirectedFile none = fail "Port out of range: 0" :=
    refusal?_eq_some.mp (by decide +kernel)
  unfold passes at hpasses
  split at hpasses
  · rename_i d hread
    split at hpasses
    · rename_i root hroot
      split at hpasses
      · rename_i settings hsettings
        have hload := load_overridden { port := some "8023", host := some "::1" } hread hroot
          hsettings
        refine ⟨d, root, settings, hread, hroot, hsettings, hown, ?_⟩
        exact hload.2.2.2.2 "8023" 8023 (.int 5000) _ rfl (by decide +kernel) (by decide)
          (by decide) (of_decide_eq_true hpasses)
      · cases hpasses
    · cases hpasses
  · cases hpasses

end DialUp.Configuration
