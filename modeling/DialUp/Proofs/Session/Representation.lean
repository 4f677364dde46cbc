import Mathlib.Algebra.GroupWithZero.Nat
import DialUp.Proofs.Session.Runs

/-!
# What holds at every point of a run

At every point, whatever the remote ends do, whichever write to the client fails, and whenever
the session is closed from outside:

* `representation`: mode, bridge, typed line and held bytes fit together, and a call that raises
  has lost its client, or its connect broke down, which leaves the session dialing
  (`dialing_after_breakdown`);
* `one_open_line`: at most one line is open, which is that of the current bridge, and none is open
  at a connect.
-/

namespace DialUp.Session

variable {s : Session}

/-! ## Mode, bridge, typed line and held bytes -/

theorem Stranded.bridge?_eq {b : Breakdown} (h : s.Stranded b) : s.bridge? = none := by
  rw [bridge?, h.current]
  rfl

theorem Wired.bridge?_isSome (h : s.Wired) (hc : s.current.isSome = true) :
    s.bridge?.isSome = true := by
  obtain ⟨i, hi⟩ := Option.isSome_iff_exists.mp hc
  rw [bridge?, hi, Option.bind_some, List.getElem?_eq_getElem (h.current_lt i hi)]
  rfl

/-- **The state of a session fits together** at every point of every run. Online there is a bridge
and nothing is typed; without a bridge nothing is held; the count of the held bytes is right and
within its limit. As long as no write has failed the session is at rest in command mode or online,
unless its last connect broke down: then it is still dialing, without a bridge. No call raises but
for a client that is lost or for such a connect, so online data never misses its bridge. -/
theorem representation (settings : Settings) (around : Surroundings) (calls : List Call)
    (n : Nat) :
    let s := (start settings around).point calls n
    (s.mode = .connected → s.bridge?.isSome = true ∧ s.typed = []) ∧
    (s.bridge? = none → s.held = []) ∧
    s.heldSize = (s.held.map List.length).sum ∧
    s.heldSize ≤ settings.heldLimit ∧
    (s.Delivered → s.mode = .command ∨ s.mode = .connected ∨
      s.mode = .dialing ∧ s.bridge? = none ∧ ∃ b, s.lastAnswer? = some (.broken b)) ∧
    ∀ (call : Call) (fault : Fault) (s' : Session), call.act s = .error fault s' →
      (∃ reason, fault = .clientLost reason) ∨
      ∃ b, fault = .broken b ∧ s'.mode = .dialing ∧ s'.bridge? = none ∧
        s'.lastAnswer? = some (.broken b) := by
  intro s
  have hstart := steady_start settings around
  have hpath := path_point hstart calls n
  have hs := hpath.steady hstart
  have hlater := (hpath.ticks hstart).later
  have hbound := hs.sound.tidy.bound
  rw [hlater.settings] at hbound
  refine ⟨fun hon => ?_, fun hbare => ?_, hs.sound.tidy.size.trans List.length_flatten, hbound,
    fun hd => ?_, fun call fault s' hraised => ?_⟩
  · obtain ⟨hcurrent, htyped⟩ := hs.sound.tidy.online hon
    exact ⟨hs.sound.wired.bridge?_isSome hcurrent, htyped⟩
  · refine hs.sound.tidy.bare ?_
    cases hc : s.current with
    | none => rfl
    | some i =>
      have hsome := hs.sound.wired.bridge?_isSome (by rw [hc]; rfl)
      rw [show s.bridge? = none from hbare] at hsome
      cases hsome
  · obtain hmode | hmode | ⟨b, hb⟩ := (hs.rest hd).mode
    · exact .inl hmode
    · exact .inr (.inl hmode)
    · exact .inr (.inr ⟨hb.mode, hb.bridge?_eq, b, hb.answer⟩)
  · obtain hlost | ⟨b, hfault, hb⟩ := (goes_call hs call).fault hraised
    · exact .inl hlost
    · exact .inr ⟨b, hfault, hb.mode, hb.bridge?_eq, hb.answer⟩

/-- A phonebook with an endpoint whose host name cannot be encoded. -/
def badHost : Settings where
  phonebook := [{ number := "1", route := some "bbs..example.org:23" }]
  connectTimeout := .ofQuotient false 2 1
  greeting := false

/-- What the network says to it. -/
def badHostNetwork : Surroundings where
  network _ _ := { answer := .broken (.badValue "label empty or too long") }

/-- Every write has succeeded, but the session is dialing. -/
theorem dialing_after_breakdown :
    let s := (start badHost badHostNetwork).point [.feed (Bytes.ofText "ATD1\r")] 5
    s.Delivered ∧ ¬ (s.mode = .command ∨ s.mode = .connected) ∧ s.mode = .dialing := by
  decide +kernel

/-! ## Open lines -/

theorem Wired.openLines_length (h : s.Wired) : s.openLines.length ≤ 1 := by
  have hnodup : s.openLines.Nodup := List.nodup_range.filter _
  match hopen : s.openLines with
  | [] | [_] => simp
  | i :: j :: rest =>
    -- Two open lines would both be that of the current bridge.
    obtain ⟨hi, -⟩ := h.live_of_open (i := i) (by rw [hopen]; simp)
    obtain ⟨hj, -⟩ := h.live_of_open (i := j) (by rw [hopen]; simp)
    rw [hi, Option.some.injEq] at hj
    rw [hopen, hj] at hnodup
    simp at hnodup

/-- **At most one line is open** at every point of every run. It is that of the current bridge,
whose connection is live; every line was closed at each connect; and a closed session has none, also
if it was closed when its connection was live and not yet recorded, where it is the reader that
ends it (`closeUnrecorded`). -/
theorem one_open_line (settings : Settings) (around : Surroundings) (calls : List Call) (n : Nat) :
    let s := (start settings around).point calls n
    s.openLines.length ≤ 1 ∧
    (∀ i ∈ s.openLines, s.current = some i ∧ ∃ b, s.bridge? = some b ∧ b.connected = true) ∧
    (∀ route timeout busy, Effect.connect route timeout busy ∈ s.log → busy = []) ∧
    (s.closed = true → s.openLines = []) := by
  intro s
  have hstart := steady_start settings around
  have hwired := ((path_point hstart calls n).steady hstart).sound.wired
  refine ⟨hwired.openLines_length, fun i hi => ?_, hwired.calls, fun hclosed => ?_⟩
  · obtain ⟨hcurrent, -, hlive⟩ := hwired.live_of_open hi
    exact ⟨hcurrent, hlive⟩
  · refine List.eq_nil_iff_forall_not_mem.mpr fun i hi => ?_
    obtain ⟨-, hopen, -⟩ := hwired.live_of_open hi
    exact absurd (hopen.symm.trans hclosed) (by decide)

end DialUp.Session
