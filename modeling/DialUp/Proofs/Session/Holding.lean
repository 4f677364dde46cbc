import Mathlib.Data.List.DropRight
import DialUp.Proofs.Session.Discarded

/-!
# What is held back is the newest

While the client is in command mode, the remote bytes that come in are held back for it, up to a
limit. Beyond the limit the oldest bytes go, whole chunks first and then the front of a chunk, so
the chunks in the buffer are not those that came in. The bytes are: `s.Holds data` tells that of
`data`, which has come in since the buffer was empty, the newest bytes are held, as many as may be.

* `trim?_eq`: a buffer is cut down to its limit in rounds, each of which finds a chunk;
* `Holds.hold`: one more chunk, and still the newest bytes are held;
* `Path.holds`: nothing else that a session does changes the buffer, unless it empties it.
-/

namespace DialUp.Session

variable {s s' p : Session} {made : List Moment} {data : Bytes}

/-! ## Rounds -/

/-- A buffer of the given size is cut down to the limit in rounds. In a round, the oldest chunk
goes if all of it is too much, and else its front does. A round that finds no chunk has no
result. -/
def trim? (limit size : Nat) (chunks : List Bytes) : Option (List Bytes × Nat) :=
  if limit < size then
    match chunks with
    | [] => none
    | oldest :: rest =>
      let excess := size - limit
      if oldest.length ≤ excess then trim? limit (size - oldest.length) rest
      else trim? limit (size - excess) (oldest.drop excess :: rest)
  else some (chunks, size)
termination_by (size, chunks.length)
decreasing_by
  · -- An empty chunk leaves the size as it is, but there is one chunk less.
    rcases Nat.eq_zero_or_pos oldest.length with hzero | hpos
    · rw [hzero, Nat.sub_zero]
      exact Prod.Lex.right _ (Nat.lt_succ_self _)
    · exact Prod.Lex.left _ _ (by omega)
  · exact Prod.Lex.left _ _ (by omega)

theorem trim?_of_le {limit size : Nat} (h : size ≤ limit) (chunks : List Bytes) :
    trim? limit size chunks = some (chunks, size) := by
  unfold trim?
  rw [if_neg (Nat.not_lt.mpr h)]

/-- **Every round finds a chunk** if the size of the buffer is right, and what is left in the end
is what is left when all that is too much is dropped at once. -/
theorem trim?_eq {limit size : Nat} {chunks : List Bytes} (h : size = chunks.flatten.length) :
    trim? limit size chunks = some (dropOldest (size - limit) chunks, min size limit) := by
  induction chunks generalizing size with
  | nil =>
    obtain rfl : size = 0 := h
    rw [trim?_of_le (Nat.zero_le _), Nat.zero_sub, Nat.zero_min]
    rfl
  | cons oldest rest ih =>
    rw [List.flatten_cons, List.length_append] at h
    rw [trim?]
    split
    · rename_i hover
      obtain ⟨excess, hexcess⟩ : ∃ excess, size - limit = excess + 1 :=
        ⟨size - limit - 1, by omega⟩
      dsimp only
      rw [hexcess, dropOldest]
      split
      · have hrest : size - oldest.length = rest.flatten.length := by omega
        rw [ih hrest,
          show size - oldest.length - limit = excess + 1 - oldest.length by omega,
          show min (size - oldest.length) limit = min size limit by omega]
      · rw [trim?_of_le (by omega), show size - (excess + 1) = min size limit by omega]
    · rw [show size - limit = 0 by omega, show min size limit = size by omega]
      rfl

/-- What is held after one more chunk is what the rounds leave of the buffer. -/
theorem trim?_hold (h : s.heldSize = s.held.flatten.length) (i : Nat) (chunk : Bytes) :
    trim? s.settings.heldLimit (s.heldSize + chunk.length) (s.held ++ [chunk]) =
      some ((s.hold i chunk).held, (s.hold i chunk).heldSize) := by
  rw [trim?_eq (by simp [h])]
  unfold hold
  dsimp only
  split
  · rw [Nat.min_eq_right (by omega)]
    rfl
  · rw [show s.heldSize + chunk.length - s.settings.heldLimit = 0 by omega,
      Nat.min_eq_left (by omega)]
    cases s.held <;> rfl

/-! ## The newest bytes -/

/-- The newest of some newest bytes and more are the newest of all. -/
theorem rtake_rtake_append (limit : Nat) (data chunk : Bytes) :
    (data.rtake limit ++ chunk).rtake limit = (data ++ chunk).rtake limit := by
  simp only [List.rtake_eq_reverse_take_reverse, List.reverse_append, List.reverse_reverse,
    List.take_append, List.take_take, Nat.min_eq_left (Nat.sub_le limit _)]

/-- **The newest of the given bytes are held**, as many as may be. -/
structure Holds (s : Session) (data : Bytes) : Prop where
  held : s.held.flatten = data.rtake s.settings.heldLimit
  size : s.heldSize = s.held.flatten.length

theorem holds_of_empty (hheld : s.held = []) (hsize : s.heldSize = 0) : s.Holds [] where
  held := by simp [hheld, List.rtake]
  size := by rw [hheld, hsize]; rfl

theorem settings_hold (s : Session) (i : Nat) (chunk : Bytes) :
    (s.hold i chunk).settings = s.settings :=
  (later_hold s i chunk).settings

/-- **One more chunk.** -/
theorem Holds.hold (h : s.Holds data) (i : Nat) (chunk : Bytes) :
    (s.hold i chunk).Holds (data ++ chunk) := by
  obtain ⟨excess, hexcess, hheld, hsize, -⟩ := hold_spec s i chunk
  have hlength : s.heldSize + chunk.length = (s.held.flatten ++ chunk).length := by
    rw [List.length_append, h.size]
  refine ⟨?_, ?_⟩
  · rw [hheld, settings_hold, ← rtake_rtake_append, ← h.held, List.rtake, hexcess, hlength]
  · rw [hsize, hheld, List.length_drop, hlength]

/-- Chunks of bridge `i` are held back one after another. -/
def holdAll (s : Session) (i : Nat) (chunks : List Bytes) : Session :=
  chunks.foldl (fun s chunk => s.hold i chunk) s

theorem Holds.holdAll (h : s.Holds data) (i : Nat) (chunks : List Bytes) :
    (s.holdAll i chunks).Holds (data ++ chunks.flatten) := by
  induction chunks generalizing s data with
  | nil =>
    rw [List.flatten_nil, List.append_nil]
    exact h
  | cons chunk rest ih =>
    rw [List.flatten_cons, ← List.append_assoc]
    exact ih (h.hold i chunk)

theorem settings_holdAll (s : Session) (i : Nat) (chunks : List Bytes) :
    (s.holdAll i chunks).settings = s.settings := by
  induction chunks generalizing s with
  | nil => rfl
  | cons chunk rest ih => exact (ih (s.hold i chunk)).trans (settings_hold s i chunk)

/-! ## What else happens to the buffer -/

/-- The chunk that a move holds back. -/
def Moment.holds (m : Moment) : Bytes :=
  match m.move with
  | .handle (i, .data chunk) =>
    if m.state.current = some i ∧ m.state.mode ≠ .connected then chunk else []
  | _ => []

theorem held_goOnline (s : Session) :
    (left goOnline s).held = s.held ∨ (left goOnline s).mode = .connected := by
  unfold goOnline
  rw [left_get]
  split
  · exact .inl rfl
  · rename_i i hc
    split
    · obtain ⟨_, _, _, _, heq, -⟩ := left_flush i s.held { s with mode := .connected }
      refine .inr ?_
      show (left (flush i s.held) { s with mode := .connected }).mode = _
      rw [heq]
    · exact .inl rfl

/-- A command leaves the buffer as it is, or empties it, or goes online. -/
theorem held_execute (intent : Intent) (s : Session) :
    (left (execute intent) s).held = s.held ∨ (left (execute intent) s).held = [] ∨
      (left (execute intent) s).mode = .connected := by
  cases intent with
  | reset | hangUp => exact .inr (.inl (hung_dropConnection s).held)
  | setEcho | setVerbose | acknowledge => exact .inl rfl
  | escape =>
    refine .inl ?_
    show (if s.mode = .connected then { s with mode := .command } else s).held = _
    split <;> rfl
  | goOnline => exact (held_goOnline s).imp_right .inr
  | dial number => exact (chores_dial number s).held.imp_right .inl

theorem held_wrote (ok : Bool) (origin : Origin) (data : Bytes) (s : Session) :
    (s.wrote ok origin data).held = s.held := by
  obtain ⟨_, _, heq⟩ := wrote_kept s ok origin data
  rw [heq]

/-- A move holds a chunk back, empties the buffer, or leaves it as it is. -/
theorem Moment.held_next (m : Moment) (hrest : m.next.mode = .connected → m.next.held = []) :
    m.next.held = [] ∨ (m.holds = [] ∧ m.next.held = m.state.held) ∨
      ∃ i queue, m.next = ({ m.state with queue } : Session).hold i m.holds := by
  obtain ⟨s, move⟩ := m
  cases move with
  | type byte =>
    have hnext : Moment.next ⟨s, .type byte⟩ = left (typeByte byte) s := rfl
    rw [hnext] at hrest ⊢
    obtain ⟨⟨_, _, _, heq, -⟩, -⟩ | ⟨intent, s₁, -, ⟨_, _, _, rfl, -⟩, htype⟩ :=
      typeByte_cases byte s
    · rw [heq]
      exact .inr (.inl ⟨rfl, rfl⟩)
    · rw [left_congr htype] at hrest ⊢
      obtain hsame | hempty | hon := held_execute intent _
      · exact .inr (.inl ⟨rfl, hsame⟩)
      · exact .inl hempty
      · exact .inl (hrest hon)
  | forward data =>
    refine .inr (.inl ⟨rfl, ?_⟩)
    show (left (forward data) s).held = s.held
    obtain ⟨-, ok, heq⟩ | ⟨-, ⟨-, heq⟩ | ⟨i, -, heq⟩⟩ := left_forward data s
    · rw [heq, held_wrote]
    · rw [heq]
    · rw [heq, held_onBridge]
  | handle event =>
    obtain ⟨i, signal⟩ := event
    have hnext : Moment.next ⟨s, .handle (i, signal)⟩ =
        left (handle (i, signal)) { s with queue := s.queue.drop 1 } := rfl
    rw [hnext]
    obtain ⟨hstale, heq⟩ | ⟨chunk, rfl, hc, ⟨hon, heq⟩ | ⟨hoff, heq⟩⟩ |
      ⟨rfl, -, ⟨-, heq⟩ | ⟨-, heq⟩⟩ := handle_cases (i, signal) { s with queue := s.queue.drop 1 }
    · refine .inr (.inl ⟨?_, by rw [left_ok heq]⟩)
      cases signal with
      | data => exact if_neg fun h => hstale h.1
      | closed => rfl
    · obtain ⟨ok, hleft⟩ := left_write (.line i) chunk { s with queue := s.queue.drop 1 }
      rw [left_congr heq, hleft, held_wrote]
      exact .inr (.inl ⟨if_neg fun h => h.2 hon, rfl⟩)
    · refine .inr (.inr ⟨i, s.queue.drop 1, ?_⟩)
      have hholds : Moment.holds ⟨s, .handle (i, .data chunk)⟩ = chunk := if_pos ⟨hc, hoff⟩
      rw [left_ok heq, hholds]
    · obtain ⟨ok, hleft⟩ := left_write .modem (Bytes.ofText "NO CARRIER\r\n")
        ({ s with queue := s.queue.drop 1, current := none, mode := .command }.clearHeld)
      refine .inl ?_
      rw [left_congr heq, show left noCarrier _ = _ from hleft, held_wrote]
      rfl
    · rw [left_ok heq]
      exact .inl rfl
  | remote i actions => exact .inr (.inl ⟨rfl, held_onBridge i _⟩)
  | close => exact .inr (.inl ⟨rfl, (aside_close s).held⟩)

/-- **After a move the newest bytes are held**, unless it has emptied the buffer. -/
theorem Holds.next {m : Moment} (h : m.state.Holds data) (hs : m.state.Steady)
    (hpossible : m.move.Possible m.state) (hd : m.next.Delivered) (hkept : m.next.held ≠ []) :
    m.next.Holds (data ++ m.holds) := by
  have hnext : m.next.Steady := hs.move hpossible
  obtain hempty | ⟨hnone, hsame⟩ | ⟨i, queue, heq⟩ := m.held_next (hnext.rest hd).held
  · exact absurd hempty hkept
  · have hsettings : m.next.settings = m.state.settings := (ticks_move hs hpossible).later.settings
    refine ⟨?_, hnext.sound.tidy.size⟩
    rw [hnone, List.append_nil, hsame, hsettings, h.held]
  · rw [heq]
    exact Holds.hold (s := { m.state with queue }) ⟨h.held, h.size⟩ i m.holds

theorem Path.holds (h : Path s made p) (hs : s.Steady) (hholds : s.Holds data)
    (hd : p.Delivered) (hkept : ∀ m ∈ made, m.next.held ≠ []) :
    p.Holds (data ++ made.flatMap Moment.holds) := by
  induction h with
  | start =>
    rw [List.flatMap_nil, List.append_nil]
    exact hholds
  | @step made p move before possible ih =>
    have hsteady := before.steady hs
    have hbefore := (ticks_move hsteady possible).later.delivered hsteady.sound.counted hd
    have hp := ih hbefore fun m hm => hkept m (List.mem_append_left _ hm)
    rw [List.flatMap_append, List.flatMap_singleton, ← List.append_assoc]
    exact hp.next (m := ⟨p, move⟩) hsteady possible hd (hkept _ (by simp))

/-- A path goes on from each of its points. -/
theorem Path.drop (h : Path s made p) (k : Nat) :
    Path (s.reached (made.take k)) (made.drop k) p := by
  induction h with
  | start =>
    rw [List.take_nil, List.drop_nil]
    exact .start
  | @step made p move before possible ih =>
    rcases Nat.lt_or_ge made.length k with hlt | hge
    · have whole := Path.step move before possible
      rw [List.take_of_length_le (by simp; omega), List.drop_of_length_le (by simp; omega),
        whole.reached_eq]
      exact .start
    · rw [List.take_append_of_le_length hge, List.drop_append_of_le_length hge]
      exact .step move ih possible

/-! ## The result -/

theorem Holds.heldSize (h : s.Holds data) :
    s.heldSize = min s.settings.heldLimit data.length := by
  rw [h.size, h.held, List.rtake, List.length_drop]
  omega

/-- **What is held back is the newest.** After any chunks that were held back since the buffer was
empty, the bytes in it are the newest of all, as many as may be held, whatever the chunks were, and
the count of them is right. With one chunk more, the rounds in which the buffer is cut down come to
an end and each finds a chunk. So it is in all runs: at every point, the bytes held are the newest
of those that the moves since a point with an empty buffer have held back, if it was not empty
since and no write has failed. -/
theorem newest_held :
    (∀ (s : Session) (i : Nat) (chunks : List Bytes), s.held = [] → s.heldSize = 0 →
      let limit := s.settings.heldLimit
      let s' := s.holdAll i chunks
      s'.held.flatten = chunks.flatten.rtake limit ∧
      s'.heldSize = s'.held.flatten.length ∧
      s'.heldSize = min limit chunks.flatten.length ∧
      (∀ chunk, trim? limit (s'.heldSize + chunk.length) (s'.held ++ [chunk]) =
        some ((s'.hold i chunk).held, (s'.hold i chunk).heldSize)) ∧
      ∀ others : List Bytes, others.flatten = chunks.flatten →
        (s.holdAll i others).held.flatten = s'.held.flatten ∧
          (s.holdAll i others).heldSize = s'.heldSize) ∧
    ∀ (settings : Settings) (around : Surroundings) (calls : List Call) (n : Nat),
      let s := (start settings around).point calls n
      (∀ i chunk, trim? settings.heldLimit (s.heldSize + chunk.length) (s.held ++ [chunk]) =
        some ((s.hold i chunk).held, (s.hold i chunk).heldSize)) ∧
      ∀ k ≤ n, ((start settings around).point calls k).held = [] → s.Delivered →
        let since := ((start settings around).past calls n).drop k
        (∀ m ∈ since, m.next.held ≠ []) →
          s.held.flatten = (since.flatMap Moment.holds).rtake settings.heldLimit := by
  refine ⟨fun s i chunks hheld hsize => ?_, fun settings around calls n => ?_⟩
  · have hholds := (holds_of_empty hheld hsize).holdAll i
    have hsettings := s.settings_holdAll i
    have hall := hholds chunks
    rw [List.nil_append] at hall
    refine ⟨?_, hall.size, ?_, fun chunk => ?_, fun others hothers => ⟨?_, ?_⟩⟩
    · rw [hall.held, hsettings]
    · rw [hall.heldSize, hsettings]
    · rw [← trim?_hold hall.size i chunk, hsettings]
    · rw [(hholds others).held, hall.held, hsettings, hsettings, List.nil_append, hothers]
    · rw [(hholds others).heldSize, hall.heldSize, hsettings, hsettings, List.nil_append, hothers]
  · have hstart := steady_start settings around
    have hpath := path_point hstart calls n
    have hsettings : ((start settings around).point calls n).settings = settings :=
      (hpath.ticks hstart).later.settings
    refine ⟨fun i chunk => ?_, fun k hk hempty hd hkept => ?_⟩
    · rw [← trim?_hold (hpath.steady hstart).sound.tidy.size i chunk, hsettings]
    · have hfirst : (start settings around).point calls k =
          (start settings around).reached (((start settings around).past calls n).take k) := by
        rw [past, List.take_take, Nat.min_eq_left hk]
        rfl
      have hsteady := (path_point hstart calls k).steady hstart
      have hsize : ((start settings around).point calls k).heldSize = 0 := by
        rw [hsteady.sound.tidy.size, hempty]
        rfl
      have hlast := hpath.drop k
      rw [← hfirst] at hlast
      have hheld := (hlast.holds hsteady (holds_of_empty hempty hsize) hd hkept).held
      rwa [hsettings, List.nil_append] at hheld

/-- Few bytes may be held back. -/
def narrowSettings : Settings := { someSettings with heldLimit := 3 }

/-- An escape, and two chunks that arrive after it. -/
def narrowCalls : List Call :=
  [.feed (Bytes.ofText "ATD1\r"), .events, .feed escapeBytes, .remote 0 [.deliver [0x62, 0x63]],
    .events, .remote 0 [.deliver [0x64, 0x65]], .events]

/-- The second chunk costs the first one its front, and a chunk that is too long all others and its
own front. -/
theorem newest_held_cut :
    let s := start narrowSettings someSurroundings
    let chunks : List Bytes := [[0x62, 0x63], [], [0x64, 0x65, 0x66, 0x67]]
    (s.holdAll 0 chunks).held = [[0x65, 0x66, 0x67]] ∧
    (s.holdAll 0 chunks).held.flatten = chunks.flatten.rtake 3 ∧
    (s.point narrowCalls 8).held = [] ∧ (s.point narrowCalls 11).held = [[0x63], [0x64, 0x65]] ∧
    (s.point narrowCalls 11).held.flatten =
      (((s.past narrowCalls 11).drop 8).flatMap Moment.holds).rtake 3 := by
  intro s chunks
  refine ⟨by decide +kernel, (newest_held.1 s 0 chunks rfl rfl).1, by decide +kernel,
    by decide +kernel, ?_⟩
  exact (newest_held.2 narrowSettings someSurroundings narrowCalls 11).2 8 (by decide)
    (by decide +kernel) (by decide +kernel) (by decide +kernel)

end DialUp.Session
