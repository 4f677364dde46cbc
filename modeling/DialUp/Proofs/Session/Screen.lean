import DialUp.Proofs.Session.Echo
import DialUp.Proofs.Session.Equations
import DialUp.Proofs.Session.LineEnds

/-!
# What the screen shows is what runs

A session that echoes shows its user the line being typed. On a terminal that overwrites the cell
under the cursor, and moves the cursor to the left for a backspace, the echoes of whatever is typed
keep one picture: the line stands from where typing began up to the cursor, and nothing behind it.

* `Terminal.Shows`: the picture;
* `Terminal.Shows.print`, `Terminal.Shows.erase`: what is typed and what is erased keep it;
* `mirrors_typeByte`: so does every byte that does not end the line;
* `shown_runs`: so what is interpreted once the line is ended is what stands there.
-/

namespace DialUp

/-- The line of a terminal that the cursor is on, with no end on either side. -/
structure Terminal where
  cells : Int → UInt8
  cursor : Int

namespace Terminal

variable {start t : Terminal} {typed typed' : List Char} {byte : UInt8}

/-- The bytes that show as themselves. -/
def Printable (byte : UInt8) : Prop := 0x20 ≤ byte ∧ byte < 0x7F

instance (byte : UInt8) : Decidable (Printable byte) := inferInstanceAs (Decidable (_ ∧ _))

/-- An empty cell. -/
abbrev blank : UInt8 := 0x20

/-- The cursor moves to the left. -/
def back (t : Terminal) : Terminal := { t with cursor := t.cursor - 1 }

/-- The cell under the cursor is overwritten, and the cursor moves on. -/
def print (t : Terminal) (byte : UInt8) : Terminal where
  cells column := if column = t.cursor then byte else t.cells column
  cursor := t.cursor + 1

/-- What a byte does. One that is neither printable nor a backspace does nothing. -/
def put (t : Terminal) (byte : UInt8) : Terminal :=
  if byte = 0x08 then t.back else if Printable byte then t.print byte else t

/-- The bytes come one after the other. -/
def putAll (t : Terminal) (data : Bytes) : Terminal := data.foldl put t

/-- The text of some cells in a row. -/
def text (cells : Int → UInt8) (column : Int) (length : Nat) : List Char :=
  (List.range length).map fun k : Nat => Char.ofNat (cells (column + k)).toNat

/-- The text from a column up to the cursor. -/
def textFrom (t : Terminal) (column : Int) : List Char :=
  text t.cells column (t.cursor - column).toNat

/-- Nothing stands from the cursor on. -/
def Clear (t : Terminal) : Prop := ∀ column, t.cursor ≤ column → t.cells column = blank

/-- The typed line stands from where the cursor was at the start up to where it is now, with
nothing behind it. What stood before the start is there still. -/
structure Shows (start t : Terminal) (typed : List Char) : Prop where
  cursor : t.cursor = start.cursor + typed.length
  typed : text t.cells start.cursor typed.length = typed.reverse
  clear : t.Clear
  before : ∀ column, column < start.cursor → t.cells column = start.cells column

/-! ## Cells -/

theorem text_succ (cells : Int → UInt8) (column : Int) (length : Nat) :
    text cells column (length + 1) =
      text cells column length ++ [Char.ofNat (cells (column + length)).toNat] := by
  simp [text, List.range_succ]

theorem text_congr {cells cells' : Int → UInt8} {column : Int} {length : Nat}
    (h : ∀ x, x < column + length → cells' x = cells x) :
    text cells' column length = text cells column length := by
  refine List.map_congr_left fun k hk => ?_
  have := List.mem_range.mp hk
  rw [h _ (by omega)]

/-- Only the cell under the cursor is overwritten. -/
theorem cells_print {column : Int} (h : column ≠ t.cursor) :
    (t.print byte).cells column = t.cells column := if_neg h

theorem text_print {column : Int} {length : Nat} (h : t.cursor = column + length) :
    text (t.print byte).cells column length = text t.cells column length :=
  text_congr fun _ hlt => cells_print (by omega)

theorem put_printable (h : Printable byte) (t : Terminal) : t.put byte = t.print byte := by
  have hne : byte ≠ 0x08 := by
    rintro rfl
    exact absurd h (by decide)
  rw [put, if_neg hne, if_pos h]

theorem putAll_append (t : Terminal) (a b : Bytes) : t.putAll (a ++ b) = (t.putAll a).putAll b :=
  List.foldl_append

/-- What takes one character back: to the left, a blank over what was there, and to the left. -/
theorem putAll_erase (t : Terminal) :
    t.putAll [0x08, 0x20, 0x08] = (t.back.print blank).back := rfl

/-! ## The line that shows -/

/-- Where nothing is typed, nothing stands. -/
theorem Clear.shows (h : t.Clear) : Shows t t [] where
  cursor := by simp
  typed := rfl
  clear := h
  before _ _ := rfl

theorem Shows.start_le (h : Shows start t typed) : start.cursor ≤ t.cursor := by
  rw [h.cursor]
  omega

theorem Shows.textFrom (h : Shows start t typed) : t.textFrom start.cursor = typed.reverse := by
  have hlength : (t.cursor - start.cursor).toNat = typed.length := by
    rw [h.cursor]
    omega
  rw [Terminal.textFrom, hlength, h.typed]

/-- **A printable byte is added** to the line that shows. -/
theorem Shows.print (h : Shows start t typed) (byte : UInt8) :
    Shows start (t.print byte) (Char.ofNat byte.toNat :: typed) where
  cursor := by
    show t.cursor + 1 = _
    rw [h.cursor, List.length_cons]
    omega
  typed := by
    have hcell : (t.print byte).cells (start.cursor + typed.length) = byte := if_pos h.cursor.symm
    rw [List.length_cons, text_succ, text_print h.cursor, h.typed, hcell, List.reverse_cons]
  clear column hle := by
    have hle : t.cursor + 1 ≤ column := hle
    rw [cells_print (by omega), h.clear column (by omega)]
  before column hlt := by
    have := h.start_le
    rw [cells_print (by omega), h.before column hlt]

/-- **The last character is erased** from the line that shows. -/
theorem Shows.erase {c : Char} (h : Shows start t (c :: typed)) :
    Shows start (t.putAll [0x08, 0x20, 0x08]) typed := by
  have hcursor : t.back.cursor = start.cursor + typed.length := by
    show t.cursor - 1 = _
    rw [h.cursor, List.length_cons]
    omega
  have hback : t.cursor = t.back.cursor + 1 := (Int.sub_add_cancel ..).symm
  rw [putAll_erase]
  refine ⟨?_, ?_, fun column hle => ?_, fun column hlt => ?_⟩
  · show t.back.cursor + 1 - 1 = _
    omega
  · -- Of what stood there all but the last cell is left.
    have htyped := h.typed
    rw [List.length_cons, text_succ, List.reverse_cons] at htyped
    exact (text_print hcursor).trans (List.append_inj' htyped rfl).1
  · have hle : t.back.cursor + 1 - 1 ≤ column := hle
    by_cases heq : column = t.back.cursor
    · exact if_pos heq
    · exact (cells_print heq).trans (h.clear column (by omega))
  · exact (cells_print (by omega)).trans (h.before column hlt)

/-- **Echoes turn one line that shows into another**, and never take the cursor to the left of the
start. -/
def Mirrors (typed : List Char) (echo : Bytes) (typed' : List Char) : Prop :=
  ∀ start t, Shows start t typed →
    Shows start (t.putAll echo) typed' ∧
      ∀ k, start.cursor ≤ (t.putAll (echo.take k)).cursor

theorem Mirrors.refl (typed : List Char) : Mirrors typed [] typed :=
  fun _ _ h => ⟨h, fun _ => by rw [List.take_nil]; exact h.start_le⟩

theorem Mirrors.append {typed'' : List Char} {a b : Bytes} (ha : Mirrors typed a typed')
    (hb : Mirrors typed' b typed'') : Mirrors typed (a ++ b) typed'' := by
  intro start t h
  obtain ⟨hmid, hfirst⟩ := ha start t h
  obtain ⟨hlast, hsecond⟩ := hb start _ hmid
  refine ⟨by rwa [putAll_append], fun k => ?_⟩
  obtain hle | hle := Nat.le_total k a.length
  · rw [List.take_append_of_le_length hle]
    exact hfirst k
  · rw [List.take_append, List.take_of_length_le hle, putAll_append]
    exact hsecond _

theorem mirrors_print (h : Printable byte) (typed : List Char) :
    Mirrors typed [byte] (Char.ofNat byte.toNat :: typed) := by
  intro start t hshows
  have hput : Shows start (t.putAll [byte]) (Char.ofNat byte.toNat :: typed) := by
    show Shows start (t.put byte) _
    rw [put_printable h]
    exact hshows.print byte
  refine ⟨hput, fun k => ?_⟩
  match k with
  | 0 => exact hshows.start_le
  | k + 1 =>
    rw [List.take_of_length_le (by simp)]
    exact hput.start_le

/-- There is a character to erase, so the cursor does not get to the left of the start. -/
theorem mirrors_erase (c : Char) (typed : List Char) :
    Mirrors (c :: typed) [0x08, 0x20, 0x08] typed := by
  intro start t h
  have hback : start.cursor ≤ t.cursor - 1 := by
    rw [h.cursor, List.length_cons]
    omega
  refine ⟨h.erase, fun k => ?_⟩
  match k with
  | 0 => exact h.start_le
  | 1 => exact hback
  | 2 =>
    show start.cursor ≤ t.cursor - 1 + 1
    omega
  | k + 3 =>
    rw [List.take_of_length_le (by simp)]
    exact h.erase.start_le

end Terminal

namespace Session

open Terminal

variable {s s' : Session} {byte : UInt8}

/-- The client takes the next writes. -/
def Takes (s : Session) (writes : Nat) : Prop :=
  s.closed = false ∧ ∀ k < writes, s.around.clientFault (s.writes + k) = none

/-- The session when it has echoed what made its line another one. -/
def echoed (s : Session) (typed : List Char) (echoes : List Bytes) : Session :=
  { s with
    typed
    writes := s.writes + echoes.length
    log := (echoes.map (Effect.output .modem)).reverse ++ s.log }

theorem echoed_echoed (s : Session) (typed typed' : List Char) (a b : List Bytes) :
    (s.echoed typed a).echoed typed' b = s.echoed typed' (a ++ b) := by
  simp [echoed, Nat.add_assoc]

theorem shown_echoed (s : Session) (typed : List Char) (echoes : List Bytes) :
    (s.echoed typed echoes).shown = s.shown ++ echoes.flatten := by
  have hechoes : (echoes.map (Effect.output .modem)).flatMap Effect.shown = echoes.flatten := by
    induction echoes with
    | nil => rfl
    | cons echo rest ih => exact congrArg (echo ++ ·) ih
  simp [shown, echoed, hechoes]

theorem Takes.echoed {typed : List Char} {echoes : List Bytes} {writes : Nat}
    (h : s.Takes (echoes.length + writes)) : (s.echoed typed echoes).Takes writes := by
  refine ⟨h.1, fun k hk => ?_⟩
  show s.around.clientFault (s.writes + echoes.length + k) = none
  rw [Nat.add_assoc]
  exact h.2 _ (by omega)

theorem Takes.mono {n m : Nat} (h : s.Takes m) (hle : n ≤ m) : s.Takes n :=
  ⟨h.1, fun k hk => h.2 k (by omega)⟩

/-- What is typed is echoed. -/
theorem echoBack_takes (hecho : s.echo = true) (htakes : s.Takes 1) (typed : List Char)
    (data : Bytes) : echoBack data { s with typed } = .ok () (s.echoed typed [data]) := by
  have hrefusal : ({ s with typed } : Session).refusal? = none := by
    show (if s.closed then _ else s.around.clientFault s.writes) = none
    rw [htakes.1]
    exact htakes.2 0 Nat.one_pos
  rw [echoBack_apply, if_pos hecho, write_eq, hrefusal]
  rfl

/-- **Every byte that does not end the line keeps up what shows.** -/
theorem mirrors_typeByte (hbyte : byte ≠ cr ∧ byte ≠ lf) (hecho : s.echo = true)
    (htakes : s.Takes 1) :
    ∃ typed echoes, typeByte byte s = .ok () (s.echoed typed echoes) ∧ echoes.length ≤ 1 ∧
      Mirrors s.typed echoes.flatten typed := by
  rw [typeByte_apply, if_neg (by simpa using hbyte)]
  split
  · split
    · rename_i hsome
      obtain ⟨c, rest, htyped⟩ := List.exists_cons_of_ne_nil (by simpa using hsome)
      rw [htyped]
      exact ⟨rest, [[0x08, 0x20, 0x08]], echoBack_takes hecho htakes rest _, by simp,
        mirrors_erase c rest⟩
    · exact ⟨s.typed, [], rfl, by simp, .refl _⟩
  · split
    · rename_i hprintable
      obtain ⟨hlow, hhigh⟩ := (Bool.and_eq_true _ _).mp hprintable
      have hprintable : Printable byte := ⟨of_decide_eq_true hlow, of_decide_eq_true hhigh⟩
      refine ⟨Char.ofNat byte.toNat :: s.typed, [[byte]], ?_, by simp, mirrors_print hprintable _⟩
      exact echoBack_takes hecho htakes _ _
    · exact ⟨s.typed, [], rfl, by simp, .refl _⟩

/-- **So does all that is typed** before the line is ended. -/
theorem mirrors_feed {data : Bytes} (hdata : Unended data) (hoff : s.mode ≠ .connected)
    (hecho : s.echo = true) (htakes : s.Takes data.length) :
    ∃ typed echoes, feed data s = .ok () (s.echoed typed echoes) ∧
      echoes.length ≤ data.length ∧ Mirrors s.typed echoes.flatten typed := by
  induction data generalizing s with
  | nil => exact ⟨s.typed, [], feed_of_offline hoff [], by simp, .refl _⟩
  | cons byte rest ih =>
    obtain ⟨hbyte, hrest⟩ := List.forall_mem_cons.mp hdata
    rw [List.length_cons] at htakes
    obtain ⟨typed, echo, htype, hone, hmirrors⟩ :=
      mirrors_typeByte hbyte hecho (htakes.mono (by omega))
    have htakes' : (s.echoed typed echo).Takes rest.length :=
      (htakes.mono (by omega)).echoed
    obtain ⟨typed', echoes, hfeed, hmore, hmirrors'⟩ :=
      ih (s := s.echoed typed echo) hrest hoff hecho htakes'
    refine ⟨typed', echo ++ echoes, ?_, ?_, ?_⟩
    · rw [feed_cons hoff htype hoff, hfeed, echoed_echoed]
    · rw [List.length_append, List.length_cons]
      omega
    · rw [List.flatten_append]
      exact hmirrors.append hmirrors'

/-- The byte that ends a line hands it on, but for one that is empty. -/
theorem feed_end (hend : byte = cr ∨ byte = lf) (hoff : s.mode ≠ .connected)
    (hecho : s.echo = true) (htakes : s.Takes 1) :
    feed [byte] s =
      if s.typed = [] then .ok () s
      else handleLine (String.ofList s.typed.reverse) (s.echoed [] [[cr, lf]]) := by
  rw [feed_single hoff, typeByte_apply, if_pos (by simpa using hend)]
  by_cases htyped : s.typed = []
  · rw [if_pos htyped, if_neg (by simp [htyped])]
  · rw [if_neg htyped, if_pos (by simpa using htyped), bind_apply,
      echoBack_takes hecho htakes]

/-- **What the screen shows is what runs.** Let a session be offline, echo what is typed, and have
nothing typed yet, let its client take what is written to it, and let bytes be typed of which none
ends the line. They are taken, and all that happens is that the line changes and that something is
echoed. Take a terminal on which nothing stands from the cursor on, and let the echoes come there.
Then the line stands from where the cursor was up to where it is, nothing stands from there on, and
what stood before is there still; nor was the cursor ever to the left of where it was. Whichever
byte ends the line now, what is interpreted is the text that stands there, and if there is none,
nothing happens. -/
theorem shown_runs (s : Session) (data : Bytes) (hdata : Unended data) (hoff : s.mode ≠ .connected)
    (hecho : s.echo = true) (htyped : s.typed = []) (htakes : s.Takes (data.length + 1)) :
    ∃ typed echoes, feed data s = .ok () (s.echoed typed echoes) ∧
      ∀ t : Terminal, t.Clear →
        let s' := s.echoed typed echoes
        let t' := t.putAll echoes.flatten
        (t'.textFrom t.cursor = typed.reverse ∧ t'.cursor = t.cursor + typed.length ∧ t'.Clear) ∧
        (∀ column, column < t.cursor → t'.cells column = t.cells column) ∧
        (∀ k, t.cursor ≤ (t.putAll (echoes.flatten.take k)).cursor) ∧
        ∀ byte, byte = cr ∨ byte = lf →
          feed [byte] s' =
            if t'.textFrom t.cursor = [] then .ok () s'
            else handleLine (String.ofList (t'.textFrom t.cursor)) (s'.echoed [] [[cr, lf]]) := by
  obtain ⟨typed, echoes, hfeed, hlength, hmirrors⟩ :=
    mirrors_feed hdata hoff hecho (htakes.mono (Nat.le_succ _))
  refine ⟨typed, echoes, hfeed, fun t hclear => ?_⟩
  intro s' t'
  rw [htyped] at hmirrors
  obtain ⟨hshows, hcursor⟩ := hmirrors t t hclear.shows
  have htext : t'.textFrom t.cursor = typed.reverse := hshows.textFrom
  refine ⟨⟨htext, hshows.cursor, hshows.clear⟩, hshows.before, hcursor, fun byte hend => ?_⟩
  have htakes' : s'.Takes 1 := (htakes.mono (by omega)).echoed
  rw [htext, feed_end (s := s') hend hoff hecho htakes']
  simp only [List.reverse_eq_nil_iff]
  rfl

/-- A terminal with a prompt. -/
def prompted : Terminal where
  cells column := if column < 2 then 0x3E else Terminal.blank
  cursor := 2

/-- Erasing too much, and typing what does not show. -/
def corrected : Bytes :=
  Bytes.ofText "H" ++ [0x08, 0x7F] ++ Bytes.ofText "AR" ++ [0x1B, 0xFF, 0x08] ++ Bytes.ofText "TZ"

/-- What stands behind the prompt is a command, and it is the one that is interpreted. -/
theorem shown_runs_corrected :
    let s := start someSettings someSurroundings
    let s' := left (feed corrected) s
    let t' := prompted.putAll s'.shown
    (Unended corrected ∧ s.Takes (corrected.length + 1) ∧ prompted.Clear) ∧
    String.ofList (t'.textFrom 0) = ">>ATZ" ∧ t'.Clear ∧
    ∀ byte, byte = cr ∨ byte = lf →
      feed [byte] s' = handleLine "ATZ" (s'.echoed [] [[cr, lf]]) := by
  intro s s' t'
  have hdata : Unended corrected := by decide +kernel
  have htakes : s.Takes (corrected.length + 1) := ⟨rfl, fun _ _ => rfl⟩
  have hclear : prompted.Clear := fun column hle => if_neg (Int.not_lt.mpr hle)
  obtain ⟨typed, echoes, hfeed, hscreen⟩ :=
    shown_runs s corrected hdata (by decide) rfl rfl htakes
  obtain ⟨⟨-, -, hclear'⟩, -, -, hend⟩ := hscreen prompted hclear
  have hleft : s.echoed typed echoes = s' := (left_ok hfeed).symm
  have hechoes : echoes.flatten = s'.shown := by
    rw [← hleft, shown_echoed]
    rfl
  rw [hleft, hechoes] at hend
  rw [hechoes] at hclear'
  have htext : t'.textFrom prompted.cursor = "ATZ".toList := by decide +kernel
  refine ⟨⟨hdata, htakes, hclear⟩, by decide +kernel, hclear', fun byte h => ?_⟩
  rw [hend byte h, htext]
  rfl

end Session

end DialUp
