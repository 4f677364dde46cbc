import DialUp.Proofs.Line

/-!
# What the reads of a line return

Chunks wait on a line until they are read. A read of any size takes the front of the first chunk, as
much of it as lies before the cut, and leaves the rest in front of the queue, so reads neither lose
anything nor change the order.

* `arrived_run`: what the reads returned, followed by what waits, is what arrived;
* `read_remoteClosed_iff`: the end of the connection shows only when nothing waits;
* `inbound_readAll`: enough reads of at least one byte each leave nothing waiting;
* `returned_in_order`: so all that arrives is read, in order, before the connection ends.
-/

namespace DialUp.Line

variable {l l' : Line} {size : Int} {chunk : Bytes}

/-! ## One read -/

theorem read_kept (h : l.read size = .ok (chunk, l')) :
    l'.isOpen = l.isOpen ∧ l'.hungUp = l.hungUp ∧ l'.readFault = l.readFault := by
  unfold read at h
  repeat' split at h
  all_goals cases h
  all_goals exact ⟨rfl, rfl, rfl⟩

/-- A read hands something over as long as a chunk waits. -/
theorem read_of_waiting (hopen : l.isOpen = true) (hwaits : l.inbound ≠ []) (size : Int) :
    ∃ chunk l', l.read size = .ok (chunk, l') := by
  cases hread : l.read size with
  | ok result => exact ⟨result.1, result.2, rfl⟩
  | error fault => exact absurd (inbound_eq_nil_of_read hopen hread) hwaits

/-- **The end of the connection shows** exactly if the remote end has hung up and nothing waits. -/
theorem read_remoteClosed_iff (hopen : l.isOpen = true) (size : Int) :
    l.read size = .error .remoteClosed ↔
      l.hungUp = true ∧ l.inbound = [] ∧ l.readFault = none := by
  by_cases hwaits : l.inbound = []
  · unfold read
    rw [hopen, hwaits]
    cases l.readFault <;> cases l.hungUp <;> simp
  · obtain ⟨chunk, l', hread⟩ := read_of_waiting hopen hwaits size
    rw [hread]
    exact iff_of_false nofun fun h => hwaits h.2.1

/-! ## Many calls -/

/-- What happens to a line: the remote end sends a chunk or hangs up, or this end reads. -/
inductive Call
  | deliver (chunk : Bytes)
  | hangUp
  | read (size : Int)

/-- The bytes that arrive by a call. -/
def Call.bytes : Call → Bytes
  | .deliver chunk => chunk
  | .hangUp | .read _ => []

/-- A line with what its reads came to, the first one first. -/
structure Use where
  line : Line
  reads : List (Except Fault Bytes) := []

namespace Use

/-- The line after a read. One that fails leaves it as it is. -/
def afterRead (u : Use) : Except Fault (Bytes × Line) → Use
  | .ok (chunk, line) => { line, reads := u.reads ++ [.ok chunk] }
  | .error fault => { u with reads := u.reads ++ [.error fault] }

/-- The line after a call. -/
def call (u : Use) : Call → Use
  | .deliver chunk => { u with line := u.line.deliver chunk }
  | .hangUp => { u with line := u.line.hangUp }
  | .read size => u.afterRead (u.line.read size)

/-- The line after some calls. -/
def run (u : Use) (calls : List Call) : Use := calls.foldl call u

/-- The bytes that a read returned. -/
def bytesOf : Except Fault Bytes → Bytes
  | .ok chunk => chunk
  | .error _ => []

/-- All bytes that the reads returned. -/
def returned (u : Use) : Bytes := u.reads.flatMap bytesOf

/-- All bytes that the reads returned, and then those that wait. -/
def arrived (u : Use) : Bytes := u.returned ++ u.line.inbound.flatten

variable {u : Use}

/-- Reading neither adds to what arrived nor loses any of it. -/
theorem arrived_afterRead (u : Use) (size : Int) :
    (u.afterRead (u.line.read size)).arrived = u.arrived := by
  unfold arrived returned
  cases hread : u.line.read size with
  | error fault =>
    simp [afterRead, bytesOf]
  | ok result =>
    obtain ⟨chunk, l'⟩ := result
    have hinbound : u.line.inbound.flatten = chunk ++ l'.inbound.flatten := by
      obtain ⟨hnil, rfl, rfl⟩ | ⟨-, -, hin, -⟩ := read_ok hread
      · rfl
      · exact hin
    simp [afterRead, bytesOf, hinbound]

theorem arrived_call (u : Use) (call : Call) : (u.call call).arrived = u.arrived ++ call.bytes := by
  cases call with
  | deliver chunk => simp [Use.call, arrived, returned, deliver, Call.bytes]
  | hangUp => exact (List.append_nil _).symm
  | read size => exact (arrived_afterRead u size).trans (List.append_nil _).symm

/-- **What the reads returned, followed by what waits, is what arrived.** -/
theorem arrived_run (u : Use) (calls : List Call) :
    (u.run calls).arrived = u.arrived ++ calls.flatMap Call.bytes := by
  induction calls generalizing u with
  | nil => exact (List.append_nil _).symm
  | cons call rest ih =>
    calc ((u.call call).run rest).arrived
        = (u.call call).arrived ++ rest.flatMap Call.bytes := ih (u.call call)
      _ = u.arrived ++ (call :: rest).flatMap Call.bytes := by
        rw [arrived_call, List.flatMap_cons, List.append_assoc]

theorem kept_afterRead (u : Use) (size : Int) :
    (u.afterRead (u.line.read size)).line.isOpen = u.line.isOpen ∧
      (u.afterRead (u.line.read size)).line.hungUp = u.line.hungUp ∧
      (u.afterRead (u.line.read size)).line.readFault = u.line.readFault := by
  cases hread : u.line.read size with
  | ok result => exact read_kept hread
  | error fault => exact ⟨rfl, rfl, rfl⟩

/-- The line stays as it is, but for the chunks and for a remote end that hangs up. -/
theorem kept_call (u : Use) (call : Call) :
    (u.call call).line.isOpen = u.line.isOpen ∧
      (u.call call).line.readFault = u.line.readFault ∧
      ((u.call call).line.hungUp = true ↔ u.line.hungUp = true ∨ call = .hangUp) := by
  cases call with
  | deliver chunk => exact ⟨rfl, rfl, (or_iff_left nofun).symm⟩
  | hangUp => exact ⟨rfl, rfl, iff_of_true rfl (.inr rfl)⟩
  | read size =>
    obtain ⟨hopen, hhungUp, hfault⟩ := kept_afterRead u size
    refine ⟨hopen, hfault, ?_⟩
    rw [Use.call, hhungUp]
    exact (or_iff_left nofun).symm

theorem kept_run (u : Use) (calls : List Call) :
    (u.run calls).line.isOpen = u.line.isOpen ∧
      (u.run calls).line.readFault = u.line.readFault ∧
      ((u.run calls).line.hungUp = true ↔ u.line.hungUp = true ∨ .hangUp ∈ calls) := by
  induction calls generalizing u with
  | nil => exact ⟨rfl, rfl, (or_iff_left List.not_mem_nil).symm⟩
  | cons call rest ih =>
    obtain ⟨hopen, hfault, hhungUp⟩ := kept_call u call
    obtain ⟨ih_open, ih_fault, ih_hungUp⟩ := ih (u.call call)
    refine ⟨ih_open.trans hopen, ih_fault.trans hfault, ih_hungUp.trans ?_⟩
    rw [hhungUp, List.mem_cons, or_assoc, @eq_comm _ call]

/-! ## Reading all that waits -/

/-- A read of at least one byte shortens the backlog, unless there is none. -/
theorem backlog_afterRead (hopen : u.line.isOpen = true) (hsize : 0 < size) :
    (u.afterRead (u.line.read size)).line.backlog ≤ u.line.backlog - 1 := by
  by_cases hwaits : u.line.inbound = []
  · have hsame : (u.afterRead (u.line.read size)).line = u.line := by
      cases hread : u.line.read size with
      | error fault => rfl
      | ok result =>
        obtain ⟨-, -, hline⟩ | ⟨hne, -⟩ := read_ok hread
        · exact hline
        · exact absurd hwaits hne
    rw [hsame, backlog, hwaits]
    exact Nat.zero_le _
  · obtain ⟨chunk, l', hread⟩ := read_of_waiting hopen hwaits size
    rw [hread]
    exact Nat.le_sub_one_of_lt (backlog_lt_of_read hsize hread hwaits)

/-- **Enough reads of at least one byte each leave nothing waiting.** -/
theorem inbound_readAll {sizes : List Int} (hopen : u.line.isOpen = true)
    (hsizes : ∀ size ∈ sizes, 0 < size) (hmany : u.line.backlog ≤ sizes.length) :
    (u.run (sizes.map .read)).line.inbound = [] := by
  induction sizes generalizing u with
  | nil =>
    have hlength : u.line.inbound.length = 0 :=
      Nat.le_zero.mp (Nat.le_trans (Nat.le_add_left _ _) hmany)
    exact List.eq_nil_of_length_eq_zero hlength
  | cons size rest ih =>
    have hnext := backlog_afterRead hopen (hsizes size List.mem_cons_self)
    refine ih (u := u.call (.read size)) ((kept_call u _).1.trans hopen)
      (fun size hsize => hsizes size (List.mem_cons_of_mem _ hsize)) (Nat.le_trans hnext ?_)
    rw [List.length_cons] at hmany
    omega

end Use

/-- **All that arrives is read, in order, before the connection ends.** Whatever happens to an open
line, what its reads returned, followed by what still waits, is what waited at first, followed by
all that was sent. A read reports the end of the connection exactly if the remote end has hung up
and nothing waits, and then all of that was returned. As long as something waits, reads of any size
succeed, and enough of them of at least one byte each return all of it. -/
theorem returned_in_order (hopen : l.isOpen = true) (calls : List Call) :
    let u := Use.run { line := l } calls
    let sent := l.inbound.flatten ++ calls.flatMap Call.bytes
    u.returned ++ u.line.inbound.flatten = sent ∧
    (∀ size, u.line.read size = .error .remoteClosed ↔
      (l.hungUp = true ∨ .hangUp ∈ calls) ∧ u.line.inbound = [] ∧ l.readFault = none) ∧
    (∀ size, u.line.read size = .error .remoteClosed → u.returned = sent) ∧
    (u.line.inbound ≠ [] → ∀ size, ∃ chunk l', u.line.read size = .ok (chunk, l')) ∧
    ∀ sizes : List Int, (∀ size ∈ sizes, 0 < size) → u.line.backlog ≤ sizes.length →
      (u.run (sizes.map .read)).returned = sent := by
  intro u sent
  have harrived : u.arrived = sent := Use.arrived_run { line := l } calls
  obtain ⟨hstays, hfault, hhungUp⟩ := Use.kept_run { line := l } calls
  have hlater : u.line.isOpen = true := hstays.trans hopen
  have hall : ∀ v : Use, v.arrived = sent → v.line.inbound = [] → v.returned = sent := by
    intro v hv hnothing
    rw [Use.arrived, hnothing, List.flatten_nil, List.append_nil] at hv
    exact hv
  have hends := read_remoteClosed_iff hlater
  refine ⟨harrived, fun size => ?_, fun size h => hall u harrived ((hends size).mp h).2.1,
    read_of_waiting hlater, fun sizes hsizes hmany => ?_⟩
  · rw [hends size, hhungUp, hfault]
  · refine hall _ ?_ (Use.inbound_readAll hlater hsizes hmany)
    have hreads : (sizes.map Call.read).flatMap Call.bytes = [] := by
      simp [List.flatMap_map, Call.bytes]
    rw [Use.arrived_run, harrived, hreads, List.append_nil]

/-- Sizes that are below zero or zero cut chunks too; what is left of them is read after the remote
end has hung up. -/
theorem returned_in_order_cut :
    let calls : List Call :=
      [.deliver [1, 2, 3, 4], .read (-1), .read 0, .deliver [5], .hangUp, .read (-9)]
    let u := Use.run { line := {} } calls
    ({} : Line).isOpen = true ∧
    (u.returned = [1, 2, 3] ∧ u.line.inbound = [[4], [5]] ∧
      u.returned ++ u.line.inbound.flatten = [1, 2, 3, 4, 5]) ∧
    ((u.run ([1, 4096, 4096, 4096].map .read)).returned = [1, 2, 3, 4, 5] ∧
      (u.run ([1, 4096, 4096, 4096].map .read)).line.read 4096 = .error .remoteClosed) := by
  intro calls u
  obtain ⟨hconserved, -, -, -, hall⟩ := returned_in_order (l := {}) rfl calls
  exact ⟨rfl, ⟨rfl, rfl, hconserved⟩, hall [1, 4096, 4096, 4096] (by decide) (by decide), rfl⟩

end DialUp.Line
