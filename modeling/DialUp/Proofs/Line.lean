import DialUp.Line

/-!
# What reading does to a line

* `read_ok`: a read hands over the front of what waits, and keeps it among what was taken;
* `drain_spec`: reading until nothing more can be read takes all that waits, in order, and does
  not close the line;
* `length_of_mem_drain`: no chunk that is read is longer than a read may be;
* `arrived_deliver`, `arrived_read`: what was read, followed by what waits, is what arrived;
* `arrived_performAll`, `arrived_write`: what arrives is what the remote end sends, no more and no
  less;
* `received_write`: what was received grows by what is written, and by nothing else.

The remote end can neither close a line from this side nor touch what was taken from it or written
to it (`performAll_kept`, `write_kept`, `received_performAll`).
-/

namespace DialUp.Line

variable {l l' : Line}

/-! ## Reading -/

theorem read_ok {size : Int} {chunk : Bytes} (h : l.read size = .ok (chunk, l')) :
    (l.inbound = [] ∧ chunk = [] ∧ l' = l) ∨
      (l.inbound ≠ [] ∧ l'.taken = l.taken ++ [chunk] ∧
        l.inbound.flatten = chunk ++ l'.inbound.flatten ∧ l'.isOpen = l.isOpen) := by
  unfold read at h
  split at h
  · cases h
  · split at h
    · rename_i c rest hin
      right
      split at h
      · cases h
        refine ⟨by simp [hin], rfl, ?_, rfl⟩
        rw [hin, List.flatten_cons, List.flatten_cons, ← List.append_assoc,
          Bytes.front_append_back]
      · cases h
        exact ⟨by simp [hin], rfl, by rw [hin, List.flatten_cons], rfl⟩
    · rename_i hin
      left
      split at h
      · cases h
      · split at h
        · cases h
        · cases h
          exact ⟨hin, rfl, rfl⟩

/-- **A drained line**: the reader gets all that waits, in order, and nothing is left. -/
theorem drain_spec (l : Line) (hopen : l.isOpen = true) :
    l.drain.line.taken = l.taken ++ l.drain.chunks ∧ l.drain.chunks.flatten = l.inbound.flatten ∧
      l.drain.line.inbound = [] ∧ l.drain.line.isOpen = true := by
  fun_induction drain l with
  | case1 l fault h =>
    have hin := inbound_eq_nil_of_read hopen h
    exact ⟨by simp, by simp [hin], hin, hopen⟩
  | case2 l chunk l' h hin =>
    obtain ⟨-, -, rfl⟩ | ⟨hne, -⟩ := read_ok h
    · exact ⟨by simp, by simp [hin], hin, hopen⟩
    · exact absurd hin hne
  | case3 l chunk l' h hne _ rest ih =>
    obtain ⟨hin, -⟩ | ⟨-, htaken, hin, hkept⟩ := read_ok h
    · exact absurd hin hne
    · obtain ⟨ih_taken, ih_chunks, ih_inbound, ih_open⟩ := ih (hkept.trans hopen)
      refine ⟨?_, ?_, ih_inbound, ih_open⟩
      · rw [ih_taken, htaken, List.append_assoc, List.singleton_append]
      · rw [hin, List.flatten_cons, ih_chunks]

theorem length_of_read {size : Int} {chunk : Bytes} (hsize : 0 ≤ size)
    (h : l.read size = .ok (chunk, l')) : (chunk.length : Int) ≤ size := by
  unfold read at h
  split at h
  · cases h
  · split at h
    · split at h
      · cases h
        rw [Bytes.front, Bytes.cutAt, if_pos hsize, List.length_take]
        omega
      · cases h
        omega
    · split at h
      · cases h
      · split at h <;> cases h
        exact hsize

/-- The chunks of a drained line are no longer than one read. -/
theorem length_of_mem_drain {chunk : Bytes} (h : chunk ∈ l.drain.chunks) :
    chunk.length ≤ readSize := by
  fun_induction drain l with
  | case1 | case2 => cases h
  | case3 l first l' hread _ _ rest ih =>
    rcases List.mem_cons.mp h with rfl | hrest
    · exact Int.ofNat_le.mp (length_of_read (by decide) hread)
    · exact ih hrest

/-! ## What arrives -/

/-- All bytes that arrived: those that were read, and then those that wait. -/
def arrived (l : Line) : Bytes := l.taken.flatten ++ l.inbound.flatten

theorem arrived_deliver (l : Line) (chunk : Bytes) :
    (l.deliver chunk).arrived = l.arrived ++ chunk := by
  simp [arrived, deliver]

/-- Reading neither adds to what arrived nor loses any of it. -/
theorem arrived_read {size : Int} {chunk : Bytes} (h : l.read size = .ok (chunk, l')) :
    l'.arrived = l.arrived := by
  obtain ⟨-, -, rfl⟩ | ⟨-, htaken, hin, -⟩ := read_ok h
  · rfl
  · unfold arrived
    rw [htaken, hin, List.flatten_append, List.flatten_singleton, List.append_assoc]

/-- Draining a line neither adds to what arrived nor loses any of it. -/
theorem arrived_drain (hopen : l.isOpen = true) : l.drain.line.arrived = l.arrived := by
  obtain ⟨htaken, hchunks, hinbound, -⟩ := l.drain_spec hopen
  unfold arrived
  rw [htaken, hinbound, List.flatten_append, hchunks, List.flatten_nil, List.append_nil]

/-! ## What the remote end leaves alone -/

theorem performAll_kept (l : Line) (actions : List Action) :
    (l.performAll actions).taken = l.taken ∧ (l.performAll actions).isOpen = l.isOpen := by
  unfold performAll
  induction actions generalizing l with
  | nil => exact ⟨rfl, rfl⟩
  | cons action rest ih =>
    rw [List.foldl_cons]
    obtain ⟨htaken, hopen⟩ := ih (l.perform action)
    rw [htaken, hopen]
    unfold perform
    by_cases h : l.isOpen = true
    · rw [if_pos h]
      cases action <;> exact ⟨rfl, rfl⟩
    · rw [if_neg h]
      exact ⟨rfl, rfl⟩

/-- A closed line is out of the reach of its remote end. -/
theorem performAll_closed (hclosed : l.isOpen = false) (actions : List Action) :
    l.performAll actions = l := by
  unfold performAll
  induction actions with
  | nil => rfl
  | cons action rest ih =>
    rw [List.foldl_cons, show l.perform action = l by simp [perform, hclosed], ih]

theorem started_kept (plan : Plan) : (started plan).taken = [] ∧ (started plan).isOpen = true :=
  performAll_kept _ _

theorem received_performAll (l : Line) (actions : List Action) :
    (l.performAll actions).received = l.received := by
  unfold performAll
  induction actions generalizing l with
  | nil => rfl
  | cons action rest ih =>
    rw [List.foldl_cons, ih]
    unfold perform
    split
    · cases action <;> rfl
    · rfl

theorem received_read {size : Int} {chunk : Bytes} (h : l.read size = .ok (chunk, l')) :
    l'.received = l.received := by
  unfold read at h
  repeat' split at h
  all_goals cases h
  all_goals rfl

theorem received_drain (l : Line) : l.drain.line.received = l.received := by
  fun_induction drain l with
  | case1 => rfl
  | case2 l chunk l' h => exact received_read h
  | case3 l chunk l' h _ _ rest ih => exact ih.trans (received_read h)

theorem write_kept {data : Bytes} (h : l.write data = .ok l') :
    l'.taken = l.taken ∧ l'.isOpen = l.isOpen := by
  unfold write at h
  split at h
  · cases h
  · split at h
    · cases h
    · cases h
      unfold answer
      cases hecho : l.echoes <;> cases hreplies : l.replies <;>
        simp [deliver, performAll_kept]

/-! ## What the remote end sends -/

/-- The bytes that the remote end sends by an action. -/
def Action.bytes : Action → Bytes
  | .deliver chunk => chunk
  | .hangUp | .refuseWrites _ | .failReads _ => []

/-- The bytes that the remote end sends by a list of actions. -/
def sentBy (actions : List Action) : Bytes := actions.flatMap Action.bytes

/-- The bytes that the remote end sends when a chunk is written. -/
def sentBack (l : Line) (data : Bytes) : Bytes :=
  (if l.echoes then data else []) ++ sentBy (l.replies.headD [])

/-- **What arrives on an open line is what the remote end sends**. -/
theorem arrived_performAll (hopen : l.isOpen = true) (actions : List Action) :
    (l.performAll actions).arrived = l.arrived ++ sentBy actions := by
  unfold performAll sentBy
  induction actions generalizing l with
  | nil => exact (List.append_nil _).symm
  | cons action rest ih =>
    have hperform : (l.perform action).arrived = l.arrived ++ action.bytes ∧
        (l.perform action).isOpen = true := by
      unfold perform
      rw [if_pos hopen]
      cases action with
      | deliver chunk => exact ⟨arrived_deliver l chunk, hopen⟩
      | hangUp | refuseWrites | failReads => exact ⟨(List.append_nil _).symm, hopen⟩
    rw [List.foldl_cons, ih hperform.2, hperform.1, List.flatMap_cons, List.append_assoc]

theorem arrived_started (plan : Plan) : (started plan).arrived = sentBy plan.onConnect := by
  unfold started
  rw [arrived_performAll rfl]
  rfl

/-- The line when the echo is out and the next of the planned replies is to come. -/
def echoed (l : Line) (data : Bytes) : Line :=
  { l with inbound := l.inbound ++ (if l.echoes then [data] else []), replies := l.replies.tail }

theorem answer_eq (l : Line) (data : Bytes) :
    l.answer data = (l.echoed data).performAll (l.replies.headD []) := by
  obtain ⟨_, _, _, _, _, _, _, echoes, replies⟩ := l
  cases echoes <;> cases replies <;> simp [answer, echoed, deliver, performAll]

/-- What is written to a line that accepts it. -/
theorem eq_answer_of_write {data : Bytes} (h : l.write data = .ok l') : l.isOpen = true ∧
    l' = answer { l with written := l.written ++ [data] } data := by
  unfold write at h
  split at h
  · cases h
  · split at h
    · cases h
    · rename_i hopen _
      cases h
      exact ⟨by simpa using hopen, rfl⟩

/-- A write is answered by the echo and by the next of the planned replies. -/
theorem arrived_write {data : Bytes} (h : l.write data = .ok l') :
    l'.arrived = l.arrived ++ l.sentBack data := by
  obtain ⟨hopen, rfl⟩ := eq_answer_of_write h
  rw [answer_eq, arrived_performAll (by exact hopen)]
  unfold arrived echoed sentBack
  cases l.echoes <;> simp

/-- A write to the line succeeds. -/
def accepts (l : Line) : Bool := l.isOpen && !l.refusesWrites

theorem write_cases (l : Line) (data : Bytes) :
    (l.accepts = true ∧ ∃ l', l.write data = .ok l') ∨
      (l.accepts = false ∧ ∃ fault, l.write data = .error fault) := by
  unfold accepts write
  cases l.isOpen <;> cases l.refusesWrites <;> simp

/-- **What is written is received** as it is, after all that was written before. -/
theorem received_write {data : Bytes} (h : l.write data = .ok l') :
    l'.received = l.received ++ data := by
  obtain ⟨-, rfl⟩ := eq_answer_of_write h
  rw [answer_eq, received_performAll]
  unfold received echoed
  rw [List.flatten_append, List.flatten_singleton]

end DialUp.Line
