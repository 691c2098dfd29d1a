/-
# FusionSensors.Proofs.Closing -- a pipe whose ends are dropped in any order

A pipe is held by its owner, who keeps one end of each kind, by a reader and by
a writer. An end is closed once nobody who has one is left; since the owner has
both, dropping the reader or the writer alone closes nothing. Main statement,
`closing_protocol`: in whatever order they write, read and go, what was handed
out is the beginning of what was accepted and the rest is queued, a write fails
exactly for want of a read end or of room, and a waiting read exactly when it
has nothing left to wait for.
-/
import FusionSensors.Pipe
import Mathlib.Data.List.Basic

namespace FusionSensors.Pipe

set_option autoImplicit false

/-! ## Holders -/

/-- Who has ends of a pipe. -/
inductive Holder where
  | owner
  | reader
  | writer
  deriving DecidableEq, Repr

/-- A pipe, and which of its holders are left. -/
structure Shared where
  pipe : Pipe
  owner : Bool
  reader : Bool
  writer : Bool
  deriving DecidableEq, Repr

/-- What a holder may do. -/
inductive Act where
  | write (event : Event)
  | poll (max : Nat)
  | pollOne
  | drop (holder : Holder)
  deriving DecidableEq, Repr

/-- What comes of it. -/
inductive Outcome where
  | done
  | took (events : List Event)
  | refused (fault : Fault)
  /-- who would have done it is not left -/
  | gone
  deriving DecidableEq, Repr

/-- The events that were handed out. -/
def Outcome.taken : Outcome → List Event
  | .took events => events
  | _ => []

/-- The events that were accepted by an act, by what came of it. -/
def Act.accepted : Act → Outcome → List Event
  | .write event, .done => [event]
  | _, _ => []

namespace Shared

/-- A new pipe with all its holders. -/
def opened (capacity : Nat) : Shared :=
  ⟨(Pipe.bounded capacity).openReadEnd.openWriteEnd, true, true, true⟩

/-- Whoever goes closes the ends that it has, once. -/
def drop (shared : Shared) : Holder → Shared
  | .owner =>
    if shared.owner then
      { shared with owner := false, pipe := shared.pipe.closeReadEnd.closeWriteEnd }
    else shared
  | .reader =>
    if shared.reader then { shared with reader := false, pipe := shared.pipe.closeReadEnd }
    else shared
  | .writer =>
    if shared.writer then { shared with writer := false, pipe := shared.pipe.closeWriteEnd }
    else shared

/-- One act: the writer writes, the reader reads. -/
def perform (shared : Shared) : Act → Shared × Outcome
  | .write event =>
    if shared.writer then
      match shared.pipe.write event with
      | .ok pipe => ({ shared with pipe }, .done)
      | .error fault => (shared, .refused fault)
    else (shared, .gone)
  | .poll max =>
    if shared.reader then
      ({ shared with pipe := (shared.pipe.poll max).2 }, .took (shared.pipe.poll max).1)
    else (shared, .gone)
  | .pollOne =>
    if shared.reader then
      match shared.pipe.pollOne with
      | .ok (event, pipe) => ({ shared with pipe }, .took event.toList)
      | .error fault => (shared, .refused fault)
    else (shared, .gone)
  | .drop holder => (shared.drop holder, .done)

/-- The pipe and its holders after some acts. -/
def run (shared : Shared) (acts : List Act) : Shared :=
  acts.foldl (fun shared act => (shared.perform act).1) shared

/-- The events that were accepted during some acts. -/
def accepted (shared : Shared) : List Act → List Event
  | [] => []
  | act :: rest => act.accepted (shared.perform act).2 ++ (shared.perform act).1.accepted rest

/-- The events that were handed out during some acts. -/
def handedOut (shared : Shared) : List Act → List Event
  | [] => []
  | act :: rest => (shared.perform act).2.taken ++ (shared.perform act).1.handedOut rest

/-- Somebody is left who could read. -/
def Readable (shared : Shared) : Prop := shared.owner ∨ shared.reader

/-- Somebody is left who could write. -/
def Writable (shared : Shared) : Prop := shared.owner ∨ shared.writer

instance (shared : Shared) : Decidable shared.Readable := inferInstanceAs (Decidable (_ ∨ _))

instance (shared : Shared) : Decidable shared.Writable := inferInstanceAs (Decidable (_ ∨ _))

/-! ## The ends of a pipe are those of its holders -/

/-- The open ends are the ends of the holders that are left, and the queue is
within the capacity. -/
structure Counted (capacity : Nat) (shared : Shared) : Prop where
  sized : shared.pipe.capacity = capacity
  room : shared.pipe.queue.length ≤ capacity
  readEnds : shared.pipe.readEnds = shared.owner.toNat + shared.reader.toNat
  writeEnds : shared.pipe.writeEnds = shared.owner.toNat + shared.writer.toNat

theorem Counted.opened (capacity : Nat) : Counted capacity (.opened capacity) where
  sized := rfl
  room := Nat.zero_le _
  readEnds := rfl
  writeEnds := rfl

section Step

variable {capacity : Nat} {shared : Shared}

theorem Counted.readEnds_eq_zero (counted : Counted capacity shared) :
    shared.pipe.readEnds = 0 ↔ ¬shared.Readable := by
  rw [counted.readEnds, Readable]
  cases shared.owner <;> cases shared.reader <;> decide

theorem Counted.writeEnds_eq_zero (counted : Counted capacity shared) :
    shared.pipe.writeEnds = 0 ↔ ¬shared.Writable := by
  rw [counted.writeEnds, Writable]
  cases shared.owner <;> cases shared.writer <;> decide

/-- A pipe with another queue that fits is counted as before. -/
theorem Counted.requeue (counted : Counted capacity shared) {queue : List Event}
    (fits : queue.length ≤ capacity) :
    Counted capacity { shared with pipe := { shared.pipe with queue } } where
  sized := counted.sized
  room := fits
  readEnds := counted.readEnds
  writeEnds := counted.writeEnds

theorem Counted.taking (counted : Counted capacity shared) (count : Nat) :
    Counted capacity
      { shared with pipe := { shared.pipe with queue := shared.pipe.queue.drop count } } := by
  have room := counted.room
  exact counted.requeue (by rw [List.length_drop]; omega)

theorem Counted.drop (counted : Counted capacity shared) (holder : Holder) :
    Counted capacity (shared.drop holder) := by
  obtain ⟨sized, room, reads, writes⟩ := counted
  obtain ⟨pipe, owner, reader, writer⟩ := shared
  cases holder with
  | owner =>
      cases owner
      · exact ⟨sized, room, reads, writes⟩
      · refine ⟨sized, room, ?_, ?_⟩ <;> simp_all [Shared.drop, closeReadEnd, closeWriteEnd]
  | reader =>
      cases reader
      · exact ⟨sized, room, reads, writes⟩
      · refine ⟨sized, room, ?_, writes⟩
        simp_all [Shared.drop, closeReadEnd]
  | writer =>
      cases writer
      · exact ⟨sized, room, reads, writes⟩
      · refine ⟨sized, room, reads, ?_⟩
        simp_all [Shared.drop, closeWriteEnd]

theorem drop_queue (shared : Shared) (holder : Holder) :
    (shared.drop holder).pipe.queue = shared.pipe.queue := by
  cases holder <;> simp only [Shared.drop] <;> split <;> rfl

/-! ## One act -/

/-- A write is refused for want of a read end first, then for want of room. -/
theorem Counted.write (counted : Counted capacity shared) (present : shared.writer) (event : Event) :
    shared.perform (.write event) =
      if ¬shared.Readable then (shared, .refused .pipeClosed)
      else if shared.pipe.queue.length = capacity then (shared, .refused .pipeFull)
      else ({ shared with pipe := { shared.pipe with queue := shared.pipe.queue ++ [event] } },
        .done) := by
  have full : shared.pipe.capacity ≤ shared.pipe.queue.length ↔
      shared.pipe.queue.length = capacity := by
    have sized := counted.sized
    have room := counted.room
    omega
  rw [perform, if_pos present, Pipe.write]
  by_cases readable : shared.Readable
  · have ends := mt counted.readEnds_eq_zero.1 (not_not_intro readable)
    rw [if_neg ends, if_neg (not_not_intro readable)]
    by_cases filled : shared.pipe.queue.length = capacity
    · rw [if_pos (full.2 filled), if_pos filled]
    · rw [if_neg (mt full.1 filled), if_neg filled]
  · rw [if_pos (counted.readEnds_eq_zero.2 readable), if_pos readable]

theorem Counted.write_iff (counted : Counted capacity shared) (present : shared.writer)
    (event : Event) :
    ((shared.perform (.write event)).2 = .refused .pipeClosed ↔ ¬shared.Readable) ∧
      ((shared.perform (.write event)).2 = .refused .pipeFull ↔
        shared.Readable ∧ shared.pipe.queue.length = capacity) ∧
      ((shared.perform (.write event)).2 = .done ↔
        shared.Readable ∧ shared.pipe.queue.length ≠ capacity) := by
  rw [counted.write present]
  by_cases readable : shared.Readable
  · by_cases full : shared.pipe.queue.length = capacity <;> simp [readable, full]
  · simp [readable]

theorem perform_poll (present : shared.reader) (max : Nat) :
    shared.perform (.poll max) =
      ({ shared with pipe := { shared.pipe with queue := shared.pipe.queue.drop max } },
        .took (shared.pipe.queue.take max)) := by
  rw [perform, if_pos present]
  rfl

/-- A waiting read is refused where there is nothing to wait for. -/
theorem Counted.pollOne (counted : Counted capacity shared) (present : shared.reader) :
    shared.perform .pollOne =
      if shared.pipe.queue = [] ∧ ¬shared.Writable then (shared, .refused .pipeClosed)
      else ({ shared with pipe := { shared.pipe with queue := shared.pipe.queue.drop 1 } },
        .took (shared.pipe.queue.take 1)) := by
  have ends := counted.writeEnds_eq_zero
  obtain ⟨⟨size, queue, writeEnds, readEnds⟩, owner, reader, writer⟩ := shared
  rw [perform, if_pos present, Pipe.pollOne]
  cases queue with
  | nil =>
      by_cases closed : writeEnds = 0
      · dsimp only
        rw [if_pos closed, if_pos ⟨rfl, ends.1 closed⟩]
      · dsimp only
        rw [if_neg closed, if_neg fun nothing => closed (ends.2 nothing.2)]
        rfl
  | cons event rest => simp

theorem Counted.waitClosed_iff (counted : Counted capacity shared) (present : shared.reader) :
    (shared.perform .pollOne).2 = .refused .pipeClosed ↔
      shared.pipe.queue = [] ∧ ¬shared.Writable := by
  rw [counted.pollOne present]
  split
  · exact iff_of_true rfl ‹_›
  · exact iff_of_false nofun ‹_›

/-- An act that hands nothing out and accepts nothing. -/
theorem stream_idle {act : Act} {outcome : Outcome} (taken : outcome.taken = [])
    (accepted : act.accepted outcome = []) (queue : List Event) :
    outcome.taken ++ queue = queue ++ act.accepted outcome := by
  rw [taken, accepted, List.nil_append, List.append_nil]

/-- What an act hands out comes off the queue at its front, and what it accepts
goes onto it at its end. -/
theorem Counted.perform_stream (counted : Counted capacity shared) (act : Act) :
    Counted capacity (shared.perform act).1 ∧
      (shared.perform act).2.taken ++ (shared.perform act).1.pipe.queue =
        shared.pipe.queue ++ act.accepted (shared.perform act).2 := by
  cases act with
  | write event =>
      by_cases present : shared.writer
      · rw [counted.write present]
        have room := counted.room
        split
        · exact ⟨counted, stream_idle rfl rfl _⟩
        · split
          · exact ⟨counted, stream_idle rfl rfl _⟩
          · exact ⟨counted.requeue (by simp; omega), rfl⟩
      · rw [perform, if_neg present]
        exact ⟨counted, stream_idle rfl rfl _⟩
  | poll max =>
      by_cases present : shared.reader
      · rw [perform_poll present]
        exact ⟨counted.taking max, (List.take_append_drop max _).trans (List.append_nil _).symm⟩
      · rw [perform, if_neg present]
        exact ⟨counted, stream_idle rfl rfl _⟩
  | pollOne =>
      by_cases present : shared.reader
      · rw [counted.pollOne present]
        split
        · exact ⟨counted, stream_idle rfl rfl _⟩
        · exact ⟨counted.taking 1, (List.take_append_drop 1 _).trans (List.append_nil _).symm⟩
      · rw [perform, if_neg present]
        exact ⟨counted, stream_idle rfl rfl _⟩
  | drop holder =>
      refine ⟨counted.drop holder, ?_⟩
      rw [perform, drop_queue]
      exact stream_idle rfl rfl _

end Step

/-! ## Runs -/

theorem Counted.run_stream {capacity : Nat} {shared : Shared} (counted : Counted capacity shared)
    (acts : List Act) :
    Counted capacity (shared.run acts) ∧
      shared.handedOut acts ++ (shared.run acts).pipe.queue =
        shared.pipe.queue ++ shared.accepted acts := by
  induction acts generalizing shared with
  | nil => exact ⟨counted, (List.append_nil _).symm⟩
  | cons act rest ih =>
      obtain ⟨next, here⟩ := counted.perform_stream act
      obtain ⟨last, later⟩ := ih next
      refine ⟨last, ?_⟩
      calc (shared.perform act).2.taken ++ (shared.perform act).1.handedOut rest ++
            ((shared.perform act).1.run rest).pipe.queue
          = (shared.perform act).2.taken ++ ((shared.perform act).1.pipe.queue ++
              (shared.perform act).1.accepted rest) := by rw [List.append_assoc, later]
        _ = shared.pipe.queue ++ (act.accepted (shared.perform act).2 ++
              (shared.perform act).1.accepted rest) := by
            rw [← List.append_assoc, here, List.append_assoc]

/-- What holds of a pipe that accepted some events and handed out others. -/
structure Obeys (capacity : Nat) (accepted handedOut : List Event) (shared : Shared) : Prop where
  /-- events are handed out in the order in which they were accepted -/
  inOrder : handedOut <+: accepted
  /-- and while somebody could read the others are queued -/
  queued : shared.Readable → handedOut ++ shared.pipe.queue = accepted
  within : shared.pipe.queue.length ≤ capacity
  /-- a write is refused when nobody could read it -/
  writeClosed : shared.writer → ∀ event,
    ((shared.perform (.write event)).2 = .refused .pipeClosed ↔ ¬shared.Readable)
  /-- and otherwise when the queue is full -/
  writeFull : shared.writer → ∀ event,
    ((shared.perform (.write event)).2 = .refused .pipeFull ↔
      shared.Readable ∧ shared.pipe.queue.length = capacity)
  /-- and for no other reason -/
  writeDone : shared.writer → ∀ event,
    ((shared.perform (.write event)).2 = .done ↔
      shared.Readable ∧ shared.pipe.queue.length ≠ capacity)
  /-- a read takes what is queued, up to its limit -/
  polls : shared.reader → ∀ max,
    (shared.perform (.poll max)).2 = .took (shared.pipe.queue.take max)
  /-- a waiting read is refused when nothing is queued and nobody could write -/
  waitClosed : shared.reader →
    ((shared.perform .pollOne).2 = .refused .pipeClosed ↔
      shared.pipe.queue = [] ∧ ¬shared.Writable)
  /-- and otherwise takes the oldest event, if there is one -/
  waitTook : shared.reader → ¬(shared.pipe.queue = [] ∧ ¬shared.Writable) →
    (shared.perform .pollOne).2 = .took (shared.pipe.queue.take 1)
  /-- so that it is refused only when everything was handed out -/
  lastFirst : shared.reader → (shared.perform .pollOne).2 = .refused .pipeClosed →
    handedOut = accepted

/-- **The ends of a pipe close with their last holder**, in whatever order its
owner, its reader and its writer act and go; capacity zero is no exception. -/
theorem closing_protocol (capacity : Nat) (acts : List Act) :
    Obeys capacity ((opened capacity).accepted acts) ((opened capacity).handedOut acts)
      ((opened capacity).run acts) := by
  obtain ⟨counted, stream⟩ := (Counted.opened capacity).run_stream acts
  exact {
    inOrder := ⟨_, stream⟩
    queued := fun _ => stream
    within := counted.room
    writeClosed := fun present event => (counted.write_iff present event).1
    writeFull := fun present event => (counted.write_iff present event).2.1
    writeDone := fun present event => (counted.write_iff present event).2.2
    polls := fun present max => by rw [perform_poll present]
    waitClosed := counted.waitClosed_iff
    waitTook := fun present waits => by rw [counted.pollOne present, if_neg waits]
    lastFirst := fun present closed => by
      rw [((counted.waitClosed_iff present).1 closed).1, List.append_nil] at stream
      exact stream }

end Shared

end FusionSensors.Pipe
