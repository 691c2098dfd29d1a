/-
# FusionSensors.Pipe -- the queue between sensors and the application

A pipe is a bounded queue, first in, first out, with counted write and read
ends. A write needs an open read end and room; a waiting read of an empty pipe
fails once no write end is open. Events that are queued can still be read
then.
-/
import FusionSensors.Event
import FusionSensors.Fault

namespace FusionSensors

set_option autoImplicit false

/-- A bounded queue of events, oldest first. -/
structure Pipe where
  capacity : Nat
  queue : List Event
  writeEnds : Nat
  readEnds : Nat
  deriving DecidableEq, Repr

namespace Pipe

/-- A new pipe, one end of each kind open. -/
def bounded (capacity : Nat) : Pipe := ⟨capacity, [], 1, 1⟩

/-! ## Ends -/

def openWriteEnd (pipe : Pipe) : Pipe := { pipe with writeEnds := pipe.writeEnds + 1 }

def openReadEnd (pipe : Pipe) : Pipe := { pipe with readEnds := pipe.readEnds + 1 }

def closeWriteEnd (pipe : Pipe) : Pipe := { pipe with writeEnds := pipe.writeEnds - 1 }

def closeReadEnd (pipe : Pipe) : Pipe := { pipe with readEnds := pipe.readEnds - 1 }

/-! ## Writing and reading -/

/-- Appends an event. Nobody waits at a pipe without room, so a pipe of
capacity zero takes no event at all. -/
def write (pipe : Pipe) (event : Event) : Except Fault Pipe :=
  if pipe.readEnds = 0 then .error .pipeClosed
  else if pipe.capacity ≤ pipe.queue.length then .error .pipeFull
  else .ok { pipe with queue := pipe.queue ++ [event] }

/-- Takes up to `max` events, oldest first. -/
def poll (pipe : Pipe) (max : Nat) : List Event × Pipe :=
  (pipe.queue.take max, { pipe with queue := pipe.queue.drop max })

/-- Takes the oldest event, and waits in vain for one if there is none. -/
def pollOne (pipe : Pipe) : Except Fault (Option Event × Pipe) :=
  match pipe.queue with
  | event :: rest => .ok (some event, { pipe with queue := rest })
  | [] => if pipe.writeEnds = 0 then .error .pipeClosed else .ok (none, pipe)

end Pipe

/-- A place where a node's events go. -/
class Outlet (σ : Type) where
  /-- Whether anything is connected. -/
  connected : σ → Bool
  /-- Hands an event over. -/
  send : σ → Event → Except Fault σ

instance : Outlet Pipe where
  connected _ := true
  send := Pipe.write

/-- A node that has not been connected yet has no pipe. -/
instance : Outlet (Option Pipe) where
  connected := Option.isSome
  send
    | none, _ => .error .pipeClosed
    | some pipe, event => (pipe.write event).map some

end FusionSensors
