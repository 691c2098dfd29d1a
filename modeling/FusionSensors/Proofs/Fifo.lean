/-
# FusionSensors.Proofs.Fifo -- which command an event comes from

Events are numbered by the place of the command by which the pipe accepted
them, and again by that of the command which returned them. The pipe is a
queue: what is returned is the beginning of what was accepted, in the same
order, and every event is accepted by an earlier command than the one that
returns it (`returned_recorded`).
-/
import FusionSensors.Proofs.Isolation

namespace FusionSensors.Hub

set_option autoImplicit false

/-- The events that some commands return, each with the place of its command,
numbered from a place on. -/
def returned (hub : Hub) : Nat → List (Int × Command) → List (Nat × Event)
  | _, [] => []
  | place, (now, command) :: rest =>
    (hub.perform now command).value.2.taken.map (place, ·) ++
      (hub.perform now command).value.1.returned (place + 1) rest

/-- The events that the pipe accepts during some commands, numbered likewise. -/
def recorded (hub : Hub) : Nat → List (Int × Command) → List (Nat × Event)
  | _, [] => []
  | place, (now, command) :: rest =>
    (hub.accepted now command).map (place, ·) ++
      (hub.perform now command).value.1.recorded (place + 1) rest

/-- An event was recorded by the command at its place, performed by the hub of
that moment. -/
theorem mem_recorded {hub : Hub} {place : Nat} {commands : List (Int × Command)} {call : Nat}
    {event : Event} (listed : (call, event) ∈ hub.recorded place commands) :
    ∃ steps now command, call = place + steps ∧ commands[steps]? = some (now, command) ∧
      event ∈ (hub.run (commands.take steps)).accepted now command := by
  induction commands generalizing hub place with
  | nil => cases listed
  | cons entry rest ih =>
      obtain ⟨now, command⟩ := entry
      rcases List.mem_append.1 listed with here | later
      · obtain ⟨accepted, within, same⟩ := List.mem_map.1 here
        cases same
        exact ⟨0, now, command, rfl, rfl, within⟩
      · obtain ⟨steps, next, other, rfl, found, within⟩ := ih later
        exact ⟨steps + 1, next, other, by omega, found, within⟩

/-- Only a poll returns events. -/
theorem Effect.taken {hub after : Hub} {now : Int} {command : Command} {reply : Reply}
    (effect : hub.Effect now command after reply) (unpolled : ∀ max, command ≠ .poll max) :
    reply.taken = [] := by
  cases effect with
  | refused | registered | provided | switched | paced | flushed | delivered => rfl
  | polled max => exact absurd rfl (unpolled max)

/-- A command that returns events writes none. -/
theorem taken_or_accepted (hub : Hub) (now : Int) (command : Command) :
    (hub.perform now command).value.2.taken = [] ∨ hub.accepted now command = [] := by
  cases command with
  | poll max => exact .inr rfl
  | register | registerProvider | switch | setPeriod | flush | deliver =>
      exact .inl ((hub.perform_effect now _).taken (by simp))

/-- **The pipe is a queue**: each event is returned after it was accepted, and in
the order in which it was. -/
theorem returned_recorded {hub : Hub} (fit : hub.Fit) {commands : List (Int × Command)}
    (controls : ∀ entry ∈ commands, entry.2.Controls) {place : Nat} {queued : List (Nat × Event)}
    (waiting : queued.map Prod.snd = hub.pipe.queue) (earlier : ∀ entry ∈ queued, entry.1 < place) :
    ∃ front, front <+: queued ++ hub.recorded place commands ∧
      List.Forall₂ (fun got origin => origin.1 < got.1 ∧ got.2 = origin.2)
        (hub.returned place commands) front := by
  induction commands generalizing hub place queued with
  | nil => exact ⟨[], List.nil_prefix, .nil⟩
  | cons entry rest ih =>
      obtain ⟨now, command⟩ := entry
      have control : command.Controls := controls (now, command) List.mem_cons_self
      have onward : ∀ entry ∈ rest, entry.2.Controls :=
        fun later within => controls later (List.mem_cons_of_mem _ within)
      -- what waits when the command has written, and before anything is taken
      have line : (queued ++ (hub.accepted now command).map (place, ·)).map Prod.snd =
          (hub.perform now command).value.2.taken ++
            (hub.perform now command).value.1.pipe.queue := by
        rw [hub.perform_stream now command fit.forwards, List.map_append, waiting, List.map_map]
        simp [Function.comp_def]
      obtain ⟨gone, left, split, taken, stays⟩ := List.map_eq_append_iff.1 line
      have before : ∀ entry ∈ gone, entry.1 < place := by
        rcases hub.taken_or_accepted now command with none | none
        · rw [none, List.map_eq_nil_iff] at taken
          simp [taken]
        · rw [none, List.map_nil, List.append_nil] at split
          intro entry listed
          exact earlier entry (split ▸ List.mem_append_left left listed)
      have tags : ∀ entry ∈ left, entry.1 < place + 1 := by
        intro entry listed
        have placed : entry ∈ queued ++ (hub.accepted now command).map (place, ·) :=
          split ▸ List.mem_append_right gone listed
        rcases List.mem_append.1 placed with old | new
        · have before := earlier entry old
          omega
        · obtain ⟨event, -, rfl⟩ := List.mem_map.1 new
          exact Nat.lt_succ_self place
      obtain ⟨front, ahead, matched⟩ := ih (fit.perform now control) onward stays tags
      refine ⟨gone ++ front, ?_, ?_⟩
      · rw [recorded, ← List.append_assoc, split, List.append_assoc]
        exact (List.prefix_append_right_inj gone).2 ahead
      · rw [returned, ← taken, List.map_map]
        refine List.rel_append ?_ matched
        rw [List.forall₂_map_left_iff]
        exact List.forall₂_same.2 fun origin listed => ⟨before origin listed, rfl⟩

end FusionSensors.Hub
