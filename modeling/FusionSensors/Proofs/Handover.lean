/-
# FusionSensors.Proofs.Handover -- events on their way to the host

A poll takes events out of the queue and makes a text of them, which is made
last: where that fails, the events are gone. Main statement, `polls_handOver`:
up to the next hub that is put in place, whatever fails in the host, the events
that polls take and the ones that are still queued are the accepted ones, in
order, each once; the answered texts are the pages of what was taken while a text
could be made. So nothing is lost exactly if no text failed while there was
something to take.
-/
import FusionSensors.Proofs.Calls

namespace FusionSensors.Binding

set_option autoImplicit false

/-! ## Events of a call -/

/-- The events in the queue. -/
def queue (binding : Binding) : List Event := binding.held.elim [] (·.pipe.queue)

/-- The events that the pipe accepts during a call. -/
def accepted (binding : Binding) (request : Request) : List Event :=
  binding.held.elim [] fun hub =>
    request.call.command.elim [] fun command => hub.accepted request.now command

/-- The events that a call takes out of the queue. -/
def drawn (binding : Binding) (request : Request) : List Event :=
  match request.call with
  | .poll max => binding.queue.take max.toNat
  | _ => []

/-- The events in the text that a poll answers, if it answers one. -/
def pages (binding : Binding) (request : Request) : List (List Event) :=
  match request.call with
  | .poll max => if max < 0 ∨ request.host.textFails then [] else [binding.queue.take max.toNat]
  | _ => []

/-- The text that a poll answers, if it answers one. -/
def texts (binding : Binding) (request : Request) : List String :=
  match request.call, (binding.outcome request).answer with
  | .poll _, .text value => [value]
  | _, _ => []

/-- What each of a sequence of calls contributes, in order. -/
def gather {α : Type} (of : Binding → Request → List α) (binding : Binding) : List Request → List α
  | [] => []
  | request :: rest => of binding request ++ gather of (binding.after request) rest

/-- A call that puts another hub in place. -/
def Call.Replaces : Call → Prop
  | .init argument => ∃ config, configOf argument = .ok config
  | _ => False

theorem Call.modest_of_keeps {call : Call} (keeps : ¬ call.Replaces) : call.Modest := by
  cases call with
  | init argument => exact fun config read => absurd ⟨config, read⟩ keeps
  | push | enable | setPeriod | flush | poll | list | time => trivial

/-! ## What a call takes and what it answers -/

section Call

variable {binding : Binding} {hub : Hub} (found : binding.held = some hub)

include found

theorem queue_eq : binding.queue = hub.pipe.queue := by
  rw [queue, found, Option.elim_some]

/-- What a call takes is what its command takes. -/
theorem drawn_eq {request : Request} {command : Hub.Command}
    (asks : request.call.command = some command) :
    binding.drawn request = (hub.perform request.now command).value.2.taken := by
  by_cases polls : ∃ count, command = .poll count
  · obtain ⟨count, rfl⟩ := polls
    obtain ⟨max, call, rfl⟩ := Call.command_poll asks
    rw [drawn, call, queue_eq found]
    rfl
  · have unpolled : ∀ count, command ≠ .poll count := fun count same => polls ⟨count, same⟩
    rw [(hub.perform_effect request.now command).taken unpolled, drawn]
    split
    · rename_i max call
      rw [call] at asks
      exact absurd (Call.poll_asks asks).2 (unpolled _)
    · rfl

end Call

/-- What a call takes and what it leaves in the queue is what was there and what
was accepted. -/
theorem drawn_queue {binding : Binding} (reachable : binding.Reachable) {request : Request}
    (keeps : ¬ request.call.Replaces) :
    binding.drawn request ++ (binding.after request).queue =
      binding.queue ++ binding.accepted request := by
  obtain ⟨hub, found⟩ := binding.exists_held
  obtain ⟨later, left, effect⟩ := perform_effect found request.host request.now request.call
  have remaining : (binding.after request).queue = later.pipe.queue := queue_eq left
  rw [remaining, queue_eq found, accepted, found, Option.elim_some]
  have quiet : request.call.command = none → later = hub → binding.drawn request = [] →
      binding.drawn request ++ later.pipe.queue = hub.pipe.queue ++
        request.call.command.elim [] fun command => hub.accepted request.now command := by
    rintro unasked rfl none
    rw [none, unasked]
    exact (List.append_nil _).symm
  obtain ⟨host, now, call⟩ := request
  generalize (binding.perform host now call).value.2 = outcome at effect
  cases effect with
  | asked asks =>
      have asks : call.command = some _ := asks
      rw [drawn_eq found asks, asks]
      exact hub.perform_stream now _ (reachable.plain found).fit.forwards
  | installed read built => exact absurd ⟨_, read⟩ keeps
  | unread | listed | timed => exact quiet rfl rfl rfl
  | uncopied copy | interrupted copy => exact quiet (by rw [Call.command, copy]) rfl rfl
  | @negative max negative =>
      refine quiet (if_pos negative) rfl ?_
      show binding.queue.take max.toNat = []
      rw [Int.toNat_of_nonpos (Int.le_of_lt negative), List.take_zero]

/-- A poll answers the page of the events that it takes, if a text can be made. -/
theorem texts_eq (binding : Binding) (request : Request) :
    binding.texts request = (binding.pages request).map page := by
  obtain ⟨hub, found⟩ := binding.exists_held
  obtain ⟨host, now, call⟩ := request
  cases call with
  | init | push | enable | setPeriod | flush | list | time => rfl
  | poll max =>
      obtain ⟨later, left, effect⟩ := perform_effect found host now (.poll max)
      rw [texts, pages, outcome, queue_eq found]
      generalize (binding.perform host now (.poll max)).value.2 = outcome at effect ⊢
      cases effect with
      | negative negative =>
          simp [Host.refuse, negative]
      | asked asks =>
          obtain ⟨nonnegative, rfl⟩ := Call.poll_asks asks
          have reply : (hub.perform now (.poll max.toNat)).value.2 =
              .events (hub.pipe.queue.take max.toNat) := rfl
          rw [reply, Host.handOver, Host.textOutcome]
          cases fails : host.textFails <;> simp [nonnegative, Host.refuse]

/-- The text of a poll shows what it takes, or nothing if it cannot be made. -/
theorem flatten_pages (binding : Binding) (request : Request) :
    (binding.pages request).flatten =
      if request.host.textFails then [] else binding.drawn request := by
  obtain ⟨host, now, call⟩ := request
  cases call with
  | init | push | enable | setPeriod | flush | list | time => cases host.textFails <;> rfl
  | poll max =>
      rw [pages, drawn]
      cases host.textFails with
      | true => simp
      | false =>
          by_cases negative : max < 0
          · simp [negative, Int.toNat_of_nonpos (Int.le_of_lt negative)]
          · simp [negative]

/-! ## Sequences of calls -/

section Gather

variable {α β : Type}

theorem gather_congr {f g : Binding → Request → List α}
    (same : ∀ binding request, f binding request = g binding request) (binding : Binding)
    (requests : List Request) : gather f binding requests = gather g binding requests := by
  induction requests generalizing binding with
  | nil => rfl
  | cons request rest ih => rw [gather, gather, same, ih]

theorem gather_map (f : Binding → Request → List α) (h : α → β) (binding : Binding)
    (requests : List Request) :
    gather (fun binding request => (f binding request).map h) binding requests =
      (gather f binding requests).map h := by
  induction requests generalizing binding with
  | nil => rfl
  | cons request rest ih => rw [gather, gather, ih, List.map_append]

theorem gather_flatten (f : Binding → Request → List (List α)) (binding : Binding)
    (requests : List Request) :
    (gather f binding requests).flatten =
      gather (fun binding request => (f binding request).flatten) binding requests := by
  induction requests generalizing binding with
  | nil => rfl
  | cons request rest ih => rw [gather, gather, List.flatten_append, ih]

theorem gather_sublist {f g : Binding → Request → List α}
    (part : ∀ binding request, (f binding request).Sublist (g binding request)) (binding : Binding)
    (requests : List Request) :
    (gather f binding requests).Sublist (gather g binding requests) := by
  induction requests generalizing binding with
  | nil => exact .slnil
  | cons request rest ih => exact (part binding request).append (ih _)

/-- Where each call contributes a part, the whole is the same only if each part is. -/
theorem gather_eq_iff {f g : Binding → Request → List α}
    (part : ∀ binding request, (f binding request).Sublist (g binding request)) (binding : Binding)
    (requests : List Request) :
    gather f binding requests = gather g binding requests ↔
      ∀ before request rest, requests = before ++ request :: rest →
        f (binding.run before) request = g (binding.run before) request := by
  induction requests generalizing binding with
  | nil => simp [gather]
  | cons first others ih =>
      constructor
      · intro same before request rest split
        -- lengths add up, so none of the two parts is shorter
        have lengths := congrArg List.length same
        rw [gather, gather, List.length_append, List.length_append] at lengths
        have least := (part binding first).length_le
        have later := (gather_sublist part (binding.after first) others).length_le
        cases before with
        | nil =>
            obtain ⟨rfl, rfl⟩ := List.cons.inj split
            exact (part binding first).eq_of_length (by omega)
        | cons head middle =>
            obtain ⟨rfl, rfl⟩ := List.cons.inj split
            have tail := (gather_sublist part (binding.after first) _).eq_of_length
              (Nat.le_antisymm later (by omega))
            exact (ih (binding.after first)).1 tail middle request rest rfl
      · intro same
        have head : f binding first = g binding first := same [] first others rfl
        have tail := (ih (binding.after first)).2 fun before request rest split =>
          same (first :: before) request rest (by rw [split]; rfl)
        rw [gather, gather, head, tail]

end Gather

/-- Over any number of calls, what is taken and what is still queued is what was
queued and what was accepted. -/
theorem run_queue {start : Binding} (reachable : start.Reachable) {requests : List Request}
    (keeps : ∀ request ∈ requests, ¬ request.call.Replaces) :
    gather drawn start requests ++ (start.run requests).queue =
      start.queue ++ gather accepted start requests := by
  induction requests generalizing start with
  | nil => exact (List.append_nil _).symm
  | cons request rest ih =>
      obtain ⟨first, later⟩ := List.forall_mem_cons.1 keeps
      have onward := ih (.after reachable (Call.modest_of_keeps first)) later
      rw [gather, gather, List.append_assoc]
      show drawn start request ++ (gather drawn _ rest ++ ((start.after request).run rest).queue) = _
      rw [onward, ← List.append_assoc, drawn_queue reachable first, List.append_assoc]

/-! ## The theorem -/

/-- What polls hand over to the host in a sequence of calls. -/
structure HandsOver (start : Binding) (requests : List Request) : Prop where
  /-- every accepted event is taken once, in order, or still queued -/
  taken : gather drawn start requests ++ (start.run requests).queue =
    start.queue ++ gather accepted start requests
  /-- the answered texts are those of the pages -/
  shown : gather texts start requests = (gather pages start requests).map page
  /-- every accepted event is on one page, in order, or still queued, unless a
  text could not be made after something was taken for it -/
  complete : (gather pages start requests).flatten ++ (start.run requests).queue =
      start.queue ++ gather accepted start requests ↔
    ∀ before request rest, requests = before ++ request :: rest → request.host.textFails = true →
      drawn (start.run before) request = []

/-- **Polls hand over all events but those of a text that could not be made.** -/
theorem polls_handOver {start : Binding} (reachable : start.Reachable) {requests : List Request}
    (keeps : ∀ request ∈ requests, ¬ request.call.Replaces) : HandsOver start requests := by
  have taken := run_queue reachable keeps
  constructor
  case taken => exact taken
  case shown => rw [gather_congr texts_eq, gather_map]
  case complete =>
      have part : ∀ binding request, ((pages binding request).flatten).Sublist (drawn binding request) := by
        intro binding request
        rw [flatten_pages]
        split
        · exact List.nil_sublist _
        · exact .refl _
      rw [← taken, List.append_left_inj, gather_flatten, gather_eq_iff part]
      refine forall_congr' fun before => forall_congr' fun request => forall_congr' fun rest =>
        forall_congr' fun split => ?_
      rw [flatten_pages]
      cases request.host.textFails with
      | false => simp
      | true => exact ⟨fun same _ => same.symm, fun none => (none rfl).symm⟩

/-- A push of four equal values. -/
def pushAt (timestamp : Int) : Request :=
  { call := .push (.array 4 (some (List.replicate 4 ⟨0x3F000000⟩))) timestamp 200000000 }

/-- A sensor is enabled and fed twice. Texts cannot be made, but only when nothing
is taken; a poll for less than nothing and an `init` with no text are refused. -/
def patientPolls : List Request :=
  [ { call := .enable 1 1 },
    { host := { textFails := true }, call := .poll 5 },
    pushAt 100,
    { host := { textFails := true }, call := .poll 0 },
    { call := .init .otherClass },
    pushAt 200000100,
    { call := .poll 1 },
    { host := { throwFails := true }, call := .poll (-1) },
    { call := .flush 1 },
    { call := .poll 5 },
    { host := { textFails := true, throwFails := true }, call := .poll 5 } ]

/-- All three events are handed over. -/
theorem patientPolls_handOver : Reachable fresh ∧ (∀ request ∈ patientPolls, ¬ request.call.Replaces) ∧
    HandsOver fresh patientPolls ∧
    (gather pages fresh patientPolls).map (·.map fun event => (event.content, event.timestamp)) =
      [[(.data, 100)], [(.data, 200000100), (.flushComplete, 0)]] ∧
    (gather pages fresh patientPolls).flatten = gather accepted fresh patientPolls := by
  have keeps : ∀ request ∈ patientPolls, ¬ request.call.Replaces := by
    simp [patientPolls, pushAt, Call.Replaces, configOf]
  exact ⟨.fresh, keeps, polls_handOver .fresh keeps, by decide, by decide⟩

/-- A sensor is enabled and fed, and the text of the first poll cannot be made. -/
def untoldPoll : List Request :=
  [ { call := .enable 1 1 },
    pushAt 1000000000000000,
    { host := { textFails := true }, call := .poll 16 },
    { call := .poll 16 } ]

/-- The poll answers null and yet takes the event, which no text ever shows. -/
theorem untoldPoll_loses : Reachable fresh ∧ (∀ request ∈ untoldPoll, ¬ request.call.Replaces) ∧
    ((fresh.run (untoldPoll.take 2)).queue).length = 1 ∧
    ((fresh.run (untoldPoll.take 2)).outcome ⟨{ textFails := true }, 0, .poll 16⟩).answer = .null ∧
    ((fresh.run (untoldPoll.take 3)).queue).length = 0 ∧
    (gather pages fresh untoldPoll).flatten ++ (fresh.run untoldPoll).queue ≠
      fresh.queue ++ gather accepted fresh untoldPoll := by
  have keeps : ∀ request ∈ untoldPoll, ¬ request.call.Replaces := by
    simp [untoldPoll, pushAt, Call.Replaces]
  exact ⟨.fresh, keeps, by decide, by decide, by decide, by decide⟩

end FusionSensors.Binding
