/-
# FusionSensors.Proofs.Session -- which events of a session are reported

A session filters the events that it is offered three times: events from
before it began are dropped, then the first few of the others, and the gate
paces the rest. Main statement, `session_passes`: what a node writes in a
session, whatever else is asked of it there, is what its gate lets through when
it is reset and fed the offers that the first two filters leave. So no request
begins the warm-up anew or resets the gate, and an event that is too old takes
no part in either.
-/
import FusionSensors.Leaf
import FusionSensors.Proofs.Reachable

namespace FusionSensors

set_option autoImplicit false

/-! ## What the gate makes of a session -/

namespace Gate

/-- What reaches a gate: an event offered to it, with its place among all
requests, or the request of a period. -/
inductive Signal where
  | offer (place : Nat) (event : Event) (producer : Int)
  | request (period : Int)
  deriving DecidableEq, Repr

/-- Whether a signal is no event from before a time. -/
def Signal.timely (since : Int) : Signal → Bool
  | .offer _ event _ => since ≤ event.timestamp
  | .request _ => true

/-- Leaves out the first few offers. -/
def skip : Nat → List Signal → List Signal
  | _, [] => []
  | count, .request period :: rest => .request period :: skip count rest
  | 0, signal :: rest => signal :: skip 0 rest
  | count + 1, .offer _ _ _ :: rest => skip count rest

/-- The offers that a gate delivers, with their places. -/
def passes : Gate → List Signal → List (Nat × Event)
  | _, [] => []
  | gate, .request period :: rest => (gate.request period).passes rest
  | gate, .offer place event producer :: rest =>
    let (decision, after) := gate.offer event.timestamp producer
    if decision = .deliver then (place, event) :: after.passes rest else after.passes rest

end Gate

/-- A pipe that rejects no write. -/
def Pipe.Accepts (pipe : Pipe) : Prop := ∀ event, ∃ after, pipe.write event = .ok after

theorem Pipe.Accepts.write {pipe : Pipe} (accepts : pipe.Accepts) (event : Event) :
    pipe.write event = .ok { pipe with queue := pipe.queue ++ [event] } := by
  obtain ⟨after, written⟩ := accepts event
  obtain ⟨-, -, rfl⟩ := write_ok written
  exact written

namespace Node

/-! ## Requests -/

/-- What may be asked of a node in a session. -/
inductive Request where
  /-- sets the node's event and offers it -/
  | offer (event : Event) (producer : Int)
  | setPeriod (period : Int)
  | keepOutput (producer : Int)
  | flush (now : Int)
  /-- enables the node, which is enabled -/
  | enable (now : Int)
  | setWarmup (events : Nat)
  deriving DecidableEq, Repr

/-- What the gate is told of a request; a period that is refused goes nowhere. -/
def Request.signal? (descriptor : Descriptor) (place : Nat) : Request → Option Gate.Signal
  | .offer event producer => some (.offer place event producer)
  | .setPeriod period => if 0 < period then some (.request (descriptor.clampPeriod period)) else none
  | .keepOutput _ | .flush _ | .enable _ | .setWarmup _ => none

/-- What the gate is told of some requests, numbered from a place on. -/
def signals (descriptor : Descriptor) : Nat → List Request → List Gate.Signal
  | _, [] => []
  | place, request :: rest =>
    (request.signal? descriptor place).toList ++ signals descriptor (place + 1) rest

/-- Serves a request; one that is refused changes nothing. -/
def serve (node : Node) (pipe : Pipe) : Request → Node × Pipe
  | .offer event producer => ({ node with event := event }.offer pipe producer).value
  | .setPeriod period =>
    match node.setPeriod period with
    | .ok set => (set.value.1, pipe)
    | .error _ => (node, pipe)
  | .keepOutput producer => (node.keepOutput producer, pipe)
  | .flush now =>
    match node.flush pipe now with
    | .ok marked => (node, marked)
    | .error _ => (node, pipe)
  | .enable now => ((node.switch true now).value, pipe)
  | .setWarmup events => (node.setWarmup events, pipe)

/-- What an offer adds to the queue. -/
def Request.enters (request : Request) (before after : Pipe) : List Event :=
  match request with
  | .offer _ _ => after.queue.drop before.queue.length
  | _ => []

/-- The events that enter the pipe by the offers among some requests, with the
places of these. Each request comes with the pipe as it is then, since others
write and read in between. -/
def entering (node : Node) : Nat → List (Pipe × Request) → List (Nat × Event)
  | _, [] => []
  | place, (pipe, request) :: rest =>
    (request.enters pipe (node.serve pipe request).2).map (place, ·) ++
      entering (node.serve pipe request).1 (place + 1) rest

/-! ## One request -/

/-- What is asked of a node in a session, offers apart, changes nothing of it but
the period of its gate. -/
theorem serve_quiet {node : Node} {session : Session} (begun : node.session = some session)
    (pipe : Pipe) (place : Nat) {request : Request} (quiet : ∀ event producer, request ≠ .offer event producer) :
    (node.serve pipe request).1.session = some session ∧
      (node.serve pipe request).1.descriptor = node.descriptor ∧
      request.enters pipe (node.serve pipe request).2 = [] ∧
      ((request.signal? node.descriptor place = none ∧
          (node.serve pipe request).1.gate = node.gate) ∨
        ∃ period, request.signal? node.descriptor place = some (.request period) ∧
          (node.serve pipe request).1.gate = node.gate.request period) := by
  cases request with
  | offer event producer => exact absurd rfl (quiet event producer)
  | keepOutput | setWarmup => exact ⟨begun, rfl, rfl, .inl ⟨rfl, rfl⟩⟩
  | setPeriod period =>
      by_cases positive : 0 < period
      · obtain ⟨set, accepted, value⟩ := node.setPeriod_pos positive
        simp only [serve, accepted, value]
        exact ⟨begun, rfl, rfl, .inr ⟨_, if_pos positive, rfl⟩⟩
      · have refused : node.setPeriod period = .error (.invalidPeriod period) := by
          rw [setPeriod, if_pos (by omega)]
        have still : (node.serve pipe (.setPeriod period)).1 = node := by rw [serve, refused]
        rw [still]
        exact ⟨begun, rfl, rfl, .inl ⟨if_neg positive, rfl⟩⟩
  | flush now =>
      have still : (node.serve pipe (.flush now)).1 = node := by
        rw [serve]
        split <;> rfl
      rw [still]
      exact ⟨begun, rfl, rfl, .inl ⟨rfl, rfl⟩⟩
  | enable now =>
      have enabled : node.isEnabled = true := by rw [isEnabled, begun]; rfl
      have still : (node.serve pipe (.enable now)).1 = node := by
        rw [serve, switch_value, if_pos enabled.symm]
      rw [still]
      exact ⟨begun, rfl, rfl, .inl ⟨rfl, rfl⟩⟩

/-- The filters of a session on an offered event, in order: what gets through,
and the gate and the session afterwards. -/
def sift (gate : Gate) (session : Session) (event : Event) (producer : Int) :
    List Event × Gate × Session :=
  if event.timestamp < session.since then ([], gate, session)
  else
    match session.toDiscard with
    | count + 1 => ([], gate, { session with toDiscard := count })
    | 0 =>
      let (decision, after) := gate.offer event.timestamp producer
      (if decision = .deliver then [event] else [], after, session)

/-- In a session the verdict on an event, and gate and session after it, are what
the filters make of it. -/
theorem verdict_sift {node : Node} {session : Session} (begun : node.session = some session)
    (producer : Int) :
    (if node.verdict producer = .due then [node.event] else []) =
        (sift node.gate session node.event producer).1 ∧
      node.gateAfter producer = (sift node.gate session node.event producer).2.1 ∧
      node.sessionAfter producer = some (sift node.gate session node.event producer).2.2 := by
  obtain ⟨since, toDiscard⟩ := session
  unfold sift gateAfter sessionAfter
  by_cases early : node.event.timestamp < since
  · have outside : node.verdict producer = .outside := by simp [verdict, begun, early]
    simp [outside, early, begun]
  · cases toDiscard with
    | succ count =>
        have first : node.verdict producer = .warmingUp := by simp [verdict, begun, early]
        simp [first, early, warmedUp, begun]
    | zero =>
        cases decided : node.gate.decide node.event.timestamp producer with
        | deliver =>
            have due : node.verdict producer = .due := by simp [verdict, begun, early, decided]
            simp [due, early, begun, Gate.offer, decided]
        | decimated =>
            have undue : node.verdict producer = .decimated := by
              simp [verdict, begun, early, decided]
            simp [undue, early, begun, Gate.offer, decided]
        | stale =>
            have undue : node.verdict producer = .stale := by simp [verdict, begun, early, decided]
            simp [undue, early, begun, Gate.offer, decided]

/-- An offer adds to the queue what gets through the filters. -/
theorem serve_offer {node : Node} {session : Session} (begun : node.session = some session)
    {pipe : Pipe} (accepts : pipe.Accepts) (event : Event) (producer : Int) :
    (Request.offer event producer).enters pipe (node.serve pipe (.offer event producer)).2 =
        (sift node.gate session event producer).1 ∧
      (node.serve pipe (.offer event producer)).1.gate =
        (sift node.gate session event producer).2.1 ∧
      (node.serve pipe (.offer event producer)).1.session =
        some (sift node.gate session event producer).2.2 ∧
      (node.serve pipe (.offer event producer)).1.descriptor = node.descriptor := by
  have begun : { node with event := event }.session = some session := begun
  obtain ⟨through, gate, after⟩ := verdict_sift begun producer
  obtain ⟨stats, framed⟩ := offer_frame { node with event := event } pipe producer
  rw [← through, ← gate, ← after, serve, framed]
  refine ⟨?_, rfl, rfl, rfl⟩
  rw [Request.enters]
  split
  · rename_i due
    rw [offer_sent due rfl (accepts.write event), List.drop_left]
  · rename_i undue
    rw [offer_kept undue, List.drop_length]

/-- What the gate lets through of the offers that are left is what gets through
the filters, offer by offer. -/
theorem passes_sift (gate : Gate) (session : Session) (place : Nat) (event : Event) (producer : Int)
    (later : List Gate.Signal) :
    gate.passes (Gate.skip session.toDiscard
        ((.offer place event producer :: later).filter (·.timely session.since))) =
      (sift gate session event producer).1.map (place, ·) ++
        (sift gate session event producer).2.1.passes
          (Gate.skip (sift gate session event producer).2.2.toDiscard
            (later.filter (·.timely (sift gate session event producer).2.2.since))) := by
  obtain ⟨since, toDiscard⟩ := session
  unfold sift
  by_cases early : event.timestamp < since
  · have dropped : Gate.Signal.timely since (.offer place event producer) = false :=
      decide_eq_false (by omega)
    rw [List.filter_cons_of_neg (by simp [dropped]), if_pos early]
    rfl
  · have kept : Gate.Signal.timely since (.offer place event producer) = true :=
      decide_eq_true (by omega)
    rw [List.filter_cons_of_pos kept, if_neg early]
    cases toDiscard with
    | succ count => rfl
    | zero =>
        simp only [Gate.skip, Gate.passes]
        split <;> rfl

/-! ## A session -/

/-- In a session a node writes what its gate lets through of the offers that
are timely and come after the warm-up. -/
theorem entering_passes {node : Node} {session : Session} (begun : node.session = some session)
    {requests : List (Pipe × Request)} (accepting : ∀ entry ∈ requests, entry.1.Accepts)
    (place : Nat) :
    node.entering place requests =
      node.gate.passes (Gate.skip session.toDiscard
        ((signals node.descriptor place (requests.map Prod.snd)).filter
          (·.timely session.since))) := by
  induction requests generalizing node session place with
  | nil => rfl
  | cons entry rest ih =>
      obtain ⟨pipe, request⟩ := entry
      obtain ⟨accepts, others⟩ := List.forall_mem_cons.1 accepting
      by_cases quiet : ∀ event producer, request ≠ .offer event producer
      · obtain ⟨stays, descriptor, unentered, told⟩ := serve_quiet begun pipe place quiet
        have next := ih stays others (place + 1)
        rw [descriptor] at next
        rw [entering, List.map_cons, signals, unentered, List.map_nil, List.nil_append, next]
        rcases told with ⟨untold, gate⟩ | ⟨period, told, gate⟩
        · rw [untold, gate]
          rfl
        · rw [told, gate]
          rfl
      · simp only [ne_eq, not_forall, not_not] at quiet
        obtain ⟨event, producer, rfl⟩ := quiet
        obtain ⟨through, gate, after, descriptor⟩ := serve_offer begun accepts event producer
        have next := ih after others (place + 1)
        rw [descriptor, gate] at next
        have told : (Request.offer event producer).signal? node.descriptor place =
          some (.offer place event producer) := rfl
        rw [entering, List.map_cons, signals, told, Option.toList_some, List.singleton_append,
          through, next, passes_sift]

/-- What an offer leaves of a node that is not enabled. -/
structure Unmoved (before after : Node) : Prop where
  gate : after.gate = before.gate
  session : after.session = before.session
  warmup : after.warmup = before.warmup
  delivered : after.stats.delivered = before.stats.delivered
  decimated : after.stats.decimated = before.stats.decimated

theorem serve_disabled {node : Node} (off : node.isEnabled = false) (pipe : Pipe) (event : Event)
    (producer : Int) :
    node.Unmoved (node.serve pipe (.offer event producer)).1 ∧
      (node.serve pipe (.offer event producer)).2 = pipe := by
  have unbegun : node.session = none := by simpa [isEnabled] using off
  have outside : { node with event := event }.verdict producer = .outside := by
    simp [verdict, unbegun]
  have dropped : node.serve pipe (.offer event producer) =
      ({ node with
          event := event
          stats := (node.stats.countOffered producer).countDropped }, pipe) := by
    rw [serve, offer, outside, Logged.value_pure]
  rw [dropped]
  exact ⟨⟨rfl, rfl, rfl, rfl, rfl⟩, rfl⟩

/-- **A session is its gate, fed the timely offers after the warm-up.** Offers to
a node that is not enabled leave it and the pipe alone. -/
theorem session_passes {node : Node} (off : node.isEnabled = false) :
    (∀ (since : Int) (requests : List (Pipe × Request)), (∀ entry ∈ requests, entry.1.Accepts) →
      (node.switch true since).value.entering 0 requests =
        node.gate.reset.passes (Gate.skip node.warmup
          ((signals node.descriptor 0 (requests.map Prod.snd)).filter (·.timely since)))) ∧
    ∀ (pipe : Pipe) (event : Event) (producer : Int),
      node.Unmoved (node.serve pipe (.offer event producer)).1 ∧
        (node.serve pipe (.offer event producer)).2 = pipe := by
  refine ⟨?_, serve_disabled off⟩
  intro since requests accepting
  have begins : (node.switch true since).value =
      { node with gate := node.gate.reset, session := some ⟨since, node.warmup⟩ } := by
    rw [switch_value, off, if_neg (by decide)]
    rfl
  have begun : (node.switch true since).value.session = some ⟨since, node.warmup⟩ := by rw [begins]
  rw [entering_passes begun accepting 0, begins]

/-- A sensor that was enabled before: its gate remembers an event. -/
def worn : Node :=
  { Leaf.gravity.node "gravity" 1 with gate := ⟨300, some 900⟩, warmup := 1 }

/-- The sensor's event at a time. -/
def wornEvent (timestamp : Int) : Event := { worn.event with timestamp := timestamp }

/-- A session from 1000 on, in which the queue is read now and then. -/
def wornSession : List (Pipe × Request) :=
  [ (⟨2, [], 1, 1⟩, .offer (wornEvent 999) 100),
    (⟨2, [], 1, 1⟩, .offer (wornEvent 1000) 100),
    (⟨2, [], 1, 1⟩, .setWarmup 5),
    (⟨2, [], 1, 1⟩, .enable 1050),
    (⟨2, [], 1, 1⟩, .offer (wornEvent 1100) 100),
    (⟨2, [wornEvent 1100], 1, 1⟩, .offer (wornEvent 1200) 100),
    (⟨2, [wornEvent 1100], 1, 1⟩, .setPeriod 100),
    (⟨2, [wornEvent 1100], 1, 1⟩, .setPeriod 0),
    (⟨2, [wornEvent 1100], 1, 1⟩, .keepOutput 100),
    (⟨2, [wornEvent 1100], 1, 1⟩, .flush 1200),
    (⟨2, [.flushMark 1 1200], 1, 1⟩, .offer (wornEvent 1200) 100),
    (⟨2, [], 1, 1⟩, .offer (wornEvent 1200) 100) ]

/-- The gate forgets the event at 900, the one at 999 is no part of the warm-up,
and the next one is measured from that at 1100 after the period was changed. -/
theorem wornSession_passes : worn.isEnabled = false ∧ (∀ entry ∈ wornSession, entry.1.Accepts) ∧
    (worn.switch true 1000).value.entering 0 wornSession =
      worn.gate.reset.passes (Gate.skip worn.warmup
        ((signals worn.descriptor 0 (wornSession.map Prod.snd)).filter (·.timely 1000))) ∧
    (worn.switch true 1000).value.entering 0 wornSession =
      [(4, wornEvent 1100), (10, wornEvent 1200)] := by
  have accepting : ∀ entry ∈ wornSession, entry.1.Accepts := by
    simp [wornSession, Pipe.Accepts, Pipe.write]
  exact ⟨rfl, accepting, (session_passes rfl).1 1000 wornSession accepting, by decide⟩

end Node

end FusionSensors
