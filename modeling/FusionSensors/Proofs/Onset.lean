/-
# FusionSensors.Proofs.Onset -- when a sensor was enabled

A node that is enabled remembers the reading of the clock at which its session
began. Main statement, `enabled_since`: in a run that adds no sensors this is
the reading at the last command that enabled it, and it has been enabled since.
-/
import FusionSensors.Proofs.Isolation
import Mathlib.Data.List.Induction

namespace FusionSensors

set_option autoImplicit false

/-- The handle of a node and the time at which its session began. -/
def Node.onset (node : Node) : Int × Option Int := (node.handle, node.session.map Session.since)

theorem Node.cycle_onset {σ : Type} [Outlet σ] (node : Node) (outlet : σ) (sample : Sample) :
    (node.cycle outlet sample).value.1.onset = node.onset := by
  obtain ⟨output, stats, framed⟩ := cycle_frame node outlet sample
  have since : ((node.receive sample).sessionAfter sample.period).map Session.since =
      node.session.map Session.since := by
    unfold sessionAfter
    split
    · rw [warmedUp, Option.map_map]
      rfl
    · rfl
  rw [framed, onset, since]
  rfl

namespace Hub

/-- Whether the sensor with a handle is enabled. -/
def enabled (hub : Hub) (handle : Int) : Bool := (hub.node? handle).any Node.isEnabled

/-- In a run a sensor was last enabled at a reading of the clock: it was not
enabled before, and has been after every command from that one on. -/
def EnabledSince (start : Hub) (handle : Int) (commands : List (Int × Command)) (since : Int) :
    Prop :=
  ∃ before after, commands = before ++ (since, .switch handle true) :: after ∧
    (start.run before).enabled handle = false ∧
    ∀ part, part <+: after →
      (start.run (before ++ (since, .switch handle true) :: part)).enabled handle = true

/-- A session that is there after a node was switched was there before, or begins now. -/
theorem switch_onset {node : Node} {on : Bool} {now : Int} {session : Session}
    (begun : (node.switch on now).value.session = some session) :
    node.session = some session ∨ (node.session = none ∧ on = true ∧ session.since = now) := by
  rw [Node.switch_value] at begun
  split at begun
  · exact .inl begun
  · rename_i changed
    cases on with
    | false => cases begun
    | true =>
        cases begun
        have off : node.isEnabled = false := Bool.eq_false_iff.2 fun enabled => changed enabled.symm
        exact .inr ⟨by simpa [Node.isEnabled] using off, rfl, rfl⟩

/-- A session that is there after a command was there before, or the command
began it. -/
theorem Effect.onset {hub after : Hub} {now : Int} {command : Command} {reply : Reply}
    (effect : hub.Effect now command after reply) (distinct : (hub.nodes.map Node.handle).Nodup)
    (controls : command.Controls) {node : Node} (listed : node ∈ after.nodes) {session : Session}
    (begun : node.session = some session) :
    ∃ old ∈ hub.nodes, old.handle = node.handle ∧
      (old.session.map Session.since = some session.since ∨
        (old.session = none ∧ command = .switch node.handle true ∧ session.since = now)) := by
  have stayed : after.nodes.map Node.onset = hub.nodes.map Node.onset →
      ∃ old ∈ hub.nodes, old.handle = node.handle ∧
        (old.session.map Session.since = some session.since ∨
          (old.session = none ∧ command = .switch node.handle true ∧ session.since = now)) := by
    intro same
    obtain ⟨old, known, alike⟩ := exists_alike same listed
    have since : old.session.map Session.since = node.session.map Session.since :=
      congrArg Prod.snd alike
    exact ⟨old, known, congrArg Prod.fst alike, .inl (by rw [since, begun, Option.map_some])⟩
  cases effect with
  | registered | provided => exact controls.elim
  | refused | flushed | polled => exact stayed rfl
  | delivered source sample =>
      exact stayed (deliver_map Node.onset (fun node => node.cycle_onset) hub source sample)
  | @paced found handle period set known accepted =>
      have handle := Node.handle_eq_of_bare (Node.setPeriod_bare accepted)
      refine stayed (put_map distinct (node?_some known).1 handle Node.onset ?_)
      rw [(Node.setPeriod_ok accepted).2]
      rfl
  | @switched found paced handle on known ready =>
      obtain ⟨member, rfl⟩ := node?_some known
      have kept : paced.session = found.session ∧ paced.bare = found.bare := by
        rcases ready with ⟨-, rfl⟩ | ⟨-, set, accepted, rfl⟩
        · exact ⟨rfl, rfl⟩
        · rw [(Node.setPeriod_ok accepted).2]
          exact ⟨rfl, rfl⟩
      have named : (paced.switch on now).value.handle = found.handle :=
        Node.handle_eq_of_bare ((paced.switch_bare on now).trans kept.2)
      rw [put_nodes distinct member named] at listed
      obtain ⟨old, within, rfl⟩ := List.mem_map.1 listed
      by_cases here : old = found
      · subst here
        rw [if_pos rfl] at begun ⊢
        refine ⟨old, within, named.symm, ?_⟩
        rcases switch_onset begun with stays | ⟨none, rfl, since⟩
        · exact .inl (by rw [← kept.1, stays, Option.map_some])
        · exact .inr ⟨kept.1 ▸ none, by rw [named], since⟩
      · rw [if_neg here] at begun ⊢
        exact ⟨old, within, rfl, .inl (by rw [begun, Option.map_some])⟩

theorem enabled_of_session {hub : Hub} (distinct : (hub.nodes.map Node.handle).Nodup) {node : Node}
    (listed : node ∈ hub.nodes) : hub.enabled node.handle = node.session.isSome := by
  rw [enabled, node?_eq distinct listed, Option.any_some, Node.isEnabled]

/-- **A session began when its sensor was last enabled.** -/
theorem enabled_since {start : Hub} (fit : start.Fit)
    (off : ∀ node ∈ start.nodes, node.session = none) {commands : List (Int × Command)} (controls : ∀ entry ∈ commands, entry.2.Controls) {node : Node}
    (listed : node ∈ (start.run commands).nodes) {session : Session}
    (begun : node.session = some session) :
    start.EnabledSince node.handle commands session.since := by
  induction commands using List.reverseRecOn generalizing node session with
  | nil =>
      rw [off node listed] at begun
      cases begun
  | append_singleton before entry ih =>
      obtain ⟨now, command⟩ := entry
      have earlier : ∀ entry ∈ before, entry.2.Controls :=
        fun entry within => controls entry (List.mem_append_left _ within)
      have control : command.Controls :=
        controls (now, command) (List.mem_append_right _ List.mem_cons_self)
      have distinct := (fit.run earlier).sound.handles
      have still : (start.run (before ++ [(now, command)])).enabled node.handle = true := by
        rw [enabled_of_session (fit.run controls).sound.handles listed, begun]
        rfl
      have effect := (start.run before).perform_effect now command
      rw [run_concat] at listed
      obtain ⟨old, known, handle, onset⟩ := effect.onset distinct control listed begun
      rcases onset with stays | ⟨none, rfl, rfl⟩
      · obtain ⟨first, ongoing, since⟩ := Option.map_eq_some_iff.1 stays
        rw [← since, ← handle]
        obtain ⟨ahead, after, rfl, unset, enabling⟩ := ih earlier known ongoing
        refine ⟨ahead, after ++ [(now, command)], by simp, unset, ?_⟩
        intro part among
        rcases List.prefix_concat_iff.1 among with rfl | within
        · rw [← handle] at still
          simpa using still
        · exact enabling part within
      · refine ⟨before, [], rfl, ?_, ?_⟩
        · rw [← handle, enabled_of_session distinct known, none]
          rfl
        · intro part among
          rw [List.prefix_nil.1 among]
          exact still

end Hub

end FusionSensors
