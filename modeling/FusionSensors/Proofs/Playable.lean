/-
# FusionSensors.Proofs.Playable -- a replay fails before it prints

A replay fails on a configuration or a recording that cannot be used, on
nothing to replay, and on a period that is not positive if there is a sensor to
request it of (`Unplayable`). Main statement, `run_failsFirst`: it fails on
nothing else, however it prints, and when it fails it has printed nothing.
-/
import FusionSensors.Proofs.Printing

namespace FusionSensors

set_option autoImplicit false

/-! ## Files that cannot be used -/

/-- What is wrong with the file of a configuration. -/
inductive Config.Unusable (file : File) : Prop
  | unreadable (reason : String) (untold : file.text = .error reason)
  | malformed (text : String) (defect : Json.Defect) (told : file.text = .ok text)
      (unread : Json.Reader.whole schema.read text = .error defect)
  | invalid (text : String) (config : Config) (told : file.text = .ok text)
      (read : Json.Reader.whole schema.read text = .ok config)
      (unfit : ¬ (0 < config.pipeCapacity ∧ 0 < config.defaultPeriod ∧ config.handles.Nodup))

theorem Config.load_fails {path : String} {file : File} :
    (∃ fault, Config.load path file = .error fault) ↔ Config.Unusable file := by
  constructor
  · rintro ⟨fault, failed⟩
    rw [load] at failed
    cases told : file.text with
    | error reason => exact .unreadable reason told
    | ok text =>
        rw [told] at failed
        cases read : Json.Reader.whole schema.read text with
        | error defect => exact .malformed text defect told read
        | ok config =>
            refine .invalid text config told read fun fit => ?_
            simp only [ofText, read, Hub.validate_iff.2 fit] at failed
            cases failed
  · intro unusable
    cases unusable with
    | unreadable reason untold => exact ⟨_, by rw [load, untold]⟩
    | malformed text defect told unread =>
        refine ⟨.config (.malformed defect), ?_⟩
        simp only [load, told, ofText, unread]
    | invalid text config told read unfit =>
        cases valid : config.validate with
        | ok _ => exact absurd (Hub.validate_iff.1 valid) unfit
        | error fault =>
            refine ⟨fault, ?_⟩
            simp only [load, told, ofText, read, valid]
            rfl

namespace Replay

/-- What is wrong with a line of a recording. -/
inductive BadLine : Option String → Prop
  | undecoded : BadLine none
  | malformed (text : String) (defect : Json.Defect)
      (filled : Text.isBlankLine text.toList = false)
      (unread : Json.Reader.whole Record.schema.read text = .error defect) : BadLine (some text)
  | tooLong (text : String) (record : Record) (filled : Text.isBlankLine text.toList = false)
      (read : Json.Reader.whole Record.schema.read text = .ok record)
      (long : 16 < record.values.length) : BadLine (some text)

/-- What is wrong with the file of a recording. -/
inductive Unloadable : File → Prop
  | absent (reason : String) : Unloadable (.absent reason)
  | unreadable (reason : String) : Unloadable (.unreadable reason)
  | line (bytes : ByteArray) (line : Option String) (listed : line ∈ Text.fileLines bytes)
      (bad : BadLine line) : Unloadable (.content bytes)

theorem Record.sample_fails {record : Record} :
    (∃ fault, record.sample = .error fault) ↔ 16 < record.values.length := by
  rw [Record.sample, Sample.ofValues, show Payload.capacity = 16 from rfl]
  split
  · exact ⟨fun _ => ‹_›, fun _ => ⟨_, rfl⟩⟩
  · refine ⟨?_, fun long => absurd long ‹_›⟩
    rintro ⟨fault, failed⟩
    cases failed

theorem sampleOfLine_fails {path : String} {number : Nat} {text : String} :
    (∃ failure, sampleOfLine path number text = .error failure) ↔ BadLine (some text) := by
  constructor
  · rintro ⟨failure, failed⟩
    rw [sampleOfLine] at failed
    cases blank : Text.isBlankLine text.toList with
    | true =>
        rw [blank] at failed
        cases failed
    | false =>
        cases read : Json.Reader.whole Record.schema.read text with
        | error defect => exact .malformed text defect blank read
        | ok record =>
            refine .tooLong text record blank read (Record.sample_fails.1 ?_)
            rw [blank, read] at failed
            cases made : record.sample with
            | error fault => exact ⟨fault, rfl⟩
            | ok sample =>
                simp only [made] at failed
                cases failed
  · intro bad
    cases bad with
    | malformed _ defect filled unread =>
        refine ⟨.badLine path number defect, ?_⟩
        simp [sampleOfLine, filled, unread]
    | tooLong _ record filled read long =>
        obtain ⟨fault, refused⟩ := Record.sample_fails.2 long
        refine ⟨.refused fault, ?_⟩
        simp [sampleOfLine, filled, read, refused]

/-- A recording cannot be loaded exactly if one of its lines is bad. -/
theorem samplesOfLines_fails {path : String} {number : Nat} {lines : List (Option String)} :
    (∃ failure, samplesOfLines path number lines = .error failure) ↔ ∃ line ∈ lines, BadLine line := by
  induction lines generalizing number with
  | nil => simp [samplesOfLines]
  | cons line rest ih =>
      cases line with
      | none => exact ⟨fun _ => ⟨none, List.mem_cons_self, .undecoded⟩, fun _ => ⟨_, rfl⟩⟩
      | some text =>
          have first := @sampleOfLine_fails path number text
          have members : (∃ line ∈ some text :: rest, BadLine line) ↔
              BadLine (some text) ∨ ∃ line ∈ rest, BadLine line := by simp
          rw [samplesOfLines, members, ← first, ← @ih (number + 1)]
          cases sampleOfLine path number text with
          | error failure => exact ⟨fun _ => .inl ⟨failure, rfl⟩, fun _ => ⟨failure, rfl⟩⟩
          | ok sample =>
              cases samplesOfLines path (number + 1) rest with
              | error failure => exact ⟨fun _ => .inr ⟨failure, rfl⟩, fun _ => ⟨failure, rfl⟩⟩
              | ok samples => simp [bind, Except.bind, pure, Except.pure]

theorem loadRecords_fails {path : String} {file : File} :
    (∃ failure, loadRecords path file = .error failure) ↔ Unloadable file := by
  cases file with
  | absent reason => exact ⟨fun _ => .absent reason, fun _ => ⟨_, rfl⟩⟩
  | unreadable reason => exact ⟨fun _ => .unreadable reason, fun _ => ⟨_, rfl⟩⟩
  | content bytes =>
      rw [loadRecords, samplesOfLines_fails]
      constructor
      · rintro ⟨line, listed, bad⟩
        exact .line bytes line listed bad
      · rintro ⟨⟩
        exact ⟨_, ‹_›, ‹_›⟩

/-! ## Replays that fail -/

/-- What makes a replay fail. -/
inductive Unplayable (arguments : Arguments) (files : String → File) : Prop
  | configuration (path : String) (given : arguments.config = some path)
      (unusable : Config.Unusable (files path))
  | nothing (unrecorded : arguments.input = none) (unasked : arguments.synthetic = none)
  | recording (path : String) (given : arguments.input = some path)
      (unloadable : Unloadable (files path))
  | period (period : Int) (asked : arguments.delay = some period) (small : period ≤ 0)
      (config : Config) (configured : configFor arguments files = .ok config)
      (sensors : config.sensors ≠ [])

theorem configFor_fails {arguments : Arguments} {files : String → File} :
    (∃ failure, configFor arguments files = .error failure) ↔
      ∃ path, arguments.config = some path ∧ Config.Unusable (files path) := by
  rw [configFor]
  cases given : arguments.config with
  | none => simp
  | some path =>
      have loads := @Config.load_fails path (files path)
      simp only [Option.some.injEq, exists_eq_left', ← loads]
      cases Config.load path (files path) <;> simp [Except.mapError]

theorem samplesFor_fails {arguments : Arguments} {files : String → File} :
    (∃ failure, samplesFor arguments files = .error failure) ↔
      (arguments.input = none ∧ arguments.synthetic = none) ∨
        ∃ path, arguments.input = some path ∧ Unloadable (files path) := by
  rw [samplesFor]
  cases given : arguments.input with
  | none => cases arguments.synthetic <;> simp
  | some path => simp [loadRecords_fails]

/-- A step that is only an answer goes on with it. -/
theorem answer_bind {α β : Type} {answer : Except Failure α} {a : α} (done : answer = .ok a)
    (next : α → Step β) :
    ExceptT.run (ExceptT.mk (pure answer) >>= next) = (next a).run := by
  rw [done]
  rfl

theorem step_fails {α β : Type} {first : Step α} {next : α → Step β} {failure : Failure}
    (failed : first.run.value = .error failure) : (first >>= next).run.value = .error failure := by
  rw [ExceptT.run_bind, Logged.value_bind, failed]
  rfl

section Replays

variable {arguments : Arguments} {files : String → File}

/-- A replay that has readied its sensors has nothing left that fails. -/
theorem run_lines {config : Config} {samples : List Sample} {logged : Logged Hub} {ready : Hub}
    (configured : configFor arguments files = .ok config)
    (recorded : samplesFor arguments files = .ok samples)
    (built : Hub.ofConfig config = .ok logged)
    (enabled : (enableAll arguments.delay (config.sensors.map LeafEntry.handle) logged.value).run.value =
      .ok ready) :
    (run arguments files).run.value = .ok ((replaySamples samples ready).value.2.map Event.line) := by
  rw [run, answer_bind configured, answer_bind recorded, step_bind (step_value built),
    step_bind enabled]
  rfl

/-- A replay whose configuration can be used, whose samples can be had and
whose period is positive, if there is a sensor to request it of, succeeds. -/
theorem run_succeeds (playable : ¬ Unplayable arguments files) :
    ∃ lines, (run arguments files).run.value = .ok lines := by
  cases configured : configFor arguments files with
  | error failure =>
      obtain ⟨path, given, unusable⟩ := configFor_fails.1 ⟨failure, configured⟩
      exact absurd (.configuration path given unusable) playable
  | ok config =>
      cases recorded : samplesFor arguments files with
      | error failure =>
          rcases samplesFor_fails.1 ⟨failure, recorded⟩ with ⟨unrecorded, unasked⟩ | ⟨path, given, bad⟩
          · exact absurd (.nothing unrecorded unasked) playable
          · exact absurd (.recording path given bad) playable
      | ok samples =>
          obtain ⟨logged, built, -⟩ := Hub.ofConfig_accepts (configFor_valid configured)
          by_cases sensors : config.sensors = []
          · have enabled : (enableAll arguments.delay (config.sensors.map LeafEntry.handle)
                logged.value).run.value = .ok logged.value := by
              rw [sensors]
              rfl
            exact ⟨_, run_lines configured recorded built enabled⟩
          · have asked : ∀ period ∈ arguments.delay, 0 < period := by
              intro period requested
              by_contra small
              exact playable (.period period requested (by omega) config configured sensors)
            obtain ⟨ready, enabled, -⟩ := enableAll_inStep asked built
            exact ⟨_, run_lines configured recorded built enabled⟩

theorem run_fails (unplayable : Unplayable arguments files) :
    ∃ failure, (run arguments files).run.value = .error failure := by
  have unconfigured : ∀ failure, configFor arguments files = .error failure →
      (run arguments files).run.value = .error failure :=
    fun failure failed => step_fails failed
  have unrecorded : ∀ failure, samplesFor arguments files = .error failure →
      ∃ failure, (run arguments files).run.value = .error failure := by
    intro failure failed
    cases configured : configFor arguments files with
    | error other => exact ⟨other, unconfigured other configured⟩
    | ok config =>
        rw [run, answer_bind configured]
        exact ⟨failure, step_fails failed⟩
  cases unplayable with
  | configuration path given unusable =>
      obtain ⟨failure, failed⟩ := configFor_fails.2 ⟨path, given, unusable⟩
      exact ⟨failure, unconfigured failure failed⟩
  | nothing noInput noCount =>
      obtain ⟨failure, failed⟩ := samplesFor_fails.2 (.inl ⟨noInput, noCount⟩)
      exact unrecorded failure failed
  | recording path given unloadable =>
      obtain ⟨failure, failed⟩ := samplesFor_fails.2 (.inr ⟨path, given, unloadable⟩)
      exact unrecorded failure failed
  | period period asked small config configured sensors =>
      cases recorded : samplesFor arguments files with
      | error failure => exact unrecorded failure recorded
      | ok samples =>
          obtain ⟨logged, built, -⟩ := Hub.ofConfig_accepts (configFor_valid configured)
          obtain ⟨entry, rest, listed⟩ := List.exists_cons_of_ne_nil sensors
          rw [run, answer_bind configured, answer_bind recorded, step_bind (step_value built)]
          cases enabled : (enableAll arguments.delay (config.sensors.map LeafEntry.handle)
              logged.value).run.value with
          | error failure => exact ⟨failure, step_fails enabled⟩
          | ok ready =>
              rw [listed, List.map_cons] at enabled
              have positive := enableAll_asked enabled period asked
              omega

end Replays

/-- How a replay fails, if it does. -/
structure FailsFirst (arguments : Arguments) (files : String → File) : Prop where
  /-- what is printed on the way is what is answered in the end -/
  agrees : (playInPlace arguments files).outcome [] =
    Printing.afterwards [] <$> (run arguments files).run
  fails : (∃ failure, ((playInPlace arguments files).outcome []).value.1 = .error failure) ↔
    Unplayable arguments files
  /-- nothing is printed by a replay that fails -/
  unprinted : ∀ failure, ((playInPlace arguments files).outcome []).value.1 = .error failure →
    ((playInPlace arguments files).outcome []).value.2 = []

/-- **A replay fails before it prints**, and on nothing but what is wrong with
its files and arguments. -/
theorem run_failsFirst (arguments : Arguments) (files : String → File) :
    FailsFirst arguments files := by
  have agrees := playInPlace_outcome arguments files
  have value : ((playInPlace arguments files).outcome []).value =
      Printing.afterwards [] (run arguments files).run.value := by
    rw [agrees, Logged.value_map]
  constructor
  case agrees => exact agrees
  case fails =>
      rw [value]
      constructor
      · rintro ⟨failure, failed⟩
        by_contra playable
        obtain ⟨lines, done⟩ := run_succeeds playable
        rw [done] at failed
        cases failed
      · intro unplayable
        obtain ⟨failure, failed⟩ := run_fails unplayable
        exact ⟨failure, by rw [failed]; rfl⟩
  case unprinted =>
      intro failure failed
      rw [value] at failed ⊢
      cases answer : (run arguments files).run.value with
      | error other => rfl
      | ok lines =>
          rw [answer] at failed
          cases failed

end Replay

end FusionSensors
