/-
# FusionSensors.Proofs.RoundTrip -- a configuration and the page written of it

A configuration that was read from a text is written as a page and read again.
Its integers fit their members, because reading checked them, so they come
back; so do its texts, with whatever characters, and its list of sensors.

The three numbers of the provider come back only where they are finite. A
literal beyond the range of its member is read as an infinity, and no check
refuses that; an infinity is written as `null`, and the page is then refused.
-/
import FusionSensors.Proofs.Reachable
import FusionSensors.Proofs.Records

namespace FusionSensors

set_option autoImplicit false

open Json

/-! ## Ranges -/

/-- A number of 32 bits. -/
def InInt32 (n : Int) : Prop := -2147483648 ≤ n ∧ n ≤ 2147483647

instance (n : Int) : Decidable (InInt32 n) :=
  inferInstanceAs (Decidable (-2147483648 ≤ n ∧ n ≤ 2147483647))

theorem int32_recovers {n : Int} (inside : InInt32 n) : Format.int32.Recovers n (.ok n) :=
  Format.integer_recovers "i32" inside.1 inside.2 (Int.le_trans (by decide) inside.1)
    (Int.lt_of_le_of_lt inside.2 (by decide))

theorem int64_recovers {n : Int} (least : -9223372036854775808 ≤ n) (greatest : n ≤ 9223372036854775807) :
    Format.int64.Recovers n (.ok n) :=
  Format.integer_recovers "i64" least greatest least
    (Int.lt_of_le_of_lt greatest (by decide))

theorem nat32_recovers {n : Nat} (greatest : n ≤ UInt32.size - 1) : Format.nat32.Recovers n (.ok n) :=
  Format.natural_recovers "u32" greatest (Nat.lt_of_le_of_lt greatest (by decide))

theorem size_recovers {n : Nat} (greatest : n ≤ UInt64.size - 1) : Format.size.Recovers n (.ok n) :=
  Format.natural_recovers "usize" greatest (Nat.lt_of_le_of_lt greatest (by decide))

/-- What is read where a number that is not finite was written. -/
def notFinite : Defect := .wrongKind .null "f32"

namespace LeafEntry

/-- The numbers of an entry fit their members. -/
def Fits (entry : LeafEntry) : Prop := InInt32 entry.handle

instance (entry : LeafEntry) : Decidable entry.Fits :=
  inferInstanceAs (Decidable (InInt32 entry.handle))

theorem schema_fits : Reader.Yields schema.read Fits := by
  refine Schema.read_yields (fun member inside => ?_) (by decide)
  simp only [schema, List.mem_cons, List.not_mem_nil, or_false] at inside
  rcases inside with rfl | rfl | rfl
  · exact Member.of_keeps (.any _) fun _ _ _ fits => fits
  · exact Member.of_keeps (Reader.integer_yields _ _ _) fun _ _ inside _ => inside
  · exact Member.of_keeps (.any _) fun _ _ _ fits => fits

theorem schema_recovers {entry : LeafEntry} (fits : entry.Fits) :
    schema.format.Recovers entry (.ok entry) :=
  schema.format_recovers entry (by decide)
    (.cons (Member.of_recovers (Format.text_recovers _))
      (.cons (Member.of_recovers (int32_recovers fits))
        (.cons (Member.of_recovers (Format.variants_recovers (by cases entry.leaf <;> rfl))) .nil)))

end LeafEntry

namespace FusionEntry

/-- The numbers of an entry fit their members. -/
structure Fits (fusion : FusionEntry) : Prop where
  handle : InInt32 fusion.handle
  minDelay : InInt32 fusion.minDelay
  maxDelay : InInt32 fusion.maxDelay

theorem schema_fits : Reader.Yields schema.read Fits := by
  refine Schema.read_yields (fun member inside => ?_) ⟨by decide, by decide, by decide⟩
  simp only [schema, List.mem_cons, List.not_mem_nil, or_false] at inside
  rcases inside with rfl | rfl | rfl | rfl | rfl | rfl | rfl
  · exact Member.of_keeps (.any _) fun _ _ _ fits => { fits with }
  · exact Member.of_keeps (Reader.integer_yields _ _ _) fun _ _ inside fits =>
      { fits with handle := inside }
  · exact Member.of_keeps (.any _) fun _ _ _ fits => { fits with }
  · exact Member.of_keeps (.any _) fun _ _ _ fits => { fits with }
  · exact Member.of_keeps (.any _) fun _ _ _ fits => { fits with }
  · exact Member.of_keeps (Reader.integer_yields _ _ _) fun _ _ inside fits =>
      { fits with minDelay := inside }
  · exact Member.of_keeps (Reader.integer_yields _ _ _) fun _ _ inside fits =>
      { fits with maxDelay := inside }

/-- The numbers that may have no literal. -/
def floats (fusion : FusionEntry) : List Single := [fusion.maxRange, fusion.resolution, fusion.power]

theorem schema_recovers {fusion : FusionEntry} (fits : fusion.Fits)
    (restored : ∀ x ∈ fusion.floats, x.isFinite = true → x.Restored) :
    schema.format.Recovers fusion
      (if fusion.floats.all Single.isFinite then .ok fusion else .error notFinite) := by
  have recovers := schema.format_recovers fusion (by decide)
    (.cons (Member.of_recovers (Format.text_recovers _))
      (.cons (Member.of_recovers (int32_recovers fits.handle))
        (.cons (Member.of_recovers (Format.single_recovers (restored fusion.maxRange (by simp [floats]))))
          (.cons (Member.of_recovers (Format.single_recovers (restored fusion.resolution (by simp [floats]))))
            (.cons (Member.of_recovers (Format.single_recovers (restored fusion.power (by simp [floats]))))
              (.cons (Member.of_recovers (int32_recovers fits.minDelay))
                (.cons (Member.of_recovers (int32_recovers fits.maxDelay)) .nil)))))))
  convert recovers using 1
  -- the three numbers have the same defect, so it does not matter which is the first
  simp only [floats, List.all_cons, List.all_nil, Bool.and_true, Bool.and_eq_true]
  cases fusion.maxRange.isFinite <;> cases fusion.resolution.isFinite <;> cases fusion.power.isFinite <;> rfl

end FusionEntry

namespace Config

/-- The numbers of a configuration fit their members. -/
structure Fits (config : Config) : Prop where
  pipeCapacity : config.pipeCapacity ≤ UInt64.size - 1
  warmup : config.warmup ≤ UInt32.size - 1
  defaultPeriod : -9223372036854775808 ≤ config.defaultPeriod ∧ config.defaultPeriod ≤ 9223372036854775807
  fusion : config.fusion.Fits
  sensors : ∀ entry ∈ config.sensors, entry.Fits

theorem schema_fits : Reader.Yields schema.read Fits := by
  refine Schema.read_yields (fun member inside => ?_)
    ⟨by decide, by decide, by decide, ⟨by decide, by decide, by decide⟩, by decide⟩
  simp only [schema, List.mem_cons, List.not_mem_nil, or_false] at inside
  rcases inside with rfl | rfl | rfl | rfl | rfl | rfl
  · exact Member.of_keeps (.any _) fun _ _ _ fits => { fits with }
  · exact Member.of_keeps (Format.natural_yields _ _) fun _ _ inside fits =>
      { fits with pipeCapacity := inside }
  · exact Member.of_keeps (Format.natural_yields _ _) fun _ _ inside fits =>
      { fits with warmup := inside }
  · exact Member.of_keeps (Reader.integer_yields _ _ _) fun _ _ inside fits =>
      { fits with defaultPeriod := inside }
  · exact Member.of_keeps FusionEntry.schema_fits fun _ _ inside fits =>
      { fits with fusion := inside }
  · exact Member.of_keeps (Reader.list_yields LeafEntry.schema_fits) fun _ _ inside fits =>
      { fits with sensors := inside }

theorem schema_recovers {config : Config} (fits : config.Fits)
    (restored : ∀ x ∈ config.fusion.floats, x.isFinite = true → x.Restored) :
    schema.format.Recovers config
      (if config.fusion.floats.all Single.isFinite then .ok config else .error notFinite) := by
  have recovers := schema.format_recovers config (by decide)
    (.cons (Member.of_recovers (Format.text_recovers config.vendor))
      (.cons (Member.of_recovers (size_recovers fits.pipeCapacity))
        (.cons (Member.of_recovers (nat32_recovers fits.warmup))
          (.cons (Member.of_recovers (int64_recovers fits.defaultPeriod.1 fits.defaultPeriod.2))
            (.cons (Member.of_recovers (FusionEntry.schema_recovers fits.fusion restored))
              (.cons (Member.of_recovers (Format.list_recovers (fun _ _ => LeafEntry.schema.opens _)
                fun entry inside => LeafEntry.schema_recovers (fits.sensors entry inside))) .nil))))))
  convert recovers using 1
  cases config.fusion.floats.all Single.isFinite <;> rfl

theorem ofText_fits {text : String} {config : Config} (accepted : ofText text = .ok config) :
    config.Fits := by
  have read := (Hub.ofText_ok accepted).1
  rw [Reader.whole] at read
  split at read
  · rename_i a rest found
    split at read
    · cases read
      exact schema_fits _ _ _ found
    · cases read
  · cases read

/-- What is read of a page, before the check of the whole. -/
theorem read_page {config : Config} (fits : config.Fits)
    (restored : ∀ x ∈ config.fusion.floats, x.isFinite = true → x.Restored) :
    Reader.whole schema.read config.page =
      if config.fusion.floats.all Single.isFinite then .ok config else .error notFinite :=
  schema.format.whole_page (schema_recovers fits restored)

/-- **The page of a configuration that was accepted reads back as the same configuration, or is
refused: refused exactly where a number of the provider is not finite.** The digits of finite
numbers are taken to read back. -/
theorem ofText_page {text : String} {config : Config} (accepted : ofText text = .ok config)
    (restored : ∀ x ∈ config.fusion.floats, x.isFinite = true → x.Restored) :
    ofText config.page =
      if config.fusion.floats.all Single.isFinite then .ok config
      else .error (.config (.malformed (.wrongKind .null "f32"))) := by
  rw [ofText, read_page (ofText_fits accepted) restored]
  by_cases finite : config.fusion.floats.all Single.isFinite = true
  · rw [if_pos finite, if_pos finite]
    dsimp only
    rw [(Hub.ofText_ok accepted).2]
    rfl
  · rw [if_neg finite, if_neg finite]
    rfl

/-- A name with a quote and a control, a number without an exact binary form, the least handle. -/
def oddText : String :=
  "\x7b\"fusion\":\x7b\"name\":\"\\\"\\u0007\",\"max_range\":0.1,\"handle\":-2147483648\x7d,\"sensors\":[]\x7d"

def odd : Config :=
  { fusion := { name := "\"\x07", maxRange := ⟨0x3DCCCCCD⟩, handle := -2147483648 }, sensors := [] }

theorem ofText_page_odd : ofText oddText = .ok odd ∧
    (∀ x ∈ odd.fusion.floats, x.isFinite = true → x.Restored) ∧ ofText odd.page = .ok odd :=
  have accepted : ofText oddText = .ok odd := by decide +kernel
  have restored : ∀ x ∈ odd.fusion.floats, x.isFinite = true → x.Restored := by decide +kernel
  ⟨accepted, restored, (ofText_page accepted restored).trans (if_pos (by decide))⟩

/-- A range beyond the greatest number of 32 bits. -/
def endlessText : String := "\x7b\"fusion\":\x7b\"max_range\":1e39\x7d\x7d"

def endless : Config := { fusion := { maxRange := ⟨0x7F800000⟩ } }

/-- Such a range is accepted as an infinity, and its page is refused. -/
theorem endless_page_refused : ofText endlessText = .ok endless ∧
    (∀ x ∈ endless.fusion.floats, x.isFinite = true → x.Restored) ∧
    ofText endless.page = .error (.config (.malformed (.wrongKind .null "f32"))) := by
  have accepted : ofText endlessText = .ok endless := by decide +kernel
  have restored : ∀ x ∈ endless.fusion.floats, x.isFinite = true → x.Restored := by decide +kernel
  have unread : Reader.whole schema.read endless.page = .error notFinite :=
    (read_page (ofText_fits accepted) restored).trans (if_neg (by decide))
  refine ⟨accepted, restored, ?_⟩
  rw [ofText, unread]
  rfl

end Config

end FusionSensors
