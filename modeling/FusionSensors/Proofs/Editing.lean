/-
# FusionSensors.Proofs.Editing -- edits of an object that leave its record alone

The record that is read of an object is the same whatever the order of its
pairs is and whatever pairs with unknown names stand among them, and a member
that says what the default says anyway may be left out (`Harmless`). An object
with a known name twice, or without a name that it must have, is not read at
all (`Spoiled`).

Order does not matter because each member changes a part of the record of its
own, so the changes of two members may be made in either order (`Orderly`).
-/
import FusionSensors.Proofs.Members
import Mathlib.Data.List.Nodup
import Mathlib.Data.List.Pairwise

namespace FusionSensors.Json

set_option autoImplicit false

open Reader

section Members

variable {ρ α β : Type}

namespace Member

/-- What is read of two members may be set in either order. -/
def Independent (one other : Member ρ) : Prop :=
  ∀ ⦃text more left rest : List Char⦄ ⦃change further : ρ → ρ⦄, one.read text = .ok (change, left) →
    other.read more = .ok (further, rest) → ∀ record, change (further record) = further (change record)

instance : Std.Symm (Independent : Member ρ → Member ρ → Prop) where
  symm _ _ independent := fun _ _ _ _ _ _ first second record => (independent second first record).symm

variable {name : String} {format : Format α} {get : ρ → α} {set : α → ρ → ρ}

theorem of_read {text left : List Char} {change : ρ → ρ} :
    (Member.of name format get set).read text = .ok (change, left) ↔
      ∃ a, format.read text = .ok (a, left) ∧ set a = change := by
  show (format.read >>= fun a => pure (set a)) text = _ ↔ _
  rw [bind_apply]
  cases format.read text with
  | error defect => simp
  | ok pair => simp [Prod.ext_iff, and_comm]

theorem of_settles (settles : Settles format.read) : Settles (Member.of name format get set).read :=
  settles.bind fun _ => .pure _

theorem of_kept (settles : Settles format.read) {value other : List Char} (json : IsJson value)
    (kept : ∀ a, Makes format.read value a → Makes format.read other a) (change : ρ → ρ)
    (makes : Makes (Member.of name format get set).read value change) :
    Makes (Member.of name format get set).read other change := by
  have read := makes [] .nil
  rw [List.append_nil] at read
  obtain ⟨a, reads, same⟩ := of_read.1 read
  have further := kept a ((settles.decided value json).makes reads)
  exact fun rest apart => of_read.2 ⟨a, further rest apart, same⟩

theorem of_stops {value : List Char} (stops : Stops format.read value) :
    Stops (Member.of name format get set).read value := by
  intro rest apart
  obtain ⟨defect, stopped⟩ := stops rest apart
  refine ⟨defect, ?_⟩
  show (format.read >>= fun a => pure (set a)) (value ++ rest) = _
  rw [bind_apply, stopped]

theorem of_independent {other : String} {further : Format β} {getFurther : ρ → β}
    {setFurther : β → ρ → ρ}
    (commute : ∀ a b record, set a (setFurther b record) = setFurther b (set a record)) :
    (Member.of name format get set).Independent (Member.of other further getFurther setFurther) := by
  intro _ _ _ _ _ _ first second record
  obtain ⟨a, _, rfl⟩ := of_read.1 first
  obtain ⟨b, _, rfl⟩ := of_read.1 second
  exact commute a b record

end Member

end Members

namespace Schema

variable {ρ : Type}

/-- The members of a schema have names of their own, are read by their values
alone, and do not get in each other's way. -/
structure Orderly (schema : Schema ρ) : Prop where
  distinct : (schema.members.map Member.name).Nodup
  settled : schema.Settled
  independent : schema.members.Pairwise Member.Independent

/-! ## Edits -/

/-- An edit of the pairs of an object that what is read of it does not depend on. -/
inductive Harmless (schema : Schema ρ) : List Pair → List Pair → Prop
  /-- the pairs in another order -/
  | moved {pairs others : List Pair} (same : pairs.Perm others) : Harmless schema pairs others
  /-- a pair more, of an unknown name and any JSON value -/
  | added (before after : List Pair) {pair : Pair} (valid : pair.Valid) {name : String}
      (names : Names pair.key name) (unknown : name ∉ schema.members.map Member.name) :
      Harmless schema (before ++ after) (before ++ pair :: after)
  /-- a member less, whose value is what the default has there -/
  | removed (filled : schema.filled = true) (before after : List Pair) {pair : Pair}
      {known : Member ρ} (inside : known ∈ schema.members) (names : Names pair.key known.name)
      {change : ρ → ρ} (reads : known.read pair.value = .ok (change, []))
      (default : change schema.blank = schema.blank) :
      Harmless schema (before ++ pair :: after) (before ++ after)

/-- An object that names a member twice, or does not name one that it must have. -/
inductive Spoiled (schema : Schema ρ) (pairs : List Pair) : Prop
  | repeated {one other : Pair} (both : [one, other].Sublist pairs) {known : Member ρ}
      (inside : known ∈ schema.members) (one_names : Names one.key known.name)
      (other_names : Names other.key known.name)
  | lacking (bare : schema.filled = false) {known : Member ρ} (inside : known ∈ schema.members)
      (required : known.isOptional = false) (absent : ∀ pair ∈ pairs, ¬ Names pair.key known.name)

variable {schema : Schema ρ}

/-! ## Single pairs -/

theorem finds_named {pair : Pair} (orderly : schema.Orderly) {known : Member ρ}
    (inside : known ∈ schema.members) (names : Names pair.key known.name) :
    schema.finds pair = (known.read pair.value).map fun read => some (known.name, read.1) := by
  rw [finds, names]
  dsimp only
  rw [find?_named orderly.distinct inside]

theorem finds_unknown {pair : Pair} {name : String} (names : Names pair.key name)
    (unknown : name ∉ schema.members.map Member.name) : schema.finds pair = .ok none := by
  have none : (schema.members.find? fun member => member.name == name) = none := by
    rw [List.find?_eq_none]
    intro member inside same
    exact unknown (List.mem_map.2 ⟨member, inside, by simpa using same⟩)
  rw [finds, names]
  dsimp only
  rw [none]

/-- A pair with another value is the same to a schema if the values read the same. -/
theorem finds_holding (orderly : schema.Orderly) {known : Member ρ} (inside : known ∈ schema.members)
    {pair : Pair} (names : Names pair.key known.name) {value other : List Char} (json : IsJson value)
    (kept : ∀ change, Makes known.read value change → Makes known.read other change)
    (found : Option (String × (ρ → ρ))) (finds : schema.finds (pair.holding value) = .ok found) :
    schema.finds (pair.holding other) = .ok found := by
  have named : ∀ value, schema.finds (pair.holding value) =
      (known.read value).map fun read => some (known.name, read.1) :=
    fun value => finds_named orderly inside (names : Names (pair.holding value).key known.name)
  rw [named] at finds ⊢
  cases read : known.read value with
  | error defect =>
      rw [read] at finds
      cases finds
  | ok result =>
      have makes := ((orderly.settled known inside).decided value json).makes read
      have further := kept result.1 makes [] .nil
      rw [List.append_nil] at further
      rw [read] at finds
      rw [further, ← finds]
      rfl

/-- Where a change comes from. -/
theorem mem_changes {pairs : List Pair} {name : String} {change : ρ → ρ} :
    (name, change) ∈ schema.changes pairs ↔
      ∃ pair ∈ pairs, schema.finds pair = .ok (some (name, change)) := by
  rw [changes, List.mem_filterMap]
  refine exists_congr fun pair => and_congr_right fun _ => ?_
  cases schema.finds pair with
  | error defect => simp [Except.toOption]
  | ok found => cases found <;> simp [Except.toOption]

theorem finds_sets {pair : Pair} (settled : schema.Settled) (valid : pair.Valid) {name : String}
    {change : ρ → ρ} (finds : schema.finds pair = .ok (some (name, change))) :
    ∃ known ∈ schema.members,
      known.name = name ∧ Names pair.key name ∧ Makes known.read pair.value change := by
  have is := finds_found settled valid
  rw [finds] at is
  cases is with
  | sets names inside makes =>
      refine ⟨_, List.mem_of_find?_eq_some inside, rfl, ?_, makes⟩
      have decoded := names [] .nil
      rw [List.append_nil] at decoded
      exact decoded

/-! ## What an edit keeps -/

section Keeps

variable {pairs others : List Pair}

/-- The changes of an object may be made in any order. -/
theorem made_perm (orderly : schema.Orderly) (valid : ∀ pair ∈ pairs, pair.Valid)
    (admits : schema.Admits [] pairs) (same : pairs.Perm others) :
    schema.made schema.blank others = schema.made schema.blank pairs := by
  have distinct : (schema.names pairs).Nodup := by simpa using admits.once
  refine ((same.filterMap _).foldl_eq' (fun one one_inside other other_inside record => ?_) _).symm
  obtain ⟨name, change⟩ := one
  obtain ⟨further_name, further⟩ := other
  by_cases equal : name = further_name
  · subst equal
    obtain rfl : change = further := by
      have := List.inj_on_of_nodup_map distinct one_inside other_inside rfl
      exact congrArg Prod.snd this
    rfl
  · obtain ⟨pair, inside, finds⟩ := mem_changes.1 one_inside
    obtain ⟨second, second_inside, second_finds⟩ := mem_changes.1 other_inside
    obtain ⟨known, known_inside, rfl, _, makes⟩ := finds_sets orderly.settled (valid pair inside) finds
    obtain ⟨later, later_inside, rfl, _, second_makes⟩ :=
      finds_sets orderly.settled (valid second second_inside) second_finds
    have independent : later.Independent known := by
      refine orderly.independent.forall later_inside known_inside ?_
      rintro rfl
      exact equal rfl
    exact independent (second_makes [] .nil) (makes [] .nil) record

theorem admits_perm {present : List String} (admits : schema.Admits present pairs)
    (same : pairs.Perm others) : schema.Admits present others := by
  have names : (schema.names pairs ++ present).Perm (schema.names others ++ present) :=
    ((same.filterMap _).map _).append_right present
  exact ⟨fun pair inside => admits.readable pair (same.mem_iff.2 inside), names.nodup_iff.1 admits.once,
    admits.complete.of_subset names.subset⟩

theorem Harmless.valid (edit : schema.Harmless pairs others) (valid : ∀ pair ∈ pairs, pair.Valid) :
    ∀ pair ∈ others, pair.Valid := by
  cases edit with
  | moved same => exact fun pair inside => valid pair (same.mem_iff.2 inside)
  | added before after one =>
      obtain ⟨front, back⟩ := List.forall_mem_append.1 valid
      exact List.forall_mem_append.2 ⟨front, List.forall_mem_cons.2 ⟨one, back⟩⟩
  | removed _ before after =>
      obtain ⟨front, back⟩ := List.forall_mem_append.1 valid
      exact List.forall_mem_append.2 ⟨front, (List.forall_mem_cons.1 back).2⟩

/-- What reading an object depends on is kept by a harmless edit. -/
theorem Harmless.keeps (edit : schema.Harmless pairs others) (orderly : schema.Orderly)
    (valid : ∀ pair ∈ pairs, pair.Valid) (admits : schema.Admits [] pairs) :
    schema.Admits [] others ∧ schema.made schema.blank others = schema.made schema.blank pairs := by
  cases edit with
  | moved same => exact ⟨admits_perm admits same, made_perm orderly valid admits same⟩
  | @added before after pair one name names unknown =>
      -- the new pair may as well be the first
      have extra := finds_unknown names unknown
      have first : (pair :: (before ++ after)).Perm (before ++ pair :: after) := List.perm_middle.symm
      have admits := (admits_extra extra).2 admits
      refine ⟨admits_perm admits first, ?_⟩
      rw [made_perm orderly (List.forall_mem_cons.2 ⟨one, valid⟩) admits first, made,
        changes_extra extra, made]
  | @removed filled before after pair known inside names change reads default =>
      -- the old pair may as well have been the first
      have first : (before ++ pair :: after).Perm (pair :: (before ++ after)) := List.perm_middle
      have sets : schema.finds pair = .ok (some (known.name, change)) := by
        rw [finds_named orderly inside names, reads]
        rfl
      have admits_first := (admits_sets sets).1 (admits_perm admits first)
      refine ⟨⟨admits_first.readable, ?_, .inl filled⟩, ?_⟩
      · simpa using (List.nodup_append.1 admits_first.once).1
      · rw [← made_perm orderly valid admits first, made, made, changes_sets sets, List.foldl_cons]
        dsimp only
        rw [default]

/-- **What is read of an object survives every harmless edit.** -/
theorem Harmless.makes (edit : schema.Harmless pairs others) (orderly : schema.Orderly)
    (valid : ∀ pair ∈ pairs, pair.Valid) {close : List Char} (blank : Blank close) {record : ρ}
    (makes : Makes schema.read (recordText pairs close) record) :
    Makes schema.read (recordText others close) record := by
  by_cases admits : schema.Admits [] pairs
  · obtain ⟨admits_others, same⟩ := edit.keeps orderly valid admits
    rw [makes.unique (object_admits orderly.settled blank valid admits), ← same]
    exact object_admits orderly.settled blank (edit.valid valid) admits_others
  · exact absurd (object_refuses orderly.settled blank valid admits) makes.not_stops

theorem Spoiled.not_admits (spoiled : schema.Spoiled pairs) (orderly : schema.Orderly)
    (valid : ∀ pair ∈ pairs, pair.Valid) : ¬ schema.Admits [] pairs := by
  intro admits
  cases spoiled with
  | @repeated one other both known inside one_names other_names =>
      have sets : ∀ pair ∈ [one, other], Names pair.key known.name →
          ∃ change, schema.finds pair = .ok (some (known.name, change)) := by
        intro pair among names
        obtain ⟨found, finds⟩ := admits.readable pair (both.subset among)
        rw [finds_named orderly inside names] at finds ⊢
        cases read : known.read pair.value with
        | error defect =>
            rw [read] at finds
            cases finds
        | ok result => exact ⟨result.1, rfl⟩
      obtain ⟨change, first⟩ := sets one (by simp) one_names
      obtain ⟨further, second⟩ := sets other (by simp) other_names
      have twice : [known.name, known.name].Sublist (schema.names pairs) := by
        have changes : schema.changes [one, other] = [(known.name, change), (known.name, further)] := by
          rw [changes_sets first, changes_sets second]
          rfl
        have names : schema.names [one, other] = [known.name, known.name] := by
          rw [Schema.names, changes]
          rfl
        exact names ▸ (both.filterMap _).map _
      have distinct : (schema.names pairs).Nodup := by simpa using admits.once
      exact absurd (distinct.sublist twice) (by simp)
  | @lacking bare known inside required absent =>
      rcases admits.complete with filled | covered
      · exact Bool.false_ne_true (bare.symm.trans filled)
      · have present : known.name ∈ schema.names pairs := by simpa using covered known inside required
        obtain ⟨⟨name, change⟩, among, same⟩ := List.mem_map.1 present
        obtain ⟨pair, within, finds⟩ := mem_changes.1 among
        obtain ⟨_, _, _, names, _⟩ := finds_sets orderly.settled (valid pair within) finds
        exact absent pair within (same ▸ names)

/-- A pair may be replaced by one that is the same to the schema. -/
theorem makes_replaced (settled : schema.Settled) {before after : List Pair} {pair other : Pair}
    (valid : ∀ one ∈ before ++ pair :: after, one.Valid)
    (others_valid : ∀ one ∈ before ++ other :: after, one.Valid)
    (same : ∀ found, schema.finds pair = .ok found → schema.finds other = .ok found)
    {close : List Char} (blank : Blank close) {record : ρ}
    (makes : Makes schema.read (recordText (before ++ pair :: after) close) record) :
    Makes schema.read (recordText (before ++ other :: after) close) record := by
  by_cases admits : schema.Admits [] (before ++ pair :: after)
  · obtain ⟨found, finds⟩ := admits.readable pair (by simp)
    have changes : schema.changes (before ++ other :: after) = schema.changes (before ++ pair :: after) := by
      simp only [Schema.changes, List.filterMap_append, List.filterMap_cons, finds, same found finds]
    have admits_others : schema.Admits [] (before ++ other :: after) := by
      obtain ⟨front, back⟩ := List.forall_mem_append.1 admits.readable
      have behind := (List.forall_mem_cons.1 back).2
      refine ⟨List.forall_mem_append.2 ⟨front, List.forall_mem_cons.2 ⟨?_, behind⟩⟩, ?_, ?_⟩
      · exact ⟨found, same found finds⟩
      · rw [names, changes]
        exact admits.once
      · rw [names, changes]
        exact admits.complete
    have made : schema.made schema.blank (before ++ other :: after) = record := by
      rw [Schema.made, changes]
      exact (object_admits settled blank valid admits).unique makes
    exact made ▸ object_admits settled blank others_valid admits_others
  · exact absurd (object_refuses settled blank valid admits) makes.not_stops

/-- An object is refused for the value of one member. -/
theorem stops_of_member (orderly : schema.Orderly) (valid : ∀ pair ∈ pairs, pair.Valid) {pair : Pair}
    (within : pair ∈ pairs) {known : Member ρ} (inside : known ∈ schema.members)
    (names : Names pair.key known.name) (stops : Stops known.read pair.value) {close : List Char}
    (blank : Blank close) : Stops schema.read (recordText pairs close) := by
  refine object_refuses orderly.settled blank valid fun admits => ?_
  obtain ⟨found, finds⟩ := admits.readable pair within
  obtain ⟨defect, stopped⟩ := stops [] .nil
  rw [List.append_nil] at stopped
  rw [finds_named orderly inside names, stopped] at finds
  cases finds

/-- **A spoiled object is refused.** -/
theorem Spoiled.stops (spoiled : schema.Spoiled pairs) (orderly : schema.Orderly)
    (valid : ∀ pair ∈ pairs, pair.Valid) {close : List Char} (blank : Blank close) :
    Stops schema.read (recordText pairs close) :=
  object_refuses orderly.settled blank valid (spoiled.not_admits orderly valid)

end Keeps

end Schema

end FusionSensors.Json
