/-
# FusionSensors.Proofs.Rearranging -- a configuration is what its known members say

Main statement, `Config.ofText_rearranged`: the object of a configuration, its
provider's object and the objects of its sensors may each have their members in
another order, members of unknown names with any values, and, for the first
two, without the members that say what the default says. What is accepted is
the same configuration (`Harmless`). A known member twice in any of them, or a
sensor without one of its members, is refused (`Spoiled`).

The provider and the sensors are values of members, so an edit inside one is a
change of a pair for another that reads the same.
-/
import FusionSensors.Proofs.Reachable
import FusionSensors.Proofs.Editing
import Mathlib.Logic.Relation

namespace FusionSensors

set_option autoImplicit false

open Json Json.Reader

/-! ## The three schemas -/

theorem natural_settles (greatest : Nat) (name : String) :
    Settles (Format.natural greatest name).read :=
  (integer_settles 0 greatest name).bind fun _ => .pure _

theorem LeafEntry.schema_orderly : LeafEntry.schema.Orderly where
  distinct := by decide
  settled := by
    intro member inside
    simp only [schema, List.mem_cons, List.not_mem_nil, or_false] at inside
    rcases inside with rfl | rfl | rfl
    · exact Member.of_settles text_settles
    · exact Member.of_settles (integer_settles _ _ _)
    · exact Member.of_settles (variant_settles _)
  independent := by
    simp only [schema, List.pairwise_cons, List.forall_mem_cons, List.not_mem_nil, false_implies,
      implies_true, List.Pairwise.nil, and_true]
    and_intros <;> exact Member.of_independent fun _ _ _ => rfl

theorem FusionEntry.schema_orderly : FusionEntry.schema.Orderly where
  distinct := by decide
  settled := by
    intro member inside
    simp only [schema, List.mem_cons, List.not_mem_nil, or_false] at inside
    rcases inside with rfl | rfl | rfl | rfl | rfl | rfl | rfl
    · exact Member.of_settles text_settles
    · exact Member.of_settles (integer_settles _ _ _)
    · exact Member.of_settles single_settles
    · exact Member.of_settles single_settles
    · exact Member.of_settles single_settles
    · exact Member.of_settles (integer_settles _ _ _)
    · exact Member.of_settles (integer_settles _ _ _)
  independent := by
    simp only [schema, List.pairwise_cons, List.forall_mem_cons, List.not_mem_nil, false_implies,
      implies_true, List.Pairwise.nil, and_true]
    and_intros <;> exact Member.of_independent fun _ _ _ => rfl

theorem Config.schema_orderly : Config.schema.Orderly where
  distinct := by decide
  settled := by
    intro member inside
    simp only [schema, List.mem_cons, List.not_mem_nil, or_false] at inside
    rcases inside with rfl | rfl | rfl | rfl | rfl | rfl
    · exact Member.of_settles text_settles
    · exact Member.of_settles (natural_settles _ _)
    · exact Member.of_settles (natural_settles _ _)
    · exact Member.of_settles (integer_settles _ _ _)
    · exact Member.of_settles (FusionEntry.schema.settles FusionEntry.schema_orderly.settled)
    · exact Member.of_settles (list_settles (LeafEntry.schema.settles LeafEntry.schema_orderly.settled))
  independent := by
    simp only [schema, List.pairwise_cons, List.forall_mem_cons, List.not_mem_nil, false_implies,
      implies_true, List.Pairwise.nil, and_true]
    and_intros <;> exact Member.of_independent fun _ _ _ => rfl

/-! ## Objects inside a configuration -/

namespace Config

/-- The place of the provider's object among the pairs of a configuration. -/
structure FusionPlace where
  before : List Pair
  pair : Pair
  after : List Pair
  close : List Char

namespace FusionPlace

/-- The pairs of a configuration whose provider's object has the given pairs. -/
def put (place : FusionPlace) (pairs : List Pair) : List Pair :=
  place.before ++ place.pair.holding (recordText pairs place.close) :: place.after

structure Stands (place : FusionPlace) : Prop where
  names : Names place.pair.key "fusion"
  blank : Blank place.close

end FusionPlace

/-- The place of a sensor's object in the list of sensors of a configuration. -/
structure EntryPlace where
  before : List Pair
  pair : Pair
  after : List Pair
  front : List Item
  item : Item
  back : List Item
  close : List Char
  listClose : List Char

namespace EntryPlace

/-- The items of the list with the given pairs in the sensor's object. -/
def items (place : EntryPlace) (pairs : List Pair) : List Item :=
  place.front ++ place.item.holding (recordText pairs place.close) :: place.back

/-- The pairs of a configuration whose sensor's object has the given pairs. -/
def put (place : EntryPlace) (pairs : List Pair) : List Pair :=
  place.before ++ place.pair.holding (listText (place.items pairs) place.listClose) :: place.after

structure Stands (place : EntryPlace) : Prop where
  names : Names place.pair.key "sensors"
  spaced : place.item.Spaced
  front : Items place.front
  back : Items place.back
  blank : Blank place.close
  listBlank : Blank place.listClose

end EntryPlace

/-- An edit of the pairs of a configuration, of its provider or of one of its
sensors, that the configuration does not depend on. -/
inductive Harmless : List Pair → List Pair → Prop
  | top {pairs others : List Pair} (edit : schema.Harmless pairs others) : Harmless pairs others
  | fusion (place : FusionPlace) (stands : place.Stands) {pairs others : List Pair}
      (valid : ∀ pair ∈ pairs, pair.Valid) (edit : FusionEntry.schema.Harmless pairs others) :
      Harmless (place.put pairs) (place.put others)
  | entry (place : EntryPlace) (stands : place.Stands) {pairs others : List Pair}
      (valid : ∀ pair ∈ pairs, pair.Valid) (edit : LeafEntry.schema.Harmless pairs others) :
      Harmless (place.put pairs) (place.put others)

/-- A configuration in which an object names a member twice, or a sensor's
object does not name all its members. -/
inductive Spoiled : List Pair → Prop
  | top {pairs : List Pair} (spoiled : schema.Spoiled pairs) : Spoiled pairs
  | fusion (place : FusionPlace) (stands : place.Stands) {pairs : List Pair}
      (valid : ∀ pair ∈ pairs, pair.Valid) (spoiled : FusionEntry.schema.Spoiled pairs) :
      Spoiled (place.put pairs)
  | entry (place : EntryPlace) (stands : place.Stands) {pairs : List Pair}
      (valid : ∀ pair ∈ pairs, pair.Valid) (spoiled : LeafEntry.schema.Spoiled pairs) :
      Spoiled (place.put pairs)

/-! ## What an edit keeps -/

theorem fusion_member : Member.of "fusion" FusionEntry.schema.format Config.fusion
    (fun v c => { c with fusion := v }) ∈ schema.members := by
  simp [schema]

theorem sensors_member : Member.of "sensors" (.list LeafEntry.schema.format) Config.sensors
    (fun v c => { c with sensors := v }) ∈ schema.members := by
  simp [schema]

theorem valid_holding {before after : List Pair} {pair : Pair} {value other : List Char}
    (valid : ∀ one ∈ before ++ pair.holding value :: after, one.Valid) (json : IsJson other) :
    ∀ one ∈ before ++ pair.holding other :: after, one.Valid := by
  rw [List.forall_mem_append, List.forall_mem_cons] at valid ⊢
  obtain ⟨front, ⟨spaced, _⟩, back⟩ := valid
  have same : (pair.holding other).Spaced :=
    ⟨spaced.lead, spaced.key, spaced.gap, ⟨spaced.item.lead, spaced.item.trail⟩⟩
  exact ⟨front, ⟨same, json⟩, back⟩

theorem record_json {pairs : List Pair} {close : List Char} (blank : Blank close)
    (valid : ∀ pair ∈ pairs, pair.Valid) : IsJson (recordText pairs close) :=
  .record pairs blank (fun pair inside => (valid pair inside).toSpaced)
    fun pair inside => (valid pair inside).json

namespace FusionPlace

variable {place : FusionPlace} {pairs others : List Pair}

theorem keeps (stands : place.Stands) (valid : ∀ pair ∈ place.put pairs, pair.Valid)
    (inner : ∀ pair ∈ pairs, pair.Valid) (edit : FusionEntry.schema.Harmless pairs others)
    {close : List Char} (blank : Blank close) {config : Config}
    (makes : Makes schema.read (recordText (place.put pairs) close) config) :
    (∀ pair ∈ place.put others, pair.Valid) ∧
      Makes schema.read (recordText (place.put others) close) config := by
  have others_valid := valid_holding valid (record_json stands.blank (edit.valid inner))
  refine ⟨others_valid, Schema.makes_replaced schema_orderly.settled valid others_valid ?_ blank makes⟩
  refine Schema.finds_holding schema_orderly fusion_member stands.names (record_json stands.blank inner) ?_
  exact Member.of_kept (FusionEntry.schema.settles FusionEntry.schema_orderly.settled)
    (record_json stands.blank inner) fun fusion => edit.makes FusionEntry.schema_orderly inner stands.blank

/-- A spoiled provider spoils the configuration. -/
theorem stops (stands : place.Stands) (valid : ∀ pair ∈ place.put pairs, pair.Valid)
    (inner : ∀ pair ∈ pairs, pair.Valid) (spoiled : FusionEntry.schema.Spoiled pairs)
    {close : List Char} (blank : Blank close) :
    Stops schema.read (recordText (place.put pairs) close) := by
  refine Schema.stops_of_member schema_orderly valid (List.mem_append_right _ List.mem_cons_self)
    fusion_member (stands.names : Names (place.pair.holding _).key "fusion") ?_ blank
  exact Member.of_stops (spoiled.stops FusionEntry.schema_orderly inner stands.blank)

end FusionPlace

namespace EntryPlace

variable {place : EntryPlace} {pairs others : List Pair}

theorem items_all (stands : place.Stands) (inner : ∀ pair ∈ pairs, pair.Valid) :
    Items (place.items pairs) := by
  refine List.forall_mem_append.2 ⟨stands.front, List.forall_mem_cons.2 ⟨?_, stands.back⟩⟩
  exact ⟨⟨stands.spaced.lead, stands.spaced.trail⟩, record_json stands.blank inner⟩

theorem list_json (stands : place.Stands) (inner : ∀ pair ∈ pairs, pair.Valid) :
    IsJson (listText (place.items pairs) place.listClose) :=
  .list _ stands.listBlank (fun item inside => (items_all stands inner item inside).1)
    fun item inside => (items_all stands inner item inside).2

theorem keeps (stands : place.Stands) (valid : ∀ pair ∈ place.put pairs, pair.Valid)
    (inner : ∀ pair ∈ pairs, pair.Valid) (edit : LeafEntry.schema.Harmless pairs others)
    {close : List Char} (blank : Blank close) {config : Config}
    (makes : Makes schema.read (recordText (place.put pairs) close) config) :
    (∀ pair ∈ place.put others, pair.Valid) ∧
      Makes schema.read (recordText (place.put others) close) config := by
  have settles := LeafEntry.schema.settles LeafEntry.schema_orderly.settled
  have others_inner := edit.valid inner
  have others_valid := valid_holding valid (list_json stands others_inner)
  refine ⟨others_valid, Schema.makes_replaced schema_orderly.settled valid others_valid ?_ blank makes⟩
  refine Schema.finds_holding schema_orderly sensors_member stands.names (list_json stands inner) ?_
  refine Member.of_kept (list_settles settles) (list_json stands inner) fun sensors => ?_
  refine list_replaced settles (items_all stands inner) (items_all stands others_inner) ?_ stands.listBlank
  exact fun entry => edit.makes LeafEntry.schema_orderly inner stands.blank

/-- A spoiled sensor spoils the configuration. -/
theorem stops (stands : place.Stands) (valid : ∀ pair ∈ place.put pairs, pair.Valid)
    (inner : ∀ pair ∈ pairs, pair.Valid) (spoiled : LeafEntry.schema.Spoiled pairs)
    {close : List Char} (blank : Blank close) :
    Stops schema.read (recordText (place.put pairs) close) := by
  refine Schema.stops_of_member schema_orderly valid (List.mem_append_right _ List.mem_cons_self)
    sensors_member (stands.names : Names (place.pair.holding _).key "sensors") ?_ blank
  refine Member.of_stops (list_stops (LeafEntry.schema.settles LeafEntry.schema_orderly.settled)
    (items_all stands inner) stands.listBlank ⟨_, List.mem_append_right _ List.mem_cons_self, ?_⟩)
  exact spoiled.stops LeafEntry.schema_orderly inner stands.blank

end EntryPlace

section Edits

variable {pairs others : List Pair} {close : List Char}

theorem Harmless.keeps (edit : Harmless pairs others) (valid : ∀ pair ∈ pairs, pair.Valid)
    (blank : Blank close) {config : Config} (makes : Makes schema.read (recordText pairs close) config) :
    (∀ pair ∈ others, pair.Valid) ∧ Makes schema.read (recordText others close) config := by
  cases edit with
  | top edit => exact ⟨edit.valid valid, edit.makes schema_orderly valid blank makes⟩
  | fusion place stands inner edit => exact FusionPlace.keeps stands valid inner edit blank makes
  | entry place stands inner edit => exact EntryPlace.keeps stands valid inner edit blank makes

/-- Any number of edits, one after another. -/
theorem Harmless.keeps_all (edits : Relation.ReflTransGen Harmless pairs others)
    (valid : ∀ pair ∈ pairs, pair.Valid) (blank : Blank close) {config : Config}
    (makes : Makes schema.read (recordText pairs close) config) :
    (∀ pair ∈ others, pair.Valid) ∧ Makes schema.read (recordText others close) config := by
  induction edits with
  | refl => exact ⟨valid, makes⟩
  | tail _ edit ih => exact edit.keeps ih.1 blank ih.2

theorem Spoiled.stops (spoiled : Spoiled pairs) (valid : ∀ pair ∈ pairs, pair.Valid)
    (blank : Blank close) : Stops schema.read (recordText pairs close) := by
  cases spoiled with
  | top spoiled => exact spoiled.stops schema_orderly valid blank
  | fusion place stands inner spoiled => exact FusionPlace.stops stands valid inner spoiled blank
  | entry place stands inner spoiled => exact EntryPlace.stops stands valid inner spoiled blank

end Edits

/-! ## Configurations as texts -/

/-- An object text with white space around it. -/
def objectText (pre : List Char) (pairs : List Pair) (close post : List Char) : String :=
  String.ofList (pre ++ (recordText pairs close ++ post))

section Texts

variable {pre close post : List Char} {pairs : List Pair}

/-- An object text is accepted exactly if its object is read and valid. -/
theorem ofText_object (pre_blank : Blank pre) (close_blank : Blank close) (post_blank : Blank post)
    (valid : ∀ pair ∈ pairs, pair.Valid) {config : Config} :
    ofText (objectText pre pairs close post) = .ok config ↔
      Makes schema.read (recordText pairs close) config ∧ config.validate = .ok () := by
  have settles := schema.settles schema_orderly.settled
  have apart : Apart post := by simpa using Apart.blank post_blank .nil
  have ended : (post.dropWhile isSpace).isEmpty = true := by
    rw [List.isEmpty_iff, List.dropWhile_eq_nil_iff]
    exact post_blank
  have begins : whole schema.read (objectText pre pairs close post) =
      whole schema.read (String.ofList (recordText pairs close ++ post)) := by
    rw [whole, whole, objectText, String.toList_ofList, String.toList_ofList,
      settles.padded pre _ pre_blank]
  have reads {found : Config} (makes : Makes schema.read (recordText pairs close) found) :
      whole schema.read (objectText pre pairs close post) = .ok found := by
    rw [begins, whole, String.toList_ofList, makes post apart]
    exact if_pos ended
  constructor
  · intro accepted
    obtain ⟨read, checked⟩ := Hub.ofText_ok accepted
    rcases settles.decided _ (record_json close_blank valid) with ⟨found, makes⟩ | stops
    · cases (reads makes).symm.trans read
      exact ⟨makes, checked⟩
    · obtain ⟨defect, stopped⟩ := stops post apart
      rw [begins, whole, String.toList_ofList, stopped] at read
      cases read
  · rintro ⟨makes, checked⟩
    rw [ofText, reads makes]
    dsimp only
    rw [checked]
    rfl

/-- **A configuration is what its known members say.** The members of the
object that is accepted, of its provider or of its sensors may stand in another
order, with any members of unknown names among them, and without those that say
what the default says: the text is still accepted, with the same configuration.
A text is refused if an object in it names a known member twice, or if a
sensor's object does not name all its members. -/
theorem ofText_rearranged (pre_blank : Blank pre) (close_blank : Blank close) (post_blank : Blank post)
    (valid : ∀ pair ∈ pairs, pair.Valid) :
    (∀ config others, ofText (objectText pre pairs close post) = .ok config →
      Relation.ReflTransGen Harmless pairs others →
        ofText (objectText pre others close post) = .ok config) ∧
    (Spoiled pairs → ∃ fault, ofText (objectText pre pairs close post) = .error fault) := by
  constructor
  · intro config others accepted edits
    obtain ⟨makes, checked⟩ := (ofText_object pre_blank close_blank post_blank valid).1 accepted
    obtain ⟨others_valid, further⟩ := Harmless.keeps_all edits valid close_blank makes
    exact (ofText_object pre_blank close_blank post_blank others_valid).2 ⟨further, checked⟩
  · intro spoiled
    cases outcome : ofText (objectText pre pairs close post) with
    | error fault => exact ⟨fault, rfl⟩
    | ok config =>
        have makes := ((ofText_object pre_blank close_blank post_blank valid).1 outcome).1
        exact absurd (spoiled.stops valid close_blank) makes.not_stops

end Texts

/-! ## A configuration in two orders -/

/-- The place of the only sensor of a configuration. -/
def steadyPlace : EntryPlace where
  before := [.plain "pipe_capacity" "32"]
  pair := .plain "sensors" "[]"
  after := []
  front := []
  item := ⟨[], [], []⟩
  back := []
  close := []
  listClose := []

def steadyPairs : List Pair :=
  [.plain "name" "\"a\"", .plain "handle" "42", .plain "kind" "\"gravity\""]

/-- The same with an unknown member and with the sensor's members in another order. -/
def steadyEdited : List Pair := .plain "note" "null" :: steadyPlace.put steadyPairs.reverse

theorem plain_valid {key value : String} (plain : key.toList.all isPlain = true)
    (json : IsJson value.toList) : (Pair.plain key value).Valid :=
  ⟨⟨.nil, .of_plain plain, .nil, ⟨.nil, .nil⟩⟩, json⟩

theorem steady_inner : ∀ pair ∈ steadyPairs, pair.Valid := by
  have name : IsJson ('"' :: (['a'] ++ ['"'])) := .text (.of_plain (by decide))
  have handle : IsJson ['4', '2'] := .positive (.of_digits (by decide) (by decide))
  have kind : IsJson ('"' :: (['g', 'r', 'a', 'v', 'i', 't', 'y'] ++ ['"'])) :=
    .text (.of_plain (by decide))
  intro pair inside
  simp only [steadyPairs, List.mem_cons, List.not_mem_nil, or_false] at inside
  rcases inside with rfl | rfl | rfl
  · exact plain_valid (by decide +kernel) name
  · exact plain_valid (by decide +kernel) handle
  · exact plain_valid (by decide +kernel) kind

theorem steady_stands : steadyPlace.Stands where
  names := by decide +kernel
  spaced := ⟨.nil, .nil⟩
  front := nofun
  back := nofun
  blank := .nil
  listBlank := .nil

theorem steady_valid {pairs : List Pair} (inner : ∀ pair ∈ pairs, pair.Valid) :
    ∀ pair ∈ steadyPlace.put pairs, pair.Valid := by
  have capacity : IsJson ['3', '2'] := .positive (.of_digits (by decide) (by decide))
  intro pair inside
  rcases List.mem_cons.1 inside with rfl | inside
  · exact plain_valid (by decide +kernel) capacity
  · obtain rfl := List.mem_singleton.1 inside
    have key : IsBody "sensors".toList := .of_plain (by decide +kernel)
    exact ⟨⟨.nil, key, .nil, ⟨.nil, .nil⟩⟩, EntryPlace.list_json steady_stands inner⟩

theorem steady_edits : Relation.ReflTransGen Harmless (steadyPlace.put steadyPairs) steadyEdited :=
  have moved : Harmless (steadyPlace.put steadyPairs) (steadyPlace.put steadyPairs.reverse) :=
    .entry steadyPlace steady_stands steady_inner (.moved (List.reverse_perm _).symm)
  have added : Harmless (steadyPlace.put steadyPairs.reverse) steadyEdited :=
    .top (.added [] _ (plain_valid (by decide +kernel) .null)
      (by decide +kernel : Names "note".toList "note") (by decide))
  .tail (.single moved) added

theorem steady_lacking : LeafEntry.schema.Spoiled steadyPairs.tail := by
  have required : Member.of "name" .text LeafEntry.name (fun v e => { e with name := v }) ∈
      LeafEntry.schema.members := List.mem_cons_self
  exact .lacking rfl required rfl (by decide +kernel)

def steady : Config := { pipeCapacity := 32, sensors := [⟨"a", 42, .gravity⟩] }

/-- The edited text is accepted as the same configuration, and without the
sensor's name it is refused. -/
theorem steady_rearranged :
    ofText (objectText [] (steadyPlace.put steadyPairs) [] []) = .ok steady ∧
      ofText (objectText [] steadyEdited [] []) = .ok steady ∧
      ∃ fault, ofText (objectText [] (steadyPlace.put steadyPairs.tail) [] []) = .error fault := by
  have accepted : ofText (objectText [] (steadyPlace.put steadyPairs) [] []) = .ok steady := by
    decide +kernel
  have fewer : ∀ pair ∈ steadyPairs.tail, pair.Valid := fun pair inside => steady_inner pair (.tail _ inside)
  have kept := ofText_rearranged .nil .nil .nil (steady_valid steady_inner)
  have refused := ofText_rearranged .nil .nil .nil (steady_valid fewer)
  exact ⟨accepted, kept.1 steady steadyEdited accepted steady_edits,
    refused.2 (.entry steadyPlace steady_stands fewer steady_lacking)⟩

end Config

end FusionSensors
