/-
# FusionSensors.Proofs.Records -- what is written of lists and records reads back

A format recovers a value if reading makes one outcome of what is written of
it, in either style and wherever it stands. Lists and records recover what
their items and members recover: a record is read member by member, in order,
and the first member that does not read back decides (`Schema.format_recovers`).

The last section is about texts that need not have been written by anybody:
what the blank record has and every member keeps, every record has that is
read (`Schema.read_yields`).
-/
import FusionSensors.Json.Schema
import FusionSensors.Proofs.Literals
import FusionSensors.Proofs.Writing
import Mathlib.Data.List.Forall2

namespace FusionSensors.Json

set_option autoImplicit false

open Reader

namespace Reader

variable {α : Type}

/-! ## Lists -/

/-- A text that a list takes for an item. -/
def Opens (text : List Char) : Prop := ∃ c rest, text = c :: rest ∧ isSpace c = false ∧ c ≠ ']'

/-- What reading does after the comma between two items. -/
def itemAfterComma : Reader Bool := do
  match ← look with
  | none => stop .endInValue
  | some ']' => stop .trailingComma
  | some _ => pure true

theorem toItem_comma (text : List Char) : toItem false (',' :: text) = itemAfterComma text := rfl

theorem toItem_part {lead text : List Char} (blank : Blank lead) (opens : Opens text)
    (first : Bool) (rest : List Char) :
    toItem first ((if first then lead else ',' :: lead) ++ (text ++ rest)) =
      .ok (true, text ++ rest) := by
  obtain ⟨c, more, rfl, visible, inside⟩ := opens
  have seen : look (lead ++ (c :: more ++ rest)) = .ok (some c, c :: more ++ rest) := by
    rw [look_blank blank, List.cons_append, look_cons visible]
  cases first with
  | true =>
      rw [if_pos rfl, toItem, bind_apply, seen]
      dsimp only
      generalize same : some c = following
      split
      · cases same
      · cases same
        exact absurd rfl inside
      · rfl
  | false =>
      rw [if_neg (by decide), List.cons_append, toItem_comma, itemAfterComma, bind_apply, seen]
      dsimp only
      generalize same : some c = following
      split
      · cases same
      · cases same
        exact absurd rfl inside
      · rfl

theorem toItem_end {close : List Char} (blank : Blank close) (first : Bool) (rest : List Char) :
    toItem first (close ++ ']' :: rest) = .ok (false, ']' :: rest) := by
  rw [toItem, bind_apply, look_blank blank, look_cons (by decide)]
  rfl

/-- What reading does at the next item of a list. -/
def listStep (item : Reader α) (reversed : List α) : Reader (List α ⊕ List α) := do
  if ← toItem reversed.isEmpty then return .inl ((← item) :: reversed)
  else
    advance
    return .inr reversed.reverse

theorem list_eq (item : Reader α) :
    list item = (do
      match ← look with
      | some '[' =>
        advance
        iterate (listStep item) []
      | _ => mismatch "a sequence") := rfl

theorem listStep_item {item : Reader α} {lead text : List Char} {a : α} (blank : Blank lead)
    (opens : Opens text) (reads : Reads item text (.ok a)) (reversed : List α) {rest : List Char}
    (apart : Apart rest) :
    listStep item reversed ((if reversed.isEmpty then lead else ',' :: lead) ++ (text ++ rest)) =
      .ok (.inl (a :: reversed), rest) := by
  rw [listStep, bind_apply, toItem_part blank opens]
  have read := reads [] rest .nil apart
  rw [List.nil_append] at read
  dsimp only
  rw [if_pos rfl, bind_apply, read]
  rfl

/-- Reading goes round once for each item, and once more for the end. -/
theorem list_rounds {item : Reader α} {lead close : List Char} (lead_blank : Blank lead)
    (close_blank : Blank close) {texts : List (List Char)} {values : List α}
    (reads : List.Forall₂ (fun text a => Opens text ∧ Reads item text (.ok a)) texts values)
    (rest : List Char) : ∀ more reversed, texts.length < more →
      rounds (listStep item) more reversed
          (Doc.parts lead reversed.isEmpty texts ++ (close ++ ']' :: rest)) =
        .ok (reversed.reverse ++ values, rest) := by
  induction reads with
  | nil =>
      intro more reversed enough
      obtain ⟨more, rfl⟩ := Nat.exists_eq_add_of_lt enough
      rw [List.append_nil]
      refine rounds_inr ?_ _
      rw [Doc.parts, List.nil_append, listStep, bind_apply, toItem_end close_blank]
      rfl
  | @cons text a texts values one _ ih =>
      intro more reversed enough
      cases more with
      | zero => cases enough
      | succ more =>
          have apart : Apart (Doc.parts lead false texts ++ (close ++ ']' :: rest)) :=
            Doc.parts_apart lead texts (.blank close_blank (.cons (by decide) rest))
          rw [Doc.parts, List.append_assoc, List.append_assoc,
            rounds_inl (listStep_item lead_blank one.1 one.2 reversed apart)]
          have := ih more (a :: reversed) (Nat.lt_of_succ_lt_succ enough)
          rw [List.reverse_cons, List.append_assoc, List.singleton_append] at this
          exact this

end Reader

namespace Schema

variable {ρ : Type} {schema : Schema ρ}

/-! ## Records -/

/-- What reading does after the comma between two members. -/
def keyAfterComma : Reader Bool := do
  match ← Reader.look with
  | none => Reader.stop .endInValue
  | some '"' => pure true
  | some '\x7d' => Reader.stop .trailingComma
  | some _ => Reader.stop .keyNotText

theorem toKey_comma (text : List Char) : toKey false (',' :: text) = keyAfterComma text := rfl

theorem toKey_member {lead : List Char} (blank : Blank lead) (first : Bool) (rest : List Char) :
    toKey first ((if first then lead else ',' :: lead) ++ '"' :: rest) = .ok (true, '"' :: rest) := by
  have seen : look (lead ++ '"' :: rest) = .ok (some '"', '"' :: rest) := by
    rw [look_blank blank, look_cons (by decide)]
  cases first with
  | true =>
      rw [if_pos rfl, toKey, bind_apply, seen]
      rfl
  | false =>
      rw [if_neg (by decide), List.cons_append, toKey_comma, keyAfterComma, bind_apply, seen]
      rfl

theorem toKey_end {close : List Char} (blank : Blank close) (first : Bool) (rest : List Char) :
    toKey first (close ++ '\x7d' :: rest) = .ok (false, '\x7d' :: rest) := by
  rw [toKey, bind_apply, look_blank blank, look_cons (by decide)]
  rfl

/-- A member that is not there yet is set to what is read after its key. -/
theorem member_reads {draft : Draft ρ} {known : Member ρ} {gap value : List Char}
    {outcome : Except Defect (ρ → ρ)}
    (found : (schema.members.find? fun member => member.name == known.name) = some known)
    (fresh : known.name ∉ draft.present) (blank : Blank gap) (reads : Reads known.read value outcome)
    {rest : List Char} (apart : Apart rest) :
    schema.member draft (Escape.encode known.name.toList ++ ':' :: (gap ++ (value ++ rest))) =
      outcome.map fun set => (⟨set draft.record, known.name :: draft.present, false⟩, rest) := by
  rw [Escape.encode_append]
  change (Escape.decode >>= _) (known.name.toList.flatMap Escape.encodeChar ++ _) = _
  rw [bind_apply, Escape.decode_encode, String.ofList_toList]
  dsimp only
  rw [found]
  dsimp only
  rw [if_neg (by simpa using fresh)]
  change (known.read >>= fun set => pure _) (gap ++ (value ++ rest)) = _
  rw [bind_apply, reads gap rest blank apart]
  cases outcome <;> rfl

/-- What reading does at the next member of a record. -/
def objectStep (schema : Schema ρ) (draft : Draft ρ) : Reader (Draft ρ ⊕ ρ) := do
  if ← toKey draft.atStart then return .inl (← schema.member draft)
  else
    match schema.firstMissing draft.present with
    | some name => Reader.stop (.missingMember name)
    | none =>
      Reader.advance
      pure (.inr draft.record)

theorem objectStep_member (draft : Draft ρ) {known : Member ρ} {style : Doc.Style} {doc : Doc}
    {outcome : Except Defect (ρ → ρ)}
    (found : (schema.members.find? fun member => member.name == known.name) = some known)
    (fresh : known.name ∉ draft.present)
    (reads : Reads known.read (doc.written style.inner) outcome) {rest : List Char}
    (apart : Apart rest) :
    schema.objectStep draft ((if draft.atStart then style.lead else ',' :: style.lead) ++
        (Doc.memberText style (known.name, doc) ++ rest)) =
      outcome.map fun set => (.inl ⟨set draft.record, known.name :: draft.present, false⟩, rest) := by
  rw [Doc.memberText_append, objectStep, bind_apply, Escape.encode_append,
    toKey_member (Doc.lead_blank style), ← Escape.encode_append]
  dsimp only
  rw [if_pos rfl, bind_apply, member_reads found fresh (Doc.gap_blank style) reads apart]
  cases outcome <;> rfl

theorem object_eq : schema.object = iterate schema.objectStep ⟨schema.blank, [], true⟩ := rfl

theorem firstMissing_none {present : List String}
    (covered : ∀ member ∈ schema.members, member.name ∈ present) :
    schema.firstMissing present = none := by
  rw [firstMissing]
  split
  · rfl
  · rw [Option.map_eq_none_iff, List.find?_eq_none]
    intro member inside
    simp [covered member inside]

/-- Sets the members one after another, up to the first that has a defect. -/
def assemble (record : ρ) (outcomes : List (Except Defect (ρ → ρ))) : Except Defect ρ :=
  outcomes.foldlM (fun record outcome => outcome.map fun set => set record) record

theorem find?_named {members : List (Member ρ)} (distinct : (members.map Member.name).Nodup)
    {known : Member ρ} (inside : known ∈ members) :
    (members.find? fun member => member.name == known.name) = some known := by
  induction members with
  | nil => cases inside
  | cons member members ih =>
      rw [List.map_cons, List.nodup_cons] at distinct
      rcases List.mem_cons.1 inside with rfl | after
      · rw [List.find?_cons_of_pos (by simp)]
      · have other : member.name ≠ known.name := fun same =>
          distinct.1 (same ▸ List.mem_map_of_mem after)
        rw [List.find?_cons_of_neg (by simpa using other)]
        exact ih distinct.2 after

/-- What is still to come of a record that is being read: members that are not
there yet, and with those that are, all. -/
structure Ahead (schema : Schema ρ) (draft : Draft ρ) (todo : List (Member ρ)) : Prop where
  found : ∀ known ∈ todo,
    (schema.members.find? fun member => member.name == known.name) = some known
  distinct : (todo.map Member.name).Nodup
  fresh : ∀ member ∈ todo, member.name ∉ draft.present
  covered : ∀ member ∈ schema.members, member.name ∈ draft.present ∨ member ∈ todo

theorem Ahead.start (distinct : (schema.members.map Member.name).Nodup) :
    schema.Ahead ⟨schema.blank, [], true⟩ schema.members where
  found _ inside := find?_named distinct inside
  distinct := distinct
  fresh _ _ := List.not_mem_nil
  covered _ inside := .inr inside

theorem Ahead.next {draft : Draft ρ} {known : Member ρ} {todo : List (Member ρ)}
    (ahead : schema.Ahead draft (known :: todo)) (record : ρ) :
    schema.Ahead ⟨record, known.name :: draft.present, false⟩ todo := by
  obtain ⟨apart, distinct⟩ := List.nodup_cons.1 ahead.distinct
  refine ⟨fun other inside => ahead.found other (.tail known inside), distinct, ?_, ?_⟩
  · intro other inside
    rw [List.mem_cons, not_or]
    refine ⟨fun same => apart ?_, ahead.fresh other (.tail known inside)⟩
    exact same ▸ List.mem_map_of_mem inside
  · intro other inside
    rcases ahead.covered other inside with before | among
    · exact .inl (.tail known.name before)
    · rcases List.mem_cons.1 among with rfl | after
      · exact .inl List.mem_cons_self
      · exact .inr after

/-- Reading goes round once for each member that is still to come, and once more for the end. -/
theorem object_rounds {style : Doc.Style} {close : List Char} {source : ρ} (blank : Blank close)
    {todo : List (Member ρ)} {outcomes : List (Except Defect (ρ → ρ))}
    (reads : List.Forall₂ (fun member outcome =>
      Reads member.read ((member.write source).written style.inner) outcome) todo outcomes)
    (rest : List Char) : ∀ more draft, todo.length < more → schema.Ahead draft todo →
      rounds schema.objectStep more draft
          (Doc.parts style.lead draft.atStart
              (todo.map fun member => Doc.memberText style (member.name, member.write source)) ++
            (close ++ '\x7d' :: rest)) =
        (assemble draft.record outcomes).map (·, rest) := by
  -- by induction on what is still to come; the draft holds what was read of the rest
  induction reads with
  | nil =>
      intro more draft enough ahead
      obtain ⟨more, rfl⟩ := Nat.exists_eq_add_of_lt enough
      have complete := firstMissing_none fun member inside => by simpa using ahead.covered member inside
      refine rounds_inr ?_ _
      rw [List.map_nil, Doc.parts, List.nil_append, objectStep, bind_apply, toKey_end blank]
      dsimp only
      rw [if_neg (by decide), complete]
      rfl
  | @cons known outcome todo outcomes one _ ih =>
      intro more draft enough ahead
      cases more with
      | zero => cases enough
      | succ more =>
          have apart : Apart (Doc.parts style.lead false
              (todo.map fun member => Doc.memberText style (member.name, member.write source)) ++
                (close ++ '\x7d' :: rest)) :=
            Doc.parts_apart _ _ (.blank blank (.cons (by decide) rest))
          have step := objectStep_member draft (ahead.found known List.mem_cons_self)
            (ahead.fresh known List.mem_cons_self) one apart
          rw [List.map_cons, Doc.parts, List.append_assoc, List.append_assoc]
          cases outcome with
          | error defect => exact rounds_error step more
          | ok set =>
              rw [rounds_inl step]
              exact ih more ⟨set draft.record, known.name :: draft.present, false⟩
                (Nat.lt_of_succ_lt_succ enough) (ahead.next (set draft.record))

end Schema

/-! ## What is written reads back -/

namespace Format

variable {α : Type}

/-- Reading makes `outcome` of what is written of `a`, however it is written. -/
def Recovers (format : Format α) (a : α) (outcome : Except Defect α) : Prop :=
  ∀ style, Reads format.read ((format.write a).written style) outcome

theorem integer_recovers {least greatest n : Int} (name : String) (from_least : least ≤ n)
    (to_greatest : n ≤ greatest) (signed : -9223372036854775808 ≤ n) (fits : n < UInt64.size) :
    (integer least greatest name).Recovers n (.ok n) := by
  intro style
  rw [integer, Doc.written_integer]
  exact integer_reads name from_least to_greatest signed fits

theorem natural_recovers {greatest n : Nat} (name : String) (to_greatest : n ≤ greatest)
    (fits : n < UInt64.size) : (natural greatest name).Recovers n (.ok n) := by
  intro style
  rw [natural, Doc.written_integer]
  exact (integer_reads name (by omega) (by omega) (by omega) (by omega)).map Int.toNat

theorem text_recovers (value : String) : text.Recovers value (.ok value) := by
  intro style
  rw [text, Doc.written_text]
  exact text_reads value

theorem variants_recovers {table : List (String × α)} {nameOf : α → String} {a : α}
    (named : table.lookup (nameOf a) = some a) : (variants table nameOf).Recovers a (.ok a) := by
  intro style
  rw [variants, Doc.written_text]
  exact variant_reads named

/-- A finite number reads back if its digits do; any other is written as `null`. -/
theorem single_recovers {x : Single} (restored : x.isFinite = true → x.Restored) :
    single.Recovers x (if x.isFinite then .ok x else .error (.wrongKind .null "f32")) := by
  intro style
  rw [single, Doc.written_single, Doc.singleText]
  by_cases finite : x.isFinite = true
  · rw [if_pos finite, if_pos finite]
    exact single_extends.reads single_padded (restored finite)
  · rw [if_neg finite, if_neg finite]
    exact single_null

theorem list_recovers {item : Format α} {values : List α}
    (opens : ∀ a ∈ values, ∀ style, Opens ((item.write a).written style))
    (recovers : ∀ a ∈ values, item.Recovers a (.ok a)) : (list item).Recovers values (.ok values) := by
  intro style space rest blank _
  obtain ⟨close, close_blank, written⟩ := Doc.written_list style (values.map item.write)
  have reads : List.Forall₂ (fun text a => Opens text ∧ Reads item.read text (.ok a))
      ((values.map item.write).map (Doc.written style.inner)) values := by
    rw [List.map_map, List.forall₂_map_left_iff, List.forall₂_same]
    exact fun a inside => ⟨opens a inside style.inner, recovers a inside style.inner⟩
  have read := list_rounds (Doc.lead_blank style) close_blank reads rest
  rw [list, written]
  change Reader.list item.read _ = _
  rw [list_eq, padded_look _ space _ blank, List.cons_append, bind_apply, look_cons (by decide)]
  change iterate (listStep item.read) [] _ = _
  rw [iterate, List.append_assoc, List.append_assoc, List.singleton_append]
  exact read _ [] (Doc.length_parts_lt _ _ _ _ _)

/-- A page is read as a whole. -/
theorem whole_page (format : Format α) {a : α} {outcome : Except Defect α}
    (recovers : format.Recovers a outcome) : whole format.read (format.write a).page = outcome := by
  have read := recovers (.page 0) [] [] .nil .nil
  rw [List.nil_append, List.append_nil] at read
  have text : (format.write a).page.toList = (format.write a).written (.page 0) :=
    String.toList_ofList
  rw [whole, text, read]
  cases outcome <;> rfl

end Format

section Record

variable {ρ α : Type}

/-- Reading makes `outcome` of what is written of a member of `record`. -/
def Member.Recovers (member : Member ρ) (record : ρ) (outcome : Except Defect (ρ → ρ)) : Prop :=
  ∀ style, Reads member.read ((member.write record).written style) outcome

theorem Member.of_recovers {name : String} {format : Format α} {get : ρ → α} {set : α → ρ → ρ}
    {record : ρ} {outcome : Except Defect α} (recovers : format.Recovers (get record) outcome) :
    (Member.of name format get set).Recovers record (outcome.map set) :=
  fun style => (recovers style).map set

variable (schema : Schema ρ) (record : ρ)

/-- **What is written of a record is read member by member, in order, up to the first member that
does not read back.** -/
theorem Schema.format_recovers (distinct : (schema.members.map Member.name).Nodup)
    {outcomes : List (Except Defect (ρ → ρ))}
    (recovers : List.Forall₂ (fun member outcome => member.Recovers record outcome) schema.members outcomes) :
    schema.format.Recovers record (Schema.assemble schema.blank outcomes) := by
  intro style space rest blank _
  obtain ⟨close, close_blank, written⟩ := Doc.written_record style
    (schema.members.map fun member => (member.name, member.write record))
  have enough := Doc.length_parts_lt style.lead
    (schema.members.map fun member => Doc.memberText style (member.name, member.write record))
    close '\x7d' rest
  rw [List.length_map] at enough
  have members := recovers.imp fun _ _ one => one style.inner
  change schema.read (space ++ (Doc.written style (.record _) ++ rest)) = _
  rw [written, Schema.read, padded_look _ space _ blank, List.cons_append, bind_apply,
    look_cons (by decide)]
  change schema.object _ = _
  rw [Schema.object_eq, iterate, List.append_assoc, List.append_assoc, List.singleton_append, List.map_map]
  exact Schema.object_rounds close_blank members rest _ ⟨schema.blank, [], true⟩ enough (.start distinct)

theorem Schema.opens (style : Doc.Style) : Opens ((schema.format.write record).written style) := by
  obtain ⟨close, _, written⟩ := Doc.written_record style
    (schema.members.map fun member => (member.name, member.write record))
  exact ⟨'\x7b', _, written, by decide, by decide⟩

end Record

/-! ## What is read holds -/

namespace Reader

variable {α : Type}

theorem integer_yields (least greatest : Int) (expected : String) :
    Yields (integer least greatest expected) fun n => least ≤ n ∧ n ≤ greatest := by
  refine .after fun number => ?_
  cases number with
  | integer n =>
      dsimp only
      split
      · exact .pure ‹_›
      · exact .stop _ _
  | float x => exact .stop _ _

theorem list_yields {item : Reader α} {P : α → Prop} (each : Yields item P) :
    Yields (list item) fun values => ∀ a ∈ values, P a := by
  refine .after fun following => ?_
  split
  · refine .after fun _ => .iterate (I := fun reversed => ∀ a ∈ reversed, P a) ?_ nofun
    intro reversed all
    refine .after fun another => ?_
    split
    · refine each.bind fun a holds => .pure ?_
      exact List.forall_mem_cons.2 ⟨holds, all⟩
    · refine .after fun _ => .pure ?_
      exact fun a inside => all a (List.mem_reverse.1 inside)
  · exact mismatch_yields _ _

end Reader

theorem Format.natural_yields (greatest : Nat) (name : String) :
    Yields (Format.natural greatest name).read fun n => n ≤ greatest :=
  (integer_yields 0 greatest name).bind fun _ bounds => .pure (by omega)

section Record

variable {ρ α : Type}

/-- Whatever is read of a member keeps a property of the record. -/
def Member.Keeps (member : Member ρ) (P : ρ → Prop) : Prop :=
  Yields member.read fun change => ∀ record, P record → P (change record)

variable {P : ρ → Prop} {schema : Schema ρ}

theorem Member.of_keeps {name : String} {format : Format α} {get : ρ → α} {set : α → ρ → ρ}
    {Q : α → Prop} (values : Yields format.read Q)
    (kept : ∀ value record, Q value → P record → P (set value record)) :
    (Member.of name format get set).Keeps P :=
  values.bind fun value holds => .pure fun record => kept value record holds

namespace Schema

theorem member_yields (kept : ∀ member ∈ schema.members, member.Keeps P) {draft : Draft ρ}
    (holds : P draft.record) : Yields (schema.member draft) fun following => P following.record := by
  refine .after fun _ => .after fun key => ?_
  split
  · exact .after fun _ => .after fun _ => .pure holds
  · rename_i known found
    split
    · exact .stop _ _
    · refine .after fun _ => (kept known (List.mem_of_find?_eq_some found)).bind fun change keeps => ?_
      exact .pure (keeps draft.record holds)

theorem object_yields (kept : ∀ member ∈ schema.members, member.Keeps P) (blank : P schema.blank) :
    Yields schema.object P := by
  refine .iterate (I := fun draft => P draft.record) (fun draft holds => ?_) blank
  refine .after fun another => ?_
  split
  · exact (member_yields kept holds).bind fun following holds => .pure holds
  · split
    · exact .stop _ _
    · exact .after fun _ => .pure holds

theorem values_yields {members : List (Member ρ)} (kept : ∀ member ∈ members, member.Keeps P)
    {record : ρ} (holds : P record) (index : Nat) :
    Yields (schema.values record index members) P := by
  induction members generalizing record index with
  | nil => exact .pure holds
  | cons member members ih =>
      refine .after fun another => ?_
      split
      · refine (kept member List.mem_cons_self).bind fun change keeps => ?_
        exact ih (fun other inside => kept other (.tail member inside)) (keeps record holds) _
      · split
        · exact .pure holds
        · exact .stop _ _

/-- What the blank record has, and every member keeps, every record has that is read. -/
theorem read_yields (kept : ∀ member ∈ schema.members, member.Keeps P) (blank : P schema.blank) :
    Yields schema.read P := by
  refine .after fun following => ?_
  split
  · exact .after fun _ => object_yields kept blank
  · exact .after fun _ => (values_yields kept blank 0).bind fun record holds =>
      .after fun _ => .pure holds
  · exact mismatch_yields _ _

end Schema

end Record

end FusionSensors.Json
