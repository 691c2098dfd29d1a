/-
# FusionSensors.Proofs.Members -- what an object comes to

An object is read exactly if each of its pairs can be read, no known member
stands in it twice, and none that it must hold is lacking (`Admits`). What is
read of it is then made from the changes of its known members, one after
another (`object_admits`, `object_refuses`). All three conditions are about
single pairs or about the set of names, and not about order.

So a record is, like a list, a value that its reader goes by alone
(`Schema.settles`).
-/
import FusionSensors.Proofs.Settling

namespace FusionSensors.Json

set_option autoImplicit false

open Reader

/-- A key between quotes spells a name. -/
def Names (key : List Char) (name : String) : Prop := Escape.decode (key ++ ['"']) = .ok (name, [])

instance (key : List Char) (name : String) : Decidable (Names key name) :=
  inferInstanceAs (Decidable (Escape.decode (key ++ ['"']) = .ok (name, [])))

namespace Schema

variable {ρ : Type} (schema : Schema ρ)

/-- What a pair is to a schema: nothing if its name is unknown, and otherwise a
change to the member of that name. -/
def finds (pair : Pair) : Except Defect (Option (String × (ρ → ρ))) :=
  match Escape.decode (pair.key ++ ['"']) with
  | .error defect => .error defect
  | .ok (name, _) =>
    match schema.members.find? fun member => member.name == name with
    | none => .ok none
    | some known => (known.read pair.value).map fun read => some (known.name, read.1)

/-- The changes that the known members of an object make, in order. -/
def changes (pairs : List Pair) : List (String × (ρ → ρ)) :=
  pairs.filterMap fun pair => (schema.finds pair).toOption.join

/-- The known names in an object, in order. -/
def names (pairs : List Pair) : List String := (schema.changes pairs).map Prod.fst

/-- No member that an object must hold is lacking. -/
def Complete (present : List String) : Prop :=
  schema.filled = true ∨ ∀ member ∈ schema.members, member.isOptional = false → member.name ∈ present

/-- An object can be read after the members that are `present`. -/
structure Admits (present : List String) (pairs : List Pair) : Prop where
  readable : ∀ pair ∈ pairs, ∃ found, schema.finds pair = .ok found
  once : (schema.names pairs ++ present).Nodup
  complete : schema.Complete (schema.names pairs ++ present)

/-- What is made of an object. -/
def made (record : ρ) (pairs : List Pair) : ρ :=
  (schema.changes pairs).foldl (fun record change => change.2 record) record

section Pairs

variable {schema} {pair : Pair} {pairs : List Pair}

theorem Complete.of_subset {present others : List String} (complete : schema.Complete present)
    (inside : present ⊆ others) : schema.Complete others :=
  complete.imp_right fun covered member known required => inside (covered member known required)

theorem changes_extra (extra : schema.finds pair = .ok none) :
    schema.changes (pair :: pairs) = schema.changes pairs := by
  rw [changes, List.filterMap_cons, extra]
  rfl

theorem changes_sets {name : String} {change : ρ → ρ} (sets : schema.finds pair = .ok (some (name, change))) :
    schema.changes (pair :: pairs) = (name, change) :: schema.changes pairs := by
  rw [changes, List.filterMap_cons, sets]
  rfl

theorem firstMissing_eq_none {present : List String} :
    schema.firstMissing present = none ↔ schema.Complete present := by
  rw [firstMissing, Complete]
  split
  · rename_i filled
    simp [filled]
  · rename_i filled
    simp [filled]

theorem admits_nil {present : List String} :
    schema.Admits present [] ↔ present.Nodup ∧ schema.Complete present :=
  ⟨fun ⟨_, once, complete⟩ => ⟨once, complete⟩, fun ⟨once, complete⟩ => ⟨nofun, once, complete⟩⟩

theorem admits_extra {present : List String} (extra : schema.finds pair = .ok none) :
    schema.Admits present (pair :: pairs) ↔ schema.Admits present pairs := by
  have same : schema.names (pair :: pairs) = schema.names pairs := by rw [names, changes_extra extra, names]
  constructor
  · rintro ⟨readable, once, complete⟩
    exact ⟨fun other inside => readable other (.tail pair inside), same ▸ once, same ▸ complete⟩
  · rintro ⟨readable, once, complete⟩
    refine ⟨List.forall_mem_cons.2 ⟨⟨none, extra⟩, readable⟩, same.symm ▸ once, same.symm ▸ complete⟩

theorem admits_sets {present : List String} {name : String} {change : ρ → ρ}
    (sets : schema.finds pair = .ok (some (name, change))) :
    schema.Admits present (pair :: pairs) ↔ schema.Admits (name :: present) pairs := by
  have same : schema.names (pair :: pairs) = name :: schema.names pairs := by
    rw [names, changes_sets sets, List.map_cons, names]
  have moved : (schema.names (pair :: pairs) ++ present).Perm (schema.names pairs ++ name :: present) := by
    rw [same]
    exact List.perm_middle.symm
  constructor
  · rintro ⟨readable, once, complete⟩
    exact ⟨fun other inside => readable other (.tail pair inside), moved.nodup_iff.1 once,
      complete.of_subset moved.subset⟩
  · rintro ⟨readable, once, complete⟩
    exact ⟨List.forall_mem_cons.2 ⟨⟨_, sets⟩, readable⟩, moved.nodup_iff.2 once,
      complete.of_subset moved.symm.subset⟩

/-! ## One pair -/

/-- How the name and the value of a pair decide what it is to a schema. -/
inductive Found (schema : Schema ρ) (pair : Pair) : Except Defect (Option (String × (ρ → ρ))) → Prop
  | badKey {defect : Defect} (stops : Stops Escape.decode (pair.key ++ ['"'])) :
      Found schema pair (.error defect)
  | extra {name : String} (names : Makes Escape.decode (pair.key ++ ['"']) name)
      (unknown : (schema.members.find? fun member => member.name == name) = none) :
      Found schema pair (.ok none)
  | badValue {known : Member ρ} {defect : Defect}
      (names : Makes Escape.decode (pair.key ++ ['"']) known.name)
      (inside : (schema.members.find? fun member => member.name == known.name) = some known)
      (stops : Stops known.read pair.value) : Found schema pair (.error defect)
  | sets {known : Member ρ} {change : ρ → ρ}
      (names : Makes Escape.decode (pair.key ++ ['"']) known.name)
      (inside : (schema.members.find? fun member => member.name == known.name) = some known)
      (makes : Makes known.read pair.value change) : Found schema pair (.ok (some (known.name, change)))

/-- Every member of a schema is read by its value alone. -/
def Settled (schema : Schema ρ) : Prop := ∀ member ∈ schema.members, Settles member.read

theorem finds_found (settled : schema.Settled) (valid : pair.Valid) :
    Found schema pair (schema.finds pair) := by
  have decided := Escape.decode_decided valid.key
  rw [finds]
  split
  · rename_i defect stopped
    exact .badKey (decided.stops stopped)
  · rename_i name _ decoded
    have names := decided.makes decoded
    split
    · rename_i unknown
      exact .extra names unknown
    · rename_i known inside
      have same : known.name = name := by simpa using List.find?_some inside
      subst same
      have value := (settled known (List.mem_of_find?_eq_some inside)).decided pair.value valid.json
      cases read : known.read pair.value with
      | error defect => exact .badValue names inside (value.stops read)
      | ok result => exact .sets names inside (value.makes read)

section Reading

variable {draft : Draft ρ} {more : List Char}

theorem toKey_pair (spaced : pair.Spaced) {space : List Char} (blank : Blank space) (first : Bool)
    (texts : List (List Char)) (rest : List Char) :
    toKey first (space ++ (Doc.parts [] first (pair.text :: texts) ++ rest)) =
      .ok (true, '"' :: (pair.key ++ '"' :: (pair.gap ++ ':' ::
        (pair.item.text ++ (Doc.parts [] false texts ++ rest))))) := by
  have key := toKey_member spaced.lead first (pair.key ++ '"' :: (pair.gap ++ ':' ::
    (pair.item.text ++ (Doc.parts [] false texts ++ rest))))
  rw [toKey, padded_look _ space _ blank, ← toKey]
  cases first <;> simpa [Doc.parts, Pair.text, Pair.front] using key

/-- A member is read from the quote before its key on. -/
theorem member_named {name : String} (names : Makes Escape.decode (pair.key ++ ['"']) name)
    (spaced : pair.Spaced) (draft : Draft ρ) (more : List Char) :
    schema.member draft ('"' :: (pair.key ++ '"' :: (pair.gap ++ ':' :: more))) =
      (match schema.members.find? fun member => member.name == name with
        | none => (do
          Skip.colon
          Skip.value
          pure { draft with atStart := false } : Reader (Draft ρ)) (pair.gap ++ ':' :: more)
        | some known =>
          if draft.present.contains name then .error (.repeatedMember name)
          else (do
            let change ← known.read
            pure ⟨change draft.record, name :: draft.present, false⟩ : Reader (Draft ρ)) more) := by
  have apart : Apart (pair.gap ++ ':' :: more) := .blank spaced.gap (.cons (by decide) more)
  show (Escape.decode >>= _) (pair.key ++ '"' :: (pair.gap ++ ':' :: more)) = _
  rw [bind_apply, List.append_cons, names _ apart]
  dsimp only
  cases schema.members.find? fun member => member.name == name with
  | none => rfl
  | some known =>
      dsimp only
      split
      · rfl
      · rw [bind_apply, Skip.colon_skips spaced.gap]

/-- What reading comes to at a pair, with what is left, by what the pair is to the schema. -/
def Comes (draft : Draft ρ) (left : List Char) (result : Except Defect (Draft ρ × List Char)) :
    Except Defect (Option (String × (ρ → ρ))) → Prop
  | .error _ => ∃ defect, result = .error defect
  | .ok none => result = .ok ({ draft with atStart := false }, left)
  | .ok (some (name, change)) =>
    if name ∈ draft.present then ∃ defect, result = .error defect
    else result = .ok (⟨change draft.record, name :: draft.present, false⟩, left)

theorem member_comes (settled : schema.Settled) (valid : pair.Valid) (draft : Draft ρ)
    {more : List Char} (apart : Apart more) :
    Comes draft (pair.item.trail ++ more)
      (schema.member draft ('"' :: (pair.key ++ '"' :: (pair.gap ++ ':' :: (pair.item.text ++ more)))))
      (schema.finds pair) := by
  have ends : Apart (pair.item.trail ++ more) := .blank valid.item.trail apart
  have item : pair.item.text ++ more = pair.item.lead ++ (pair.value ++ (pair.item.trail ++ more)) := by
    simp [Item.text, Pair.value]
  have is := finds_found settled valid
  generalize schema.finds pair = found at is
  cases is with
  | badKey stops =>
      obtain ⟨defect, stopped⟩ := stops (pair.gap ++ ':' :: (pair.item.text ++ more))
        (.blank valid.gap (.cons (by decide) _))
      refine ⟨defect, ?_⟩
      show (Escape.decode >>= _) (pair.key ++ '"' :: (pair.gap ++ ':' :: (pair.item.text ++ more))) = _
      rw [bind_apply, List.append_cons, stopped]
  | extra names unknown =>
      rw [Comes]
      rw [member_named names valid.toSpaced, unknown]
      dsimp only
      rw [bind_apply, Skip.colon_skips valid.gap]
      dsimp only
      rw [bind_apply, item, Skip.value_skips valid.json valid.item.lead ends]
      rfl
  | badValue names inside stops =>
      have padded := (settled _ (List.mem_of_find?_eq_some inside)).padded
      rw [Comes]
      rw [member_named names valid.toSpaced, inside]
      dsimp only
      split
      · exact ⟨_, rfl⟩
      · obtain ⟨defect, stopped⟩ := stops _ ends
        exact ⟨defect, by rw [bind_apply, item, padded _ _ valid.item.lead, stopped]⟩
  | sets names inside makes =>
      have padded := (settled _ (List.mem_of_find?_eq_some inside)).padded
      rw [Comes]
      rw [member_named names valid.toSpaced, inside]
      dsimp only
      split
      · rename_i present
        rw [if_pos (by simpa using present)]
        exact ⟨_, rfl⟩
      · rename_i fresh
        rw [if_neg (by simpa using fresh), bind_apply, item, padded _ _ valid.item.lead, makes _ ends]
        rfl

/-! ## All pairs -/

theorem objectStep_pair (schema : Schema ρ) (draft : Draft ρ) (spaced : pair.Spaced) {space : List Char}
    (blank : Blank space) (texts : List (List Char)) (rest : List Char) :
    schema.objectStep draft (space ++ (Doc.parts [] draft.atStart (pair.text :: texts) ++ rest)) =
      (schema.member draft ('"' :: (pair.key ++ '"' :: (pair.gap ++ ':' ::
        (pair.item.text ++ (Doc.parts [] false texts ++ rest)))))).map fun read => (.inl read.1, read.2) := by
  rw [objectStep, bind_apply, toKey_pair spaced blank]
  dsimp only
  rw [if_pos rfl, bind_apply]
  cases schema.member draft _ <;> rfl

theorem objectStep_end (schema : Schema ρ) (draft : Draft ρ) {space close : List Char} (blank : Blank space)
    (close_blank : Blank close) (rest : List Char) :
    schema.objectStep draft (space ++ (Doc.parts [] draft.atStart [] ++ (close ++ '\x7d' :: rest))) =
      match schema.firstMissing draft.present with
      | some name => .error (.missingMember name)
      | none => .ok (.inr draft.record, rest) := by
  have ends := toKey_end close_blank draft.atStart rest
  rw [objectStep, bind_apply, toKey, padded_look _ space _ blank, ← toKey, Doc.parts, List.nil_append, ends]
  dsimp only
  rw [if_neg (by decide)]
  cases schema.firstMissing draft.present <;> rfl

variable {close rest : List Char}

/-- An object is read exactly if it is admitted, and then made from the changes of its members. -/
theorem rounds_object (settled : schema.Settled) (close_blank : Blank close)
    (valid : ∀ pair ∈ pairs, pair.Valid) : ∀ more (draft : Draft ρ) space, Blank space →
      draft.present.Nodup → pairs.length < more →
      let outcome := rounds schema.objectStep more draft
        (space ++ (Doc.parts [] draft.atStart (pairs.map Pair.text) ++ (close ++ '\x7d' :: rest)))
      (schema.Admits draft.present pairs → outcome = .ok (schema.made draft.record pairs, rest)) ∧
        (¬ schema.Admits draft.present pairs → ∃ defect, outcome = .error defect) := by
  -- by induction on the pairs that are left; the draft holds what was read before them
  induction pairs with
  | nil =>
      intro more draft space blank distinct enough
      obtain ⟨more, rfl⟩ := Nat.exists_eq_add_of_lt enough
      have step := schema.objectStep_end draft blank close_blank rest
      rw [admits_nil, ← firstMissing_eq_none]
      constructor
      · rintro ⟨_, complete⟩
        rw [complete] at step
        exact rounds_inr step _
      · intro lacking
        cases missing : schema.firstMissing draft.present with
        | none => exact absurd ⟨distinct, missing⟩ lacking
        | some name =>
            rw [missing] at step
            exact ⟨_, rounds_error step _⟩
  | cons pair pairs ih =>
      intro more draft space blank distinct enough
      obtain ⟨here, others⟩ := List.forall_mem_cons.1 valid
      have apart : Apart (Doc.parts [] false (pairs.map Pair.text) ++ (close ++ '\x7d' :: rest)) :=
        Doc.parts_apart _ _ (.blank close_blank (.cons (by decide) rest))
      have step := schema.objectStep_pair draft here.toSpaced blank (pairs.map Pair.text)
        (close ++ '\x7d' :: rest)
      have reads := member_comes settled here draft apart
      rw [List.map_cons]
      cases finds : schema.finds pair with
      | error defect =>
          rw [finds] at reads
          obtain ⟨stopped, read⟩ := reads
          rw [read] at step
          refine ⟨fun admits => ?_, fun _ => rounds_stops_here ⟨stopped, step⟩ more⟩
          obtain ⟨found, same⟩ := admits.readable pair List.mem_cons_self
          rw [finds] at same
          cases same
      | ok found =>
          rw [finds] at reads
          cases found with
          | none =>
              rw [Comes] at reads
              rw [reads] at step
              rw [admits_extra finds, made, changes_extra finds]
              obtain ⟨fewer, enough, goes⟩ := rounds_next step enough
              rw [goes]
              exact ih others fewer { draft with atStart := false } _ here.item.trail distinct enough
          | some set =>
              obtain ⟨name, change⟩ := set
              rw [Comes] at reads
              rw [admits_sets finds, made, changes_sets finds]
              split at reads
              · rename_i present
                obtain ⟨stopped, read⟩ := reads
                rw [read] at step
                refine ⟨fun admits => ?_, fun _ => rounds_stops_here ⟨stopped, step⟩ more⟩
                exact absurd present (List.nodup_cons.1 (List.nodup_append.1 admits.once).2.1).1
              · rename_i fresh
                rw [reads] at step
                obtain ⟨fewer, enough, goes⟩ := rounds_next step enough
                rw [goes]
                exact ih others fewer ⟨change draft.record, name :: draft.present, false⟩ _
                  here.item.trail (List.nodup_cons.2 ⟨fresh, distinct⟩) enough

theorem record_begins (schema : Schema ρ) (pairs : List Pair) :
    schema.read (recordText pairs close ++ rest) = iterate schema.objectStep ⟨schema.blank, [], true⟩
      (Doc.parts [] true (pairs.map Pair.text) ++ (close ++ '\x7d' :: rest)) := by
  rw [read, bind_apply, recordText, List.cons_append, look_cons (by decide), List.append_assoc,
    List.append_assoc]
  rfl

theorem record_outcome (settled : schema.Settled) (close_blank : Blank close)
    (valid : ∀ pair ∈ pairs, pair.Valid) (rest : List Char) :
    (schema.Admits [] pairs →
      schema.read (recordText pairs close ++ rest) = .ok (schema.made schema.blank pairs, rest)) ∧
    (¬ schema.Admits [] pairs → ∃ defect, schema.read (recordText pairs close ++ rest) = .error defect) := by
  have enough := Doc.length_parts_lt [] (pairs.map Pair.text) close '\x7d' rest
  rw [List.length_map] at enough
  rw [record_begins, iterate]
  exact rounds_object settled close_blank valid _ ⟨schema.blank, [], true⟩ [] .nil List.nodup_nil enough

/-- **An object that can be read is made from the changes of its members.** -/
theorem object_admits (settled : schema.Settled) (close_blank : Blank close)
    (valid : ∀ pair ∈ pairs, pair.Valid) (admits : schema.Admits [] pairs) :
    Makes schema.read (recordText pairs close) (schema.made schema.blank pairs) :=
  fun rest _ => (record_outcome settled close_blank valid rest).1 admits

/-- **Any other object is refused.** -/
theorem object_refuses (settled : schema.Settled) (close_blank : Blank close)
    (valid : ∀ pair ∈ pairs, pair.Valid) (lacking : ¬ schema.Admits [] pairs) :
    Stops schema.read (recordText pairs close) :=
  fun rest _ => (record_outcome settled close_blank valid rest).2 lacking

end Reading

end Pairs

/-! ## Lists of values -/

/-- Reads the values of members to the end of their list. -/
def valuesToEnd (record : ρ) (index : Nat) (members : List (Member ρ)) : Reader ρ := do
  let record ← schema.values record index members
  listEnd
  pure record

section Values

variable {schema} {close : List Char}

/-- What reading does after a comma where a list should end. -/
def overlong : Reader Unit := do
  if (← look) = some ']' then stop .trailingComma else stop .trailingText

theorem overlong_stops (text : List Char) : ∃ defect, overlong text = .error defect := by
  refine Yields.stops (.after fun following => ?_) text
  split <;> exact .stop _ _

theorem listEnd_item {item : Item} (spaced : item.Spaced) (json : IsJson item.value) (first : Bool)
    (texts : List (List Char)) (rest : List Char) :
    ∃ defect, listEnd (Doc.parts [] first (item.text :: texts) ++ rest) = .error defect := by
  cases first with
  | false => exact overlong_stops _
  | true =>
      obtain ⟨c, value, same, visible, inside⟩ := json.opens
      have text : Doc.parts [] true (item.text :: texts) ++ rest =
          item.lead ++ c :: (value ++ (item.trail ++ (Doc.parts [] false texts ++ rest))) := by
        simp [Doc.parts, Item.text, same]
      rw [text, listEnd, padded_look _ item.lead _ spaced.lead, bind_apply, look_cons visible]
      dsimp only
      generalize is : some c = following
      split
      · cases is
      · cases is
        exact absurd rfl inside
      · exact overlong_stops _
      · exact ⟨_, rfl⟩

theorem listEnd_close {space : List Char} (blank : Blank space) (rest : List Char) :
    listEnd (space ++ ']' :: rest) = .ok ((), rest) := by
  rw [listEnd, padded_look _ space _ blank]
  rfl

theorem valuesToEnd_nil (record : ρ) (index : Nat) :
    schema.valuesToEnd record index [] = (listEnd >>= fun _ => pure record) := rfl

theorem valuesToEnd_cons (record : ρ) (index : Nat) (member : Member ρ) (members : List (Member ρ)) :
    schema.valuesToEnd record index (member :: members) = (do
      if ← toItem (index == 0) then
        let change ← member.read
        schema.valuesToEnd (change record) (index + 1) members
      else if schema.filled then
        listEnd
        pure record
      else
        stop (.wrongLength index (schema.expected ++ " with " ++ elements schema.members.length))) := by
  rw [valuesToEnd, values, bind_assoc]
  congr 1
  funext another
  split
  · rw [bind_assoc]
    rfl
  · split <;> rfl

theorem values_decided (close_blank : Blank close) {members : List (Member ρ)}
    (settled : ∀ member ∈ members, Settles member.read) :
    ∀ {items : List Item}, Items items → ∀ record index {space : List Char}, Blank space →
      Decided (schema.valuesToEnd record index members)
        (space ++ (Doc.parts [] (index == 0) (items.map Item.text) ++ (close ++ [']']))) := by
  -- by induction on the members that have no value yet
  induction members with
  | nil =>
      intro items all record index space blank
      rw [valuesToEnd_nil]
      cases items with
      | nil =>
          refine .inl ⟨record, fun rest _ => ?_⟩
          rw [List.map_nil, Doc.parts, List.nil_append, ← List.append_assoc, List.append_assoc,
            bind_apply, List.singleton_append, listEnd_close (List.forall_mem_append.2 ⟨blank, close_blank⟩)]
          rfl
      | cons item items =>
          obtain ⟨⟨spaced, json⟩, _⟩ := List.forall_mem_cons.1 all
          refine .inr fun rest _ => ?_
          obtain ⟨defect, stopped⟩ := listEnd_item spaced json (index == 0) (items.map Item.text)
            (close ++ [']'] ++ rest)
          have padded : Padded listEnd := padded_look _
          refine ⟨defect, ?_⟩
          rw [List.map_cons, bind_apply, List.append_assoc, List.append_assoc, padded space _ blank, stopped]
  | cons member members ih =>
      intro items all record index space blank
      obtain ⟨reads, others⟩ := List.forall_mem_cons.1 settled
      rw [valuesToEnd_cons]
      cases items with
      | nil =>
          have ends : ∀ rest, toItem (index == 0) (space ++ (Doc.parts [] (index == 0) [] ++
              (close ++ [']'])) ++ rest) = .ok (false, ']' :: rest) := by
            intro rest
            rw [List.append_assoc, List.append_assoc, List.append_assoc]
            exact toItem_none blank close_blank (index == 0) rest
          by_cases filled : schema.filled = true
          · refine .inl ⟨record, fun rest _ => ?_⟩
            have ended : listEnd (']' :: rest) = .ok ((), rest) := listEnd_close .nil rest
            rw [List.map_nil, bind_apply, ends]
            dsimp only
            rw [if_neg (by decide), if_pos filled, bind_apply, ended]
            rfl
          · refine .inr fun rest _ => ?_
            rw [List.map_nil, bind_apply, ends]
            dsimp only
            rw [if_neg (by decide), if_neg filled]
            exact ⟨_, rfl⟩
      | cons item items =>
          obtain ⟨⟨spaced, json⟩, later⟩ := List.forall_mem_cons.1 all
          have goes := (reads.decided item.value json).append
            (fun rest _ => by
              rw [List.append_assoc, List.append_assoc, List.append_assoc]
              exact .blank spaced.trail (Doc.parts_apart [] (items.map Item.text)
                (.blank close_blank (.cons (by decide) rest))))
            fun change => ih others later (change record) (index + 1) spaced.trail
          refine goes.of_eq fun rest _ => ?_
          rw [List.map_cons, List.append_assoc, List.append_assoc, bind_apply, toItem_item spaced json blank]
          dsimp only
          rw [if_pos rfl]
          simp only [List.append_assoc]
          rfl

end Values

/-- **A record is read by its value alone, an object or a list.** -/
theorem settles (settled : schema.Settled) : Settles schema.read := by
  refine .look_bind fun c rest json => ?_
  split
  · rename_i same
    cases same
    obtain ⟨pairs, close, blank, valid, same⟩ := json.of_curly
    have object : ∀ after, (do advance; schema.object : Reader ρ) ('\x7b' :: rest ++ after) =
        schema.read ('\x7b' :: rest ++ after) := fun _ => rfl
    refine Decided.of_eq ?_ fun after _ => object after
    rw [same]
    by_cases admits : schema.Admits [] pairs
    · exact .inl ⟨_, object_admits settled blank valid admits⟩
    · exact .inr (object_refuses settled blank valid admits)
  · rename_i same
    cases same
    obtain ⟨items, close, blank, spaced, values, same⟩ := json.of_square
    rw [List.tail_eq_of_cons_eq same]
    have all : Items items := fun item inside => ⟨spaced item inside, values item inside⟩
    exact .advance_bind (values_decided blank settled all schema.blank 0 .nil) '['
  · exact .mismatch _ _

end Schema

end FusionSensors.Json
