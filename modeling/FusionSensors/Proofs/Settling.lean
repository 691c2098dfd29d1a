/-
# FusionSensors.Proofs.Settling -- a reader goes by the value alone

Whatever JSON value stands in a text, a reader of single values, variants or
lists either answers the same for it wherever it stands, and takes just that
value, or stops at it wherever it stands (`Settles`). So it does not matter to
the rest of a record what one of its members is, as long as it is read.

A list is read exactly if every one of its items is (`list_makes`,
`list_stops`).
-/
import FusionSensors.Proofs.Deciding

namespace FusionSensors.Json

set_option autoImplicit false

open Reader

/-! ## First characters -/

section First

variable {rest : List Char}

theorem IsJson.of_quote (json : IsJson ('"' :: rest)) : ∃ body, IsBody body ∧ rest = body ++ ['"'] := by
  cases json.head with
  | word letters => rcases letters with letter | letter | letter <;> cases letter
  | digit digit => exact absurd digit (by decide)
  | minus minus => cases minus
  | quote _ isBody same => exact ⟨_, isBody, List.tail_eq_of_cons_eq same⟩
  | list bracket => cases bracket
  | record bracket => cases bracket

theorem IsJson.of_minus (json : IsJson ('-' :: rest)) : IsMagnitude rest := by
  cases json.head with
  | word letters => rcases letters with letter | letter | letter <;> cases letter
  | digit digit => exact absurd digit (by decide)
  | minus _ magnitude same => exact List.tail_eq_of_cons_eq same ▸ magnitude
  | quote quote => cases quote
  | list bracket => cases bracket
  | record bracket => cases bracket

theorem IsJson.of_digit {c : Char} (digit : c.isDigit = true) (json : IsJson (c :: rest)) :
    IsMagnitude (c :: rest) := by
  cases json.head with
  | word letters => rcases letters with rfl | rfl | rfl <;> exact absurd digit (by decide)
  | digit _ magnitude => exact magnitude
  | minus minus => exact absurd (minus ▸ digit) (by decide)
  | quote quote => exact absurd (quote ▸ digit) (by decide)
  | list bracket => exact absurd (bracket ▸ digit) (by decide)
  | record bracket => exact absurd (bracket ▸ digit) (by decide)

theorem IsJson.of_n (json : IsJson ('n' :: rest)) : rest = ['u', 'l', 'l'] := by
  cases json.head with
  | word _ null => exact List.tail_eq_of_cons_eq (null rfl)
  | digit digit => exact absurd digit (by decide)
  | minus minus => cases minus
  | quote quote => cases quote
  | list bracket => cases bracket
  | record bracket => cases bracket

theorem IsJson.of_square (json : IsJson ('[' :: rest)) : ∃ items close, Blank close ∧
    (∀ item ∈ items, item.Spaced) ∧ (∀ item ∈ items, IsJson item.value) ∧
      '[' :: rest = listText items close := by
  cases json.head with
  | word letters => rcases letters with letter | letter | letter <;> cases letter
  | digit digit => exact absurd digit (by decide)
  | minus minus => cases minus
  | quote quote => cases quote
  | list _ items blank spaced values same => exact ⟨items, _, blank, spaced, values, same⟩
  | record bracket => cases bracket

theorem IsJson.of_curly (json : IsJson ('\x7b' :: rest)) : ∃ pairs close, Blank close ∧
    (∀ pair ∈ pairs, pair.Valid) ∧ '\x7b' :: rest = recordText pairs close := by
  cases json.head with
  | word letters => rcases letters with letter | letter | letter <;> cases letter
  | digit digit => exact absurd digit (by decide)
  | minus minus => cases minus
  | quote quote => cases quote
  | list bracket => cases bracket
  | record _ pairs blank spaced values same =>
      exact ⟨pairs, _, blank, fun pair inside => ⟨spaced pair inside, values pair inside⟩, same⟩

end First

/-! ## Values -/

section Settles

variable {α β : Type}

/-- A reader goes by the value alone, whatever JSON value that is and wherever it stands. -/
structure Settles (reader : Reader α) : Prop where
  padded : Padded reader
  decided : ∀ value, IsJson value → Decided reader value

namespace Settles

/-- A reader that looks at the first character of the value. -/
theorem look_bind {next : Option Char → Reader α}
    (each : ∀ c rest, IsJson (c :: rest) → Decided (next (some c)) (c :: rest)) :
    Settles (look >>= next) where
  padded := padded_look next
  decided value json := by
    obtain ⟨c, rest, rfl, visible, _⟩ := json.opens
    refine (each c rest json).of_eq fun after _ => ?_
    rw [bind_apply, List.cons_append, look_cons visible]

theorem spaced {reader : Reader α} (settles : Settles reader) {space value : List Char}
    (blank : Blank space) (json : IsJson value) : Decided reader (space ++ value) :=
  (settles.decided value json).of_eq fun rest _ => by
    rw [List.append_assoc, settles.padded space _ blank]

theorem bind {first : Reader α} (settles : Settles first) {next : α → Reader β}
    (more : ∀ a, Decided (next a) []) : Settles (first >>= next) where
  padded := settles.padded.bind next
  decided value json := (settles.decided value json).bind more

end Settles

namespace Reader

theorem numeral_settles (expected : String) : Settles (numeral expected) := by
  refine .look_bind fun c rest json => ?_
  split
  · rename_i same
    cases same
    exact .advance_bind (Numeral.read_decided true json.of_minus) '-'
  · rename_i same
    obtain rfl : c = _ := Option.some.inj same
    split
    · rename_i digit
      exact Numeral.read_decided false (json.of_digit digit)
    · exact .mismatch _ _
  · rename_i same
    cases same

theorem integer_settles (least greatest : Int) (expected : String) :
    Settles (integer least greatest expected) := by
  refine (numeral_settles expected).bind fun number => ?_
  cases number with
  | integer n =>
      dsimp only
      split
      · exact .pure _
      · exact .stop _ _
  | float x => exact .stop _ _

theorem single_settles : Settles single := by
  refine (numeral_settles "f32").bind fun number => ?_
  cases number <;> exact .pure _

theorem text_settles : Settles text := by
  refine .look_bind fun c rest json => ?_
  split
  · rename_i same
    cases same
    obtain ⟨body, isBody, rfl⟩ := json.of_quote
    exact .advance_bind (Escape.decode_decided isBody) '"'
  · exact .mismatch _ _

/-! ## Variants -/

theorem variantNamed_decided (table : List (String × α)) (name : String) :
    Decided (variantNamed table name) [] := by
  rw [variantNamed]
  split
  · exact .pure _
  · exact .stop _ _

/-- The value of the one member of a record that stands for a variant. -/
def variantNull : Reader Unit := do
  match ← look with
  | some 'n' => advance; word ['u', 'l', 'l']
  | _ => mismatch "unit"

/-- The end of a record that stands for a variant. -/
def variantEnd (value : α) : Reader α := do
  match ← look with
  | some '\x7d' => advance; pure value
  | some _ => stop .noValue
  | none => stop .endInRecord

/-- A record that stands for a variant, after its opening bracket. -/
def variantRecord (table : List (String × α)) : Reader α := do
  toVariantKey
  let value ← variantNamed table (← Escape.decode)
  Skip.colon
  variantNull
  variantEnd value

theorem variantRecord_eq (table : List (String × α)) : variantRecord table = (do
    toVariantKey
    let value ← variantNamed table (← Escape.decode)
    Skip.colon
    match ← look with
    | some 'n' => advance; word ['u', 'l', 'l']
    | _ => mismatch "unit"
    match ← look with
    | some '\x7d' => advance; pure value
    | some _ => stop .noValue
    | none => stop .endInRecord) := by
  rw [variantRecord]
  congr 1
  funext _
  congr 1
  funext _
  congr 1
  funext name
  congr 1
  funext value
  rw [variantNull, bind_assoc]
  congr 1
  funext following
  split <;> rfl

theorem variantNull_settles : Settles variantNull := by
  refine .look_bind fun c rest json => ?_
  split
  · rename_i same
    cases same
    cases json.of_n
    exact .inl ⟨(), fun _ _ => rfl⟩
  · exact .mismatch _ _

theorem variantEnd_decided (value : α) {trail close : List Char} (trail_blank : Blank trail)
    (close_blank : Blank close) (texts : List (List Char)) :
    Decided (variantEnd value) (trail ++ (Doc.parts [] false texts ++ (close ++ ['\x7d']))) := by
  have look_trail : ∀ text, variantEnd value (trail ++ text) = variantEnd value text :=
    fun text => padded_look _ trail text trail_blank
  cases texts with
  | nil =>
      refine .inl ⟨value, fun rest _ => ?_⟩
      rw [List.append_assoc, look_trail, Doc.parts, List.nil_append, List.append_assoc]
      exact padded_look _ close _ close_blank
  | cons text texts =>
      refine .inr fun rest _ => ⟨.noValue, ?_⟩
      rw [List.append_assoc, look_trail]
      rfl

/-- A record stands for a variant if it has one member and that is `null`. -/
theorem variantRecord_decided (table : List (String × α)) {pairs : List Pair} {close : List Char}
    (blank : Blank close) (valid : ∀ pair ∈ pairs, pair.Valid) :
    Decided (variantRecord table) (Doc.parts [] true (pairs.map Pair.text) ++ (close ++ ['\x7d'])) := by
  cases pairs with
  | nil =>
      refine .inr fun rest _ => ⟨.noValue, ?_⟩
      have stopped : toVariantKey (close ++ '\x7d' :: rest) = .error .noValue :=
        padded_look _ close _ blank
      rw [variantRecord, bind_apply, List.map_nil, Doc.parts, List.nil_append, List.append_assoc,
        List.singleton_append, stopped]
  | cons pair pairs =>
      have spaced := (valid pair List.mem_cons_self).toSpaced
      have json := (valid pair List.mem_cons_self).json
      have key : ∀ rest, toVariantKey ((pair.lead ++ ['"']) ++ rest) = .ok ((), rest) := by
        intro rest
        rw [List.append_assoc]
        exact padded_look _ pair.lead _ spaced.lead
      have colon : ∀ rest, Skip.colon ((pair.gap ++ [':']) ++ rest) = .ok ((), rest) := by
        intro rest
        rw [List.append_assoc]
        exact Skip.colon_skips spaced.gap rest
      have text : Doc.parts [] true ((pair :: pairs).map Pair.text) ++ (close ++ ['\x7d']) =
          (pair.lead ++ ['"']) ++ ((pair.key ++ ['"']) ++ ((pair.gap ++ [':']) ++
            ((pair.item.lead ++ pair.value) ++
              (pair.item.trail ++ (Doc.parts [] false (pairs.map Pair.text) ++ (close ++ ['\x7d'])))))) := by
        simp [Doc.parts, Pair.text, Pair.front, Item.text, Pair.value]
      rw [text, variantRecord]
      refine .after key ((Escape.decode_decided spaced.key).append ?_ fun name => ?_)
      · intro rest _
        simp only [List.append_assoc]
        exact .blank spaced.gap (.cons (by decide) _)
      · rw [variantNamed]
        split
        · rw [pure_bind]
          refine .after colon ((variantNull_settles.spaced spaced.item.lead json).append ?_ fun _ =>
            variantEnd_decided _ spaced.item.trail blank _)
          intro rest _
          simp only [List.append_assoc]
          exact .blank spaced.item.trail (Doc.parts_apart [] _ (.blank blank (.cons (by decide) _)))
        · exact .never (fun _ => ⟨_, rfl⟩) _

theorem variant_settles (table : List (String × α)) : Settles (variant table) := by
  rw [variant]
  refine .look_bind fun c rest json => ?_
  split
  · rename_i same
    cases same
  · rename_i same
    cases same
    obtain ⟨body, isBody, rfl⟩ := json.of_quote
    exact .advance_bind ((Escape.decode_decided isBody).bind (variantNamed_decided table)) '"'
  · rename_i same
    cases same
    obtain ⟨pairs, close, blank, valid, same⟩ := json.of_curly
    have decided := variantRecord_decided table blank valid
    rw [variantRecord_eq] at decided
    rw [List.tail_eq_of_cons_eq same]
    exact .advance_bind decided '\x7b'
  · exact .stop _ _

/-! ## Lists -/

/-- Items of a list, each a JSON value with white space around it. -/
def Items (items : List Item) : Prop := ∀ item ∈ items, item.Spaced ∧ IsJson item.value

theorem toItem_item {item : Item} (spaced : item.Spaced) (json : IsJson item.value)
    {space : List Char} (blank : Blank space) (first : Bool) (texts : List (List Char))
    (rest : List Char) :
    toItem first (space ++ (Doc.parts [] first (item.text :: texts) ++ rest)) =
      .ok (true, item.value ++ (item.trail ++ (Doc.parts [] false texts ++ rest))) := by
  have part := toItem_part spaced.lead json.opens first (item.trail ++ (Doc.parts [] false texts ++ rest))
  rw [toItem, padded_look _ space _ blank, ← toItem]
  cases first <;> simpa [Doc.parts, Item.text] using part

theorem toItem_none {space close : List Char} (blank : Blank space) (close_blank : Blank close)
    (first : Bool) (rest : List Char) :
    toItem first (space ++ (Doc.parts [] first [] ++ (close ++ ']' :: rest))) = .ok (false, ']' :: rest) := by
  rw [toItem, padded_look _ space _ blank, ← toItem]
  exact toItem_end close_blank first rest

section Lists

variable {item : Reader α} {close : List Char}

theorem listStep_makes {one : Item} {a : α} (spaced : one.Spaced) (json : IsJson one.value)
    (makes : Makes item one.value a) (close_blank : Blank close) {space : List Char}
    (blank : Blank space) (texts : List (List Char)) (reversed : List α) (rest : List Char) :
    listStep item reversed (space ++ (Doc.parts [] reversed.isEmpty (one.text :: texts) ++
        (close ++ ']' :: rest))) =
      .ok (.inl (a :: reversed), one.trail ++ (Doc.parts [] false texts ++ (close ++ ']' :: rest))) := by
  have apart : Apart (one.trail ++ (Doc.parts [] false texts ++ (close ++ ']' :: rest))) :=
    .blank spaced.trail (Doc.parts_apart [] texts (.blank close_blank (.cons (by decide) rest)))
  rw [listStep, bind_apply, toItem_item spaced json blank]
  dsimp only
  rw [if_pos rfl, bind_apply, makes _ apart]
  rfl

theorem rounds_makes (close_blank : Blank close) {items : List Item} {values : List α}
    (each : List.Forall₂ (fun one a => (one.Spaced ∧ IsJson one.value) ∧ Makes item one.value a) items values)
    (rest : List Char) : ∀ more reversed space, Blank space → items.length < more →
      rounds (listStep item) more reversed (space ++ (Doc.parts [] reversed.isEmpty (items.map Item.text) ++
          (close ++ ']' :: rest))) = .ok (reversed.reverse ++ values, rest) := by
  induction each with
  | nil =>
      intro more reversed space blank enough
      obtain ⟨more, rfl⟩ := Nat.exists_eq_add_of_lt enough
      rw [List.append_nil]
      refine rounds_inr ?_ _
      rw [listStep, bind_apply, List.map_nil, toItem_none blank close_blank]
      rfl
  | @cons one a items values makes _ ih =>
      intro more reversed space blank enough
      obtain ⟨⟨spaced, json⟩, makes⟩ := makes
      obtain ⟨fewer, enough, goes⟩ := rounds_next
        (listStep_makes spaced json makes close_blank blank (items.map Item.text) reversed rest) enough
      have ends := ih fewer (a :: reversed) one.trail spaced.trail enough
      rw [List.reverse_cons, List.append_assoc, List.singleton_append] at ends
      exact goes.trans ends

theorem listStep_stops {one : Item} (spaced : one.Spaced) (json : IsJson one.value)
    (stops : Stops item one.value) (close_blank : Blank close) {space : List Char}
    (blank : Blank space) (texts : List (List Char)) (reversed : List α) (rest : List Char) :
    ∃ defect, listStep item reversed (space ++ (Doc.parts [] reversed.isEmpty (one.text :: texts) ++
        (close ++ ']' :: rest))) = .error defect := by
  have apart : Apart (one.trail ++ (Doc.parts [] false texts ++ (close ++ ']' :: rest))) :=
    .blank spaced.trail (Doc.parts_apart [] texts (.blank close_blank (.cons (by decide) rest)))
  obtain ⟨defect, stopped⟩ := stops _ apart
  refine ⟨defect, ?_⟩
  rw [listStep, bind_apply, toItem_item spaced json blank]
  dsimp only
  rw [if_pos rfl, bind_apply, stopped]

theorem rounds_stops (settles : Settles item) (close_blank : Blank close) {items : List Item}
    (all : Items items) (stops : ∃ one ∈ items, Stops item one.value) (rest : List Char) :
    ∀ more reversed space, Blank space → ∃ defect,
      rounds (listStep item) more reversed (space ++ (Doc.parts [] reversed.isEmpty (items.map Item.text) ++
          (close ++ ']' :: rest))) = .error defect := by
  induction items with
  | nil =>
      obtain ⟨_, inside, _⟩ := stops
      cases inside
  | cons one items ih =>
      intro more reversed space blank
      obtain ⟨⟨spaced, json⟩, others⟩ := List.forall_mem_cons.1 all
      rw [List.map_cons]
      rcases settles.decided one.value json with ⟨a, makes⟩ | stopped
      · have later : ∃ other ∈ items, Stops item other.value := by
          obtain ⟨other, inside, stopped⟩ := stops
          rcases List.mem_cons.1 inside with rfl | after
          · exact absurd stopped makes.not_stops
          · exact ⟨other, after, stopped⟩
        have goes := listStep_makes spaced json makes close_blank blank (items.map Item.text) reversed rest
        exact rounds_stops_later goes
          (fun more => ih others later more (a :: reversed) one.trail spaced.trail) more
      · exact rounds_stops_here
          (listStep_stops spaced json stopped close_blank blank (items.map Item.text) reversed rest) more

theorem list_begins (items : List Item) (rest : List Char) :
    list item (listText items close ++ rest) = iterate (listStep item) []
      (Doc.parts [] true (items.map Item.text) ++ (close ++ ']' :: rest)) := by
  rw [list_eq, bind_apply, listText, List.cons_append, look_cons (by decide), List.append_assoc,
    List.append_assoc]
  rfl

/-- A list is read if every one of its items is. -/
theorem list_makes {items : List Item} (all : Items items) (close_blank : Blank close)
    {values : List α} (each : List.Forall₂ (fun one a => Makes item one.value a) items values) :
    Makes (list item) (listText items close) values := by
  intro rest _
  have enough := Doc.length_parts_lt [] (items.map Item.text) close ']' rest
  rw [List.length_map] at enough
  rw [list_begins, iterate]
  exact rounds_makes close_blank ((List.forall₂_and_left items values).2 ⟨all, each⟩) rest _ [] [] .nil enough

/-- A list is not read if one of its items is not. -/
theorem list_stops (settles : Settles item) {items : List Item} (all : Items items)
    (close_blank : Blank close) (stops : ∃ one ∈ items, Stops item one.value) :
    Stops (list item) (listText items close) := by
  intro rest _
  rw [list_begins, iterate]
  exact rounds_stops settles close_blank all stops rest _ [] [] .nil

theorem items_decided (settles : Settles item) {items : List Item} (all : Items items) :
    (∃ values, List.Forall₂ (fun one a => Makes item one.value a) items values) ∨
      ∃ one ∈ items, Stops item one.value := by
  induction items with
  | nil => exact .inl ⟨[], .nil⟩
  | cons one items ih =>
      obtain ⟨⟨_, json⟩, others⟩ := List.forall_mem_cons.1 all
      rcases settles.decided one.value json with ⟨a, makes⟩ | stops
      · rcases ih others with ⟨values, each⟩ | ⟨other, inside, stops⟩
        · exact .inl ⟨a :: values, .cons makes each⟩
        · exact .inr ⟨other, .tail one inside, stops⟩
      · exact .inr ⟨one, List.mem_cons_self, stops⟩

/-- An item may be replaced by one that reads the same. -/
theorem list_replaced (settles : Settles item) {front back : List Item} {one other : Item}
    (all : Items (front ++ one :: back)) (others_all : Items (front ++ other :: back))
    (kept : ∀ a, Makes item one.value a → Makes item other.value a) (close_blank : Blank close)
    {values : List α} (makes : Makes (list item) (listText (front ++ one :: back) close) values) :
    Makes (list item) (listText (front ++ other :: back) close) values := by
  have replaced : ∀ (front : List Item) (values : List α),
      List.Forall₂ (fun one a => Makes item one.value a) (front ++ one :: back) values →
        List.Forall₂ (fun one a => Makes item one.value a) (front ++ other :: back) values := by
    intro front
    induction front with
    | nil =>
        rintro _ (_ | ⟨first, others⟩)
        exact .cons (kept _ first) others
    | cons head front ih =>
        rintro _ (_ | ⟨first, others⟩)
        exact .cons first (ih _ others)
  rcases items_decided settles all with ⟨found, each⟩ | stops
  · rw [makes.unique (list_makes all close_blank each)]
    exact list_makes others_all close_blank (replaced front found each)
  · exact absurd (list_stops settles all close_blank stops) makes.not_stops

theorem list_settles (settles : Settles item) : Settles (list item) where
  padded := padded_look _
  decided value json := by
    obtain ⟨c, rest, rfl, visible, _⟩ := json.opens
    by_cases square : c = '['
    · subst square
      obtain ⟨items, close, blank, spaced, values, same⟩ := json.of_square
      have all : Items items := fun one inside => ⟨spaced one inside, values one inside⟩
      rw [same]
      rcases items_decided settles all with ⟨values, each⟩ | stops
      · exact .inl ⟨values, list_makes all blank each⟩
      · exact .inr (list_stops settles all blank stops)
    · refine (Decided.mismatch "a sequence" (c :: rest)).of_eq fun after _ => ?_
      rw [list_eq, bind_apply, List.cons_append, look_cons visible]
      dsimp only
      generalize same : some c = following
      split
      · cases same
        exact absurd rfl square
      · rfl

end Lists

end Reader

end Settles

end FusionSensors.Json
