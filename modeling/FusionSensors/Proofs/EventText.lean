/-
# FusionSensors.Proofs.EventText -- events and the texts written of them

Events are handed out as text, one by one as lines or all together as a list.
A line names the members in their order and has no white space (`Event.line_eq`).
Main statement, `page_reads`: every such text reads back as the very events, in
their order and bit by bit, whatever handles, types, times, shapes and contents
they have. The sixteen values of an event must be finite, since a number that
is not is written as `null` and read from nothing; their digits are taken to
read back.
-/
import FusionSensors.Proofs.Calls
import FusionSensors.Proofs.Origin
import FusionSensors.Proofs.RoundTrip

namespace FusionSensors

set_option autoImplicit false

/-! ## Digits open an item -/

namespace Json.Reader

theorem opens_digit {c : Char} (digit : c.isDigit = true) (rest : List Char) : Opens (c :: rest) :=
  ⟨c, rest, rfl, isSpace_isDigit digit, by rintro rfl; exact absurd digit (by decide)⟩

theorem Opens.append {text : List Char} (opens : Opens text) (rest : List Char) :
    Opens (text ++ rest) := by
  obtain ⟨c, more, rfl, visible, inside⟩ := opens
  exact ⟨c, more ++ rest, rfl, visible, inside⟩

end Json.Reader

namespace Decimal

open Json.Reader

theorem natural_opens (n : Nat) : Opens (natural n) := by
  obtain ⟨c, digits, written⟩ := List.exists_cons_of_ne_nil (natural_ne_nil n)
  rw [written]
  exact opens_digit (natural_digits n c (written ▸ List.mem_cons_self)) digits

theorem plain_opens (d : Decimal) : Opens d.plain := by
  rw [plain]
  split
  · exact ((natural_opens d.digits).append _).append _
  · split
    · obtain ⟨c, digits, written, visible, inside⟩ := natural_opens d.digits
      rw [written, List.take_succ_cons, List.cons_append]
      exact ⟨c, _, rfl, visible, inside⟩
    · exact opens_digit (by decide) _

theorem scientific_opens (d : Decimal) : Opens d.scientific := by
  obtain ⟨c, digits, written, visible, inside⟩ := natural_opens d.digits
  rw [scientific, written]
  cases digits with
  | nil => exact ⟨c, _, rfl, visible, inside⟩
  | cons next rest => exact ⟨c, _, rfl, visible, inside⟩

theorem Layout.write_opens (layout : Layout) (negative : Bool) (d : Decimal) :
    Opens (layout.write negative d) := by
  have body : ∀ plainly : Prop, [Decidable plainly] →
      Opens (if plainly then d.plain else d.scientific) := by
    intro plainly _
    split
    · exact plain_opens d
    · exact scientific_opens d
  rw [Layout.write]
  cases negative with
  | true => exact ⟨'-', _, rfl, by decide, by decide⟩
  | false => exact body _

end Decimal

namespace Json

open Reader

theorem Doc.singleText_opens (x : Single) : Opens (singleText x) := by
  rw [singleText]
  split
  · exact Decimal.Layout.write_opens _ _ _
  · exact ⟨'n', _, rfl, by decide, by decide⟩

/-! ## Lists of a fixed length -/

namespace Reader

variable {α : Type}

/-- As many items are taken as are there. -/
theorem items_read {item : Reader α} {lead : List Char} (blank : Blank lead) (expected : String)
    {texts : List (List Char)} {values : List α}
    (reads : List.Forall₂ (fun text a => Opens text ∧ Reads item text (.ok a)) texts values)
    {rest : List Char} (apart : Apart rest) (index : Nat) :
    items item expected index values.length (Doc.parts lead (index == 0) texts ++ rest) =
      .ok (values, rest) := by
  induction reads generalizing index with
  | nil => rfl
  | @cons text a texts values one _ ih =>
      have read := one.2 [] _ .nil (Doc.parts_apart lead texts apart)
      rw [List.nil_append] at read
      rw [List.length_cons, items, Doc.parts, bind_apply, List.append_assoc, List.append_assoc,
        toItem_part blank one.1]
      dsimp only
      rw [if_pos rfl, bind_apply, read]
      dsimp only [Except.map]
      have later := ih (index + 1)
      rw [show (index + 1 == 0) = false from rfl] at later
      rw [bind_apply, later]
      rfl

theorem exactly_recovers {item : Format α} {values : List α}
    (opens : ∀ a ∈ values, ∀ style, Opens ((item.write a).written style))
    (recovers : ∀ a ∈ values, item.Recovers a (.ok a)) (style : Doc.Style) :
    Reads (exactly values.length item.read) ((Doc.list (values.map item.write)).written style)
      (.ok values) := by
  intro space rest blank _
  obtain ⟨close, close_blank, written⟩ := Doc.written_list style (values.map item.write)
  have reads : List.Forall₂ (fun text a => Opens text ∧ Reads item.read text (.ok a))
      ((values.map item.write).map (Doc.written style.inner)) values := by
    rw [List.map_map, List.forall₂_map_left_iff, List.forall₂_same]
    exact fun a inside => ⟨opens a inside style.inner, recovers a inside style.inner⟩
  have apart : Apart (close ++ ']' :: rest) := .blank close_blank (.cons (by decide) rest)
  have taken := items_read (Doc.lead_blank style)
    ("an array of length " ++ String.ofList (Decimal.natural values.length)) reads apart 0
  have ended : listEnd (close ++ ']' :: rest) = .ok ((), rest) := by
    rw [listEnd, bind_apply, look_blank close_blank, look_cons (by decide)]
    rfl
  rw [written, exactly, padded_look _ space _ blank, List.cons_append, bind_apply,
    look_cons (by decide), List.append_assoc, List.append_assoc, List.singleton_append]
  show (items item.read _ 0 values.length >>= fun values => listEnd >>= fun _ => pure values)
    (Doc.parts style.lead (0 == 0) _ ++ _) = _
  rw [bind_apply, taken]
  dsimp only
  rw [bind_apply, ended]
  rfl

end Reader

/-- A line is read as a whole. -/
theorem Format.whole_line {α : Type} (format : Format α) {a : α} {outcome : Except Defect α}
    (recovers : format.Recovers a outcome) : whole format.read (format.write a).line = outcome := by
  have read := recovers .line [] [] .nil .nil
  rw [List.nil_append, List.append_nil] at read
  have text : (format.write a).line.toList = (format.write a).written .line :=
    String.toList_ofList
  rw [whole, text, read]
  cases outcome <;> rfl

end Json

open Json

/-! ## Payloads -/

theorem Payload.ofList_values (p : Payload) : ofList p.values = p := by
  apply Payload.ext
  rw [values_ofList (Nat.le_of_eq p.length_values), p.length_values]
  exact List.append_nil _

/-- Sixteen values that read back are sixteen values. -/
theorem Payload.format_recovers {p : Payload}
    (restored : ∀ x ∈ p.values, x.isFinite = true ∧ x.Restored) : format.Recovers p (.ok p) := by
  intro style
  have single : ∀ x ∈ p.values, Format.single.Recovers x (.ok x) := by
    intro x inside
    obtain ⟨finite, reads⟩ := restored x inside
    have recovers := Format.single_recovers fun _ => reads
    rwa [if_pos finite] at recovers
  have opens : ∀ x ∈ p.values, ∀ style, Reader.Opens ((Format.single.write x).written style) := by
    intro x _ style
    rw [Format.single, Doc.written_single]
    exact Doc.singleText_opens x
  have reads := (Reader.exactly_recovers opens single style).map ofList
  rw [p.length_values, Except.map, p.ofList_values] at reads
  exact reads

/-! ## The line of an event -/

theorem Decimal.integer_eq (n : Int) : integer n = (toString n).toList := by
  cases n with
  | ofNat n =>
      rw [integer, if_neg (by simp), natural]
      show _ = n.repr.toList
      rw [Nat.toList_repr]
      rfl
  | negSucc n =>
      rw [integer, if_pos (Int.negSucc_lt_zero n), natural]
      show _ = ("-" ++ n.succ.repr).toList
      rw [String.toList_append, Nat.toList_repr]
      rfl

/-- A number in a text: the digits of a finite one, and `null` for any other. -/
def Single.text (x : Single) : String := if x.isFinite then String.ofList x.digits else "null"

theorem Single.toList_text (x : Single) : x.text.toList = Doc.singleText x := by
  rw [text, Doc.singleText]
  split
  · exact String.toList_ofList
  · rfl

/-- Items stand side by side with a comma between any two. -/
theorem Json.Doc.compactItems_intercalate {α : Type} {write : α → Doc} {text : α → String}
    (same : ∀ a, (text a).toList = (write a).compact) (items : List α) :
    compactItems (items.map write) = (",".intercalate (items.map text)).toList := by
  induction items with
  | nil => simp [compactItems]
  | cons a rest ih =>
      cases rest with
      | nil => simp [compactItems, same]
      | cons next rest =>
          rw [List.map_cons] at ih
          rw [List.map_cons, List.map_cons, compactItems, ← same a, ih]
          simp

/-- The text of a line. -/
theorem Event.line_eq (event : Event) : event.line =
    "\x7b\"sensor\":" ++ toString event.sensor ++
      ",\"sensor_type\":" ++ toString event.kindId ++
      ",\"timestamp\":" ++ toString event.timestamp ++
      ",\"data\":[" ++ ",".intercalate (event.data.values.map Single.text) ++
      "],\"data_len\":\"" ++ event.shape.name ++
      "\",\"kind\":\"" ++ event.content.name ++ "\"\x7d" := by
  have values : Doc.compactItems (event.data.values.map .single) =
      (",".intercalate (event.data.values.map Single.text)).toList :=
    Doc.compactItems_intercalate Single.toList_text _
  -- no name has a character that is escaped
  have shape : Escape.encode event.shape.name.toList = '"' :: event.shape.name.toList ++ ['"'] := by
    cases event.shape <;> rfl
  have content : Escape.encode event.content.name.toList =
      '"' :: event.content.name.toList ++ ['"'] := by
    cases event.content <;> rfl
  apply String.toList_inj.1
  rw [line, Doc.line, String.toList_ofList]
  simp only [Schema.write, schema, Member.of, List.map_cons, List.map_nil, Doc.compact,
    Doc.compactMembers, Doc.compactMember, Doc.scalar, Decimal.integer_eq, Format.int32,
    Format.int64, Format.integer, Payload.format, Shape.format, Content.format, Format.variants,
    values, shape, content, String.toList_append, List.append_assoc, List.cons_append,
    List.nil_append]
  rfl

/-! ## Events -/

namespace Event

/-- The numbers of an event fit their members. -/
structure Fits (event : Event) : Prop where
  sensor : InInt32 event.sensor
  kindId : InInt32 event.kindId
  timestamp : -9223372036854775808 ≤ event.timestamp ∧ event.timestamp ≤ 9223372036854775807

theorem schema_recovers {event : Event} (fits : event.Fits)
    (restored : ∀ x ∈ event.data.values, x.isFinite = true ∧ x.Restored) :
    schema.format.Recovers event (.ok event) :=
  schema.format_recovers event (by decide)
    (.cons (Member.of_recovers (int32_recovers fits.sensor))
      (.cons (Member.of_recovers (int32_recovers fits.kindId))
        (.cons (Member.of_recovers (int64_recovers fits.timestamp.1 fits.timestamp.2))
          (.cons (Member.of_recovers (Payload.format_recovers restored))
            (.cons (Member.of_recovers (Format.variants_recovers (by cases event.shape <;> rfl)))
              (.cons (Member.of_recovers
                (Format.variants_recovers (by cases event.content <;> rfl))) .nil))))))

end Event

/-- **Events read back from what is written of them**, bit by bit: all of them
in their order from their page, and each one from its line. -/
theorem Binding.page_reads {events : List Event} (fits : ∀ event ∈ events, event.Fits)
    (finite : ∀ event ∈ events, ∀ x ∈ event.data.values, x.isFinite = true)
    (restored : ∀ event ∈ events, ∀ x ∈ event.data.values, x.isFinite = true → x.Restored) :
    Reader.whole (Format.list Event.schema.format).read (page events) = .ok events ∧
      ∀ event ∈ events, Reader.whole Event.schema.read event.line = .ok event := by
  have recovers : ∀ event ∈ events, Event.schema.format.Recovers event (.ok event) := by
    intro event inside
    refine Event.schema_recovers (fits event inside) fun x among => ?_
    exact ⟨finite event inside x among, restored event inside x among (finite event inside x among)⟩
  refine ⟨?_, fun event inside => Event.schema.format.whole_line (recovers event inside)⟩
  exact (Format.list Event.schema.format).whole_line
    (Format.list_recovers (fun event _ => Event.schema.opens event) recovers)

/-- Two events with the least and greatest numbers, a negative zero, and the
finite numbers next to zero and next to infinity. -/
def extremeEvents : List Event :=
  [ ⟨-2147483648, 2147483647, -9223372036854775808,
      .ofList [⟨0x80000000⟩, ⟨0x00000001⟩, ⟨0x7F7FFFFF⟩, ⟨0x3DCCCCCD⟩], .axis4, .data⟩,
    .flushMark 2147483647 9223372036854775807 ]

theorem Binding.extremeEvents_read : (∀ event ∈ extremeEvents, event.Fits) ∧
    (∀ event ∈ extremeEvents, ∀ x ∈ event.data.values, x.isFinite = true) ∧
    Reader.whole (Format.list Event.schema.format).read (page extremeEvents) = .ok extremeEvents ∧
    ∀ event ∈ extremeEvents, Reader.whole Event.schema.read event.line = .ok event := by
  have fits : ∀ event ∈ extremeEvents, event.Fits := by
    simp only [extremeEvents, List.forall_mem_cons]
    exact ⟨⟨by decide, by decide, by decide⟩, ⟨by decide, by decide, by decide⟩, by simp⟩
  have finite : ∀ event ∈ extremeEvents, ∀ x ∈ event.data.values, x.isFinite = true := by decide
  have restored : ∀ event ∈ extremeEvents, ∀ x ∈ event.data.values,
      x.isFinite = true → x.Restored := by decide +kernel
  exact ⟨fits, finite, page_reads fits finite restored⟩

/-- An event that is not a number anywhere has a line that is not read. -/
example : (Reader.whole Event.schema.read
    (Event.line ⟨1, 9, 0, .ofList [⟨0x7FC00000⟩], .axis1, .data⟩)).toOption = none := by
  decide +kernel

end FusionSensors
