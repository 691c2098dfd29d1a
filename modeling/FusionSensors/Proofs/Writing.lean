/-
# FusionSensors.Proofs.Writing -- documents on one line and over many

The two ways to write a document differ in white space only: in what stands
before each part of a list or record, and after the colon of a member. `Style`
holds both, so that what is proved of `written` holds of the line and of every
page. A list or record is its brackets around `parts`.
-/
import FusionSensors.Json.Doc
import FusionSensors.Proofs.Reading

namespace FusionSensors.Json

set_option autoImplicit false

open Reader

namespace Doc

/-! ## White space by style -/

/-- How a document is written: on one line, or over many from a depth on. -/
inductive Style where
  | line
  | page (depth : Nat)

namespace Style

/-- How the parts of a list or record are written. -/
def inner : Style → Style
  | line => line
  | page depth => page (depth + 1)

/-- What stands before each part. -/
def lead : Style → List Char
  | line => []
  | page depth => newline (depth + 1)

/-- What stands between a colon and its value. -/
def gap : Style → List Char
  | line => []
  | page _ => [' ']

end Style

theorem newline_blank (depth : Nat) : Blank (newline depth) := by
  intro c inside
  rcases List.mem_cons.1 inside with rfl | inside
  · rfl
  · rw [(List.mem_replicate.1 inside).2]
    rfl

theorem lead_blank (style : Style) : Blank style.lead := by
  cases style with
  | line => exact .nil
  | page depth => exact newline_blank (depth + 1)

theorem gap_blank (style : Style) : Blank style.gap := by
  cases style with
  | line => exact .nil
  | page depth => simp [Style.gap, Blank, isSpace]

/-- The text of a document in a style. -/
def written : Style → Doc → List Char
  | .line, doc => doc.compact
  | .page depth, doc => doc.indented depth

section Scalar

variable (style : Style)

@[simp] theorem written_integer (n : Int) : written style (.integer n) = Decimal.integer n := by
  cases style <;> rfl

@[simp] theorem written_single (x : Single) : written style (.single x) = singleText x := by
  cases style <;> rfl

@[simp] theorem written_text (value : String) :
    written style (.text value) = Escape.encode value.toList := by
  cases style <;> rfl

end Scalar

/-! ## Parts -/

/-- Parts with a comma before each but the first, and `lead` before every part. -/
def parts (lead : List Char) : Bool → List (List Char) → List Char
  | _, [] => []
  | first, part :: rest => (if first then lead else ',' :: lead) ++ (part ++ parts lead false rest)

/-- A member of a record, from its key on. -/
def memberText (style : Style) (member : String × Doc) : List Char :=
  Escape.encode member.1.toList ++ ':' :: (style.gap ++ member.2.written style.inner)

theorem memberText_append (style : Style) (name : String) (doc : Doc) (rest : List Char) :
    memberText style (name, doc) ++ rest =
      Escape.encode name.toList ++ ':' :: (style.gap ++ (doc.written style.inner ++ rest)) := by
  rw [memberText, List.append_assoc, List.cons_append, List.append_assoc]

theorem parts_apart (lead : List Char) (texts : List (List Char)) {rest : List Char}
    (apart : Apart rest) : Apart (parts lead false texts ++ rest) := by
  cases texts with
  | nil => exact apart
  | cons text texts => exact .cons (by decide) _

/-- A text gives one more round than it has parts: one for its end. -/
theorem length_parts_lt (lead : List Char) (texts : List (List Char)) (close : List Char) (c : Char)
    (rest : List Char) :
    texts.length < (parts lead true texts ++ (close ++ c :: rest)).length + 1 := by
  have following : ∀ texts : List (List Char), texts.length ≤ (parts lead false texts).length := by
    intro texts
    induction texts with
    | nil => exact Nat.zero_le _
    | cons text texts ih =>
        simp only [parts, List.length_append, List.length_cons, Bool.false_eq_true, if_false]
        omega
  rw [List.length_append, List.length_append, List.length_cons]
  cases texts with
  | nil => exact Nat.succ_pos _
  | cons text texts =>
      have := following texts
      simp only [parts, List.length_append, List.length_cons]
      omega

/-- What puts a comma between two parts, and nothing else, writes them as parts. -/
theorem eq_parts {α : Type} {lead : List Char} {text : List α → List Char} {item : α → List Char}
    (none : text [] = []) (one : ∀ a, text [a] = lead ++ item a)
    (more : ∀ a b rest, text (a :: b :: rest) = lead ++ item a ++ ',' :: text (b :: rest))
    (items : List α) : text items = parts lead true (items.map item) := by
  induction items with
  | nil => exact none
  | cons a rest ih =>
      cases rest with
      | nil => simp [one, parts]
      | cons b rest =>
          rw [more, ih]
          simp [parts]

theorem compactItems_eq (items : List Doc) :
    compactItems items = parts Style.line.lead true (items.map (written .line)) :=
  eq_parts (by rw [compactItems]) (fun _ => by rw [compactItems]; rfl)
    (fun _ _ _ => by rw [compactItems]; rfl) items

theorem compactMembers_eq (members : List (String × Doc)) :
    compactMembers members = parts Style.line.lead true (members.map (memberText .line)) :=
  eq_parts (by rw [compactMembers]) (fun _ => by rw [compactMembers, compactMember]; rfl)
    (fun _ _ _ => by rw [compactMembers, compactMember]; rfl) members

theorem indentedItems_eq (depth : Nat) (items : List Doc) :
    indentedItems (depth + 1) items =
      parts (Style.page depth).lead true (items.map (written (.page (depth + 1)))) :=
  eq_parts (by rw [indentedItems]) (fun _ => by rw [indentedItems]; rfl)
    (fun _ _ _ => by rw [indentedItems]; rfl) items

theorem indentedMembers_eq (depth : Nat) (members : List (String × Doc)) :
    indentedMembers (depth + 1) members =
      parts (Style.page depth).lead true (members.map (memberText (.page depth))) :=
  eq_parts (by rw [indentedMembers]) (fun _ => by rw [indentedMembers, indentedMember]; rfl)
    (fun _ _ _ => by rw [indentedMembers, indentedMember]; rfl) members

/-! ## Lists and records -/

theorem written_list (style : Style) (items : List Doc) : ∃ close, Blank close ∧
    written style (.list items) =
      '[' :: (parts style.lead true (items.map (written style.inner)) ++ (close ++ [']'])) := by
  cases style with
  | line => exact ⟨[], .nil, by rw [written, compact, compactItems_eq]; rfl⟩
  | page depth =>
      cases items with
      | nil => exact ⟨[], .nil, rfl⟩
      | cons item rest =>
          refine ⟨newline depth, newline_blank depth, ?_⟩
          rw [written, indented, indentedItems_eq, List.cons_append, List.cons_append, List.append_assoc]
          rfl

theorem written_record (style : Style) (members : List (String × Doc)) : ∃ close, Blank close ∧
    written style (.record members) =
      '\x7b' :: (parts style.lead true (members.map (memberText style)) ++ (close ++ ['\x7d'])) := by
  cases style with
  | line => exact ⟨[], .nil, by rw [written, compact, compactMembers_eq]; rfl⟩
  | page depth =>
      cases members with
      | nil => exact ⟨[], .nil, rfl⟩
      | cons member rest =>
          refine ⟨newline depth, newline_blank depth, ?_⟩
          rw [written, indented, indentedMembers_eq, List.cons_append, List.cons_append, List.append_assoc]

end Doc

end FusionSensors.Json
