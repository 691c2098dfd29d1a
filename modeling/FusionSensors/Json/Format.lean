/-
# FusionSensors.Json.Format -- a type's form as JSON

A format pairs the reader of a type with its document. The formats here are
those of single values; `Json.Schema` builds the format of a record out of
them.

A reader that meets a value of another kind reads that value as far as its
name in the message needs it, so a defect inside it comes first.
-/
import FusionSensors.Json.Numeral
import FusionSensors.Json.Skip
import FusionSensors.Json.Doc

namespace FusionSensors.Json

set_option autoImplicit false

/-- How values of a type are read and written. -/
structure Format (α : Type) where
  read : Reader α
  write : α → Doc

namespace Reader

variable {α : Type}

/-- Stops because the value ahead is of another kind than `expected`. -/
def mismatch (expected : String) : Reader α := do
  match ← look with
  | none => stop .endInValue
  | some 'n' => advance; word ['u', 'l', 'l']; stop (.wrongKind .null expected)
  | some 't' => advance; word ['r', 'u', 'e']; stop (.wrongKind (.boolean true) expected)
  | some 'f' => advance; word ['a', 'l', 's', 'e']; stop (.wrongKind (.boolean false) expected)
  | some '-' => advance; stop (.wrongKind (← Numeral.read true).found expected)
  | some '"' => advance; stop (.wrongKind (.text (← Escape.decode)) expected)
  | some '[' => stop (.wrongKind .list expected)
  | some '\x7b' => stop (.wrongKind .record expected)
  | some c =>
    if c.isDigit then stop (.wrongKind (← Numeral.read false).found expected) else stop .noValue

/-- A number literal. -/
def numeral (expected : String) : Reader Numeral := do
  match ← look with
  | some '-' => advance; Numeral.read true
  | some c => if c.isDigit then Numeral.read false else mismatch expected
  | none => stop .endInValue

/-- An integer from `least` to `greatest`. -/
def integer (least greatest : Int) (expected : String) : Reader Int := do
  match ← numeral expected with
  | .integer n => if least ≤ n ∧ n ≤ greatest then pure n else stop (.outOfRange n expected)
  | .float x => stop (.wrongKind (.float x) expected)

/-- A number, rounded to binary32. -/
def single : Reader Single := do
  match ← numeral "f32" with
  | .integer n => pure (Single.ofInt n)
  | .float x => pure x.toSingle

def text : Reader String := do
  match ← look with
  | some '"' => advance; Escape.decode
  | _ => mismatch "a string"

def boolean : Reader Bool := do
  match ← look with
  | some 't' => advance; word ['r', 'u', 'e']; pure true
  | some 'f' => advance; word ['a', 'l', 's', 'e']; pure false
  | _ => mismatch "a boolean"

/-- An item that may be absent: `null` reads as none. -/
def optional (item : Reader α) : Reader (Option α) := do
  match ← look with
  | some 'n' => advance; word ['u', 'l', 'l']; pure none
  | _ => return some (← item)

/-! ## Variants -/

/-- The value of a named variant. -/
def variantNamed (table : List (String × α)) (name : String) : Reader α :=
  match table.lookup name with
  | some value => pure value
  | none => stop (.unknownVariant name (table.map Prod.fst))

/-- Gets past the quote that opens the one key of a record which stands for a
variant. A record without a key is no variant, and a key is a text. -/
def toVariantKey : Reader Unit := do
  match ← look with
  | none => stop .endInRecord
  | some '"' => advance
  | some '\x7d' => stop .noValue
  | some _ => stop .keyNotText

/-- A variant without contents: its name, or a record whose one member has
that name and the value `null`. -/
def variant (table : List (String × α)) : Reader α := do
  match ← look with
  | none => stop .endInValue
  | some '"' => advance; variantNamed table (← Escape.decode)
  | some '\x7b' =>
    advance
    toVariantKey
    let value ← variantNamed table (← Escape.decode)
    Skip.colon
    match ← look with
    | some 'n' => advance; word ['u', 'l', 'l']
    | _ => mismatch "unit"
    match ← look with
    | some '\x7d' => advance; pure value
    | some _ => stop .noValue
    | none => stop .endInRecord
  | some _ => stop .noValue

/-! ## Lists -/

/-- Gets to the next item of a list, past the comma that every item but the
first has before it; answers whether there is one. -/
def toItem (isFirst : Bool) : Reader Bool := do
  match ← look with
  | none => stop .endInList
  | some ']' => pure false
  | some c =>
    if isFirst then pure true
    else if c = ',' then
      advance
      match ← look with
      | none => stop .endInValue
      | some ']' => stop .trailingComma
      | some _ => pure true
    else stop .noListEnd

/-- Takes the end of a list that has all its items. -/
def listEnd : Reader Unit := do
  match ← look with
  | none => stop .endInList
  | some ']' => advance
  | some ',' =>
    advance
    if (← look) = some ']' then stop .trailingComma else stop .trailingText
  | some _ => stop .trailingText

/-- A list of any length. -/
def list (item : Reader α) : Reader (List α) := do
  match ← look with
  | some '[' =>
    advance
    iterate (fun (reversed : List α) => do
      if ← toItem reversed.isEmpty then return .inl ((← item) :: reversed)
      else
        advance
        return .inr reversed.reverse) []
  | _ => mismatch "a sequence"

/-- The items of a list from the one at `index` on, `count` of them. -/
def items (item : Reader α) (expected : String) (index : Nat) : Nat → Reader (List α)
  | 0 => pure []
  | count + 1 => do
    if ← toItem (index == 0) then
      return (← item) :: (← items item expected (index + 1) count)
    else stop (.wrongLength index expected)

/-- A list of exactly `count` items. -/
def exactly (count : Nat) (item : Reader α) : Reader (List α) := do
  let expected := "an array of length " ++ String.ofList (Decimal.natural count)
  match ← look with
  | some '[' =>
    advance
    let values ← items item expected 0 count
    listEnd
    pure values
  | _ => mismatch expected

end Reader

namespace Format

variable {α : Type}

/-! ## Single values -/

/-- Integers of a range; `name` is what messages call the range. -/
def integer (least greatest : Int) (name : String) : Format Int :=
  ⟨Reader.integer least greatest name, .integer⟩

def int32 : Format Int := integer (-2147483648) 2147483647 "i32"

def int64 : Format Int := integer (-9223372036854775808) 9223372036854775807 "i64"

/-- Naturals of a range. -/
def natural (greatest : Nat) (name : String) : Format Nat :=
  ⟨return (← Reader.integer 0 greatest name).toNat, fun n => .integer n⟩

def nat32 : Format Nat := natural (UInt32.size - 1) "u32"

def nat64 : Format Nat := natural (UInt64.size - 1) "u64"

/-- Sizes have 64 bits. -/
def size : Format Nat := natural (UInt64.size - 1) "usize"

def single : Format Single := ⟨Reader.single, .single⟩

def text : Format String := ⟨Reader.text, .text⟩

def boolean : Format Bool := ⟨Reader.boolean, .boolean⟩

def optional (item : Format α) : Format (Option α) :=
  ⟨Reader.optional item.read, fun
    | none => .null
    | some a => item.write a⟩

def list (item : Format α) : Format (List α) :=
  ⟨Reader.list item.read, fun xs => .list (xs.map item.write)⟩

/-- Variants without contents, by their names. -/
def variants (table : List (String × α)) (nameOf : α → String) : Format α :=
  ⟨Reader.variant table, fun a => .text (nameOf a)⟩

end Format

end FusionSensors.Json
