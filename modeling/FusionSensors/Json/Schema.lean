/-
# FusionSensors.Json.Schema -- records

A schema lists the members of a record in order. A record is read from an
object, whose members come in any order and may be mixed with unknown ones, or
from a list of the members' values in order. Reading starts from a blank
record and sets one member after another.

An object must hold every member that is not optional, and no member twice.
Where the schema is `filled`, the blank record is a full default: absent
members keep its values, also those that a short list leaves out.
-/
import FusionSensors.Json.Format

namespace FusionSensors.Json

set_option autoImplicit false

/-- A member of a record: how its value changes a record that is being read,
and how it is written. -/
structure Member (ρ : Type) where
  name : String
  isOptional : Bool
  read : Reader (ρ → ρ)
  write : ρ → Doc

/-- A record: its name in messages and its members in order. -/
structure Schema (ρ : Type) where
  name : String
  blank : ρ
  filled : Bool
  members : List (Member ρ)

namespace Member

variable {ρ α : Type}

/-- A member of a given format, by its two accessors. -/
def of (name : String) (format : Format α) (get : ρ → α) (set : α → ρ → ρ) : Member ρ where
  name := name
  isOptional := false
  read := return set (← format.read)
  write record := format.write (get record)

/-- A member that an object may leave out; it is then what the blank record says. -/
def mayLack (member : Member ρ) : Member ρ := { member with isOptional := true }

end Member

namespace Schema

variable {ρ : Type} (schema : Schema ρ)

/-- What messages call the record. -/
def expected : String := "struct " ++ schema.name

/-! ## Objects -/

/-- A record that is being read from an object. -/
structure Draft (ρ : Type) where
  record : ρ
  /-- names of the members read so far -/
  present : List String
  /-- no member stands before -/
  atStart : Bool

/-- The first member that an object must hold and `present` lacks. -/
def firstMissing (present : List String) : Option String :=
  if schema.filled then none
  else
    (schema.members.find? fun member => !member.isOptional && !present.contains member.name).map
      Member.name

/-- Gets to the key of the next member, past the comma that every member but
the first has before it; answers whether there is one. -/
def toKey (atStart : Bool) : Reader Bool := do
  match ← Reader.look with
  | none => Reader.stop .endInRecord
  | some '\x7d' => pure false
  | some c =>
    if atStart then
      if c = '"' then pure true else Reader.stop .keyNotText
    else if c = ',' then
      Reader.advance
      match ← Reader.look with
      | none => Reader.stop .endInValue
      | some '"' => pure true
      | some '\x7d' => Reader.stop .trailingComma
      | some _ => Reader.stop .keyNotText
    else Reader.stop .noRecordEnd

/-- Reads one member, from its key on. -/
def member (draft : Draft ρ) : Reader (Draft ρ) := do
  Reader.advance
  let key ← Escape.decode
  match schema.members.find? fun member => member.name == key with
  | none =>
    Skip.colon
    Skip.value
    pure { draft with atStart := false }
  | some known =>
    if draft.present.contains key then Reader.stop (.repeatedMember key)
    else
      Skip.colon
      let set ← known.read
      pure ⟨set draft.record, key :: draft.present, false⟩

/-- Reads the members of an object, after its opening bracket. -/
def object : Reader ρ :=
  Reader.iterate (fun draft => do
    if ← toKey draft.atStart then return .inl (← schema.member draft)
    else
      match schema.firstMissing draft.present with
      | some name => Reader.stop (.missingMember name)
      | none =>
        Reader.advance
        pure (.inr draft.record)) ⟨schema.blank, [], true⟩

/-! ## Lists of members -/

/-- A number of elements, as a message says it. -/
def elements (count : Nat) : String :=
  String.ofList (Decimal.natural count) ++ if count = 1 then " element" else " elements"

/-- Reads the values of the given members, which start at `index`. -/
def values (record : ρ) (index : Nat) : List (Member ρ) → Reader ρ
  | [] => pure record
  | member :: rest => do
    if ← Reader.toItem (index == 0) then
      let set ← member.read
      values (set record) (index + 1) rest
    else if schema.filled then pure record
    else
      Reader.stop (.wrongLength index
        (schema.expected ++ " with " ++ elements schema.members.length))

/-! ## The format of a record -/

/-- Reads a record in either form. -/
def read : Reader ρ := do
  match ← Reader.look with
  | some '\x7b' => Reader.advance; schema.object
  | some '[' =>
    Reader.advance
    let record ← schema.values schema.blank 0 schema.members
    Reader.listEnd
    pure record
  | _ => Reader.mismatch schema.expected

/-- Writes a record as an object, its members in order. -/
def write (record : ρ) : Doc :=
  .record (schema.members.map fun member => (member.name, member.write record))

def format : Format ρ := ⟨schema.read, schema.write⟩

end Schema

end FusionSensors.Json
