/-
# FusionSensors.Json.Doc -- values to be written

A document is a tree of values whose records keep their members in order. It
is written on one line (`compact`) or with one member or item a line, indented
by two spaces a level (`indented`). A number that is not finite has no
literal and is written as `null`.
-/
import FusionSensors.Json.Escape

namespace FusionSensors.Json

set_option autoImplicit false

/-- A value to be written. -/
inductive Doc where
  | null
  | boolean (value : Bool)
  | integer (value : Int)
  | single (value : Single)
  | text (value : String)
  | list (items : List Doc)
  | record (members : List (String × Doc))

namespace Doc

/-- The literal of a number. -/
def singleText (x : Single) : List Char := if x.isFinite then x.digits else ['n', 'u', 'l', 'l']

/-- A value that holds no other. -/
def scalar : Doc → List Char
  | .boolean true => ['t', 'r', 'u', 'e']
  | .boolean false => ['f', 'a', 'l', 's', 'e']
  | .integer value => Decimal.integer value
  | .single value => singleText value
  | .text value => Escape.encode value.toList
  | _ => ['n', 'u', 'l', 'l']

/-! ## On one line -/

mutual

/-- The text without any white space. -/
def compact : Doc → List Char
  | .list items => '[' :: compactItems items ++ [']']
  | .record members => '\x7b' :: compactMembers members ++ ['\x7d']
  | doc => doc.scalar

def compactItems : List Doc → List Char
  | [] => []
  | [item] => item.compact
  | item :: next :: rest => item.compact ++ ',' :: compactItems (next :: rest)

def compactMember : String × Doc → List Char
  | (name, value) => Escape.encode name.toList ++ ':' :: value.compact

def compactMembers : List (String × Doc) → List Char
  | [] => []
  | [member] => compactMember member
  | member :: next :: rest => compactMember member ++ ',' :: compactMembers (next :: rest)

end

/-! ## One line for each part -/

/-- The start of a line at a depth. -/
def newline (depth : Nat) : List Char := '\n' :: List.replicate (2 * depth) ' '

mutual

/-- The text with every part of a list or record on a line of its own. -/
def indented (depth : Nat) : Doc → List Char
  | .list [] => ['[', ']']
  | .list (item :: rest) =>
    '[' :: indentedItems (depth + 1) (item :: rest) ++ newline depth ++ [']']
  | .record [] => ['\x7b', '\x7d']
  | .record (member :: rest) =>
    '\x7b' :: indentedMembers (depth + 1) (member :: rest) ++ newline depth ++ ['\x7d']
  | doc => doc.scalar

def indentedItems (depth : Nat) : List Doc → List Char
  | [] => []
  | [item] => newline depth ++ indented depth item
  | item :: next :: rest =>
    newline depth ++ indented depth item ++ ',' :: indentedItems depth (next :: rest)

def indentedMember (depth : Nat) : String × Doc → List Char
  | (name, value) => Escape.encode name.toList ++ ':' :: ' ' :: indented depth value

def indentedMembers (depth : Nat) : List (String × Doc) → List Char
  | [] => []
  | [member] => newline depth ++ indentedMember depth member
  | member :: next :: rest =>
    newline depth ++ indentedMember depth member ++ ',' :: indentedMembers depth (next :: rest)

end

/-- The text on one line. -/
def line (doc : Doc) : String := String.ofList doc.compact

/-- The text on many lines. -/
def page (doc : Doc) : String := String.ofList (doc.indented 0)

end Doc

end FusionSensors.Json
