/-
# FusionSensors.Text.Quoted -- a text quoted in a message

Messages quote a text between double quotes. The quote and the backslash get
a backslash, NUL and the three layout controls a letter, and every other
character that would not show gets its code point, as in `\u{7f}`.
-/
import FusionSensors.Text.Unprintable

namespace FusionSensors.Text

set_option autoImplicit false

/-- The letter that stands after a backslash for a character that has one. -/
def shortEscape? : Char → Option Char
  | '"' => some '"'
  | '\\' => some '\\'
  | '\n' => some 'n'
  | '\r' => some 'r'
  | '\t' => some 't'
  | '\x00' => some '0'
  | _ => none

/-- One character of a quoted text. -/
def quotedChar (c : Char) : List Char :=
  match shortEscape? c with
  | some letter => ['\\', letter]
  | none =>
    if isUnprintable c then ['\\', 'u', '\x7b'] ++ Nat.toDigits 16 c.toNat ++ ['\x7d'] else [c]

/-- A text between quotes, with what does not show escaped. -/
def quoted (text : String) : String :=
  String.ofList ('"' :: text.toList.flatMap quotedChar ++ ['"'])

end FusionSensors.Text
