/-
# FusionSensors.Json.Escape -- texts between quotes

Writing escapes the quote, the backslash and the controls below the space,
five of them by a letter and the rest by four lower-case hexadecimal digits.
Reading also accepts an escaped slash and any character by its code; a
character beyond the basic plane is written as two escapes, a leading and a
trailing surrogate.

A text that is only skipped is checked less closely: its codes need four
hexadecimal digits each, whatever they spell.
-/
import FusionSensors.Json.Reader

namespace FusionSensors.Json.Escape

set_option autoImplicit false

/-! ## Writing -/

/-- The letter of a character that is escaped by a letter. -/
def letter? : Char → Option Char
  | '"' => some '"'
  | '\\' => some '\\'
  | '\x08' => some 'b'
  | '\x0C' => some 'f'
  | '\n' => some 'n'
  | '\r' => some 'r'
  | '\t' => some 't'
  | _ => none

/-- A hexadecimal digit below 16. -/
def hexDigit (n : Nat) : Char := Nat.digitChar n

/-- One character between quotes. -/
def encodeChar (c : Char) : List Char :=
  match letter? c with
  | some letter => ['\\', letter]
  | none =>
    if c.toNat < 0x20 then
      ['\\', 'u', '0', '0', hexDigit (c.toNat / 16), hexDigit (c.toNat % 16)]
    else [c]

/-- A text between quotes. -/
def encode (text : List Char) : List Char := '"' :: text.flatMap encodeChar ++ ['"']

/-! ## Reading -/

/-- The character that an escape letter stands for. -/
def character? : Char → Option Char
  | '"' => some '"'
  | '\\' => some '\\'
  | '/' => some '/'
  | 'b' => some '\x08'
  | 'f' => some '\x0C'
  | 'n' => some '\n'
  | 'r' => some '\r'
  | 't' => some '\t'
  | _ => none

/-- The value of a hexadecimal digit of either case. -/
def hexValue? (c : Char) : Option Nat :=
  if '0' ≤ c ∧ c ≤ '9' then some (c.toNat - '0'.toNat)
  else if 'a' ≤ c ∧ c ≤ 'f' then some (c.toNat - 'a'.toNat + 10)
  else if 'A' ≤ c ∧ c ≤ 'F' then some (c.toNat - 'A'.toNat + 10)
  else none

/-- The value of hexadecimal digits. -/
def hexNumber? (digits : List Char) : Option Nat :=
  digits.foldl (fun n c => do return 16 * (← n) + (← hexValue? c)) (some 0)

/-- Takes four hexadecimal digits. The text ends too early if fewer than four
bytes remain, whatever they are. -/
def code : Reader Nat := fun text =>
  if (text.take 4).foldl (fun bytes c => bytes + c.utf8Size) 0 < 4 then .error .endInText
  else
    match hexNumber? (text.take 4) with
    | some n => .ok (n, text.drop 4)
    | none => .error .badEscape

def isLeading (n : Nat) : Bool := 0xD800 ≤ n && n ≤ 0xDBFF

def isTrailing (n : Nat) : Bool := 0xDC00 ≤ n && n ≤ 0xDFFF

/-- Takes the character `expected` between two halves of a surrogate pair. -/
def pairMark (expected : Char) : Reader Unit := do
  match ← Reader.next with
  | none => Reader.stop .endInText
  | some c => if c = expected then pure () else Reader.stop .surrogateCut

/-- The character of a code escape, after its letter `u`. -/
def codedChar : Reader Char := do
  let high ← code
  if isTrailing high then Reader.stop .loneSurrogate
  else if isLeading high then
    pairMark '\\'
    pairMark 'u'
    let low ← code
    if isTrailing low then
      pure (Char.ofNat (0x10000 + (high - 0xD800) * 0x400 + (low - 0xDC00)))
    else Reader.stop .loneSurrogate
  else pure (Char.ofNat high)

/-- The character of an escape, after its backslash. -/
def escaped : Reader Char := do
  match ← Reader.next with
  | none => Reader.stop .endInText
  | some 'u' => codedChar
  | some c =>
    match character? c with
    | some c => pure c
    | none => Reader.stop .badEscape

/-- The rest of a text after its opening quote; the closing quote is taken. -/
def decode : Reader String :=
  Reader.iterate (fun (reversed : List Char) => do
    match ← Reader.next with
    | none => Reader.stop .endInText
    | some '"' => pure (.inr (String.ofList reversed.reverse))
    | some '\\' => return .inl ((← escaped) :: reversed)
    | some c => if c.toNat < 0x20 then Reader.stop .rawControl else pure (.inl (c :: reversed))) []

/-- Skips the rest of a text after its opening quote. -/
def skip : Reader Unit :=
  Reader.iterate (fun () => do
    match ← Reader.next with
    | none => Reader.stop .endInText
    | some '"' => pure (.inr ())
    | some '\\' =>
      match ← Reader.next with
      | none => Reader.stop .endInText
      | some 'u' => let _ ← code; pure (.inl ())
      | some c => if (character? c).isSome then pure (.inl ()) else Reader.stop .badEscape
    | some c => if c.toNat < 0x20 then Reader.stop .rawControl else pure (.inl ())) ()

end FusionSensors.Json.Escape
