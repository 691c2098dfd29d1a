/-
# FusionSensors.Proofs.Grammar -- what a JSON value is

A JSON value is a word, a number, a text between quotes, a list or a record,
with white space around what stands inside brackets (`IsJson`). The grammar
says nothing of what a value means: a number may be out of every range, and a
code in a text may be half a character.

A value shows by its first character which of these it is, so that a reader
that goes by this character goes by the grammar.
-/
import FusionSensors.Json.Skip
import FusionSensors.Proofs.Writing

namespace FusionSensors.Json

set_option autoImplicit false

open Reader

/-! ## Numbers -/

/-- One digit or more. -/
structure IsDigits (digits : List Char) : Prop where
  nonempty : digits ≠ []
  all : ∀ c ∈ digits, c.isDigit = true

/-- The digits before the point: a single zero, or digits that begin with another one. -/
structure IsWhole (digits : List Char) : Prop extends IsDigits digits where
  leading : digits.head? = some '0' → digits = ['0']

/-- The point with its digits, if there is one. -/
inductive IsFraction : List Char → Prop
  | absent : IsFraction []
  | digits {digits : List Char} (written : IsDigits digits) : IsFraction ('.' :: digits)

/-- The mark of an exponent with its sign and its digits, if there is one. -/
inductive IsExponent : List Char → Prop
  | absent : IsExponent []
  | digits {mark : Char} (marks : mark = 'e' ∨ mark = 'E') {sign : List Char}
      (signs : sign = [] ∨ sign = ['+'] ∨ sign = ['-']) {digits : List Char}
      (written : IsDigits digits) : IsExponent (mark :: (sign ++ digits))

/-- A number after its sign. -/
inductive IsMagnitude : List Char → Prop
  | parts {whole fraction exponent : List Char} (isWhole : IsWhole whole)
      (isFraction : IsFraction fraction) (isExponent : IsExponent exponent) :
      IsMagnitude (whole ++ (fraction ++ exponent))

/-! ## Texts -/

/-- What stands between the quotes of a text: characters for themselves, and
escapes by a letter or by four hexadecimal digits. -/
inductive IsBody : List Char → Prop
  | done : IsBody []
  | plain {c : Char} {body : List Char} (visible : 0x20 ≤ c.toNat) (unquoted : c ≠ '"')
      (unescaped : c ≠ '\\') (more : IsBody body) : IsBody (c :: body)
  | letter {c : Char} {body : List Char} (named : (Escape.character? c).isSome = true)
      (more : IsBody body) : IsBody ('\\' :: c :: body)
  | code {digits body : List Char} (four : digits.length = 4)
      (hex : ∀ c ∈ digits, (Escape.hexValue? c).isSome = true) (more : IsBody body) :
      IsBody ('\\' :: 'u' :: (digits ++ body))

/-! ## Lists and records -/

/-- A value with the white space around it. -/
structure Item where
  lead : List Char
  value : List Char
  trail : List Char

/-- A key, from the white space before it on, and its value. -/
structure Pair where
  lead : List Char
  key : List Char
  gap : List Char
  item : Item

namespace Item

def text (item : Item) : List Char := item.lead ++ (item.value ++ item.trail)

/-- The item with another value in its place. -/
def holding (item : Item) (value : List Char) : Item := { item with value := value }

/-- There is nothing but white space around the value. -/
structure Spaced (item : Item) : Prop where
  lead : Blank item.lead
  trail : Blank item.trail

end Item

namespace Pair

/-- What stands before the value and the white space around it. -/
def front (pair : Pair) (text : List Char) : List Char :=
  pair.lead ++ '"' :: (pair.key ++ '"' :: (pair.gap ++ ':' :: text))

def text (pair : Pair) : List Char := pair.front pair.item.text

def value (pair : Pair) : List Char := pair.item.value

/-- The pair with another value in its place. -/
def holding (pair : Pair) (value : List Char) : Pair := { pair with item := pair.item.holding value }

/-- A pair without white space, whose key stands for itself. -/
def plain (key value : String) : Pair := ⟨[], key.toList, [], ⟨[], value.toList, []⟩⟩

/-- The key is a text, and there is nothing but white space around it and the value. -/
structure Spaced (pair : Pair) : Prop where
  lead : Blank pair.lead
  key : IsBody pair.key
  gap : Blank pair.gap
  item : pair.item.Spaced

end Pair

def listText (items : List Item) (close : List Char) : List Char :=
  '[' :: (Doc.parts [] true (items.map Item.text) ++ (close ++ [']']))

def recordText (pairs : List Pair) (close : List Char) : List Char :=
  '\x7b' :: (Doc.parts [] true (pairs.map Pair.text) ++ (close ++ ['\x7d']))

/-! ## Values -/

/-- A JSON value, without white space around it. -/
inductive IsJson : List Char → Prop
  | null : IsJson ['n', 'u', 'l', 'l']
  | yes : IsJson ['t', 'r', 'u', 'e']
  | no : IsJson ['f', 'a', 'l', 's', 'e']
  | positive {digits : List Char} (magnitude : IsMagnitude digits) : IsJson digits
  | negative {digits : List Char} (magnitude : IsMagnitude digits) : IsJson ('-' :: digits)
  | text {body : List Char} (isBody : IsBody body) : IsJson ('"' :: (body ++ ['"']))
  | list (items : List Item) {close : List Char} (blank : Blank close)
      (spaced : ∀ item ∈ items, item.Spaced) (values : ∀ item ∈ items, IsJson item.value) :
      IsJson (listText items close)
  | record (pairs : List Pair) {close : List Char} (blank : Blank close)
      (spaced : ∀ pair ∈ pairs, pair.Spaced) (values : ∀ pair ∈ pairs, IsJson pair.item.value) :
      IsJson (recordText pairs close)

/-- A pair whose value is a JSON value. -/
structure Pair.Valid (pair : Pair) : Prop extends pair.Spaced where
  json : IsJson pair.value

/-- A character that stands for itself between quotes. -/
def isPlain (c : Char) : Bool := decide (0x20 ≤ c.toNat ∧ c ≠ '"' ∧ c ≠ '\\')

/-- Characters that stand for themselves are a text. -/
theorem IsBody.of_plain {body : List Char} (plain : body.all isPlain = true) : IsBody body := by
  induction body with
  | nil => exact .done
  | cons c body ih =>
      rw [List.all_cons, Bool.and_eq_true, isPlain, decide_eq_true_iff] at plain
      obtain ⟨⟨visible, unquoted, unescaped⟩, others⟩ := plain
      exact .plain visible unquoted unescaped (ih others)

/-- A number without a fraction and an exponent. -/
theorem IsMagnitude.of_digits {c : Char} {rest : List Char}
    (all : (c :: rest).all Char.isDigit = true) (leading : c ≠ '0') : IsMagnitude (c :: rest) := by
  have isWhole : IsWhole (c :: rest) := {
    nonempty := List.cons_ne_nil c rest
    all := List.all_eq_true.1 all
    leading := fun first => absurd (Option.some.inj first) leading }
  simpa using IsMagnitude.parts isWhole .absent .absent

/-! ## First characters -/

theorem IsMagnitude.cons {digits : List Char} (magnitude : IsMagnitude digits) :
    ∃ c rest, digits = c :: rest ∧ c.isDigit = true := by
  obtain ⟨whole, -, -⟩ := magnitude
  obtain ⟨c, rest, rfl⟩ := List.exists_cons_of_ne_nil whole.nonempty
  exact ⟨c, _, rfl, whole.all c List.mem_cons_self⟩

/-- What the first character of a value tells. -/
inductive IsJson.Begins (c : Char) (value : List Char) : Prop
  | word (letters : c = 'n' ∨ c = 't' ∨ c = 'f') (null : c = 'n' → value = ['n', 'u', 'l', 'l'])
  | digit (digit : c.isDigit = true) (magnitude : IsMagnitude value)
  | minus (minus : c = '-') {digits : List Char} (magnitude : IsMagnitude digits)
      (rest : value = '-' :: digits)
  | quote (quote : c = '"') {body : List Char} (isBody : IsBody body)
      (rest : value = '"' :: (body ++ ['"']))
  | list (bracket : c = '[') (items : List Item) {close : List Char} (blank : Blank close)
      (spaced : ∀ item ∈ items, item.Spaced) (values : ∀ item ∈ items, IsJson item.value)
      (rest : value = listText items close)
  | record (bracket : c = '\x7b') (pairs : List Pair) {close : List Char} (blank : Blank close)
      (spaced : ∀ pair ∈ pairs, pair.Spaced) (values : ∀ pair ∈ pairs, IsJson pair.item.value)
      (rest : value = recordText pairs close)

theorem IsJson.begins {value : List Char} (json : IsJson value) :
    ∃ c rest, value = c :: rest ∧ IsJson.Begins c value := by
  cases json with
  | null => exact ⟨'n', _, rfl, .word (by decide) fun _ => rfl⟩
  | yes => exact ⟨'t', _, rfl, .word (by decide) nofun⟩
  | no => exact ⟨'f', _, rfl, .word (by decide) nofun⟩
  | positive magnitude =>
      obtain ⟨c, rest, same, digit⟩ := magnitude.cons
      exact ⟨c, rest, same, .digit digit magnitude⟩
  | negative magnitude => exact ⟨'-', _, rfl, .minus rfl magnitude rfl⟩
  | text isBody => exact ⟨'"', _, rfl, .quote rfl isBody rfl⟩
  | list items blank spaced values => exact ⟨'[', _, rfl, .list rfl items blank spaced values rfl⟩
  | record pairs blank spaced values =>
      exact ⟨'\x7b', _, rfl, .record rfl pairs blank spaced values rfl⟩

theorem IsJson.head {c : Char} {rest : List Char} (json : IsJson (c :: rest)) :
    IsJson.Begins c (c :: rest) := by
  obtain ⟨_, _, same, begins⟩ := json.begins
  cases same
  exact begins

end FusionSensors.Json
