/-
# FusionSensors.Text.Lines -- the lines of a file

A line ends at a line feed, and a carriage return in front of that line feed
belongs to the ending. Text after the last line feed is a line too; nothing
after it is none. A line of bytes must be UTF-8 on its own.
-/
namespace FusionSensors.Text

set_option autoImplicit false

section Split

variable {α : Type} [DecidableEq α] (feed ret : α)

/-- Drops one carriage return at the end. -/
def dropReturn (line : List α) : List α :=
  if line.getLast? = some ret then line.dropLast else line

/-- The lines of a sequence of symbols, given its line feed and its carriage return. -/
def linesFrom : List α → List α → List (List α)
  | line, [] => if line.isEmpty then [] else [line.reverse]
  | line, c :: rest =>
    if c = feed then dropReturn ret line.reverse :: linesFrom [] rest
    else linesFrom (c :: line) rest

end Split

/-- The lines of a text. -/
def lines (text : String) : List String :=
  (linesFrom '\n' '\r' [] text.toList).map String.ofList

/-- The lines of a file, each one none if its bytes are not UTF-8. A file that
is UTF-8 as a whole is cut as a text. -/
def fileLines (bytes : ByteArray) : List (Option String) :=
  match String.fromUTF8? bytes with
  | some text => (lines text).map some
  | none => (linesFrom (10 : UInt8) 13 [] bytes.data.toList).map fun line =>
      String.fromUTF8? (ByteArray.mk line.toArray)

example : lines "a\r\n\nb" = ["a", "", "b"] := by decide +kernel

end FusionSensors.Text
