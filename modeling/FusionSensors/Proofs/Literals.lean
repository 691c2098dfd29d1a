/-
# FusionSensors.Proofs.Literals -- what is written of a single value reads back

A number is read as far as a number can go, so what follows it must not go on
with it; a text ends at its quote, whatever follows. Every integer of 64 bits
is read back from its decimal digits, and every text from what is written
between its quotes, escape by escape.

A number that is not finite has no literal. It is written as `null`, which no
number is read from (`single_null`).
-/
import FusionSensors.Json.Format
import FusionSensors.Proofs.Reading

set_option autoImplicit false

/-! ## Digits -/

namespace FusionSensors.Decimal

/-- Only zero begins with a zero. -/
theorem natural_cons (n : Nat) (positive : n ≠ 0) :
    ∃ c digits, natural n = c :: digits ∧ c ≠ '0' := by
  induction n using Nat.strongRecOn with
  | ind n ih =>
      rcases Nat.lt_or_ge n 10 with small | large
      · exact ⟨n.digitChar, [], Nat.toDigits_of_lt_base small, by simpa using positive⟩
      · obtain ⟨c, digits, front, nonzero⟩ := ih (n / 10) (by omega) (by omega)
        exact ⟨c, digits ++ [(n % 10).digitChar],
          by rw [natural, Nat.toDigits_of_base_le (by decide) large, ← natural, front, List.cons_append], nonzero⟩

theorem natural_digits (n : Nat) : ∀ c ∈ natural n, c.isDigit = true :=
  fun _ => Nat.isDigit_of_mem_toDigits (by decide) (by decide)

theorem natural_ne_nil (n : Nat) : natural n ≠ [] := Nat.toDigits_ne_nil

end FusionSensors.Decimal

namespace FusionSensors.Json.Numeral

open Reader

/-! ## To the end of a number -/

section Literal

variable {negative : Bool} {significand : Nat} {exponent : Int}

theorem fromParts_extends : Extends (fromParts negative significand exponent) := by
  intro text a left rest _ read
  rw [fromParts] at read ⊢
  cases parts : ofParts negative significand exponent with
  | error defect =>
      rw [parts] at read
      cases read
  | ok n =>
      rw [parts] at read
      cases read
      rfl

/-- An exponent after its mark and its sign. -/
def exponentDigits (negative : Bool) (significand : Nat) (exponent : Int) (sign : Option Char) :
    Reader Numeral := do
  match ← Reader.next with
  | none => Reader.stop .endInValue
  | some c =>
    if c.isDigit then
      let written := valueOf (c :: (← Reader.run Char.isDigit))
      let down := sign = some '-'
      if maxExponent < written then
        if significand ≠ 0 ∧ ¬down then Reader.stop .numberTooLarge
        else fromParts negative 0 0
      else fromParts negative significand (if down then exponent - written else exponent + written)
    else Reader.stop .badNumber

theorem exponentPart_eq :
    exponentPart negative significand exponent = (do
      Reader.advance
      let sign ← Reader.peek
      if sign = some '+' || sign = some '-' then
        Reader.advance
        exponentDigits negative significand exponent sign
      else exponentDigits negative significand exponent sign) := rfl

theorem exponentDigits_extends (sign : Option Char) :
    Extends (exponentDigits negative significand exponent sign) := by
  refine Extends.next_bind (fun _ => nofun) fun c => ?_
  dsimp only
  split
  · refine Extends.run.bind fun digits => ?_
    split
    · split
      · exact .stop _
      · exact fromParts_extends
    · exact fromParts_extends
  · exact .stop _

theorem exponentPart_extends : ExtendsCons (exponentPart negative significand exponent) := by
  rw [exponentPart_eq]
  refine .advance_bind (Extends.peek_bind ?_ nofun)
  intro c
  split
  · exact .advance_bind (exponentDigits_extends _)
  · exact (exponentDigits_extends _).cons

theorem fractionPart_extends : ExtendsCons (fractionPart negative significand exponent) := by
  refine ExtendsCons.advance_bind (Extends.run.bind fun digits => Extends.peek_bind ?_ ?_)
  · intro c
    split
    · exact (Extends.stop _).cons
    · dsimp only
      split
      · exact exponentPart_extends
      · exact fromParts_extends.cons
  · intro a left rest apart read
    split at read
    · cases read
    · rename_i some_digits
      -- the shorter text ends here, and what follows in the longer one is no exponent
      rw [if_neg some_digits]
      simp only [apart.head?_ne (c := 'e') rfl, apart.head?_ne (c := 'E') rfl, decide_false,
        Bool.or_self, Bool.false_eq_true, if_false]
      exact fromParts_extends [] a left rest apart read

/-- The value of a literal that ends after its integer digits. -/
def integerPart (negative : Bool) (significand unused : Nat) : Reader Numeral :=
  if unused ≠ 0 then fromParts negative significand unused
  else if ¬negative then pure (.integer significand)
  else if significand = 0 ∨ 9223372036854775808 < significand then
    pure (.float (-Double.ofNat significand))
  else pure (.integer (-significand))

theorem integerPart_extends (unused : Nat) : Extends (integerPart negative significand unused) := by
  rw [integerPart]
  split
  · exact fromParts_extends
  · split
    · exact .pure _
    · split <;> exact .pure _

theorem tail_eq (unused : Nat) :
    tail negative significand unused = (do
      match ← Reader.peek with
      | some '.' => fractionPart negative significand unused
      | some 'e' => exponentPart negative significand unused
      | some 'E' => exponentPart negative significand unused
      | _ => integerPart negative significand unused) := rfl

theorem tail_extends (unused : Nat) : Extends (tail negative significand unused) := by
  rw [tail_eq]
  refine Extends.peek_bind ?_ ?_
  · intro c
    split
    · exact fractionPart_extends
    · exact exponentPart_extends
    · exact exponentPart_extends
    · exact (integerPart_extends unused).cons
  · intro a left rest apart read
    have ends : ∀ {c}, goesOn c = true → rest.head? ≠ some c := apart.head?_ne
    -- the match looks at the head only, and cannot be split while the text itself stands there
    generalize rest.head? = following at ends ⊢
    split
    · exact absurd rfl (ends rfl)
    · exact absurd rfl (ends rfl)
    · exact absurd rfl (ends rfl)
    · exact integerPart_extends unused [] a left rest apart read

theorem read_extends : Extends (read negative) := by
  refine Extends.next_bind (fun _ => nofun) fun c => ?_
  dsimp only
  split
  · refine Extends.peek_bind ?_ ?_
    · intro c
      split
      · exact (Extends.stop _).cons
      · exact (tail_extends _).cons
    · intro a left rest apart read
      have ends : ¬ rest.head?.any Char.isDigit = true := by
        rw [Option.any_eq_true_iff_get]
        rintro ⟨_, digit⟩
        exact Bool.false_ne_true ((apart.not_digit (Option.get_mem _)).symm.trans digit)
      rw [if_neg ends]
      exact tail_extends 0 [] a left rest apart read
  · split
    · exact Extends.run.bind fun digits => tail_extends _
    · exact .stop _

end Literal

/-! ## Integers -/

/-- No digit of a number that fits is left out. -/
theorem gather_fits {significand : Nat} {digits : List Char}
    (fits : Nat.ofDigitChars 10 digits significand < UInt64.size) :
    gather significand digits = (Nat.ofDigitChars 10 digits significand, []) := by
  induction digits generalizing significand with
  | nil => rw [gather, Nat.ofDigitChars_nil]
  | cons c digits ih =>
      rw [Nat.ofDigitChars_cons] at fits ⊢
      have shorter : 10 * significand + digitValue c ≤
          Nat.ofDigitChars 10 digits (10 * significand + digitValue c) := by
        rw [Nat.ofDigitChars_eq_ofDigitChars_zero]
        exact Nat.le_add_right_of_le (Nat.le_mul_of_pos_left _ (Nat.pow_pos (by decide)))
      rw [gather, if_pos (Nat.lt_of_le_of_lt shorter fits)]
      exact ih fits

/-- A natural number that fits is read up to its last digit. -/
theorem read_natural {negative : Bool} {n : Nat} (fits : n < UInt64.size) :
    read negative (Decimal.natural n) = tail negative n 0 [] := by
  by_cases zero : n = 0
  · -- a zero is read by a branch of its own, which allows no digit after it
    rw [zero]
    rfl
  · obtain ⟨c, digits, written, nonzero⟩ := Decimal.natural_cons n zero
    have all : ∀ d ∈ c :: digits, d.isDigit = true := written ▸ Decimal.natural_digits n
    have value : Nat.ofDigitChars 10 digits (digitValue c) = n := by
      have := Nat.ofDigitChars_ten_toDigits (n := n)
      rwa [← Decimal.natural, written, Nat.ofDigitChars_cons, Nat.mul_zero, Nat.zero_add] at this
    have rest : ∀ d ∈ digits, d.isDigit = true := fun d inside => all d (.tail c inside)
    have gathered : gather (digitValue c) digits = (n, []) := by
      rw [gather_fits (by rwa [value]), value]
    rw [written, read, bind_apply, Reader.next]
    dsimp only [List.head?_cons, List.tail_cons]
    rw [if_neg nonzero, if_pos (all c List.mem_cons_self), bind_apply, run_all rest]
    dsimp only
    rw [gathered]
    rfl

end FusionSensors.Json.Numeral

namespace FusionSensors.Json.Reader

variable {α : Type}

/-! ## Numbers -/

/-- A value of another kind is never answered. -/
theorem mismatch_yields (expected : String) (P : α → Prop) :
    Yields (mismatch expected : Reader α) P := by
  refine .after fun following => ?_
  split
  · exact .stop _ P
  · exact .after fun _ => .after fun _ => .stop _ P
  · exact .after fun _ => .after fun _ => .stop _ P
  · exact .after fun _ => .after fun _ => .stop _ P
  · exact .after fun _ => .after fun _ => .stop _ P
  · exact .after fun _ => .after fun _ => .stop _ P
  · exact .stop _ P
  · exact .stop _ P
  · split
    · exact .after fun _ => .stop _ P
    · exact .stop _ P

theorem mismatch_extends (expected : String) : Extends (mismatch expected : Reader α) :=
  fun text a left _ _ read => (mismatch_yields expected (fun _ => False) text a left read).elim

theorem numeral_extends (expected : String) : Extends (numeral expected) := by
  refine Extends.look_bind (fun _ => nofun) fun c => ?_
  split
  · exact .advance_bind Numeral.read_extends
  · rename_i same
    obtain rfl : c = _ := Option.some.inj same
    split
    · exact Numeral.read_extends.cons
    · exact (mismatch_extends expected).cons
  · rename_i same
    cases same

theorem numeral_padded (expected : String) : Padded (numeral expected) := padded_look _

theorem single_extends : Extends single := by
  refine (numeral_extends "f32").bind fun number => ?_
  cases number <;> exact .pure _

theorem single_padded : Padded single := (numeral_padded "f32").bind _

theorem integer_extends (least greatest : Int) (expected : String) :
    Extends (integer least greatest expected) := by
  refine (numeral_extends expected).bind fun number => ?_
  cases number with
  | integer n =>
      dsimp only
      split
      · exact .pure _
      · exact .stop _
  | float x => exact .stop _

theorem integer_padded (least greatest : Int) (expected : String) :
    Padded (integer least greatest expected) := (numeral_padded expected).bind _

theorem numeral_digit {c : Char} (digit : c.isDigit = true) (text : List Char) (expected : String) :
    numeral expected (c :: text) = Numeral.read false (c :: text) := by
  rw [numeral, bind_apply, look_cons (isSpace_isDigit digit)]
  dsimp only
  generalize same : some c = following
  split
  · cases same
    exact absurd digit (by decide)
  · cases same
    rw [if_pos digit]
  · cases same

/-- Every integer of 64 bits is read back from its decimal text. -/
theorem numeral_integer {n : Int} (least : -9223372036854775808 ≤ n) (greatest : n < UInt64.size)
    (expected : String) : numeral expected (Decimal.integer n) = .ok (.integer n, []) := by
  have size : (UInt64.size : Int) = 18446744073709551616 := rfl
  have fits : n.natAbs < UInt64.size := by
    have : UInt64.size = 18446744073709551616 := rfl
    omega
  by_cases negative : n < 0
  · calc numeral expected (Decimal.integer n)
        = Numeral.read true (Decimal.natural n.natAbs) := by rw [Decimal.integer, if_pos negative]; rfl
      _ = Numeral.integerPart true n.natAbs 0 [] := Numeral.read_natural fits
      _ = .ok (.integer n, []) := by
          rw [Numeral.integerPart, if_neg (by simp), if_neg (by simp), if_neg (by omega), pure_apply,
            show -(n.natAbs : Int) = n by omega]
  · obtain ⟨c, digits, written⟩ := List.exists_cons_of_ne_nil (Decimal.natural_ne_nil n.natAbs)
    have digit : c.isDigit = true :=
      Decimal.natural_digits n.natAbs c (written ▸ List.mem_cons_self)
    calc numeral expected (Decimal.integer n)
        = numeral expected (c :: digits) := by rw [Decimal.integer, if_neg negative, written]
      _ = Numeral.read false (Decimal.natural n.natAbs) := by rw [numeral_digit digit, written]
      _ = Numeral.integerPart false n.natAbs 0 [] := Numeral.read_natural fits
      _ = .ok (.integer n, []) := by
          rw [Numeral.integerPart, if_neg (by simp), if_pos (by simp), pure_apply,
            show (n.natAbs : Int) = n by omega]

theorem integer_reads {least greatest n : Int} (expected : String) (from_least : least ≤ n)
    (to_greatest : n ≤ greatest) (signed : -9223372036854775808 ≤ n) (fits : n < UInt64.size) :
    Reads (integer least greatest expected) (Decimal.integer n) (.ok n) := by
  refine (integer_extends least greatest expected).reads (integer_padded least greatest expected) ?_
  rw [integer, bind_apply, numeral_integer signed fits expected]
  dsimp only
  rw [if_pos ⟨from_least, to_greatest⟩]
  rfl

/-- No number is read where `null` stands. -/
theorem single_null : Reads single ['n', 'u', 'l', 'l'] (.error (.wrongKind .null "f32")) := by
  intro space rest blank _
  rw [single_padded space _ blank]
  rfl

end FusionSensors.Json.Reader

namespace FusionSensors.Single

/-- The digits of a number read back as the same bits. -/
def Restored (x : Single) : Prop := Json.Reader.single x.digits = .ok (x, [])

instance (x : Single) : Decidable x.Restored :=
  inferInstanceAs (Decidable (Json.Reader.single x.digits = .ok (x, [])))

end FusionSensors.Single

/-! ## Texts -/

namespace FusionSensors.Json.Escape

open Reader

/-- What reading does with the next character of a text between quotes. -/
def decodeStep (reversed : List Char) : Reader (List Char ⊕ String) := do
  match ← Reader.next with
  | none => Reader.stop .endInText
  | some '"' => pure (.inr (String.ofList reversed.reverse))
  | some '\\' => return .inl ((← escaped) :: reversed)
  | some c => if c.toNat < 0x20 then Reader.stop .rawControl else pure (.inl (c :: reversed))

theorem decode_eq : decode = iterate decodeStep [] := rfl

/-- A control is read back from its code. -/
theorem codedChar_control {n : Nat} (control : n < 0x20) (rest : List Char) :
    codedChar ('0' :: '0' :: hexDigit (n / 16) :: hexDigit (n % 16) :: rest) =
      .ok (Char.ofNat n, rest) := by
  have bytes : ¬['0', '0', hexDigit (n / 16), hexDigit (n % 16)].foldl
      (fun bytes c => bytes + c.utf8Size) 0 < 4 := by
    decide +revert
  have number : hexNumber? ['0', '0', hexDigit (n / 16), hexDigit (n % 16)] = some n := by
    decide +revert
  have plain : isTrailing n = false ∧ isLeading n = false := by decide +revert
  have read : code ('0' :: '0' :: hexDigit (n / 16) :: hexDigit (n % 16) :: rest) = .ok (n, rest) := by
    have front : ('0' :: '0' :: hexDigit (n / 16) :: hexDigit (n % 16) :: rest).take 4 =
        ['0', '0', hexDigit (n / 16), hexDigit (n % 16)] := rfl
    rw [code, front, if_neg bytes, number]
    rfl
  rw [codedChar, bind_apply, read]
  dsimp only
  rw [plain.1, plain.2]
  rfl

theorem decodeStep_coded (reversed text : List Char) :
    decodeStep reversed ('\\' :: 'u' :: text) =
      (codedChar >>= fun c => pure (.inl (c :: reversed))) text := rfl

/-- Each character is read back from what is written for it. -/
theorem decodeStep_char (reversed : List Char) (c : Char) (rest : List Char) :
    decodeStep reversed (encodeChar c ++ rest) = .ok (.inl (c :: reversed), rest) := by
  rw [encodeChar]
  split
  · rename_i letter named
    -- seven characters have a letter, and each is read back by computation
    unfold letter? at named
    split at named <;> cases named <;> rfl
  · rename_i unnamed
    split
    · rename_i control
      -- the other controls are written by their code
      have coded := codedChar_control control rest
      rw [Char.ofNat_toNat] at coded
      simp only [List.cons_append, List.nil_append]
      rw [decodeStep_coded, bind_apply, coded]
      rfl
    · rename_i visible
      -- any other character stands for itself: the quote and the backslash have letters
      rw [decodeStep, bind_apply]
      dsimp only [Reader.next, List.cons_append, List.nil_append, List.head?_cons, List.tail_cons]
      generalize same : some c = following
      split
      · cases same
      · cases same
        cases unnamed
      · cases same
        cases unnamed
      · cases same
        rw [if_neg visible]
        rfl

theorem encode_append (text rest : List Char) :
    encode text ++ rest = '"' :: (text.flatMap encodeChar ++ '"' :: rest) := by
  rw [encode, List.cons_append, List.cons_append, List.append_assoc, List.singleton_append]

theorem length_flatMap_encodeChar (text : List Char) :
    text.length ≤ (text.flatMap encodeChar).length := by
  induction text with
  | nil => exact Nat.le_refl 0
  | cons c text ih =>
      have nonempty : 0 < (encodeChar c).length := by
        rw [encodeChar]
        split
        · exact Nat.succ_pos _
        · split <;> exact Nat.succ_pos _
      rw [List.flatMap_cons, List.length_append, List.length_cons]
      omega

/-- Reading goes round once for each character, and once more for the end. -/
theorem decode_encode (text rest : List Char) :
    decode (text.flatMap encodeChar ++ '"' :: rest) = .ok (String.ofList text, rest) := by
  have reads : ∀ more reversed, text.length < more →
      rounds decodeStep more reversed (text.flatMap encodeChar ++ '"' :: rest) =
        .ok (String.ofList (reversed.reverse ++ text), rest) := by
    induction text with
    | nil =>
        intro more reversed enough
        obtain ⟨more, rfl⟩ := Nat.exists_eq_add_of_lt enough
        rw [List.append_nil]
        exact rounds_inr rfl _
    | cons c text ih =>
        intro more reversed enough
        cases more with
        | zero => cases enough
        | succ more =>
            rw [List.flatMap_cons, List.append_assoc, rounds_inl (decodeStep_char reversed c _),
              ih more (c :: reversed) (Nat.lt_of_succ_lt_succ enough), List.reverse_cons,
              List.append_assoc, List.singleton_append]
  rw [decode_eq, iterate]
  refine reads _ [] ?_
  have := length_flatMap_encodeChar text
  rw [List.length_append]
  omega

end FusionSensors.Json.Escape

namespace FusionSensors.Json.Reader

variable {α : Type}

theorem text_reads (value : String) : Reads text (Escape.encode value.toList) (.ok value) := by
  intro space rest blank _
  rw [text, padded_look _ space _ blank, Escape.encode_append]
  change Escape.decode (value.toList.flatMap Escape.encodeChar ++ '"' :: rest) = _
  rw [Escape.decode_encode, String.ofList_toList]
  rfl

/-- A variant without contents stands as its name. -/
theorem variant_reads {table : List (String × α)} {name : String} {value : α}
    (named : table.lookup name = some value) :
    Reads (variant table) (Escape.encode name.toList) (.ok value) := by
  intro space rest blank _
  rw [variant, padded_look _ space _ blank, Escape.encode_append]
  change (Escape.decode >>= variantNamed table) (name.toList.flatMap Escape.encodeChar ++ '"' :: rest) = _
  rw [bind_apply, Escape.decode_encode, String.ofList_toList]
  dsimp only
  rw [variantNamed, named]
  rfl

end FusionSensors.Json.Reader
