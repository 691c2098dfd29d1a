/-
# FusionSensors.Proofs.Deciding -- readers that a text decides

What a reader makes of a number or of a text between quotes does not depend on
what comes after it, as long as a number does not go on: either it answers the
same and takes just this part, or it stops (`Decided`). The readers are closed
under the ways they are put together, so each proof follows the definition of
its reader, part by part of the literal.

A leading surrogate is read together with the escape after it. This is the only
place where reading a text does not go character by character.
-/
import FusionSensors.Proofs.Skipping

namespace FusionSensors.Json

set_option autoImplicit false

open Reader

/-! ## Readers and what comes after -/

section Decided

variable {α β : Type}

/-- A reader that answers nothing stops everywhere. -/
theorem Reader.Yields.stops {reader : Reader α} (nothing : Yields reader fun _ => False)
    (text : List Char) : ∃ defect, reader text = .error defect := by
  cases read : reader text with
  | error defect => exact ⟨defect, rfl⟩
  | ok pair => exact (nothing text pair.1 pair.2 read).elim

/-- A reader makes one value of a text, whatever comes after it. -/
def Makes (reader : Reader α) (text : List Char) (a : α) : Prop :=
  ∀ rest, Apart rest → reader (text ++ rest) = .ok (a, rest)

/-- A reader stops at a text, whatever comes after it. -/
def Stops (reader : Reader α) (text : List Char) : Prop :=
  ∀ rest, Apart rest → ∃ defect, reader (text ++ rest) = .error defect

/-- What comes after a text does not matter to a reader. -/
def Decided (reader : Reader α) (text : List Char) : Prop :=
  (∃ a, Makes reader text a) ∨ Stops reader text

theorem Makes.unique {reader : Reader α} {text : List Char} {a b : α} (one : Makes reader text a)
    (other : Makes reader text b) : a = b := by
  have same := (one [] .nil).symm.trans (other [] .nil)
  cases same
  rfl

theorem Makes.not_stops {reader : Reader α} {text : List Char} {a : α} (makes : Makes reader text a) :
    ¬ Stops reader text := by
  intro stops
  obtain ⟨defect, stopped⟩ := stops [] .nil
  cases (makes [] .nil).symm.trans stopped

namespace Decided

/-- A reader that does with one text what another does with another text. -/
theorem of_eq {reader other : Reader α} {text replaced : List Char} (decided : Decided other replaced)
    (same : ∀ rest, Apart rest → reader (text ++ rest) = other (replaced ++ rest)) :
    Decided reader text :=
  decided.imp (fun ⟨a, reads⟩ => ⟨a, fun rest apart => (same rest apart).trans (reads rest apart)⟩)
    fun stops rest apart => (stops rest apart).imp fun _ stopped => (same rest apart).trans stopped

/-- What is made of a text by itself is made of it everywhere. -/
theorem makes {reader : Reader α} {text left : List Char} {a : α} (decided : Decided reader text)
    (reads : reader text = .ok (a, left)) : Makes reader text a := by
  rcases decided with ⟨b, makes⟩ | stops
  · have same := makes [] .nil
    rw [List.append_nil, reads] at same
    cases same
    exact makes
  · obtain ⟨defect, stopped⟩ := stops [] .nil
    rw [List.append_nil, reads] at stopped
    cases stopped

theorem stops {reader : Reader α} {text : List Char} {defect : Defect} (decided : Decided reader text)
    (stopped : reader text = .error defect) : Stops reader text := by
  refine decided.resolve_left fun ⟨a, makes⟩ => ?_
  have read := makes [] .nil
  rw [List.append_nil, stopped] at read
  cases read

theorem never {reader : Reader α} (stops : ∀ text, ∃ defect, reader text = .error defect)
    (text : List Char) : Decided reader text :=
  .inr fun _ _ => stops _

theorem stop (defect : Defect) (text : List Char) : Decided (stop defect : Reader α) text :=
  never (fun _ => ⟨defect, rfl⟩) text

theorem pure (a : α) : Decided (pure a : Reader α) [] := .inl ⟨a, fun _ _ => rfl⟩

theorem mismatch (expected : String) (text : List Char) :
    Decided (mismatch expected : Reader α) text :=
  never (mismatch_yields expected fun _ => False).stops text

/-- Two readers one after another, each with its part of the text. -/
theorem append {first : Reader α} {text more : List Char} (decided : Decided first text)
    {next : α → Reader β} (apart : ∀ rest, Apart rest → Apart (more ++ rest))
    (goes : ∀ a, Decided (next a) more) : Decided (first >>= next) (text ++ more) := by
  rcases decided with ⟨a, makes⟩ | stops
  · have begins : ∀ rest, Apart rest → (first >>= next) (text ++ more ++ rest) = next a (more ++ rest) := by
      intro rest ends
      rw [List.append_assoc, bind_apply, makes _ (apart rest ends)]
    exact (goes a).of_eq begins
  · refine .inr fun rest ends => ?_
    obtain ⟨defect, stopped⟩ := stops _ (apart rest ends)
    exact ⟨defect, by rw [List.append_assoc, bind_apply, stopped]⟩

/-- A reader that passes the front of a text, whatever comes after that. -/
theorem after {first : Reader α} {text more : List Char} {a : α}
    (passes : ∀ rest, first (text ++ rest) = .ok (a, rest)) {next : α → Reader β}
    (decided : Decided (next a) more) : Decided (first >>= next) (text ++ more) :=
  decided.of_eq fun rest _ => by rw [List.append_assoc, bind_apply, passes]

/-- What is made of the value of a text takes nothing more. -/
theorem bind {first : Reader α} {text : List Char} (decided : Decided first text)
    {next : α → Reader β} (more : ∀ a, Decided (next a) []) : Decided (first >>= next) text :=
  List.append_nil text ▸ decided.append (fun _ apart => apart) more

theorem advance_bind {next : Unit → Reader β} {text : List Char} (decided : Decided (next ()) text)
    (c : Char) : Decided (advance >>= next) (c :: text) := decided

theorem next_bind {next : Option Char → Reader β} {c : Char} {text : List Char}
    (decided : Decided (next (some c)) text) : Decided (Reader.next >>= next) (c :: text) := decided

theorem peek_bind {next : Option Char → Reader β} {c : Char} {text : List Char}
    (decided : Decided (next (some c)) (c :: text)) : Decided (peek >>= next) (c :: text) := decided

/-- A look at what comes after a number tells that it does not go on. -/
theorem peek_end {next : Option Char → Reader β}
    (ends : ∀ following, (∀ c ∈ following, goesOn c = false) → next following = next none)
    (decided : Decided (next none) []) : Decided (peek >>= next) [] :=
  decided.of_eq fun rest apart => congrFun (ends rest.head? apart) rest

theorem run_bind {next : List Char → Reader β} {digits text : List Char}
    (all : ∀ c ∈ digits, c.isDigit = true) (ends : ∀ rest, Apart rest → Undigited (text ++ rest))
    (decided : Decided (next digits) text) : Decided (run Char.isDigit >>= next) (digits ++ text) :=
  decided.of_eq fun rest apart => by
    rw [List.append_assoc, bind_apply, run_digits all (ends rest apart)]

end Decided

end Decided

section Rounds

variable {α β : Type} {step : β → Reader (β ⊕ α)} {state : β} {text left : List Char}

theorem Reader.rounds_stops_here (stops : ∃ defect, step state text = .error defect) (more : Nat) :
    ∃ defect, rounds step more state text = .error defect := by
  cases more with
  | zero => exact ⟨_, rfl⟩
  | succ more => exact stops.imp fun _ stopped => rounds_error stopped more

theorem Reader.rounds_stops_later {following : β} (goes : step state text = .ok (.inl following, left))
    (stops : ∀ more, ∃ defect, rounds step more following left = .error defect) (more : Nat) :
    ∃ defect, rounds step more state text = .error defect := by
  cases more with
  | zero => exact ⟨_, rfl⟩
  | succ more =>
      rw [rounds_inl goes]
      exact stops more

end Rounds

/-! ## Numbers -/

namespace Numeral

variable (negative : Bool) (significand : Nat)

theorem fromParts_decided (exponent : Int) : Decided (fromParts negative significand exponent) [] := by
  cases parts : ofParts negative significand exponent with
  | error defect => exact .inr fun rest _ => ⟨defect, by rw [fromParts, parts]; rfl⟩
  | ok number => exact .inl ⟨number, fun rest _ => by rw [fromParts, parts]; rfl⟩

theorem integerPart_decided (unused : Nat) : Decided (integerPart negative significand unused) [] := by
  rw [integerPart]
  split
  · exact fromParts_decided _ _ _
  · split
    · exact .pure _
    · split <;> exact .pure _

theorem exponentDigits_decided (exponent : Int) (sign : Option Char) {digits : List Char}
    (written : IsDigits digits) : Decided (exponentDigits negative significand exponent sign) digits := by
  obtain ⟨c, more, rfl⟩ := List.exists_cons_of_ne_nil written.nonempty
  refine .next_bind ?_
  dsimp only
  rw [if_pos (written.all c List.mem_cons_self), ← List.append_nil more]
  refine .run_bind (fun d inside => written.all d (.tail c inside)) (fun _ => Apart.undigited) ?_
  split
  · split
    · exact .stop _ _
    · exact fromParts_decided _ _ _
  · exact fromParts_decided _ _ _

theorem exponentPart_decided (exponent : Int) {mark : Char} {sign digits : List Char}
    (signs : sign = [] ∨ sign = ['+'] ∨ sign = ['-']) (written : IsDigits digits) :
    Decided (exponentPart negative significand exponent) (mark :: (sign ++ digits)) := by
  rw [exponentPart_eq]
  refine .advance_bind ?_ mark
  rcases signs with rfl | rfl | rfl
  · obtain ⟨c, more, rfl⟩ := List.exists_cons_of_ne_nil written.nonempty
    refine .peek_bind ?_
    have digit := written.all c List.mem_cons_self
    have unsigned : ¬ (c = '+' ∨ c = '-') := by
      rintro (rfl | rfl) <;> exact absurd digit (by decide)
    rw [if_neg (by simpa using unsigned)]
    exact exponentDigits_decided _ _ _ _ written
  · exact .peek_bind (.advance_bind (exponentDigits_decided _ _ _ _ written) '+')
  · exact .peek_bind (.advance_bind (exponentDigits_decided _ _ _ _ written) '-')

theorem fractionPart_decided (exponent : Int) {digits exponentText : List Char}
    (written : IsDigits digits) (isExponent : IsExponent exponentText) :
    Decided (fractionPart negative significand exponent) ('.' :: (digits ++ exponentText)) := by
  refine .advance_bind (.run_bind written.all (fun _ => isExponent.undigited) ?_) '.'
  have some_digits : ¬ digits.isEmpty = true := by simpa using written.nonempty
  cases isExponent with
  | absent =>
      refine .peek_end (fun following ends => ?_) ?_
      · have small : following ≠ some 'e' := by rintro rfl; cases ends 'e' rfl
        have large : following ≠ some 'E' := by rintro rfl; cases ends 'E' rfl
        rw [if_neg some_digits, if_neg some_digits]
        dsimp only
        rw [if_neg (by simp [small, large])]
        rfl
      · rw [if_neg some_digits]
        exact fromParts_decided _ _ _
  | digits marks signs written =>
      refine .peek_bind ?_
      rw [if_neg some_digits]
      dsimp only
      rw [if_pos (by rcases marks with rfl | rfl <;> rfl)]
      exact exponentPart_decided _ _ _ signs written

theorem tail_decided (unused : Nat) {fraction exponent : List Char} (isFraction : IsFraction fraction)
    (isExponent : IsExponent exponent) :
    Decided (tail negative significand unused) (fraction ++ exponent) := by
  rw [tail_eq]
  cases isFraction with
  | digits written => exact .peek_bind (fractionPart_decided _ _ _ written isExponent)
  | absent =>
      cases isExponent with
      | absent =>
          refine .peek_end (fun following ends => ?_) (integerPart_decided negative significand unused)
          split
          · cases ends _ rfl
          · cases ends _ rfl
          · cases ends _ rfl
          · rfl
      | digits marks signs written =>
          refine .peek_bind ?_
          rcases marks with rfl | rfl
          · exact exponentPart_decided _ _ _ signs written
          · exact exponentPart_decided _ _ _ signs written

theorem read_decided {digits : List Char} (magnitude : IsMagnitude digits) :
    Decided (read negative) digits := by
  obtain @⟨whole, fraction, exponent, isWhole, isFraction, isExponent⟩ := magnitude
  obtain ⟨c, more, rfl⟩ := List.exists_cons_of_ne_nil isWhole.nonempty
  rw [List.cons_append]
  refine .next_bind ?_
  dsimp only
  by_cases zero : c = '0'
  · subst zero
    obtain rfl : more = [] := by simpa using isWhole.leading rfl
    rw [if_pos rfl, List.nil_append]
    refine (tail_decided negative 0 0 isFraction isExponent).of_eq fun rest apart => ?_
    have ends : ¬ (fraction ++ exponent ++ rest).head?.any Char.isDigit = true := by
      rw [List.append_assoc, Option.any_eq_true_iff_get]
      rintro ⟨first, digit⟩
      have undigited := isFraction.undigited isExponent apart _ (Option.get_mem first)
      exact Bool.false_ne_true (undigited.symm.trans digit)
    show (if _ then _ else _ : Reader Numeral) _ = _
    rw [if_neg ends]
  · rw [if_neg zero, if_pos (isWhole.all c List.mem_cons_self)]
    refine .run_bind (fun d inside => isWhole.all d (.tail c inside))
      (fun rest apart => ?_) (tail_decided _ _ _ isFraction isExponent)
    rw [List.append_assoc]
    exact isFraction.undigited isExponent apart

end Numeral

/-! ## Texts -/

namespace Escape

/-- A reader of characters answers one for the text up to some place between
two characters, or stops, whatever comes after the closing quote. -/
def Advances (reader : Reader Char) (body : List Char) : Prop :=
  (∃ c left, IsBody left ∧ left.length ≤ body.length ∧
      ∀ rest, reader (body ++ '"' :: rest) = .ok (c, left ++ '"' :: rest)) ∨
    ∀ rest, ∃ defect, reader (body ++ '"' :: rest) = .error defect

/-- The character of a leading surrogate, from what comes after it. -/
def paired (high : Nat) : Reader Char := do
  pairMark '\\'
  pairMark 'u'
  let low ← code
  if isTrailing low then
    pure (Char.ofNat (0x10000 + (high - 0xD800) * 0x400 + (low - 0xDC00)))
  else Reader.stop .loneSurrogate

theorem codedChar_eq : codedChar = (do
    let high ← code
    if isTrailing high then Reader.stop .loneSurrogate
    else if isLeading high then paired high
    else pure (Char.ofNat high)) := rfl

theorem pairMark_other {c expected : Char} (other : c ≠ expected) (text : List Char) :
    pairMark expected (c :: text) = .error .surrogateCut := by
  show (if _ then _ else _ : Reader Unit) _ = _
  rw [if_neg other]
  rfl

theorem paired_advances (high : Nat) {body : List Char} (isBody : IsBody body) :
    Advances (paired high) body := by
  cases isBody with
  | done => exact .inr fun rest => ⟨.surrogateCut, rfl⟩
  | plain _ _ unescaped =>
      refine .inr fun rest => ⟨.surrogateCut, ?_⟩
      rw [paired, bind_apply, List.cons_append, pairMark_other unescaped]
  | @letter c body named =>
      have other : c ≠ 'u' := by rintro rfl; cases named
      refine .inr fun rest => ⟨.surrogateCut, ?_⟩
      show (pairMark 'u' >>= fun _ => _) (c :: (body ++ '"' :: rest)) = _
      rw [bind_apply, pairMark_other other]
  | @code digits body four hex more =>
      obtain ⟨low, read⟩ := code_reads four hex
      have goes : ∀ rest, paired high ('\\' :: 'u' :: (digits ++ body) ++ '"' :: rest) =
          (if isTrailing low then
            pure (Char.ofNat (0x10000 + (high - 0xD800) * 0x400 + (low - 0xDC00)))
          else stop .loneSurrogate : Reader Char) (body ++ '"' :: rest) := by
        intro rest
        show (Escape.code >>= fun low => _) (digits ++ body ++ '"' :: rest) = _
        rw [bind_apply, List.append_assoc, read]
      cases trailing : isTrailing low with
      | true =>
          refine .inl ⟨_, body, more, ?_, fun rest => (goes rest).trans (by rw [if_pos trailing]; rfl)⟩
          simp only [List.length_cons, List.length_append]
          omega
      | false =>
          exact .inr fun rest => ⟨.loneSurrogate, (goes rest).trans (by rw [trailing]; rfl)⟩

theorem codedChar_advances {digits body : List Char} (four : digits.length = 4)
    (hex : ∀ c ∈ digits, (hexValue? c).isSome = true) (isBody : IsBody body) :
    Advances (fun text => codedChar (digits ++ text)) body := by
  obtain ⟨high, read⟩ := code_reads four hex
  simp only [Advances, codedChar_eq, bind_apply, read]
  split
  · exact .inr fun rest => ⟨.loneSurrogate, rfl⟩
  · split
    · exact paired_advances high isBody
    · exact .inl ⟨Char.ofNat high, body, isBody, Nat.le_refl _, fun rest => rfl⟩

theorem escaped_letter {c meant : Char} (known : character? c = some meant) (text : List Char) :
    escaped (c :: text) = .ok (meant, text) := by
  rw [escaped, bind_apply]
  dsimp only [Reader.next, List.head?_cons, List.tail_cons]
  generalize same : some c = following
  split
  · cases same
  · cases same
    cases known
  · cases same
    rw [known]
    rfl

/-- Between two characters a text ends, or goes on with one character more, or
cannot be read. -/
theorem decodeStep_cases {body : List Char} (isBody : IsBody body) : body = [] ∨
    (∃ c left, IsBody left ∧ left.length < body.length ∧ ∀ reversed rest,
      decodeStep reversed (body ++ '"' :: rest) = .ok (.inl (c :: reversed), left ++ '"' :: rest)) ∨
    ∀ reversed rest, ∃ defect, decodeStep reversed (body ++ '"' :: rest) = .error defect := by
  cases isBody with
  | done => exact .inl rfl
  | @plain c body visible unquoted unescaped more =>
      refine .inr (.inl ⟨c, body, more, Nat.lt_succ_self _, fun reversed rest => ?_⟩)
      rw [List.cons_append, decodeStep, bind_apply]
      dsimp only [Reader.next, List.head?_cons, List.tail_cons]
      generalize same : some c = following
      split
      · cases same
      · cases same
        exact absurd rfl unquoted
      · cases same
        exact absurd rfl unescaped
      · cases same
        rw [if_neg (by omega)]
        rfl
  | @letter c body named more =>
      obtain ⟨meant, known⟩ := Option.isSome_iff_exists.1 named
      refine .inr (.inl ⟨meant, body, more, by simp only [List.length_cons]; omega,
        fun reversed rest => ?_⟩)
      show (escaped >>= fun c => pure (Sum.inl (c :: reversed))) (c :: (body ++ '"' :: rest)) = _
      rw [bind_apply, escaped_letter known]
      rfl
  | @code digits body four hex more =>
      have coded : ∀ reversed rest,
          decodeStep reversed ('\\' :: 'u' :: (digits ++ body) ++ '"' :: rest) =
            (codedChar >>= fun c => pure (.inl (c :: reversed))) (digits ++ (body ++ '"' :: rest)) := by
        intro reversed rest
        rw [List.cons_append, List.cons_append, List.append_assoc, decodeStep_coded]
      rcases codedChar_advances four hex more with ⟨c, left, isBody, shorter, reads⟩ | stops
      · refine .inr (.inl ⟨c, left, isBody, ?_, fun reversed rest => ?_⟩)
        · simp only [List.length_cons, List.length_append]
          omega
        · rw [coded, bind_apply, show codedChar _ = _ from reads rest]
          rfl
      · refine .inr (.inr fun reversed rest => ?_)
        obtain ⟨defect, stopped⟩ := stops rest
        exact ⟨defect, by rw [coded, bind_apply, show codedChar _ = _ from stopped]⟩

/-- Reading goes round once for each character, and once more for the end. -/
theorem rounds_body {body : List Char} (isBody : IsBody body) (reversed : List Char) :
    (∃ s, ∀ more rest, body.length < more →
      rounds decodeStep more reversed (body ++ '"' :: rest) = .ok (s, rest)) ∨
    ∀ more rest, ∃ defect, rounds decodeStep more reversed (body ++ '"' :: rest) = .error defect := by
  -- by induction on the length: a pair of surrogates is one character of two escapes
  induction length : body.length using Nat.strongRecOn generalizing body reversed with
  | ind _ ih =>
      subst length
      rcases decodeStep_cases isBody with rfl | ⟨c, left, left_body, shorter, goes⟩ | stops
      · refine .inl ⟨String.ofList reversed.reverse, fun more rest enough => ?_⟩
        obtain ⟨more, rfl⟩ := Nat.exists_eq_add_of_lt enough
        exact rounds_inr rfl _
      · rcases ih left.length shorter left_body (c :: reversed) rfl with ⟨s, reads⟩ | stops
        · refine .inl ⟨s, fun more rest enough => ?_⟩
          obtain ⟨more, rfl⟩ := Nat.exists_eq_add_of_lt enough
          rw [rounds_inl (goes reversed rest)]
          exact reads _ rest (by omega)
        · exact .inr fun more rest => rounds_stops_later (goes reversed rest) (stops · rest) more
      · exact .inr fun more rest => rounds_stops_here (stops reversed rest) more

/-- A text is read up to its quote, or cannot be read, whatever comes after it. -/
theorem decode_decided {body : List Char} (isBody : IsBody body) :
    Decided decode (body ++ ['"']) := by
  rcases rounds_body isBody [] with ⟨s, reads⟩ | stops
  · refine .inl ⟨s, fun rest _ => ?_⟩
    have enough : body.length < (body ++ '"' :: rest).length + 1 := by
      rw [List.length_append]
      omega
    rw [← List.append_cons]
    exact reads _ rest enough
  · refine .inr fun rest _ => ?_
    rw [← List.append_cons]
    exact stops _ rest

end Escape

end FusionSensors.Json
