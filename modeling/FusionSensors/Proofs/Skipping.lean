/-
# FusionSensors.Proofs.Skipping -- every JSON value can be skipped

Skipping a value takes just that value, whatever it is: the digits of a number
up to where nothing goes on with it, a text up to its quote, and a list or
record up to the bracket that closes it (`value_skips`). The brackets that are
open around a value are held in a list, so the induction on the value says what
becomes of the rest of the work: it goes on as if the value had just ended
(`Ends`).
-/
import FusionSensors.Proofs.Grammar
import FusionSensors.Proofs.Records

namespace FusionSensors.Json

set_option autoImplicit false

open Reader

/-! ## Runs of digits -/

/-- What does not go on with digits. -/
def Undigited (rest : List Char) : Prop := ∀ c ∈ rest.head?, c.isDigit = false

theorem Reader.Apart.undigited {rest : List Char} (apart : Apart rest) : Undigited rest :=
  fun _ first => apart.not_digit first

theorem run_digits {digits : List Char} (all : ∀ c ∈ digits, c.isDigit = true) {rest : List Char}
    (ends : Undigited rest) : run Char.isDigit (digits ++ rest) = .ok (digits, rest) := by
  have stopped : rest.takeWhile Char.isDigit = [] ∧ rest.dropWhile Char.isDigit = rest := by
    cases rest with
    | nil => exact ⟨rfl, rfl⟩
    | cons c more => simp [ends c rfl]
  rw [run, List.takeWhile_append_of_pos all, List.dropWhile_append_of_pos all, stopped.1, stopped.2,
    List.append_nil]

theorem IsExponent.undigited {exponent : List Char} (isExponent : IsExponent exponent)
    {rest : List Char} (apart : Apart rest) : Undigited (exponent ++ rest) := by
  cases isExponent with
  | absent => exact apart.undigited
  | @digits mark marks sign signs digits written =>
      rintro c ⟨⟩
      rcases marks with rfl | rfl <;> decide

theorem IsFraction.undigited {fraction exponent : List Char} (isFraction : IsFraction fraction)
    (isExponent : IsExponent exponent) {rest : List Char} (apart : Apart rest) :
    Undigited (fraction ++ (exponent ++ rest)) := by
  cases isFraction with
  | absent => exact isExponent.undigited apart
  | digits written =>
      rintro c ⟨⟩
      decide

/-! ## Codes -/

namespace Escape

theorem hexValue?_utf8Size {c : Char} (hex : (hexValue? c).isSome = true) : c.utf8Size = 1 := by
  have small : c.val ≤ 0x7F := by
    unfold hexValue? at hex
    split at hex
    · rename_i digit
      exact UInt32.le_trans digit.2 (by decide)
    · split at hex
      · rename_i letter
        exact UInt32.le_trans letter.2 (by decide)
      · split at hex
        · rename_i letter
          exact UInt32.le_trans letter.2 (by decide)
        · cases hex
  unfold Char.utf8Size
  exact if_pos small

/-- Four hexadecimal digits are a code. -/
theorem code_reads {digits : List Char} (four : digits.length = 4)
    (hex : ∀ c ∈ digits, (hexValue? c).isSome = true) :
    ∃ n, ∀ rest, code (digits ++ rest) = .ok (n, rest) := by
  have bytes : digits.foldl (fun bytes c => bytes + c.utf8Size) 0 = 4 := by
    have sizes : ∀ (digits : List Char) (start : Nat),
        (∀ c ∈ digits, (hexValue? c).isSome = true) →
          digits.foldl (fun bytes c => bytes + c.utf8Size) start = start + digits.length := by
      intro digits
      induction digits with
      | nil => exact fun start _ => rfl
      | cons c more ih =>
          intro start hex
          obtain ⟨first, others⟩ := List.forall_mem_cons.1 hex
          rw [List.foldl_cons, ih _ others, hexValue?_utf8Size first, List.length_cons]
          omega
    rw [sizes digits 0 hex, four]
  have number : ∀ (digits : List Char) (start : Nat),
      (∀ c ∈ digits, (hexValue? c).isSome = true) →
        ∃ n, digits.foldl (fun n c => do return 16 * (← n) + (← hexValue? c)) (some start) = some n := by
    intro digits
    induction digits with
    | nil => exact fun start _ => ⟨start, rfl⟩
    | cons c more ih =>
        intro start hex
        obtain ⟨first, others⟩ := List.forall_mem_cons.1 hex
        obtain ⟨value, read⟩ := Option.isSome_iff_exists.1 first
        obtain ⟨n, whole⟩ := ih (16 * start + value) others
        refine ⟨n, ?_⟩
        rw [List.foldl_cons, read]
        exact whole
  obtain ⟨n, value⟩ := number digits 0 hex
  refine ⟨n, fun rest => ?_⟩
  have front : (digits ++ rest).take 4 = digits := List.take_left' four
  have back : (digits ++ rest).drop 4 = rest := List.drop_left' four
  rw [code, front, back, bytes, if_neg (by decide), show hexNumber? digits = some n from value]

/-! ## Skipping a text -/

/-- What skipping does with the next character of a text between quotes. -/
def skipStep (_ : Unit) : Reader (Unit ⊕ Unit) := do
  match ← Reader.next with
  | none => Reader.stop .endInText
  | some '"' => pure (.inr ())
  | some '\\' =>
    match ← Reader.next with
    | none => Reader.stop .endInText
    | some 'u' => let _ ← code; pure (.inl ())
    | some c => if (character? c).isSome then pure (.inl ()) else Reader.stop .badEscape
  | some c => if c.toNat < 0x20 then Reader.stop .rawControl else pure (.inl ())

theorem skip_eq : skip = iterate skipStep () := rfl

theorem skipStep_plain {c : Char} (visible : 0x20 ≤ c.toNat) (unquoted : c ≠ '"')
    (unescaped : c ≠ '\\') (rest : List Char) : skipStep () (c :: rest) = .ok (.inl (), rest) := by
  rw [skipStep, bind_apply]
  dsimp only [Reader.next, List.head?_cons, List.tail_cons]
  generalize same : some c = following
  split
  · cases same
  · cases same
    exact absurd rfl unquoted
  · cases same
    exact absurd rfl unescaped
  · cases same
    rw [if_neg (by omega)]
    rfl

theorem skipStep_letter {c : Char} (named : (character? c).isSome = true) (rest : List Char) :
    skipStep () ('\\' :: c :: rest) = .ok (.inl (), rest) := by
  show (Reader.next >>= fun _ => _) (c :: rest) = _
  rw [bind_apply]
  dsimp only [Reader.next, List.head?_cons, List.tail_cons]
  generalize same : some c = following
  split
  · cases same
  · cases same
    cases named
  · cases same
    rw [if_pos named]
    rfl

/-- The rest of a text is skipped up to its quote, whatever follows. -/
theorem skip_body {body : List Char} (isBody : IsBody body) (rest : List Char) :
    skip (body ++ '"' :: rest) = .ok ((), rest) := by
  have skips : ∀ more, body.length < more →
      rounds skipStep more () (body ++ '"' :: rest) = .ok ((), rest) := by
    induction isBody with
    | done =>
        intro more enough
        obtain ⟨more, rfl⟩ := Nat.exists_eq_add_of_lt enough
        exact rounds_inr rfl _
    | plain visible unquoted unescaped _ ih =>
        intro more enough
        obtain ⟨fewer, enough, goes⟩ := rounds_next (skipStep_plain visible unquoted unescaped _) enough
        exact goes.trans (ih fewer enough)
    | letter named _ ih =>
        intro more enough
        obtain ⟨fewer, enough, goes⟩ := rounds_next (skipStep_letter named _) (Nat.lt_of_succ_lt enough)
        exact goes.trans (ih fewer enough)
    | @code digits body four hex _ ih =>
        intro more enough
        obtain ⟨n, read⟩ := code_reads four hex
        have step : skipStep () ('\\' :: 'u' :: (digits ++ (body ++ '"' :: rest))) =
            .ok (.inl (), body ++ '"' :: rest) := by
          show (code >>= fun _ => pure _) (digits ++ (body ++ '"' :: rest)) = _
          rw [bind_apply, read]
          rfl
        have enough : body.length + 1 < more := by
          simp only [List.length_cons, List.length_append] at enough
          omega
        obtain ⟨fewer, enough, goes⟩ := rounds_next step enough
        rw [List.cons_append, List.cons_append, List.append_assoc, goes]
        exact ih fewer enough
  rw [skip_eq, iterate]
  refine skips _ ?_
  rw [List.length_append]
  omega

end Escape

theorem IsJson.opens {value : List Char} (json : IsJson value) : Opens value := by
  obtain ⟨c, rest, same, begins⟩ := json.begins
  refine ⟨c, rest, same, ?_⟩
  cases begins with
  | word letters => rcases letters with rfl | rfl | rfl <;> decide
  | digit digit => exact ⟨isSpace_isDigit digit, by rintro rfl; exact absurd digit (by decide)⟩
  | minus minus => subst minus; decide
  | quote quote => subst quote; decide
  | list bracket => subst bracket; decide
  | record bracket => subst bracket; decide

namespace Skip

/-! ## Numbers -/

/-- The digits of an exponent. -/
def exponentDigits : Reader Unit := do
  if (← Reader.run Char.isDigit).isEmpty then Reader.stop .badNumber else pure ()

theorem exponentPart_eq : exponentPart = (do
    Reader.advance
    let sign ← Reader.peek
    if sign = some '+' || sign = some '-' then
      Reader.advance
      exponentDigits
    else exponentDigits) := rfl

theorem exponentDigits_skips {digits : List Char} (written : IsDigits digits) {rest : List Char}
    (apart : Apart rest) : exponentDigits (digits ++ rest) = .ok ((), rest) := by
  rw [exponentDigits, bind_apply, run_digits written.all apart.undigited]
  dsimp only
  rw [if_neg (by simpa using written.nonempty)]
  rfl

theorem exponent_skips {exponent : List Char} (isExponent : IsExponent exponent) {rest : List Char}
    (apart : Apart rest) : exponent? (exponent ++ rest) = .ok ((), rest) := by
  cases isExponent with
  | absent =>
      have small := apart.head?_ne (c := 'e') (by decide)
      have large := apart.head?_ne (c := 'E') (by decide)
      show (if _ then _ else _ : Reader Unit) _ = _
      rw [if_neg (by simp [small, large])]
      rfl
  | @digits mark marks sign signs digits written =>
      have marked : exponent? (mark :: (sign ++ digits) ++ rest) =
          exponentPart (mark :: (sign ++ (digits ++ rest))) := by
        rw [List.cons_append, List.append_assoc]
        rcases marks with rfl | rfl <;> rfl
      have read := exponentDigits_skips written apart
      rw [marked, exponentPart_eq]
      rcases signs with rfl | rfl | rfl
      · obtain ⟨c, more, same⟩ := List.exists_cons_of_ne_nil written.nonempty
        have digit := written.all c (same ▸ List.mem_cons_self)
        have unsigned : ¬ (c = '+' ∨ c = '-') := by
          rintro (rfl | rfl) <;> exact absurd digit (by decide)
        show (if _ then _ else _ : Reader Unit) _ = _
        rw [if_neg, List.nil_append]
        · exact read
        · simpa [same] using unsigned
      · exact read
      · exact read

/-- A number is taken up to where nothing goes on with it. -/
theorem number_skips {digits : List Char} (magnitude : IsMagnitude digits) {rest : List Char}
    (apart : Apart rest) : number (digits ++ rest) = .ok ((), rest) := by
  obtain @⟨whole, fraction, exponent, isWhole, isFraction, isExponent⟩ := magnitude
  rw [List.append_assoc, List.append_assoc, number, bind_apply,
    run_digits isWhole.all (isFraction.undigited isExponent apart)]
  dsimp only
  split
  · exact absurd rfl isWhole.nonempty
  · rename_i c more
    cases isWhole.leading rfl
  · cases isFraction with
    | absent =>
        have plain : (exponent ++ rest).head? ≠ some '.' := by
          cases isExponent with
          | absent => exact apart.head?_ne (by decide)
          | digits marks => rcases marks with rfl | rfl <;> exact nofun
        show (if _ then _ else _ : Reader Unit) _ = _
        rw [if_neg (by simpa using plain)]
        exact exponent_skips isExponent apart
    | @digits digits written =>
        show (run Char.isDigit >>= fun digits => if digits.isEmpty then stop .badNumber else exponent?)
          (digits ++ (exponent ++ rest)) = _
        rw [bind_apply, run_digits written.all (isExponent.undigited apart)]
        dsimp only
        rw [if_neg (by simpa using written.nonempty)]
        exact exponent_skips isExponent apart

/-! ## Between two values -/

/-- What is left to do at a place between two values: to go on inside the
brackets that are still open, or to end. -/
def settled (after : Bool) (brackets : List Bracket) : Reader (List Bracket ⊕ Unit) := do
  let remaining ← settle after brackets
  if remaining.isEmpty then pure (.inr ()) else pure (.inl remaining)

/-- What skipping does with the next value, inside the brackets that are open. -/
def step (brackets : List Bracket) : Reader (List Bracket ⊕ Unit) := do
  match ← opening with
  | some bracket => settled false (bracket :: brackets)
  | none => settled true brackets

theorem value_eq : value = iterate step [] := rfl

/-- Skipping for a number of rounds more, at a place between two values. -/
def goOn (after : Bool) (more : Nat) (brackets : List Bracket) : Reader Unit := do
  let remaining ← settle after brackets
  if remaining.isEmpty then pure () else rounds step more remaining

theorem rounds_step (more : Nat) (brackets : List Bracket) :
    rounds step (more + 1) brackets = (do
      match ← opening with
      | some bracket => goOn false more (bracket :: brackets)
      | none => goOn true more brackets) := by
  have settles : ∀ (next : List Bracket ⊕ Unit → Reader Unit),
      (∀ state, next (.inl state) = rounds step more state) → next (.inr ()) = pure () →
        ∀ after brackets, (settled after brackets >>= next) = goOn after more brackets := by
    intro next goes ends after brackets
    rw [settled, goOn, bind_assoc]
    congr 1
    funext remaining
    split
    · exact ends
    · exact goes remaining
  rw [rounds, step, bind_assoc]
  congr 1
  funext opened
  cases opened with
  | none => exact settles _ (fun _ => rfl) rfl true brackets
  | some bracket => exact settles _ (fun _ => rfl) rfl false (bracket :: brackets)

theorem goOn_closer {space : List Char} (blank : Blank space) (after : Bool) (more : Nat)
    (bracket : Bracket) (outer : List Bracket) (rest : List Char) :
    goOn after more (bracket :: outer) (space ++ bracket.closer :: rest) = goOn true more outer rest := by
  have seen : look (space ++ bracket.closer :: rest) =
      .ok (some bracket.closer, bracket.closer :: rest) := by
    rw [look_blank blank, look_cons (by cases bracket <;> decide)]
  have inside : ¬ (bracket.closer = ',' ∧ after = true) := by cases bracket <;> exact nofun
  have settles : settle after (bracket :: outer) (space ++ bracket.closer :: rest) =
      settle true outer rest := by
    rw [settle, bind_apply, seen]
    dsimp only
    rw [if_neg inside, if_pos rfl]
    rfl
  rw [goOn, bind_apply, settles]
  rfl

theorem goOn_inside {after : Bool} {bracket : Bracket} {outer : List Bracket} {text left : List Char}
    (gets : settle after (bracket :: outer) text = .ok (bracket :: outer, left)) (more : Nat) :
    goOn after more (bracket :: outer) text = rounds step more (bracket :: outer) left := by
  rw [goOn, bind_apply, gets]
  rfl

theorem goOn_padded (after : Bool) (more : Nat) (bracket : Bracket) (outer : List Bracket) :
    Padded (goOn after more (bracket :: outer)) :=
  Padded.bind (padded_look _) _

/-- Skipping goes on after a value as if it had just ended. -/
def Ends (value : List Char) : Prop :=
  ∀ brackets space rest, Blank space → Apart rest → ∃ taken ≤ value.length, ∀ more,
    rounds step (more + taken) brackets (space ++ (value ++ rest)) = goOn true more brackets rest

/-- Skipping gets to the value of a part in brackets, the first one or one
after a comma, and goes on after it. -/
def Passes (bracket : Bracket) (part : List Char) : Prop :=
  ∀ (first : Bool) outer rest, Apart rest → ∃ taken ≤ part.length, ∃ trail, Blank trail ∧ ∀ more,
    goOn (!first) (more + taken) (bracket :: outer) ((if first then [] else [',']) ++ (part ++ rest)) =
      goOn true more (bracket :: outer) (trail ++ rest)

/-- Skipping goes past all parts in brackets, to where the brackets end. -/
theorem parts_end {bracket : Bracket} {close : List Char} (close_blank : Blank close)
    {parts : List (List Char)} (passes : ∀ part ∈ parts, Passes bracket part)
    (outer : List Bracket) (rest : List Char) :
    ∀ first space, Blank space → ∃ taken ≤ (Doc.parts [] first parts).length, ∀ more,
      goOn (!first) (more + taken) (bracket :: outer)
          (space ++ (Doc.parts [] first parts ++ (close ++ bracket.closer :: rest))) =
        goOn true more outer rest := by
  induction parts with
  | nil =>
      intro first space blank
      refine ⟨0, Nat.le_refl 0, fun more => ?_⟩
      rw [Doc.parts, List.nil_append, ← List.append_assoc]
      exact goOn_closer (List.forall_mem_append.2 ⟨blank, close_blank⟩) (!first) more bracket outer rest
  | cons part parts ih =>
      intro first space blank
      obtain ⟨one, others⟩ := List.forall_mem_cons.1 passes
      have apart : Apart (Doc.parts [] false parts ++ (close ++ bracket.closer :: rest)) :=
        Doc.parts_apart [] parts (.blank close_blank (.cons (by cases bracket <;> decide) rest))
      obtain ⟨taken, taken_le, trail, trail_blank, goes⟩ := one first outer _ apart
      obtain ⟨later, later_le, ends⟩ := ih others false trail trail_blank
      refine ⟨later + taken, ?_, fun more => ?_⟩
      · simp only [Doc.parts, List.length_append]
        omega
      · rw [goOn_padded (!first) _ bracket outer space _ blank, Doc.parts, List.append_assoc,
          List.append_assoc, ← Nat.add_assoc, goes]
        exact ends more

theorem settle_first (bracket : Bracket) {c : Char} {text left : List Char}
    (visible : isSpace c = false) (inside : c ≠ bracket.closer)
    (gets : toValue bracket (c :: text) = .ok ((), left)) (outer : List Bracket) :
    settle false (bracket :: outer) (c :: text) = .ok (bracket :: outer, left) := by
  rw [settle, bind_apply, look_cons visible]
  dsimp only
  rw [if_neg (by simp), if_neg inside, if_neg (by decide), bind_apply, gets]
  rfl

theorem settle_next {bracket : Bracket} {text left : List Char}
    (gets : toValue bracket text = .ok ((), left)) (outer : List Bracket) :
    settle true (bracket :: outer) (',' :: text) = .ok (bracket :: outer, left) := by
  rw [settle, bind_apply, look_cons (by decide)]
  show (toValue bracket >>= fun _ => pure (bracket :: outer)) text = _
  rw [bind_apply, gets]
  rfl

theorem item_passes {item : Item} (spaced : item.Spaced) (opens : Opens item.value)
    (ends : Ends item.value) : Passes .list item.text := by
  intro first outer rest apart
  obtain ⟨taken, taken_le, goes⟩ := ends (.list :: outer) (if first then [] else item.lead) _
    (by cases first <;> simp [spaced.lead, Blank.nil]) (.blank spaced.trail apart)
  refine ⟨taken, ?_, item.trail, spaced.trail, fun more => ?_⟩
  · simp only [Item.text, List.length_append]
    omega
  · rw [← goes, Item.text, List.append_assoc, List.append_assoc]
    cases first with
    | true =>
        obtain ⟨c, value, same, visible, inside⟩ := opens
        rw [if_pos rfl, if_pos rfl, List.nil_append, List.nil_append,
          goOn_padded _ _ _ _ item.lead _ spaced.lead, same]
        exact goOn_inside (settle_first .list visible inside rfl outer) _
    | false => exact goOn_inside (settle_next rfl outer) _

theorem colon_skips {gap : List Char} (blank : Blank gap) (text : List Char) :
    colon (gap ++ ':' :: text) = .ok ((), text) := by
  rw [colon, bind_apply, look_blank blank, look_cons (by decide)]
  rfl

theorem toValue_quote {pair : Pair} (spaced : pair.Spaced) (text : List Char) :
    toValue .record ('"' :: (pair.key ++ '"' :: (pair.gap ++ ':' :: text))) = .ok ((), text) := by
  show (Escape.skip >>= fun _ => colon) (pair.key ++ '"' :: (pair.gap ++ ':' :: text)) = _
  rw [bind_apply, Escape.skip_body spaced.key]
  exact colon_skips spaced.gap text

theorem toValue_front {pair : Pair} (spaced : pair.Spaced) (text : List Char) :
    toValue .record (pair.front text) = .ok ((), text) := by
  rw [toValue, Pair.front, padded_look _ pair.lead _ spaced.lead]
  exact toValue_quote spaced text

theorem pair_passes {pair : Pair} (spaced : pair.Spaced) (ends : Ends pair.value) :
    Passes .record pair.text := by
  intro first outer rest apart
  obtain ⟨taken, taken_le, goes⟩ := ends (.record :: outer) pair.item.lead _
    spaced.item.lead (.blank spaced.item.trail apart)
  refine ⟨taken, ?_, pair.item.trail, spaced.item.trail, fun more => ?_⟩
  · simp only [Pair.value] at taken_le
    simp only [Pair.text, Pair.front, Item.text, List.length_append, List.length_cons]
    omega
  · have front : pair.text ++ rest =
        pair.front (pair.item.lead ++ (pair.value ++ (pair.item.trail ++ rest))) := by
      simp [Pair.text, Pair.front, Item.text, Pair.value]
    rw [← goes, front]
    cases first with
    | true =>
        rw [if_pos rfl, List.nil_append, Pair.front, goOn_padded _ _ _ _ pair.lead _ spaced.lead]
        exact goOn_inside (settle_first .record (by decide) (by decide) (toValue_quote spaced _) outer) _
    | false => exact goOn_inside (settle_next (toValue_front spaced _) outer) _

/-- A value that is taken at once. -/
theorem ends_of_opening {value : List Char} (nonempty : value ≠ [])
    (opens : ∀ space rest, Blank space → Apart rest →
      opening (space ++ (value ++ rest)) = .ok (none, rest)) : Ends value := by
  intro brackets space rest blank apart
  refine ⟨1, List.length_pos_iff.2 nonempty, fun more => ?_⟩
  rw [rounds_step, bind_apply, opens space rest blank apart]

theorem opening_padded : Padded opening := padded_look _

/-- A list or record is taken with the brackets around it. -/
theorem ends_of_passes (bracket : Bracket) {c : Char} {parts : List (List Char)} {close : List Char}
    (opens : ∀ rest, opening (c :: rest) = .ok (some bracket, rest)) (close_blank : Blank close)
    (passes : ∀ part ∈ parts, Passes bracket part) :
    Ends (c :: (Doc.parts [] true parts ++ (close ++ [bracket.closer]))) := by
  intro brackets space rest blank _
  obtain ⟨taken, taken_le, ends⟩ := parts_end close_blank passes brackets rest true [] .nil
  refine ⟨taken + 1, ?_, fun more => ?_⟩
  · simp only [List.length_append, List.length_cons]
    omega
  · rw [← Nat.add_assoc, rounds_step, bind_apply, opening_padded space _ blank, List.cons_append, opens,
      List.append_assoc, List.append_assoc]
    exact ends more

theorem opening_digit {c : Char} (digit : c.isDigit = true) (text : List Char) :
    opening (c :: text) = (number >>= fun _ => pure none) (c :: text) := by
  rw [opening, bind_apply, look_cons (isSpace_isDigit digit)]
  dsimp only
  generalize same : some c = following
  split
  all_goals cases same
  iterate 7 exact absurd digit (by decide)
  rw [if_pos digit]

/-- **Skipping goes on after a JSON value as if it had just ended.** -/
theorem ends_of_json {value : List Char} (json : IsJson value) : Ends value := by
  induction json with
  | null => exact ends_of_opening nofun fun space rest blank _ => opening_padded space _ blank
  | yes => exact ends_of_opening nofun fun space rest blank _ => opening_padded space _ blank
  | no => exact ends_of_opening nofun fun space rest blank _ => opening_padded space _ blank
  | @positive digits magnitude =>
      obtain ⟨c, more, same, digit⟩ := magnitude.cons
      refine ends_of_opening (same ▸ nofun) fun space rest blank apart => ?_
      rw [opening_padded space _ blank, same, List.cons_append, opening_digit digit,
        ← List.cons_append, ← same, bind_apply, number_skips magnitude apart]
      rfl
  | @negative digits magnitude =>
      refine ends_of_opening nofun fun space rest blank apart => ?_
      rw [opening_padded space _ blank]
      show (number >>= fun _ => pure none) (digits ++ rest) = _
      rw [bind_apply, number_skips magnitude apart]
      rfl
  | @text body isBody =>
      refine ends_of_opening nofun fun space rest blank _ => ?_
      rw [opening_padded space _ blank, List.cons_append, List.append_assoc]
      show (Escape.skip >>= fun _ => pure none) (body ++ '"' :: rest) = _
      rw [bind_apply, Escape.skip_body isBody]
      rfl
  | list items blank spaced values ih =>
      refine ends_of_passes .list (fun _ => rfl) blank (List.forall_mem_map.2 fun item inside => ?_)
      exact item_passes (spaced item inside) (values item inside).opens (ih item inside)
  | record pairs blank spaced values ih =>
      refine ends_of_passes .record (fun _ => rfl) blank (List.forall_mem_map.2 fun pair inside => ?_)
      exact pair_passes (spaced pair inside) (ih pair inside)

/-- **Skipping a value takes just that value.** -/
theorem value_skips {v : List Char} (json : IsJson v) {space rest : List Char}
    (blank : Blank space) (apart : Apart rest) : value (space ++ (v ++ rest)) = .ok ((), rest) := by
  obtain ⟨taken, taken_le, ends⟩ := ends_of_json json [] space rest blank apart
  have enough : taken ≤ (space ++ (v ++ rest)).length + 1 := by
    simp only [List.length_append]
    omega
  obtain ⟨more, rounds⟩ := Nat.exists_eq_add_of_le' enough
  rw [value_eq, iterate, rounds, ends]
  rfl

end Skip

end FusionSensors.Json
