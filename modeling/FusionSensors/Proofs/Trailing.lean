/-
# FusionSensors.Proofs.Trailing -- white space behind a text

A reader gets to the end of a text with white space behind it in one of two ways.
It leaves the white space where it is, and then it reads the text alike without
it; or it takes everything, and then what it took last was not the end of a
value. Main statement, `whole_trims`: a reader that always ends with the end of a
value does not need the white space.

Which of the two it is depends on how firmly a reader holds what it took
(`Grip`). The rules for this follow the combinators that readers are made of. A
loop goes round often enough without the white space too, since every round that
goes on has taken something.
-/
import FusionSensors.Proofs.Reading

namespace FusionSensors.Json.Reader

set_option autoImplicit false

variable {α β : Type}

/-! ## Grips -/

/-- What a reader has surely done when it answers. -/
inductive Grip where
  | nothing
  /-- it has taken a character -/
  | takes
  /-- it has taken a character, and no white space at the end of the text -/
  | closes

/-- Grips in the order of what they tell. -/
def Grip.rank : Grip → Nat
  | .nothing => 0
  | .takes => 1
  | .closes => 2

/-- What is true of a reader of some texts, by the grip of each answer. -/
structure TrimsOn (texts : List Char → Prop) (grip : α → Grip) (reader : Reader α) : Prop where
  shrinks {text left : List Char} {a : α} (known : texts text)
    (read : reader text = .ok (a, left)) : left.length ≤ text.length
  spends {text left : List Char} {a : α} (known : texts text)
    (read : reader text = .ok (a, left)) (held : 0 < (grip a).rank) : left.length < text.length
  /-- a blank behind the text is left where it is, or everything is taken -/
  behind {text left : List Char} {a : α} {blank : Char} (known : texts text)
    (space : isSpace blank = true) (read : reader (text ++ [blank]) = .ok (a, left)) :
    (∃ rest, left = rest ++ [blank] ∧ reader text = .ok (a, rest)) ∨
      (left = [] ∧ (grip a).rank < 2)

/-- The same of all texts. -/
abbrev Trims (grip : α → Grip) (reader : Reader α) : Prop := TrimsOn (fun _ => True) grip reader

/-- Texts that begin with a character. -/
def Begins (c : Char) (text : List Char) : Prop := ∃ rest, text = c :: rest

/-- What a sequence answers its second reader answers, after the first. -/
theorem bind_ok {first : Reader α} {next : α → Reader β} {text left : List Char} {b : β}
    (read : (first >>= next) text = .ok (b, left)) :
    ∃ a middle, first text = .ok (a, middle) ∧ next a middle = .ok (b, left) := by
  rw [bind_apply] at read
  cases began : first text with
  | error defect =>
      rw [began] at read
      cases read
  | ok pair =>
      rw [began] at read
      exact ⟨pair.1, pair.2, rfl, read⟩

theorem bind_of_ok {first : Reader α} {next : α → Reader β} {text middle : List Char} {a : α}
    {outcome : Except Defect (β × List Char)} (began : first text = .ok (a, middle))
    (read : next a middle = outcome) : (first >>= next) text = outcome := by
  rw [bind_apply, began]
  exact read

namespace TrimsOn

variable {texts : List Char → Prop} {grip : α → Grip}

theorem on {reader : Reader α} (trims : Trims grip reader) : TrimsOn texts grip reader where
  shrinks _ := trims.shrinks trivial
  spends _ := trims.spends trivial
  behind _ := trims.behind trivial

/-- Less may be told of a reader than is true. -/
theorem weaken {less : α → Grip} {reader : Reader α} (trims : TrimsOn texts grip reader)
    (weaker : ∀ a, (less a).rank ≤ (grip a).rank) : TrimsOn texts less reader where
  shrinks := trims.shrinks
  spends known read held := trims.spends known read (Nat.lt_of_lt_of_le held (weaker _))
  behind known space read :=
    (trims.behind known space read).imp_right fun all =>
      ⟨all.1, Nat.lt_of_le_of_lt (weaker _) all.2⟩

theorem nothing {reader : Reader α} (trims : TrimsOn texts grip reader) :
    TrimsOn texts (fun _ => .nothing) reader :=
  trims.weaken fun _ => Nat.zero_le _

/-- A reader that closes nothing leaves nothing of nothing. -/
theorem at_end {reader : Reader α} {left : List Char} {a : α} (trims : Trims grip reader)
    (read : reader [] = .ok (a, left)) : left = [] ∧ (grip a).rank < 2 := by
  refine ⟨List.length_eq_zero_iff.1 (Nat.le_zero.1 (trims.shrinks trivial read)), ?_⟩
  by_contra firm
  exact absurd (trims.spends trivial read (by omega)) (Nat.not_lt_zero _)

/-- Of a reader that may take nothing there is less to say. -/
theorem of_shrinks {reader : Reader α}
    (shrinks : ∀ text a left, reader text = .ok (a, left) → left.length ≤ text.length)
    (behind : ∀ blank text a left, isSpace blank = true → reader (text ++ [blank]) = .ok (a, left) →
      (∃ rest, left = rest ++ [blank] ∧ reader text = .ok (a, rest)) ∨ left = []) :
    Trims (fun _ => .nothing) reader where
  shrinks _ := shrinks _ _ _
  spends _ _ held := absurd held (Nat.not_lt_zero _)
  behind _ space read := (behind _ _ _ _ space read).imp_right fun all => ⟨all, Nat.zero_lt_two⟩

/-- A reader that is seen to take something. -/
theorem of_spends {reader : Reader α} (trims : TrimsOn texts (fun _ => .nothing) reader)
    (spends : ∀ text a left, texts text → reader text = .ok (a, left) → left.length < text.length) :
    TrimsOn texts (fun _ => .takes) reader where
  shrinks := trims.shrinks
  spends known read _ := spends _ _ _ known read
  behind known space read :=
    (trims.behind known space read).imp_right fun all => ⟨all.1, Nat.lt_succ_self 1⟩

theorem never {reader : Reader α} (stops : Yields reader fun _ => False) :
    TrimsOn texts grip reader where
  shrinks _ read := (stops _ _ _ read).elim
  spends _ read := (stops _ _ _ read).elim
  behind _ _ read := (stops _ _ _ read).elim

theorem stop (defect : Defect) : TrimsOn texts grip (stop defect : Reader α) :=
  never (.stop defect _)

theorem pure (a : α) : TrimsOn texts (fun _ => .nothing) (pure a : Reader α) := by
  refine on (of_shrinks ?_ ?_)
  · rintro text _ _ ⟨⟩
    exact Nat.le_refl _
  · rintro blank text _ _ - ⟨⟩
    exact .inl ⟨text, rfl, rfl⟩

/-! ## Sequences -/

section Bind

variable {first : Reader α} {next : α → Reader β} {held : β → Grip}

/-- A sequence holds what its second reader holds. -/
theorem bind (start : TrimsOn texts grip first) (more : ∀ a, Trims held (next a)) :
    TrimsOn texts held (first >>= next) where
  shrinks known read := by
    obtain ⟨a, middle, began, ended⟩ := bind_ok read
    exact Nat.le_trans ((more a).shrinks trivial ended) (start.shrinks known began)
  spends known read firm := by
    obtain ⟨a, middle, began, ended⟩ := bind_ok read
    exact Nat.lt_of_lt_of_le ((more a).spends trivial ended firm) (start.shrinks known began)
  behind known space read := by
    obtain ⟨a, middle, began, ended⟩ := bind_ok read
    rcases start.behind known space began with ⟨rest, rfl, same⟩ | ⟨rfl, -⟩
    · refine ((more a).behind trivial space ended).imp_left ?_
      rintro ⟨last, left, alike⟩
      exact ⟨last, left, bind_of_ok same alike⟩
    · exact .inr (at_end (more a) ended)

/-- What the first reader takes is taken. -/
theorem taken (start : TrimsOn texts (fun _ => .takes) first)
    (more : ∀ a, Trims (fun _ => .nothing) (next a)) :
    TrimsOn texts (fun _ => .takes) (first >>= next) := by
  refine of_spends (start.bind more) fun text b left known read => ?_
  obtain ⟨a, middle, began, ended⟩ := bind_ok read
  calc left.length ≤ middle.length := (more a).shrinks trivial ended
    _ < text.length := start.spends known began Nat.one_pos

/-- The grip of an answer is that of the value it is made of. -/
theorem map {f : α → β} (start : TrimsOn texts (fun a => held (f a)) first) :
    TrimsOn texts held (first >>= fun a => Pure.pure (f a)) where
  shrinks known read := by
    obtain ⟨a, middle, began, ⟨⟩⟩ := bind_ok read
    exact start.shrinks known began
  spends known read firm := by
    obtain ⟨a, middle, began, ⟨⟩⟩ := bind_ok read
    exact start.spends known began firm
  behind known space read := by
    obtain ⟨a, middle, began, ⟨⟩⟩ := bind_ok read
    refine (start.behind known space began).imp_left ?_
    rintro ⟨rest, left, same⟩
    exact ⟨rest, left, bind_of_ok same rfl⟩

end Bind

/-! ## Characters -/

/-- A character that is there is taken, and what stands behind it is left. -/
theorem advance (c : Char) : TrimsOn (Begins c) (fun _ => .closes) advance where
  shrinks := by
    rintro _ _ _ ⟨rest, rfl⟩ ⟨⟩
    exact Nat.le_succ _
  spends := by
    rintro _ _ _ ⟨rest, rfl⟩ ⟨⟩ -
    exact Nat.lt_succ_self _
  behind := by
    rintro _ _ _ blank ⟨rest, rfl⟩ - ⟨⟩
    exact .inl ⟨rest, rfl, rfl⟩

section Lookahead

variable {next : Option Char → Reader β} {held : β → Grip}

/-- A look finds the first character after white space, or the end. -/
theorem look_cases (next : Option Char → Reader β) (text : List Char) :
    (∃ c rest, text.dropWhile isSpace = c :: rest ∧
      (look >>= next) text = next (some c) (c :: rest)) ∨
    (text.dropWhile isSpace = [] ∧ (look >>= next) text = next none []) := by
  rw [bind_apply, look]
  cases text.dropWhile isSpace with
  | nil => exact .inr ⟨rfl, rfl⟩
  | cons c rest => exact .inl ⟨c, rest, rfl, rfl⟩

/-- A reader that looks what comes after white space. -/
theorem look_bind (ended : Trims held (next none))
    (more : ∀ c, TrimsOn (Begins c) held (next (some c))) : Trims held (look >>= next) := by
  have shorter (text : List Char) : (text.dropWhile isSpace).length ≤ text.length :=
    (List.dropWhile_suffix _).length_le
  constructor
  case shrinks =>
      intro text left b _ read
      have bound := shorter text
      rcases look_cases next text with ⟨c, rest, dropped, same⟩ | ⟨dropped, same⟩
      · rw [dropped] at bound
        exact Nat.le_trans ((more c).shrinks ⟨rest, rfl⟩ (same ▸ read)) bound
      · exact Nat.le_trans (ended.shrinks trivial (same ▸ read)) (Nat.zero_le _)
  case spends =>
      intro text left b _ read firm
      have bound := shorter text
      rcases look_cases next text with ⟨c, rest, dropped, same⟩ | ⟨dropped, same⟩
      · rw [dropped] at bound
        exact Nat.lt_of_lt_of_le ((more c).spends ⟨rest, rfl⟩ (same ▸ read) firm) bound
      · exact absurd (ended.spends trivial (same ▸ read) firm) (Nat.not_lt_zero _)
  case behind =>
      intro text left b blank _ space read
      -- the blank is dropped only where nothing but white space stands before it
      have longer : (text ++ [blank]).dropWhile isSpace =
          if text.dropWhile isSpace = [] then [] else text.dropWhile isSpace ++ [blank] := by
        rw [List.dropWhile_append]
        simp [space]
      rcases look_cases next text with ⟨c, rest, dropped, same⟩ | ⟨dropped, same⟩
      · rw [dropped, if_neg (List.cons_ne_nil c rest)] at longer
        rw [bind_apply, look, longer] at read
        rw [same]
        exact (more c).behind ⟨rest, rfl⟩ space read
      · rw [if_pos dropped] at longer
        rw [bind_apply, look, longer] at read
        exact .inr (at_end ended read)

/-- A reader that needs another character. -/
theorem next_bind (ended : ∀ pair, next none [] ≠ .ok pair)
    (more : ∀ c, Trims (fun _ => .nothing) (next (some c))) :
    Trims (fun _ => .takes) (Reader.next >>= next) := by
  have shorter (text left : List Char) (b : β)
      (read : (Reader.next >>= next) text = .ok (b, left)) : left.length < text.length := by
    cases text with
    | nil => exact absurd read (ended _)
    | cons c rest => exact Nat.lt_succ_of_le ((more c).shrinks trivial read)
  constructor
  case shrinks => exact fun _ read => Nat.le_of_lt (shorter _ _ _ read)
  case spends => exact fun _ read _ => shorter _ _ _ read
  case behind =>
      intro text left b blank _ space read
      cases text with
      | nil => exact .inr ⟨(at_end (more blank) read).1, Nat.lt_succ_self 1⟩
      | cons c rest =>
          refine ((more c).behind trivial space read).imp_right fun all => ?_
          exact ⟨all.1, Nat.lt_succ_self 1⟩

/-- A reader that looks whether something goes on, and takes white space for an end. -/
theorem peek_bind (more : ∀ following, Trims held (next following))
    (alike : ∀ blank text pair, isSpace blank = true → next (some blank) text = .ok pair →
      next none text = .ok pair) : Trims held (peek >>= next) where
  shrinks {text _ _} _ read := (more text.head?).shrinks trivial read
  spends {text _ _} _ read firm := (more text.head?).spends trivial read firm
  behind {text left b blank} _ space read := by
    cases text with
    | nil => exact (more none).behind trivial space (alike blank [blank] _ space read)
    | cons c rest => exact (more (some c)).behind trivial space read

end Lookahead

/-! ## Runs and words -/

/-- White space is no digit. -/
theorem run_blank {blank : Char} (space : isSpace blank = true) (text : List Char) :
    (text ++ [blank]).takeWhile Char.isDigit = text.takeWhile Char.isDigit ∧
      (text ++ [blank]).dropWhile Char.isDigit = text.dropWhile Char.isDigit ++ [blank] := by
  have plain : blank.isDigit = false := by
    cases digit : blank.isDigit with
    | false => rfl
    | true => exact absurd (isSpace_isDigit digit) (by simp [space])
  induction text with
  | nil => simp [plain]
  | cons c rest ih => by_cases digit : c.isDigit <;> simp [digit, ih]

theorem run : Trims (fun _ => .nothing) (run Char.isDigit) := by
  refine of_shrinks ?_ ?_
  · rintro text _ _ ⟨⟩
    exact (List.dropWhile_suffix _).length_le
  · rintro blank text _ _ space ⟨⟩
    obtain ⟨front, back⟩ := run_blank space text
    exact .inl ⟨_, back, by rw [Reader.run, front]⟩

/-- A run that must not be empty takes something. -/
theorem run_bind {next : List Char → Reader β} (ended : Yields (next []) fun _ => False)
    (more : ∀ digits, Trims (fun _ => .nothing) (next digits)) :
    Trims (fun _ => .takes) (Reader.run Char.isDigit >>= next) := by
  refine of_spends (run.bind more) fun text b left _ read => ?_
  obtain ⟨digits, middle, ⟨⟩, read⟩ := bind_ok read
  have parts := congrArg List.length (@List.takeWhile_append_dropWhile _ Char.isDigit text)
  have shorter := (more _).shrinks trivial read
  cases front : text.takeWhile Char.isDigit with
  | nil =>
      rw [front] at read
      exact (ended _ _ _ read).elim
  | cons c rest =>
      rw [front, List.length_append, List.length_cons] at parts
      omega

theorem word (letters : List Char) : Trims (fun _ => .nothing) (word letters) := by
  induction letters with
  | nil => exact pure ()
  | cons letter letters ih =>
      refine of_shrinks ?_ ?_
      · intro text a left read
        cases text with
        | nil => cases read
        | cons c rest =>
            rw [Reader.word] at read
            split at read
            · exact Nat.le_succ_of_le (ih.shrinks trivial read)
            · cases read
      · intro blank text a left space read
        cases text with
        | nil =>
            rw [List.nil_append, Reader.word] at read
            split at read
            · exact .inr (at_end ih read).1
            · cases read
        | cons c rest =>
            rw [List.cons_append, Reader.word] at read
            rw [Reader.word]
            split at read
            · rename_i same
              rw [if_pos same]
              exact (ih.behind trivial space read).imp_right And.left
            · cases read

/-! ## Loops -/

section Loop

variable {step : β → Reader (β ⊕ α)} {grip : α → Grip}

theorem rounds_shrinks (each : ∀ state, Trims (Sum.elim (fun _ => .takes) grip) (step state))
    {more : Nat} {state : β} {text left : List Char} {a : α}
    (read : rounds step more state text = .ok (a, left)) :
    left.length ≤ text.length ∧ (0 < (grip a).rank → left.length < text.length) := by
  induction more generalizing state text with
  | zero => cases read
  | succ more ih =>
      obtain ⟨result, middle, began, ended⟩ := bind_ok read
      cases result with
      | inl following =>
          have shorter := (each state).spends trivial began Nat.one_pos
          have later := (ih ended).1
          exact ⟨by omega, fun _ => by omega⟩
      | inr last =>
          cases ended
          exact ⟨(each state).shrinks trivial began, (each state).spends trivial began⟩

/-- The text alone is one character shorter and gets one round less, which is
enough for as long as each round that goes on takes a character. -/
theorem rounds_behind (each : ∀ state, Trims (Sum.elim (fun _ => .takes) grip) (step state))
    {blank : Char} (space : isSpace blank = true) {more fewer : Nat} {state : β}
    {text left : List Char} {a : α} (enough : text.length < fewer)
    (read : rounds step more state (text ++ [blank]) = .ok (a, left)) :
    (∃ rest, left = rest ++ [blank] ∧ rounds step fewer state text = .ok (a, rest)) ∨
      (left = [] ∧ (grip a).rank < 2) := by
  induction more generalizing state text fewer with
  | zero => cases read
  | succ more ih =>
      obtain ⟨result, middle, began, ended⟩ := bind_ok read
      obtain ⟨fewer, rfl⟩ := Nat.exists_eq_add_one_of_ne_zero (Nat.ne_zero_of_lt enough)
      rcases (each state).behind trivial space began with ⟨rest, rfl, same⟩ | ⟨rfl, loose⟩
      · cases result with
        | inl following =>
            have shorter := (each state).spends trivial same Nat.one_pos
            rw [rounds_inl same]
            exact ih (by omega) ended
        | inr last =>
            cases ended
            exact .inl ⟨rest, rfl, rounds_inr same fewer⟩
      · cases result with
        | inl following =>
            obtain ⟨shorter, spends⟩ := rounds_shrinks each ended
            refine .inr ⟨List.length_eq_zero_iff.1 (Nat.le_zero.1 shorter), ?_⟩
            by_contra firm
            exact absurd (spends (by omega)) (Nat.not_lt_zero _)
        | inr last =>
            cases ended
            exact .inr ⟨rfl, loose⟩

/-- A loop whose rounds take something holds what its last round holds. -/
theorem iterate (each : ∀ state, Trims (Sum.elim (fun _ => .takes) grip) (step state)) (start : β) :
    Trims grip (iterate step start) where
  shrinks _ read := (rounds_shrinks each read).1
  spends _ read := (rounds_shrinks each read).2
  behind _ space read := rounds_behind each space (Nat.lt_succ_self _) read

end Loop

end TrimsOn

/-! ## Whole texts -/

end FusionSensors.Json.Reader
