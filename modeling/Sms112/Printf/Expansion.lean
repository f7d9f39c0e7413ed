import Mathlib.Data.List.TakeWhile

/-!
# Formats with one string argument

What `printf` makes of a format and one string: ordinary characters, `%%`, and
at most one `%s` with its `-` flags, width and precision. Every other format
is left open by the language, or asks for an argument of another kind. The
grammar comes first; a reader of formats then decides it.
-/

namespace Printf

/-! ## The grammar -/

/-- `isdigit`. -/
def isDigit (octet : UInt8) : Bool :=
  48 ≤ octet ∧ octet ≤ 57

/-- A row of digits, which may be empty. -/
abbrev Digits : Type :=
  {digits : List UInt8 // ∀ octet ∈ digits, isDigit octet = true}

/-- The number a row of digits stands for. -/
def Digits.value (digits : Digits) : Nat :=
  digits.1.foldl (fun value octet => 10 * value + (octet.toNat - 48)) 0

/-- A directive `%s`. A zero at the beginning of the width would be a flag,
which this directive does not have. -/
structure Directive where
  minuses : Nat
  width : Digits
  precision : Option Digits
  width_head : width.1.head? ≠ some 48

namespace Directive

variable (directive : Directive)

/-- `.` and the digits of the precision. -/
def writtenPrecision : List UInt8 :=
  match directive.precision with
  | none => []
  | some digits => 46 :: digits.1

/-- What stands behind the `%`. -/
def body : List UInt8 :=
  List.replicate directive.minuses 45 ++
    (directive.width.1 ++ (directive.writtenPrecision ++ [115]))

/-- The directive as it stands in a format. -/
def written : List UInt8 :=
  37 :: directive.body

/-- What is printed: at most as much of the argument as the precision says,
filled up with blanks to the width. -/
def printed (argument : List UInt8) : List UInt8 :=
  let kept :=
    match directive.precision with
    | none => argument
    | some digits => argument.take digits.value
  let blanks := List.replicate (directive.width.value - kept.length) 32
  if directive.minuses = 0 then blanks ++ kept else kept ++ blanks

end Directive

/-- A format without directives for arguments, and what it prints. -/
inductive Plain : List UInt8 → List UInt8 → Prop
  | nil : Plain [] []
  | octet
      {octet : UInt8}
      {format text : List UInt8}
      (ordinary : octet ≠ 37)
      (rest : Plain format text) :
      Plain (octet :: format) (octet :: text)
  | percent
      {format text : List UInt8}
      (rest : Plain format text) :
      Plain (37 :: 37 :: format) (37 :: text)

/-- A format prints a text for a string argument. An argument that no
directive asks for is passed over. -/
inductive Expands (argument : List UInt8) : List UInt8 → List UInt8 → Prop
  | plain
      {format text : List UInt8}
      (whole : Plain format text) :
      Expands argument format text
  | directive
      (directive : Directive)
      {front back frontText backText : List UInt8}
      (before : Plain front frontText)
      (after : Plain back backText) :
      Expands argument (front ++ (directive.written ++ back))
        (frontText ++ (directive.printed argument ++ backText))

/-! ## Reading a format -/

/-- Read a format up to the first directive for an argument: what is printed,
and the rest. -/
def readPlain : List UInt8 → List UInt8 × List UInt8
  | [] => ([], [])
  | 37 :: 37 :: format => ((37 :: (readPlain format).1), (readPlain format).2)
  | octet :: format =>
      if octet = 37 then ([], octet :: format)
      else (octet :: (readPlain format).1, (readPlain format).2)

/-- The digits a text begins with. -/
def leadingDigits (text : List UInt8) : Digits :=
  ⟨text.takeWhile isDigit, fun _ => List.mem_takeWhile_imp⟩

/-- Read what stands behind a `%`: the directive, and the rest. -/
def readDirective (text : List UInt8) : Option (Directive × List UInt8) :=
  let minuses := (text.takeWhile (· == 45)).length
  let wide := text.dropWhile (· == 45)
  if zero : (leadingDigits wide).1.head? ≠ some 48 then
    match wide.dropWhile isDigit with
    | 115 :: rest =>
        some (⟨minuses, leadingDigits wide, none, zero⟩, rest)
    | 46 :: precise =>
        match precise.dropWhile isDigit with
        | 115 :: rest =>
            some (⟨minuses, leadingDigits wide, some (leadingDigits precise),
              zero⟩, rest)
        | _ => none
    | _ => none
  else none

/-- What a format prints for a string argument, if the language says it. -/
def expand (format argument : List UInt8) : Option (List UInt8) :=
  match readPlain format with
  | (text, []) => some text
  | (frontText, _ :: behind) =>
      match readDirective behind with
      | some (directive, back) =>
          match readPlain back with
          | (backText, []) =>
              some (frontText ++ (directive.printed argument ++ backText))
          | (_, _ :: _) => none
      | none => none

/-! ## The reader is right -/

/-- A text is empty or begins with a directive for an argument. -/
def Stops (text : List UInt8) : Prop :=
  text = [] ∨ ∃ behind, text = 37 :: behind ∧ behind.head? ≠ some 37

theorem readPlain_plain (format : List UInt8) :
    ∃ front, format = front ++ (readPlain format).2 ∧
      Plain front (readPlain format).1 ∧ Stops (readPlain format).2 := by
  fun_induction readPlain format with
  | case1 => exact ⟨[], rfl, .nil, .inl rfl⟩
  | case2 format inductionHypothesis =>
      obtain ⟨front, split, plain, stops⟩ := inductionHypothesis
      refine ⟨37 :: 37 :: front, ?_, .percent plain, stops⟩
      rw [List.cons_append, List.cons_append, ← split]
  | case3 format single =>
      refine ⟨[], rfl, .nil, .inr ⟨format, rfl, fun doubled => ?_⟩⟩
      cases format with
      | nil => exact nomatch doubled
      | cons octet format =>
          obtain rfl : octet = 37 := Option.some.inj doubled
          exact single format rfl rfl
  | case4 octet format single ordinary inductionHypothesis =>
      obtain ⟨front, split, plain, stops⟩ := inductionHypothesis
      refine ⟨octet :: front, ?_, .octet ordinary plain, stops⟩
      rw [List.cons_append, ← split]

theorem Stops.readPlain_eq
    {rest : List UInt8}
    (stops : Stops rest) :
    readPlain rest = ([], rest) := by
  rcases stops with rfl | ⟨behind, rfl, single⟩
  · rfl
  · cases behind with
    | nil => rfl
    | cons octet behind =>
        have other : octet ≠ 37 := fun same => single (congrArg some same)
        rw [readPlain]
        · rfl
        · rintro format - equal
          exact other (List.cons.inj equal).1

theorem Plain.readPlain_eq
    {front text rest : List UInt8}
    (plain : Plain front text)
    (stops : Stops rest) :
    readPlain (front ++ rest) = (text, rest) := by
  induction plain with
  | nil => exact stops.readPlain_eq
  | octet ordinary _ inductionHypothesis =>
      rw [List.cons_append, readPlain, if_neg ordinary, inductionHypothesis]
      rintro format equal
      exact absurd equal ordinary
  | percent _ inductionHypothesis =>
      rw [List.cons_append, List.cons_append, readPlain, inductionHypothesis]

/-- A row that passes a test, in front of what does not begin with one that
does. -/
theorem takeWhile_dropWhile_append
    {test : UInt8 → Bool}
    {row rest : List UInt8}
    (passes : ∀ octet ∈ row, test octet = true)
    (ends : ∀ octet ∈ rest.head?, test octet = false) :
    (row ++ rest).takeWhile test = row ∧ (row ++ rest).dropWhile test = rest := by
  rw [List.takeWhile_append_of_pos passes, List.dropWhile_append_of_pos passes]
  cases rest with
  | nil => simp
  | cons octet rest =>
      have fails := ends octet rfl
      simp [fails]

namespace Directive

variable (directive : Directive) (rest : List UInt8)

/-- What follows the width. -/
theorem writtenPrecision_head :
    ∀ octet ∈ (directive.writtenPrecision ++ 115 :: rest).head?,
      isDigit octet = false := by
  unfold writtenPrecision
  split <;> simp [isDigit]

/-- What follows the flags. -/
theorem width_writtenPrecision_head :
    ∀ octet ∈ (directive.width.1 ++
        (directive.writtenPrecision ++ 115 :: rest)).head?,
      (octet == 45) = false := by
  obtain ⟨minuses, ⟨width, digits⟩, precision, zero⟩ := directive
  intro octet first
  cases width with
  | nil =>
      cases precision <;> obtain rfl := Option.some.inj first <;> rfl
  | cons digit width =>
      obtain rfl := Option.some.inj first
      have isDigit := digits digit (.head _)
      refine beq_false_of_ne fun minus => ?_
      rw [minus] at isDigit
      exact nomatch isDigit

theorem body_head : (directive.body ++ rest).head? ≠ some 37 := by
  obtain ⟨minuses, ⟨width, digits⟩, precision, zero⟩ := directive
  intro first
  unfold body writtenPrecision at first
  cases minuses with
  | succ minuses => exact nomatch first
  | zero =>
      cases width with
      | nil => cases precision <;> exact nomatch first
      | cons digit width =>
          obtain rfl : digit = 37 := Option.some.inj first
          exact nomatch digits 37 (.head _)

theorem written_stops : Stops (directive.written ++ rest) :=
  .inr ⟨directive.body ++ rest, rfl, directive.body_head rest⟩

/-- A directive that is written is read. -/
theorem readDirective_body :
    readDirective (directive.body ++ rest) = some (directive, rest) := by
  have minus : ∀ octet ∈ List.replicate directive.minuses (45 : UInt8),
      (octet == 45) = true := by simp
  have flags := takeWhile_dropWhile_append minus
    (directive.width_writtenPrecision_head rest)
  have digits := takeWhile_dropWhile_append directive.width.2
    (directive.writtenPrecision_head rest)
  obtain ⟨minuses, width, precision, zero⟩ := directive
  have split : body ⟨minuses, width, precision, zero⟩ ++ rest =
      List.replicate minuses 45 ++ (width.1 ++
        (writtenPrecision ⟨minuses, width, precision, zero⟩ ++
          115 :: rest)) := by
    simp [body]
  rw [split]
  simp only [readDirective, leadingDigits, flags, digits,
    List.length_replicate]
  rw [dif_pos zero]
  cases precision with
  | none => rfl
  | some precision =>
      have ends : ∀ octet ∈ (115 :: rest).head?, isDigit octet = false := by
        simp [isDigit]
      have precise := takeWhile_dropWhile_append precision.2 ends
      simp only [writtenPrecision, List.cons_append, precise]

end Directive

/-- A directive that is read is written. -/
theorem readDirective_split
    {text rest : List UInt8}
    {directive : Directive}
    (read : readDirective text = some (directive, rest)) :
    text = directive.body ++ rest := by
  have minus : ∀ octet ∈ text.takeWhile (· == 45), octet = 45 :=
    fun octet member => by simpa using List.mem_takeWhile_imp member
  have flags := (List.eq_replicate_iff.mpr ⟨rfl, minus⟩).symm
  have width : (text.dropWhile (· == 45)).takeWhile isDigit ++ _ = _ :=
    List.takeWhile_append_dropWhile
  unfold readDirective at read
  dsimp only at read
  split at read
  next zero =>
    split at read
    next last ended =>
      obtain ⟨rfl, rfl⟩ := Prod.mk.inj (Option.some.inj read)
      rw [ended] at width
      simp [Directive.body, Directive.writtenPrecision, flags, leadingDigits,
        width]
    next precise dotted =>
      split at read
      next last ended =>
        obtain ⟨rfl, rfl⟩ := Prod.mk.inj (Option.some.inj read)
        have digits : precise.takeWhile isDigit ++ _ = _ :=
          List.takeWhile_append_dropWhile
        rw [ended] at digits
        rw [dotted] at width
        simp [Directive.body, Directive.writtenPrecision, flags,
          leadingDigits, digits, width]
      next => exact nomatch read
    next => exact nomatch read
  next => exact nomatch read

/-- The reader finds what a format prints, for the formats of the grammar and
no others. -/
theorem expand_eq_some_iff (format argument text : List UInt8) :
    expand format argument = some text ↔ Expands argument format text := by
  constructor
  · intro expanded
    obtain ⟨front, split, plain, stops⟩ := readPlain_plain format
    unfold expand at expanded
    split at expanded
    next frontText ended =>
      obtain rfl := Option.some.inj expanded
      rw [ended] at split plain
      rw [split, List.append_nil]
      exact .plain plain
    next frontText octet behind stopped =>
      rw [stopped] at split plain stops
      obtain rfl : octet = 37 := by
        rcases stops with empty | ⟨_, begins, -⟩
        · exact nomatch empty
        · exact (List.cons.inj begins).1
      split at expanded
      next directive back read =>
        split at expanded
        next backText ended =>
          obtain rfl := Option.some.inj expanded
          obtain ⟨last, whole, after, -⟩ := readPlain_plain back
          rw [ended, List.append_nil] at whole
          rw [ended, ← whole] at after
          rw [split, readDirective_split read]
          exact .directive directive plain after
        next => exact nomatch expanded
      next => exact nomatch expanded
  · intro expands
    unfold expand
    cases expands with
    | plain whole =>
        have read := whole.readPlain_eq (.inl rfl)
        rw [List.append_nil] at read
        rw [read]
    | directive directive before after =>
        have last := after.readPlain_eq (.inl rfl)
        rw [List.append_nil] at last
        rw [before.readPlain_eq (directive.written_stops _), Directive.written,
          List.cons_append]
        simp only [directive.readDirective_body, last]

end Printf
