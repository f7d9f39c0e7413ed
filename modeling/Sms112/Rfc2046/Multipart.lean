import Mathlib.Data.List.Infix

/-!
# Multipart bodies

The syntax of RFC 2046, section 5.1.1, over octets. A delimiter line starts
behind a line break, or at the start of the body, and holds nothing but the
delimiter. Splitting takes the delimiter lines in the order in which they
occur; what one part must not contain for the split to return it is a
predicate of its own.
-/

namespace Rfc2046

abbrev Octets := List UInt8

/-! ## Boundaries and delimiter lines -/

/-- The characters of `bcharsnospace` that are neither letters nor digits. -/
def marks : Octets :=
  [39, 40, 41, 43, 95, 44, 45, 46, 47, 58, 61, 63]

/-- `bcharsnospace` -/
def IsBoundaryChar (octet : UInt8) : Prop :=
  48 ≤ octet ∧ octet ≤ 57 ∨ 65 ≤ octet ∧ octet ≤ 90 ∨
    97 ≤ octet ∧ octet ≤ 122 ∨ octet ∈ marks

instance : DecidablePred IsBoundaryChar := fun octet => by
  unfold IsBoundaryChar
  infer_instance

/-- `boundary`: up to seventy characters, of which the last is no space. -/
def IsBoundary (boundary : Octets) : Prop :=
  boundary.length ≤ 70 ∧
    (∀ octet ∈ boundary, IsBoundaryChar octet ∨ octet = 32) ∧
    ∃ octet ∈ boundary.getLast?, IsBoundaryChar octet

instance (boundary : Octets) : Decidable (IsBoundary boundary) :=
  have := List.decidableBAll
    (fun octet => IsBoundaryChar octet ∨ octet = 32) boundary
  inferInstanceAs (Decidable (_ ∧ _ ∧ _))

/-- The line break. -/
def crlf : Octets := [13, 10]

/-- A delimiter introduces the next part or closes the body. -/
inductive Kind
  | next
  | close
  deriving DecidableEq

/-- The text of a delimiter between two line breaks. -/
def dashed (boundary : Octets) : Kind → Octets
  | .next => [45, 45] ++ boundary
  | .close => [45, 45] ++ boundary ++ [45, 45]

/-- A delimiter line with the line break before it. -/
def delimiter (boundary : Octets) (kind : Kind) : Octets :=
  crlf ++ dashed boundary kind ++ crlf

/-- A text contains a delimiter line. -/
def HasDelimiter (boundary text : Octets) : Prop :=
  ∃ kind, delimiter boundary kind <:+: text

instance (boundary text : Octets) :
    Decidable (HasDelimiter boundary text) :=
  decidable_of_iff
    (delimiter boundary .next <:+: text ∨ delimiter boundary .close <:+: text)
    ⟨fun either => either.elim (⟨_, ·⟩) (⟨_, ·⟩), fun ⟨kind, inside⟩ => by
      cases kind with
      | next => exact .inl inside
      | close => exact .inr inside⟩

theorem IsBoundary.not_mem_dashed
    {boundary : Octets}
    (isBoundary : IsBoundary boundary)
    (kind : Kind) :
    13 ∉ dashed boundary kind := by
  have clear : (13 : UInt8) ∉ boundary := by
    intro member
    rcases isBoundary.2.1 13 member with isChar | isSpace
    · exact absurd isChar (by decide)
    · exact absurd isSpace (by decide)
  cases kind with
  | next => simpa [dashed] using clear
  | close => simpa [dashed] using clear

/-! ## Splitting -/

/-- The delimiter line at the front of a text, and what follows it. -/
def takeDelimiter (boundary text : Octets) : Option (Kind × Octets) :=
  if delimiter boundary .next <+: text then
    some (.next, text.drop (delimiter boundary .next).length)
  else if delimiter boundary .close <+: text then
    some (.close, text.drop (delimiter boundary .close).length)
  else none

/-- The text before the first delimiter line, that line, and what follows. -/
def nextDelimiter (boundary : Octets) :
    Octets → Option (Octets × Kind × Octets)
  | [] => none
  | octet :: rest =>
      match takeDelimiter boundary (octet :: rest) with
      | some (kind, after) => some ([], kind, after)
      | none =>
          (nextDelimiter boundary rest).map fun (before, kind, after) =>
            (octet :: before, kind, after)

/-- The parts up to the close delimiter, and the epilogue. -/
def partsFrom (boundary : Octets) :
    Nat → Octets → Option (List Octets × Octets)
  | 0, _ => none
  | fuel + 1, text =>
      match nextDelimiter boundary text with
      | none => none
      | some (part, .close, epilogue) => some ([part], epilogue)
      | some (part, .next, rest) =>
          (partsFrom boundary fuel rest).map fun (parts, epilogue) =>
            (part :: parts, epilogue)

/-- A body that starts with a delimiter: its parts, and the epilogue. -/
def split (boundary body : Octets) : Option (List Octets × Octets) :=
  match takeDelimiter boundary (crlf ++ body) with
  | some (.next, rest) => partsFrom boundary body.length rest
  | _ => none

/-- The text that introduces the first part. -/
def opening (boundary : Octets) : Octets :=
  dashed boundary .next ++ crlf

/-- Parts with the delimiters between them and the one that closes them. -/
def assemble (boundary : Octets) : List Octets → Octets
  | [] => []
  | [part] => part ++ delimiter boundary .close
  | part :: next :: parts =>
      part ++ delimiter boundary .next ++ assemble boundary (next :: parts)

/-- The content of a part: what stands behind its first empty line. -/
def content : Octets → Option Octets
  | [] => none
  | octet :: rest =>
      if crlf ++ crlf <+: octet :: rest then some (rest.drop 3)
      else content rest

/-! ## Where a delimiter line can start -/

variable {boundary : Octets}

theorem length_delimiter_pos (boundary : Octets) (kind : Kind) :
    2 < (delimiter boundary kind).length := by
  simp [delimiter, crlf]

/-- A text with no carriage return ends before one that follows. -/
theorem length_le_of_append_cr
    {clear front after tail : Octets}
    (noReturn : 13 ∉ clear)
    (equal : clear ++ 13 :: after = front ++ 13 :: tail) :
    clear.length ≤ front.length := by
  by_contra longer
  have inside : front.length < clear.length := by omega
  have left : (clear ++ 13 :: after)[front.length]? =
      some clear[front.length] := by
    rw [List.getElem?_append_left inside, List.getElem?_eq_getElem inside]
  have right : (front ++ 13 :: tail)[front.length]? = some 13 := by simp
  rw [equal, right] at left
  apply noReturn
  rw [Option.some.inj left]
  exact List.getElem_mem inside

/-- A delimiter line that starts before a line break ends with it at the
latest or starts with it. -/
theorem delimiter_prefix_of_append
    (isBoundary : IsBoundary boundary)
    {kind : Kind}
    {front tail : Octets}
    (nonempty : front ≠ [])
    (found : delimiter boundary kind <+: front ++ crlf ++ tail) :
    delimiter boundary kind <+: front ++ crlf := by
  obtain ⟨octet, front, rfl⟩ := List.exists_cons_of_ne_nil nonempty
  have noReturn : 13 ∉ 10 :: dashed boundary kind := by
    simpa using isBoundary.not_mem_dashed kind
  have shorter : (10 :: dashed boundary kind).length ≤ front.length := by
    obtain ⟨after, equal⟩ := found
    simp only [delimiter, crlf, List.cons_append, List.nil_append,
      List.append_assoc, List.cons.injEq] at equal
    apply length_le_of_append_cr noReturn
    simpa using equal.2
  apply List.prefix_of_prefix_length_le found (List.prefix_append _ _)
  simp only [delimiter, crlf, List.length_append, List.length_cons,
    List.length_nil] at shorter ⊢
  omega

/-! ## The first delimiter line -/

/-- A delimiter line is taken off a text that starts with it: no other kind
starts so. -/
theorem takeDelimiter_append
    (kind : Kind)
    (rest : Octets) :
    takeDelimiter boundary (delimiter boundary kind ++ rest) =
      some (kind, rest) := by
  cases kind with
  | next => simp [takeDelimiter]
  | close =>
      have other : ¬delimiter boundary .next <+:
          delimiter boundary .close ++ rest := by
        rintro ⟨after, equal⟩
        simp [delimiter, dashed, crlf] at equal
      rw [takeDelimiter, if_neg other]
      simp

theorem takeDelimiter_eq_none_iff
    {text : Octets} :
    takeDelimiter boundary text = none ↔
      ∀ kind, ¬delimiter boundary kind <+: text := by
  unfold takeDelimiter
  constructor
  · intro untaken kind
    split at untaken
    case isTrue => cases untaken
    case isFalse noNext =>
      split at untaken
      case isTrue => cases untaken
      case isFalse noClose =>
        cases kind with
        | next => exact noNext
        | close => exact noClose
  · intro absent
    rw [if_neg (absent .next), if_neg (absent .close)]

/-- What is taken off is a delimiter line. -/
theorem eq_of_takeDelimiter
    {text rest : Octets}
    {kind : Kind}
    (taken : takeDelimiter boundary text = some (kind, rest)) :
    text = delimiter boundary kind ++ rest := by
  unfold takeDelimiter at taken
  split at taken
  case isTrue found =>
    obtain ⟨rfl, rfl⟩ := Prod.mk.inj (Option.some.inj taken)
    exact (List.prefix_iff_eq_append.mp found).symm
  case isFalse =>
    split at taken
    case isTrue found =>
      obtain ⟨rfl, rfl⟩ := Prod.mk.inj (Option.some.inj taken)
      exact (List.prefix_iff_eq_append.mp found).symm
    case isFalse => cases taken

/-- A part without a delimiter line of its own ends at the one behind it. -/
theorem nextDelimiter_append
    (isBoundary : IsBoundary boundary)
    (kind : Kind)
    {part : Octets}
    (rest : Octets)
    (clear : ¬HasDelimiter boundary (part ++ crlf)) :
    nextDelimiter boundary (part ++ delimiter boundary kind ++ rest) =
      some (part, kind, rest) := by
  induction part with
  | nil =>
      have first := @takeDelimiter_append boundary kind rest
      simp only [List.nil_append]
      cases equal : delimiter boundary kind ++ rest with
      | nil => simp [delimiter, crlf] at equal
      | cons octet after =>
          rw [equal] at first
          rw [nextDelimiter, first]
  | cons octet part inductionHypothesis =>
      have absent : ∀ other, ¬delimiter boundary other <+:
          octet :: (part ++ delimiter boundary kind ++ rest) := by
        intro other found
        apply clear
        refine ⟨other, List.IsPrefix.isInfix ?_⟩
        apply delimiter_prefix_of_append isBoundary (List.cons_ne_nil _ _)
        · simpa [delimiter] using found
      have later : ¬HasDelimiter boundary (part ++ crlf) := by
        rintro ⟨other, inside⟩
        exact clear ⟨other, inside.trans (List.suffix_cons _ _).isInfix⟩
      rw [List.cons_append, List.cons_append, nextDelimiter,
        takeDelimiter_eq_none_iff.mpr absent, inductionHypothesis later]
      rfl

/-- The split is at the first delimiter line: the text before it has none. -/
theorem nextDelimiter_eq_some
    {text part rest : Octets}
    {kind : Kind}
    (found : nextDelimiter boundary text = some (part, kind, rest)) :
    text = part ++ delimiter boundary kind ++ rest ∧
      ¬HasDelimiter boundary (part ++ crlf) := by
  induction text generalizing part with
  | nil => cases found
  | cons octet text inductionHypothesis =>
      rw [nextDelimiter] at found
      cases taken : takeDelimiter boundary (octet :: text) with
      | some first =>
          obtain ⟨kind, after⟩ := first
          simp only [taken, Option.some.injEq, Prod.mk.injEq] at found
          obtain ⟨rfl, rfl, rfl⟩ := found
          refine ⟨by simpa using eq_of_takeDelimiter taken, ?_⟩
          rintro ⟨other, inside⟩
          have longer := length_delimiter_pos boundary other
          have shorter := inside.length_le
          simp only [crlf, List.nil_append, List.length_cons,
            List.length_nil] at shorter
          omega
      | none =>
          simp only [taken, Option.map_eq_some_iff, Prod.mk.injEq,
            Prod.exists] at found
          obtain ⟨before, kind, after, later, rfl, rfl, rfl⟩ := found
          obtain ⟨rfl, clear⟩ := inductionHypothesis later
          refine ⟨by simp, ?_⟩
          rintro ⟨other, inside⟩
          rw [List.cons_append, List.infix_cons_iff] at inside
          rcases inside with first | inside
          · have start : delimiter boundary other <+:
                octet :: (before ++ delimiter boundary kind ++ after) := by
              apply first.trans
              simp [delimiter]
            exact takeDelimiter_eq_none_iff.mp taken other start
          · exact clear ⟨other, inside⟩

/-! ## Splitting and assembling -/

theorem length_le_assemble (boundary : Octets) (parts : List Octets) :
    parts.length ≤ (assemble boundary parts).length := by
  fun_induction assemble boundary parts with
  | case1 => exact Nat.le_refl 0
  | case2 part =>
      have long := length_delimiter_pos boundary .close
      simp only [List.length_append, List.length_cons, List.length_nil]
      omega
  | case3 part next parts inductionHypothesis =>
      have long := length_delimiter_pos boundary .next
      simp only [List.length_append, List.length_cons]
        at inductionHypothesis ⊢
      omega

theorem partsFrom_assemble
    (isBoundary : IsBoundary boundary)
    {parts : List Octets}
    (nonempty : parts ≠ [])
    (clear : ∀ part ∈ parts, ¬HasDelimiter boundary (part ++ crlf))
    (epilogue : Octets)
    {fuel : Nat}
    (enough : parts.length ≤ fuel) :
    partsFrom boundary fuel (assemble boundary parts ++ epilogue) =
      some (parts, epilogue) := by
  induction parts generalizing fuel with
  | nil => exact absurd rfl nonempty
  | cons part parts inductionHypothesis =>
      obtain ⟨fuel, rfl⟩ : ∃ less, fuel = less + 1 := by
        rw [List.length_cons] at enough
        exact ⟨fuel - 1, by omega⟩
      have partClear := clear part List.mem_cons_self
      cases parts with
      | nil =>
          rw [assemble, partsFrom,
            nextDelimiter_append isBoundary .close epilogue partClear]
      | cons next parts =>
          have later := inductionHypothesis (List.cons_ne_nil _ _)
            (fun part member => clear part (List.mem_cons_of_mem _ member))
            (Nat.le_of_succ_le_succ enough)
          rw [assemble, List.append_assoc, partsFrom,
            nextDelimiter_append isBoundary .next _ partClear]
          simp only [later, Option.map_some]

theorem eq_of_partsFrom
    {fuel : Nat}
    {text epilogue : Octets}
    {parts : List Octets}
    (found : partsFrom boundary fuel text = some (parts, epilogue)) :
    parts ≠ [] ∧ text = assemble boundary parts ++ epilogue ∧
      ∀ part ∈ parts, ¬HasDelimiter boundary (part ++ crlf) := by
  induction fuel generalizing text parts with
  | zero => cases found
  | succ fuel inductionHypothesis =>
      rw [partsFrom] at found
      cases first : nextDelimiter boundary text with
      | none => simp [first] at found
      | some cut =>
          obtain ⟨part, kind, rest⟩ := cut
          obtain ⟨rfl, partClear⟩ := nextDelimiter_eq_some first
          cases kind with
          | close =>
              simp only [first, Option.some.injEq, Prod.mk.injEq] at found
              obtain ⟨rfl, rfl⟩ := found
              refine ⟨List.cons_ne_nil _ _, rfl, ?_⟩
              simpa using partClear
          | next =>
              simp only [first, Option.map_eq_some_iff, Prod.exists,
                Prod.mk.injEq] at found
              obtain ⟨later, epilogue, found, rfl, rfl⟩ := found
              obtain ⟨nonempty, rfl, clear⟩ := inductionHypothesis found
              obtain ⟨next, later, rfl⟩ :=
                List.exists_cons_of_ne_nil nonempty
              refine ⟨List.cons_ne_nil _ _, by simp [assemble], ?_⟩
              rw [List.forall_mem_cons]
              exact ⟨partClear, clear⟩

/-- A body splits into some parts exactly when it is assembled of them and
none of them contains a delimiter line. -/
theorem split_eq_some_iff
    (isBoundary : IsBoundary boundary)
    {body epilogue : Octets}
    {parts : List Octets} :
    split boundary body = some (parts, epilogue) ↔
      parts ≠ [] ∧
      body = opening boundary ++ assemble boundary parts ++ epilogue ∧
      ∀ part ∈ parts, ¬HasDelimiter boundary (part ++ crlf) := by
  unfold split
  constructor
  · intro found
    cases taken : takeDelimiter boundary (crlf ++ body) with
    | none => simp [taken] at found
    | some first =>
        obtain ⟨kind, rest⟩ := first
        cases kind with
        | close => simp [taken] at found
        | next =>
            simp only [taken] at found
            obtain ⟨nonempty, rfl, clear⟩ := eq_of_partsFrom found
            refine ⟨nonempty, ?_, clear⟩
            have equal := eq_of_takeDelimiter taken
            simpa [delimiter, opening] using equal
  · rintro ⟨nonempty, rfl, clear⟩
    have start : crlf ++
        (opening boundary ++ assemble boundary parts ++ epilogue) =
          delimiter boundary .next ++
            (assemble boundary parts ++ epilogue) := by
      simp [delimiter, opening]
    rw [start, takeDelimiter_append]
    apply partsFrom_assemble isBoundary nonempty clear
    have enough := length_le_assemble boundary parts
    simp only [List.length_append]
    omega

/-! ## Texts in front of a part -/

/-- A text in which no line starts with a hyphen adds no delimiter line to
what follows its last line break. -/
theorem hasDelimiter_append_iff
    (boundary : Octets)
    {front : Octets}
    (noHyphen : ¬[13, 10, 45] <:+: front ++ crlf)
    (text : Octets) :
    HasDelimiter boundary (front ++ crlf ++ text) ↔
      HasDelimiter boundary (crlf ++ text) := by
  induction front with
  | nil => rfl
  | cons octet front inductionHypothesis =>
      have later : ¬[13, 10, 45] <:+: front ++ crlf := fun inside =>
        noHyphen (inside.trans (List.suffix_cons _ _).isInfix)
      rw [← inductionHypothesis later]
      constructor
      · rintro ⟨kind, inside⟩
        refine ⟨kind, ?_⟩
        rw [List.cons_append, List.cons_append,
          List.infix_cons_iff] at inside
        apply inside.resolve_left
        intro first
        apply noHyphen
        apply List.IsPrefix.isInfix
        have start : [13, 10, 45] <+: octet :: (front ++ crlf ++ text) := by
          apply List.IsPrefix.trans _ first
          cases kind <;> simp [delimiter, dashed, crlf]
        apply List.prefix_of_prefix_length_le start
        · exact ⟨text, by simp⟩
        · simp [crlf]
      · rintro ⟨kind, inside⟩
        exact ⟨kind, inside.trans (List.suffix_cons _ _).isInfix⟩

/-! ## The content of a part -/

theorem length_of_content
    {part text : Octets}
    (found : content part = some text) :
    4 ≤ part.length := by
  induction part with
  | nil => cases found
  | cons octet part inductionHypothesis =>
      rw [content] at found
      split at found
      case isTrue emptyLine => exact emptyLine.length_le
      case isFalse =>
        have later := inductionHypothesis found
        rw [List.length_cons]
        omega

/-- More text behind the empty line is more content. -/
theorem content_append
    {part text : Octets}
    (found : content part = some text)
    (more : Octets) :
    content (part ++ more) = some (text ++ more) := by
  induction part with
  | nil => cases found
  | cons octet part inductionHypothesis =>
      have long := length_of_content found
      have sameFront : crlf ++ crlf <+: octet :: (part ++ more) ↔
          crlf ++ crlf <+: octet :: part := by
        constructor
        · intro emptyLine
          apply List.prefix_of_prefix_length_le emptyLine
          · exact List.prefix_append (octet :: part) more
          · exact long
        · intro emptyLine
          exact emptyLine.trans (List.prefix_append (octet :: part) more)
      simp only [content, sameFront, List.cons_append] at found ⊢
      split at found
      case isTrue emptyLine =>
        obtain rfl := Option.some.inj found
        rw [List.length_cons] at long
        rw [if_pos emptyLine, List.drop_append_of_le_length (by omega)]
      case isFalse noLine =>
        rw [if_neg noLine]
        exact inductionHypothesis found

/-- A part that starts like a text with these headers has them as well. -/
theorem eq_of_content
    {headers text part rest more : Octets}
    (found : content headers = some [])
    (equal : headers ++ more = part ++ rest)
    (isContent : content part = some text) :
    part = headers ++ text := by
  rcases List.append_eq_append_iff.mp equal with
    ⟨middle, rfl, -⟩ | ⟨middle, rfl, -⟩
  · rw [content_append found, List.nil_append] at isContent
    rw [Option.some.inj isContent]
  · rw [content_append isContent] at found
    obtain ⟨rfl, rfl⟩ := List.append_eq_nil_iff.mp (Option.some.inj found)
    simp

end Rfc2046
