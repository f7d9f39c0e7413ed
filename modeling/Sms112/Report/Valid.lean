import Sms112.Report.Unambiguous
import Sms112.Rfc8259.Grammar

/-!
# When the report is JSON

The escape table leaves most control characters as they are, and an absent
value that is not quoted leaves nothing behind its colon. Without these, what
`sms112_make_json` prints is one object of the grammar.
-/

namespace Sms112

open Rfc8259 (IsNumber IsLiteral IsObject IsString IsCharacter IsNumberOctet
  IsToken Derives Mode isControl)

/-! ## Attributes a caller may pass, and those that print as JSON -/

def IsLetter (octet : UInt8) : Prop :=
  65 ≤ octet ∧ octet ≤ 90 ∨ 97 ≤ octet ∧ octet ≤ 122

instance (octet : UInt8) : Decidable (IsLetter octet) :=
  inferInstanceAs (Decidable (_ ∨ _))

/-- A text in UTF-8, as a C string holds it. -/
def IsText (value : Octets) : Prop :=
  ∃ text : List Char, (∀ character ∈ text, character.toNat ≠ 0) ∧
    value = text.flatMap String.utf8EncodeChar

/-- A quoted value is a text, another one a number or a literal; either may
be absent. -/
def Admissible (param : Option Octets) (descr : SParamDescr) : Prop :=
  ∀ value ∈ param,
    if descr.iType ≠ 0 then IsText value
    else IsNumber value ∨ IsLiteral value

/-- A quoted value has no control character but those in the table, and a
value that is not quoted is not absent. -/
def Printable (param : Option Octets) (descr : SParamDescr) : Prop :=
  if descr.iType ≠ 0 then
    ∀ value ∈ param, ∀ octet ∈ value,
      32 ≤ octet ∨ octet ∈ [9, 10, 12, 13]
  else param ≠ none

instance (param : Option Octets) (descr : SParamDescr) :
    Decidable (Printable param descr) :=
  have := List.decidableBAll
    fun octet : UInt8 => 32 ≤ octet ∨ octet ∈ [9, 10, 12, 13]
  inferInstanceAs (Decidable (if descr.iType ≠ 0 then
    ∀ value ∈ param, ∀ octet ∈ value,
      32 ≤ octet ∨ octet ∈ [9, 10, 12, 13]
  else param ≠ none))

/-! ## Escaped texts -/

/-- What the table replaces. -/
def escapes : Octets :=
  [34, 47, 92, 12, 10, 13, 9]

theorem escapeSym_of_not_mem
    {octet : UInt8}
    (other : octet ∉ escapes) :
    escapeSym octet = [octet] := by
  simp only [escapes, List.mem_cons, List.not_mem_nil, or_false,
    not_or] at other
  obtain ⟨quote, slash, backslash, feed, line, carriage, tab⟩ := other
  simp [escapeSym, replSym, List.lookup_cons, beq_false_of_ne, quote, slash,
    backslash, feed, line, carriage, tab]

theorem escapeSpecSym_of_not_mem
    {value : Octets}
    (others : ∀ octet ∈ value, octet ∉ escapes) :
    escapeSpecSym value = value := by
  rw [escapeSpecSym_eq]
  induction value with
  | nil => rfl
  | cons octet value inductionHypothesis =>
      rw [List.flatMap_cons, escapeSym_of_not_mem (others octet (.head _)),
        inductionHypothesis fun other inside => others other (.tail _ inside)]
      rfl

theorem not_mem_escapes_of_toNat
    {octet : UInt8}
    (large : 93 ≤ octet.toNat) :
    octet ∉ escapes := by
  intro member
  simp only [escapes, List.mem_cons, List.not_mem_nil, or_false] at member
  rcases member with rfl | rfl | rfl | rfl | rfl | rfl | rfl <;>
    exact absurd large (by decide)

theorem flatMap_escapeSym_large
    {value : Octets}
    (large : ∀ octet ∈ value, 128 ≤ octet.toNat) :
    value.flatMap escapeSym = value := by
  rw [← escapeSpecSym_eq]
  apply escapeSpecSym_of_not_mem
  intro octet member
  exact not_mem_escapes_of_toNat (by have := large octet member; omega)

/-- A character that may be printed is one of the grammar once it is
escaped. -/
theorem isCharacter_escaped
    {character : Char}
    (allowed : ∀ octet ∈ String.utf8EncodeChar character,
      32 ≤ octet ∨ octet ∈ [9, 10, 12, 13]) :
    IsCharacter ((String.utf8EncodeChar character).flatMap escapeSym) := by
  rcases Rfc8259.utf8EncodeChar_cases character with
    ⟨ascii, encoded⟩ | ⟨large, octets⟩
  · rw [encoded] at allowed ⊢
    rw [List.flatMap_singleton]
    by_cases escaped : UInt8.ofNat character.toNat ∈ escapes
    · generalize UInt8.ofNat character.toNat = octet at escaped
      simp only [escapes, List.mem_cons, List.not_mem_nil, or_false]
        at escaped
      rcases escaped with rfl | rfl | rfl | rfl | rfl | rfl | rfl <;>
        exact .escaped _ (by decide)
    · have printable := (allowed _ (.head _)).resolve_right fun control =>
        escaped (by
          simp only [List.mem_cons, List.not_mem_nil, or_false] at control
          rcases control with equal | equal | equal | equal <;>
            rw [equal] <;> decide)
      rw [escapeSym_of_not_mem escaped, ← encoded]
      refine .unescaped character ?_ ?_ ?_
      · simpa [UInt8.le_iff_toNat_le, Nat.mod_eq_of_lt
          (show character.toNat < 256 by omega)] using printable
      · rintro rfl
        exact escaped (by decide)
      · rintro rfl
        exact escaped (by decide)
  · rw [flatMap_escapeSym_large octets]
    refine .unescaped character (by omega) ?_ ?_ <;>
      · rintro rfl
        exact absurd large (by decide)

/-- A quoted value. -/
theorem isString_escaped
    {value : Octets}
    (text : IsText value)
    (allowed : ∀ octet ∈ value, 32 ≤ octet ∨ octet ∈ [9, 10, 12, 13]) :
    IsString (34 :: (escapeSpecSym value ++ [34])) := by
  obtain ⟨characters, -, rfl⟩ := text
  refine ⟨characters.map fun character =>
    (String.utf8EncodeChar character).flatMap escapeSym, ?_, ?_⟩
  · intro escaped member
    obtain ⟨character, inside, rfl⟩ := List.mem_map.mp member
    apply isCharacter_escaped
    intro octet octetInside
    exact allowed octet (List.mem_flatMap.mpr ⟨character, inside, octetInside⟩)
  · rw [escapeSpecSym_eq, List.flatMap_assoc, List.flatMap_def]

theorem isString_letters
    {name : Octets}
    (letters : ∀ octet ∈ name, IsLetter octet) :
    IsString (34 :: (name ++ [34])) := by
  apply Rfc8259.isString_ascii
  intro octet member
  have letter := letters octet member
  simp only [IsLetter, UInt8.le_iff_toNat_le] at letter
  simp at letter
  refine ⟨by omega, ?_, ?_⟩ <;>
    · rintro rfl
      exact absurd letter (by decide)

/-- A number or a literal has nothing to escape. -/
theorem escapeSpecSym_unquoted
    {value : Octets}
    (unquoted : IsNumber value ∨ IsLiteral value) :
    escapeSpecSym value = value := by
  apply escapeSpecSym_of_not_mem
  intro octet member
  rcases unquoted with number | literal
  · rcases (Rfc8259.numberOctet_number number).2 octet member with
      digit | sign
    · simp only [Rfc8259.IsDigit, UInt8.le_iff_toNat_le] at digit
      simp at digit
      intro escaped
      simp only [escapes, List.mem_cons, List.not_mem_nil, or_false]
        at escaped
      rcases escaped with rfl | rfl | rfl | rfl | rfl | rfl | rfl <;>
        exact absurd digit (by decide)
    · simp only [List.mem_cons, List.not_mem_nil, or_false] at sign
      rcases sign with rfl | rfl | rfl | rfl | rfl <;> decide
  · apply not_mem_escapes_of_toNat
    rcases literal with rfl | rfl | rfl <;>
      simp only [List.mem_cons, List.not_mem_nil, or_false] at member <;>
      rcases member with rfl | rfl | rfl | rfl | rfl <;> decide

/-! ## The attributes -/

/-- What stands behind the colon of an attribute. -/
def jsonValue (param : Option Octets) (descr : SParamDescr) : Octets :=
  if descr.iType ≠ 0 then 34 :: (escapeSpecSym (param.getD []) ++ [34])
  else escapeSpecSym (param.getD [])

theorem jsonAttr_eq (param : Option Octets) (descr : SParamDescr) :
    jsonAttr param descr =
      34 :: (descr.pszName ++ [34]) ++ [58] ++ jsonValue param descr := by
  have quote : ascii "\"" = [34] := by decide
  have separator : ascii "\":" = [34, 58] := by decide
  have nothing : escapeSpecSym [] = [] := by decide
  by_cases quoted : descr.iType = 0 <;> cases param <;>
    simp [jsonAttr, jsonValue, quoted, quote, separator, nothing]

/-- A printable attribute is a member of an object. -/
theorem derives_jsonAttr
    {param : Option Octets}
    {descr : SParamDescr}
    (letters : ∀ octet ∈ descr.pszName, IsLetter octet)
    (admissible : Admissible param descr)
    (printable : Printable param descr) :
    Derives .members (jsonAttr param descr) := by
  rw [jsonAttr_eq]
  refine .member (isString_letters letters)
    (Rfc8259.isToken_singleton 58) ?_
  unfold Admissible at admissible
  unfold Printable at printable
  unfold jsonValue
  split at printable
  next quoted =>
    simp only [if_pos quoted] at admissible ⊢
    apply Derives.string
    cases param with
    | none => exact ⟨[], nofun, rfl⟩
    | some value =>
        exact isString_escaped (admissible value rfl) (printable value rfl)
  next unquoted =>
    simp only [if_neg unquoted] at admissible ⊢
    cases param with
    | none => exact absurd rfl printable
    | some value =>
        have known := admissible value rfl
        rw [Option.getD_some, escapeSpecSym_unquoted known]
        rcases known with number | literal
        · exact .number number
        · exact .literal literal

/-- An attribute that is not printable breaks the automaton, at the latest at
the comma or the brace behind it. -/
theorem run_jsonAttr_broken
    {param : Option Octets}
    {descr : SParamDescr}
    (letters : ∀ octet ∈ descr.pszName, IsLetter octet)
    (unprintable : ¬Printable param descr)
    {next : UInt8}
    (ends : next = 44 ∨ next = 125)
    (rest : Octets) :
    (Mode.code false).run (jsonAttr param descr ++ next :: rest) =
      .broken := by
  rw [jsonAttr_eq]
  unfold Printable at unprintable
  split at unprintable
  next quoted =>
    simp only [not_forall, not_or] at unprintable
    obtain ⟨value, isValue, octet, inside, small, notEscaped⟩ := unprintable
    obtain rfl : param = some value := isValue
    have control : isControl octet := by
      simp only [List.mem_cons, List.not_mem_nil, or_false, not_or]
        at notEscaped
      simp [isControl, notEscaped, UInt8.lt_iff_toNat_lt,
        UInt8.le_iff_toNat_le] at small ⊢
      omega
    have kept : octet ∈ escapeSpecSym value := by
      rw [escapeSpecSym_eq, List.mem_flatMap]
      refine ⟨octet, inside, ?_⟩
      have other : octet ∉ escapes := by
        intro escaped
        simp only [escapes, List.mem_cons, List.not_mem_nil, or_false]
          at escaped notEscaped
        rcases escaped with rfl | rfl | rfl | rfl | rfl | rfl | rfl <;>
          simp at small notEscaped
      rw [escapeSym_of_not_mem other]
      exact .head _
    apply Mode.run_of_control control
    simp [jsonValue, quoted, kept]
  next unquoted =>
    simp only [ne_eq, not_not] at unprintable
    have nothing : escapeSpecSym [] = [] := by decide
    have broken : (Mode.code true).step next = .broken := by
      rcases ends with rfl | rfl <;> decide
    have colon : (Mode.code false).run [58] = .code true := by decide
    simp only [jsonValue, if_neg unquoted, unprintable, Option.getD_none,
      nothing, List.append_nil]
    rw [Mode.run_append, Mode.run_append,
      Mode.run_string (isString_letters letters), colon, Mode.run_cons,
      broken, Mode.run_broken]

/-! ## The object -/

section Attributes

variable {params : List (Option Octets)} {descrs : List SParamDescr}

/-- Behind the first attribute the others follow a comma. -/
theorem jsonAttrs_false (params : List (Option Octets))
    (descrs : List SParamDescr) :
    jsonAttrs false params descrs =
      if params = [] ∨ descrs = [] then []
      else 44 :: jsonAttrs true params descrs := by
  have comma : ascii "," = [44] := by decide
  cases params <;> cases descrs <;> simp [jsonAttrs, comma]

/-- All attributes, when each is printable. -/
theorem derives_jsonAttrs
    (letters : ∀ descr ∈ descrs, ∀ octet ∈ descr.pszName, IsLetter octet)
    (admissible : ∀ entry ∈ params.zip descrs, Admissible entry.1 entry.2)
    (printable : ∀ entry ∈ params.zip descrs, Printable entry.1 entry.2)
    (someParam : params ≠ [])
    (someDescr : descrs ≠ []) :
    Derives .members (jsonAttrs true params descrs) := by
  induction params generalizing descrs with
  | nil => exact absurd rfl someParam
  | cons param params inductionHypothesis =>
      cases descrs with
      | nil => exact absurd rfl someDescr
      | cons descr descrs =>
          have first := derives_jsonAttr (letters descr (.head _))
            (admissible (param, descr) (.head _))
            (printable (param, descr) (.head _))
          simp only [jsonAttrs, if_true, List.nil_append, jsonAttrs_false]
          split
          next last => rwa [List.append_nil]
          next more =>
            simp only [not_or] at more
            have rest := inductionHypothesis
              (fun other inside => letters other (.tail _ inside))
              (fun entry inside => admissible entry (.tail _ inside))
              (fun entry inside => printable entry (.tail _ inside))
              more.1 more.2
            have both := Derives.memberCons first
              (Rfc8259.isToken_singleton 44) rest
            simpa using both

/-- One attribute that is not printable breaks the automaton. -/
theorem run_jsonAttrs_broken
    (letters : ∀ descr ∈ descrs, ∀ octet ∈ descr.pszName, IsLetter octet)
    (admissible : ∀ entry ∈ params.zip descrs, Admissible entry.1 entry.2)
    (unprintable : ∃ entry ∈ params.zip descrs,
      ¬Printable entry.1 entry.2) :
    (Mode.code false).run (jsonAttrs true params descrs ++ [125]) =
      .broken := by
  induction params generalizing descrs with
  | nil => simp at unprintable
  | cons param params inductionHypothesis =>
      cases descrs with
      | nil => simp at unprintable
      | cons descr descrs =>
          have firstLetters := letters descr (.head _)
          have comma : (Mode.code false).step 44 = .code false := by decide
          simp only [jsonAttrs, if_true, List.nil_append, jsonAttrs_false,
            List.append_assoc]
          by_cases printable : Printable param descr
          · have derives := derives_jsonAttr firstLetters
              (admissible (param, descr) (.head _)) printable
            rw [Mode.run_append, Mode.run_derives derives]
            have later : ∃ entry ∈ params.zip descrs,
                ¬Printable entry.1 entry.2 := by
              obtain ⟨entry, inside, fails⟩ := unprintable
              rcases List.mem_cons.mp inside with rfl | inside
              · exact absurd printable fails
              · exact ⟨entry, inside, fails⟩
            have more : ¬(params = [] ∨ descrs = []) := by
              obtain ⟨entry, inside, -⟩ := later
              rintro (rfl | rfl) <;> simp at inside
            rw [if_neg more, List.cons_append, Mode.run_cons, comma]
            exact inductionHypothesis
              (fun other inside => letters other (.tail _ inside))
              (fun entry inside => admissible entry (.tail _ inside)) later
          · split
            · exact run_jsonAttr_broken firstLetters printable (.inr rfl) []
            · exact run_jsonAttr_broken firstLetters printable (.inl rfl) _

/-- With plain names and admissible values, the report is one JSON object
exactly if every attribute is printable. -/
theorem makeJson_isObject_iff
    (params : List (Option Octets))
    (descrs : List SParamDescr)
    (letters : ∀ descr ∈ descrs, ∀ octet ∈ descr.pszName, IsLetter octet)
    (admissible : ∀ entry ∈ params.zip descrs,
      Admissible entry.1 entry.2) :
    IsObject (makeJson params descrs) ↔
      ∀ entry ∈ params.zip descrs, Printable entry.1 entry.2 := by
  have opening : ascii "\x7b" = [123] := by decide
  have closing : ascii "\x7d" = [125] := by decide
  constructor
  · intro object
    by_contra unprintable
    simp only [not_forall] at unprintable
    obtain ⟨entry, inside, fails⟩ := unprintable
    have ends := Mode.run_derives object false
    have opens : (Mode.code false).step 123 = .code false := by decide
    rw [makeJson, opening, closing, List.append_assoc,
      List.singleton_append, Mode.run_cons, opens,
      run_jsonAttrs_broken letters admissible ⟨entry, inside, fails⟩] at ends
    cases ends
  · intro printable
    have opens := Rfc8259.isToken_singleton 123
    have closes := Rfc8259.isToken_singleton 125
    rw [makeJson, opening, closing]
    by_cases none : params = [] ∨ descrs = []
    · have empty : jsonAttrs true params descrs = [] := by
        rcases none with rfl | rfl
        · rfl
        · cases params <;> rfl
      rw [empty]
      exact .emptyObject opens closes
    · simp only [not_or] at none
      exact .object opens (derives_jsonAttrs letters admissible printable
        none.1 none.2) closes

end Attributes

/-! ## A report with a line feed and one with an escape character -/

theorem isText_ascii
    (text : List Char)
    (nonzero : ∀ character ∈ text, character.toNat ≠ 0) :
    IsText (text.flatMap String.utf8EncodeChar) :=
  ⟨text, nonzero, rfl⟩

/-- A message of two lines, and a number that is not quoted. -/
theorem makeJson_isObject_lines :
    IsObject (makeJson
      [some (['S', '\n', 'S'].flatMap String.utf8EncodeChar), some [55]]
      [⟨ascii "TextMessage", 1⟩, ⟨ascii "Count", 0⟩]) := by
  refine (makeJson_isObject_iff _ _ (by decide +kernel) ?_).mpr (by decide +kernel)
  intro entry inside value isValue
  simp only [List.zip_cons_cons, List.zip_nil_right, List.mem_cons,
    List.not_mem_nil, or_false] at inside
  rcases inside with rfl | rfl
  · obtain rfl := Option.some.inj isValue
    exact isText_ascii _ (by simp)
  · obtain rfl := Option.some.inj isValue
    refine .inl ⟨[], [55], [], [], .inl rfl, .inr ⟨⟨nofun, ?_⟩, by decide +kernel⟩,
      .inl rfl, .inl rfl, rfl⟩
    rw [List.forall_mem_singleton]
    exact ⟨by decide +kernel, by decide +kernel⟩

/-- A message with the escape character of the GSM alphabet is printed with
it. -/
theorem makeJson_escape_notObject :
    (∀ octet ∈ ascii "TextMessage", IsLetter octet) ∧
      Admissible (some (['S', '\x1b', 'S'].flatMap String.utf8EncodeChar))
        ⟨ascii "TextMessage", 1⟩ ∧
      ¬IsObject (makeJson
        [some (['S', '\x1b', 'S'].flatMap String.utf8EncodeChar)]
        [⟨ascii "TextMessage", 1⟩]) := by
  refine ⟨by decide +kernel, ?_, fun object => ?_⟩
  · intro value isValue
    obtain rfl := Option.some.inj isValue
    exact isText_ascii _ (by simp)
  · have ends := Mode.run_derives object false
    have broken : (Mode.code false).run (makeJson
        [some (['S', '\x1b', 'S'].flatMap String.utf8EncodeChar)]
        [⟨ascii "TextMessage", 1⟩]) = .broken := by
      decide +kernel
    rw [broken] at ends
    cases ends

end Sms112
