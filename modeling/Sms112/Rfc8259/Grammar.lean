import Mathlib.Data.List.Induction

/-!
# The JSON grammar

The grammar of RFC 8259 over octets in UTF-8. The recursive part is one
inductive family indexed by the symbol that is derived, so that a property of
all derivations is proved by one induction.
-/

namespace Rfc8259

abbrev Octets := List UInt8

/-! ## Tokens -/

/-- Insignificant white space. -/
def IsWs (text : Octets) : Prop :=
  ∀ octet ∈ text, octet = 32 ∨ octet = 9 ∨ octet = 10 ∨ octet = 13

/-- A structural character with the white space around it. -/
def IsToken (octet : UInt8) (text : Octets) : Prop :=
  ∃ before after, IsWs before ∧ IsWs after ∧
    text = before ++ octet :: after

/-- `false`, `null` or `true`. -/
def IsLiteral (text : Octets) : Prop :=
  text = [102, 97, 108, 115, 101] ∨ text = [110, 117, 108, 108] ∨
    text = [116, 114, 117, 101]

def IsDigit (octet : UInt8) : Prop :=
  48 ≤ octet ∧ octet ≤ 57

def IsHexDigit (octet : UInt8) : Prop :=
  IsDigit octet ∨ 65 ≤ octet ∧ octet ≤ 70 ∨ 97 ≤ octet ∧ octet ≤ 102

/-- One digit or more. -/
def IsDigits (text : Octets) : Prop :=
  text ≠ [] ∧ ∀ octet ∈ text, IsDigit octet

/-- `int`: no leading zero. -/
def IsInt (text : Octets) : Prop :=
  text = [48] ∨ IsDigits text ∧ text.head? ≠ some 48

/-- `frac` -/
def IsFrac (text : Octets) : Prop :=
  ∃ digits, IsDigits digits ∧ text = 46 :: digits

/-- `exp` -/
def IsExp (text : Octets) : Prop :=
  ∃ letter sign digits, (letter = 101 ∨ letter = 69) ∧
    (sign = [] ∨ sign = [43] ∨ sign = [45]) ∧ IsDigits digits ∧
    text = letter :: (sign ++ digits)

/-- `number` -/
def IsNumber (text : Octets) : Prop :=
  ∃ minus int frac exp, (minus = [] ∨ minus = [45]) ∧ IsInt int ∧
    (frac = [] ∨ IsFrac frac) ∧ (exp = [] ∨ IsExp exp) ∧
    text = minus ++ int ++ frac ++ exp

/-- `char`: a character of a string. -/
inductive IsCharacter : Octets → Prop
  | unescaped
      (character : Char)
      (printable : 32 ≤ character.toNat)
      (notQuote : character ≠ '"')
      (notBackslash : character ≠ '\\') :
      IsCharacter (String.utf8EncodeChar character)
  | escaped
      (letter : UInt8)
      (known : letter ∈ [34, 92, 47, 98, 102, 110, 114, 116]) :
      IsCharacter [92, letter]
  | unicode
      (digits : Octets)
      (four : digits.length = 4)
      (hex : ∀ octet ∈ digits, IsHexDigit octet) :
      IsCharacter (92 :: 117 :: digits)

/-- `string` -/
def IsString (text : Octets) : Prop :=
  ∃ characters : List Octets,
    (∀ character ∈ characters, IsCharacter character) ∧
      text = 34 :: (characters.flatten ++ [34])

/-! ## Derivations -/

/-- The symbols of the recursive part. -/
inductive Symbol
  | value
  | object
  | members
  | array
  | elements

/-- The text is derived from the symbol. -/
inductive Derives : Symbol → Octets → Prop
  | literal {text : Octets} (literal : IsLiteral text) : Derives .value text
  | number {text : Octets} (number : IsNumber text) : Derives .value text
  | string {text : Octets} (string : IsString text) : Derives .value text
  | ofObject {text : Octets} (object : Derives .object text) :
      Derives .value text
  | ofArray {text : Octets} (array : Derives .array text) :
      Derives .value text
  | emptyObject
      {opening closing : Octets}
      (opens : IsToken 123 opening)
      (closes : IsToken 125 closing) :
      Derives .object (opening ++ closing)
  | object
      {opening members closing : Octets}
      (opens : IsToken 123 opening)
      (derives : Derives .members members)
      (closes : IsToken 125 closing) :
      Derives .object (opening ++ members ++ closing)
  | member
      {name separator value : Octets}
      (string : IsString name)
      (separates : IsToken 58 separator)
      (derives : Derives .value value) :
      Derives .members (name ++ separator ++ value)
  | memberCons
      {member comma members : Octets}
      (first : Derives .members member)
      (separates : IsToken 44 comma)
      (rest : Derives .members members) :
      Derives .members (member ++ comma ++ members)
  | emptyArray
      {opening closing : Octets}
      (opens : IsToken 91 opening)
      (closes : IsToken 93 closing) :
      Derives .array (opening ++ closing)
  | array
      {opening elements closing : Octets}
      (opens : IsToken 91 opening)
      (derives : Derives .elements elements)
      (closes : IsToken 93 closing) :
      Derives .array (opening ++ elements ++ closing)
  | element
      {value : Octets}
      (derives : Derives .value value) :
      Derives .elements value
  | elementCons
      {element comma elements : Octets}
      (first : Derives .elements element)
      (separates : IsToken 44 comma)
      (rest : Derives .elements elements) :
      Derives .elements (element ++ comma ++ elements)

/-- A text that is one object. -/
abbrev IsObject (text : Octets) : Prop :=
  Derives .object text

theorem isToken_singleton (octet : UInt8) : IsToken octet [octet] :=
  ⟨[], [], by simp [IsWs], by simp [IsWs], rfl⟩

/-! ## The octets of characters and numbers -/

/-- Each octet of a character's encoding is the character itself or above all
ASCII. -/
theorem utf8EncodeChar_cases (character : Char) :
    (character.toNat < 128 ∧ String.utf8EncodeChar character =
      [UInt8.ofNat character.toNat]) ∨
      (128 ≤ character.toNat ∧
        ∀ octet ∈ String.utf8EncodeChar character, 128 ≤ octet.toNat) := by
  unfold String.utf8EncodeChar
  simp only [Char.toNat]
  split
  next ascii => exact .inl ⟨by omega, rfl⟩
  next notAscii =>
    refine .inr ⟨by omega, fun octet member => ?_⟩
    split at member
    · simp only [List.mem_cons, List.not_mem_nil, or_false] at member
      rcases member with rfl | rfl <;> rw [UInt8.toNat_ofNat'] <;> omega
    · split at member <;>
        simp only [List.mem_cons, List.not_mem_nil, or_false] at member
      · rcases member with rfl | rfl | rfl <;> rw [UInt8.toNat_ofNat'] <;>
          omega
      · rcases member with rfl | rfl | rfl | rfl <;>
          rw [UInt8.toNat_ofNat'] <;> omega

/-- A character of ASCII that stands for itself. -/
theorem isCharacter_ascii
    {octet : UInt8}
    (printable : 32 ≤ octet.toNat)
    (ascii : octet.toNat < 128)
    (notQuote : octet ≠ 34)
    (notBackslash : octet ≠ 92) :
    IsCharacter [octet] := by
  have valid : octet.toNat.isValidChar :=
    .inl (Nat.lt_trans ascii (by decide))
  have same : (Char.ofNat octet.toNat).toNat = octet.toNat := by
    rw [Char.ofNat, dif_pos valid]
    rfl
  have encoded : String.utf8EncodeChar (Char.ofNat octet.toNat) =
      [octet] := by
    rcases utf8EncodeChar_cases (Char.ofNat octet.toNat) with
      ⟨-, equal⟩ | ⟨large, -⟩
    · rw [equal, same, UInt8.ofNat_toNat]
    · omega
  rw [← encoded]
  refine .unescaped _ (by omega) ?_ ?_ <;>
    · intro equal
      rw [equal] at same
      first
        | exact notQuote (UInt8.toNat_inj.mp same.symm)
        | exact notBackslash (UInt8.toNat_inj.mp same.symm)

/-- A text of such characters in quotes. -/
theorem isString_ascii
    {text : Octets}
    (plain : ∀ octet ∈ text, (32 ≤ octet.toNat ∧ octet.toNat < 128) ∧
      octet ≠ 34 ∧ octet ≠ 92) :
    IsString (34 :: (text ++ [34])) := by
  refine ⟨text.map fun octet => [octet], ?_, ?_⟩
  swap
  · rw [← List.flatMap_def, List.flatMap_singleton']
  intro character member
  obtain ⟨octet, inside, rfl⟩ := List.mem_map.mp member
  obtain ⟨⟨printable, ascii⟩, notQuote, notBackslash⟩ := plain octet inside
  exact isCharacter_ascii printable ascii notQuote notBackslash

/-- The characters numbers are made of. -/
def IsNumberOctet (octet : UInt8) : Prop :=
  IsDigit octet ∨ octet ∈ [43, 45, 46, 69, 101]

theorem numberOctet_digits
    {text : Octets}
    (digits : IsDigits text) :
    ∀ octet ∈ text, IsNumberOctet octet :=
  fun octet member => .inl (digits.2 octet member)

theorem numberOctet_int
    {text : Octets}
    (int : IsInt text) :
    text ≠ [] ∧ ∀ octet ∈ text, IsNumberOctet octet := by
  rcases int with rfl | ⟨digits, -⟩
  · refine ⟨List.cons_ne_nil _ _, fun octet member => .inl ?_⟩
    rw [List.mem_singleton.mp member]
    exact ⟨by decide, by decide⟩
  · exact ⟨digits.1, numberOctet_digits digits⟩

theorem numberOctet_frac
    {text : Octets}
    (frac : IsFrac text) :
    ∀ octet ∈ text, IsNumberOctet octet := by
  obtain ⟨digits, derived, rfl⟩ := frac
  rw [List.forall_mem_cons]
  exact ⟨.inr (by decide), numberOctet_digits derived⟩

theorem numberOctet_exp
    {text : Octets}
    (exp : IsExp text) :
    ∀ octet ∈ text, IsNumberOctet octet := by
  obtain ⟨letter, sign, digits, known, signed, derived, rfl⟩ := exp
  rw [List.forall_mem_cons, List.forall_mem_append]
  refine ⟨.inr ?_, fun octet member => .inr ?_, numberOctet_digits derived⟩
  · rcases known with rfl | rfl <;> decide
  · rcases signed with rfl | rfl | rfl
    · cases member
    · rw [List.mem_singleton.mp member]
      decide
    · rw [List.mem_singleton.mp member]
      decide

/-- A number is written with the octets of numbers, and with one at least. -/
theorem numberOctet_number
    {text : Octets}
    (number : IsNumber text) :
    text ≠ [] ∧ ∀ octet ∈ text, IsNumberOctet octet := by
  obtain ⟨minus, int, frac, exp, signed, isInt, isFrac, isExp, rfl⟩ := number
  obtain ⟨nonempty, intOctets⟩ := numberOctet_int isInt
  refine ⟨by simp [nonempty], ?_⟩
  rw [List.forall_mem_append, List.forall_mem_append,
    List.forall_mem_append]
  refine ⟨⟨⟨fun octet member => .inr ?_, intOctets⟩, ?_⟩, ?_⟩
  · rcases signed with rfl | rfl
    · cases member
    · rw [List.mem_singleton.mp member]
      decide
  · rcases isFrac with rfl | isFrac
    · exact fun octet member => absurd member List.not_mem_nil
    · exact numberOctet_frac isFrac
  · rcases isExp with rfl | isExp
    · exact fun octet member => absurd member List.not_mem_nil
    · exact numberOctet_exp isExp

/-! ## A necessary condition

An automaton reads the text and breaks where a control character stands that
is not white space, or where a colon is followed by a comma or a closing
brace. No derived text breaks it. -/

/-- Where the automaton is: between the strings, with or without a colon as
the last character read, in a string, or behind the backslash of an escape. -/
inductive Mode
  | code (afterColon : Bool)
  | text
  | escape
  | broken
  deriving DecidableEq

/-- A control character that is not white space. -/
def isControl (octet : UInt8) : Bool :=
  octet < 32 && octet != 9 && octet != 10 && octet != 13

def isWsOctet (octet : UInt8) : Bool :=
  octet == 32 || octet == 9 || octet == 10 || octet == 13

/-- One octet. -/
def Mode.step (mode : Mode) (octet : UInt8) : Mode :=
  if isControl octet then .broken
  else
    match mode with
    | .code afterColon =>
        if isWsOctet octet then .code afterColon
        else if octet = 34 then .text
        else if octet = 58 then .code true
        else if afterColon && (octet == 44 || octet == 125) then .broken
        else .code false
    | .text =>
        if octet = 34 then .code false
        else if octet = 92 then .escape
        else .text
    | .escape => .text
    | .broken => .broken

/-- A text. -/
def Mode.run (mode : Mode) (text : Octets) : Mode :=
  text.foldl Mode.step mode

namespace Mode

@[simp] theorem run_nil (mode : Mode) : mode.run [] = mode := rfl

@[simp] theorem run_cons (mode : Mode) (octet : UInt8) (text : Octets) :
    mode.run (octet :: text) = (mode.step octet).run text := rfl

/-- Reading goes on where it stopped. -/
theorem run_append (mode : Mode) (first second : Octets) :
    mode.run (first ++ second) = (mode.run first).run second :=
  List.foldl_append

/-- What is broken stays so. -/
@[simp] theorem run_broken (text : Octets) :
    Mode.broken.run text = .broken := by
  induction text with
  | nil => rfl
  | cons octet text inductionHypothesis =>
      have stays : Mode.broken.step octet = .broken := by
        unfold Mode.step
        split <;> rfl
      rw [run_cons, stays, inductionHypothesis]

/-- A control character breaks the text, inside a string and outside. -/
theorem step_of_control
    {octet : UInt8}
    (control : isControl octet)
    (mode : Mode) :
    mode.step octet = .broken := by
  cases mode <;> simp [Mode.step, control]

/-- A control character breaks the automaton wherever it stands. -/
theorem run_of_control
    {octet : UInt8}
    (control : isControl octet)
    {text : Octets}
    (member : octet ∈ text)
    (mode : Mode) :
    mode.run text = .broken := by
  obtain ⟨before, after, rfl⟩ := List.append_of_mem member
  rw [run_append, run_cons, step_of_control control, run_broken]

/-- White space between the tokens is passed over. -/
theorem run_ws
    {text : Octets}
    (ws : IsWs text)
    (afterColon : Bool) :
    (Mode.code afterColon).run text = .code afterColon := by
  induction text with
  | nil => rfl
  | cons octet text inductionHypothesis =>
      have passes : (Mode.code afterColon).step octet = .code afterColon := by
        rcases ws octet (.head _) with rfl | rfl | rfl | rfl <;>
          simp [Mode.step, isControl, isWsOctet]
      rw [run_cons, passes]
      apply inductionHypothesis
      intro other inside
      exact ws other (.tail _ inside)

/-- A structural character leads where it leads without the white space. -/
theorem run_token
    {octet : UInt8}
    {text : Octets}
    (token : IsToken octet text)
    {before after : Bool}
    (step : (Mode.code before).step octet = .code after) :
    (Mode.code before).run text = .code after := by
  obtain ⟨leading, trailing, leadingWs, trailingWs, rfl⟩ := token
  rw [run_append, run_ws leadingWs, run_cons, step, run_ws trailingWs]

/-- Characters that neither begin a string nor structure the text. -/
def IsInert (octet : UInt8) : Prop :=
  32 < octet ∧ octet ≠ 34 ∧ octet ≠ 58 ∧ octet ≠ 44 ∧ octet ≠ 125

/-- An inert octet outside of strings leaves no colon open. -/
theorem step_inert
    {octet : UInt8}
    (inert : IsInert octet)
    (afterColon : Bool) :
    (Mode.code afterColon).step octet = .code false := by
  obtain ⟨large, notQuote, notColon, notComma, notBrace⟩ := inert
  have bound : 32 < octet.toNat := by simpa [UInt8.lt_iff_toNat_lt] using large
  have noControl : isControl octet = false := by
    simp only [isControl, UInt8.lt_iff_toNat_lt, Bool.and_eq_false_iff,
      decide_eq_false_iff_not]
    left; left; left
    simp
    omega
  have noWs : isWsOctet octet = false := by
    simp only [isWsOctet, Bool.or_eq_false_iff, beq_eq_false_iff_ne]
    refine ⟨⟨⟨?_, ?_⟩, ?_⟩, ?_⟩ <;>
      · rintro rfl
        exact absurd bound (by decide)
  simp [Mode.step, noControl, noWs, notQuote, notColon, notComma, notBrace]

/-- A word of such characters. -/
theorem run_inert
    {text : Octets}
    (nonempty : text ≠ [])
    (inert : ∀ octet ∈ text, IsInert octet)
    (afterColon : Bool) :
    (Mode.code afterColon).run text = .code false := by
  induction text generalizing afterColon with
  | nil => exact absurd rfl nonempty
  | cons octet text inductionHypothesis =>
      rw [run_cons, step_inert (inert octet (.head _))]
      cases text with
      | nil => rfl
      | cons next text =>
          apply inductionHypothesis (List.cons_ne_nil _ _)
          intro other inside
          exact inert other (.tail _ inside)

/-- A string is passed over once each of its characters is. -/
theorem run_characters
    {characters : List Octets}
    (derived : ∀ character ∈ characters, IsCharacter character)
    (passes : ∀ character, IsCharacter character →
      Mode.text.run character = .text) :
    Mode.text.run characters.flatten = .text := by
  induction characters with
  | nil => rfl
  | cons character characters inductionHypothesis =>
      rw [List.flatten_cons, run_append,
        passes character (derived character (.head _))]
      apply inductionHypothesis
      intro other inside
      exact derived other (.tail _ inside)

/-- Characters that stand for themselves in a string. -/
def IsRaw (octet : UInt8) : Prop :=
  32 ≤ octet ∧ octet ≠ 34 ∧ octet ≠ 92

/-- Inside a string a row of ordinary octets stays inside. -/
theorem run_raw
    {text : Octets}
    (raw : ∀ octet ∈ text, IsRaw octet) :
    Mode.text.run text = .text := by
  induction text with
  | nil => rfl
  | cons octet text inductionHypothesis =>
      obtain ⟨printable, notQuote, notBackslash⟩ := raw octet (.head _)
      have noControl : isControl octet = false := by
        simp [isControl, UInt8.lt_iff_toNat_lt, UInt8.le_iff_toNat_le] at *
        omega
      have stays : Mode.text.step octet = .text := by
        simp [Mode.step, noControl, notQuote, notBackslash]
      rw [run_cons, stays]
      apply inductionHypothesis
      intro other inside
      exact raw other (.tail _ inside)

theorem isRaw_of_toNat
    {octet : UInt8}
    (printable : 32 ≤ octet.toNat)
    (notQuote : octet.toNat ≠ 34)
    (notBackslash : octet.toNat ≠ 92) :
    IsRaw octet := by
  refine ⟨by simpa [UInt8.le_iff_toNat_le] using printable, ?_, ?_⟩ <;>
    · rintro rfl
      contradiction

/-- A printable character that is neither quotation mark nor backslash is
encoded with such octets only. -/
theorem isRaw_utf8EncodeChar
    {character : Char}
    (printable : 32 ≤ character.toNat)
    (notQuote : character ≠ '"')
    (notBackslash : character ≠ '\\')
    {octet : UInt8}
    (member : octet ∈ String.utf8EncodeChar character) :
    IsRaw octet := by
  rcases utf8EncodeChar_cases character with
    ⟨ascii, encoded⟩ | ⟨-, large⟩
  · rw [encoded, List.mem_singleton] at member
    have same : octet.toNat = character.toNat := by
      rw [member, UInt8.toNat_ofNat']
      omega
    apply isRaw_of_toNat <;> rw [same]
    · exact printable
    · intro equal
      exact notQuote (Char.toNat_inj.mp equal)
    · intro equal
      exact notBackslash (Char.toNat_inj.mp equal)
  · have bound := large octet member
    apply isRaw_of_toNat <;> omega

theorem isRaw_hexDigit
    {octet : UInt8}
    (hex : IsHexDigit octet) :
    IsRaw octet := by
  simp only [IsHexDigit, IsDigit, UInt8.le_iff_toNat_le] at hex
  simp at hex
  apply isRaw_of_toNat <;> omega

/-- A character of a string, escaped or not, stays inside. -/
theorem run_character
    {text : Octets}
    (character : IsCharacter text) :
    Mode.text.run text = .text := by
  cases character with
  | unescaped character printable notQuote notBackslash =>
      apply run_raw
      intro octet member
      exact isRaw_utf8EncodeChar printable notQuote notBackslash member
  | escaped letter known =>
      simp only [List.mem_cons, List.not_mem_nil, or_false] at known
      rcases known with rfl | rfl | rfl | rfl | rfl | rfl | rfl | rfl <;>
        decide
  | unicode digits four hex =>
      have begins : (Mode.text.step 92).step 117 = .text := by decide
      rw [run_cons, run_cons, begins]
      apply run_raw
      intro octet member
      exact isRaw_hexDigit (hex octet member)

/-- A string is left where it was entered. -/
theorem run_string
    {text : Octets}
    (string : IsString text)
    (afterColon : Bool) :
    (Mode.code afterColon).run text = .code false := by
  obtain ⟨characters, derived, rfl⟩ := string
  have begins : (Mode.code afterColon).step 34 = .text := by
    cases afterColon <;> decide
  rw [run_cons, begins, run_append, run_characters derived fun _ => run_character]
  decide

theorem isInert_of_toNat
    {octet : UInt8}
    (large : 32 < octet.toNat)
    (notQuote : octet.toNat ≠ 34)
    (notComma : octet.toNat ≠ 44)
    (notColon : octet.toNat ≠ 58)
    (notBrace : octet.toNat ≠ 125) :
    IsInert octet := by
  refine ⟨by simpa [UInt8.lt_iff_toNat_lt] using large, ?_, ?_, ?_, ?_⟩ <;>
    · rintro rfl
      contradiction

/-- So is a literal. -/
theorem run_literal
    {text : Octets}
    (literal : IsLiteral text)
    (afterColon : Bool) :
    (Mode.code afterColon).run text = .code false := by
  rcases literal with rfl | rfl | rfl <;> cases afterColon <;> decide

theorem isInert_numberOctet
    {octet : UInt8}
    (numberOctet : IsNumberOctet octet) :
    IsInert octet := by
  rcases numberOctet with digit | sign
  · simp only [IsDigit, UInt8.le_iff_toNat_le] at digit
    simp at digit
    apply isInert_of_toNat <;> omega
  · simp only [List.mem_cons, List.not_mem_nil, or_false] at sign
    rcases sign with rfl | rfl | rfl | rfl | rfl <;>
      apply isInert_of_toNat <;> decide

/-- So is a number. -/
theorem run_number
    {text : Octets}
    (number : IsNumber text)
    (afterColon : Bool) :
    (Mode.code afterColon).run text = .code false := by
  obtain ⟨nonempty, octets⟩ := numberOctet_number number
  apply run_inert nonempty
  intro octet member
  exact isInert_numberOctet (octets octet member)

/-- The structural characters other than the colon leave no colon behind. -/
theorem run_opening
    {octet : UInt8}
    (opens : octet = 123 ∨ octet = 91)
    {text : Octets}
    (token : IsToken octet text)
    (afterColon : Bool) :
    (Mode.code afterColon).run text = .code false := by
  apply run_token token
  rcases opens with rfl | rfl <;> cases afterColon <;> decide

/-- A closing bracket or a comma, with the blanks around it, breaks nothing
where no colon is open. -/
theorem run_closing
    {octet : UInt8}
    (closes : octet = 125 ∨ octet = 93 ∨ octet = 44)
    {text : Octets}
    (token : IsToken octet text) :
    (Mode.code false).run text = .code false := by
  apply run_token token
  rcases closes with rfl | rfl | rfl <;> decide

/-- Behind a colon, with the blanks around it, a value is due. -/
theorem run_colon
    {text : Octets}
    (token : IsToken 58 text) :
    (Mode.code false).run text = .code true := by
  apply run_token token
  decide

/-- No derived text breaks the automaton. -/
theorem run_derives
    {symbol : Symbol}
    {text : Octets}
    (derives : Derives symbol text)
    (afterColon : Bool) :
    (Mode.code afterColon).run text = .code false := by
  induction derives generalizing afterColon with
  | literal literal => exact run_literal literal afterColon
  | number number => exact run_number number afterColon
  | string string => exact run_string string afterColon
  | ofObject _ inductionHypothesis => exact inductionHypothesis afterColon
  | ofArray _ inductionHypothesis => exact inductionHypothesis afterColon
  | emptyObject opens closes =>
      rw [run_append, run_opening (.inl rfl) opens,
        run_closing (.inl rfl) closes]
  | object opens _ closes inductionHypothesis =>
      rw [run_append, run_append, run_opening (.inl rfl) opens,
        inductionHypothesis, run_closing (.inl rfl) closes]
  | member string separates _ inductionHypothesis =>
      rw [run_append, run_append, run_string string, run_colon separates,
        inductionHypothesis]
  | memberCons _ separates _ first rest =>
      rw [run_append, run_append, first,
        run_closing (.inr (.inr rfl)) separates, rest]
  | emptyArray opens closes =>
      rw [run_append, run_opening (.inr rfl) opens,
        run_closing (.inr (.inl rfl)) closes]
  | array opens _ closes inductionHypothesis =>
      rw [run_append, run_append, run_opening (.inr rfl) opens,
        inductionHypothesis, run_closing (.inr (.inl rfl)) closes]
  | element _ inductionHypothesis => exact inductionHypothesis afterColon
  | elementCons _ separates _ first rest =>
      rw [run_append, run_append, first,
        run_closing (.inr (.inr rfl)) separates, rest]

end Mode

end Rfc8259
