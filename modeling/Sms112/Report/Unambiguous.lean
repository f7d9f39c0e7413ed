import Sms112.Model.Json

/-!
# The report is unambiguous

A scanner that ends a string at the first quote behind an even run of
backslashes, and then undoes the escapes, reads back every attribute that
`sms112_make_json` has printed.
-/

namespace Sms112

/-! ## The scanner -/

/-- The text up to the quote that ends a string, and what follows the quote;
`run` is the length of the run of backslashes read last. -/
def scanString : (run : Nat) → Octets → Option (Octets × Octets)
  | _, [] => none
  | run, octet :: rest =>
      if octet = 34 ∧ run % 2 = 0 then some ([], rest)
      else
        (scanString (if octet = 92 then run + 1 else 0) rest).map
          fun found => (octet :: found.1, found.2)

/-- The character that an escape stands for. -/
def unescapeSym : UInt8 → Option UInt8
  | 34 => some 34
  | 47 => some 47
  | 92 => some 92
  | 102 => some 12
  | 110 => some 10
  | 114 => some 13
  | 116 => some 9
  | _ => none

/-- Undo the escapes of a string. -/
def unescape : Octets → Option Octets
  | [] => some []
  | 92 :: octet :: rest =>
      match unescapeSym octet with
      | some value => (unescape rest).map (value :: ·)
      | none => none
  | octet :: rest =>
      if octet = 92 then none else (unescape rest).map (octet :: ·)

/-- A quoted string and what follows it. -/
def scanQuoted : Octets → Option (Octets × Octets)
  | 34 :: rest =>
      match scanString 0 rest with
      | some (raw, rest) => (unescape raw).map fun value => (value, rest)
      | none => none
  | _ => none

/-- The name and the value of an attribute, and what follows it. -/
def scanAttr (text : Octets) : Option ((Octets × Octets) × Octets) :=
  match scanQuoted text with
  | some (name, 58 :: rest) =>
      (scanQuoted rest).map fun value => ((name, value.1), value.2)
  | _ => none

/-- At most `fuel` attributes up to the end of the object. -/
def scanAttrs : (fuel : Nat) → Octets → Option (List (Octets × Octets))
  | 0, _ => none
  | fuel + 1, text =>
      match scanAttr text with
      | some (attr, [125]) => some [attr]
      | some (attr, 44 :: rest) => (scanAttrs fuel rest).map (attr :: ·)
      | _ => none

/-- The attributes of a report. -/
def scanReport : Octets → Option (List (Octets × Octets))
  | [123, 125] => some []
  | 123 :: rest => scanAttrs rest.length rest
  | _ => none

/-! ## One string -/

/-- A replaced character is a backslash and the letter it is undone by. -/
theorem escapeSym_cases (octet : UInt8) :
    (∃ letter, escapeSym octet = [92, letter] ∧
      unescapeSym letter = some octet) ∨
      escapeSym octet = [octet] ∧ octet ≠ 34 ∧ octet ≠ 92 := by
  unfold escapeSym
  cases found : replSym.lookup octet with
  | none =>
      refine .inr ⟨rfl, ?_, ?_⟩ <;>
        · rintro rfl
          cases found
  | some strBy =>
      obtain ⟨front, back, equal, -⟩ := List.lookup_eq_some_iff.mp found
      have member : (octet, strBy) ∈ replSym := by simp [equal]
      simp only [replSym, List.mem_cons, Prod.mk.injEq, List.not_mem_nil,
        or_false] at member
      rcases member with ⟨rfl, rfl⟩ | ⟨rfl, rfl⟩ | ⟨rfl, rfl⟩ | ⟨rfl, rfl⟩ |
        ⟨rfl, rfl⟩ | ⟨rfl, rfl⟩ | ⟨rfl, rfl⟩ <;>
        exact .inl ⟨_, rfl, rfl⟩

/-- The scanner passes over an escaped character, and the run of backslashes
behind it is even again. -/
theorem scanString_escapeSym
    (octet : UInt8)
    {run : Nat}
    (even : run % 2 = 0)
    (rest : Octets) :
    ∃ after, after % 2 = 0 ∧
      scanString run (escapeSym octet ++ rest) =
        (scanString after rest).map
          fun found => (escapeSym octet ++ found.1, found.2) := by
  rcases escapeSym_cases octet with
    ⟨letter, escaped, -⟩ | ⟨plain, notQuote, notBackslash⟩
  · rw [escaped]
    refine ⟨if letter = 92 then run + 2 else 0, ?_, ?_⟩
    · split <;> omega
    · have odd : (run + 1) % 2 ≠ 0 := by omega
      simp only [List.cons_append, List.nil_append, scanString, odd,
        and_false, if_false, if_true, Option.map_map]
      simp [Function.comp_def]
  · rw [plain]
    refine ⟨0, rfl, ?_⟩
    simp [scanString, notQuote, notBackslash]

/-- An escaped text ends at its closing quote. -/
theorem scanString_escaped
    (value : Octets)
    {run : Nat}
    (even : run % 2 = 0)
    (rest : Octets) :
    scanString run (value.flatMap escapeSym ++ 34 :: rest) =
      some (value.flatMap escapeSym, rest) := by
  induction value generalizing run with
  | nil => simp [scanString, even]
  | cons octet value inductionHypothesis =>
      obtain ⟨after, evenAfter, scanned⟩ := scanString_escapeSym octet even
        (value.flatMap escapeSym ++ 34 :: rest)
      rw [List.flatMap_cons, List.append_assoc, scanned,
        inductionHypothesis evenAfter, Option.map_some]

theorem unescape_escapeSym
    (octet : UInt8)
    (rest : Octets) :
    unescape (escapeSym octet ++ rest) =
      (unescape rest).map (octet :: ·) := by
  rcases escapeSym_cases octet with
    ⟨letter, escaped, undone⟩ | ⟨plain, -, notBackslash⟩
  · rw [escaped]
    simp [unescape, undone]
  · rw [plain, List.singleton_append, unescape, if_neg notBackslash]
    intro _ _ equal
    exact absurd equal notBackslash

/-- Undoing the escapes gives the value back. -/
theorem unescape_escaped (value : Octets) :
    unescape (value.flatMap escapeSym) = some value := by
  induction value with
  | nil => simp [unescape]
  | cons octet value inductionHypothesis =>
      rw [List.flatMap_cons, unescape_escapeSym, inductionHypothesis,
        Option.map_some]

/-- A value that is printed as a string is read back. -/
theorem scanQuoted_escaped (value rest : Octets) :
    scanQuoted (34 :: (escapeSpecSym value ++ 34 :: rest)) =
      some (value, rest) := by
  rw [escapeSpecSym_eq]
  simp only [scanQuoted, scanString_escaped value (Nat.zero_mod 2) rest,
    unescape_escaped, Option.map_some]

/-! ## A name -/

/-- A text without quotes and backslashes. -/
def IsPlain (text : Octets) : Prop :=
  34 ∉ text ∧ 92 ∉ text

instance (text : Octets) : Decidable (IsPlain text) :=
  inferInstanceAs (Decidable (_ ∧ _))

theorem IsPlain.of_cons
    {octet : UInt8}
    {text : Octets}
    (plain : IsPlain (octet :: text)) :
    (octet ≠ 34 ∧ octet ≠ 92) ∧ IsPlain text := by
  simp only [IsPlain, List.mem_cons, not_or] at plain ⊢
  exact ⟨⟨Ne.symm plain.1.1, Ne.symm plain.2.1⟩, plain.1.2, plain.2.2⟩

theorem scanString_plain
    {text : Octets}
    (plain : IsPlain text)
    (rest : Octets) :
    scanString 0 (text ++ 34 :: rest) = some (text, rest) := by
  induction text with
  | nil => simp [scanString]
  | cons octet text inductionHypothesis =>
      obtain ⟨⟨notQuote, notBackslash⟩, plainRest⟩ := plain.of_cons
      simp [scanString, notQuote, notBackslash,
        inductionHypothesis plainRest]

theorem unescape_plain
    {text : Octets}
    (plain : IsPlain text) :
    unescape text = some text := by
  induction text with
  | nil => simp [unescape]
  | cons octet text inductionHypothesis =>
      obtain ⟨⟨-, notBackslash⟩, plainRest⟩ := plain.of_cons
      rw [unescape, if_neg notBackslash, inductionHypothesis plainRest,
        Option.map_some]
      intro _ _ equal
      exact absurd equal notBackslash

/-- A name is printed as it is, and read back. -/
theorem scanQuoted_plain
    {text : Octets}
    (plain : IsPlain text)
    (rest : Octets) :
    scanQuoted (34 :: (text ++ 34 :: rest)) = some (text, rest) := by
  simp only [scanQuoted, scanString_plain plain, unescape_plain plain,
    Option.map_some]

/-! ## The attributes -/

/-- The name of an attribute, and the value of its parameter: nothing for
`NULL`. -/
def reported (param : Option Octets) (descr : SParamDescr) :
    Octets × Octets :=
  (descr.pszName, param.getD [])

/-- A quoted attribute, character by character. -/
theorem jsonAttr_quoted
    (param : Option Octets)
    {descr : SParamDescr}
    (quoted : descr.iType ≠ 0)
    (rest : Octets) :
    jsonAttr param descr ++ rest =
      34 :: (descr.pszName ++ 34 :: 58 :: 34 ::
        (escapeSpecSym (param.getD []) ++ 34 :: rest)) := by
  have quote : ascii "\"" = [34] := by decide
  have separator : ascii "\":" = [34, 58] := by decide
  cases param <;>
    simp [jsonAttr, quoted, quote, separator, escapeSpecSym_eq]

theorem scanAttr_jsonAttr
    (param : Option Octets)
    {descr : SParamDescr}
    (quoted : descr.iType ≠ 0)
    (plain : IsPlain descr.pszName)
    (rest : Octets) :
    scanAttr (jsonAttr param descr ++ rest) =
      some (reported param descr, rest) := by
  rw [jsonAttr_quoted param quoted]
  simp only [scanAttr, scanQuoted_plain plain, scanQuoted_escaped,
    Option.map_some, reported]

theorem length_jsonAttr_pos
    (param : Option Octets)
    (descr : SParamDescr) :
    0 < (jsonAttr param descr).length := by
  have quote : ascii "\"" = [34] := by decide
  simp only [jsonAttr, quote, List.length_append, List.length_cons]
  omega

/-- The attributes behind a first one, with the end of the object. -/
theorem scanAttrs_jsonAttrs
    {params : List (Option Octets)}
    {descrs : List SParamDescr}
    (quoted : ∀ descr ∈ descrs, descr.iType ≠ 0)
    (plain : ∀ descr ∈ descrs, IsPlain descr.pszName)
    (param : Option Octets)
    {descr : SParamDescr}
    (firstQuoted : descr.iType ≠ 0)
    (firstPlain : IsPlain descr.pszName)
    {fuel : Nat}
    (enough : (jsonAttrs false params descrs).length < fuel) :
    scanAttrs fuel
        (jsonAttr param descr ++ (jsonAttrs false params descrs ++ [125])) =
      some (reported param descr ::
        List.zipWith reported params descrs) := by
  have comma : ascii "," = [44] := by decide
  induction params generalizing descrs param descr fuel with
  | nil =>
      obtain ⟨fuel, rfl⟩ : ∃ less, fuel = less + 1 := ⟨fuel - 1, by omega⟩
      simp [scanAttrs, jsonAttrs, scanAttr_jsonAttr param firstQuoted
        firstPlain]
  | cons next params inductionHypothesis =>
      obtain ⟨fuel, rfl⟩ : ∃ less, fuel = less + 1 := ⟨fuel - 1, by omega⟩
      cases descrs with
      | nil =>
          simp [scanAttrs, jsonAttrs, scanAttr_jsonAttr param firstQuoted
            firstPlain]
      | cons nextDescr descrs =>
          have shorter : (jsonAttrs false params descrs).length < fuel := by
            simp only [jsonAttrs, comma, Bool.false_eq_true, if_false,
              List.length_append, List.length_cons] at enough
            omega
          have following := inductionHypothesis
            (fun other inside => quoted other (.tail _ inside))
            (fun other inside => plain other (.tail _ inside)) next
            (quoted nextDescr (.head _)) (plain nextDescr (.head _)) shorter
          have text : jsonAttrs false (next :: params) (nextDescr :: descrs) ++
              [125] = 44 :: (jsonAttr next nextDescr ++
                (jsonAttrs false params descrs ++ [125])) := by
            simp [jsonAttrs, comma]
          rw [text, scanAttrs, scanAttr_jsonAttr param firstQuoted firstPlain]
          simp only [following, Option.map_some, List.zipWith_cons_cons]

theorem scanReport_attributes
    {descrs : List SParamDescr}
    (quoted : ∀ descr ∈ descrs, descr.iType ≠ 0)
    (plain : ∀ descr ∈ descrs, IsPlain descr.pszName)
    (params : List (Option Octets)) :
    scanReport (makeJson params descrs) =
      some (List.zipWith reported params descrs) := by
  have opening : ascii "\x7b" = [123] := by decide
  have closing : ascii "\x7d" = [125] := by decide
  cases params with
  | nil => simp [makeJson, jsonAttrs, opening, closing, scanReport]
  | cons param params =>
      cases descrs with
      | nil => simp [makeJson, jsonAttrs, opening, closing, scanReport]
      | cons descr descrs =>
          have positive := length_jsonAttr_pos param descr
          have enough : (jsonAttrs false params descrs).length <
              (jsonAttr param descr ++
                (jsonAttrs false params descrs ++ [125])).length := by
            simp only [List.length_append]
            omega
          have scanned := scanAttrs_jsonAttrs
            (fun other inside => quoted other (.tail _ inside))
            (fun other inside => plain other (.tail _ inside)) param
            (quoted descr (.head _)) (plain descr (.head _)) enough
          have text : makeJson (param :: params) (descr :: descrs) =
              123 :: (jsonAttr param descr ++
                (jsonAttrs false params descrs ++ [125])) := by
            simp [makeJson, jsonAttrs, opening, closing]
          rw [jsonAttr_quoted param (quoted descr (.head _))] at text scanned
          rw [text, List.zipWith_cons_cons]
          exact scanned

/-- The report of quoted attributes with plain names is read back whole: each
attribute in order, with its name and its value. -/
theorem scanReport_makeJson
    (params : List (Option Octets))
    (descrs : List SParamDescr)
    (quoted : ∀ descr ∈ descrs, descr.iType ≠ 0)
    (plain : ∀ descr ∈ descrs, IsPlain descr.pszName) :
    ∃ attributes, scanReport (makeJson params descrs) = some attributes ∧
      attributes.length = min params.length descrs.length ∧
      attributes = List.zipWith reported params descrs :=
  ⟨_, scanReport_attributes quoted plain params, List.length_zipWith, rfl⟩

/-- A report whose text ends with a backslash and a quote. -/
theorem scanReport_makeJson_quoted :
    ∃ attributes, scanReport (makeJson
        [some (ascii "SMS"), none, some (ascii "a\\"), some (ascii "\\\"")]
        [⟨ascii "EventType", 1⟩, ⟨ascii "EventDate", 1⟩,
          ⟨ascii "TextMessage", 1⟩]) = some attributes ∧
      attributes.length = 3 ∧
      attributes = [(ascii "EventType", ascii "SMS"), (ascii "EventDate", []),
        (ascii "TextMessage", ascii "a\\")] :=
  scanReport_makeJson _ _ (by decide) (by decide)

end Sms112
