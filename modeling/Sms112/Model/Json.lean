import Sms112.Model.Octets

/-!
# The JSON report

`sms112_json.cpp`: a list of attributes is printed as one JSON object. Values
are escaped in place: the loop replaces the character at its index and moves
the index over the text it has inserted.
-/

namespace Sms112

/-- The table `msoRepl`: what is replaced, and by what. -/
def replSym : List (UInt8 × Octets) :=
  [(34, [92, 34]), (47, [92, 47]), (92, [92, 92]), (12, [92, 102]),
    (10, [92, 110]), (13, [92, 114]), (9, [92, 116])]

/-- The outer loop of `sms112_escape_spec_sym` from index `st`, for at most
`fuel` rounds. -/
def escapeLoop : (fuel st : Nat) → Octets → Option Octets
  | fuel, st, value =>
      if inside : st < value.length then
        match fuel with
        | 0 => none
        | fuel + 1 =>
            match replSym.lookup value[st] with
            | some strBy =>
                escapeLoop fuel (st + (strBy.length - 1) + 1)
                  (value.take st ++ strBy ++ value.drop (st + 1))
            | none => escapeLoop fuel (st + 1) value
      else some value

/-- `sms112_escape_spec_sym`: every character of the value takes one round. -/
def escapeSpecSym (value : Octets) : Octets :=
  (escapeLoop value.length 0 value).getD value

/-- The replacement of one character. -/
def escapeSym (octet : UInt8) : Octets :=
  (replSym.lookup octet).getD [octet]

theorem replSym_length_pos
    {octet : UInt8}
    {strBy : Octets}
    (found : replSym.lookup octet = some strBy) :
    0 < strBy.length := by
  obtain ⟨front, back, equal, -⟩ := List.lookup_eq_some_iff.mp found
  have member : (octet, strBy) ∈ replSym := by simp [equal]
  simp only [replSym, List.mem_cons, Prod.mk.injEq, List.not_mem_nil,
    or_false] at member
  rcases member with ⟨-, rfl⟩ | ⟨-, rfl⟩ | ⟨-, rfl⟩ | ⟨-, rfl⟩ | ⟨-, rfl⟩ |
    ⟨-, rfl⟩ | ⟨-, rfl⟩ <;> decide

/-- Before a round the text up to the index is escaped and the rest is the
original; the round moves one original character over. -/
theorem escapeLoop_step
    (fuel : Nat)
    (done rest : Octets)
    (octet : UInt8) :
    escapeLoop (fuel + 1) done.length (done ++ octet :: rest) =
      escapeLoop fuel (done ++ escapeSym octet).length
        (done ++ escapeSym octet ++ rest) := by
  have inside : done.length < (done ++ octet :: rest).length := by
    simp
  have current : (done ++ octet :: rest)[done.length] = octet := by
    simp
  rw [escapeLoop, dif_pos inside]
  simp only [current]
  cases found : replSym.lookup octet with
  | none => simp [escapeSym, found]
  | some strBy =>
      have positive := replSym_length_pos found
      -- the index moves over the inserted text, not into it
      have index : done.length + (strBy.length - 1) + 1 =
          (done ++ strBy).length := by
        rw [List.length_append]
        omega
      have text : (done ++ octet :: rest).take done.length ++ strBy ++
          (done ++ octet :: rest).drop (done.length + 1) =
            done ++ strBy ++ rest := by
        simp
      simp only [index, text, escapeSym, found, Option.getD_some]

/-- The loop takes one round for every original character. -/
theorem escapeLoop_rounds
    (fuel : Nat)
    (done rest : Octets) :
    escapeLoop fuel done.length (done ++ rest) =
      if rest.length ≤ fuel then some (done ++ rest.flatMap escapeSym)
      else none := by
  induction rest generalizing fuel done with
  | nil =>
      rw [escapeLoop]
      simp
  | cons octet rest inductionHypothesis =>
      cases fuel with
      | zero =>
          rw [escapeLoop]
          simp
      | succ fuel =>
          rw [escapeLoop_step, inductionHypothesis, List.flatMap_cons,
            List.length_cons, List.append_assoc]
          simp only [Nat.add_le_add_iff_right]

/-- As many rounds as there are characters are enough. -/
theorem escapeLoop_eq (done rest : Octets) :
    escapeLoop rest.length done.length (done ++ rest) =
      some (done ++ rest.flatMap escapeSym) := by
  rw [escapeLoop_rounds, if_pos (Nat.le_refl _)]

/-- Escaping in place maps every character to its replacement. -/
theorem escapeSpecSym_eq (value : Octets) :
    escapeSpecSym value = value.flatMap escapeSym := by
  have loop := escapeLoop_eq [] value
  simp only [List.length_nil, List.nil_append] at loop
  rw [escapeSpecSym, loop, Option.getD_some]

/-- `SParamDescr`: the name of an attribute, and whether it is quoted. -/
structure SParamDescr where
  pszName : Octets
  iType : Int
  deriving DecidableEq

/-- One attribute of the object. -/
def jsonAttr (param : Option Octets) (descr : SParamDescr) : Octets :=
  let quote := if descr.iType ≠ 0 then ascii "\"" else []
  ascii "\"" ++ descr.pszName ++ ascii "\":" ++ quote ++
    (match param with
      | some value => escapeSpecSym value
      | none => []) ++ quote

/-- The loop of `sms112_make_json`: all attributes but the first follow a
comma. -/
def jsonAttrs : Bool → List (Option Octets) → List SParamDescr → Octets
  | first, param :: params, descr :: descrs =>
      (if first then [] else ascii ",") ++ jsonAttr param descr ++
        jsonAttrs false params descrs
  | _, _, _ => []

/-- `sms112_make_json`. -/
def makeJson (params : List (Option Octets)) (descrs : List SParamDescr) :
    Octets :=
  ascii "\x7b" ++ jsonAttrs true params descrs ++ ascii "\x7d"

end Sms112
