import Sms112.Model.Octets

/-!
# Counted strings

`pj_str_t` and the functions of pjlib that the program builds its requests
with. The memory of a string reaches from its pointer to wherever the area
ends; nothing in the type says how much of it belongs to the string.
-/

namespace Sms112

/-- `pj_str_t` -/
structure PjStr where
  ptr : Option Octets
  slen : Nat
  deriving DecidableEq

/-- The memory from the pointer on. -/
def PjStr.memory (str : PjStr) : Octets :=
  str.ptr.getD []

/-- The `slen` characters of a string. -/
def PjStr.chars (str : PjStr) : Octets :=
  str.memory.take str.slen

/-- The C string at an address, which is empty at a null pointer. -/
def pjAnsiStr (source : Option Octets) : Octets :=
  cString (source.getD [])

/-- `pj_ansi_strlen` -/
def pjAnsiStrlen (source : Option Octets) : Nat :=
  (pjAnsiStr source).length

/-- `pj_strset2` -/
def pjStrset2 (memory : Octets) : PjStr where
  ptr := some memory
  slen := pjAnsiStrlen (some memory)

/-- `pj_strcat2`: the source is copied behind the string, however long. -/
def pjStrcat2 (dst : PjStr) (source : Option Octets) : PjStr where
  ptr := dst.ptr.map fun memory =>
    memory.take dst.slen ++ pjAnsiStr source ++
      memory.drop (dst.slen + pjAnsiStrlen source)
  slen := dst.slen + pjAnsiStrlen source

/-- The sources of a list as one text. -/
def pjAnsiStrs (sources : List (Option Octets)) : Octets :=
  sources.flatMap pjAnsiStr

theorem not_mem_cString (memory : Octets) :
    0 ∉ cString memory := by
  intro member
  have nonzero := List.mem_takeWhile_imp member
  simp at nonzero

theorem not_mem_pjAnsiStrs (sources : List (Option Octets)) :
    0 ∉ pjAnsiStrs sources := by
  intro member
  obtain ⟨source, -, inside⟩ := List.mem_flatMap.mp member
  exact not_mem_cString _ inside

/-- One append behind the text that was appended before. -/
theorem pjStrcat2_eq
    (done rest : Octets)
    (source : Option Octets) :
    pjStrcat2 ⟨some (done ++ rest), done.length⟩ source =
      ⟨some (done ++ pjAnsiStr source ++
          rest.drop (pjAnsiStrlen source)),
        (done ++ pjAnsiStr source).length⟩ := by
  simp [pjStrcat2, pjAnsiStrlen, List.drop_append]

/-- Appends from the start of an area write their sources one behind the
other and leave what lies behind them. -/
theorem foldl_pjStrcat2
    (sources : List (Option Octets))
    (done rest : Octets) :
    sources.foldl pjStrcat2 ⟨some (done ++ rest), done.length⟩ =
      ⟨some (done ++ pjAnsiStrs sources ++
          rest.drop (pjAnsiStrs sources).length),
        (done ++ pjAnsiStrs sources).length⟩ := by
  induction sources generalizing done rest with
  | nil => simp [pjAnsiStrs]
  | cons source sources inductionHypothesis =>
      rw [List.foldl_cons, pjStrcat2_eq, inductionHypothesis]
      simp [pjAnsiStrs, pjAnsiStrlen]

end Sms112
