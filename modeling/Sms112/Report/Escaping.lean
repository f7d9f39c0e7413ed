import Sms112.Model.Json

/-!
# Escaping as a character map

`sms112_escape_spec_sym` changes the string it walks over. What it leaves is
the replacement of every original character, in their order, so that it does
to a concatenation what it does to the parts.
-/

namespace Sms112

/-- From the start of any string the loop ends after as many rounds as the
string has characters, each of them replaced once. -/
theorem escapeSpecSym_isCharacterMap (value : Octets) :
    (∀ fuel, escapeLoop fuel 0 value =
      if value.length ≤ fuel then some (value.flatMap escapeSym)
      else none) ∧
    escapeSpecSym value = value.flatMap escapeSym ∧
    ∀ rest, escapeSpecSym (value ++ rest) =
      escapeSpecSym value ++ escapeSpecSym rest := by
  refine ⟨fun fuel => ?_, escapeSpecSym_eq value, fun rest => ?_⟩
  · exact escapeLoop_rounds fuel [] value
  · rw [escapeSpecSym_eq, escapeSpecSym_eq, escapeSpecSym_eq,
      List.flatMap_append]

/-- A backslash before a quotation mark: two characters, each escaped once. -/
example : escapeSpecSym [92, 34] = [92, 92, 92, 34] := by
  decide

end Sms112
