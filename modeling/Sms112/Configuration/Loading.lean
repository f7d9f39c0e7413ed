import Sms112.Model.LoadConf

/-!
# Faithful loading

A configuration is loaded faithfully if it is either refused or has every
number as it is written. `sms112_load_conf` does so for numbers made of digits
that fit their fields, and otherwise only where a missing parameter ends it
first.
-/

namespace Sms112

/-! ## Numbers made of digits -/

/-- A decimal number: digits and nothing else. -/
def IsDecimal (value : Octets) : Prop :=
  value ≠ [] ∧ ∀ octet ∈ value, isDigit octet = true

instance (value : Octets) : Decidable (IsDecimal value) :=
  inferInstanceAs (Decidable (_ ∧ _))

theorem IsDecimal.cString_eq
    {value : Octets}
    (digits : IsDecimal value) :
    cString value = value := by
  rw [cString_eq_self_iff]
  intro terminator
  exact absurd (digits.2 0 terminator) (by decide)

theorem isDigit_range
    {octet : UInt8}
    (digit : isDigit octet = true) :
    48 ≤ octet.toNat ∧ octet.toNat ≤ 57 := by
  unfold isDigit at digit
  rw [decide_eq_true_iff, UInt8.le_iff_toNat_le, UInt8.le_iff_toNat_le]
    at digit
  exact digit

/-- A digit is neither a blank nor a sign. -/
theorem isDigit_plain
    {octet : UInt8}
    (digit : isDigit octet = true) :
    isSpace octet = false ∧ octet ≠ 43 ∧ octet ≠ 45 := by
  have range := isDigit_range digit
  refine ⟨?_, ?_, ?_⟩
  · unfold isSpace
    rw [decide_eq_false_iff_not]
    rintro (rfl | ⟨-, low⟩)
    · exact absurd range.1 (by decide)
    · rw [UInt8.le_iff_toNat_le] at low
      exact absurd (Nat.le_trans range.1 low) (by decide)
  · rintro rfl
    exact absurd range.1 (by decide)
  · rintro rfl
    exact absurd range.1 (by decide)

/-- Of a decimal number `std::stoul` takes all of it. -/
theorem stoul_decimal
    {value : Octets}
    (digits : IsDecimal value) :
    stoul value =
      if digitsValue value < 2 ^ 64 then .ok (digitsValue value)
      else .error .outOfRange := by
  obtain ⟨nonempty, all⟩ := digits
  have whole : value.takeWhile isDigit = value :=
    List.takeWhile_eq_self_iff.mpr all
  unfold stoul
  rw [IsDecimal.cString_eq ⟨nonempty, all⟩]
  cases value with
  | nil => exact absurd rfl nonempty
  | cons octet rest =>
      obtain ⟨notBlank, notPlus, notMinus⟩ := isDigit_plain (all octet (.head _))
      have kept : (octet :: rest).dropWhile isSpace = octet :: rest := by
        rw [List.dropWhile_cons, notBlank]
        rfl
      simp [kept, notPlus, notMinus, whole]

/-! ## How far the loading gets -/

/-- A parameter the loading does not stop at. -/
def ConfParam.present
    (param : ConfParam)
    (stored : Octets → Option Octets) : Bool :=
  !param.mandatory || (stored param.name).isSome

/-- If the parameter is a number and stored, `std::stoul` takes its value. -/
def ConfParam.Parses
    (param : ConfParam)
    (stored : Octets → Option Octets) : Prop :=
  ∀ field, param.field = .number field →
    ∀ value, stored param.name = some value →
      ∃ number, stoul value = .ok number

/-- A parameter is stored unless `std::stoul` throws. -/
theorem storeParam_ok_iff
    (stored : Octets → Option Octets)
    (conf : SConf)
    {param : ConfParam}
    {value : Octets}
    (found : stored param.name = some value) :
    (∃ later, storeParam conf value param.field = .ok later) ↔
      param.Parses stored := by
  unfold ConfParam.Parses
  cases stores : param.field with
  | string set =>
      exact iff_of_true ⟨_, rfl⟩ fun field number => nomatch number
  | number field =>
      cases parsed : stoul value with
      | ok number =>
          refine iff_of_true ⟨field.set conf (number % 2 ^ field.bits), ?_⟩ ?_
          · simp only [storeParam, parsed]
            rfl
          · intro _ _ other sought
            obtain rfl := Option.some.inj (found.symm.trans sought)
            exact ⟨number, parsed⟩
      | error exception =>
          refine iff_of_false ?_ fun parses => ?_
          · rintro ⟨later, ok⟩
            simp only [storeParam, parsed] at ok
            exact nomatch ok
          · obtain ⟨number, ok⟩ := parses field rfl value found
            exact nomatch parsed.symm.trans ok

/-- The loading returns exactly if every number asked for before it stops is
one that `std::stoul` takes. -/
theorem loadParams_returned_iff
    (stored : Octets → Option Octets)
    (params : List ConfParam)
    (conf : SConf) :
    (∃ code later, loadParams stored params conf = .returned code later) ↔
      ∀ param ∈ params.takeWhile (·.present stored), param.Parses stored := by
  induction params generalizing conf with
  | nil => exact iff_of_true ⟨0, conf, rfl⟩ (List.forall_mem_nil _)
  | cons param params inductionHypothesis =>
      rw [loadParams, List.takeWhile_cons]
      cases found : stored param.name with
      | none =>
          have parses : param.Parses stored := by
            intro _ _ value sought
            exact nomatch found.symm.trans sought
          cases mandatory : param.mandatory with
          | true => simp [ConfParam.present, found, mandatory]
          | false =>
              simp [ConfParam.present, mandatory, parses,
                inductionHypothesis conf]
      | some value =>
          have present : param.present stored = true := by
            simp [ConfParam.present, found]
          rw [present, if_pos rfl, List.forall_mem_cons,
            ← storeParam_ok_iff stored conf found]
          dsimp only
          cases storing : storeParam conf value param.field with
          | ok later =>
              rw [inductionHypothesis later]
              exact ⟨fun rest => ⟨⟨later, rfl⟩, rest⟩, fun both => both.2⟩
          | error exception =>
              refine iff_of_false ?_ ?_
              · rintro ⟨code, later, returned⟩
                exact nomatch returned
              · rintro ⟨⟨later, ok⟩, -⟩
                exact nomatch ok

/-- A loading that returns succeeds exactly if no mandatory parameter is
missing. -/
theorem loadParams_code_eq_zero_iff
    {stored : Octets → Option Octets}
    {params : List ConfParam}
    {conf later : SConf}
    {code : Int}
    (returned : loadParams stored params conf = .returned code later) :
    code = 0 ↔ ∀ param ∈ params, param.present stored = true := by
  induction params generalizing conf with
  | nil =>
      obtain ⟨rfl, -⟩ := LoadEnd.returned.inj returned
      exact iff_of_true rfl (List.forall_mem_nil _)
  | cons param params inductionHypothesis =>
      rw [loadParams] at returned
      rw [List.forall_mem_cons]
      split at returned
      next value found =>
        have present : param.present stored = true := by
          simp [ConfParam.present, found]
        split at returned
        next stores =>
          rw [inductionHypothesis returned]
          exact (and_iff_right present).symm
        next throws => exact nomatch returned
      next found =>
        split at returned
        next mandatory =>
          obtain ⟨rfl, -⟩ := LoadEnd.returned.inj returned
          refine iff_of_false (by decide) fun all => ?_
          have present := all.1
          simp [ConfParam.present, found, mandatory] at present
        next optional =>
          have present : param.present stored = true := by
            simp [ConfParam.present, optional]
          rw [inductionHypothesis returned]
          exact (and_iff_right present).symm

/-! ## What is left in the numbers -/

/-- The number a parameter is stored in, if it is one. -/
def ConfParam.number? (param : ConfParam) : Option NumberField :=
  match param.field with
  | .number field => some field
  | .string _ => none

/-- Storing a text leaves the numbers alone. -/
def ConfParam.KeepsNumbers (param : ConfParam) : Prop :=
  ∀ set, param.field = .string set →
    ∀ conf value, ∀ read : NumberField,
      read.get (set conf value) = read.get conf

/-- A parameter stored elsewhere leaves a number alone. -/
theorem storeParam_get_of_ne
    {param : ConfParam}
    {conf later : SConf}
    {value : Octets}
    {read : NumberField}
    (keeps : param.KeepsNumbers)
    (elsewhere : param.number? ≠ some read)
    (stores : storeParam conf value param.field = .ok later) :
    read.get later = read.get conf := by
  unfold ConfParam.number? at elsewhere
  cases into : param.field with
  | string set =>
      rw [into] at stores
      obtain rfl := Except.ok.inj stores
      exact keeps set into conf (cString value) read
  | number field =>
      rw [into] at stores elsewhere
      have other : field ≠ read := fun equal => elsewhere (by rw [equal])
      simp only [storeParam] at stores
      cases parsed : stoul value with
      | ok number =>
          rw [parsed] at stores
          obtain rfl := Except.ok.inj stores
          rw [NumberField.get_set, if_neg other]
      | error exception =>
          rw [parsed] at stores
          exact nomatch stores

/-- A number no parameter is stored in keeps its value. -/
theorem loadParams_get_of_ne
    {stored : Octets → Option Octets}
    {params : List ConfParam}
    {conf later : SConf}
    {read : NumberField}
    (keeps : ∀ param ∈ params, param.KeepsNumbers)
    (elsewhere : ∀ param ∈ params, param.number? ≠ some read)
    (returned : loadParams stored params conf = .returned 0 later) :
    read.get later = read.get conf := by
  induction params generalizing conf with
  | nil =>
      obtain ⟨-, rfl⟩ := LoadEnd.returned.inj returned
      rfl
  | cons param params inductionHypothesis =>
      rw [List.forall_mem_cons] at keeps elsewhere
      rw [loadParams] at returned
      split at returned
      next value found =>
        split at returned
        next next_conf stores =>
          rw [inductionHypothesis keeps.2 elsewhere.2 returned,
            storeParam_get_of_ne keeps.1 elsewhere.1 stores]
        next throws => exact nomatch returned
      next missing =>
        split at returned
        next mandatory => exact nomatch returned
        next optional =>
          exact inductionHypothesis keeps.2 elsewhere.2 returned

/-- After a loading that succeeds a number is what `std::stoul` made of its
parameter, cut to the width of the field. -/
theorem loadParams_get
    {stored : Octets → Option Octets}
    {params : List ConfParam}
    {conf later : SConf}
    {read : NumberField}
    (keeps : ∀ param ∈ params, param.KeepsNumbers)
    (distinct : (params.filterMap ConfParam.number?).Nodup)
    (asked : numberParam read ∈ params)
    (returned : loadParams stored params conf = .returned 0 later) :
    ∃ value number, stored read.param = some value ∧
      stoul value = .ok number ∧
      read.get later = number % 2 ^ read.bits := by
  induction params generalizing conf with
  | nil => exact nomatch asked
  | cons param params inductionHypothesis =>
      have keepsRest := (List.forall_mem_cons.mp keeps).2
      have distinctRest := distinct.sublist
        ((List.sublist_cons_self param params).filterMap ConfParam.number?)
      rw [loadParams] at returned
      rcases List.mem_cons.mp asked with rfl | later_asked
      · have elsewhere : ∀ param ∈ params, param.number? ≠ some read := by
          intro param member stores
          rw [List.filterMap_cons] at distinct
          exact (List.nodup_cons.mp distinct).1
            (List.mem_filterMap.mpr ⟨param, member, stores⟩)
        split at returned
        next value found =>
          dsimp only [numberParam, storeParam] at returned
          cases parsed : stoul value with
          | ok number =>
              rw [parsed] at returned
              refine ⟨value, number, found, parsed, ?_⟩
              rw [loadParams_get_of_ne keepsRest elsewhere returned,
                NumberField.get_set, if_pos rfl]
          | error exception =>
              rw [parsed] at returned
              exact nomatch returned
        next missing => exact nomatch returned
      · split at returned
        next value found =>
          split at returned
          next stores =>
            exact inductionHypothesis keepsRest distinctRest later_asked
              returned
          next throws => exact nomatch returned
        next missing =>
          split at returned
          next mandatory => exact nomatch returned
          next optional =>
            exact inductionHypothesis keepsRest distinctRest later_asked
              returned

theorem confParams_keepNumbers :
    ∀ param ∈ confParams, param.KeepsNumbers := by
  have text : ∀ (name : Octets) (mandatory : Bool)
      (set : SConf → Octets → SConf),
      (∀ conf value, ∀ read : NumberField,
        read.get (set conf value) = read.get conf) →
      (⟨name, mandatory, .string set⟩ : ConfParam).KeepsNumbers := by
    intro name mandatory set keeps other equal
    obtain rfl := ConfField.string.inj equal
    exact keeps
  have number : ∀ field, (numberParam field).KeepsNumbers :=
    fun field set equal => nomatch equal
  simp only [confParams, List.forall_mem_cons]
  refine ⟨?_, number _, number _, ?_, ?_, ?_, ?_, ?_, number _, ?_, ?_, ?_,
    number _, ?_, ?_, ?_, ?_, ?_, ?_, ?_, ?_, number _,
    List.forall_mem_nil _⟩ <;>
    exact text _ _ _ fun _ _ read => by cases read <;> rfl

theorem confParams_distinct :
    (confParams.filterMap ConfParam.number?).Nodup := by
  have numbers : confParams.filterMap ConfParam.number? =
      [.smppPort, .smppEnqLinkSpan, .sipSrvPort, .sipLocalPort,
        .sipTimeout] := rfl
  rw [numbers]
  decide

theorem numberParam_mem_confParams (field : NumberField) :
    numberParam field ∈ confParams := by
  cases field <;> simp [confParams]

/-! ## Faithful loading -/

/-- A decimal number within the width of its field. -/
def NumberField.Holds (field : NumberField) (value : Octets) : Prop :=
  IsDecimal value ∧ digitsValue value < 2 ^ field.bits

/-- The call returns. If it succeeds every number is the one written for it,
and it fails where what is written is no decimal number or does not fit. -/
def LoadsFaithfully
    (stored : Octets → Option Octets)
    (result : LoadEnd) : Prop :=
  ∃ code conf, result = .returned code conf ∧
    (code = 0 → ∀ field : NumberField, ∃ value,
      stored field.param = some value ∧ IsDecimal value ∧
        field.get conf = digitsValue value) ∧
    ∀ field : NumberField, ∀ value, stored field.param = some value →
      ¬ field.Holds value → code ≠ 0

/-- Every number before the first missing mandatory parameter is one that
`std::stoul` takes, and if none is missing all numbers are decimal and fit
their fields. -/
def Loadable (stored : Octets → Option Octets) : Prop :=
  (∀ param ∈ confParams.takeWhile (·.present stored),
    param.Parses stored) ∧
  ((∀ param ∈ confParams, param.present stored = true) →
    ∀ field : NumberField, ∀ value, stored field.param = some value →
      field.Holds value)

theorem NumberField.bits_le (field : NumberField) :
    2 ^ field.bits ≤ 2 ^ 64 := by
  cases field <;> decide

/-- The value read of a decimal number that fits is that number. -/
theorem NumberField.Holds.stoul_eq
    {field : NumberField}
    {value : Octets}
    (holds : field.Holds value) :
    stoul value = .ok (digitsValue value) := by
  rw [stoul_decimal holds.1,
    if_pos (Nat.lt_of_lt_of_le holds.2 field.bits_le)]

theorem loadConf_faithful_iff
    (stored : Octets → Option Octets)
    (conf : SConf) :
    LoadsFaithfully stored (loadConf (some (0, stored)) conf) ↔
      Loadable stored := by
  have unfolded : loadConf (some (0, stored)) conf =
      loadParams stored confParams conf := rfl
  rw [unfolded]
  constructor
  · rintro ⟨code, later, returned, written, refused⟩
    refine ⟨(loadParams_returned_iff stored confParams conf).mp
      ⟨code, later, returned⟩, fun all field value found => ?_⟩
    by_contra notHeld
    exact refused field value found notHeld
      ((loadParams_code_eq_zero_iff returned).mpr all)
  · rintro ⟨parses, complete⟩
    obtain ⟨code, later, returned⟩ :=
      (loadParams_returned_iff stored confParams conf).mpr parses
    have succeeds_iff := loadParams_code_eq_zero_iff returned
    refine ⟨code, later, returned, ?_, ?_⟩
    · intro succeeds field
      obtain ⟨value, number, found, parsed, left⟩ :=
        loadParams_get confParams_keepNumbers confParams_distinct
          (numberParam_mem_confParams field) (succeeds ▸ returned)
      have holds := complete (succeeds_iff.mp succeeds) field value found
      obtain rfl := Except.ok.inj (parsed.symm.trans holds.stoul_eq)
      exact ⟨value, found, holds.1, left.trans (Nat.mod_eq_of_lt holds.2)⟩
    · intro field value found notHeld succeeds
      exact notHeld (complete (succeeds_iff.mp succeeds) field value found)

/-- Every parameter is 1 but the port of the SMPP server. -/
def storedWithPort (port : Octets) (name : Octets) : Option Octets :=
  if name = ascii "SMPPPort" then some port else some (ascii "1")

/-- A port that is no number ends the loading by an exception, and one that
does not fit is cut off. -/
theorem loadConf_unfaithful :
    ¬ LoadsFaithfully (storedWithPort (ascii "port"))
      (loadConf (some (0, storedWithPort (ascii "port"))) {}) ∧
    ¬ LoadsFaithfully (storedWithPort (ascii "70000"))
      (loadConf (some (0, storedWithPort (ascii "70000"))) {}) := by
  constructor
  · have threw : ∃ conf, loadConf (some (0, storedWithPort (ascii "port")))
        {} = .threw .invalidArgument conf := ⟨_, rfl⟩
    obtain ⟨conf, threw⟩ := threw
    rintro ⟨code, later, returned, -⟩
    exact nomatch threw.symm.trans returned
  · have cut : ∃ conf, loadConf (some (0, storedWithPort (ascii "70000")))
        {} = .returned 0 conf := ⟨_, rfl⟩
    obtain ⟨conf, cut⟩ := cut
    rintro ⟨code, later, returned, -, refused⟩
    obtain ⟨rfl, -⟩ := LoadEnd.returned.inj (cut.symm.trans returned)
    refine refused .smppPort (ascii "70000") rfl (fun holds => ?_) rfl
    exact absurd holds.2 (by decide)

end Sms112
