import Sms112.Handler.Stages
import Sms112.Search.Occurrence

/-!
# What is kept of an answer

The two searches of `sms112_geodata_get` find the first occurrence of their
marks, so the part cut out of an answer is the one that the marks enclose. The
request before it is for the whole expansion of the template.
-/

namespace Sms112

open Resumption
open Search (OccursAt occursAt_iff occursAt_drop_iff FirstFrom Encloses Apart
  exists_encloses_iff)

/-! ## `std::string::find` -/

theorem find_isFirst
    {needle text : Octets}
    {offset : Nat}
    (found : find needle text = some offset) :
    FirstFrom needle text 0 offset := by
  induction text generalizing offset with
  | nil =>
      rw [find] at found
      split at found
      next empty =>
        obtain rfl := Option.some.inj found
        refine ⟨Nat.le_refl 0, ?_, fun other _ _ => Nat.zero_le other⟩
        exact ⟨[], [], by rw [empty]; rfl, rfl⟩
      next nonempty => exact nomatch found
  | cons octet rest inductionHypothesis =>
      rw [find] at found
      split at found
      next here =>
        obtain rfl := Option.some.inj found
        refine ⟨Nat.le_refl 0, ?_, fun other _ _ => Nat.zero_le other⟩
        exact (occursAt_iff _ _ _).mpr
          ⟨Nat.zero_le _, List.isPrefixOf_iff_prefix.mp here⟩
      next notHere =>
        obtain ⟨before, later, rfl⟩ := Option.map_eq_some_iff.mp found
        have first := inductionHypothesis later
        have shifted : ∀ other, OccursAt needle (octet :: rest) (other + 1) ↔
            OccursAt needle rest other := by
          intro other
          rw [Nat.add_comm, ← occursAt_drop_iff _ (by simp)]
          rfl
        refine ⟨Nat.zero_le _, (shifted before).mpr first.occurs, ?_⟩
        intro other _ occurs
        cases other with
        | zero =>
            have begins := ((occursAt_iff _ _ _).mp occurs).2
            exact absurd (List.isPrefixOf_iff_prefix.mpr begins) notHere
        | succ other =>
            exact Nat.succ_le_succ (first.earliest other (Nat.zero_le _)
              ((shifted other).mp occurs))

theorem exists_find
    {needle text : Octets}
    {offset : Nat}
    (occurs : OccursAt needle text offset) :
    ∃ first, find needle text = some first := by
  induction text generalizing offset with
  | nil =>
      obtain ⟨front, back, equal, -⟩ := occurs
      have empty : needle = [] := by
        simp at equal
        exact equal.2.1
      exact ⟨0, by rw [find, if_pos empty]⟩
  | cons octet rest inductionHypothesis =>
      rw [find]
      split
      next here => exact ⟨0, rfl⟩
      next notHere =>
        cases offset with
        | zero =>
            have begins := ((occursAt_iff _ _ _).mp occurs).2
            exact absurd (List.isPrefixOf_iff_prefix.mpr begins) notHere
        | succ offset =>
            have later : OccursAt needle rest offset := by
              rw [Nat.add_comm, ← occursAt_drop_iff _ (by simp)] at occurs
              exact occurs
            obtain ⟨first, found⟩ := inductionHypothesis later
            exact ⟨first + 1, by rw [found]; rfl⟩

/-- A search from an offset inside the text finds the first occurrence behind
it. -/
theorem findFrom_eq_some_iff
    (needle : Octets)
    {text : Octets}
    {start : Nat}
    (inside : start ≤ text.length)
    (offset : Nat) :
    findFrom needle text start = some offset ↔
      FirstFrom needle text start offset := by
  have behind : ∀ found, find needle (text.drop start) = some found →
      FirstFrom needle text start (found + start) := by
    intro found searched
    have first := find_isFirst searched
    refine ⟨Nat.le_add_left _ _, ?_, fun other after occurs => ?_⟩
    · rw [Nat.add_comm, ← occursAt_drop_iff _ inside]
      exact first.occurs
    · rw [← Nat.add_sub_cancel' after, ← occursAt_drop_iff _ inside] at occurs
      have earliest := first.earliest _ (Nat.zero_le _) occurs
      omega
  rw [findFrom]
  constructor
  · intro searched
    obtain ⟨found, equal, rfl⟩ := Option.map_eq_some_iff.mp searched
    exact behind found equal
  · intro first
    have occurs := first.occurs
    rw [← Nat.add_sub_cancel' first.after, ← occursAt_drop_iff _ inside]
      at occurs
    obtain ⟨found, searched⟩ := exists_find occurs
    rw [searched, Option.map_some, (behind found searched).unique first]

/-! ## The part cut out of an answer -/

/-- The mark an answer's geodata begin with. -/
def openingTag : Octets := ascii "<presence"

/-- The mark an answer's geodata end with. -/
def closingTag : Octets := ascii "</presence>"

theorem tags_apart : Apart openingTag closingTag := by
  decide

theorem extractGeodata_eq_some_iff (result found : Octets) :
    extractGeodata result = some found ↔
      Encloses openingTag closingTag result found := by
  have opening : ∀ start, findFrom openingTag result 0 = some start ↔
      FirstFrom openingTag result 0 start :=
    findFrom_eq_some_iff openingTag (Nat.zero_le _)
  unfold extractGeodata
  constructor
  · intro extracted
    split at extracted
    next start opened =>
      have first := (opening start).mp opened
      have inside := first.occurs.le_length
      split at extracted
      next stop closed =>
        exact ⟨start, stop, first,
          (findFrom_eq_some_iff closingTag inside stop).mp closed,
          (Option.some.inj extracted).symm⟩
      next notClosed => exact nomatch extracted
    next notOpened => exact nomatch extracted
  · rintro ⟨start, stop, first, following, rfl⟩
    have inside := first.occurs.le_length
    have opened := (opening start).mpr first
    have closed := (findFrom_eq_some_iff closingTag inside stop).mpr following
    unfold openingTag at opened
    unfold closingTag at closed
    simp only [opened, closed]
    rfl

/-- Nothing is cut out exactly when no closing mark follows the first opening
one. -/
theorem extractGeodata_isSome_iff (result : Octets) :
    (extractGeodata result).isSome ↔
      ∃ start, FirstFrom openingTag result 0 start ∧
        ∃ stop, start ≤ stop ∧ OccursAt closingTag result stop := by
  rw [← exists_encloses_iff, Option.isSome_iff_exists]
  exact exists_congr (extractGeodata_eq_some_iff result)

/-! ## The answer -/

/-- The octets received are what the chunks hold, one after the other. -/
theorem curlWriteResult_eq (chunks : List Octets) :
    curlWriteResult [] chunks = chunks.flatten := by
  have appended : ∀ result, curlWriteResult result chunks =
      result ++ chunks.flatten := by
    induction chunks with
    | nil => exact fun result => (List.append_nil result).symm
    | cons chunk chunks inductionHypothesis =>
        intro result
        rw [List.flatten_cons, ← List.append_assoc]
        exact inductionHypothesis (result ++ chunk)
  exact appended []

/-- The result and the geodata left are those of an answer: the part between
the marks is kept if there is one, and otherwise nothing is changed. -/
structure IsExtraction
    (answer before : Octets)
    (code : Int)
    (after : Octets) : Prop where
  succeeds_iff : code = 0 ↔
    ∃ start, FirstFrom openingTag answer 0 start ∧
      ∃ stop, start ≤ stop ∧ OccursAt closingTag answer stop
  kept : code = 0 → Encloses openingTag closingTag answer after
  infix_of_answer : code = 0 → after <:+: answer
  closes_once : code = 0 → ∀ offset,
    OccursAt closingTag after offset ↔
      offset + closingTag.length = after.length
  again : code = 0 → extractGeodata after = some after
  untouched : code ≠ 0 → after = before

theorem IsExtraction.of_some
    {answer before found : Octets}
    (extracted : extractGeodata answer = some found) :
    IsExtraction answer before 0 found := by
  have encloses := (extractGeodata_eq_some_iff answer found).mp extracted
  refine ⟨⟨fun _ => ?_, fun _ => rfl⟩, fun _ => encloses,
    fun _ => encloses.isInfix, fun _ => encloses.occursAt_closing_iff,
    fun _ => ?_, fun failed => absurd rfl failed⟩
  · exact (extractGeodata_isSome_iff answer).mp (by rw [extracted]; rfl)
  · exact (extractGeodata_eq_some_iff found found).mpr
      (encloses.again tags_apart)

theorem IsExtraction.of_none
    {answer before : Octets}
    {code : Int}
    (failed : code ≠ 0)
    (missing : extractGeodata answer = none) :
    IsExtraction answer before code before := by
  refine ⟨⟨fun zero => absurd zero failed, fun marked => ?_⟩,
    fun zero => absurd zero failed, fun zero => absurd zero failed,
    fun zero => absurd zero failed, fun zero => absurd zero failed,
    fun _ => rfl⟩
  have found := (extractGeodata_isSome_iff answer).mpr marked
  rw [missing] at found
  exact nomatch found

/-! ## The URL -/

/-- The text printed for a look-up: what the language says of the format, or,
of a format it says nothing of, whatever the library printed. -/
def IsExpansion (format argument printed text : Octets) : Prop :=
  Printf.Expands argument format text ∨
    (¬∃ text, Printf.Expands argument format text) ∧ text = printed

theorem expansion_isExpansion
    (format argument : Octets)
    (choice : Choice) :
    IsExpansion format argument choice.data
      (expansion format argument choice) := by
  unfold expansion
  cases expanded : Printf.expand format argument with
  | some text =>
      exact .inl ((Printf.expand_eq_some_iff _ _ _).mp expanded)
  | none =>
      refine .inr ⟨?_, rfl⟩
      rintro ⟨text, expands⟩
      rw [← Printf.expand_eq_some_iff, expanded] at expands
      exact nomatch expands

/-- The result of `snprintf`, as an unsigned value, is below the size of the
buffer exactly when nothing failed and the text fits. -/
theorem snprintf_fits_iff
    {size : Nat}
    (small : size ≤ 2 ^ 31)
    (format argument : Octets)
    (choice : Choice) :
    (snprintf size format argument choice).1 % 2 ^ 64 < size ↔
      0 ≤ choice.ret ∧ (expansion format argument choice).length < size := by
  unfold snprintf
  dsimp only
  split
  next failed => omega
  next printed => omega

/-- A text that fits is stored whole. -/
theorem snprintf_stores
    {size : Nat}
    {format argument : Octets}
    {choice : Choice}
    (fits : (expansion format argument choice).length < size) :
    (snprintf size format argument choice).2 =
      expansion format argument choice :=
  List.take_of_length_le (Nat.le_sub_one_of_lt fits)

/-- The whole expansion of the template is requested if the library prints
it and it fits, and the result and the geodata are then those of the answer if
the request succeeds. In every other case nothing is requested or the request
failed, the look-up fails and the geodata are left as they were. -/
theorem geodataGet_isExact
    (conf : SConf)
    (thread : Thread)
    (oracle : Op → Choice)
    (state : State)
    (caller geoData : Octets) :
    let template := conf.geolocationURLTemplate
    let printed := oracle (.snprintf urlSize template caller)
    let outcome := (geodataGet conf (some caller) geoData).eval (exec thread)
      oracle state
    ∃ url, IsExpansion template caller printed.data url ∧
      if 0 ≤ printed.ret ∧ url.length < urlSize then
        let received := oracle (.curl url none none)
        newEvents state outcome.2 =
            [.curl url none received.ret received.chunks.flatten] ∧
          if received.ret = 0 then
            IsExtraction received.chunks.flatten geoData outcome.1.1
              outcome.1.2
          else outcome.1.1 ≠ 0 ∧ outcome.1.2 = geoData
      else
        newEvents state outcome.2 = [] ∧ outcome.1.1 ≠ 0 ∧
          outcome.1.2 = geoData := by
  intro template printed outcome
  refine ⟨expansion template caller printed,
    expansion_isExpansion template caller printed, ?_⟩
  have fits_iff : (snprintf urlSize template caller printed).1 % 2 ^ 64 <
      urlSize ↔ _ :=
    snprintf_fits_iff (by decide) template caller printed
  have prints : (call (.snprintf urlSize template caller)).eval (exec thread)
      oracle state =
        (snprintf urlSize template caller printed, state) := rfl
  have course : outcome = (geodataGet conf (some caller) geoData).eval
      (exec thread) oracle state := rfl
  unfold geodataGet at course
  dsimp only at course
  rw [Program.eval_bind_of_eq _ _ prints] at course
  by_cases fits : (snprintf urlSize template caller printed).1 % 2 ^ 64 <
      urlSize
  · rw [if_pos (fits_iff.mp fits)]
    rw [if_pos fits, snprintf_stores (fits_iff.mp fits).2] at course
    generalize expansion template caller printed = url at course
    have requested : newEvents state
        (state.note (.curl url none (oracle (.curl url none none)).ret
          (oracle (.curl url none none)).chunks.flatten)) =
          [.curl url none (oracle (.curl url none none)).ret
            (oracle (.curl url none none)).chunks.flatten] := by
      simp [newEvents, State.note]
    rw [Program.eval_bind, curlPerfRequest_eval] at course
    dsimp only at course ⊢
    by_cases succeeded : (oracle (.curl url none none)).ret = 0
    · rw [if_pos succeeded] at course ⊢
      rw [curlWriteResult_eq] at course
      cases extracted : extractGeodata
          (oracle (.curl url none none)).chunks.flatten with
      | some found =>
          rw [extracted] at course
          rw [course]
          exact ⟨requested, .of_some extracted⟩
      | none =>
          rw [extracted] at course
          rw [course]
          have failed : (-1 : Int) ≠ 0 := by decide
          exact ⟨requested, .of_none failed extracted⟩
    · rw [if_neg succeeded] at course ⊢
      rw [course]
      exact ⟨requested, succeeded, rfl⟩
  · rw [if_neg fun exact => fits (fits_iff.mpr exact)]
    rw [if_neg fits] at course
    rw [course]
    have refused : EINVAL ≠ 0 := by decide
    exact ⟨by simp [newEvents], refused, rfl⟩

/-- An opening mark inside the geodata belongs to them, and what follows the
first closing mark does not. -/
example :
    extractGeodata (ascii "<a><presence><presence></presence></presence>") =
      some (ascii "<presence><presence></presence>") := by
  decide +kernel

end Sms112
