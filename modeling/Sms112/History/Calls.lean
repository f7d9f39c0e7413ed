import Mathlib.Data.List.TakeWhile

/-!
# Histories of calls

A history lists events, the newest first. A history that has grown keeps what
it recorded; what a view of it shows changes only with events the view shows.

Calls are bracketed by the event that opens and the event that closes them. In
a history in which every closing event belongs to a call, two calls are the
same or one of them was over when the other began.
-/

namespace History

variable {Event : Type}

/-! ## Growing histories -/

/-- The history has grown by events of a kind. -/
def Grows (kind : Event → Prop) (before after : List Event) : Prop :=
  ∃ events, after = events ++ before ∧ ∀ event ∈ events, kind event

namespace Grows

variable {kind other : Event → Prop}
variable {before middle after : List Event}

theorem refl
    (kind : Event → Prop)
    (history : List Event) :
    Grows kind history history :=
  ⟨[], rfl, List.forall_mem_nil kind⟩

theorem trans
    (earlier : Grows kind before middle)
    (later : Grows kind middle after) :
    Grows kind before after := by
  obtain ⟨front, rfl, frontKind⟩ := earlier
  obtain ⟨back, rfl, backKind⟩ := later
  refine ⟨back ++ front, (List.append_assoc _ _ _).symm, ?_⟩
  intro event member
  rcases List.mem_append.mp member with inBack | inFront
  · exact backKind event inBack
  · exact frontKind event inFront

theorem mono
    (grows : Grows kind before after)
    (implies : ∀ event, kind event → other event) :
    Grows other before after := by
  obtain ⟨events, equal, all⟩ := grows
  exact ⟨events, equal, fun event member => implies event (all event member)⟩

theorem cons
    {event : Event}
    (isKind : kind event)
    (history : List Event) :
    Grows kind history (event :: history) := by
  refine ⟨[event], rfl, fun other member => ?_⟩
  rw [List.mem_singleton.mp member]
  exact isKind

theorem of_eq (same : after = before) : Grows kind before after :=
  same ▸ refl kind before

theorem mem
    (grows : Grows kind before after)
    {event : Event}
    (member : event ∈ before) :
    event ∈ after := by
  obtain ⟨events, rfl, -⟩ := grows
  exact List.mem_append_right events member

/-- An event of the grown history is new or was there before. -/
theorem mem_or
    (grows : Grows kind before after)
    {event : Event}
    (member : event ∈ after) :
    kind event ∨ event ∈ before := by
  obtain ⟨events, rfl, all⟩ := grows
  exact (List.mem_append.mp member).imp (all event) id

/-- Events that are not selected do not change the selection. -/
theorem filter
    (grows : Grows kind before after)
    {select : Event → Bool}
    (hidden : ∀ event, kind event → select event = false) :
    after.filter select = before.filter select := by
  obtain ⟨events, rfl, all⟩ := grows
  rw [List.filter_append, List.filter_eq_nil_iff.mpr, List.nil_append]
  intro event member
  rw [hidden event (all event member)]
  exact Bool.false_ne_true

/-- Behind the newest event that is not skipped nothing changes. -/
theorem dropWhile
    (grows : Grows kind before after)
    {skip : Event → Bool}
    (skipped : ∀ event, kind event → skip event) :
    after.dropWhile skip = before.dropWhile skip := by
  obtain ⟨events, rfl, all⟩ := grows
  rw [List.dropWhile_append_of_pos]
  exact fun event member => skipped event (all event member)

/-- The newest event that is seen stays the same. -/
theorem findSome
    {Value : Type}
    (grows : Grows kind before after)
    {view : Event → Option Value}
    (hidden : ∀ event, kind event → view event = none) :
    after.findSome? view = before.findSome? view := by
  obtain ⟨events, rfl, all⟩ := grows
  rw [List.findSome?_append, List.findSome?_eq_none_iff.mpr, Option.none_or]
  exact fun event member => hidden event (all event member)

end Grows

/-! ## Calls -/

/-- The events that open and close calls. -/
structure Brackets (Event : Type) where
  opens : Event → Bool
  closes : Event → Bool
  different : ∀ event, opens event → closes event = false

/-- A call: the event that closed it, what happened during it, the event that
opened it, and what happened before. -/
structure Call (Event : Type) where
  last : Event
  during : List Event
  first : Event
  before : List Event

/-- The history up to the end of the call. -/
def Call.history (call : Call Event) : List Event :=
  call.last :: (call.during ++ call.first :: call.before)

namespace Brackets

variable (brackets : Brackets Event)

/-- The event neither opens nor closes a call. -/
def Inner (event : Event) : Prop :=
  brackets.opens event = false ∧ brackets.closes event = false

/-- The events since the newest call began. -/
def current (history : List Event) : List Event :=
  history.takeWhile fun event => !brackets.opens event

/-- A call the history records. -/
structure Records (history : List Event) (call : Call Event) : Prop where
  opened : brackets.opens call.first
  closed : brackets.closes call.last
  inner : ∀ event ∈ call.during, brackets.Inner event
  recorded : call.history <:+ history

/-- A call has begun and has not ended. -/
def Open (history : List Event) : Prop :=
  (∃ event ∈ history, brackets.opens event) ∧
    ∀ event ∈ brackets.current history, brackets.closes event = false

/-- Every event that closes a call belongs to one, and every call is good. -/
def Each (good : Event → List Event → Prop) (history : List Event) : Prop :=
  ∀ last earlier, last :: earlier <:+ history → brackets.closes last →
    ∃ call, brackets.Records history call ∧
      call.history = last :: earlier ∧ good call.last call.during

variable {brackets}
variable {kind : Event → Prop} {before after history : List Event}

/-- Only an event that opens a call forgets the current one. -/
theorem current_grows
    (grows : Grows kind before after)
    (inside : ∀ event, kind event → brackets.opens event = false) :
    Grows kind (brackets.current before) (brackets.current after) := by
  obtain ⟨events, rfl, all⟩ := grows
  refine ⟨events, ?_, all⟩
  unfold current
  rw [List.takeWhile_append_of_pos]
  intro event member
  rw [inside event (all event member)]
  rfl

theorem current_cons_of_opens
    {event : Event}
    (opens : brackets.opens event)
    (history : List Event) :
    brackets.current (event :: history) = [] := by
  unfold current
  rw [List.takeWhile_cons_of_neg]
  rw [opens]
  exact Bool.false_ne_true

theorem open_cons
    {event : Event}
    (opens : brackets.opens event)
    (history : List Event) :
    brackets.Open (event :: history) := by
  refine ⟨⟨event, List.mem_cons_self, opens⟩, ?_⟩
  rw [current_cons_of_opens opens]
  exact List.forall_mem_nil _

theorem Open.grows
    (isOpen : brackets.Open before)
    (grows : Grows kind before after)
    (inner : ∀ event, kind event → brackets.Inner event) :
    brackets.Open after := by
  obtain ⟨⟨event, member, opens⟩, noEnd⟩ := isOpen
  refine ⟨⟨event, grows.mem member, opens⟩, fun event member => ?_⟩
  rcases (current_grows grows fun event isKind =>
    (inner event isKind).1).mem_or member with isNew | old
  · exact (inner event isNew).2
  · exact noEnd event old

/-- The current call, if it ends now. -/
theorem Open.call
    (isOpen : brackets.Open history)
    {last : Event}
    (closes : brackets.closes last) :
    ∃ call, brackets.Records (last :: history) call ∧
      call.history = last :: history ∧
      call.last = last ∧ call.during = brackets.current history := by
  obtain ⟨⟨event, member, opens⟩, noEnd⟩ := isOpen
  cases rest : history.dropWhile fun event => !brackets.opens event with
  | nil =>
      have all := List.dropWhile_eq_nil_iff.mp rest event member
      rw [opens] at all
      cases all
  | cons first before =>
      have split : brackets.current history ++ first :: before = history := by
        unfold current
        rw [← rest]
        exact List.takeWhile_append_dropWhile
      have opened : brackets.opens first := by
        have stops := List.head_dropWhile_not
          (fun event => !brackets.opens event)
          (by rw [rest]; exact List.cons_ne_nil first before)
        simpa only [rest, List.head_cons, Bool.not_eq_false'] using stops
      refine ⟨⟨last, brackets.current history, first, before⟩,
        ⟨opened, closes, fun event member => ⟨?_, noEnd event member⟩, ?_⟩,
        congrArg (last :: ·) split, rfl, rfl⟩
      · simpa using List.mem_takeWhile_imp member
      · exact (congrArg (last :: ·) split).symm ▸ List.suffix_refl _

/-- What happened during a call is what was current when it ended. -/
theorem Records.during_eq
    {call : Call Event}
    (records : brackets.Records history call) :
    call.during =
      brackets.current (call.during ++ call.first :: call.before) := by
  unfold current
  rw [List.takeWhile_append_of_pos, List.takeWhile_cons_of_neg,
    List.append_nil]
  · rw [records.opened]
    exact Bool.false_ne_true
  · intro event member
    rw [(records.inner event member).1]
    rfl

theorem Each.nil (good : Event → List Event → Prop) :
    brackets.Each good [] := by
  intro last earlier isSuffix
  cases List.suffix_nil.mp isSuffix

/-- An event that closes no call. -/
theorem Each.cons
    {good : Event → List Event → Prop}
    {event : Event}
    (each : brackets.Each good history)
    (inside : brackets.closes event = false) :
    brackets.Each good (event :: history) := by
  intro last earlier isSuffix closes
  rcases List.suffix_cons_iff.mp isSuffix with newest | older
  · obtain ⟨rfl, -⟩ := List.cons.inj newest
    rw [inside] at closes
    cases closes
  · obtain ⟨call, ⟨opened, closed, inner, recorded⟩, equal, isGood⟩ :=
      each last earlier older closes
    exact ⟨call, ⟨opened, closed, inner,
      recorded.trans (List.suffix_cons event history)⟩, equal, isGood⟩

theorem Each.grows
    {good : Event → List Event → Prop}
    (each : brackets.Each good before)
    (grows : Grows kind before after)
    (inside : ∀ event, kind event → brackets.closes event = false) :
    brackets.Each good after := by
  obtain ⟨events, rfl, all⟩ := grows
  induction events with
  | nil => exact each
  | cons event events inductionHypothesis =>
      refine Each.cons (inductionHypothesis fun other member =>
        all other (.tail _ member)) ?_
      exact inside event (all event List.mem_cons_self)

/-- The current call ends, and it is good. -/
theorem Each.close
    {good : Event → List Event → Prop}
    (each : brackets.Each good history)
    (isOpen : brackets.Open history)
    {last : Event}
    (closes : brackets.closes last)
    (isGood : good last (brackets.current history)) :
    brackets.Each good (last :: history) := by
  intro other earlier isSuffix otherCloses
  rcases List.suffix_cons_iff.mp isSuffix with newest | older
  · obtain ⟨call, records, equal, sameLast, during⟩ := isOpen.call closes
    refine ⟨call, records, equal.trans newest.symm, ?_⟩
    rw [sameLast, during]
    exact isGood
  · obtain ⟨call, ⟨opened, closed, inner, recorded⟩, equal, isGood⟩ :=
      each other earlier older otherCloses
    exact ⟨call, ⟨opened, closed, inner,
      recorded.trans (List.suffix_cons last history)⟩, equal, isGood⟩

/-- What closes a call inside the history of another one closed that one or
was there before it. -/
theorem Records.suffix_cases
    {call : Call Event}
    (records : brackets.Records history call)
    {last : Event}
    {earlier : List Event}
    (closes : brackets.closes last)
    (isSuffix : last :: earlier <:+ call.history) :
    last :: earlier = call.history ∨ last :: earlier <:+ call.before := by
  obtain ⟨_, during, first, before⟩ := call
  obtain ⟨opened, -, inner, -⟩ := records
  refine (List.suffix_cons_iff.mp isSuffix).imp id fun inside => ?_
  clear isSuffix
  induction during with
  | nil =>
      rcases List.suffix_cons_iff.mp inside with atFirst | older
      · obtain ⟨rfl, -⟩ := List.cons.inj atFirst
        rw [brackets.different last opened] at closes
        cases closes
      · exact older
  | cons event during inductionHypothesis =>
      rcases List.suffix_cons_iff.mp inside with here | older
      · obtain ⟨rfl, -⟩ := List.cons.inj here
        rw [(inner last List.mem_cons_self).2] at closes
        cases closes
      · exact inductionHypothesis opened
          (fun other member => inner other (.tail _ member)) older

/-- Of two calls the history records, one was over when the other began. -/
theorem Records.apart
    {call other : Call Event}
    (records : brackets.Records history call)
    (recordsOther : brackets.Records history other) :
    call.history = other.history ∨ call.history <:+ other.before ∨
      other.history <:+ call.before := by
  rcases List.suffix_or_suffix_of_suffix records.recorded
    recordsOther.recorded with inOther | inCall
  · exact (recordsOther.suffix_cases records.closed inOther).imp id .inl
  · exact (records.suffix_cases recordsOther.closed inCall).imp Eq.symm .inr

end Brackets

end History
