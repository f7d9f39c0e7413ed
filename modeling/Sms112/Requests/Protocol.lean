import Sms112.Handler.Calls
import Mathlib.Data.List.Nodup
import Mathlib.Data.List.Perm.Subperm

/-!
# The protocol of the waiting requests

A request is an object on the stack of the thread that sends it. While its
`sms112_smpp_send` call runs, a pointer to it may be in the store or in the
hands of the receiver thread; once the call has returned, none may be left.
This holds in runs in which every wait ends with the response and no `send`
fails behind the registration. The invariant and the interference that each
thread tolerates are stated here, and what the operations do to them.
-/

namespace Sms112

open Resumption

/-! ## Statements about a state -/

/-- A pointer to the object is in the store or held by the receiver. -/
def Linked (state : State) (owner : Nat) : Prop :=
  owner ∈ state.mapReq.owners ∨ owner ∈ state.held

instance (state : State) (owner : Nat) : Decidable (Linked state owner) := by
  unfold Linked
  infer_instance

/-- Every registered or held request belongs to a call in progress, there are
no more of them than calls, and no number is refused to a request that is
alone. -/
structure RequestsLive (state : State) : Prop where
  registered : ∀ entry ∈ state.mapReq,
    ∃ thread, (thread, entry.2.owner) ∈ state.sending
  held : ∀ owner ∈ state.held, ∃ thread, (thread, owner) ∈ state.sending
  bounded : state.mapReq.length ≤ state.sending.length
  accepted : ∀ seqNum, Event.storRefused seqNum 0 ∉ state.log

/-- The response has been received when the wait ends, and a `send` by which
`sms112_smpp_send` would give up does not fail while its request is
registered. -/
def Answering : Machine.Condition Op Thread Choice State
  | _, .timedLockReq pointer _, _, state =>
      (state.request pointer).any fun data => !data.locked
  | thread, .send data, choice, state =>
      let (iFnRes, errno) := (state.send thread data choice).1
      equalsUnsigned iFnRes data.length ∨ errno = 0 ∨
        ∀ entry ∈ state.sending, entry.1 = thread → ¬Linked state entry.2
  | _, _, _, _ => True

instance (thread : Thread) (operation : Op) (choice : Choice)
    (state : State) :
    Decidable (Answering thread operation choice state) := by
  unfold Answering
  split <;> infer_instance

/-! ## The protocol -/

/-- The invariant of the store, the objects and the calls in progress. -/
structure RequestsInv (state : State) : Prop where
  sending : ∀ owner, Linked state owner →
    ∃ thread, (thread, owner) ∈ state.sending
  once : (state.mapReq.owners ++ state.held).Nodup
  live : ∀ entry ∈ state.mapReq,
    ∃ data, state.request entry.2 = some data ∧ data.owner = entry.2.owner
  locked : ∀ addr data, state.requests.lookup addr = some data →
    Linked state data.owner → data.locked
  known : ∀ entry ∈ state.sending, entry.2 < state.nextOwner
  fresh : ∀ addr data, state.requests.lookup addr = some data →
    data.owner < state.nextOwner
  unique : ∀ addr data other data',
    state.requests.lookup addr = some data →
      state.requests.lookup other = some data' →
        data.owner = data'.owner → addr = other
  accepted : ∀ seqNum, Event.storRefused seqNum 0 ∉ state.log

/-- The objects that satisfy a condition stay where they are, with their
identities. -/
def KeepsObjects (which : SReqData → Prop) (before after : State) : Prop :=
  ∀ addr data, before.requests.lookup addr = some data → which data →
    ∃ later, after.requests.lookup addr = some later ∧
      later.owner = data.owner ∧ later.creator = data.creator

/-- What a thread tolerates: its objects stay, and locked while they are not
linked, its calls stay in progress, and nobody else links its objects. What
the receiver holds is its own. -/
structure Tolerates (thread : Thread) (before after : State) : Prop where
  objects : KeepsObjects (fun data => data.creator = thread) before after
  locked : ∀ addr data later, before.requests.lookup addr = some data →
    after.requests.lookup addr = some later → data.creator = thread →
      ¬Linked before data.owner → data.locked → later.locked
  sending : ∀ owner, (thread, owner) ∈ before.sending →
    (thread, owner) ∈ after.sending
  linked : ∀ addr data, before.requests.lookup addr = some data →
    data.creator = thread → Linked after data.owner →
      Linked before data.owner
  held : thread = .receiver → after.held = before.held ∧
    KeepsObjects (fun data => data.owner ∈ before.held) before after

theorem KeepsObjects.of_eq
    {which : SReqData → Prop}
    {before after : State}
    (same : after.requests = before.requests) :
    KeepsObjects which before after :=
  fun _ data found _ => ⟨data, by rw [same]; exact found, rfl, rfl⟩

namespace Tolerates

theorem trans
    {thread : Thread}
    {first second third : State}
    (before : Tolerates thread first second)
    (after : Tolerates thread second third) :
    Tolerates thread first third where
  objects addr data found own := by
    obtain ⟨later, foundLater, owner, creator⟩ :=
      before.objects addr data found own
    obtain ⟨last, foundLast, ownerLast, creatorLast⟩ :=
      after.objects addr later foundLater (creator.trans own)
    exact ⟨last, foundLast, ownerLast.trans owner,
      creatorLast.trans creator⟩
  locked addr data last found foundLast own unlinked locked := by
    obtain ⟨later, foundLater, owner, creator⟩ :=
      before.objects addr data found own
    have unlinkedLater : ¬Linked second later.owner := by
      rw [owner]
      exact fun linked =>
        unlinked (before.linked addr data found own linked)
    exact after.locked addr later last foundLater foundLast
      (creator.trans own) unlinkedLater
      (before.locked addr data later found foundLater own unlinked locked)
  sending owner member := after.sending owner (before.sending owner member)
  linked addr data found own linked := by
    obtain ⟨later, foundLater, owner, creator⟩ :=
      before.objects addr data found own
    have earlier := after.linked addr later foundLater (creator.trans own)
    rw [owner] at earlier
    exact before.linked addr data found own (earlier linked)
  held receiver := by
    obtain ⟨same, keeps⟩ := before.held receiver
    obtain ⟨sameLater, keepsLater⟩ := after.held receiver
    refine ⟨sameLater.trans same, fun addr data found own => ?_⟩
    obtain ⟨later, foundLater, owner, creator⟩ := keeps addr data found own
    obtain ⟨last, foundLast, ownerLast, creatorLast⟩ :=
      keepsLater addr later foundLater
        (show later.owner ∈ _ by rw [owner, same]; exact own)
    exact ⟨last, foundLast, ownerLast.trans owner,
      creatorLast.trans creator⟩

/-- A step that leaves the objects alone. -/
theorem of_requests_eq
    {thread : Thread}
    {before after : State}
    (requests : after.requests = before.requests)
    (sending : ∀ owner, (thread, owner) ∈ before.sending →
      (thread, owner) ∈ after.sending)
    (linked : ∀ addr data, before.requests.lookup addr = some data →
      data.creator = thread → Linked after data.owner →
        Linked before data.owner)
    (held : thread = .receiver → after.held = before.held) :
    Tolerates thread before after where
  objects := .of_eq requests
  locked addr data later found foundLater _ _ locked := by
    rw [requests, found] at foundLater
    cases foundLater
    exact locked
  sending := sending
  linked := linked
  held receiver := ⟨held receiver, .of_eq requests⟩

theorem refl (thread : Thread) (state : State) :
    Tolerates thread state state :=
  .of_requests_eq rfl (fun _ member => member)
    (fun _ _ _ _ linked => linked) (fun _ => rfl)

end Tolerates

/-- The protocol of the waiting requests. -/
def requestProtocol : Protocol Thread State where
  inv := RequestsInv
  rely := Tolerates
  rely_refl := Tolerates.refl
  rely_trans _ _ _ _ := Tolerates.trans

theorem RequestsInv.requestsLive
    {state : State}
    (inv : RequestsInv state) :
    RequestsLive state := by
  refine ⟨fun entry member => ?_, fun owner member => ?_, ?_, inv.accepted⟩
  · exact inv.sending _ (.inl (List.mem_map_of_mem member))
  · exact inv.sending _ (.inr member)
  · have once : state.mapReq.owners.Nodup := List.Nodup.of_append_left inv.once
    have inside : state.mapReq.owners ⊆ state.sending.map Prod.snd := by
      intro owner member
      obtain ⟨thread, sending⟩ := inv.sending owner (.inl member)
      exact List.mem_map_of_mem sending
    calc state.mapReq.length
        = state.mapReq.owners.length := (List.length_map _).symm
      _ ≤ (state.sending.map Prod.snd).length :=
          (List.subperm_of_subset once inside).length_le
      _ = state.sending.length := List.length_map _

end Sms112
