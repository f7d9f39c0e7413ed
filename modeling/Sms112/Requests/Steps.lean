import Sms112.Requests.Protocol

/-!
# What the operations do to the requests

Most operations do not touch the store, the objects or the calls in progress.
Each of the others has a lemma: it re-establishes the invariant, the other
threads tolerate it, and the acting thread learns what its next step needs.
-/

namespace Sms112

open Resumption

/-! ## Operations that touch no request -/

/-- The operations that touch neither the store nor a request. -/
def Op.isPlain : Op → Bool
  | .reqStorAdd .. | .reqStorGetAndRem _ | .newReqData | .deleteReqData _
  | .setReqBuf .. | .setReqDataLen .. | .unlockReq _ | .timedLockReq ..
  | .enterSend _ | .leaveSend _ | .note (.storRefused ..) => false
  | _ => true

/-- The requests are as they were. -/
structure SameRequests (before after : State) : Prop where
  mapReq : after.mapReq = before.mapReq
  requests : after.requests = before.requests
  held : after.held = before.held
  sending : after.sending = before.sending
  nextOwner : after.nextOwner = before.nextOwner
  refused : ∀ seqNum others, .storRefused seqNum others ∈ after.log →
    .storRefused seqNum others ∈ before.log

namespace SameRequests

variable {before after : State}

/-- The same requests are linked. -/
theorem linked_iff
    (same : SameRequests before after)
    (owner : Nat) :
    Linked after owner ↔ Linked before owner := by
  unfold Linked
  rw [same.mapReq, same.held]

/-- A step that leaves the requests alone keeps the invariant. -/
theorem inv
    (same : SameRequests before after)
    (inv : RequestsInv before) :
    RequestsInv after where
  sending owner linked := by
    rw [same.sending]
    exact inv.sending owner ((same.linked_iff owner).mp linked)
  once := by
    rw [same.mapReq, same.held]
    exact inv.once
  live entry member := by
    rw [same.mapReq] at member
    unfold State.request
    rw [same.requests]
    exact inv.live entry member
  locked addr data found linked := by
    rw [same.requests] at found
    exact inv.locked addr data found ((same.linked_iff _).mp linked)
  known entry member := by
    rw [same.sending] at member
    rw [same.nextOwner]
    exact inv.known entry member
  fresh addr data found := by
    rw [same.requests] at found
    rw [same.nextOwner]
    exact inv.fresh addr data found
  unique addr data other data' found found' owner := by
    rw [same.requests] at found found'
    exact inv.unique addr data other data' found found' owner
  accepted seqNum refused :=
    inv.accepted seqNum (same.refused seqNum 0 refused)

/-- Every thread tolerates it. -/
theorem tolerates
    (same : SameRequests before after)
    (thread : Thread) :
    Tolerates thread before after :=
  .of_requests_eq same.requests (fun _ member => by rwa [same.sending])
    (fun _ _ _ _ linked => (same.linked_iff _).mp linked)
    (fun _ => same.held)

end SameRequests

theorem Op.isPlain.untouched
    {operation : Op}
    (plain : operation.isPlain) :
    operation.writes .mapReq = false ∧ operation.writes .requests = false ∧
      operation.writes .held = false ∧ operation.writes .sending = false ∧
      operation.writes .nextOwner = false ∧
      ∀ seqNum others,
        operation.notes (.storRefused seqNum others) = false := by
  cases operation
  case note event =>
    refine ⟨rfl, rfl, rfl, rfl, rfl, fun seqNum others => ?_⟩
    cases event <;> first | rfl | simp [Op.isPlain] at plain
  case enter routine =>
    refine ⟨rfl, rfl, rfl, rfl, rfl, fun seqNum others => ?_⟩
    cases routine <;> rfl
  all_goals
    first
      | exact ⟨rfl, rfl, rfl, rfl, rfl, fun _ _ => rfl⟩
      | simp [Op.isPlain] at plain

/-- A plain operation takes such a step. -/
theorem exec_plain
    (thread : Thread)
    {operation : Op}
    (plain : operation.isPlain)
    (choice : Choice)
    (state : State) :
    SameRequests state (exec thread operation choice state).2 := by
  have frame := exec_frame thread operation choice state
  obtain ⟨mapReq, requests, held, sending, nextOwner, silent⟩ :=
    Op.isPlain.untouched plain
  refine ⟨frame .mapReq mapReq, frame .requests requests, frame .held held,
    frame .sending sending, frame .nextOwner nextOwner, ?_⟩
  intro seqNum others member
  rcases exec_notes thread operation choice state with
    same | ⟨event, noted, appended⟩
  · rwa [same] at member
  · rw [appended] at member
    rcases List.mem_cons.mp member with rfl | earlier
    · rw [silent] at noted
      cases noted
    · exact earlier

/-! ## What the threads know about a request -/

/-- The thread's object is at the pointer. -/
def Own (thread : Thread) (pointer : ReqPtr) (state : State) : Prop :=
  ∃ data, state.request pointer = some data ∧
    data.owner = pointer.owner ∧ data.creator = thread

/-- The object is not linked. -/
def Unlinked (pointer : ReqPtr) (state : State) : Prop :=
  ¬Linked state pointer.owner

/-- The object's mutex is locked. -/
def LockedAt (pointer : ReqPtr) (state : State) : Prop :=
  ∀ data, state.request pointer = some data → data.locked

/-- The call that sends the request is in progress. -/
def Sending (thread : Thread) (pointer : ReqPtr) (state : State) : Prop :=
  (thread, pointer.owner) ∈ state.sending

/-- The receiver holds the request and no other. -/
def Holds (pointer : ReqPtr) (state : State) : Prop :=
  state.held = [pointer.owner] ∧
    ∃ data, state.request pointer = some data ∧
      data.owner = pointer.owner

/-- What the receiver holds once it has looked a number up. -/
def HoldsFound (found : Option ReqPtr) (state : State) : Prop :=
  match found with
  | some pointer => Holds pointer state
  | none => state.held = []

section Stability

variable {thread : Thread} {pointer : ReqPtr}

/-- Nobody else takes a thread's object away. -/
theorem own_stable :
    requestProtocol.Stable thread (Own thread pointer) := by
  rintro before after - ⟨data, found, owner, creator⟩ rely -
  obtain ⟨later, foundLater, ownerLater, creatorLater⟩ :=
    rely.objects pointer.addr data found creator
  exact ⟨later, foundLater, ownerLater.trans owner,
    creatorLater.trans creator⟩

theorem ownUnlinkedIf_stable (condition : Prop) :
    requestProtocol.Stable thread fun state =>
      Own thread pointer state ∧ (condition → Unlinked pointer state) := by
  rintro before after invBefore ⟨own, unlinked⟩ rely invAfter
  refine ⟨own_stable before after invBefore own rely invAfter, ?_⟩
  obtain ⟨data, found, owner, creator⟩ := own
  intro holds linked
  rw [← owner] at linked
  have earlier := rely.linked pointer.addr data found creator linked
  rw [owner] at earlier
  exact unlinked holds earlier

/-- Nor does anybody else link it. -/
theorem ownUnlinked_stable :
    requestProtocol.Stable thread fun state =>
      Own thread pointer state ∧ Unlinked pointer state := by
  have stable := @ownUnlinkedIf_stable thread pointer True
  simp only [true_implies] at stable
  exact stable

theorem ready_stable :
    requestProtocol.Stable thread fun state =>
      (Own thread pointer state ∧ Unlinked pointer state) ∧
        LockedAt pointer state := by
  rintro before after invBefore ⟨own, locked⟩ rely invAfter
  refine ⟨ownUnlinked_stable before after invBefore own rely invAfter, ?_⟩
  obtain ⟨⟨data, found, owner, creator⟩, unlinked⟩ := own
  intro later foundLater
  refine rely.locked pointer.addr data later found foundLater creator ?_
    (locked data found)
  rw [owner]
  exact unlinked

theorem sending_stable :
    requestProtocol.Stable thread (Sending thread pointer) :=
  fun _ _ _ sending rely _ => rely.sending pointer.owner sending

theorem nothingHeld_stable :
    requestProtocol.Stable .receiver fun state => state.held = [] :=
  fun _ _ _ nothing rely _ => (rely.held rfl).1.trans nothing

/-- What the receiver holds stays its own. -/
theorem holds_stable :
    requestProtocol.Stable .receiver (Holds pointer) := by
  rintro before after - ⟨held, data, found, owner⟩ rely -
  obtain ⟨same, keeps⟩ := rely.held rfl
  obtain ⟨later, foundLater, ownerLater, -⟩ :=
    keeps pointer.addr data found
      (show data.owner ∈ before.held by simp [held, owner])
  exact ⟨same.trans held, later, foundLater, ownerLater.trans owner⟩

theorem holdsFound_stable (found : Option ReqPtr) :
    requestProtocol.Stable .receiver (HoldsFound found) := by
  cases found with
  | none => exact nothingHeld_stable
  | some pointer => exact holds_stable

end Stability

/-! ## Creating and deleting an object -/

section Objects

variable {state : State} {thread other : Thread} {pointer : ReqPtr}

/-- The state with a new object. -/
def withObject (thread : Thread) (addr : Nat) (state : State) : State :=
  { state with
    requests := (addr, { owner := state.nextOwner, creator := thread }) ::
      state.requests
    nextOwner := state.nextOwner + 1 }

theorem lookup_withObject (addr address : Nat) :
    (withObject thread addr state).requests.lookup address =
      if address = addr then
        some { owner := state.nextOwner, creator := thread }
      else state.requests.lookup address := by
  unfold withObject
  by_cases same : address = addr
  · simp [same]
  · have different : (address == addr) = false := by simpa using same
    simp [same, List.lookup_cons, different]

/-- An object that was there before is there still. -/
theorem lookup_withObject_of_some
    {addr address : Nat}
    {data : SReqData}
    (free : state.requests.lookup addr = none)
    (found : state.requests.lookup address = some data) :
    (withObject thread addr state).requests.lookup address = some data := by
  rw [lookup_withObject, if_neg, found]
  rintro rfl
  rw [free] at found
  cases found

/-- A number not yet given out is linked nowhere. -/
theorem RequestsInv.unlinked_nextOwner
    (inv : RequestsInv state) :
    ¬Linked state state.nextOwner := by
  intro linked
  obtain ⟨thread, sending⟩ := inv.sending _ linked
  have known := inv.known _ sending
  exact Nat.lt_irrefl _ known

/-- A new object at a free address keeps the invariant. -/
theorem RequestsInv.withObject
    (inv : RequestsInv state)
    {addr : Nat}
    (free : state.requests.lookup addr = none) :
    RequestsInv (withObject thread addr state) where
  sending := inv.sending
  once := inv.once
  live entry member := by
    obtain ⟨data, found, owner⟩ := inv.live entry member
    exact ⟨data, lookup_withObject_of_some free found, owner⟩
  locked address data found linked := by
    rw [lookup_withObject] at found
    split at found
    · cases found
      rfl
    · exact inv.locked address data found linked
  known entry member := Nat.lt_succ_of_lt (inv.known entry member)
  fresh address data found := by
    rw [lookup_withObject] at found
    split at found
    · cases found
      exact Nat.lt_succ_self _
    · exact Nat.lt_succ_of_lt (inv.fresh address data found)
  unique address data other data' found found' owner := by
    rw [lookup_withObject] at found found'
    split at found <;> split at found'
    · omega
    · cases found
      have old := inv.fresh other data' found'
      dsimp only at owner
      omega
    · cases found'
      have old := inv.fresh address data found
      dsimp only at owner
      omega
    · exact inv.unique address data other data' found found' owner
  accepted := inv.accepted

/-- The others tolerate it. -/
theorem Tolerates.withObject
    {addr : Nat}
    (free : state.requests.lookup addr = none) :
    Tolerates other state (withObject thread addr state) where
  objects address data found _ :=
    ⟨data, lookup_withObject_of_some free found, rfl, rfl⟩
  locked address data later found foundLater _ _ locked := by
    rw [lookup_withObject_of_some free found] at foundLater
    cases foundLater
    exact locked
  sending _ member := member
  linked _ _ _ _ linked := linked
  held _ := ⟨rfl, fun address data found _ =>
    ⟨data, lookup_withObject_of_some free found, rfl, rfl⟩⟩

/-- A new object belongs to its thread, and nothing points to it. -/
theorem exec_newReqData
    (inv : RequestsInv state)
    (choice : Choice) :
    requestProtocol.Keeps thread state
        (exec thread .newReqData choice state).2 ∧
      let pointer := (exec thread .newReqData choice state).1
      let after := (exec thread .newReqData choice state).2
      (Own thread pointer after ∧ Unlinked pointer after) ∧
        LockedAt pointer after := by
  dsimp only [exec]
  obtain ⟨addr, free, created⟩ := state.newReqData_cases thread choice
  rw [created]
  have here : (withObject thread addr state).requests.lookup addr =
      some { owner := state.nextOwner, creator := thread } := by
    rw [lookup_withObject, if_pos rfl]
  refine ⟨⟨inv.withObject free, fun _ _ => Tolerates.withObject free⟩,
    ⟨⟨_, here, rfl, rfl⟩, inv.unlinked_nextOwner⟩, fun data found => ?_⟩
  have same := here.symm.trans found
  cases same
  rfl

/-- The object a thread deletes is nobody else's, and nothing points to
it. -/
theorem exec_deleteReqData
    (inv : RequestsInv state)
    (own : Own thread pointer state)
    (unlinked : Unlinked pointer state)
    (choice : Choice) :
    requestProtocol.Keeps thread state
      (exec thread (.deleteReqData pointer) choice state).2 := by
  obtain ⟨data, found, owner, creator⟩ := own
  have kept (addr : Nat) (data' : SReqData)
      (before : state.requests.lookup addr = some data')
      (other : data' ≠ data) :
      (state.deleteReqData pointer).requests.lookup addr = some data' := by
    rw [state.lookup_deleteReqData, if_neg, before]
    rintro rfl
    exact other (Option.some.inj (before.symm.trans found))
  have earlier (addr : Nat) (data' : SReqData)
      (after : (state.deleteReqData pointer).requests.lookup addr =
        some data') :
      state.requests.lookup addr = some data' := by
    rw [state.lookup_deleteReqData] at after
    split at after
    · cases after
    · exact after
  have alive (data' : SReqData) (linked : Linked state data'.owner) :
      data' ≠ data := by
    rintro rfl
    rw [owner] at linked
    exact unlinked linked
  refine ⟨⟨inv.sending, inv.once, fun entry member => ?_,
    fun addr data' after => inv.locked addr data' (earlier addr data' after),
    inv.known, fun addr data' after =>
      inv.fresh addr data' (earlier addr data' after),
    fun addr first other second after after' =>
      inv.unique addr first other second (earlier addr first after)
        (earlier other second after'),
    inv.accepted⟩, fun other different => ⟨?_, ?_, fun _ member => member,
      fun _ _ _ _ linked => linked, fun receiver => ⟨rfl, ?_⟩⟩⟩
  · obtain ⟨data', before, owner'⟩ := inv.live entry member
    refine ⟨data', kept _ data' before (alive data' ?_), owner'⟩
    rw [owner']
    exact .inl (List.mem_map_of_mem member)
  · intro addr data' before mine
    refine ⟨data', kept addr data' before ?_, rfl, rfl⟩
    rintro rfl
    exact different (mine.symm.trans creator)
  · intro addr data' later before after _ _ locked
    have same := (earlier addr later after).symm.trans before
    cases same
    exact locked
  · intro addr data' before held
    exact ⟨data', kept addr data' before (alive data' (.inr held)), rfl,
      rfl⟩

end Objects

/-! ## Beginning and ending a call -/

section Calls

variable {state : State} {thread : Thread} {pointer : ReqPtr}

/-- A call that begins is in progress from then on. -/
theorem exec_enterSend
    (inv : RequestsInv state)
    (own : Own thread pointer state)
    (choice : Choice) :
    requestProtocol.Keeps thread state
        (exec thread (.enterSend pointer) choice state).2 ∧
      Sending thread pointer
        (exec thread (.enterSend pointer) choice state).2 := by
  obtain ⟨data, found, owner, creator⟩ := own
  refine ⟨⟨⟨fun owner' linked => ?_, inv.once, inv.live, inv.locked,
    fun entry member => ?_, inv.fresh, inv.unique, inv.accepted⟩,
    fun _ _ => .of_requests_eq rfl
      (fun _ member => List.mem_cons_of_mem _ member)
      (fun _ _ _ _ linked => linked) (fun _ => rfl)⟩, List.mem_cons_self⟩
  · obtain ⟨sender, sending⟩ := inv.sending owner' linked
    exact ⟨sender, List.mem_cons_of_mem _ sending⟩
  · rcases List.mem_cons.mp member with rfl | earlier
    · have old := inv.fresh pointer.addr data found
      rw [owner] at old
      exact old
    · exact inv.known entry earlier

/-- A call may return when nothing points to its request. -/
theorem exec_leaveSend
    (inv : RequestsInv state)
    (unlinked : Unlinked pointer state)
    (choice : Choice) :
    requestProtocol.Keeps thread state
      (exec thread (.leaveSend pointer) choice state).2 := by
  refine ⟨⟨fun owner linked => ?_, inv.once, inv.live, inv.locked,
    fun entry member => inv.known entry (List.mem_of_mem_erase member),
    inv.fresh, inv.unique, inv.accepted⟩,
    fun other different => .of_requests_eq rfl (fun owner member => ?_)
      (fun _ _ _ _ linked => linked) (fun _ => rfl)⟩
  · obtain ⟨sender, sending⟩ := inv.sending owner linked
    refine ⟨sender, (List.mem_erase_of_ne ?_).mpr sending⟩
    rintro ⟨⟩
    exact unlinked linked
  · refine (List.mem_erase_of_ne ?_).mpr member
    rintro ⟨⟩
    exact different rfl

/-! ## Registering a request -/

/-- A request that is not linked is registered, or its number is taken by
another one. -/
theorem exec_reqStorAdd
    (inv : RequestsInv state)
    (own : Own thread pointer state)
    (sending : Sending thread pointer state)
    (unlinked : Unlinked pointer state)
    (locked : LockedAt pointer state)
    (seqNum : Nat)
    (choice : Choice) :
    let outcome := exec thread (.reqStorAdd seqNum pointer) choice state
    requestProtocol.Keeps thread state outcome.2 ∧
      Own thread pointer outcome.2 ∧ Sending thread pointer outcome.2 ∧
        (outcome.1 ≠ 0 → Unlinked pointer outcome.2) := by
  dsimp only [exec]
  rcases state.storAdd_cases seqNum pointer with
    added | ⟨other, member, refused⟩
  · rw [added]
    obtain ⟨data, found, owner, creator⟩ := own
    have linkedBefore (owner' : Nat)
        (linked : owner' ∈ pointer.owner :: state.mapReq.owners ∨
          owner' ∈ state.held) :
        owner' = pointer.owner ∨ Linked state owner' := by
      rcases linked with registered | held
      · rcases List.mem_cons.mp registered with new | before
        · exact .inl new
        · exact .inr (.inl before)
      · exact .inr (.inr held)
    refine ⟨⟨⟨fun owner' linked => ?_, ?_, ?_,
      fun addr data' found' linked => ?_, inv.known, inv.fresh, inv.unique,
      inv.accepted⟩, fun other different => .of_requests_eq rfl
        (fun _ member => member)
        (fun addr data' found' mine linked => ?_) (fun _ => rfl)⟩,
      ⟨data, found, owner, creator⟩, sending, fun failed => ?_⟩
    · rcases linkedBefore owner' linked with rfl | before
      · exact ⟨thread, sending⟩
      · exact inv.sending owner' before
    · refine List.nodup_cons.mpr ⟨fun member => ?_, inv.once⟩
      exact unlinked (List.mem_append.mp member)
    · intro entry member
      rcases List.mem_cons.mp member with rfl | before
      · exact ⟨data, found, owner⟩
      · exact inv.live entry before
    · rcases linkedBefore data'.owner linked with new | before
      · have here : addr = pointer.addr :=
          inv.unique addr data' pointer.addr data found' found
            (new.trans owner.symm)
        rw [here] at found'
        exact locked data' found'
      · exact inv.locked addr data' found' before
    · rcases linkedBefore data'.owner linked with new | before
      · have here : addr = pointer.addr :=
          inv.unique addr data' pointer.addr data found' found
            (new.trans owner.symm)
        rw [here] at found'
        have same := found'.symm.trans found
        cases same
        exact absurd (mine.symm.trans creator) different
      · exact before
    · exact absurd rfl failed
  · rw [refused]
    refine ⟨⟨⟨inv.sending, inv.once, inv.live, inv.locked, inv.known,
      inv.fresh, inv.unique, fun number refused => ?_⟩,
      fun _ _ => .of_requests_eq rfl (fun _ member => member)
        (fun _ _ _ _ linked => linked) (fun _ => rfl)⟩, own, sending,
      fun _ => unlinked⟩
    rcases List.mem_cons.mp refused with alone | earlier
    · -- the entry in the way belongs to another call
      simp only [Event.storRefused.injEq] at alone
      obtain ⟨sender, inProgress⟩ :=
        inv.sending other.owner (.inl (List.mem_map_of_mem member))
      have some := List.length_pos_of_mem sending
      obtain ⟨single, only⟩ :=
        List.length_eq_one_iff.mp (show state.sending.length = 1 by omega)
      have mine : (thread, pointer.owner) ∈ state.sending := sending
      rw [only, List.mem_singleton] at inProgress mine
      have same := congrArg Prod.snd (inProgress.trans mine.symm)
      dsimp only at same
      exact unlinked (same ▸ .inl (List.mem_map_of_mem member))
    · exact inv.accepted number earlier

end Calls

/-! ## The steps of the receiver -/

section Receiver

variable {state : State} {thread other : Thread} {pointer : ReqPtr}

theorem mem_erase_of_mem_owners
    {map : MapReq}
    {seqNum owner : Nat}
    (member : owner ∈ (map.erase seqNum).owners) :
    owner ∈ map.owners := by
  obtain ⟨entry, inside, rfl⟩ := List.mem_map.mp member
  exact List.mem_map_of_mem (List.mem_of_mem_filter inside)

/-- An object is registered under one number. -/
theorem not_mem_erase_owners
    {map : MapReq}
    {seqNum : Nat}
    (once : map.owners.Nodup)
    (member : (seqNum, pointer) ∈ map) :
    pointer.owner ∉ (map.erase seqNum).owners := by
  intro again
  obtain ⟨entry, inside, same⟩ := List.mem_map.mp again
  obtain ⟨inMap, different⟩ := List.mem_filter.mp inside
  have equal : entry = (seqNum, pointer) :=
    List.inj_on_of_nodup_map once inMap member same
  simp [equal] at different

/-- What the receiver takes out of the store it holds. -/
theorem exec_reqStorGetAndRem
    (inv : RequestsInv state)
    (nothing : state.held = [])
    (seqNum : Nat)
    (choice : Choice) :
    let outcome := exec .receiver (.reqStorGetAndRem seqNum) choice state
    requestProtocol.Keeps .receiver state outcome.2 ∧
      HoldsFound outcome.1 outcome.2 := by
  dsimp only [exec]
  rcases state.storGetAndRem_cases seqNum with
    missing | ⟨pointer, member, found⟩
  · rw [missing]
    exact ⟨⟨inv, fun other _ => Tolerates.refl other state⟩, nothing⟩
  · rw [found]
    have once := inv.once
    rw [nothing, List.append_nil] at once
    have linkedBefore (owner : Nat)
        (linked : owner ∈ (state.mapReq.erase seqNum).owners ∨
          owner ∈ pointer.owner :: state.held) :
        Linked state owner := by
      rcases linked with registered | held
      · exact .inl (mem_erase_of_mem_owners registered)
      · rw [nothing, List.mem_singleton] at held
        rw [held]
        exact .inl (List.mem_map_of_mem member)
    refine ⟨⟨⟨fun owner linked => inv.sending owner
        (linkedBefore owner linked), ?_,
      fun entry inside => inv.live entry (List.mem_of_mem_filter inside),
      fun addr data before linked =>
        inv.locked addr data before (linkedBefore _ linked),
      inv.known, inv.fresh, inv.unique, inv.accepted⟩,
      fun other different => .of_requests_eq rfl (fun _ member => member)
        (fun _ _ _ _ linked => linkedBefore _ linked)
        (fun receiver => absurd receiver different)⟩, ?_⟩
    · rw [nothing]
      have fewer : (state.mapReq.erase seqNum).owners.Nodup :=
        once.sublist (List.filter_sublist.map _)
      refine List.nodup_append.mpr
        ⟨fewer, List.nodup_singleton _, fun owner inside single here same =>
          not_mem_erase_owners once member ?_⟩
      rw [List.mem_singleton] at here
      rwa [← here, ← same]
    · obtain ⟨data, before, owner⟩ := inv.live _ member
      exact ⟨by rw [nothing], data, before, owner⟩

/-- A change of one object that keeps its identity. -/
structure KeepsIdentity (change : SReqData → SReqData) : Prop where
  owner : ∀ data, (change data).owner = data.owner
  creator : ∀ data, (change data).creator = data.creator

section Update

variable {change : SReqData → SReqData}

/-- An object after the change comes from one before it. -/
theorem KeepsIdentity.origin
    (keeps : KeepsIdentity change)
    {addr : Nat}
    {later : SReqData}
    (after : (state.updateRequest pointer change).requests.lookup addr =
      some later) :
    ∃ data, state.requests.lookup addr = some data ∧
      later.owner = data.owner ∧
      (later = change data ∧ addr = pointer.addr ∨
        later = data ∧ addr ≠ pointer.addr) := by
  rw [state.lookup_updateRequest] at after
  split at after
  next here =>
    obtain ⟨data, before, rfl⟩ := Option.map_eq_some_iff.mp after
    exact ⟨data, before, keeps.owner data, .inl ⟨rfl, here⟩⟩
  next elsewhere => exact ⟨later, after, rfl, .inr ⟨rfl, elsewhere⟩⟩

/-- A change that keeps identities leaves every object in its place. -/
theorem KeepsIdentity.objects
    (keeps : KeepsIdentity change)
    (which : SReqData → Prop) :
    KeepsObjects which state (state.updateRequest pointer change) := by
  intro addr data before _
  rw [state.lookup_updateRequest]
  split
  · exact ⟨change data, by rw [before]; rfl, keeps.owner data,
      keeps.creator data⟩
  · exact ⟨data, before, rfl, rfl⟩

/-- A linked object must stay locked. -/
theorem RequestsInv.update
    (inv : RequestsInv state)
    (keeps : KeepsIdentity change)
    {held : List Nat}
    (fewer : held.Sublist state.held)
    (locked : ∀ data, state.request pointer = some data → data.locked →
      (data.owner ∈ state.mapReq.owners ∨ data.owner ∈ held) →
        (change data).locked) :
    RequestsInv { state.updateRequest pointer change with held := held } := by
  have linkedBefore (owner : Nat)
      (linked : owner ∈ state.mapReq.owners ∨ owner ∈ held) :
      Linked state owner :=
    linked.imp id fun member => fewer.subset member
  refine ⟨fun owner linked => inv.sending owner (linkedBefore owner linked),
    inv.once.sublist ((List.Sublist.refl _).append fewer), ?_, ?_, inv.known,
    ?_, ?_, inv.accepted⟩
  · intro entry member
    obtain ⟨data, before, owner⟩ := inv.live entry member
    obtain ⟨later, after, same, -⟩ :=
      keeps.objects (fun _ => True) entry.2.addr data before trivial
    exact ⟨later, after, same.trans owner⟩
  · intro addr later after linked
    obtain ⟨data, before, owner, course⟩ := keeps.origin after
    rw [owner] at linked
    have lockedBefore :=
      inv.locked addr data before (linkedBefore _ linked)
    rcases course with ⟨rfl, rfl⟩ | ⟨rfl, -⟩
    · exact locked data before lockedBefore linked
    · exact lockedBefore
  · intro addr later after
    obtain ⟨data, before, owner, -⟩ := keeps.origin after
    rw [owner]
    exact inv.fresh addr data before
  · intro addr first other second after after' same
    obtain ⟨data, before, owner, -⟩ := keeps.origin after
    obtain ⟨data', before', owner', -⟩ := keeps.origin after'
    exact inv.unique addr data other data' before before'
      (by rw [← owner, ← owner', same])

/-- A change to one object is tolerated if it keeps its identity, and its lock
while it is not linked. -/
theorem Tolerates.update
    (keeps : KeepsIdentity change)
    {held : List Nat}
    (fewer : held.Sublist state.held)
    (same : thread = .receiver → held = state.held)
    (locked : ∀ data, state.request pointer = some data → data.locked →
      ¬Linked state data.owner → (change data).locked) :
    Tolerates thread state
      { state.updateRequest pointer change with held := held } where
  objects := keeps.objects _
  locked addr data later before after _ unlinked lockedBefore := by
    obtain ⟨data', before', -, course⟩ := keeps.origin after
    have equal := before.symm.trans before'
    cases equal
    rcases course with ⟨rfl, rfl⟩ | ⟨rfl, -⟩
    · exact locked data before lockedBefore unlinked
    · exact lockedBefore
  sending _ member := member
  linked _ _ _ _ linked := linked.imp id fun member => fewer.subset member
  held receiver := ⟨same receiver, keeps.objects _⟩

/-- What is known of an object is known after the change. -/
theorem KeepsIdentity.own
    (keeps : KeepsIdentity change)
    (own : Own thread pointer state) :
    Own thread pointer (state.updateRequest pointer change) := by
  obtain ⟨data, found, owner, creator⟩ := own
  obtain ⟨later, after, same, sameCreator⟩ :=
    keeps.objects (fun _ => True) pointer.addr data found trivial
  exact ⟨later, after, same.trans owner, sameCreator.trans creator⟩

end Update

/-- A change of the object's buffer or length. -/
theorem keeps_updateRequest
    {change : SReqData → SReqData}
    (inv : RequestsInv state)
    (keeps : KeepsIdentity change)
    (locked : ∀ data, (change data).locked = data.locked) :
    requestProtocol.Keeps thread state (state.updateRequest pointer change) :=
  ⟨inv.update keeps (List.Sublist.refl _)
      fun data _ before _ => (locked data).trans before,
    fun _ _ => .update keeps (List.Sublist.refl _) (fun _ => rfl)
      fun data _ before _ => (locked data).trans before⟩

/-- The receiver goes on holding what it changed. -/
theorem Holds.update
    {change : SReqData → SReqData}
    (keeps : KeepsIdentity change)
    (holds : Holds pointer state) :
    Holds pointer (state.updateRequest pointer change) := by
  obtain ⟨held, data, found, owner⟩ := holds
  obtain ⟨later, after, same, -⟩ :=
    keeps.objects (fun _ => True) pointer.addr data found trivial
  exact ⟨held, later, after, same.trans owner⟩

/-- The receiver unlocks the object it holds, and holds nothing. -/
theorem exec_unlockReq
    (inv : RequestsInv state)
    (holds : Holds pointer state)
    (choice : Choice) :
    let after := (exec .receiver (.unlockReq pointer) choice state).2
    requestProtocol.Keeps .receiver state after ∧ after.held = [] := by
  obtain ⟨held, data, found, owner⟩ := holds
  have keeps : KeepsIdentity fun data => { data with locked := false } :=
    ⟨fun _ => rfl, fun _ => rfl⟩
  have fewer : (state.held.erase pointer.owner).Sublist state.held :=
    List.erase_sublist
  have empty : state.held.erase pointer.owner = [] := by simp [held]
  refine ⟨⟨inv.update keeps fewer ?_, fun other different =>
    .update keeps fewer (fun receiver => absurd receiver different) ?_⟩,
    empty⟩
  · intro data' found' _ linked
    exfalso
    have same := found'.symm.trans found
    cases same
    rw [empty, owner] at linked
    have once := inv.once
    rw [held, List.nodup_append] at once
    rcases linked with registered | none
    · exact once.2.2 _ registered _ List.mem_cons_self rfl
    · cases none
  · intro data' found' _ unlinked
    have same := found'.symm.trans found
    cases same
    refine absurd (.inr ?_) unlinked
    rw [held, owner]
    exact List.mem_cons_self

/-- When a wait ends because the object was unlocked, nothing points to it. -/
theorem exec_timedLockReq
    (inv : RequestsInv state)
    (own : Own thread pointer state)
    (sending : Sending thread pointer state)
    {deadline : Timespec}
    {choice : Choice}
    (answering : Answering thread (.timedLockReq pointer deadline) choice
      state) :
    let after := (exec thread (.timedLockReq pointer deadline) choice state).2
    requestProtocol.Keeps thread state after ∧
      (Own thread pointer after ∧ Unlinked pointer after) ∧
        Sending thread pointer after := by
  have keeps : KeepsIdentity fun data => { data with locked := true } :=
    ⟨fun _ => rfl, fun _ => rfl⟩
  have owned := keeps.own own
  obtain ⟨data, found, owner, -⟩ := own
  have free : data.locked = false := by
    simpa [Answering, found] using answering
  have unlinked : ¬Linked state pointer.owner := by
    intro linked
    rw [← owner] at linked
    have locked := inv.locked pointer.addr data found linked
    rw [free] at locked
    cases locked
  have woken : exec thread (.timedLockReq pointer deadline) choice state =
      (0, state.updateRequest pointer
        fun data => { data with locked := true }) := by
    dsimp only [exec]
    unfold State.timedLockReq
    rw [found]
    simp only [free, Bool.false_eq_true, if_false]
  rw [woken]
  exact ⟨⟨inv.update keeps (List.Sublist.refl _) fun _ _ _ _ => rfl,
    fun _ _ => .update keeps (List.Sublist.refl _) (fun _ => rfl)
      fun _ _ _ _ => rfl⟩, ⟨owned, unlinked⟩, sending⟩

end Receiver

end Sms112
