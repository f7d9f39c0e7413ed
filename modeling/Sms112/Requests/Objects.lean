import Sms112.Requests.Calls

/-!
# The object of a single requesting thread

With one thread that sends requests there is one object at most. While its
call is in progress a pointer to it is in the store or in the hands of the
receiver thread, and nothing is received into it before it is taken out. Calls
that time out leave entries behind, which belong to no call in progress.
-/

namespace Sms112

open Resumption

variable {before after state : State} {pointer : ReqPtr}

/-- The call that sends the request is in progress. -/
def InProgress (state : State) (owner : Nat) : Prop :=
  owner ∈ state.sending.map Prod.snd

instance (state : State) (owner : Nat) :
    Decidable (InProgress state owner) := by
  unfold InProgress
  infer_instance

/-- The addresses and the identities of the objects. -/
def State.objects (state : State) : List (Nat × Nat) :=
  state.requests.map fun entry => (entry.1, entry.2.owner)

/-- What is known of the waiting requests: those the receiver holds are in
progress, each is linked once, there is one object at most, and the object of
a registered request in progress is there and not filled. -/
structure ObjectsInv (state : State) : Prop where
  holding : ∀ owner ∈ state.held, InProgress state owner
  once : (state.mapReq.owners ++ state.held).Nodup
  older : ∀ owner, Linked state owner → owner < state.nextOwner
  owned : ∀ entry ∈ state.objects, entry.2 < state.nextOwner
  single : state.requests.length ≤ 1
  waiting : ∀ entry ∈ state.mapReq, InProgress state entry.2.owner →
    ∃ data, state.request entry.2 = some data ∧
      data.owner = entry.2.owner ∧ data.dataLen = 0

/-- The object is not linked and not filled. -/
def Fresh (pointer : ReqPtr) (state : State) : Prop :=
  Unlinked pointer state ∧ ∃ data, state.request pointer = some data ∧
    data.owner = pointer.owner ∧ data.dataLen = 0

/-- The octets of the response in an object. -/
def State.contents (state : State) (data : SReqData) : Octets :=
  match data.buf with
  | some address => (state.buffer address).take data.dataLen.toNat
  | none => []

theorem State.readReqData_eq
    {state : State}
    {pointer : ReqPtr}
    {data : SReqData}
    (found : state.request pointer = some data) :
    state.readReqData pointer = state.contents data := by
  cases points : data.buf <;>
    simp only [State.readReqData, State.contents, found, points]

/-- Nothing was received into an object of length zero. -/
theorem State.contents_eq_nil
    {data : SReqData}
    (empty : data.dataLen.toNat = 0) :
    state.contents data = [] := by
  unfold State.contents
  cases data.buf with
  | none => rfl
  | some address => simp [empty]

/-- What `recv` stores through a pointer. -/
theorem State.lookup_takeOctets
    (state : State)
    (thread : Thread)
    (serial count address : Nat) :
    (state.takeOctets thread serial count
        (some (some address))).buffers.lookup address =
      (state.buffers.lookup address).map fun contents =>
        (state.inbound serial).take count ++ contents.drop count :=
  (lookup_change state.buffers address (fun contents =>
    (state.inbound serial).take count ++ contents.drop count)
    address).trans (if_pos rfl)

theorem not_inProgress
    (none : state.sending = [])
    (owner : Nat) :
    ¬InProgress state owner := by
  unfold InProgress
  rw [none]
  exact List.not_mem_nil

/-- The only call in progress. -/
theorem InProgress.eq
    {thread : Thread}
    {owner other : Nat}
    (progress : InProgress state other)
    (only : state.sending = [(thread, owner)]) :
    other = owner := by
  simpa [InProgress, only] using progress

theorem requests_eq_nil (none : state.objects = []) :
    state.requests = [] :=
  List.map_eq_nil_iff.mp none

theorem objects_updateRequest
    {change : SReqData → SReqData}
    (owner : ∀ data, (change data).owner = data.owner) :
    (state.updateRequest pointer change).objects = state.objects := by
  unfold State.objects State.updateRequest
  rw [List.map_map]
  refine List.map_congr_left fun entry _ => ?_
  dsimp only [Function.comp]
  split
  · rw [owner]
  · rfl

namespace ObjectsInv

theorem congr
    (inv : ObjectsInv before)
    (mapReq : after.mapReq = before.mapReq)
    (requests : after.requests = before.requests)
    (sending : after.sending = before.sending)
    (held : after.held = before.held)
    (nextOwner : after.nextOwner = before.nextOwner) :
    ObjectsInv after := by
  obtain ⟨holding, once, older, owned, single, waiting⟩ := inv
  unfold InProgress at holding waiting
  unfold Linked at older
  unfold State.objects at owned
  unfold State.request at waiting
  rw [← mapReq, ← held] at once older
  rw [← nextOwner] at older owned
  rw [← sending, ← held] at holding
  rw [← requests] at owned single
  rw [← mapReq, ← sending, ← requests] at waiting
  exact ⟨holding, once, older, owned, single, waiting⟩

theorem of_same
    (inv : ObjectsInv before)
    (same : SameRequests before after) :
    ObjectsInv after :=
  inv.congr same.mapReq same.requests same.sending same.held same.nextOwner

/-- While no call is in progress the receiver holds nothing. -/
theorem held_eq_nil
    (inv : ObjectsInv state)
    (none : state.sending = []) :
    state.held = [] :=
  List.eq_nil_iff_forall_not_mem.mpr fun owner member =>
    not_inProgress none owner (inv.holding owner member)

/-- Unless the receiver holds the only request in progress, it holds
nothing. -/
theorem held_eq_nil_of_free
    (inv : ObjectsInv state)
    {thread : Thread}
    (only : state.sending = [(thread, pointer.owner)])
    (free : pointer.owner ∉ state.held) :
    state.held = [] :=
  List.eq_nil_iff_forall_not_mem.mpr fun owner member =>
    free ((inv.holding owner member).eq only ▸ member)

/-- There is one object at most. -/
theorem same
    (inv : ObjectsInv state)
    {addr other : Nat}
    {data data' : SReqData}
    (found : state.requests.lookup addr = some data)
    (found' : state.requests.lookup other = some data') :
    addr = other ∧ data = data' := by
  have single := inv.single
  have member := mem_of_lookup found
  have member' := mem_of_lookup found'
  match objects : state.requests with
  | [] =>
      rw [objects] at member
      cases member
  | [entry] =>
      rw [objects, List.mem_singleton] at member member'
      exact Prod.mk.inj (member.trans member'.symm)
  | _ :: _ :: _ =>
      rw [objects] at single
      simp at single

/-- What the receiver holds is not registered. -/
theorem not_registered
    (inv : ObjectsInv state)
    {owner : Nat}
    (held : owner ∈ state.held) :
    owner ∉ state.mapReq.owners :=
  fun registered =>
    (List.nodup_append.mp inv.once).2.2 _ registered _ held rfl

/-- An object that is registered must stay empty. -/
theorem update
    {held : List Nat}
    (inv : ObjectsInv state)
    (pointer : ReqPtr)
    (change : SReqData → SReqData)
    (owner : ∀ data, (change data).owner = data.owner)
    (fewer : held.Sublist state.held)
    (empty : ∀ data, state.request pointer = some data →
      data.owner ∈ state.mapReq.owners → data.dataLen = 0 →
        (change data).dataLen = 0) :
    ObjectsInv { state.updateRequest pointer change with held := held } where
  holding owner' member := inv.holding owner' (fewer.subset member)
  once := inv.once.sublist ((List.Sublist.refl _).append fewer)
  older owner' linked :=
    inv.older owner' (linked.imp id fun member => fewer.subset member)
  owned := by
    have same : State.objects
        { state.updateRequest pointer change with held := held } =
        state.objects :=
      objects_updateRequest owner
    rw [same]
    exact inv.owned
  single := by
    have same : (state.updateRequest pointer change).requests.length =
        state.requests.length :=
      List.length_map _
    exact same.trans_le inv.single
  waiting entry member progress := by
    obtain ⟨data, found, same, none⟩ := inv.waiting entry member progress
    have later := state.lookup_updateRequest pointer change entry.2.addr
    split at later
    next here =>
      refine ⟨change data, ?_, (owner data).trans same, ?_⟩
      · unfold State.request at found ⊢
        rw [found] at later
        exact later
      · refine empty data ?_ ?_ none
        · unfold State.request at found ⊢
          rw [← here]
          exact found
        · rw [same]
          exact List.mem_map_of_mem member
    next elsewhere =>
      refine ⟨data, ?_, same, none⟩
      unfold State.request at found ⊢
      rw [found] at later
      exact later

/-! ## The calls -/

theorem newReqData
    (inv : ObjectsInv state)
    (idle : state.sending = [])
    (none : state.requests = [])
    (thread : Thread)
    (addr : Nat) :
    ObjectsInv (withObject thread addr state) where
  holding := inv.holding
  once := inv.once
  older owner linked := Nat.lt_succ_of_lt (inv.older owner linked)
  owned := by simp [withObject, State.objects, none]
  single := by simp [withObject, none]
  waiting entry _ progress := absurd progress (@not_inProgress
    (withObject thread addr state) idle _)

theorem deleteReqData
    (inv : ObjectsInv state)
    (idle : state.sending = [])
    (none : (state.deleteReqData pointer).requests = []) :
    ObjectsInv (state.deleteReqData pointer) where
  holding := inv.holding
  once := inv.once
  older := inv.older
  owned := by simp [State.objects, none]
  single := by simp [none]
  waiting entry _ progress := absurd progress (@not_inProgress
    (state.deleteReqData pointer) idle _)

/-- A call begins with a request that is not linked. -/
theorem enterSend
    (inv : ObjectsInv state)
    (idle : state.sending = [])
    (unlinked : Unlinked pointer state)
    (thread : Thread) :
    ObjectsInv { state with
      sending := (thread, pointer.owner) :: state.sending } where
  holding owner member := by
    have impossible : owner ∈ state.held := member
    rw [inv.held_eq_nil idle] at impossible
    cases impossible
  once := inv.once
  older := inv.older
  owned := inv.owned
  single := inv.single
  waiting entry member progress := by
    have same : entry.2.owner = pointer.owner := by
      simpa [InProgress, idle] using progress
    have member : entry ∈ state.mapReq := member
    refine absurd (.inl ?_) unlinked
    rw [← same]
    exact List.mem_map_of_mem member

/-- A call returns while the receiver does not hold its object. -/
theorem leaveSend
    (inv : ObjectsInv state)
    {thread : Thread}
    (only : state.sending = [(thread, pointer.owner)])
    (free : pointer.owner ∉ state.held) :
    ObjectsInv { state with
      sending := state.sending.erase (thread, pointer.owner) } where
  holding owner member := by
    have impossible : owner ∈ state.held := member
    rw [inv.held_eq_nil_of_free only free] at impossible
    cases impossible
  once := inv.once
  older := inv.older
  owned := inv.owned
  single := inv.single
  waiting entry _ progress := by
    have ended : state.sending.erase (thread, pointer.owner) = [] := by
      simp [only]
    exact absurd progress (@not_inProgress { state with
      sending := state.sending.erase (thread, pointer.owner) } ended _)

/-- The request of a call in progress is registered. -/
theorem reqStorAdd
    (inv : ObjectsInv state)
    (fresh : Fresh pointer state)
    (seqNum : Nat) :
    ObjectsInv { state with
      mapReq := (seqNum, pointer) :: state.mapReq } where
  holding := inv.holding
  once := List.nodup_cons.mpr ⟨fun member =>
    fresh.1 (List.mem_append.mp member), inv.once⟩
  older owner linked := by
    obtain ⟨-, data, found, same, -⟩ := fresh
    have young : pointer.owner < state.nextOwner := by
      rw [← same]
      exact inv.owned _ (List.mem_map_of_mem (mem_of_lookup found))
    rcases linked with registered | held
    · rcases List.mem_cons.mp registered with rfl | before
      · exact young
      · exact inv.older owner (.inl before)
    · exact inv.older owner (.inr held)
  owned := inv.owned
  single := inv.single
  waiting entry member progress := by
    rcases List.mem_cons.mp member with rfl | before
    · exact fresh.2
    · exact inv.waiting entry before progress

/-- A request in progress is taken out of the store. -/
theorem reqStorGetAndRem
    (inv : ObjectsInv state)
    (nothing : state.held = [])
    {seqNum : Nat}
    (member : (seqNum, pointer) ∈ state.mapReq)
    (progress : InProgress state pointer.owner) :
    ObjectsInv { state with
      mapReq := state.mapReq.erase seqNum
      held := pointer.owner :: state.held } := by
  have once := inv.once
  rw [nothing, List.append_nil] at once
  refine ⟨fun owner held => ?_, ?_, fun owner linked => ?_, inv.owned,
    inv.single, fun entry inside =>
      inv.waiting entry (List.mem_of_mem_filter inside)⟩
  · have same : owner = pointer.owner := by
      simpa [nothing] using held
    rw [same]
    exact progress
  · have fewer : (state.mapReq.erase seqNum).owners.Nodup :=
      once.sublist (List.filter_sublist.map _)
    rw [nothing]
    refine List.nodup_append.mpr
      ⟨fewer, List.nodup_singleton _, fun owner inside single here same =>
        not_mem_erase_owners once member ?_⟩
    rw [List.mem_singleton] at here
    rwa [← here, ← same]
  · apply inv.older
    rcases linked with registered | held
    · exact .inl (mem_erase_of_mem_owners registered)
    · have same : owner = pointer.owner := by
        simpa [nothing] using held
      rw [same]
      exact .inl (List.mem_map_of_mem member)

/-- The request is given up by the receiver. -/
theorem unlockReq
    (inv : ObjectsInv state) :
    ObjectsInv (state.unlockReq pointer) :=
  inv.update pointer (fun data => { data with locked := false })
    (fun _ => rfl) List.erase_sublist fun _ _ _ empty => empty

end ObjectsInv

end Sms112
