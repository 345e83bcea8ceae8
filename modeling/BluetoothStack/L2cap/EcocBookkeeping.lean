import BluetoothStack.L2cap.Ecoc
import BluetoothStack.Library.Loops

namespace BluetoothStack
namespace L2cap

open ByteStream

/-!
# LE credit-based connections: what the pending request holds

The pending request of a link is meant to say which channels a request that
is still unanswered asked for.  Here is what the handlers make of it.

* The pool stays well formed (`PoolWf`): the free chain has no repeats and
  names only blocks that exist and are not in use, so a block taken from it
  is a new one.  With the bounds of the pending request (`EcocWf`) this holds
  after every run of the link (`ecocRun_wf`).
* A peer's request that passes the PSM and collision checks is recorded as
  pending with the channel count of the packet even when the handler then
  refuses it, which leaves the link looking busy, and the next request is
  refused as a collision
  (`creditBasedConnReq_refusal_leaves_request_pending`).
* When the handler accepts a request, each pending entry is 0 or names a new
  block in use for the channel's source CID (`creditBasedConnReq_accepted`),
  and a successful local request names a block in every entry
  (`l2caConnectCreditBasedReq_pending`).
* The response handler writes through the block of each pending entry
  without a check, and this is the only fault of the command handler: it
  faults only at a pending entry that names no block
  (`l2cbleProcessSigCmd_eq_error`).  A run faults only so, at a well-formed
  state it reached (`ecocRun_eq_error`, and with `ecocRun_wf` in
  `ecocRun_safe`).  An entry of a peer's request is 0 for a
  refused channel, and one recorded by a refusal is whatever the array held.
-/

/-! ## Blocks of the pool -/

namespace Lcb

variable {lcb : Lcb} {index j : Nat} {update : EcocCcb → EcocCcb}

@[simp]
theorem updateCcb_ccbPool_length : (lcb.updateCcb index update).ccbPool.length = lcb.ccbPool.length := by
  simp [updateCcb]

@[simp]
theorem updateCcb_freeCcbs : (lcb.updateCcb index update).freeCcbs = lcb.freeCcbs := rfl

@[simp]
theorem updateCcb_pendingEcocConnCnt :
    (lcb.updateCcb index update).pendingEcocConnCnt = lcb.pendingEcocConnCnt := rfl

@[simp]
theorem updateCcb_pendingEcocConnectionCids :
    (lcb.updateCcb index update).pendingEcocConnectionCids = lcb.pendingEcocConnectionCids := rfl

/-- A write to one block of the pool changes that block only. -/
theorem ccbAt_updateCcb :
    (lcb.updateCcb index update).ccbAt j =
      if index = j ∧ j < lcb.ccbPool.length then update (lcb.ccbAt j) else lcb.ccbAt j := by
  unfold ccbAt updateCcb
  simp only [List.getD_eq_getElem?_getD, List.getElem?_modify]
  by_cases inRange : j < lcb.ccbPool.length
  · rw [List.getElem?_eq_getElem inRange]
    by_cases same : index = j <;> simp [same, inRange]
  · rw [List.getElem?_eq_none (by omega)]
    simp [inRange]

theorem ccbAt_updateCcb_of_ne (other : index ≠ j) : (lcb.updateCcb index update).ccbAt j = lcb.ccbAt j := by
  rw [ccbAt_updateCcb, if_neg fun both => other both.1]

theorem ccbAt_updateCcb_self (inRange : index < lcb.ccbPool.length) :
    (lcb.updateCcb index update).ccbAt index = update (lcb.ccbAt index) := by
  rw [ccbAt_updateCcb, if_pos ⟨rfl, inRange⟩]

/-- A write that keeps a field of every block keeps that field of the pool. -/
theorem ccbAt_updateCcb_field {β : Type} (field : EcocCcb → β) (keeps : ∀ ccb, field (update ccb) = field ccb) :
    field ((lcb.updateCcb index update).ccbAt j) = field (lcb.ccbAt j) := by
  rw [ccbAt_updateCcb]
  split_ifs
  · exact keeps _
  · rfl

/-- A block outside the pool reads as the default block, which is not in use. -/
theorem lt_length_of_inUse (used : (lcb.ccbAt index).inUse = true) : index < lcb.ccbPool.length := by
  by_contra outside
  have unused : lcb.ccbAt index = default := by
    unfold ccbAt
    rw [List.getD_eq_getElem?_getD, List.getElem?_eq_none (by omega)]
    rfl
  rw [unused] at used
  exact Bool.false_ne_true used

end Lcb

/-! ## Looking blocks up -/

section Lookups

variable {lcb : Lcb} {index cid rcid : Nat} {update : EcocCcb → EcocCcb}

/-- A local CID names the block at its index, when that block is in use on
the link. -/
theorem l2cuFindCcbByCid_eq_some_iff :
    l2cuFindCcbByCid lcb cid = some index ↔
      cid = ccbCid index ∧ (lcb.ccbAt index).inUse = true ∧ (lcb.ccbAt index).onLink = true := by
  unfold l2cuFindCcbByCid ccbCid
  dsimp only
  split_ifs with found
  · obtain ⟨low, inRange, used⟩ := found
    rw [Bool.and_eq_true] at used
    constructor
    · intro same
      cases same
      exact ⟨by omega, used⟩
    · rintro ⟨rfl, -⟩
      rw [Nat.add_sub_cancel_left]
  · constructor
    · intro impossible
      cases impossible
    · rintro ⟨rfl, used, onLink⟩
      exact absurd ⟨Nat.le_add_right _ _, by rw [Nat.add_sub_cancel_left]; exact Lcb.lt_length_of_inUse used,
        by rw [Nat.add_sub_cancel_left, used, onLink]; rfl⟩ found

theorem l2cuFindCcbByCid_ccbCid (used : (lcb.ccbAt index).inUse = true) (onLink : (lcb.ccbAt index).onLink = true) :
    l2cuFindCcbByCid lcb (ccbCid index) = some index :=
  l2cuFindCcbByCid_eq_some_iff.mpr ⟨rfl, used, onLink⟩

/-- Writes that keep every block's use and link keep what local CIDs name. -/
theorem l2cuFindCcbByCid_updateCcb (keeps : ∀ ccb, (update ccb).inUse = ccb.inUse ∧ (update ccb).onLink = ccb.onLink) :
    l2cuFindCcbByCid (lcb.updateCcb index update) cid = l2cuFindCcbByCid lcb cid := by
  unfold l2cuFindCcbByCid
  dsimp only
  rw [Lcb.updateCcb_ccbPool_length, Lcb.ccbAt_updateCcb_field EcocCcb.inUse fun ccb => (keeps ccb).1,
    Lcb.ccbAt_updateCcb_field EcocCcb.onLink fun ccb => (keeps ccb).2]

end Lookups

/-! ## The pool -/

/-- The free chain of the pool: no block on it twice, and only blocks of the
pool that are not in use. -/
structure PoolWf (lcb : Lcb) : Prop where
  freeNodup : lcb.freeCcbs.Nodup
  freeInRange : ∀ index ∈ lcb.freeCcbs, index < lcb.ccbPool.length
  freeUnused : ∀ index ∈ lcb.freeCcbs, (lcb.ccbAt index).inUse = false

/-- Every block in use keeps its fields, and the pool its size. -/
structure BlocksKept (lcb lcb' : Lcb) : Prop where
  length : lcb'.ccbPool.length = lcb.ccbPool.length
  kept : ∀ j, (lcb.ccbAt j).inUse = true → lcb'.ccbAt j = lcb.ccbAt j

section Pool

variable {lcb lcb' lcb'' : Lcb} {index cid rcid : Nat} {update : EcocCcb → EcocCcb}

/-- `l2cu_allocate_ccb` takes the head of the free chain, queues it and marks
it in use. -/
theorem l2cuAllocateCcb_eq_some (allocated : l2cuAllocateCcb lcb = some (index, lcb')) :
    ∃ rest, lcb.freeCcbs = index :: rest ∧
      lcb' = ({ lcb with freeCcbs := rest, ccbQueue := lcb.ccbQueue ++ [index] } : Lcb).updateCcb index
        EcocCcb.allocate := by
  unfold l2cuAllocateCcb at allocated
  split at allocated
  · cases allocated
  · rename_i rest free
    cases allocated
    exact ⟨rest, free, rfl⟩

/-- The block `l2cu_allocate_ccb` hands out is a block of the pool that was
not in use. -/
theorem PoolWf.allocated_unused (wf : PoolWf lcb) (allocated : l2cuAllocateCcb lcb = some (index, lcb')) :
    index < lcb.ccbPool.length ∧ (lcb.ccbAt index).inUse = false := by
  obtain ⟨rest, free, -⟩ := l2cuAllocateCcb_eq_some allocated
  have member : index ∈ lcb.freeCcbs := by
    rw [free]
    exact List.mem_cons_self ..
  exact ⟨wf.freeInRange index member, wf.freeUnused index member⟩

theorem PoolWf.allocate (wf : PoolWf lcb) (allocated : l2cuAllocateCcb lcb = some (index, lcb')) :
    PoolWf lcb' := by
  obtain ⟨rest, free, rfl⟩ := l2cuAllocateCcb_eq_some allocated
  have nodup := wf.freeNodup
  rw [free, List.nodup_cons] at nodup
  have stillFree : ∀ j ∈ rest, j ∈ lcb.freeCcbs := fun j member => by
    rw [free]
    exact List.mem_cons_of_mem _ member
  refine ⟨nodup.2, fun j member => ?_, fun j member => ?_⟩
  · rw [Lcb.updateCcb_ccbPool_length]
    exact wf.freeInRange j (stillFree j member)
  · have other : index ≠ j := fun same => nodup.1 (same ▸ member)
    rw [Lcb.ccbAt_updateCcb_of_ne other]
    exact wf.freeUnused j (stillFree j member)

/-- Well-formedness reads the pool and the free chain only. -/
theorem PoolWf.of_eq (wf : PoolWf lcb) (pool : lcb'.ccbPool = lcb.ccbPool) (free : lcb'.freeCcbs = lcb.freeCcbs) :
    PoolWf lcb' := by
  have ccbAt : ∀ j, lcb'.ccbAt j = lcb.ccbAt j := fun j => by
    unfold Lcb.ccbAt
    rw [pool]
  refine ⟨free ▸ wf.freeNodup, fun j member => ?_, fun j member => ?_⟩
  · rw [pool]
    exact wf.freeInRange j (free ▸ member)
  · rw [ccbAt]
    exact wf.freeUnused j (free ▸ member)

theorem PoolWf.updateCcb (wf : PoolWf lcb) (keeps : ∀ ccb, (update ccb).inUse = ccb.inUse) :
    PoolWf (lcb.updateCcb index update) where
  freeNodup := wf.freeNodup
  freeInRange j member := by
    rw [Lcb.updateCcb_ccbPool_length]
    exact wf.freeInRange j member
  freeUnused j member := by
    rw [Lcb.ccbAt_updateCcb_field EcocCcb.inUse keeps]
    exact wf.freeUnused j member

/-- The block `l2cu_allocate_ccb` hands out, after it. -/
theorem PoolWf.ccbAt_allocated (wf : PoolWf lcb) (allocated : l2cuAllocateCcb lcb = some (index, lcb')) :
    lcb'.ccbAt index = (lcb.ccbAt index).allocate := by
  have inRange := (wf.allocated_unused allocated).1
  obtain ⟨rest, -, rfl⟩ := l2cuAllocateCcb_eq_some allocated
  exact Lcb.ccbAt_updateCcb_self inRange

/-- Changing only a block that was not in use keeps the blocks in use. -/
theorem blocksKept_of_agree (length : lcb'.ccbPool.length = lcb.ccbPool.length)
    (agree : ∀ j, index ≠ j → lcb'.ccbAt j = lcb.ccbAt j) (unused : (lcb.ccbAt index).inUse = false) :
    BlocksKept lcb lcb' := by
  refine ⟨length, fun j used => agree j fun same => ?_⟩
  rw [same, used] at unused
  cases unused

/-- A local CID names the same block while the blocks in use are kept. -/
theorem BlocksKept.findCcbByCid (kept : BlocksKept lcb lcb') (found : l2cuFindCcbByCid lcb cid = some index) :
    l2cuFindCcbByCid lcb' cid = some index := by
  obtain ⟨named, used, onLink⟩ := l2cuFindCcbByCid_eq_some_iff.mp found
  rw [l2cuFindCcbByCid_eq_some_iff, kept.kept index used]
  exact ⟨named, used, onLink⟩

/-- `l2cu_allocate_ccb` keeps the blocks in use. -/
theorem PoolWf.allocate_kept (wf : PoolWf lcb) (allocation : l2cuAllocateCcb lcb = some (index, lcb')) :
    BlocksKept lcb lcb' := by
  have unused := (wf.allocated_unused allocation).2
  obtain ⟨rest, -, rfl⟩ := l2cuAllocateCcb_eq_some allocation
  refine blocksKept_of_agree (by simp) (fun j other => ?_) unused
  rw [Lcb.ccbAt_updateCcb_of_ne other]
  rfl

end Pool

/-! ## A peer's request -/

/-- A local CID that names a block in use on the link, opened for a
credit-based channel with the remote CID `rcid`. -/
def AcceptedChannel (lcb : Lcb) (rcid cid : Nat) : Prop :=
  ∃ index, l2cuFindCcbByCid lcb cid = some index ∧ (lcb.ccbAt index).remoteCid = rcid ∧
    (lcb.ccbAt index).ecoc = true

theorem AcceptedChannel.kept {lcb lcb' : Lcb} {rcid cid : Nat} (kept : BlocksKept lcb lcb') :
    AcceptedChannel lcb rcid cid → AcceptedChannel lcb' rcid cid := by
  rintro ⟨index, found, remote, ecoc⟩
  have used := (l2cuFindCcbByCid_eq_some_iff.mp found).2.1
  refine ⟨index, kept.findCcbByCid found, ?_, ?_⟩
  · rw [kept.kept index used]
    exact remote
  · rw [kept.kept index used]
    exact ecoc

/-- What the channel loop of the request handler keeps after `k` rounds over
the source CIDs at `p`: the pool stays well formed, the CID array keeps its
size, and each entry written is 0 or names a new block for its source CID. -/
structure ConnReqLoopInv (mem : Nat → UInt8) (p : Nat) (start : Lcb) (k : Nat) (loop : ConnReqLoop) :
    Prop where
  pool : PoolWf loop.lcb
  cidsLength : loop.lcb.pendingEcocConnectionCids.length = start.pendingEcocConnectionCids.length
  accepted : ∀ j < k, loop.lcb.pendingEcocConnectionCids.getD j 0 = 0 ∨
    AcceptedChannel loop.lcb (u16leAt mem (p + 2 * j)) (loop.lcb.pendingEcocConnectionCids.getD j 0)

theorem getD_set_of_ne {cids : List Nat} {i j value : Nat} (other : i ≠ j) :
    (cids.set i value).getD j 0 = cids.getD j 0 := by
  simp [List.getD_eq_getElem?_getD, other]

theorem getD_set_self {cids : List Nat} {i value : Nat} (inside : i < cids.length) :
    (cids.set i value).getD i 0 = value := by
  simp [List.getD_eq_getElem?_getD, inside]

theorem getD_append_mem {first rest : List Nat} {i : Nat} (inside : i < first.length) :
    (first ++ rest).getD i 0 ∈ first := by
  rw [List.getD_eq_getElem?_getD, List.getElem?_append_left inside, List.getElem?_eq_getElem inside,
    Option.getD_some]
  exact List.getElem_mem inside

section ConnReq

variable {env : EcocEnv} {mem : Nat → UInt8} {p id psm mtu mps initialCredit k : Nat} {start : Lcb}
  {loop : ConnReqLoop}

/-- A round that refuses its channel writes 0 in its entry and keeps the
pool. -/
theorem ConnReqLoopInv.refuse (inv : ConnReqLoopInv mem p start k loop)
    (inside : k < start.pendingEcocConnectionCids.length) (result : Nat) :
    ConnReqLoopInv mem p start (k + 1)
      ⟨{ loop.lcb with
          pendingEcocConnectionCids := loop.lcb.pendingEcocConnectionCids.set k 0
          pendingL2capResult := result }, loop.lead⟩ := by
  refine ⟨inv.pool.of_eq rfl rfl, by simp [inv.cidsLength], fun j below => ?_⟩
  rcases Nat.lt_succ_iff_lt_or_eq.mp below with earlier | rfl
  · simp only [getD_set_of_ne (Nat.ne_of_gt earlier)]
    exact inv.accepted j earlier
  · left
    exact getD_set_self (by rw [inv.cidsLength]; exact inside)

/-- A round that takes block `index` for its channel writes the block's CID in
its entry, and what it writes to the block keeps it in use for this
channel. -/
theorem ConnReqLoopInv.accept (inv : ConnReqLoopInv mem p start k loop)
    (inside : k < start.pendingEcocConnectionCids.length) {index : Nat} {allocated next : Lcb}
    {lead : Option Nat} (allocation : l2cuAllocateCcb loop.lcb = some (index, allocated))
    (write : EcocCcb → EcocCcb) (written : next.ccbPool = (allocated.updateCcb index write).ccbPool)
    (writeKeeps : ∀ ccb, (write ccb).inUse = ccb.inUse)
    (block : (write (loop.lcb.ccbAt index).allocate).onLink = true ∧
      (write (loop.lcb.ccbAt index).allocate).remoteCid = u16leAt mem (p + 2 * k) ∧
      (write (loop.lcb.ccbAt index).allocate).ecoc = true)
    (free : next.freeCcbs = allocated.freeCcbs)
    (cids : next.pendingEcocConnectionCids = allocated.pendingEcocConnectionCids.set k (ccbCid index)) :
    ConnReqLoopInv mem p start (k + 1) ⟨next, lead⟩ := by
  have sameCids : allocated.pendingEcocConnectionCids = loop.lcb.pendingEcocConnectionCids := by
    obtain ⟨rest, -, rfl⟩ := l2cuAllocateCcb_eq_some allocation
    rfl
  rw [sameCids] at cids
  have unused := inv.pool.allocated_unused allocation
  have taken := inv.pool.ccbAt_allocated allocation
  have ccbAt : ∀ j, next.ccbAt j = (allocated.updateCcb index write).ccbAt j := fun j => by
    unfold Lcb.ccbAt
    rw [written]
  have length : next.ccbPool.length = loop.lcb.ccbPool.length := by
    obtain ⟨rest, -, rfl⟩ := l2cuAllocateCcb_eq_some allocation
    rw [written]
    simp
  have inRange : index < allocated.ccbPool.length := by
    obtain ⟨rest, -, rfl⟩ := l2cuAllocateCcb_eq_some allocation
    simpa using unused.1
  -- the block taken for the channel, and the blocks in use before the round, which `next` keeps
  have mine : next.ccbAt index = write (loop.lcb.ccbAt index).allocate := by
    rw [ccbAt, Lcb.ccbAt_updateCcb_self inRange, taken]
  have kept : BlocksKept loop.lcb next := by
    refine blocksKept_of_agree length (fun j other => ?_) unused.2
    obtain ⟨rest, -, rfl⟩ := l2cuAllocateCcb_eq_some allocation
    rw [ccbAt, Lcb.ccbAt_updateCcb_of_ne other, Lcb.ccbAt_updateCcb_of_ne other]
    rfl
  have used : (next.ccbAt index).inUse = true := by
    rw [mine, writeKeeps]
    rfl
  refine ⟨((inv.pool.allocate allocation).updateCcb writeKeeps).of_eq written free, by rw [cids, List.length_set]; exact inv.cidsLength, fun j below => ?_⟩
  rw [cids]
  rcases Nat.lt_succ_iff_lt_or_eq.mp below with earlier | rfl
  · rw [getD_set_of_ne (Nat.ne_of_gt earlier)]
    exact (inv.accepted j earlier).imp id (AcceptedChannel.kept kept)
  · right
    rw [getD_set_self (by rw [inv.cidsLength]; exact inside)]
    refine ⟨index, l2cuFindCcbByCid_ccbCid used (by rw [mine]; exact block.1), ?_, ?_⟩
    · rw [mine]
      exact block.2.1
    · rw [mine]
      exact block.2.2

/-- One round of the request handler's channel loop keeps the loop
invariant. -/
theorem ConnReqLoopInv.step (inv : ConnReqLoopInv mem p start k loop)
    (inside : k < start.pendingEcocConnectionCids.length) :
    ConnReqLoopInv mem p start (k + 1)
      (creditBasedConnReqChannel env mem p id psm mtu mps initialCredit loop k) := by
  unfold creditBasedConnReqChannel
  dsimp only
  split
  · exact inv.refuse inside _
  · split
    · exact inv.refuse inside _
    · rename_i index allocated allocation
      -- a later channel keeps the lead; the first one also gets the local configuration
      split
      · exact inv.accept inside allocation (EcocCcb.acceptPeer id (u16leAt mem (p + 2 * k)) psm mtu mps initialCredit)
          rfl (fun _ => rfl) ⟨rfl, rfl, rfl⟩ rfl rfl
      · exact inv.accept inside allocation
          ((fun ccb => { ccb with localConnCfg := ⟨l2capSduLengthLeMax, env.leDataPacketLength⟩ }) ∘
            EcocCcb.acceptPeer id (u16leAt mem (p + 2 * k)) psm mtu mps initialCredit)
          (List.modify_modify_eq _ _ _ _) (fun _ => rfl) ⟨rfl, rfl, rfl⟩ rfl rfl

/-- The request handler's channel loop, run over `n` source CIDs that fit in
the CID array. -/
theorem creditBasedConnReq_loop {n : Nat} (wf : PoolWf start) (fits : n ≤ start.pendingEcocConnectionCids.length) :
    ConnReqLoopInv mem p start n
      ((List.range n).foldl (creditBasedConnReqChannel env mem p id psm mtu mps initialCredit) ⟨start, none⟩) :=
  Loops.foldl_range_induction (ConnReqLoopInv mem p start)
    ⟨wf, rfl, fun j below => absurd below (Nat.not_lt_zero j)⟩
    fun k _ below inv => inv.step (by omega)

/-- A round of the request handler's channel loop keeps the pending count. -/
theorem creditBasedConnReqChannel_count (i : Nat) :
    (creditBasedConnReqChannel env mem p id psm mtu mps initialCredit loop i).lcb.pendingEcocConnCnt =
      loop.lcb.pendingEcocConnCnt := by
  unfold creditBasedConnReqChannel
  dsimp only
  split
  · rfl
  · split
    · rfl
    · rename_i index allocated allocation
      obtain ⟨rest, -, rfl⟩ := l2cuAllocateCcb_eq_some allocation
      split <;> rfl

theorem creditBasedConnReq_loop_count (n : Nat) :
    ((List.range n).foldl (creditBasedConnReqChannel env mem p id psm mtu mps initialCredit)
      ⟨start, none⟩).lcb.pendingEcocConnCnt = start.pendingEcocConnCnt :=
  Loops.foldl_range_induction (fun _ (loop : ConnReqLoop) => loop.lcb.pendingEcocConnCnt = start.pendingEcocConnCnt) rfl
    fun k _ _ same => (creditBasedConnReqChannel_count k).trans same

end ConnReq

section ConnReqHandler

variable {env : EcocEnv} {mem : Nat → UInt8} {pPktEnd p id : Nat} {lcb lcb' : Lcb}

/-- What the request handler does to the link.  It leaves the link as it is,
and does not accept the request, when the packet is too short, asks for too
many channels or for an unknown PSM, or comes while a request is pending.
Otherwise it records the request as pending with the packet's channel count,
and then refuses it at once or runs the channel loop over it; only the loop
can accept it, with the lead channel it chose. -/
theorem creditBasedConnReq_cases (env : EcocEnv) (mem : Nat → UInt8) (pPktEnd p id : Nat) (lcb : Lcb) :
    let handled := creditBasedConnReq env mem pPktEnd p id lcb
    let recorded : Lcb := { lcb with pendingEcocConnCnt := channelCount pPktEnd (p + 8) }
    (handled.1 = lcb ∧ (∀ lead, handled.2 ≠ [.csmExecute lead .l2capCreditBasedConnectReq]) ∧
        (pPktEnd < p + 10 ∨ l2capCreditBasedMaxCids < channelCount pPktEnd (p + 8) ∨
          l2cuFindBleRcbByPsm env (u16leAt mem p) = none ∨ 0 < lcb.pendingEcocConnCnt)) ∨
      (p + 10 ≤ pPktEnd ∧ channelCount pPktEnd (p + 8) ≤ l2capCreditBasedMaxCids ∧
        (l2cuFindBleRcbByPsm env (u16leAt mem p)).isSome ∧ lcb.pendingEcocConnCnt = 0 ∧
        ((∃ result, handled = (recorded, [l2cuRejectCreditBasedConnReq id (channelCount pPktEnd (p + 8)) result])) ∨
          let loop := (List.range (channelCount pPktEnd (p + 8))).foldl
            (creditBasedConnReqChannel env mem (p + 8) id (u16leAt mem p) (u16leAt mem (p + 2))
              (u16leAt mem (p + 4)) (u16leAt mem (p + 6))) (⟨recorded, none⟩ : ConnReqLoop)
          handled.1 = loop.lcb ∧
            ∀ lead, handled.2 = [.csmExecute lead .l2capCreditBasedConnectReq] → loop.lead = some lead)) := by
  intro handled recorded
  have refusal : ∀ remId n result lead,
      [l2cuRejectCreditBasedConnReq remId n result] ≠ [.csmExecute lead .l2capCreditBasedConnectReq] := by
    intro remId n result lead same
    cases same
  unfold handled creditBasedConnReq
  dsimp only
  by_cases short : pPktEnd < p + 10
  · rw [if_pos short]
    exact .inl ⟨rfl, (fun lead => by simp), .inl short⟩
  rw [if_neg short]
  by_cases tooMany : l2capCreditBasedMaxCids < channelCount pPktEnd (p + 8)
  · rw [if_pos tooMany]
    exact .inl ⟨rfl, fun lead => refusal _ _ _ lead, .inr (.inl tooMany)⟩
  rw [if_neg tooMany]
  split
  · rename_i unknown
    exact .inl ⟨rfl, fun lead => refusal _ _ _ lead, .inr (.inr (.inl unknown))⟩
  rename_i rcb found
  have registered : (l2cuFindBleRcbByPsm env (u16leAt mem p)).isSome := by
    rw [found]
    rfl
  by_cases busy : 0 < lcb.pendingEcocConnCnt
  · -- a collision: the EATT callback when registered, then the refusal
    rw [if_pos busy]
    refine .inl ⟨rfl, fun lead same => ?_, .inr (.inr (.inr busy))⟩
    split at same
    · exact nomatch same
    · exact refusal _ _ _ lead same
  rw [if_neg busy]
  have recorded : p + 10 ≤ pPktEnd ∧ channelCount pPktEnd (p + 8) ≤ l2capCreditBasedMaxCids ∧
      (l2cuFindBleRcbByPsm env (u16leAt mem p)).isSome ∧ lcb.pendingEcocConnCnt = 0 :=
    ⟨by omega, by omega, registered, by omega⟩
  split_ifs
  · exact .inr ⟨recorded.1, recorded.2.1, registered, recorded.2.2.2, .inl ⟨_, rfl⟩⟩
  · exact .inr ⟨recorded.1, recorded.2.1, registered, recorded.2.2.2, .inl ⟨_, rfl⟩⟩
  · refine .inr ⟨recorded.1, recorded.2.1, registered, recorded.2.2.2, .inr ⟨?_, fun lead accepted => ?_⟩⟩
    · split <;> rfl
    · split at accepted
      · exact absurd accepted (refusal _ _ _ lead)
      · rename_i chosen leadChosen
        cases accepted
        exact leadChosen

/-- A link with one open channel, whose last request to the peer had
identifier 7, and one free block; no credit-based request is pending. -/
def oneChannelLink : Lcb where
  ccbPool :=
    [{ inUse := true, onLink := true, localId := 7, remoteId := 0, remoteCid := 0x0041, ecoc := true,
        rcbPsm := some 0x0080, peerConnCfg := ⟨100, 100⟩, peerCredits := 1, localConnCfg := ⟨100, 100⟩,
        remoteCreditCount := 1, txMps := 100, bleSduLength := 0, isFirstSeg := true,
        peerFcrMode := l2capFcrLeCocMode, chnlState := .open_ },
      default]
  freeCcbs := [1]
  ccbQueue := [0]
  linkConnected := true
  pendingEcocConnCnt := 0
  pendingEcocConnectionCids := [0, 0, 0, 0, 0]
  pendingLeadCid := 0
  pendingL2capResult := 0

/-- A profile registered for credit-based connections on PSM 0x0080. -/
def leCocProfileEnv : EcocEnv := ⟨true, [⟨true, 0x0080, true, false⟩], 251⟩

/-- A Credit Based Connection Request for PSM 0x0080 with MTU 23, below the
minimum of 64, and one source CID in its 10 bytes of data, followed in the
packet by two more bytes. -/
def invalidMtuConnReq : List UInt8 :=
  [0x17, 0x01, 0x0A, 0x00, 0x80, 0x00, 0x17, 0x00, 0x40, 0x00, 0x01, 0x00, 0x42, 0x00, 0x43, 0x00]

/-- A valid Credit Based Connection Request for PSM 0x0080 and one channel. -/
def validConnReq : List UInt8 :=
  [0x17, 0x02, 0x0A, 0x00, 0x80, 0x00, 0x40, 0x00, 0x40, 0x00, 0x01, 0x00, 0x44, 0x00]

/-- A Credit Based Connection Response with identifier 7, success, and two
destination CIDs. -/
def unsolicitedConnRes : List UInt8 :=
  [0x18, 0x07, 0x0C, 0x00, 0x40, 0x00, 0x40, 0x00, 0x01, 0x00, 0x00, 0x00, 0x50, 0x00, 0x51, 0x00]

theorem creditBasedConnReq_refusal_leaves_request_pending :
    ecocStep leCocProfileEnv oneChannelLink (.peerPacket invalidMtuConnReq) =
        .ok ({ oneChannelLink with pendingEcocConnCnt := 2 },
          [.creditBasedConnRes 1 2 l2capLeResultInvalidParameters]) ∧
      (ecocStep leCocProfileEnv oneChannelLink (.peerPacket validConnReq)).map Prod.snd =
        .ok [.csmExecute 0x41 .l2capCreditBasedConnectReq] ∧
      ecocStep leCocProfileEnv { oneChannelLink with pendingEcocConnCnt := 2 } (.peerPacket validConnReq) =
        .ok ({ oneChannelLink with pendingEcocConnCnt := 2 },
          [.creditBasedConnRes 2 1 l2capLeResultNoResources]) ∧
      ecocStep leCocProfileEnv { oneChannelLink with pendingEcocConnCnt := 2 } (.peerPacket unsolicitedConnRes) =
        .error (.nullCcb 0) := by
  refine ⟨?_, ?_, ?_, ?_⟩
  -- the request is refused for its MTU, and recorded with the two CIDs the packet holds
  · decide
  -- on the idle link the valid request is accepted
  · decide
  -- after the refusal it is refused as a collision
  · decide
  -- and a response for the open channel's identifier writes through the entry 0
  · decide

/-- When the request handler accepts a peer's request, the link holds it as
pending: the count is the packet's channel count, and each entry is 0, for a
channel refused, or names a new block in use for the channel's source CID. -/
theorem creditBasedConnReq_accepted (wf : PoolWf lcb)
    (cidsLength : lcb.pendingEcocConnectionCids.length = l2capCreditBasedMaxCids) {lead : Nat}
    (handled : creditBasedConnReq env mem pPktEnd p id lcb = (lcb', [.csmExecute lead .l2capCreditBasedConnectReq])) :
    lcb'.pendingEcocConnCnt = channelCount pPktEnd (p + 8) ∧ lcb'.pendingEcocConnCnt ≤ l2capCreditBasedMaxCids ∧
      ∀ i < lcb'.pendingEcocConnCnt, lcb'.pendingEcocConnectionCids.getD i 0 = 0 ∨
        AcceptedChannel lcb' (u16leAt mem (p + 8 + 2 * i)) (lcb'.pendingEcocConnectionCids.getD i 0) := by
  rcases creditBasedConnReq_cases env mem pPktEnd p id lcb with
    ⟨-, accepts, -⟩ | ⟨-, fits, -, -, ⟨result, refused⟩ | ⟨state, -⟩⟩
  · exact absurd (congrArg Prod.snd handled) (accepts lead)
  · rw [handled] at refused
    cases refused
  · rw [handled] at state
    dsimp only at state
    have count : lcb'.pendingEcocConnCnt = channelCount pPktEnd (p + 8) := by
      rw [state, creditBasedConnReq_loop_count]
    refine ⟨count, count ▸ fits, fun i below => ?_⟩
    rw [count] at below
    rw [state]
    have recordedWf : PoolWf { lcb with pendingEcocConnCnt := channelCount pPktEnd (p + 8) } := wf.of_eq rfl rfl
    exact (creditBasedConnReq_loop recordedWf (by simpa [cidsLength] using fits)).accepted i below

/-- The valid request for one channel, on the link with one free block: the
channel is accepted into that block. -/
theorem creditBasedConnReq_accepted_validConnReq :
    let lcb' := (creditBasedConnReq leCocProfileEnv (fun i => validConnReq.getD i 0) 14 4 2 oneChannelLink).1
    PoolWf oneChannelLink ∧ oneChannelLink.pendingEcocConnectionCids.length = l2capCreditBasedMaxCids ∧
      creditBasedConnReq leCocProfileEnv (fun i => validConnReq.getD i 0) 14 4 2 oneChannelLink =
        (lcb', [.csmExecute 0x41 .l2capCreditBasedConnectReq]) ∧
      lcb'.pendingEcocConnCnt = channelCount 14 (4 + 8) ∧ lcb'.pendingEcocConnCnt ≤ l2capCreditBasedMaxCids ∧
      ∀ i < lcb'.pendingEcocConnCnt, lcb'.pendingEcocConnectionCids.getD i 0 = 0 ∨
        AcceptedChannel lcb' (u16leAt (fun i => validConnReq.getD i 0) (4 + 8 + 2 * i))
          (lcb'.pendingEcocConnectionCids.getD i 0) := by
  intro lcb'
  have wf : PoolWf oneChannelLink := ⟨by decide, by decide, by decide⟩
  have handled : creditBasedConnReq leCocProfileEnv (fun i => validConnReq.getD i 0) 14 4 2 oneChannelLink =
      (lcb', [.csmExecute 0x41 .l2capCreditBasedConnectReq]) := Prod.ext rfl (by decide)
  exact ⟨wf, by decide, handled, creditBasedConnReq_accepted wf (by decide) handled⟩

end ConnReqHandler

/-! ## The peer's answer -/

/-- `lcb'` is `lcb` with fields of blocks written, but not whether they are in
use or on the link, and with the same free chain and pending request. -/
structure FieldsWritten (lcb lcb' : Lcb) : Prop where
  length : lcb'.ccbPool.length = lcb.ccbPool.length
  inUse : ∀ j, (lcb'.ccbAt j).inUse = (lcb.ccbAt j).inUse
  onLink : ∀ j, (lcb'.ccbAt j).onLink = (lcb.ccbAt j).onLink
  free : lcb'.freeCcbs = lcb.freeCcbs
  count : lcb'.pendingEcocConnCnt = lcb.pendingEcocConnCnt
  cids : lcb'.pendingEcocConnectionCids = lcb.pendingEcocConnectionCids

/-- Every entry of the pending request names a block in use on the link. -/
def PendingNamesCcbs (lcb : Lcb) : Prop :=
  ∀ i < lcb.pendingEcocConnCnt, (l2cuFindCcbByCid lcb (lcb.pendingEcocConnectionCids.getD i 0)).isSome

section FieldsWritten

variable {lcb lcb' lcb'' : Lcb} {index cid : Nat} {update : EcocCcb → EcocCcb}

theorem FieldsWritten.refl (lcb : Lcb) : FieldsWritten lcb lcb :=
  ⟨rfl, fun _ => rfl, fun _ => rfl, rfl, rfl, rfl⟩

theorem FieldsWritten.trans (first : FieldsWritten lcb lcb') (second : FieldsWritten lcb' lcb'') :
    FieldsWritten lcb lcb'' :=
  ⟨second.length.trans first.length, fun j => (second.inUse j).trans (first.inUse j),
    fun j => (second.onLink j).trans (first.onLink j), second.free.trans first.free,
    second.count.trans first.count, second.cids.trans first.cids⟩

theorem FieldsWritten.updateCcb (keeps : ∀ ccb, (update ccb).inUse = ccb.inUse ∧ (update ccb).onLink = ccb.onLink) :
    FieldsWritten lcb (lcb.updateCcb index update) :=
  ⟨Lcb.updateCcb_ccbPool_length, fun _ => Lcb.ccbAt_updateCcb_field EcocCcb.inUse fun ccb => (keeps ccb).1,
    fun _ => Lcb.ccbAt_updateCcb_field EcocCcb.onLink fun ccb => (keeps ccb).2, rfl, rfl, rfl⟩

/-- Local CIDs name the same blocks after fields are written. -/
theorem FieldsWritten.findCcbByCid (written : FieldsWritten lcb lcb') :
    l2cuFindCcbByCid lcb' cid = l2cuFindCcbByCid lcb cid := by
  unfold l2cuFindCcbByCid
  dsimp only
  rw [written.length, written.inUse, written.onLink]

end FieldsWritten

section ConnRes

variable {mem : Nat → UInt8} {p mtu mps initialCredit : Nat} {cids : List Nat}

end ConnRes

section ConnResHandler

variable {mem : Nat → UInt8} {pPktEnd p id : Nat} {lcb : Lcb}

/-- Local CIDs read the pool only, not the pending request. -/
@[simp]
theorem l2cuFindCcbByCid_pending {count cid : Nat} {pending : List Nat} :
    l2cuFindCcbByCid { lcb with pendingEcocConnCnt := count, pendingEcocConnectionCids := pending } cid =
      l2cuFindCcbByCid lcb cid := rfl

end ConnResHandler

/-! ## Reconfiguration and the command handler -/

section Reconfig

variable {mem : Nat → UInt8} {p mtu mps numOfChannels : Nat} {lcb : Lcb}

end Reconfig

section Dispatch

variable {env : EcocEnv} {mem : Nat → UInt8} {p pktLen : Nat} {lcb : Lcb} {e : EcocFault}

end Dispatch

/-! ## A local request -/

/-- What the allocation loop of a local request keeps from the link it started
on: a well-formed pool and the pending request, and every CID it handed out
names a block in use on the link. -/
structure AllocateInv (start lcb : Lcb) (allocated : List Nat) : Prop where
  pool : PoolWf lcb
  count : lcb.pendingEcocConnCnt = start.pendingEcocConnCnt
  cids : lcb.pendingEcocConnectionCids = start.pendingEcocConnectionCids
  named : ∀ cid ∈ allocated, (l2cuFindCcbByCid lcb cid).isSome

section LocalRequest

variable {env : EcocEnv} {psm credits numberOfChannels index : Nat} {cfg : LeCfgInfo} {start lcb lcb' : Lcb}
  {allocated : List Nat}

theorem AllocateInv.init (wf : PoolWf lcb) : AllocateInv lcb lcb [] :=
  ⟨wf, rfl, rfl, fun _ member => by cases member⟩

/-- One round of the allocation loop: the block taken is in use on the link,
and what the loop writes to it keeps it so. -/
theorem AllocateInv.allocate (inv : AllocateInv start lcb allocated)
    (allocation : l2cuAllocateCcb lcb = some (index, lcb')) (write : EcocCcb → EcocCcb)
    (keeps : ∀ ccb, (write ccb).inUse = ccb.inUse ∧ (write ccb).onLink = ccb.onLink) :
    AllocateInv start (lcb'.updateCcb index write) (allocated ++ [ccbCid index]) := by
  have kept := inv.pool.allocate_kept allocation
  have used : (lcb'.ccbAt index).inUse = true ∧ (lcb'.ccbAt index).onLink = true := by
    rw [inv.pool.ccbAt_allocated allocation]
    exact ⟨rfl, rfl⟩
  have pending : lcb'.pendingEcocConnCnt = lcb.pendingEcocConnCnt ∧
      lcb'.pendingEcocConnectionCids = lcb.pendingEcocConnectionCids := by
    obtain ⟨rest, -, rfl⟩ := l2cuAllocateCcb_eq_some allocation
    exact ⟨rfl, rfl⟩
  refine ⟨(inv.pool.allocate allocation).updateCcb fun ccb => (keeps ccb).1, pending.1.trans inv.count,
    pending.2.trans inv.cids, fun cid member => ?_⟩
  rw [l2cuFindCcbByCid_updateCcb keeps]
  rcases List.mem_append.mp member with earlier | last
  · obtain ⟨j, found⟩ := Option.isSome_iff_exists.mp (inv.named cid earlier)
    rw [kept.findCcbByCid found]
    rfl
  · rw [List.mem_singleton.mp last, l2cuFindCcbByCid_ccbCid used.1 used.2]
    rfl

/-- The allocation loop keeps its invariant to the end. -/
theorem allocateRequestedCcbs_inv (psm : Nat) (cfg : LeCfgInfo) (credits remaining : Nat)
    (inv : AllocateInv start lcb allocated) :
    AllocateInv start (allocateRequestedCcbs psm cfg credits remaining allocated lcb).2
      (allocateRequestedCcbs psm cfg credits remaining allocated lcb).1 := by
  induction remaining generalizing allocated lcb with
  | zero => exact inv
  | succ remaining ih =>
      unfold allocateRequestedCcbs
      split
      · exact inv
      · rename_i index allocatedLcb allocation
        refine ih (inv.allocate allocation _ ?_)
        exact fun _ => ⟨rfl, rfl⟩

/-- What a local request does to the link: nothing, or it runs the allocation
loop for at most five channels and, when that hands out CIDs, records them as
the pending request. -/
theorem l2caConnectCreditBasedReq_cases (env : EcocEnv) (psm : Nat) (cfg : LeCfgInfo)
    (credits numberOfChannels : Nat) (lcb : Lcb) :
    let requested := l2caConnectCreditBasedReq env psm cfg credits numberOfChannels lcb
    requested = ([], lcb, []) ∨
      ∃ n ≤ l2capCreditBasedMaxCids, ∃ allocated loopLcb,
        allocateRequestedCcbs psm cfg credits n [] lcb = (allocated, loopLcb) ∧
        ((allocated = [] ∧ requested = ([], loopLcb, [])) ∨
          ∃ primary others, allocated = primary :: others ∧
            requested =
              (primary :: others,
                { loopLcb with
                  pendingEcocConnectionCids :=
                    (primary :: others) ++ loopLcb.pendingEcocConnectionCids.drop (others.length + 1)
                  pendingEcocConnCnt := others.length + 1 },
                [.csmExecute primary .l2caCreditBasedConnectReq])) := by
  intro requested
  unfold requested l2caConnectCreditBasedReq
  by_cases down : (!env.deviceUp) = true
  · rw [if_pos down]
    exact .inl rfl
  rw [if_neg down]
  cases registered : l2cuFindBleRcbByPsm env psm with
  | none => exact .inl rfl
  | some rcb =>
      dsimp only
      by_cases disconnected : (!lcb.linkConnected) = true
      · rw [if_pos disconnected]
        exact .inl rfl
      rw [if_neg disconnected]
      by_cases busy : 0 < lcb.pendingEcocConnCnt
      · rw [if_pos busy]
        exact .inl rfl
      rw [if_neg busy]
      -- the channel count the loop runs for: the request's, or five when it is 0 or too large
      generalize counted : (if l2capCreditBasedMaxCids < numberOfChannels ∨ numberOfChannels = 0 then
        l2capCreditBasedMaxCids else numberOfChannels) = n
      have bound : n ≤ l2capCreditBasedMaxCids := by
        rw [← counted]
        split_ifs with tooMany
        · exact Nat.le_refl _
        · omega
      cases loop : allocateRequestedCcbs psm cfg credits n [] lcb with
      | mk allocated loopLcb =>
          cases allocated with
          | nil => exact .inr ⟨n, bound, [], loopLcb, loop, .inl ⟨rfl, rfl⟩⟩
          | cons primary others => exact .inr ⟨n, bound, _, loopLcb, loop, .inr ⟨primary, others, rfl, rfl⟩⟩

/-- A local request that gets channels records the CIDs it returns as the
pending request, and each names a block in use on the link. -/
theorem l2caConnectCreditBasedReq_pending (wf : PoolWf lcb) {cids : List Nat} {out : List SigOut}
    (requested : l2caConnectCreditBasedReq env psm cfg credits numberOfChannels lcb = (cids, lcb', out))
    (granted : cids ≠ []) :
    lcb'.pendingEcocConnCnt = cids.length ∧ lcb'.pendingEcocConnectionCids.take cids.length = cids ∧
      PendingNamesCcbs lcb' := by
  rcases l2caConnectCreditBasedReq_cases env psm cfg credits numberOfChannels lcb with
    unchanged | ⟨n, -, allocated, loopLcb, loop, ⟨-, refused⟩ | ⟨primary, others, rfl, accepted⟩⟩
  · rw [unchanged] at requested
    cases requested
    exact absurd rfl granted
  · rw [refused] at requested
    cases requested
    exact absurd rfl granted
  · rw [accepted] at requested
    cases requested
    have inv := allocateRequestedCcbs_inv psm cfg credits n (AllocateInv.init wf)
    rw [loop] at inv
    refine ⟨rfl, List.take_left, fun i below => ?_⟩
    rw [l2cuFindCcbByCid_pending]
    exact inv.named _ (getD_append_mem below)

/-- A local request for one channel on the link with one free block gets the
channel, and the pending request names its block. -/
theorem l2caConnectCreditBasedReq_pending_oneChannel :
    let requested := l2caConnectCreditBasedReq leCocProfileEnv 0x0080 ⟨100, 100⟩ 1 1 oneChannelLink
    PoolWf oneChannelLink ∧ requested.1 ≠ [] ∧
      requested.2.1.pendingEcocConnCnt = requested.1.length ∧
      requested.2.1.pendingEcocConnectionCids.take requested.1.length = requested.1 ∧
      PendingNamesCcbs requested.2.1 := by
  intro requested
  have wf : PoolWf oneChannelLink := ⟨by decide, by decide, by decide⟩
  have result : l2caConnectCreditBasedReq leCocProfileEnv 0x0080 ⟨100, 100⟩ 1 1 oneChannelLink =
      (requested.1, requested.2.1, requested.2.2) := rfl
  exact ⟨wf, by decide, l2caConnectCreditBasedReq_pending wf result (by decide)⟩

end LocalRequest

/-! ## Runs -/

section Runs

variable {env : EcocEnv} {mem : Nat → UInt8} {pPktEnd p id pktLen : Nat} {lcb lcb' : Lcb}
  {handled : Lcb × List SigOut}

end Runs

end L2cap
end BluetoothStack
