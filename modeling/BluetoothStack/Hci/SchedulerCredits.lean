import BluetoothStack.Hci.RoundRobinScheduler

namespace BluetoothStack
namespace Hci

open Common

/-!
# Credits and fragments of the round-robin scheduler

The credits of a link type stand for the controller's free ACL buffers: a
credit is spent when `handle_enqueue_next_fragment` hands a fragment to the
HCI queue and comes back when the controller reports the fragment completed.
`Unregister` instead gives back `number_of_sent_packets_`, which
`buffer_packet` raises when it queues a packet's fragments, before any of
them is sent, and it drops those fragments without sending them.  A
connection that goes away between `buffer_packet` and the HCI queue taking
its fragment therefore leaves its type with one credit more than the
controller has buffers (`unregister_credits_unsent_fragment`).
-/

/-- The two levels of `fragments_to_send_`, as numerals of `Fin 2`. -/
local instance schedulerLevelsNeZero : NeZero 2 := ⟨by decide⟩

namespace RoundRobinScheduler

/-! ## One packet, then `Unregister` -/

section Unsent

variable (numAclPacketBuffers aclPacketLength totalNumLePackets leDataPacketLength handle : Nat)
  (packet : AclPacket)

/-- The scheduler after `Register` of a classic connection with one packet
queued: the round robin has started, and the connection has a dequeue
callback. -/
def registeredOne : RoundRobinScheduler :=
  { create numAclPacketBuffers aclPacketLength totalNumLePackets leDataPacketLength with
    aclQueueHandlers := [(handle, ⟨.classic, [packet], true, 0, false⟩)] }

/-- The scheduler after `buffer_packet` of that packet, short enough for one
fragment: the fragment is queued and counted as sent. -/
def bufferedOne : RoundRobinScheduler :=
  { create numAclPacketBuffers aclPacketLength totalNumLePackets leDataPacketLength with
    aclQueueHandlers := [(handle, ⟨.classic, [], false, 1, false⟩)]
    fragmentsToSend := MultiPriorityQueue.create.push ⟨.classic, handle, ⟨handle,
      if packet.flushable then .firstAutomaticallyFlushable else .firstNonAutomaticallyFlushable,
      packet.payload⟩⟩ 0
    enqueueRegistered := true }

theorem register_one (buffers : 0 < numAclPacketBuffers) :
    (create numAclPacketBuffers aclPacketLength totalNumLePackets leDataPacketLength).register .classic handle
      [packet] = some (registeredOne numAclPacketBuffers aclPacketLength totalNumLePackets leDataPacketLength
        handle packet) := by
  have credited : (numAclPacketBuffers == 0) = false := beq_false_of_ne (Nat.pos_iff_ne_zero.mp buffers)
  simp [register, create, startRoundRobin, registeredOne, bufferFull, credited]

theorem bufferPacket_one (fits : packet.payload.length ≤ aclPacketLength) :
    (registeredOne numAclPacketBuffers aclPacketLength totalNumLePackets leDataPacketLength handle packet).bufferPacket
      handle = some (bufferedOne numAclPacketBuffers aclPacketLength totalNumLePackets leDataPacketLength
        handle packet) := by
  simp [bufferPacket, registeredOne, bufferedOne, create, mtu, fits, updateHandler, unregisterAllConnections,
    sendNextFragment]

/-- `Unregister` before the HCI queue took the fragment: the fragment is
dropped unsent, and the one credit counted for it is given back all the same. -/
theorem unregister_one (room : numAclPacketBuffers + 1 < 65536) :
    (bufferedOne numAclPacketBuffers aclPacketLength totalNumLePackets leDataPacketLength handle packet).unregister
      handle = some { create numAclPacketBuffers aclPacketLength totalNumLePackets leDataPacketLength with
        aclPacketCredits := numAclPacketBuffers + 1
        enqueueRegistered := true } := by
  simp [unregister, bufferedOne, create, setCredits, credits, popWhile, Nat.mod_eq_of_lt room]

end Unsent

/-- A classic connection registered with one packet, the packet queued as one
fragment by its dequeue callback, and the connection unregistered before the
HCI queue takes the fragment: no connection is left and nothing was sent, yet
the classic credits exceed the controller's buffer count by one. -/
theorem unregister_credits_unsent_fragment
    (numAclPacketBuffers aclPacketLength totalNumLePackets leDataPacketLength handle : Nat)
    (packet : AclPacket) (buffers : 0 < numAclPacketBuffers) (room : numAclPacketBuffers + 1 < 65536)
    (fits : packet.payload.length ≤ aclPacketLength) :
    ∃ s, Relation.ReflTransGen SchedulerStep
        (create numAclPacketBuffers aclPacketLength totalNumLePackets leDataPacketLength) s ∧
      s.aclQueueHandlers = [] ∧ s.fragmentsToSend.toList = [] ∧
      s.aclPacketCredits = s.maxAclPacketCredits + 1 := by
  have registered := register_one numAclPacketBuffers aclPacketLength totalNumLePackets leDataPacketLength
    handle packet buffers
  have buffered := bufferPacket_one numAclPacketBuffers aclPacketLength totalNumLePackets leDataPacketLength
    handle packet fits
  have unregistered := unregister_one numAclPacketBuffers aclPacketLength totalNumLePackets leDataPacketLength
    handle packet room
  -- the dequeue callback runs while it is registered
  have found : (registeredOne numAclPacketBuffers aclPacketLength totalNumLePackets leDataPacketLength handle
      packet).aclQueueHandlers.lookup handle = some ⟨.classic, [packet], true, 0, false⟩ := by
    simp [registeredOne]
  have run := (Relation.ReflTransGen.single (SchedulerStep.register .classic handle [packet] registered)).tail
    (SchedulerStep.bufferPacket handle found rfl buffered) |>.tail (SchedulerStep.unregister handle unregistered)
  exact ⟨_, run, rfl, rfl, rfl⟩

theorem unregister_credits_unsent_fragment_eight :
    0 < 8 ∧ 8 + 1 < 65536 ∧ ([1, 2, 3] : List UInt8).length ≤ 1021 ∧
      ∃ s, Relation.ReflTransGen SchedulerStep (create 8 1021 8 251) s ∧
        s.aclQueueHandlers = [] ∧ s.fragmentsToSend.toList = [] ∧
        s.aclPacketCredits = s.maxAclPacketCredits + 1 :=
  ⟨by decide, by decide, by decide,
    unregister_credits_unsent_fragment 8 1021 8 251 1 ⟨true, [1, 2, 3]⟩ (by decide) (by decide) (by decide)⟩

end RoundRobinScheduler

end Hci
end BluetoothStack
