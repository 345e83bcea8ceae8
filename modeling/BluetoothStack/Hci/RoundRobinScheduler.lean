import Mathlib.Logic.Relation
import BluetoothStack.Packet.BitInserter
import BluetoothStack.Common.MultiPriorityQueue

namespace BluetoothStack
namespace Hci

open Common

/-!
# The round-robin scheduler of outgoing ACL data

`RoundRobinScheduler` sits between the ACL connections and the HCI queue.
Each connection registers the down end of its queue.  When the controller has
buffer room, `start_round_robin` registers a dequeue callback on every
connection whose link type has credits, and the first connection to offer a
packet is served by `buffer_packet`: the packet is cut into fragments of the
type's HCI MTU and queued in `fragments_to_send_`, and every dequeue callback
is withdrawn again.  The HCI queue takes fragments through
`handle_enqueue_next_fragment`, one credit each, and the controller returns
credits with its Number Of Completed Packets events (`incoming_acl_credits`).
`Unregister` drops a connection and the leading fragments of it that are still
queued, and gives back every credit counted in its `number_of_sent_packets_`.

The model keeps of each connection its queue of packets (what `TryDequeue`
returns, in order), of each fragment its link type, handle, boundary flag and
bytes, and the counters as `uint16_t` values.  A registered callback is a
flag; the callbacks themselves are the events of `SchedulerStep`, and a task
posted to the handler (`start_round_robin`) is counted and run by a later
step.  An `assert` that fails aborts: the function returns `none`.  The
fragments are those of the model of `packet::FragmentingInserter`
(`Packet.getFragments`), and they wait in the two-level
`Common.MultiPriorityQueue`, whose `pop` of an empty queue is undefined and
so `none` as well.
-/

/-- `RoundRobinScheduler::ConnectionType`. -/
inductive ConnectionType
  | classic
  | le
  deriving DecidableEq, Repr

/-- The packet boundary flag of an HCI ACL data packet. -/
inductive PacketBoundaryFlag
  | firstNonAutomaticallyFlushable
  | continuingFragment
  | firstAutomaticallyFlushable
  deriving DecidableEq, Repr

/-! ## Fragmentation and the queue of fragments -/

/-- `AclFragmenter::GetFragments`: the packet serialised into a
`packet::FragmentingInserter` of the MTU, one `insert_byte` a byte. -/
def aclFragmenterGetFragments (mtu : Nat) (packet : List UInt8) : List (List UInt8) :=
  Packet.getFragments mtu (packet.map fun byte => (byte, 8))

/-- The loop of `Unregister` over `fragments_to_send_`: pop while the front
item satisfies `p`, at most `fuel` times. -/
def popWhile {α : Type} (p : α → Bool) : Nat → MultiPriorityQueue α 2 → MultiPriorityQueue α 2
  | 0, queue => queue
  | fuel + 1, queue =>
      match queue.front, queue.pop with
      | some t, some popped => if p t then popWhile p fuel popped else queue
      | _, _ => queue

/-! ## The scheduler -/

/-- A packet offered by a connection: its bytes and whether it may be flushed. -/
structure AclPacket where
  flushable : Bool
  payload : List UInt8

/-- `AclBuilder`: the handle, the boundary flag and the bytes of an HCI ACL
data packet (the broadcast flag is always point to point). -/
structure AclBuilder where
  handle : Nat
  packetBoundaryFlag : PacketBoundaryFlag
  payload : List UInt8

/-- `RoundRobinScheduler::acl_queue_handler`, with the packets waiting in the
connection's queue. -/
structure AclQueueHandler where
  connectionType : ConnectionType
  queue : List AclPacket
  dequeueIsRegistered : Bool
  numberOfSentPackets : Nat
  highPriority : Bool

/-- An entry of `fragments_to_send_`. -/
structure QueuedFragment where
  connectionType : ConnectionType
  handle : Nat
  builder : AclBuilder

/-- The state of `RoundRobinScheduler`.  `acl_queue_handlers_` is kept as a
list of handles with their entries; `postedStarts` counts the
`start_round_robin` tasks posted to the handler and not yet run. -/
structure RoundRobinScheduler where
  aclQueueHandlers : List (Nat × AclQueueHandler)
  fragmentsToSend : MultiPriorityQueue QueuedFragment 2
  maxAclPacketCredits : Nat
  aclPacketCredits : Nat
  leMaxAclPacketCredits : Nat
  leAclPacketCredits : Nat
  hciMtu : Nat
  leHciMtu : Nat
  enqueueRegistered : Bool
  postedStarts : Nat

namespace RoundRobinScheduler

/-- The constructor: both credit counters start at the controller's buffer
counts, and the MTUs are its packet lengths. -/
def create (numAclPacketBuffers aclPacketLength totalNumLePackets leDataPacketLength : Nat) :
    RoundRobinScheduler where
  aclQueueHandlers := []
  fragmentsToSend := .create
  maxAclPacketCredits := numAclPacketBuffers
  aclPacketCredits := numAclPacketBuffers
  leMaxAclPacketCredits := totalNumLePackets
  leAclPacketCredits := totalNumLePackets
  hciMtu := aclPacketLength
  leHciMtu := leDataPacketLength
  enqueueRegistered := false
  postedStarts := 0

/-- The credit counter of a link type. -/
def credits (s : RoundRobinScheduler) : ConnectionType → Nat
  | .classic => s.aclPacketCredits
  | .le => s.leAclPacketCredits

/-- The buffer count of a link type. -/
def maxCredits (s : RoundRobinScheduler) : ConnectionType → Nat
  | .classic => s.maxAclPacketCredits
  | .le => s.leMaxAclPacketCredits

/-- The credit counter of a link type set to `n`. -/
def setCredits (s : RoundRobinScheduler) (connectionType : ConnectionType) (n : Nat) : RoundRobinScheduler :=
  match connectionType with
  | .classic => { s with aclPacketCredits := n }
  | .le => { s with leAclPacketCredits := n }

/-- The HCI MTU of a link type. -/
def mtu (s : RoundRobinScheduler) : ConnectionType → Nat
  | .classic => s.hciMtu
  | .le => s.leHciMtu

/-- `classic_buffer_full || le_buffer_full` for a fragment or a connection
of the given type. -/
def bufferFull (s : RoundRobinScheduler) (connectionType : ConnectionType) : Bool :=
  (s.aclPacketCredits == 0 && connectionType == .classic) ||
    (s.leAclPacketCredits == 0 && connectionType == .le)

/-- The entry of a handle changed by `f`. -/
def updateHandler (s : RoundRobinScheduler) (handle : Nat) (f : AclQueueHandler → AclQueueHandler) :
    RoundRobinScheduler :=
  { s with aclQueueHandlers := s.aclQueueHandlers.map fun entry =>
      if entry.1 = handle then (entry.1, f entry.2) else entry }

/-- `send_next_fragment`: the scheduler offers fragments to the HCI queue. -/
def sendNextFragment (s : RoundRobinScheduler) : RoundRobinScheduler :=
  { s with enqueueRegistered := true }

/-- `unregister_all_connections`. -/
def unregisterAllConnections (s : RoundRobinScheduler) : RoundRobinScheduler :=
  { s with aclQueueHandlers := s.aclQueueHandlers.map fun entry =>
      (entry.1, { entry.2 with dequeueIsRegistered := false }) }

/-- `start_round_robin`.  With fragments queued it only resumes sending when
the front fragment's type has credits.  Otherwise every connection whose type
has credits gets a dequeue callback; the loop visits each connection once, so
where it starts (`starting_point_`) changes only the order of registration. -/
def startRoundRobin (s : RoundRobinScheduler) : RoundRobinScheduler :=
  if s.aclPacketCredits == 0 && s.leAclPacketCredits == 0 then s
  else
    match s.fragmentsToSend.front with
    | some fragment => if s.bufferFull fragment.connectionType then s else s.sendNextFragment
    | none =>
        { s with aclQueueHandlers := s.aclQueueHandlers.map fun entry =>
            if !entry.2.dequeueIsRegistered && !s.bufferFull entry.2.connectionType then
              (entry.1, { entry.2 with dequeueIsRegistered := true })
            else entry }

/-- `Register`: a handle not yet registered (the code asserts it). -/
def register (s : RoundRobinScheduler) (connectionType : ConnectionType) (handle : Nat)
    (queue : List AclPacket) : Option RoundRobinScheduler :=
  if s.aclQueueHandlers.any (·.1 == handle) then none
  else
    let s := { s with aclQueueHandlers := s.aclQueueHandlers ++ [(handle, ⟨connectionType, queue, false, 0, false⟩)] }
    some (if s.fragmentsToSend.size == 0 then s.startRoundRobin else s)

/-- The upper layer puts a packet in the queue of a connection. -/
def enqueueAclPacket (s : RoundRobinScheduler) (handle : Nat) (packet : AclPacket) : RoundRobinScheduler :=
  s.updateHandler handle fun handler => { handler with queue := handler.queue ++ [packet] }

/-- `Unregister`: a registered handle (the code asserts it).  The fragments of
the handle at the front of the queue are dropped, and every packet counted in
its `number_of_sent_packets_` is credited back to its type. -/
def unregister (s : RoundRobinScheduler) (handle : Nat) : Option RoundRobinScheduler :=
  match s.aclQueueHandlers.lookup handle with
  | none => none
  | some aclQueueHandler =>
      let fragmentsToSend :=
        popWhile (·.handle == handle) s.fragmentsToSend.size s.fragmentsToSend
      let connectionType := aclQueueHandler.connectionType
      let s := s.setCredits connectionType
        ((s.credits connectionType + aclQueueHandler.numberOfSentPackets) % 65536)
      let s := { s with fragmentsToSend := fragmentsToSend,
                        aclQueueHandlers := s.aclQueueHandlers.filter (·.1 != handle) }
      some (if !s.enqueueRegistered && !s.aclQueueHandlers.isEmpty then
        { s with postedStarts := s.postedStarts + 1 } else s)

/-- The loop of `buffer_packet` over the fragments of a packet too long for
one: the first keeps the packet's boundary flag, the others continue it. -/
def pushFragments (connectionType : ConnectionType) (handle : Nat) (priority : Fin 2) :
    PacketBoundaryFlag → MultiPriorityQueue QueuedFragment 2 → List (List UInt8) →
      MultiPriorityQueue QueuedFragment 2
  | _, queue, [] => queue
  | packetBoundaryFlag, queue, fragment :: rest =>
      pushFragments connectionType handle priority .continuingFragment
        (queue.push ⟨connectionType, handle, ⟨handle, packetBoundaryFlag, fragment⟩⟩ priority) rest

/-- `buffer_packet`: the dequeue callback of a connection.  A vanished
connection is ignored; the code asserts that the queue has a packet and that
fragments were queued. -/
def bufferPacket (s : RoundRobinScheduler) (aclHandle : Nat) : Option RoundRobinScheduler :=
  match s.aclQueueHandlers.lookup aclHandle with
  | none => some s
  | some aclQueueHandler =>
      match aclQueueHandler.queue with
      | [] => none
      | packet :: rest =>
          let connectionType := aclQueueHandler.connectionType
          let mtu := s.mtu connectionType
          let packetBoundaryFlag :=
            if packet.flushable then PacketBoundaryFlag.firstAutomaticallyFlushable
            else PacketBoundaryFlag.firstNonAutomaticallyFlushable
          let aclPriority : Fin 2 := if aclQueueHandler.highPriority then 1 else 0
          let queued :=
            if packet.payload.length ≤ mtu then
              (s.fragmentsToSend.push
                ⟨connectionType, aclHandle, ⟨aclHandle, packetBoundaryFlag, packet.payload⟩⟩ aclPriority, 1)
            else
              let fragments := aclFragmenterGetFragments mtu packet.payload
              (pushFragments connectionType aclHandle aclPriority packetBoundaryFlag s.fragmentsToSend
                fragments, fragments.length)
          let s := { s with fragmentsToSend := queued.1 }
          let s := s.updateHandler aclHandle fun handler =>
            { handler with queue := rest,
                           numberOfSentPackets := (handler.numberOfSentPackets + queued.2) % 65536 }
          if queued.1.size = 0 then none
          else some s.unregisterAllConnections.sendNextFragment

/-- `handle_enqueue_next_fragment`: the HCI queue takes the front fragment,
for one credit of its type (the code asserts there is one), or `nullptr` when
none is queued.  Sending stops when the queue empties or the next fragment's
type has no credits. -/
def handleEnqueueNextFragment (s : RoundRobinScheduler) :
    Option (Option AclBuilder × RoundRobinScheduler) :=
  match s.fragmentsToSend.front with
  | none => some (none, { s with enqueueRegistered := false, postedStarts := s.postedStarts + 1 })
  | some fragment =>
      let connectionType := fragment.connectionType
      if s.credits connectionType = 0 then none
      else
        let s := s.setCredits connectionType (s.credits connectionType - 1)
        match s.fragmentsToSend.pop with
        | none => none
        | some popped =>
            let s := { s with fragmentsToSend := popped }
            let s :=
              match s.fragmentsToSend.front with
              | none => { s with enqueueRegistered := false, postedStarts := s.postedStarts + 1 }
              | some next => if s.bufferFull next.connectionType then { s with enqueueRegistered := false } else s
            some (some fragment.builder, s)

/-- `incoming_acl_credits`: the controller has completed `credits` packets of
a handle.  The count of the handle goes down, not below zero; the credits of
its type go up, not above the buffer count, and a type that had none resumes
the round robin. -/
def incomingAclCredits (s : RoundRobinScheduler) (handle credits : Nat) : RoundRobinScheduler :=
  match s.aclQueueHandlers.lookup handle with
  | none => s
  | some aclQueueHandler =>
      let s := s.updateHandler handle fun handler =>
        { handler with numberOfSentPackets :=
            if credits ≤ handler.numberOfSentPackets then handler.numberOfSentPackets - credits else 0 }
      let connectionType := aclQueueHandler.connectionType
      let creditWasZero := s.credits connectionType == 0
      let raised := (s.credits connectionType + credits) % 65536
      let s := s.setCredits connectionType
        (if s.maxCredits connectionType < raised then s.maxCredits connectionType else raised)
      if creditWasZero then s.startRoundRobin else s

/-- A posted `start_round_robin` task runs. -/
def runPostedStart (s : RoundRobinScheduler) : RoundRobinScheduler :=
  { s with postedStarts := s.postedStarts - 1 }.startRoundRobin

end RoundRobinScheduler

open RoundRobinScheduler in
/-- The events of the scheduler: calls from the ACL manager, the upper layer
filling a queue, the dequeue callback of a connection that has one, the HCI
queue taking a fragment while the scheduler offers them, completed packets
from the controller, and a posted task.  A step whose assertion fails has no
successor. -/
inductive SchedulerStep : RoundRobinScheduler → RoundRobinScheduler → Prop
  | register {s s' : RoundRobinScheduler} (connectionType : ConnectionType) (handle : Nat)
      (queue : List AclPacket) (registered : s.register connectionType handle queue = some s') :
      SchedulerStep s s'
  | unregister {s s' : RoundRobinScheduler} (handle : Nat) (unregistered : s.unregister handle = some s') :
      SchedulerStep s s'
  | enqueueAclPacket (s : RoundRobinScheduler) (handle : Nat) (packet : AclPacket) :
      SchedulerStep s (s.enqueueAclPacket handle packet)
  | bufferPacket {s s' : RoundRobinScheduler} (handle : Nat) {handler : AclQueueHandler}
      (found : s.aclQueueHandlers.lookup handle = some handler) (callback : handler.dequeueIsRegistered = true)
      (buffered : s.bufferPacket handle = some s') : SchedulerStep s s'
  | handleEnqueueNextFragment {s s' : RoundRobinScheduler} {fragment : Option AclBuilder}
      (offered : s.enqueueRegistered = true) (taken : s.handleEnqueueNextFragment = some (fragment, s')) :
      SchedulerStep s s'
  | incomingAclCredits (s : RoundRobinScheduler) (handle credits : Nat) :
      SchedulerStep s (s.incomingAclCredits handle credits)
  | postedStart (s : RoundRobinScheduler) (posted : 0 < s.postedStarts) :
      SchedulerStep s s.runPostedStart

end Hci
end BluetoothStack
