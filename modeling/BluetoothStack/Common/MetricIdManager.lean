import Mathlib.Data.Int.Interval
import Mathlib.Data.Finset.Card
import BluetoothStack.Library.ListMap
import BluetoothStack.Library.FuelLoop

namespace BluetoothStack
namespace Common

/-!
# MetricIdManager as common/metric_id_manager.cc allocates ids

The manager keeps the devices it has given a metric id in two LRU caches,
paired devices and devices only seen in a scan, and the ids in use in
id_set_.  AllocateId answers a cached address with its id and otherwise
searches from next_id_, wrapping from kMaxId to kMinId, for an id not in
id_set_; SaveDevice moves a device from the temporary cache to the paired
one; ForgetDevice drops a paired device.  The caches are the abstract
`Library.LruCache`, whose eviction `evictionOf` is what insert_or_assign
gives back.  log::fatal and a call of an empty callback are none.

The ids stay a partial injection into [kMinId, kMaxId] that id_set_
records (`Assigned`): every call keeps it, and since the caches hold fewer
devices than there are ids, the search always finds a free one.
-/

def kMaxNumUnpairedDevicesInMemory : Nat := 200

def kMaxNumPairedDevicesInMemory : Nat := 65000

def kMinId : Int := 1

/-- 2^16 - 2 -/
def kMaxId : Int := 65534

/-- The two caches, the ids in use, the next id to try, and the callbacks
Init installs (none before). -/
structure MetricIdManager (Address : Type) where
  pairedDeviceCache : Library.LruCache Address Int
  temporaryDeviceCache : Library.LruCache Address Int
  idSet : Finset Int
  nextId : Int
  initialized : Bool
  saveIdCallback : Option (Address → Int → Bool)
  forgetDeviceCallback : Option (Address → Int → Bool)

namespace MetricIdManager

variable {Address : Type}

def isValidId (id : Int) : Bool :=
  id ≥ kMinId && id ≤ kMaxId

/-- The constructor: empty caches of the two capacities. -/
def create : MetricIdManager Address :=
  ⟨⟨kMaxNumPairedDevicesInMemory, .empty, by decide, Nat.zero_le _⟩,
    ⟨kMaxNumUnpairedDevicesInMemory, .empty, by decide, Nat.zero_le _⟩, ∅, kMinId, false, none, none⟩

/-- id_set_.erase(id), then the forget callback, whose answer is dropped. -/
def forgetDevicePostprocess (m : MetricIdManager Address) (_macAddress : Address) (id : Int) :
    Option (MetricIdManager Address) :=
  m.forgetDeviceCallback.map fun _ => { m with idSet := m.idSet.erase id }

variable [DecidableEq Address]

/-- One entry of the paired map in Init. -/
def initEntry (m : MetricIdManager Address) (entry : Address × Int) : Option (MetricIdManager Address) :=
  if entry.2 < kMinId ∨ entry.2 > kMaxId then none
  else
    let inserted := { m with pairedDeviceCache := m.pairedDeviceCache.insertOrAssign entry.1 entry.2 }
    let inserted := match m.pairedDeviceCache.evictionOf entry.1 with
      | some evicted => inserted.forgetDevicePostprocess evicted.1 evicted.2
      | none => some inserted
    inserted.map fun m => { m with idSet := insert entry.2 m.idSet, nextId := max m.nextId (entry.2 + 1) }

/-- Init walks the paired map in its iteration order, which the model takes
as the order of the entries. -/
def init (m : MetricIdManager Address) (pairedDeviceMap : Library.ListMap Address Int)
    (saveIdCallback forgetDeviceCallback : Address → Int → Bool) : Option (Bool × MetricIdManager Address) :=
  if m.initialized then some (false, m)
  else if pairedDeviceMap.size > kMaxNumPairedDevicesInMemory then none
  else
    (pairedDeviceMap.entries.foldlM initEntry { m with nextId := kMinId }).map fun m =>
      (true, { m with
        nextId := if m.nextId > kMaxId then kMinId else m.nextId
        saveIdCallback := some saveIdCallback
        forgetDeviceCallback := some forgetDeviceCallback
        initialized := true })

/-- One round of the search for an id that is not in id_set_. -/
def nextIdRound (idSet : Finset Int) (nextId : Int) : FuelLoop.Flow Int Int :=
  if nextId ∈ idSet then .next (if nextId + 1 > kMaxId then kMinId else nextId + 1)
  else .exit nextId

/-- Rounds enough to try every id once. -/
def kIdRounds : Nat :=
  (kMaxId - kMinId + 1).toNat

def allocateId (m : MetricIdManager Address) (macAddress : Address) : Option (Int × MetricIdManager Address) :=
  let paired := m.pairedDeviceCache.find macAddress
  match paired.1 with
  | some id => some (id, { m with pairedDeviceCache := paired.2 })
  | none =>
    let temporary := m.temporaryDeviceCache.find macAddress
    match temporary.1 with
    | some id => some (id, { m with pairedDeviceCache := paired.2, temporaryDeviceCache := temporary.2 })
    | none =>
      (FuelLoop.run (nextIdRound m.idSet) kIdRounds m.nextId).map fun id =>
        -- id_set_.extract of the evicted id, without the forget callback
        let idSet := match temporary.2.evictionOf macAddress with
          | some evicted => (insert id m.idSet).erase evicted.2
          | none => insert id m.idSet
        (id, { m with
          pairedDeviceCache := paired.2
          temporaryDeviceCache := temporary.2.insertOrAssign macAddress id
          idSet := idSet
          nextId := if id + 1 > kMaxId then kMinId else id + 1 })

def saveDevice (m : MetricIdManager Address) (macAddress : Address) : Option (Bool × MetricIdManager Address) :=
  -- contains() warms the key through find()
  let paired := m.pairedDeviceCache.find macAddress
  if paired.1.isSome then some (true, { m with pairedDeviceCache := paired.2 })
  else
    let temporary := m.temporaryDeviceCache.find macAddress
    if !temporary.1.isSome then
      some (false, { m with pairedDeviceCache := paired.2, temporaryDeviceCache := temporary.2 })
    else
      let opt := temporary.2.extract macAddress
      match opt.1 with
      | none => some (false, { m with pairedDeviceCache := paired.2, temporaryDeviceCache := opt.2 })
      | some id =>
        let saved := { m with
          pairedDeviceCache := paired.2.insertOrAssign macAddress id
          temporaryDeviceCache := opt.2 }
        let saved := match paired.2.evictionOf macAddress with
          | some evicted => saved.forgetDevicePostprocess evicted.1 evicted.2
          | none => some saved
        saved.bind fun saved => saved.saveIdCallback.map fun callback => (callback macAddress id, saved)

def forgetDevice (m : MetricIdManager Address) (macAddress : Address) : Option (MetricIdManager Address) :=
  match (m.pairedDeviceCache.extract macAddress).1 with
  | none => some m
  | some id =>
    ({ m with pairedDeviceCache := (m.pairedDeviceCache.extract macAddress).2 }).forgetDevicePostprocess
      macAddress id

/-- The calls after Init. -/
inductive Call (Address : Type) where
  | allocateId (macAddress : Address)
  | saveDevice (macAddress : Address)
  | forgetDevice (macAddress : Address)

def call (m : MetricIdManager Address) : Call Address → Option (MetricIdManager Address)
  | .allocateId macAddress => (m.allocateId macAddress).map Prod.snd
  | .saveDevice macAddress => (m.saveDevice macAddress).map Prod.snd
  | .forgetDevice macAddress => m.forgetDevice macAddress

/-- One call that returns. -/
def Step (m m' : MetricIdManager Address) : Prop :=
  ∃ input, m.call input = some m'

end MetricIdManager

end Common
end BluetoothStack
