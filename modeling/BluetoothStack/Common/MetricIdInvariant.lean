import BluetoothStack.Common.MetricIdManager

namespace BluetoothStack
namespace Common

/-!
# The ids of MetricIdManager stay distinct

`Assigned devices idSet` says that the devices of both caches are distinct,
hold distinct valid ids, and that id_set_ is exactly their ids.  Each cache
operation the manager makes reorders the devices, adds a new device with a
free id, or drops a device with its id; `Assigned` survives each of these
(`perm`, `cons`, `remove`), and from there each call keeps `Inv`.  The
search of AllocateId ends because the caches hold at most 65200 devices
and there are 65534 ids.
-/

namespace MetricIdManager

variable {Address : Type} [DecidableEq Address]

/-- The devices of both caches with their ids. -/
def devices (m : MetricIdManager Address) : List (Address × Int) :=
  m.pairedDeviceCache.listMap.entries ++ m.temporaryDeviceCache.listMap.entries

/-- Distinct devices with distinct valid ids, which idSet records. -/
structure Assigned (devices : List (Address × Int)) (idSet : Finset Int) : Prop where
  keys : (devices.map Prod.fst).Nodup
  ids : (devices.map Prod.snd).Nodup
  valid : ∀ device ∈ devices, isValidId device.2 = true
  recorded : idSet = (devices.map Prod.snd).toFinset

omit [DecidableEq Address] in
theorem isValidId_iff {id : Int} : isValidId id = true ↔ 1 ≤ id ∧ id ≤ 65534 := by
  unfold isValidId kMinId kMaxId
  simp only [ge_iff_le, Bool.and_eq_true, decide_eq_true_eq]

theorem filter_key_of_not_mem {devices : List (Address × Int)} {key : Address}
    (absent : key ∉ devices.map Prod.fst) : devices.filter (·.1 ≠ key) = devices := by
  rw [List.filter_eq_self]
  intro device member
  have different : device.1 ≠ key := fun same => absent (same ▸ List.mem_map_of_mem member)
  simpa using different

namespace Assigned

variable {devices devices' : List (Address × Int)} {idSet : Finset Int}

omit [DecidableEq Address] in
theorem perm (assigned : Assigned devices idSet) (reordered : devices'.Perm devices) : Assigned devices' idSet := by
  refine ⟨(reordered.map Prod.fst).nodup_iff.mpr assigned.keys, (reordered.map Prod.snd).nodup_iff.mpr assigned.ids,
    fun device member => assigned.valid device (reordered.subset member), ?_⟩
  rw [assigned.recorded]
  exact List.toFinset_eq_of_perm _ _ (reordered.map Prod.snd).symm

omit [DecidableEq Address] in
/-- A new device with a free valid id. -/
theorem cons (assigned : Assigned devices idSet) {key : Address} {id : Int} (newKey : key ∉ devices.map Prod.fst)
    (newId : id ∉ idSet) (valid : isValidId id = true) : Assigned ((key, id) :: devices) (insert id idSet) := by
  have freshId : id ∉ devices.map Prod.snd := by
    rw [assigned.recorded, List.mem_toFinset] at newId
    exact newId
  refine ⟨List.nodup_cons.mpr ⟨newKey, assigned.keys⟩, List.nodup_cons.mpr ⟨freshId, assigned.ids⟩, ?_, ?_⟩
  · intro device member
    rcases List.mem_cons.mp member with rfl | kept
    · exact valid
    · exact assigned.valid device kept
  · rw [List.map_cons, List.toFinset_cons, assigned.recorded]

/-- A device dropped with its id. -/
theorem remove (assigned : Assigned devices idSet) {key : Address} {id : Int} (member : (key, id) ∈ devices) :
    Assigned (devices.filter (·.1 ≠ key)) (idSet.erase id) := by
  have sublist : (devices.filter (·.1 ≠ key)).Sublist devices := List.filter_sublist
  refine ⟨assigned.keys.sublist (sublist.map _), assigned.ids.sublist (sublist.map _),
    fun device kept => assigned.valid device (sublist.subset kept), ?_⟩
  ext other
  rw [Finset.mem_erase, assigned.recorded, List.mem_toFinset, List.mem_toFinset]
  constructor
  · rintro ⟨different, inList⟩
    obtain ⟨device, inDevices, rfl⟩ := List.mem_map.mp inList
    have otherKey : device.1 ≠ key := by
      intro same
      have equal := List.inj_on_of_nodup_map assigned.keys inDevices member same
      exact different (by rw [equal])
    exact List.mem_map.mpr ⟨device, List.mem_filter.mpr ⟨inDevices, by simpa using otherKey⟩, rfl⟩
  · intro inFiltered
    obtain ⟨device, kept, rfl⟩ := List.mem_map.mp inFiltered
    rw [List.mem_filter] at kept
    refine ⟨fun same => ?_, List.mem_map_of_mem kept.1⟩
    have equal := List.inj_on_of_nodup_map assigned.ids kept.1 member same
    rw [equal] at kept
    simp at kept

omit [DecidableEq Address] in
/-- The two caches share no device. -/
theorem key_not_mem_right {front back : List (Address × Int)} (assigned : Assigned (front ++ back) idSet)
    {device : Address × Int} (member : device ∈ front) : device.1 ∉ back.map Prod.fst := by
  have keys := assigned.keys
  rw [List.map_append, List.nodup_append] at keys
  exact fun inBack => keys.2.2 _ (List.mem_map_of_mem member) _ inBack rfl

omit [DecidableEq Address] in
theorem key_not_mem_left {front back : List (Address × Int)} (assigned : Assigned (front ++ back) idSet)
    {device : Address × Int} (member : device ∈ back) : device.1 ∉ front.map Prod.fst := by
  have keys := assigned.keys
  rw [List.map_append, List.nodup_append] at keys
  exact fun inFront => keys.2.2 _ inFront _ (List.mem_map_of_mem member) rfl

end Assigned

omit [DecidableEq Address] in
/-- What holds between calls: the ids are assigned, the caches have their
capacities, next_id_ is a valid id, and both callbacks are installed. -/
structure Inv (m : MetricIdManager Address) : Prop where
  assigned : Assigned m.devices m.idSet
  pairedCapacity : m.pairedDeviceCache.capacity = kMaxNumPairedDevicesInMemory
  temporaryCapacity : m.temporaryDeviceCache.capacity = kMaxNumUnpairedDevicesInMemory
  nextId : isValidId m.nextId = true
  saveIdCallback : m.saveIdCallback.isSome = true
  forgetDeviceCallback : m.forgetDeviceCallback.isSome = true

/-! ## The search for a free id -/

omit [DecidableEq Address] in
/-- From a valid id, the search meets a free one within kIdRounds rounds: the
cyclic distance to any free id goes down at every round. -/
theorem run_nextIdRound {idSet : Finset Int} {start free : Int} (startValid : isValidId start = true)
    (freeValid : isValidId free = true) (unused : free ∉ idSet) :
    ∃ id, id ∉ idSet ∧ isValidId id = true ∧ FuelLoop.run (nextIdRound idSet) kIdRounds start = some id := by
  have freeRange := isValidId_iff.mp freeValid
  have next : ∀ s s', isValidId s = true → nextIdRound idSet s = .next s' →
      isValidId s' = true ∧ ((free - s') % 65534).toNat < ((free - s) % 65534).toNat := by
    intro s s' valid round
    unfold nextIdRound at round
    split at round
    · rename_i used
      have different : s ≠ free := fun same => unused (same ▸ used)
      have range := isValidId_iff.mp valid
      cases round
      rw [isValidId_iff]
      by_cases wrap : s + 1 > kMaxId
      · rw [if_pos wrap]
        simp only [kMinId, kMaxId] at wrap ⊢
        omega
      · rw [if_neg wrap]
        simp only [kMaxId] at wrap
        omega
    · cases round
  have exit : ∀ s r, isValidId s = true → nextIdRound idSet s = .exit r → r ∉ idSet ∧ isValidId r = true := by
    intro s r valid round
    unfold nextIdRound at round
    split at round
    · cases round
    · rename_i notUsed
      cases round
      exact ⟨notUsed, valid⟩
  obtain ⟨id, ⟨notUsed, valid⟩, ran⟩ := FuelLoop.run_spec _ _ _ next exit startValid
  have below : ((free - start) % 65534).toNat < kIdRounds := by
    simp only [kIdRounds, kMinId, kMaxId]
    omega
  exact ⟨id, notUsed, valid, ran kIdRounds below⟩

omit [DecidableEq Address] in
/-- Fewer devices than ids: some valid id is free. -/
theorem Inv.exists_free {m : MetricIdManager Address} (inv : m.Inv) : ∃ free, isValidId free = true ∧ free ∉ m.idSet := by
  have length := List.toFinset_card_le (m.devices.map Prod.snd)
  have paired := m.pairedDeviceCache.size_le
  have temporary := m.temporaryDeviceCache.size_le
  rw [inv.pairedCapacity] at paired
  rw [inv.temporaryCapacity] at temporary
  simp only [devices, List.map_append, List.length_append, List.length_map] at length
  simp only [Library.ListMap.size, kMaxNumPairedDevicesInMemory, kMaxNumUnpairedDevicesInMemory] at paired temporary
  have card : m.idSet.card < (Finset.Icc (1 : Int) 65534).card := by
    rw [inv.assigned.recorded, Int.card_Icc]
    simp only [devices, List.map_append]
    have total : ((m.pairedDeviceCache.listMap.entries.map Prod.snd ++
        m.temporaryDeviceCache.listMap.entries.map Prod.snd).toFinset.card) < 65534 := by omega
    exact total
  obtain ⟨free, inRange, unused⟩ := Finset.exists_mem_notMem_of_card_lt_card card
  exact ⟨free, isValidId_iff.mpr (Finset.mem_Icc.mp inRange), unused⟩

omit [DecidableEq Address] in
/-- next_id_ after a wrap from kMaxId + 1 is a valid id again. -/
theorem isValidId_wrap {n : Int} (low : kMinId ≤ n) (high : n ≤ kMaxId + 1) :
    isValidId (if n > kMaxId then kMinId else n) = true := by
  simp only [kMinId, kMaxId] at low high
  by_cases wrap : n > kMaxId
  · rw [if_pos wrap, isValidId_iff]
    simp only [kMinId]
    omega
  · rw [if_neg wrap, isValidId_iff]
    simp only [kMaxId] at wrap
    omega

/-! ## Each call keeps the invariant -/

section Calls

variable {m : MetricIdManager Address}

theorem Inv.findPaired (inv : m.Inv) (macAddress : Address) :
    ({ m with pairedDeviceCache := (m.pairedDeviceCache.find macAddress).2 } : MetricIdManager Address).Inv :=
  { inv with assigned := inv.assigned.perm ((m.pairedDeviceCache.entries_find_perm macAddress).append_right _) }

theorem Inv.findTemporary (inv : m.Inv) (macAddress : Address) :
    ({ m with temporaryDeviceCache := (m.temporaryDeviceCache.find macAddress).2 } : MetricIdManager Address).Inv :=
  { inv with assigned := inv.assigned.perm ((m.temporaryDeviceCache.entries_find_perm macAddress).append_left _) }

omit [DecidableEq Address] in
theorem not_mem_keys_of_absent {macAddress : Address} (absent : ∀ cached, (macAddress, cached) ∉ m.devices) :
    macAddress ∉ m.pairedDeviceCache.listMap.keys ∧ macAddress ∉ m.temporaryDeviceCache.listMap.keys := by
  constructor
  · intro present
    obtain ⟨cached, member⟩ := Library.ListMap.mem_keys.mp present
    exact absent cached (List.mem_append_left _ member)
  · intro present
    obtain ⟨cached, member⟩ := Library.ListMap.mem_keys.mp present
    exact absent cached (List.mem_append_right _ member)

theorem allocateId_of_paired {macAddress : Address} {id : Int}
    (member : (macAddress, id) ∈ m.pairedDeviceCache.listMap.entries) :
    m.allocateId macAddress = some (id, { m with pairedDeviceCache := (m.pairedDeviceCache.find macAddress).2 }) := by
  simp only [allocateId, Library.LruCache.find_fst, Library.ListMap.find?_eq_some_iff.mpr member]

theorem allocateId_of_temporary {macAddress : Address} {id : Int}
    (notPaired : macAddress ∉ m.pairedDeviceCache.listMap.keys)
    (member : (macAddress, id) ∈ m.temporaryDeviceCache.listMap.entries) :
    m.allocateId macAddress =
      some (id, { m with temporaryDeviceCache := (m.temporaryDeviceCache.find macAddress).2 }) := by
  simp only [allocateId, Library.LruCache.find_fst, Library.ListMap.find?_eq_none_iff.mpr notPaired,
    Library.ListMap.find?_eq_some_iff.mpr member, Library.LruCache.find_snd_of_not_mem notPaired]

/-- A new address gets a free id and goes to the front of the temporary
cache, whose evicted device gives its id back. -/
theorem allocateId_of_new (inv : m.Inv) {macAddress : Address} (absent : ∀ cached, (macAddress, cached) ∉ m.devices) :
    ∃ id m', m.allocateId macAddress = some (id, m') ∧ m'.Inv ∧ id ∉ m.devices.map Prod.snd ∧
      (macAddress, id) ∈ m'.devices := by
  obtain ⟨notPaired, notTemporary⟩ := not_mem_keys_of_absent absent
  have newKey : macAddress ∉ m.devices.map Prod.fst := by
    rw [devices, List.map_append, List.mem_append]
    exact fun present => present.elim notPaired notTemporary
  obtain ⟨free, freeValid, unused⟩ := inv.exists_free
  obtain ⟨id, notUsed, valid, ran⟩ := run_nextIdRound inv.nextId freeValid unused
  have freshId : id ∉ m.devices.map Prod.snd := by
    rw [inv.assigned.recorded, List.mem_toFinset] at notUsed
    exact notUsed
  have nextValid : isValidId (if id + 1 > kMaxId then kMinId else id + 1) = true := by
    have range := isValidId_iff.mp valid
    apply isValidId_wrap <;> simp only [kMinId, kMaxId] <;> omega
  have capacity : (m.temporaryDeviceCache.insertOrAssign macAddress id).capacity = kMaxNumUnpairedDevicesInMemory := by
    rw [Library.LruCache.capacity_insertOrAssign, inv.temporaryCapacity]
  have added := inv.assigned.cons newKey notUsed valid
  rcases Library.LruCache.insertOrAssign_of_not_mem notTemporary id with
    ⟨noEviction, inserted⟩ | ⟨coldest, member, evicted, inserted⟩
  · have allocated : m.allocateId macAddress = some (id, { m with
        temporaryDeviceCache := m.temporaryDeviceCache.insertOrAssign macAddress id
        idSet := insert id m.idSet
        nextId := if id + 1 > kMaxId then kMinId else id + 1 }) := by
      simp only [allocateId, Library.LruCache.find_fst, Library.ListMap.find?_eq_none_iff.mpr notPaired,
        Library.ListMap.find?_eq_none_iff.mpr notTemporary, Library.LruCache.find_snd_of_not_mem notPaired,
        Library.LruCache.find_snd_of_not_mem notTemporary, ran, Option.map_some, noEviction]
    refine ⟨id, _, allocated, ⟨?_, inv.pairedCapacity, capacity, nextValid, inv.saveIdCallback,
      inv.forgetDeviceCallback⟩, freshId, ?_⟩
    · apply added.perm
      simp only [devices, inserted]
      exact List.perm_middle
    · simp [devices, inserted]
  · have allocated : m.allocateId macAddress = some (id, { m with
        temporaryDeviceCache := m.temporaryDeviceCache.insertOrAssign macAddress id
        idSet := (insert id m.idSet).erase coldest.2
        nextId := if id + 1 > kMaxId then kMinId else id + 1 }) := by
      simp only [allocateId, Library.LruCache.find_fst, Library.ListMap.find?_eq_none_iff.mpr notPaired,
        Library.ListMap.find?_eq_none_iff.mpr notTemporary, Library.LruCache.find_snd_of_not_mem notPaired,
        Library.LruCache.find_snd_of_not_mem notTemporary, ran, Option.map_some, evicted]
    -- the evicted device was in the temporary cache, so not paired and not the new one
    have different : macAddress ≠ coldest.1 :=
      fun same => notTemporary (same ▸ Library.LruCache.mem_keys_of_mem member)
    have removed := added.remove (List.mem_cons_of_mem _ (List.mem_append_right _ member))
    have filtered : ((macAddress, id) :: m.devices).filter (·.1 ≠ coldest.1) = (macAddress, id) ::
        (m.pairedDeviceCache.listMap.entries ++ m.temporaryDeviceCache.listMap.entries.filter (·.1 ≠ coldest.1)) := by
      rw [List.filter_cons_of_pos (by simpa using different), devices, List.filter_append,
        filter_key_of_not_mem (inv.assigned.key_not_mem_left member)]
    rw [filtered] at removed
    refine ⟨id, _, allocated, ⟨?_, inv.pairedCapacity, capacity, nextValid, inv.saveIdCallback,
      inv.forgetDeviceCallback⟩, freshId, ?_⟩
    · apply removed.perm
      simp only [devices, inserted]
      exact List.perm_middle
    · simp [devices, inserted]

/-- AllocateId returns, with the cached id of a cached address and a fresh
id otherwise. -/
theorem Inv.allocateId (inv : m.Inv) (macAddress : Address) :
    ∃ id m', m.allocateId macAddress = some (id, m') ∧ m'.Inv ∧
      ((∃ cached, (macAddress, cached) ∈ m.devices) → (macAddress, id) ∈ m.devices) ∧
      ((∀ cached, (macAddress, cached) ∉ m.devices) → id ∉ m.devices.map Prod.snd ∧ (macAddress, id) ∈ m'.devices) := by
  by_cases cached : ∃ cached, (macAddress, cached) ∈ m.devices
  · obtain ⟨id, member⟩ := cached
    rcases List.mem_append.mp member with paired | temporary
    · exact ⟨id, _, allocateId_of_paired paired, inv.findPaired macAddress, fun _ => member,
        fun absent => (absent id member).elim⟩
    · have notPaired : macAddress ∉ m.pairedDeviceCache.listMap.keys :=
        inv.assigned.key_not_mem_left temporary
      exact ⟨id, _, allocateId_of_temporary notPaired temporary, inv.findTemporary macAddress, fun _ => member,
        fun absent => (absent id member).elim⟩
  · have absent : ∀ cached, (macAddress, cached) ∉ m.devices := not_exists.mp cached
    obtain ⟨id, m', allocated, inv', fresh, member⟩ := allocateId_of_new inv absent
    exact ⟨id, m', allocated, inv', fun present => (cached present).elim, fun _ => ⟨fresh, member⟩⟩

open List in
/-- A device moved from the back list to the front of the front list leaves
the same devices. -/
theorem perm_of_moved {front back rest : List (Address × Int)} {device : Address × Int}
    (remaining : rest ~ back.filter (·.1 ≠ device.1)) (moved : back ~ device :: back.filter (·.1 ≠ device.1)) :
    device :: front ++ rest ~ front ++ back :=
  calc device :: front ++ rest
      _ ~ device :: (front ++ back.filter (·.1 ≠ device.1)) := (remaining.append_left front).cons device
      _ ~ front ++ device :: back.filter (·.1 ≠ device.1) := perm_middle.symm
      _ ~ front ++ back := moved.symm.append_left front

/-- SaveDevice of a device the temporary cache holds: it moves to the front of
the paired cache, and a paired device evicted for it gives its id back. -/
theorem saveDevice_of_temporary (inv : m.Inv) {macAddress : Address} {id : Int}
    (notPaired : macAddress ∉ m.pairedDeviceCache.listMap.keys)
    (member : (macAddress, id) ∈ m.temporaryDeviceCache.listMap.entries) :
    ∃ saved m', m.saveDevice macAddress = some (saved, m') ∧ m'.Inv := by
  have warmedMember : (macAddress, id) ∈ (m.temporaryDeviceCache.find macAddress).2.listMap.entries := by
    rw [Library.LruCache.entries_find_of_mem member]
    exact List.mem_cons_self
  have extracted : ((m.temporaryDeviceCache.find macAddress).2.extract macAddress).1 = some id := by
    rw [Library.LruCache.extract_fst]
    exact Library.ListMap.find?_eq_some_iff.mpr warmedMember
  -- what stays in the temporary cache is the cache without the device
  have remaining : ((m.temporaryDeviceCache.find macAddress).2.extract macAddress).2.listMap.entries.Perm
      (m.temporaryDeviceCache.listMap.entries.filter (·.1 ≠ macAddress)) := by
    rw [Library.LruCache.listMap_extract, Library.ListMap.entries_erase]
    exact (Library.LruCache.entries_find_perm _ _).filter _
  have moved : m.temporaryDeviceCache.listMap.entries.Perm
      ((macAddress, id) :: m.temporaryDeviceCache.listMap.entries.filter (·.1 ≠ macAddress)) :=
    Library.ListMap.perm_cons_filter_of_mem member
  obtain ⟨callback, installed⟩ := Option.isSome_iff_exists.mp inv.saveIdCallback
  have capacity : (m.pairedDeviceCache.insertOrAssign macAddress id).capacity = kMaxNumPairedDevicesInMemory := by
    rw [Library.LruCache.capacity_insertOrAssign, inv.pairedCapacity]
  rcases Library.LruCache.insertOrAssign_of_not_mem notPaired id with
    ⟨noEviction, inserted⟩ | ⟨coldest, coldMember, evicted, inserted⟩
  · have saved : m.saveDevice macAddress = some (callback macAddress id, { m with
        pairedDeviceCache := m.pairedDeviceCache.insertOrAssign macAddress id
        temporaryDeviceCache := ((m.temporaryDeviceCache.find macAddress).2.extract macAddress).2 }) := by
      simp only [saveDevice, Library.LruCache.find_fst, Library.ListMap.find?_eq_none_iff.mpr notPaired,
        Library.ListMap.find?_eq_some_iff.mpr member, Option.isSome_none, Option.isSome_some, Bool.not_true,
        Bool.false_eq_true, if_false, extracted, Library.LruCache.find_snd_of_not_mem notPaired, noEviction,
        Option.bind_some, installed, Option.map_some]
    refine ⟨_, _, saved, { inv with assigned := inv.assigned.perm ?_, pairedCapacity := capacity }⟩
    simp only [devices, inserted]
    exact perm_of_moved remaining moved
  · obtain ⟨forget, forgetInstalled⟩ := Option.isSome_iff_exists.mp inv.forgetDeviceCallback
    have saved : m.saveDevice macAddress = some (callback macAddress id, { m with
        pairedDeviceCache := m.pairedDeviceCache.insertOrAssign macAddress id
        temporaryDeviceCache := ((m.temporaryDeviceCache.find macAddress).2.extract macAddress).2
        idSet := m.idSet.erase coldest.2 }) := by
      simp only [saveDevice, Library.LruCache.find_fst, Library.ListMap.find?_eq_none_iff.mpr notPaired,
        Library.ListMap.find?_eq_some_iff.mpr member, Option.isSome_none, Option.isSome_some, Bool.not_true,
        Bool.false_eq_true, if_false, extracted, Library.LruCache.find_snd_of_not_mem notPaired, evicted,
        forgetDevicePostprocess, forgetInstalled, Option.map_some, Option.bind_some, installed]
    -- the evicted device was paired, so not temporary
    have removed := inv.assigned.remove (List.mem_append_left _ coldMember)
    have filtered : m.devices.filter (·.1 ≠ coldest.1) =
        m.pairedDeviceCache.listMap.entries.filter (·.1 ≠ coldest.1) ++ m.temporaryDeviceCache.listMap.entries := by
      rw [devices, List.filter_append, filter_key_of_not_mem (inv.assigned.key_not_mem_right coldMember)]
    rw [filtered] at removed
    refine ⟨_, _, saved, { inv with assigned := removed.perm ?_, pairedCapacity := capacity }⟩
    simp only [devices, inserted]
    exact perm_of_moved remaining moved

theorem Inv.saveDevice (inv : m.Inv) (macAddress : Address) :
    ∃ saved m', m.saveDevice macAddress = some (saved, m') ∧ m'.Inv := by
  by_cases paired : macAddress ∈ m.pairedDeviceCache.listMap.keys
  · obtain ⟨id, member⟩ := Library.ListMap.mem_keys.mp paired
    have saved : m.saveDevice macAddress =
        some (true, { m with pairedDeviceCache := (m.pairedDeviceCache.find macAddress).2 }) := by
      simp only [MetricIdManager.saveDevice, Library.LruCache.find_fst, Library.ListMap.find?_eq_some_iff.mpr member,
        Option.isSome_some, if_true]
    exact ⟨true, _, saved, inv.findPaired macAddress⟩
  · by_cases temporary : macAddress ∈ m.temporaryDeviceCache.listMap.keys
    · obtain ⟨id, member⟩ := Library.ListMap.mem_keys.mp temporary
      exact saveDevice_of_temporary inv paired member
    · have unsaved : m.saveDevice macAddress = some (false, m) := by
        simp only [MetricIdManager.saveDevice, Library.LruCache.find_fst, Library.ListMap.find?_eq_none_iff.mpr paired,
          Library.ListMap.find?_eq_none_iff.mpr temporary, Option.isSome_none, Bool.not_false,
          Bool.false_eq_true, if_false, if_true, Library.LruCache.find_snd_of_not_mem paired,
          Library.LruCache.find_snd_of_not_mem temporary]
      exact ⟨false, m, unsaved, inv⟩

theorem Inv.forgetDevice (inv : m.Inv) (macAddress : Address) :
    ∃ m', m.forgetDevice macAddress = some m' ∧ m'.Inv := by
  by_cases paired : macAddress ∈ m.pairedDeviceCache.listMap.keys
  · obtain ⟨id, member⟩ := Library.ListMap.mem_keys.mp paired
    obtain ⟨forget, installed⟩ := Option.isSome_iff_exists.mp inv.forgetDeviceCallback
    have forgotten : m.forgetDevice macAddress = some { m with
        pairedDeviceCache := (m.pairedDeviceCache.extract macAddress).2
        idSet := m.idSet.erase id } := by
      simp only [MetricIdManager.forgetDevice, Library.LruCache.extract_fst, Library.ListMap.find?_eq_some_iff.mpr member,
        forgetDevicePostprocess, installed, Option.map_some]
    -- the device is dropped from the paired cache and, being paired, was not temporary
    have dropped : m.devices.filter (·.1 ≠ macAddress) =
        (m.pairedDeviceCache.extract macAddress).2.listMap.entries ++ m.temporaryDeviceCache.listMap.entries := by
      rw [devices, List.filter_append, filter_key_of_not_mem (inv.assigned.key_not_mem_right member),
        Library.LruCache.listMap_extract, Library.ListMap.entries_erase]
    have removed := inv.assigned.remove (List.mem_append_left _ member)
    rw [dropped] at removed
    exact ⟨_, forgotten, { inv with assigned := removed }⟩
  · have kept : m.forgetDevice macAddress = some m := by
      simp only [MetricIdManager.forgetDevice, Library.LruCache.extract_fst, Library.ListMap.find?_eq_none_iff.mpr paired]
    exact ⟨m, kept, inv⟩

/-- Every call keeps the invariant. -/
theorem Inv.step {m' : MetricIdManager Address} (inv : m.Inv) (step : Step m m') : m'.Inv := by
  obtain ⟨input, called⟩ := step
  cases input with
  | allocateId macAddress =>
    obtain ⟨id, after, allocated, inv', -⟩ := inv.allocateId macAddress
    rw [call, allocated, Option.map_some, Option.some.injEq] at called
    exact called ▸ inv'
  | saveDevice macAddress =>
    obtain ⟨saved, after, savedDevice, inv'⟩ := inv.saveDevice macAddress
    rw [call, savedDevice, Option.map_some, Option.some.injEq] at called
    exact called ▸ inv'
  | forgetDevice macAddress =>
    obtain ⟨after, forgotten, inv'⟩ := inv.forgetDevice macAddress
    rw [call, forgotten, Option.some.injEq] at called
    exact called ▸ inv'

/-- ... and so does every sequence of calls, by induction on the sequence. -/
theorem Inv.reachable {m' : MetricIdManager Address} (inv : m.Inv) (reach : Relation.ReflTransGen Step m m') :
    m'.Inv := by
  induction reach with
  | refl => exact inv
  | tail _ step ih => exact ih.step step

end Calls

/-! ## Init -/

/-- An entry of the paired map while the paired cache has room: no eviction. -/
theorem initEntry_of_room {m : MetricIdManager Address} {key : Address} {id : Int} (valid : isValidId id = true)
    (absent : key ∉ m.pairedDeviceCache.listMap.keys)
    (room : m.pairedDeviceCache.listMap.size ≠ m.pairedDeviceCache.capacity) :
    m.initEntry (key, id) = some { m with
      pairedDeviceCache := m.pairedDeviceCache.insertOrAssign key id
      idSet := insert id m.idSet
      nextId := max m.nextId (id + 1) } := by
  have range := isValidId_iff.mp valid
  have noEviction : m.pairedDeviceCache.evictionOf key = none := by
    rw [Library.LruCache.evictionOf, if_neg absent, if_neg room]
  have notFatal : ¬(id < kMinId ∨ id > kMaxId) := by
    simp only [kMinId, kMaxId]
    omega
  simp only [initEntry, if_neg notFatal, noEviction, Option.map_some]

/-- Init's walk over the paired map, by induction on the entries still to
come: they and the devices already cached are assigned together. -/
theorem foldlM_initEntry (rest : List (Address × Int)) (m : MetricIdManager Address)
    (assigned : Assigned (rest ++ m.devices) ((rest.map Prod.snd).toFinset ∪ m.idSet))
    (room : m.pairedDeviceCache.listMap.size + rest.length ≤ m.pairedDeviceCache.capacity)
    (low : kMinId ≤ m.nextId) (high : m.nextId ≤ kMaxId + 1) :
    ∃ paired idSet nextId, rest.foldlM initEntry m =
        some { m with pairedDeviceCache := paired, idSet := idSet, nextId := nextId } ∧
      Assigned (paired.listMap.entries ++ m.temporaryDeviceCache.listMap.entries) idSet ∧
      paired.capacity = m.pairedDeviceCache.capacity ∧ kMinId ≤ nextId ∧ nextId ≤ kMaxId + 1 := by
  induction rest generalizing m with
  | nil =>
    refine ⟨m.pairedDeviceCache, m.idSet, m.nextId, rfl, ?_, rfl, low, high⟩
    simpa [devices] using assigned
  | cons entry rest ih =>
    obtain ⟨key, id⟩ := entry
    have keys := assigned.keys
    rw [List.cons_append, List.map_cons, List.nodup_cons, List.map_append, List.mem_append, not_or] at keys
    have absent : key ∉ m.pairedDeviceCache.listMap.keys := fun present =>
      keys.1.2 (by rw [devices, List.map_append]; exact List.mem_append_left _ present)
    have valid := assigned.valid (key, id) List.mem_cons_self
    have range := isValidId_iff.mp valid
    have roomNow : m.pairedDeviceCache.listMap.size ≠ m.pairedDeviceCache.capacity := by
      simp only [List.length_cons] at room
      omega
    have inserted : (m.pairedDeviceCache.insertOrAssign key id).listMap.entries =
        (key, id) :: m.pairedDeviceCache.listMap.entries := by
      rw [Library.LruCache.entries_insertOrAssign_of_not_mem absent, Library.LruCache.evicted_of_not_full roomNow]
    obtain ⟨paired, idSet, nextId, folded, assigned', capacity, low', high'⟩ :=
      ih { m with
        pairedDeviceCache := m.pairedDeviceCache.insertOrAssign key id
        idSet := insert id m.idSet
        nextId := max m.nextId (id + 1) }
        (by
          have sameIds : (rest.map Prod.snd).toFinset ∪ insert id m.idSet =
              (((key, id) :: rest).map Prod.snd).toFinset ∪ m.idSet := by
            rw [List.map_cons, List.toFinset_cons, Finset.union_insert, Finset.insert_union]
          simp only [devices]
          rw [sameIds, inserted]
          exact assigned.perm List.perm_middle)
        (by
          simp only [List.length_cons] at room
          simp only [Library.LruCache.capacity_insertOrAssign, Library.ListMap.size, inserted, List.length_cons]
          simp only [Library.ListMap.size] at room
          omega)
        (by simp only [kMinId] at low ⊢; omega)
        (by simp only [kMaxId] at high ⊢; omega)
    refine ⟨paired, idSet, nextId, ?_, assigned', ?_, low', high'⟩
    · rw [List.foldlM_cons, initEntry_of_room valid absent roomNow]
      exact folded
    · rw [capacity, Library.LruCache.capacity_insertOrAssign]

/-- Init from the constructor, with a paired map that fits the paired cache and
holds distinct valid ids, installs the invariant. -/
theorem init_create {pairedDeviceMap : Library.ListMap Address Int}
    (bounded : pairedDeviceMap.size ≤ kMaxNumPairedDevicesInMemory)
    (distinct : (pairedDeviceMap.entries.map Prod.snd).Nodup)
    (valid : ∀ entry ∈ pairedDeviceMap.entries, isValidId entry.2 = true)
    (saveIdCallback forgetDeviceCallback : Address → Int → Bool) :
    ∃ initial, create.init pairedDeviceMap saveIdCallback forgetDeviceCallback = some (true, initial) ∧
      initial.Inv := by
  have start : Assigned (pairedDeviceMap.entries ++ ({ create with nextId := kMinId } : MetricIdManager Address).devices)
      ((pairedDeviceMap.entries.map Prod.snd).toFinset ∪ ({ create with nextId := kMinId } : MetricIdManager Address).idSet) := by
    refine ⟨?_, ?_, ?_, ?_⟩
    · simpa [devices, create, Library.ListMap.empty] using pairedDeviceMap.nodup
    · simpa [devices, create, Library.ListMap.empty] using distinct
    · simpa [devices, create, Library.ListMap.empty] using valid
    · simp [devices, create, Library.ListMap.empty]
  obtain ⟨paired, idSet, nextId, folded, assigned, capacity, low, high⟩ :=
    foldlM_initEntry pairedDeviceMap.entries { create with nextId := kMinId } start
      (by simpa [create, Library.ListMap.empty, Library.ListMap.size] using bounded) le_rfl
      (by show kMinId ≤ kMaxId + 1; decide)
  have fits : ¬pairedDeviceMap.size > kMaxNumPairedDevicesInMemory := by omega
  refine ⟨{ create with
      pairedDeviceCache := paired
      idSet := idSet
      nextId := if nextId > kMaxId then kMinId else nextId
      saveIdCallback := some saveIdCallback
      forgetDeviceCallback := some forgetDeviceCallback
      initialized := true }, ?_, ⟨?_, capacity, rfl, isValidId_wrap low high, rfl, rfl⟩⟩
  · have fresh : (create : MetricIdManager Address).initialized ≠ true := Bool.false_ne_true
    rw [init, if_neg fresh, if_neg fits, folded, Option.map_some]
  · exact assigned

/-- From Init with a paired map of at most kMaxNumPairedDevicesInMemory
devices and distinct ids in [kMinId, kMaxId], every sequence of calls keeps
the cached ids distinct, valid and recorded in id_set_, and AllocateId
returns: the cached id of a cached address, and otherwise an id no cached
device holds, now the address's own. -/
theorem allocateId_injective (pairedDeviceMap : Library.ListMap Address Int)
    (saveIdCallback forgetDeviceCallback : Address → Int → Bool)
    (bounded : pairedDeviceMap.size ≤ kMaxNumPairedDevicesInMemory)
    (distinct : (pairedDeviceMap.entries.map Prod.snd).Nodup)
    (inRange : ∀ entry ∈ pairedDeviceMap.entries, kMinId ≤ entry.2 ∧ entry.2 ≤ kMaxId) :
    ∃ initial, create.init pairedDeviceMap saveIdCallback forgetDeviceCallback = some (true, initial) ∧
      ∀ m, Relation.ReflTransGen Step initial m →
        (m.devices.map Prod.snd).Nodup ∧ (∀ device ∈ m.devices, kMinId ≤ device.2 ∧ device.2 ≤ kMaxId) ∧
        m.idSet = (m.devices.map Prod.snd).toFinset ∧
        ∀ macAddress, ∃ id m', m.allocateId macAddress = some (id, m') ∧
          ((∃ cached, (macAddress, cached) ∈ m.devices) → (macAddress, id) ∈ m.devices) ∧
          ((∀ cached, (macAddress, cached) ∉ m.devices) →
            id ∉ m.devices.map Prod.snd ∧ (macAddress, id) ∈ m'.devices) := by
  have valid : ∀ entry ∈ pairedDeviceMap.entries, isValidId entry.2 = true := by
    intro entry member
    have range := inRange entry member
    simp only [kMinId, kMaxId] at range
    exact isValidId_iff.mpr range
  obtain ⟨initial, initialized, inv⟩ := init_create bounded distinct valid saveIdCallback forgetDeviceCallback
  refine ⟨initial, initialized, fun m reach => ?_⟩
  have reached := inv.reachable reach
  refine ⟨reached.assigned.ids, fun device member => ?_, reached.assigned.recorded, fun macAddress => ?_⟩
  · have range := isValidId_iff.mp (reached.assigned.valid device member)
    simp only [kMinId, kMaxId]
    exact range
  · obtain ⟨id, m', allocated, -, cachedId, freshId⟩ := reached.allocateId macAddress
    exact ⟨id, m', allocated, cachedId, freshId⟩

/-- One paired device with id 5: a new address gets id 6. -/
theorem allocateId_injective_single :
    (⟨[(7, 5)], by decide⟩ : Library.ListMap Nat Int).size ≤ kMaxNumPairedDevicesInMemory ∧
      (∃ initial, create.init ⟨[(7, 5)], by decide⟩ (fun _ _ => true) (fun _ _ => true) = some (true, initial) ∧
        ∀ m, Relation.ReflTransGen Step initial m → (m.devices.map Prod.snd).Nodup) ∧
      ((create.init (⟨[(7, 5)], by decide⟩ : Library.ListMap Nat Int) (fun _ _ => true) (fun _ _ => true)).bind
        fun initialized => (initialized.2.allocateId 9).map Prod.fst) = some 6 := by
  obtain ⟨initial, initialized, reachable⟩ := allocateId_injective (⟨[(7, 5)], by decide⟩ : Library.ListMap Nat Int)
    (fun _ _ => true) (fun _ _ => true) (by decide) (by decide) (by decide)
  exact ⟨by decide, ⟨initial, initialized, fun m reach => (reachable m reach).1⟩, by decide +kernel⟩

end MetricIdManager

end Common
end BluetoothStack
