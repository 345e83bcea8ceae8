import BluetoothStack.Sdp.Discovery

namespace BluetoothStack
namespace Sdp

/-!
# What the client's parser reads and takes

Three facts about `add_attr` and `save_attr_seq`, each proved once for every
part of the parser and then for the recursion by induction on its fuel:

* what a call that returned leaves (`Advances`): the pointer it returned lies
  after where it started and by the end it was given, and the database's
  memory only grew by allocations and writes within what it had free, so that
  `p_free_mem + mem_free` stays the same and `mem_free` never wraps;
* which bytes it reads (`Agree`): two inputs that agree from `p` to the end
  are parsed alike;
* that it returns: with fuel for two rounds a byte, no read lies outside the
  input.

Every read of `add_attr` is checked against its end first, so the three hold
of it at every input.  The first read of `save_attr_seq` is not, and
`process_service_attr_rsp` calls it on an empty attribute list.  And the
children of a sequence are read against the outer end: a sequence that
declares one byte and holds a two-byte element is read with the element in it,
and the pointer returned lies past the sequence's declared end.
-/

open ByteStream

variable {msg msg' : List UInt8}

/-! ## Reads -/

theorem readArray_congr {i count : Nat} (agree : Agree msg msg' i (i + count)) :
    readArray msg i count = readArray msg' i count := by
  induction count generalizing i with
  | zero => rfl
  | succ count ih =>
    have byte : msg[i]? = msg'[i]? := agree i (Nat.le_refl _) (by omega)
    have rest := ih (agree.mono (Nat.le_succ i) (by omega))
    simp only [readArray, byte, rest]

theorem readArray_isSome {i count : Nat} (fits : i + count ≤ msg.length) : (readArray msg i count).isSome := by
  induction count generalizing i with
  | zero => rfl
  | succ count ih =>
    have byte : msg[i]? = some msg[i] := List.getElem?_eq_getElem (by omega)
    obtain ⟨rest, read⟩ := Option.isSome_iff_exists.mp (ih (i := i + 1) (by omega))
    simp [readArray, byte, read]

theorem readArray_length {i count : Nat} {bytes : List UInt8} (read : readArray msg i count = some bytes) :
    bytes.length = count := by
  induction count generalizing i bytes with
  | zero => cases read; rfl
  | succ count ih =>
    simp only [readArray, Option.bind_eq_bind, Option.bind_eq_some_iff, Option.pure_def, Option.some.injEq] at read
    obtain ⟨byte, -, rest, readRest, rfl⟩ := read
    simp [ih readRest]

theorem readU16At_congr {i : Nat} (agree : Agree msg msg' i (i + 2)) : readU16At msg i = readU16At msg' i := by
  have high : msg[i]? = msg'[i]? := agree i (Nat.le_refl _) (by omega)
  have low : msg[i + 1]? = msg'[i + 1]? := agree (i + 1) (by omega) (by omega)
  simp only [readU16At, high, low]

theorem readU16At_isSome {i : Nat} (fits : i + 2 ≤ msg.length) : (readU16At msg i).isSome := by
  simp [readU16At, List.getElem?_eq_getElem (show i < msg.length by omega),
    List.getElem?_eq_getElem (show i + 1 < msg.length by omega)]

theorem readU32At_congr {i : Nat} (agree : Agree msg msg' i (i + 4)) : readU32At msg i = readU32At msg' i := by
  have high := readU16At_congr (agree.mono (Nat.le_refl i) (by omega))
  have low := readU16At_congr (agree.mono (Nat.le_add_right i 2) (by omega))
  simp only [readU32At, high, low]

theorem readU32At_isSome {i : Nat} (fits : i + 4 ≤ msg.length) : (readU32At msg i).isSome := by
  have highRead : (readU16At msg i).isSome := readU16At_isSome (by omega)
  have lowRead : (readU16At msg (i + 2)).isSome := readU16At_isSome (by omega)
  obtain ⟨high, readHigh⟩ := Option.isSome_iff_exists.mp highRead
  obtain ⟨low, readLow⟩ := Option.isSome_iff_exists.mp lowRead
  simp [readU32At, readHigh, readLow]

variable {detectNil : Bool} {pEnd p : Nat} {type : UInt8}

/-! ## Sizes -/

theorem sdpuGetLenFromType_congr (agree : Agree msg msg' p pEnd) :
    sdpuGetLenFromType detectNil msg pEnd type p = sdpuGetLenFromType detectNil msg' pEnd type p := by
  unfold sdpuGetLenFromType
  split
  case h_6 =>
    by_cases short : pEnd < p + 1
    · simp only [if_pos short]
    · simp only [if_neg short, agree p (Nat.le_refl p) (by omega)]
  case h_7 =>
    by_cases short : pEnd < p + 2
    · simp only [if_pos short]
    · simp only [if_neg short, readU16At_congr (agree.mono (Nat.le_refl p) (by omega))]
  case h_8 =>
    by_cases short : pEnd < p + 4
    · simp only [if_pos short]
    · simp only [if_neg short, readU32At_congr (agree.mono (Nat.le_refl p) (by omega))]
  all_goals rfl

/-- A size field is read from `p` on, so the data starts no earlier. -/
theorem sdpuGetLenFromType_after {len q : Nat}
    (read : sdpuGetLenFromType detectNil msg pEnd type p = .returned (some (len, q))) : p ≤ q := by
  unfold sdpuGetLenFromType at read
  split at read
  case h_6 | h_7 | h_8 =>
    split_ifs at read
    · simp at read
    obtain ⟨_, -, ran⟩ := Parsed.bind_eq_returned.mp read
    simp only [Parsed.pure_eq, Parsed.returned.injEq, Option.some.injEq, Prod.mk.injEq] at ran
    omega
  all_goals
    simp only [Parsed.pure_eq, Parsed.returned.injEq, Option.some.injEq, Prod.mk.injEq] at read
    omega

/-- A size field checked against an end inside the input is read. -/
theorem sdpuGetLenFromType_returns (inside : pEnd ≤ msg.length) :
    (sdpuGetLenFromType detectNil msg pEnd type p).Returns fun _ => True := by
  unfold sdpuGetLenFromType
  split
  case h_6 =>
    split_ifs with short
    · trivial
    · exact Parsed.returns_bind (Parsed.returns_ofOption (by rw [List.getElem?_eq_getElem (by omega)]; rfl))
        fun _ _ _ => trivial
  case h_7 =>
    split_ifs with short
    · trivial
    · exact Parsed.returns_bind (Parsed.returns_ofOption (readU16At_isSome (by omega))) fun _ _ _ => trivial
  case h_8 =>
    split_ifs with short
    · trivial
    · exact Parsed.returns_bind (Parsed.returns_ofOption (readU32At_isSome (by omega))) fun _ _ _ => trivial
  all_goals trivial

/-! ## Headers -/

/-- What `add_attr` knows of a header it read: its data starts after the
descriptor and ends by `p_end`, and the node it needs holds the node's fields
and a value of the element's length. -/
structure AttrHeader.Within (pEnd p : Nat) (h : AttrHeader) : Prop where
  after : p < h.data
  inside : h.data + h.attrLen ≤ pEnd
  node : sizeofDiscAttr ≤ h.totalLen
  value : discAttrValueOffset + h.attrLen ≤ h.totalLen

theorem readAttrHeader_congr (agree : Agree msg msg' p pEnd) :
    readAttrHeader detectNil msg pEnd p = readAttrHeader detectNil msg' pEnd p := by
  unfold readAttrHeader
  split_ifs with short
  · rfl
  have typeSame : msg[p]? = msg'[p]? := agree p (Nat.le_refl p) (by omega)
  rw [typeSame]
  refine Parsed.bind_congr rfl fun type _ => ?_
  exact Parsed.bind_congr (sdpuGetLenFromType_congr (agree.mono (Nat.le_succ p) (Nat.le_refl _)))
    fun _ _ => rfl

theorem readAttrHeader_within {h : AttrHeader}
    (read : readAttrHeader detectNil msg pEnd p = .returned (some h)) : h.Within pEnd p := by
  unfold readAttrHeader at read
  split_ifs at read with short
  · simp at read
  obtain ⟨type, -, read⟩ := Parsed.bind_eq_returned.mp read
  obtain ⟨size, sized, read⟩ := Parsed.bind_eq_returned.mp read
  rcases size with _ | ⟨attrLen, q⟩
  · simp at read
  have after := sdpuGetLenFromType_after sized
  dsimp only at read
  split_ifs at read with tooLong masked large
  -- a length past p_end returns NULL
  · simp at read
  · simp at read
  -- the node is the element's length past four bytes of the union, rounded up to four
  all_goals
    simp only [Parsed.pure_eq, Parsed.returned.injEq, Option.some.injEq] at read
    subst read
    constructor <;> simp only [sizeofDiscAttr, discAttrValueOffset] <;> omega

theorem readAttrHeader_returns (inside : pEnd ≤ msg.length) :
    (readAttrHeader detectNil msg pEnd p).Returns fun _ => True := by
  unfold readAttrHeader
  split_ifs with short
  · trivial
  refine Parsed.returns_bind (Parsed.returns_ofOption (by rw [List.getElem?_eq_getElem (by omega)]; rfl))
    fun type _ _ => ?_
  refine Parsed.returns_bind (sdpuGetLenFromType_returns inside) fun size _ _ => ?_
  rcases size with _ | ⟨attrLen, q⟩
  · trivial
  dsimp only
  split_ifs <;> trivial

/-! ## Memory -/

/-- Where a call of the parser returned to, from `lo` to `hi`, and the database's
memory extended within what it had free. -/
structure Advances (lo hi : Nat) (db : DiscDb) (next : Option Nat) (db' : DiscDb) : Prop where
  next_within : ∀ q, next = some q → lo ≤ q ∧ q ≤ hi
  arena : Arena.Extends (2 ^ 32) db.arena db'.arena

variable {db db' : DiscDb} {lo hi : Nat} {next : Option Nat}

theorem Advances.mono {lo' hi' : Nat} (advances : Advances lo hi db next db') (low : lo' ≤ lo) (high : hi ≤ hi') :
    Advances lo' hi' db next db' := by
  refine ⟨fun q returned => ?_, advances.arena⟩
  have within := advances.next_within q returned
  omega

theorem Advances.after {db₁ : DiscDb} (first : Arena.Extends (2 ^ 32) db.arena db₁.arena)
    (advances : Advances lo hi db₁ next db') : Advances lo hi db next db' :=
  ⟨advances.next_within, first.trans advances.arena⟩

/-- The node's ID, length and type, written at the free memory. -/
theorem header_extends (enough : discAttrValueOffset ≤ db.memFree) :
    Arena.Extends (2 ^ 32) db.arena (db.write db.pFreeMem discAttrValueOffset).arena := by
  rw [DiscDb.write_arena]
  exact Arena.write_extends db.memFree_lt (Nat.le_refl _) (Nat.add_le_add_left enough _)

theorem take_extends {size : Nat} (enough : size ≤ db.memFree) :
    Arena.Extends (2 ^ 32) db.arena (db.take size).arena := by
  rw [DiscDb.take_arena]
  exact Arena.take_extends db.memFree_lt enough

/-- A value stored into the union of a node that holds it, and the node taken. -/
theorem storeLeaf_extends {h : AttrHeader} {value : DiscVal} (enough : h.totalLen ≤ db.memFree)
    (sized : discAttrValueOffset + value.size ≤ h.totalLen) (attrId lenType next : Nat) :
    Arena.Extends (2 ^ 32) db.arena (storeLeaf db h attrId lenType value next).db.arena := by
  have stored : Arena.Extends (2 ^ 32) db.arena (db.write (db.pFreeMem + discAttrValueOffset) value.size).arena := by
    rw [DiscDb.write_arena]
    exact Arena.write_extends db.memFree_lt (Nat.le_add_right _ _)
      (show db.pFreeMem + discAttrValueOffset + value.size ≤ db.pFreeMem + db.memFree by omega)
  exact stored.trans (take_extends enough)

theorem storeLeaf_advances {h : AttrHeader} {value : DiscVal} {attrId lenType next : Nat}
    (enough : h.totalLen ≤ db.memFree) (room : discAttrValueOffset + h.attrLen ≤ h.totalLen)
    (sized : value.size ≤ h.attrLen) (low : h.data ≤ next) (high : next ≤ h.data + h.attrLen) :
    Advances h.data (h.data + h.attrLen) db (storeLeaf db h attrId lenType value next).next
      (storeLeaf db h attrId lenType value next).db := by
  refine ⟨fun q returned => ?_, storeLeaf_extends enough (by omega) attrId lenType next⟩
  cases returned
  exact ⟨low, high⟩

/-- An element skipped whole, its node not taken. -/
theorem skip_advances {h : AttrHeader} : Advances h.data (h.data + h.attrLen) db (some (h.data + h.attrLen)) db :=
  ⟨fun q returned => by cases returned; omega, Arena.Extends.refl db.memFree_lt⟩
/-- `add_record` takes the record's node from the free memory. -/
theorem addRecord_extends (added : addRecord db = some db') : Arena.Extends (2 ^ 32) db.arena db'.arena := by
  unfold addRecord at added
  split_ifs at added with full
  rw [← Option.some.inj added]
  have enough := Nat.le_of_not_lt full
  have written : Arena.Extends (2 ^ 32) db.arena (db.write db.pFreeMem sizeofDiscRec).arena := by
    rw [DiscDb.write_arena]
    exact Arena.write_extends db.memFree_lt (Nat.le_refl _) (Nat.add_le_add_left enough _)
  exact written.trans (take_extends enough)

/-! ## The values of elements -/

theorem readIntValue_spec {attrLen p : Nat} {r : DiscVal × Nat} (read : readIntValue msg attrLen p = .returned r) :
    r.1.size = attrLen ∧ r.2 = p + attrLen := by
  unfold readIntValue at read
  split_ifs at read with one two four
  all_goals
    obtain ⟨v, got, ran⟩ := Parsed.bind_eq_returned.mp read
    cases ran
  · exact ⟨one.symm, by rw [one]⟩
  · exact ⟨two.symm, by rw [two]⟩
  · exact ⟨four.symm, by rw [four]⟩
  · exact ⟨readArray_length (Parsed.ofOption_eq_returned.mp got), rfl⟩

variable {h : AttrHeader} {attrId : Nat} {r : AddAttr}

theorem storeUuid_advances (ran : storeUuid msg db h attrId = .returned r) (enough : h.totalLen ≤ db.memFree)
    (room : discAttrValueOffset + h.attrLen ≤ h.totalLen) : Advances h.data (h.data + h.attrLen) db r.next r.db := by
  unfold storeUuid at ran
  split_ifs at ran with two four sixteen
  · obtain ⟨v, -, ran⟩ := Parsed.bind_eq_returned.mp ran
    cases ran
    exact storeLeaf_advances enough room (by simp [DiscVal.size, two]) (by omega) (by omega)
  · -- a 32-bit UUID is kept in 16 bits when it fits
    obtain ⟨v, -, ran⟩ := Parsed.bind_eq_returned.mp ran
    split_ifs at ran
    · cases ran
      exact storeLeaf_advances enough room (by simp [DiscVal.size, four]) (by omega) (by omega)
    · cases ran
      exact storeLeaf_advances enough room (by simp [DiscVal.size, four]) (by omega) (by omega)
  · -- a 128-bit UUID on the base is kept in 16 or 32 bits
    obtain ⟨tail, -, ran⟩ := Parsed.bind_eq_returned.mp ran
    split_ifs at ran with base
    · obtain ⟨front, -, ran⟩ := Parsed.bind_eq_returned.mp ran
      split_ifs at ran
      · obtain ⟨v, -, ran⟩ := Parsed.bind_eq_returned.mp ran
        cases ran
        exact storeLeaf_advances enough room (by simp [DiscVal.size, sixteen]) (by omega) (by omega)
      · obtain ⟨v, -, ran⟩ := Parsed.bind_eq_returned.mp ran
        cases ran
        exact storeLeaf_advances enough room (by simp [DiscVal.size, sixteen]) (by omega) (by omega)
    · obtain ⟨bytes, got, ran⟩ := Parsed.bind_eq_returned.mp ran
      cases ran
      have length := readArray_length (Parsed.ofOption_eq_returned.mp got)
      exact storeLeaf_advances enough room (by simp [DiscVal.size, length, sixteen]) (by omega) (by omega)
  · cases ran
    exact skip_advances

theorem storeValue_advances (ran : storeValue msg db h attrId = .returned r) (enough : h.totalLen ≤ db.memFree)
    (room : discAttrValueOffset + h.attrLen ≤ h.totalLen) : Advances h.data (h.data + h.attrLen) db r.next r.db := by
  unfold storeValue at ran
  split_ifs at ran with int uuid text boolean one
  · obtain ⟨⟨value, next⟩, read, ran⟩ := Parsed.bind_eq_returned.mp ran
    cases ran
    obtain ⟨sized, after⟩ := readIntValue_spec read
    exact storeLeaf_advances enough room (Nat.le_of_eq sized) (by simp only at after; omega) (by simp only at after; omega)
  · exact storeUuid_advances ran enough room
  · obtain ⟨bytes, got, ran⟩ := Parsed.bind_eq_returned.mp ran
    cases ran
    have length := readArray_length (Parsed.ofOption_eq_returned.mp got)
    exact storeLeaf_advances enough room (by simp [DiscVal.size, length]) (by omega) (Nat.le_refl _)
  · obtain ⟨v, -, ran⟩ := Parsed.bind_eq_returned.mp ran
    cases ran
    exact storeLeaf_advances enough room (by simp [DiscVal.size, one]) (by omega) (by omega)
  · cases ran
    exact skip_advances
  · -- any other type leaves the union as it is and its data unread
    cases ran
    exact storeLeaf_advances enough room (by simp [DiscVal.size]) (Nat.le_refl _) (by omega)

theorem readIntValue_congr {attrLen p : Nat} (agree : Agree msg msg' p (p + attrLen)) :
    readIntValue msg attrLen p = readIntValue msg' attrLen p := by
  unfold readIntValue
  split_ifs with one two four
  · rw [agree p (Nat.le_refl p) (by omega)]
  · rw [readU16At_congr (agree.mono (Nat.le_refl p) (by omega))]
  · rw [readU32At_congr (agree.mono (Nat.le_refl p) (by omega))]
  · rw [readArray_congr agree]

theorem storeUuid_congr (agree : Agree msg msg' h.data (h.data + h.attrLen)) :
    storeUuid msg db h attrId = storeUuid msg' db h attrId := by
  unfold storeUuid
  split_ifs with two four sixteen
  · rw [readU16At_congr (agree.mono (Nat.le_refl _) (by omega))]
  · rw [readU32At_congr (agree.mono (Nat.le_refl _) (by omega))]
  · -- the sixteen bytes are read in parts, each inside the element
    simp only [readArray_congr (agree.mono (Nat.le_add_right h.data 4) (show h.data + 4 + 12 ≤ _ by omega)),
      readArray_congr (agree.mono (Nat.le_refl h.data) (show h.data + 2 ≤ _ by omega)),
      readArray_congr (agree.mono (Nat.le_refl h.data) (show h.data + 16 ≤ _ by omega)),
      readU16At_congr (agree.mono (Nat.le_add_right h.data 2) (show h.data + 2 + 2 ≤ _ by omega)),
      readU32At_congr (agree.mono (Nat.le_refl h.data) (show h.data + 4 ≤ _ by omega))]
  · rfl

theorem storeValue_congr (agree : Agree msg msg' h.data (h.data + h.attrLen)) :
    storeValue msg db h attrId = storeValue msg' db h attrId := by
  unfold storeValue
  split_ifs with int uuid text boolean one
  · rw [readIntValue_congr agree]
  · exact storeUuid_congr agree
  · rw [readArray_congr agree]
  · rw [agree h.data (Nat.le_refl _) (by omega)]
  · rfl
  · rfl

theorem readIntValue_returns {attrLen p : Nat} (fits : p + attrLen ≤ msg.length) :
    (readIntValue msg attrLen p).Returns fun _ => True := by
  unfold readIntValue
  split_ifs with one two four
  · exact Parsed.returns_ofOption_bind (by simp; omega) fun _ _ => trivial
  · exact Parsed.returns_ofOption_bind (readU16At_isSome (by omega)) fun _ _ => trivial
  · exact Parsed.returns_ofOption_bind (readU32At_isSome (by omega)) fun _ _ => trivial
  · exact Parsed.returns_ofOption_bind (readArray_isSome fits) fun _ _ => trivial

theorem storeUuid_returns (fits : h.data + h.attrLen ≤ msg.length) :
    (storeUuid msg db h attrId).Returns fun _ => True := by
  unfold storeUuid
  split_ifs with two four sixteen
  · exact Parsed.returns_ofOption_bind (readU16At_isSome (by omega)) fun _ _ => trivial
  · refine Parsed.returns_ofOption_bind (readU32At_isSome (by omega)) fun _ _ => ?_
    split_ifs <;> trivial
  · refine Parsed.returns_ofOption_bind (readArray_isSome (by omega)) fun tail _ => ?_
    split_ifs
    · refine Parsed.returns_ofOption_bind (readArray_isSome (by omega)) fun front _ => ?_
      split_ifs
      · exact Parsed.returns_ofOption_bind (readU16At_isSome (by omega)) fun _ _ => trivial
      · exact Parsed.returns_ofOption_bind (readU32At_isSome (by omega)) fun _ _ => trivial
    · exact Parsed.returns_ofOption_bind (readArray_isSome (by omega)) fun _ _ => trivial
  · trivial

theorem storeValue_returns (fits : h.data + h.attrLen ≤ msg.length) :
    (storeValue msg db h attrId).Returns fun _ => True := by
  unfold storeValue
  split_ifs with int uuid text boolean one
  · exact Parsed.returns_bind (readIntValue_returns fits) fun _ _ _ => trivial
  · exact storeUuid_returns fits
  · exact Parsed.returns_ofOption_bind (readArray_isSome fits) fun _ _ => trivial
  · exact Parsed.returns_ofOption_bind (by simp; omega) fun _ _ => trivial
  · trivial
  · trivial

/-! ## `add_attr` -/

/-- The node of a list, taken whole before its children are read. -/
theorem listNode_extends {p : Nat} (enough : h.totalLen ≤ db.memFree) (within : h.Within pEnd p) :
    Arena.Extends (2 ^ 32) db.arena ((db.write db.pFreeMem discAttrValueOffset).take sizeofDiscAttr).arena := by
  have node := within.node
  have room := within.value
  exact (header_extends (by omega)).trans (take_extends (show sizeofDiscAttr ≤ db.memFree by omega))
/-- Every call of `add_attr` that returns leaves a pointer past `p` and by
`p_end`, and the database's memory extended within what it had free; its loop
over the children of a list the same from `p`. -/
theorem addAttr_advances (fuel : Nat) :
    (∀ p db attrId nestLevel r, addAttr detectNil msg pEnd fuel p db attrId nestLevel = .returned r →
      Advances (p + 1) pEnd db r.next r.db) ∧
    (∀ pAttrEnd p db nestLevel children r, p ≤ pEnd →
      addChildren detectNil msg pEnd fuel pAttrEnd p db nestLevel children = .returned r →
      Advances p pEnd db r.1 r.2.1) := by
  induction fuel with
  | zero =>
    -- no fuel returns nothing
    constructor
    · intro _ _ _ _ _ ran
      simp [addAttr] at ran
    · intro _ _ _ _ _ _ _ ran
      simp [addChildren] at ran
  | succ fuel ih =>
    obtain ⟨attrIH, childrenIH⟩ := ih
    constructor
    · intro p db attrId nestLevel r ran
      simp only [addAttr] at ran
      obtain ⟨header, read, ran⟩ := Parsed.bind_eq_returned.mp ran
      rcases header with _ | h
      · cases ran
        exact ⟨(fun _ none => by cases none), Arena.Extends.refl db.memFree_lt⟩
      have within := readAttrHeader_within read
      have inside := within.inside
      dsimp only at ran
      by_cases full : db.memFree < h.totalLen
      · rw [if_pos full] at ran
        cases ran
        exact ⟨(fun _ none => by cases none), Arena.Extends.refl db.memFree_lt⟩
      rw [if_neg full] at ran
      have enough := Nat.le_of_not_lt full
      have header := header_extends (show discAttrValueOffset ≤ db.memFree by have := within.value; omega)
      have node := listNode_extends enough within
      by_cases special : h.attrType = uintDescType ∧ nestLevel &&& sdpAdditionalListMask ≠ 0 ∧ h.attrLen = 2
      · rw [if_pos special] at ran
        obtain ⟨id, -, ran⟩ := Parsed.bind_eq_returned.mp ran
        by_cases protocol : id = attrIdProtocolDescList
        · rw [if_pos protocol] at ran
          by_cases deep : maxNestLevels ≤ nestLevel &&& (0xFF - sdpAdditionalListMask)
          · rw [if_pos deep] at ran
            cases ran
            exact ⟨fun q same => by cases same; have := within.after; omega, node⟩
          · -- the element after the ID is the list's one child
            rw [if_neg deep] at ran
            obtain ⟨child, childRan, ran⟩ := Parsed.bind_eq_returned.mp ran
            cases ran
            exact ((attrIH _ _ _ _ _ childRan).mono (by have := within.after; omega) (Nat.le_refl _)).after node
        · rw [if_neg protocol] at ran
          exact ((storeValue_advances ran enough within.value).mono within.after inside).after header
      rw [if_neg special] at ran
      by_cases list : h.attrType = dataEleSeqDescType ∨ h.attrType = dataEleAltDescType
      · rw [if_pos list] at ran
        by_cases deep : maxNestLevels ≤ nestLevel &&& (0xFF - sdpAdditionalListMask)
        · rw [if_pos deep] at ran
          cases ran
          exact ⟨fun q same => by cases same; have := within.after; omega, node⟩
        · -- the children are read from the data on, each against p_end
          rw [if_neg deep] at ran
          obtain ⟨⟨next, db', children⟩, childrenRan, ran⟩ := Parsed.bind_eq_returned.mp ran
          have read := (childrenIH _ _ _ _ _ _ (by omega) childrenRan).mono within.after (Nat.le_refl _)
          rcases next with _ | next
          · cases ran
            exact ⟨(fun _ none => by cases none), node.trans read.arena⟩
          · cases ran
            exact read.after node
      · rw [if_neg list] at ran
        exact ((storeValue_advances ran enough within.value).mono within.after inside).after header
    · intro pAttrEnd p db nestLevel children r below ran
      simp only [addChildren] at ran
      by_cases ended : pAttrEnd ≤ p
      · rw [if_pos ended] at ran
        cases ran
        exact ⟨fun q same => by cases same; omega, Arena.Extends.refl db.memFree_lt⟩
      rw [if_neg ended] at ran
      obtain ⟨child, childRan, ran⟩ := Parsed.bind_eq_returned.mp ran
      have first := attrIH _ _ _ _ _ childRan
      rcases returned : child.next with _ | next
      · rw [returned] at ran
        cases ran
        exact ⟨(fun _ none => by cases none), first.arena⟩
      · -- the next child starts where this one ended, past p
        rw [returned] at ran
        have within := first.next_within next returned
        exact ((childrenIH _ _ _ _ _ _ within.2 ran).mono (by omega) (Nat.le_refl _)).after first.arena

/-- `add_attr` reads only from `p` to `p_end`, and its loop over children
only from where it starts. -/
theorem addAttr_congr (fuel : Nat) :
    (∀ p db attrId nestLevel, Agree msg msg' p pEnd →
      addAttr detectNil msg pEnd fuel p db attrId nestLevel = addAttr detectNil msg' pEnd fuel p db attrId nestLevel) ∧
    (∀ pAttrEnd p db nestLevel children, p ≤ pEnd → Agree msg msg' p pEnd →
      addChildren detectNil msg pEnd fuel pAttrEnd p db nestLevel children =
        addChildren detectNil msg' pEnd fuel pAttrEnd p db nestLevel children) := by
  induction fuel with
  | zero =>
    constructor
    · intro _ _ _ _ _
      simp only [addAttr]
    · intro _ _ _ _ _ _ _
      simp only [addChildren]
  | succ fuel ih =>
    obtain ⟨attrIH, childrenIH⟩ := ih
    constructor
    · intro p db attrId nestLevel agree
      simp only [addAttr]
      refine Parsed.bind_congr (readAttrHeader_congr agree) fun header read => ?_
      rcases header with _ | h
      · rfl
      have within := readAttrHeader_within read
      have after := within.after
      have inside := within.inside
      -- every later read is of the element's data
      have data : Agree msg msg' h.data (h.data + h.attrLen) := agree.mono (Nat.le_of_lt after) inside
      dsimp only
      by_cases full : db.memFree < h.totalLen
      · simp only [if_pos full]
      simp only [if_neg full]
      by_cases special : h.attrType = uintDescType ∧ nestLevel &&& sdpAdditionalListMask ≠ 0 ∧ h.attrLen = 2
      · simp only [if_pos special]
        rw [readU16At_congr (data.mono (Nat.le_refl _) (by omega))]
        refine Parsed.bind_congr rfl fun id _ => ?_
        by_cases protocol : id = attrIdProtocolDescList
        · simp only [if_pos protocol]
          by_cases deep : maxNestLevels ≤ nestLevel &&& (0xFF - sdpAdditionalListMask)
          · simp only [if_pos deep]
          · simp only [if_neg deep]
            exact Parsed.bind_congr (attrIH _ _ _ _ (agree.mono (by omega) (Nat.le_refl _))) fun _ _ => rfl
        · simp only [if_neg protocol]
          exact storeValue_congr data
      simp only [if_neg special]
      by_cases list : h.attrType = dataEleSeqDescType ∨ h.attrType = dataEleAltDescType
      · simp only [if_pos list]
        by_cases deep : maxNestLevels ≤ nestLevel &&& (0xFF - sdpAdditionalListMask)
        · simp only [if_pos deep]
        · simp only [if_neg deep]
          exact Parsed.bind_congr (childrenIH _ _ _ _ _ (by omega) (agree.mono (Nat.le_of_lt after) (Nat.le_refl _)))
            fun _ _ => rfl
      · simp only [if_neg list]
        exact storeValue_congr data
    · intro pAttrEnd p db nestLevel children below agree
      simp only [addChildren]
      by_cases ended : pAttrEnd ≤ p
      · simp only [if_pos ended]
      simp only [if_neg ended]
      refine Parsed.bind_congr (attrIH _ _ _ _ agree) fun child childRan => ?_
      -- the next child starts past this one, so it reads inside what agrees
      have within := (addAttr_advances fuel).1 _ _ _ _ _ childRan
      rcases returned : child.next with _ | next
      · rfl
      · have bounds := within.next_within next returned
        exact childrenIH _ _ _ _ _ bounds.2 (agree.mono (by omega) (Nat.le_refl _))

/-- With fuel for two rounds a byte, `add_attr` against an end inside the input
returns, and so does its loop over the children of a list. -/
theorem addAttr_returns (inside : pEnd ≤ msg.length) (fuel : Nat) :
    (∀ p db attrId nestLevel, 2 * (pEnd - p) + 1 ≤ fuel →
      (addAttr detectNil msg pEnd fuel p db attrId nestLevel).Returns fun _ => True) ∧
    (∀ pAttrEnd p db nestLevel children, p ≤ pEnd → 2 * (pEnd - p) + 2 ≤ fuel →
      (addChildren detectNil msg pEnd fuel pAttrEnd p db nestLevel children).Returns fun _ => True) := by
  induction fuel with
  | zero =>
    constructor
    · intro _ _ _ _ enough
      omega
    · intro _ _ _ _ _ _ enough
      omega
  | succ fuel ih =>
    obtain ⟨attrIH, childrenIH⟩ := ih
    constructor
    · intro p db attrId nestLevel enough
      simp only [addAttr]
      refine Parsed.returns_bind (readAttrHeader_returns inside) fun header read _ => ?_
      rcases header with _ | h
      · trivial
      have within := readAttrHeader_within read
      have after := within.after
      have data := within.inside
      have fits : h.data + h.attrLen ≤ msg.length := Nat.le_trans data inside
      dsimp only
      by_cases full : db.memFree < h.totalLen
      · rw [if_pos full]
        trivial
      rw [if_neg full]
      by_cases special : h.attrType = uintDescType ∧ nestLevel &&& sdpAdditionalListMask ≠ 0 ∧ h.attrLen = 2
      · rw [if_pos special]
        refine Parsed.returns_ofOption_bind (readU16At_isSome (by omega)) fun id _ => ?_
        by_cases protocol : id = attrIdProtocolDescList
        · rw [if_pos protocol]
          by_cases deep : maxNestLevels ≤ nestLevel &&& (0xFF - sdpAdditionalListMask)
          · rw [if_pos deep]
            trivial
          · -- the child starts two bytes on, so it needs less fuel
            rw [if_neg deep]
            exact Parsed.returns_bind (attrIH _ _ _ _ (by omega)) fun _ _ _ => trivial
        · rw [if_neg protocol]
          exact storeValue_returns fits
      rw [if_neg special]
      by_cases list : h.attrType = dataEleSeqDescType ∨ h.attrType = dataEleAltDescType
      · rw [if_pos list]
        by_cases deep : maxNestLevels ≤ nestLevel &&& (0xFF - sdpAdditionalListMask)
        · rw [if_pos deep]
          trivial
        · -- the children start after the descriptor, so they need less fuel
          rw [if_neg deep]
          refine Parsed.returns_bind (childrenIH _ _ _ _ _ (by omega) (by omega)) fun read _ _ => ?_
          rcases read with ⟨_ | next, _, _⟩
          · trivial
          · trivial
      · rw [if_neg list]
        exact storeValue_returns fits
    · intro pAttrEnd p db nestLevel children below enough
      simp only [addChildren]
      by_cases ended : pAttrEnd ≤ p
      · rw [if_pos ended]
        trivial
      rw [if_neg ended]
      refine Parsed.returns_bind (attrIH _ _ _ _ (by omega)) fun child childRan _ => ?_
      -- the next child starts past this one, so it needs less fuel
      have advances := (addAttr_advances fuel).1 _ _ _ _ _ childRan
      rcases returned : child.next with _ | next
      · trivial
      · have bounds := advances.next_within next returned
        exact childrenIH _ _ _ _ _ bounds.2 (by omega)

/-! ## A child past the end of its sequence -/

section Overrun

variable {v : UInt8}

/-- A sequence whose one-byte length is one. -/
theorem readAttrHeader_shortSeq (placed : msg[p]? = some 0x35 ∧ msg[p + 1]? = some 0x01) (inside : p + 3 ≤ pEnd) :
    readAttrHeader detectNil msg pEnd p = .returned (some ⟨0x35, p + 2, 1, sizeofDiscAttr⟩) := by
  -- a sequence with a one-byte length of one
  have length : sdpuGetLenFromType detectNil msg pEnd 0x35 (p + 1) = .returned (some (1, p + 2)) := by
    simp [sdpuGetLenFromType, placed.2, show ¬ pEnd < p + 1 + 1 by omega]
  simp [readAttrHeader, placed.1, length, show ¬ pEnd < p + 1 by omega, show ¬ pEnd < p + 2 + 1 by omega,
    sdpDiscAttrLenMask, sizeofDiscAttr]

/-- An unsigned integer of one byte. -/
theorem readAttrHeader_uint8 (placed : msg[p + 2]? = some 0x08) (inside : p + 4 ≤ pEnd) :
    readAttrHeader detectNil msg pEnd (p + 2) = .returned (some ⟨0x08, p + 3, 1, sizeofDiscAttr⟩) := by
  -- an unsigned integer of one byte
  have length : sdpuGetLenFromType detectNil msg pEnd 0x08 (p + 2 + 1) = .returned (some (1, p + 3)) := by
    simp [sdpuGetLenFromType]
  simp [readAttrHeader, placed, length, show ¬ pEnd < p + 2 + 1 by omega, show ¬ pEnd < p + 3 + 1 by omega,
    sdpDiscAttrLenMask, sizeofDiscAttr]

/-- The child: an unsigned integer of one byte, stored as a leaf, whatever
the nesting level and its flag. -/
theorem addAttr_uint8 (placed : msg[p + 2]? = some 0x08 ∧ msg[p + 3]? = some v) (inside : p + 4 ≤ pEnd)
    {db : DiscDb} (enough : sizeofDiscAttr ≤ db.memFree) (nestLevel fuel : Nat) :
    addAttr detectNil msg pEnd (fuel + 1) (p + 2) db 0 nestLevel =
      .returned (storeLeaf (db.write db.pFreeMem discAttrValueOffset) ⟨0x08, p + 3, 1, sizeofDiscAttr⟩ 0 0x1001
        (.u8 v.toNat) (p + 4)) := by
  have child : readAttrHeader detectNil msg pEnd (p + 2) = _ := readAttrHeader_uint8 placed.1 inside
  rw [addAttr, child, Parsed.returned_bind]
  dsimp only
  have uint : AttrHeader.attrType ⟨0x08, p + 3, 1, sizeofDiscAttr⟩ = uintDescType := by
    simp [AttrHeader.attrType, uintDescType]
  rw [if_neg (Nat.not_lt.mpr enough), if_neg (by simp), if_neg (by simp [uint, uintDescType, dataEleSeqDescType, dataEleAltDescType])]
  have lenType : AttrHeader.lenType ⟨0x08, p + 3, 1, sizeofDiscAttr⟩ = 0x1001 := by
    simp [AttrHeader.lenType, uint, uintDescType]
  simp [storeValue, uint, lenType, readIntValue, placed.2]

/-- The loop over the sequence's children reads the one child, which ends
past the sequence's end, and stops. -/
theorem addChildren_uint8 (placed : msg[p + 2]? = some 0x08 ∧ msg[p + 3]? = some v) (inside : p + 4 ≤ pEnd)
    {db : DiscDb} (enough : sizeofDiscAttr ≤ db.memFree) (nestLevel fuel : Nat) :
    addChildren detectNil msg pEnd (fuel + 2) (p + 2 + 1) (p + 2) db nestLevel [] =
      .returned (some (p + 4), (storeLeaf (db.write db.pFreeMem discAttrValueOffset) ⟨0x08, p + 3, 1, sizeofDiscAttr⟩ 0
        0x1001 (.u8 v.toNat) (p + 4)).db, [.leaf 0 0x1001 (.u8 v.toNat)]) := by
  rw [addChildren, if_neg (by omega), addAttr_uint8 placed inside enough, Parsed.returned_bind]
  dsimp only [storeLeaf]
  rw [addChildren, if_pos (by omega)]
  rfl

/-- The children of a sequence are read against the end of the attribute, not
the sequence's: a sequence that declares one byte of data, at `p + 2` to
`p + 3`, and holds a two-byte element is read with the element as its child,
and `add_attr` returns `p + 4`, past the sequence's end. -/
theorem addAttr_child_overruns_sequence
    (placed : msg[p]? = some 0x35 ∧ msg[p + 1]? = some 0x01 ∧ msg[p + 2]? = some 0x08 ∧ msg[p + 3]? = some v)
    (inside : p + 4 ≤ pEnd) (db : DiscDb) (roomy : 2 * sizeofDiscAttr ≤ db.memFree) (attrId fuel : Nat) :
    readAttrHeader detectNil msg pEnd p = .returned (some ⟨0x35, p + 2, 1, sizeofDiscAttr⟩) ∧
    (addAttr detectNil msg pEnd (fuel + 3) p db attrId 0).Returns fun added =>
      added.next = some (p + 4) ∧ added.linked = some (.list attrId 0x6001 [.leaf 0 0x1001 (.u8 v.toNat)]) := by
  have seq : readAttrHeader detectNil msg pEnd p = _ := readAttrHeader_shortSeq ⟨placed.1, placed.2.1⟩ (by omega)
  refine ⟨seq, ?_⟩
  have enough : sizeofDiscAttr ≤ db.memFree := by omega
  -- the node of the sequence leaves room for its child's
  have enough' : sizeofDiscAttr ≤ ((db.write db.pFreeMem discAttrValueOffset).take sizeofDiscAttr).memFree := by
    rw [DiscDb.take_memFree (by rw [DiscDb.write_memFree]; exact enough), DiscDb.write_memFree]
    omega
  have list : AttrHeader.attrType ⟨0x35, p + 2, 1, sizeofDiscAttr⟩ = dataEleSeqDescType := by
    simp [AttrHeader.attrType, dataEleSeqDescType]
  have lenType : AttrHeader.lenType ⟨0x35, p + 2, 1, sizeofDiscAttr⟩ = 0x6001 := by
    simp [AttrHeader.lenType, list, dataEleSeqDescType]
  rw [addAttr, seq, Parsed.returned_bind]
  dsimp only
  rw [if_neg (Nat.not_lt.mpr enough), if_neg (by simp [list, dataEleSeqDescType, uintDescType]), if_pos (Or.inl list),
    if_neg (by simp [maxNestLevels]), addChildren_uint8 placed.2.2 inside enough' _ fuel, Parsed.returned_bind]
  exact ⟨rfl, by rw [lenType]⟩

theorem addAttr_child_overruns_sequence_fourBytes :
    readAttrHeader false [0x35, 0x01, 0x08, 0x05] 4 0 = .returned (some ⟨0x35, 2, 1, sizeofDiscAttr⟩) ∧
    (addAttr false [0x35, 0x01, 0x08, 0x05] 4 3 0 ⟨1000, 0, [[]], [], by decide⟩ 0x100 0).Returns fun added =>
      added.next = some 4 ∧ added.linked = some (.list 0x100 0x6001 [.leaf 0 0x1001 (.u8 5)]) :=
  addAttr_child_overruns_sequence (v := 5) ⟨rfl, rfl, rfl, rfl⟩ (Nat.le_refl 4) ⟨1000, 0, [[]], [], by decide⟩ (by decide) 0x100 0

end Overrun

/-! ## `save_attr_seq` -/

variable {pSeqEnd : Nat}

/-- Every round of the loop of `save_attr_seq` that returns moves on inside
the list and extends the database's memory within what it had free. -/
theorem saveAttrLoop_advances (fuel : Nat) :
    ∀ p db r, p ≤ pSeqEnd → saveAttrLoop detectNil msg pSeqEnd fuel p db = .returned r →
      Advances p pSeqEnd db r.1 r.2 := by
  induction fuel with
  | zero =>
    intro _ _ _ _ ran
    simp [saveAttrLoop] at ran
  | succ fuel ih =>
    intro p db r below ran
    simp only [saveAttrLoop] at ran
    by_cases ended : pSeqEnd ≤ p
    · rw [if_pos ended] at ran
      cases ran
      exact ⟨fun q same => by cases same; omega, Arena.Extends.refl db.memFree_lt⟩
    rw [if_neg ended] at ran
    have stays : Advances p pSeqEnd db none db := ⟨fun _ none => (nomatch none), Arena.Extends.refl db.memFree_lt⟩
    obtain ⟨type, -, ran⟩ := Parsed.bind_eq_returned.mp ran
    obtain ⟨size, sized, ran⟩ := Parsed.bind_eq_returned.mp ran
    rcases size with _ | ⟨attrLen, q⟩
    · cases ran
      exact stays
    have after := sdpuGetLenFromType_after sized
    dsimp only at ran
    by_cases tooLong : pSeqEnd < q + attrLen
    · rw [if_pos tooLong] at ran
      cases ran
      exact stays
    rw [if_neg tooLong] at ran
    by_cases wrong : type.toNat >>> 3 ≠ uintDescType ∨ attrLen ≠ 2
    · rw [if_pos wrong] at ran
      cases ran
      exact stays
    rw [if_neg wrong] at ran
    have two : attrLen = 2 := by omega
    obtain ⟨attrId, -, ran⟩ := Parsed.bind_eq_returned.mp ran
    obtain ⟨added, addedRan, ran⟩ := Parsed.bind_eq_returned.mp ran
    -- the value is read against the list's end, from after the ID
    have value := (addAttr_advances fuel).1 _ _ _ _ _ addedRan
    have linked : Arena.Extends (2 ^ 32) db.arena added.linkedDb.arena := by
      rw [AddAttr.linkedDb_arena]
      exact value.arena
    rcases returned : added.next with _ | next
    · rw [returned] at ran
      cases ran
      exact ⟨fun _ none => (nomatch none), linked⟩
    · rw [returned] at ran
      have bounds := value.next_within next returned
      exact ((ih _ _ _ bounds.2 ran).mono (by omega) (Nat.le_refl _)).after linked

/-- The loop of `save_attr_seq` reads only from `p` to the end of the data
received. -/
theorem saveAttrLoop_congr (length : msg'.length = msg.length) (fuel : Nat) :
    ∀ p db, p ≤ pSeqEnd → Agree msg msg' p msg.length →
      saveAttrLoop detectNil msg pSeqEnd fuel p db = saveAttrLoop detectNil msg' pSeqEnd fuel p db := by
  induction fuel with
  | zero =>
    intro _ _ _ _
    simp only [saveAttrLoop]
  | succ fuel ih =>
    intro p db below agree
    -- past the end of both, the two inputs agree too
    have agreeAll : ∀ hi, Agree msg msg' p hi := fun _ => Agree.of_length length agree
    simp only [saveAttrLoop]
    by_cases ended : pSeqEnd ≤ p
    · simp only [if_pos ended]
    simp only [if_neg ended]
    rw [agreeAll (p + 1) p (Nat.le_refl p) (Nat.lt_succ_self p), length]
    refine Parsed.bind_congr rfl fun type _ => ?_
    refine Parsed.bind_congr (sdpuGetLenFromType_congr ((agreeAll _).mono (Nat.le_succ p) (Nat.le_refl _)))
      fun size sized => ?_
    rcases size with _ | ⟨attrLen, q⟩
    · rfl
    have after := sdpuGetLenFromType_after sized
    dsimp only
    by_cases tooLong : pSeqEnd < q + attrLen
    · simp only [if_pos tooLong]
    simp only [if_neg tooLong]
    by_cases wrong : type.toNat >>> 3 ≠ uintDescType ∨ attrLen ≠ 2
    · simp only [if_pos wrong]
    simp only [if_neg wrong]
    rw [readU16At_congr ((agreeAll _).mono (by omega) (Nat.le_refl _))]
    refine Parsed.bind_congr rfl fun attrId _ => ?_
    refine Parsed.bind_congr ((addAttr_congr fuel).1 _ _ _ _ ((agreeAll _).mono (by omega) (Nat.le_refl _)))
      fun added addedRan => ?_
    -- the next attribute starts past this one
    have value := (addAttr_advances fuel).1 _ _ _ _ _ addedRan
    rcases returned : added.next with _ | next
    · rfl
    · have bounds := value.next_within next returned
      exact ih _ _ bounds.2 ((agreeAll _).mono (by omega) (Nat.le_refl _))

/-- With fuel for two rounds a byte, the loop of `save_attr_seq` over a list
inside the input returns. -/
theorem saveAttrLoop_returns (inside : pSeqEnd ≤ msg.length) (fuel : Nat) :
    ∀ p db, p ≤ pSeqEnd → 2 * (pSeqEnd - p) + 2 ≤ fuel →
      (saveAttrLoop detectNil msg pSeqEnd fuel p db).Returns fun _ => True := by
  induction fuel with
  | zero =>
    intro _ _ _ enough
    omega
  | succ fuel ih =>
    intro p db below enough
    simp only [saveAttrLoop]
    by_cases ended : pSeqEnd ≤ p
    · rw [if_pos ended]
      trivial
    rw [if_neg ended]
    refine Parsed.returns_ofOption_bind (by simp; omega) fun type _ => ?_
    refine Parsed.returns_bind (sdpuGetLenFromType_returns (Nat.le_refl _)) fun size sized _ => ?_
    rcases size with _ | ⟨attrLen, q⟩
    · trivial
    have after := sdpuGetLenFromType_after sized
    dsimp only
    by_cases tooLong : pSeqEnd < q + attrLen
    · rw [if_pos tooLong]
      trivial
    rw [if_neg tooLong]
    by_cases wrong : type.toNat >>> 3 ≠ uintDescType ∨ attrLen ≠ 2
    · rw [if_pos wrong]
      trivial
    rw [if_neg wrong]
    refine Parsed.returns_ofOption_bind (readU16At_isSome (by omega)) fun attrId _ => ?_
    refine Parsed.returns_bind ((addAttr_returns inside fuel).1 _ _ _ _ (by omega)) fun added addedRan _ => ?_
    -- the next attribute starts past this one, so it needs less fuel
    have value := (addAttr_advances fuel).1 _ _ _ _ _ addedRan
    rcases returned : added.next with _ | next
    · trivial
    · have bounds := value.next_within next returned
      exact ih _ _ bounds.2 (by omega)

theorem saveAttrSeq_extends {fuel p : Nat} {r : Option Nat × DiscDb}
    (ran : saveAttrSeq detectNil fuel msg p db = .returned r) : Arena.Extends (2 ^ 32) db.arena r.2.arena := by
  unfold saveAttrSeq at ran
  have stays : Arena.Extends (2 ^ 32) db.arena db.arena := Arena.Extends.refl db.memFree_lt
  obtain ⟨type, -, ran⟩ := Parsed.bind_eq_returned.mp ran
  by_cases wrong : type.toNat >>> 3 ≠ dataEleSeqDescType
  · rw [if_pos wrong] at ran
    cases ran
    exact stays
  rw [if_neg wrong] at ran
  obtain ⟨size, -, ran⟩ := Parsed.bind_eq_returned.mp ran
  rcases size with _ | ⟨seqLen, q⟩
  · cases ran
    exact stays
  dsimp only at ran
  by_cases tooLong : msg.length < q + seqLen
  · rw [if_pos tooLong] at ran
    cases ran
    exact stays
  rw [if_neg tooLong] at ran
  rcases added : addRecord db with _ | db₁
  · rw [added] at ran
    cases ran
    exact stays
  · rw [added] at ran
    exact (addRecord_extends added).trans (saveAttrLoop_advances fuel _ _ _ (Nat.le_add_right _ _) ran).arena

/-- `save_attr_seq` reads only from `p` to the end of the data received. -/
theorem saveAttrSeq_congr {fuel p : Nat} (length : msg'.length = msg.length) (agree : Agree msg msg' p msg.length) :
    saveAttrSeq detectNil fuel msg p db = saveAttrSeq detectNil fuel msg' p db := by
  unfold saveAttrSeq
  have agreeAll : ∀ hi, Agree msg msg' p hi := fun _ => Agree.of_length length agree
  rw [agreeAll (p + 1) p (Nat.le_refl p) (Nat.lt_succ_self p), length]
  refine Parsed.bind_congr rfl fun type _ => ?_
  by_cases wrong : type.toNat >>> 3 ≠ dataEleSeqDescType
  · simp only [if_pos wrong]
  simp only [if_neg wrong]
  refine Parsed.bind_congr (sdpuGetLenFromType_congr ((agreeAll _).mono (Nat.le_succ p) (Nat.le_refl _)))
    fun size sized => ?_
  rcases size with _ | ⟨seqLen, q⟩
  · rfl
  have after := sdpuGetLenFromType_after sized
  dsimp only
  by_cases tooLong : msg.length < q + seqLen
  · simp only [if_pos tooLong]
  simp only [if_neg tooLong]
  rcases addRecord db with _ | db₁
  · rfl
  · exact saveAttrLoop_congr length fuel _ _ (Nat.le_add_right _ _) (agree.mono (by omega) (Nat.le_refl _))

/-- With fuel for two rounds a byte of the input, `save_attr_seq` at a byte of
the input returns. -/
theorem saveAttrSeq_returns {fuel p : Nat} (below : p < msg.length) (enough : 2 * msg.length + 2 ≤ fuel) :
    (saveAttrSeq detectNil fuel msg p db).Returns fun _ => True := by
  unfold saveAttrSeq
  refine Parsed.returns_ofOption_bind (by simp; omega) fun type _ => ?_
  by_cases wrong : type.toNat >>> 3 ≠ dataEleSeqDescType
  · rw [if_pos wrong]
    trivial
  rw [if_neg wrong]
  refine Parsed.returns_bind (sdpuGetLenFromType_returns (Nat.le_refl _)) fun size _ _ => ?_
  rcases size with _ | ⟨seqLen, q⟩
  · trivial
  dsimp only
  by_cases tooLong : msg.length < q + seqLen
  · rw [if_pos tooLong]
    trivial
  rw [if_neg tooLong]
  rcases addRecord db with _ | db₁
  · trivial
  · exact saveAttrLoop_returns (by omega) fuel _ _ (Nat.le_add_right _ _) (by omega)

theorem processServiceAttrRsp_empty (fuel : Nat) (a b c d : UInt8) (rest : List UInt8) :
    processServiceAttrRsp detectNil fuel db [] ([a, b, c, d, 0, 0, 0] ++ rest) = .stray := by
  simp +arith [processServiceAttrRsp, readU16At, readU16be, saveAttrSeq, sdpMaxListByteCount]

/-- The client's parser of attribute lists terminates, reads only the list
it is given from `p` on, and takes memory only within what the database has
free; but its first read is not checked, and on an attribute response with an
empty list and no continuation it reads outside the response. -/
theorem saveAttrSeq_safe_except_empty_response :
    (∀ (detectNil : Bool) (fuel : Nat) (msg : List UInt8) (p : Nat) (db : DiscDb),
      p < msg.length → 2 * msg.length + 2 ≤ fuel →
      (saveAttrSeq detectNil fuel msg p db).Returns fun r => Arena.Extends (2 ^ 32) db.arena r.2.arena) ∧
    (∀ (detectNil : Bool) (fuel : Nat) (msg msg' : List UInt8) (p : Nat) (db : DiscDb),
      msg'.length = msg.length → Agree msg msg' p msg.length →
      saveAttrSeq detectNil fuel msg p db = saveAttrSeq detectNil fuel msg' p db) ∧
    (∀ (detectNil : Bool) (fuel : Nat) (db : DiscDb) (a b c d : UInt8) (rest : List UInt8),
      processServiceAttrRsp detectNil fuel db [] ([a, b, c, d, 0, 0, 0] ++ rest) = .stray) := by
  refine ⟨fun detectNil fuel msg p db below enough => ?_, fun _ _ _ _ _ _ length agree => saveAttrSeq_congr length agree,
    fun _ fuel _ a b c d rest => processServiceAttrRsp_empty fuel a b c d rest⟩
  exact (saveAttrSeq_returns below enough).of_returned fun r ran => saveAttrSeq_extends ran

end Sdp
end BluetoothStack
