import Mathlib.Data.List.GetD
import BluetoothStack.Crypto.PrivateAddress
import BluetoothStack.Advertising.DataParser

namespace BluetoothStack
namespace Csis

open Cmac
open Crypto (aesCmac xor128 rpaMatchesIrk aesCmac_eq_cmac aes128_prand xor128_reverse)
open Advertising (getFieldByType encodeFields FieldFits Stops)

/-!
# Coordinated set identification (bta/csis)

A member of a coordinated set advertises a resolvable set identifier (RSI):
a random `prand` and the hash `sih(SIRK, prand)`, the low 24 bits of the
encryption of `prand` under the set identity resolving key.  A client that
has bonded with one member reads the SIRK encrypted under the link's LTK and
decrypts it with `sdf`; it then recognises the other members from their
advertising reports: `GetAllRsiFromAdvertising` collects the RSIs a report
holds and `is_rsi_match_sirk` tests each against the SIRK.

The CSIS specification writes its functions most significant octet first
over AES-CMAC (`Spec`).  The stack keeps keys least significant octet first
and reverses the strings "SIRKenc" and "csis" before it hashes them, so that
`sdf` is the reversal of the specification's `sdf` on the reversed inputs
(`sdf_eq_spec`).  `is_rsi_match_sirk` accepts an address exactly when its
hash is `sih` of the key and its `prand` (`isRsiMatchSirk_iff`), and the scan
returns the data of each RSI field of the well-formed prefix that holds an
address, in order (`getAllRsiFrom_fields`).
-/

namespace Spec

/-- The octets of "SIRKenc". -/
def sirkenc : List UInt8 := [0x53, 0x49, 0x52, 0x4B, 0x65, 0x6E, 0x63]

/-- The octets of "csis". -/
def csis : List UInt8 := [0x63, 0x73, 0x69, 0x73]

section Functions

-- the block cipher of the specification, most significant octet first
variable (e : List UInt8 → List UInt8 → List UInt8)

/-- The salt generation function `s1(M) = AES-CMAC_ZERO(M)`. -/
def s1 (m : List UInt8) : List UInt8 := Cmac.cmac e zeroBlock m

/-- The key derivation function `k1(N, SALT, P) = AES-CMAC_T(P)` with
`T = AES-CMAC_SALT(N)`. -/
def k1 (n salt p : List UInt8) : List UInt8 := Cmac.cmac e (Cmac.cmac e salt n) p

/-- The SIRK decryption function `sdf(K, EncSIRK) = k1(K, s1("SIRKenc"), "csis") XOR EncSIRK`. -/
def sdf (k encSirk : List UInt8) : List UInt8 := xorBlock (k1 e k (s1 e sirkenc) csis) encSirk

/-- The set identity resolving hash `sih(k, r) = e(k, r') mod 2^24` with
`r' = padding || r`: the Core specification's `ah`. -/
def sih (k r : List UInt8) : List UInt8 := Crypto.Spec.ah e k r

end Functions

end Spec

section Cipher

variable (aesEncrypt : List UInt8 → List UInt8 → List UInt8) (stale : Nat → UInt8)

/-- `CsisClientImpl::sdf`, with `BTM_BleGetPeerLTK` giving `peerLtk`: none
where the source returns false, for a peer without an LTK. -/
def sdf (peerLtk : Option (List UInt8)) (encryptedSirk : List UInt8) : Option (List UInt8) :=
  match peerLtk with
  | none => none
  | some ltk =>
    let zeroKey := List.replicate 16 0
    -- "SIRKenc", reversed in place
    let msg1 : List UInt8 := [0x53, 0x49, 0x52, 0x4B, 0x65, 0x6E, 0x63].reverse
    let s1 := aesCmac aesEncrypt zeroKey msg1 stale
    let t := aesCmac aesEncrypt s1 ltk stale
    -- "csis", reversed in place
    let msg2 : List UInt8 := [0x63, 0x73, 0x69, 0x73].reverse
    let k1 := aesCmac aesEncrypt t msg2 stale
    some (xor128 encryptedSirk k1)

/-- `CsisGroup::is_rsi_match_sirk`: the body of `rpa_matches_irk`, on the RSI
and the SIRK. -/
def isRsiMatchSirk (rsi : RawAddress) (sirk : List UInt8) : Bool := rpaMatchesIrk aesEncrypt rsi sirk

end Cipher

/-- `BTM_BLE_AD_TYPE_RSI`. -/
def btmBleAdTypeRsi : UInt8 := 0x2E

/-- `STREAM_TO_BDADDR` of types/raw_address.h: the first byte of the stream
is `address[5]` and the sixth `address[0]`. -/
def streamToBdaddr (p : List UInt8) : RawAddress := ⟨fun i => p.getD (5 - i.val) 0⟩

/-- The loop of `GetAllRsiFromAdvertising` from `start`, the end of the data
of the field found last (`p_service_data + service_data_len`): the search
goes on over the `eir_len - start` bytes from there, and a field with fewer
than `RawAddress::kLength` bytes of data is passed over. -/
def getAllRsiFrom (eir : List UInt8) (start : Nat) : List RawAddress :=
  match _ : getFieldByType (eir.drop start) btmBleAdTypeRsi with
  | (some offset, serviceDataLen) =>
    if serviceDataLen < 6 then getAllRsiFrom eir (start + offset + serviceDataLen)
    else streamToBdaddr (eir.drop (start + offset)) :: getAllRsiFrom eir (start + offset + serviceDataLen)
  | (none, _) => []
termination_by eir.length - start
decreasing_by
  -- the field found lies inside the window, so the next search starts further on
  all_goals
    have inside := Advertising.getFieldByType_inside ‹_›
    simp only [List.length_drop] at inside
    omega

/-- `GetAllRsiFromAdvertising`, on the `eir_len` bytes at `p_eir`. -/
def getAllRsiFromAdvertising (eir : List UInt8) : List RawAddress := getAllRsiFrom eir 0

/-! ## sdf and is_rsi_match_sirk refine the specification -/

section Refinement

variable {aesEncrypt : List UInt8 → List UInt8 → List UInt8}

-- the code XORs the value with the reversed key, the specification the key with the value
theorem xor128_reverse_right {a b : List UInt8} (same : a.length = b.length) :
    xor128 a b.reverse = (xorBlock b a.reverse).reverse := by
  calc xor128 a b.reverse = xor128 a.reverse.reverse b.reverse := by rw [List.reverse_reverse]
    _ = (xorBlock a.reverse b).reverse := xor128_reverse (by rw [List.length_reverse, same])
    _ = (xorBlock b a.reverse).reverse := by rw [xorBlock_comm]

variable (stale : Nat → UInt8)

-- AES maps every key and block to a block
variable (blockSized : ∀ key message, (aesEncrypt key message).length = 16)

include blockSized

/-- `sdf` decrypts the SIRK as the specification does, on the values stored
least significant octet first. -/
theorem sdf_eq_spec (ltk : List UInt8) {encryptedSirk : List UInt8} (sized : encryptedSirk.length = 16) :
    sdf aesEncrypt stale (some ltk) encryptedSirk =
      some (Spec.sdf aesEncrypt ltk.reverse encryptedSirk.reverse).reverse := by
  -- each of the three MACs is the reversal of the specification's on the reversed key and message
  simp only [sdf, aesCmac_eq_cmac blockSized, List.reverse_reverse, List.reverse_replicate]
  rw [xor128_reverse_right (by rw [sized, length_cmac blockSized])]
  rfl

/-- An RSI matches a SIRK exactly when its hash, bytes 3 to 5 of the
`RawAddress`, is `sih` of the SIRK and its `prand`, bytes 0 to 2, most
significant octet first. -/
theorem isRsiMatchSirk_iff (rsi : RawAddress) (sirk : List UInt8) :
    isRsiMatchSirk aesEncrypt rsi sirk = true ↔
      [rsi.address 3, rsi.address 4, rsi.address 5] =
        Spec.sih aesEncrypt sirk.reverse [rsi.address 0, rsi.address 1, rsi.address 2] := by
  unfold isRsiMatchSirk rpaMatchesIrk
  rw [beq_iff_eq, aes128_prand blockSized, Spec.sih, List.reverse_eq_iff, eq_comm]
  rfl

end Refinement

/-! ## The RSI scan -/

-- STREAM_TO_BDADDR reads six bytes of the stream and no more
theorem streamToBdaddr_append {p : List UInt8} (q : List UInt8) (long : 6 ≤ p.length) :
    streamToBdaddr (p ++ q) = streamToBdaddr p := by
  unfold streamToBdaddr
  congr 1
  funext i
  exact List.getD_append _ _ _ _ (by omega)

/-- The address read from a stream, least significant octet first, is the
stream's first six octets. -/
theorem octets_streamToBdaddr {p : List UInt8} (long : 6 ≤ p.length) :
    (List.ofFn (streamToBdaddr p).address).reverse = p.take 6 := by
  apply List.ext_getElem
  · simp
    omega
  · intro i inside _
    simp only [List.length_reverse, List.length_ofFn] at inside
    rw [List.getElem_reverse, List.getElem_ofFn, List.getElem_take]
    simp only [streamToBdaddr, List.length_ofFn]
    rw [List.getD_eq_getElem _ _ (by omega)]
    congr 1
    omega

theorem getAllRsiFrom_absent {eir : List UInt8} {start len : Nat}
    (absent : getFieldByType (eir.drop start) btmBleAdTypeRsi = (none, len)) : getAllRsiFrom eir start = [] := by
  rw [getAllRsiFrom]
  split
  next found =>
    rw [absent] at found
    cases found
  next => rfl

theorem getAllRsiFrom_found {eir : List UInt8} {start offset len : Nat}
    (found : getFieldByType (eir.drop start) btmBleAdTypeRsi = (some offset, len)) :
    getAllRsiFrom eir start =
      if len < 6 then getAllRsiFrom eir (start + offset + len)
      else streamToBdaddr (eir.drop (start + offset)) :: getAllRsiFrom eir (start + offset + len) := by
  rw [getAllRsiFrom]
  split
  next offset' len' found' =>
    rw [found, Prod.mk.injEq, Option.some.injEq] at found'
    obtain ⟨rfl, rfl⟩ := found'
    rfl
  next found' =>
    rw [found] at found'
    cases found'

/-- Whether a field is an RSI field whose data holds an address. -/
def carriesRsi (field : List UInt8) : Bool := field.headD 0 == btmBleAdTypeRsi && decide (6 ≤ field.tail.length)

theorem carriesRsi_eq_true {field : List UInt8} :
    carriesRsi field = true ↔ field.headD 0 = btmBleAdTypeRsi ∧ 6 ≤ field.tail.length := by
  simp only [carriesRsi, Bool.and_eq_true, beq_iff_eq, decide_eq_true_eq]

/-- From a field boundary of the well-formed prefix, the scan returns the
address in the data of each later RSI field that holds one, in order. -/
theorem getAllRsiFrom_fields {eir : List UInt8} {start : Nat} {fields : List (List UInt8)} {rest : List UInt8}
    (fits : ∀ g ∈ fields, FieldFits g) (split : eir.drop start = encodeFields fields ++ rest) (stops : Stops rest) :
    getAllRsiFrom eir start = (fields.filter carriesRsi).map fun field => streamToBdaddr field.tail := by
  -- strong induction on the number of fields: a round passes over every field before the next RSI one
  obtain ⟨n, count⟩ : ∃ n, fields.length = n := ⟨_, rfl⟩
  induction n using Nat.strong_induction_on generalizing fields start with
  | _ n ih =>
    rcases Advertising.first_of_type fields btmBleAdTypeRsi with absent | ⟨front, field, back, parts, earlier, typed⟩
    · -- no RSI field is left: GetFieldByType gives NULL
      rw [getAllRsiFrom_absent (Advertising.getFieldByType_absent fits split stops absent)]
      have none : fields.filter carriesRsi = [] :=
        List.filter_eq_nil_iff.mpr fun g member carries => absent g member (carriesRsi_eq_true.mp carries).1
      rw [none, List.map_nil]
    · subst parts
      have nonempty : field ≠ [] := (fits field (by simp)).1
      have data : eir.drop (start + ((encodeFields front).length + 2)) = field.tail ++ (encodeFields back ++ rest) := by
        rw [← List.drop_drop, split, Advertising.drop_found front back rest nonempty]
      have tailLength : field.tail.length = field.length - 1 := by simp
      -- the next search starts at the field after the one found
      have next : eir.drop (start + ((encodeFields front).length + 2) + (field.length - 1)) =
          encodeFields back ++ rest := by
        rw [← List.drop_drop, data, ← tailLength, List.drop_left]
      have rounds := ih back.length (by simp at count; omega) (fun g member => fits g (by simp [member])) next rfl
      have passed : front.filter carriesRsi = [] :=
        List.filter_eq_nil_iff.mpr fun g member carries => earlier g member (carriesRsi_eq_true.mp carries).1
      rw [getAllRsiFrom_found (Advertising.getFieldByType_found fits split earlier typed), rounds, List.filter_append,
        passed, List.nil_append, List.filter_cons]
      by_cases long : 6 ≤ field.tail.length
      · have carries : carriesRsi field = true := carriesRsi_eq_true.mpr ⟨typed, long⟩
        rw [if_neg (by omega), if_pos carries, List.map_cons, data, streamToBdaddr_append _ long]
      · have carries : carriesRsi field = false :=
          Bool.eq_false_iff.mpr fun carries => long (carriesRsi_eq_true.mp carries).2
        rw [if_pos (by omega), if_neg (by simp [carries])]

/-! ## Set identification -/

theorem csisSetIdentification_spec {aesEncrypt : List UInt8 → List UInt8 → List UInt8}
    (blockSized : ∀ key message, (aesEncrypt key message).length = 16) (stale : Nat → UInt8) :
    (∀ ltk encryptedSirk : List UInt8, encryptedSirk.length = 16 →
      sdf aesEncrypt stale (some ltk) encryptedSirk =
        some (Spec.sdf aesEncrypt ltk.reverse encryptedSirk.reverse).reverse) ∧
    (∀ encryptedSirk : List UInt8, sdf aesEncrypt stale none encryptedSirk = none) ∧
    (∀ (rsi : RawAddress) (sirk : List UInt8), isRsiMatchSirk aesEncrypt rsi sirk = true ↔
      [rsi.address 3, rsi.address 4, rsi.address 5] =
        Spec.sih aesEncrypt sirk.reverse [rsi.address 0, rsi.address 1, rsi.address 2]) ∧
    (∀ (eir : List UInt8) (fields : List (List UInt8)) (rest : List UInt8),
      (∀ g ∈ fields, FieldFits g) → eir = encodeFields fields ++ rest → Stops rest →
        (getAllRsiFromAdvertising eir).map (fun rsi => (List.ofFn rsi.address).reverse) =
          (fields.filter carriesRsi).map fun field => field.tail.take 6) ∧
    (∀ (eir : List UInt8) (start offset len : Nat),
      getFieldByType (eir.drop start) btmBleAdTypeRsi = (some offset, len) → start + offset + len ≤ eir.length) := by
  refine ⟨fun ltk _ sized => sdf_eq_spec stale blockSized ltk sized, fun _ => rfl, isRsiMatchSirk_iff blockSized,
    ?_, ?_⟩
  · intro eir fields rest fits split stops
    rw [getAllRsiFromAdvertising, getAllRsiFrom_fields fits (by rw [List.drop_zero, split]) stops, List.map_map]
    -- each address read, least significant octet first, is the first six octets of its field's data
    apply List.map_congr_left
    intro field member
    exact octets_streamToBdaddr (carriesRsi_eq_true.mp (List.of_mem_filter member)).2
  · -- the data of a field found in the window ends inside the buffer
    intro eir start offset len found
    have inside := Advertising.getFieldByType_inside found
    simp only [List.length_drop] at inside
    omega

-- a report with a flags field and an RSI field
theorem csisSetIdentification_spec_report :
    (∀ key block, (Crypto.keyXorCipher key block).length = 16) ∧
      (getAllRsiFromAdvertising [0x02, 0x01, 0x06, 0x07, 0x2E, 1, 2, 3, 4, 5, 6]).map
        (fun rsi => (List.ofFn rsi.address).reverse) = [[1, 2, 3, 4, 5, 6]] := by
  refine ⟨Crypto.keyXorCipher_sized, ?_⟩
  have scan := (csisSetIdentification_spec Crypto.keyXorCipher_sized (fun _ => 0)).2.2.2.1
    [0x02, 0x01, 0x06, 0x07, 0x2E, 1, 2, 3, 4, 5, 6] [[0x01, 0x06], [0x2E, 1, 2, 3, 4, 5, 6]] [] (by decide) (by decide)
    (by decide)
  rw [scan]
  decide

end Csis
end BluetoothStack
