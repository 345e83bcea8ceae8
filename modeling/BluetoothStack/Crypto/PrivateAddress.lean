import Mathlib.Data.Fin.VecNotation
import BluetoothStack.Crypto.AesCmac
import BluetoothStack.Types.Address
import BluetoothStack.Library.FuelLoop

namespace BluetoothStack
namespace Crypto

/-!
# Resolvable and non-resolvable private addresses

`LeAddressManager::generate_rpa` draws three random bytes `prand`, clears
their two top bits, replaces the first byte when the 22 random bits are all
zeros or all ones, and sets the top bits to `01`.  The hash is the low three
bytes of `aes_128(irk, prand)`; the address holds the hash in its bytes 0..2
and `prand` in bytes 3..5, least significant byte first as `hci::Address`
stores it.  `rpa_matches_irk` of btm_ble_addr.cc takes a `RawAddress`, most
significant byte first: `ToRawAddress` reverses the six bytes, and it reads
`prand` and the hash back from the reversed positions.

With `ah(k, r)` the low 24 bits of `e(k, 0^104 || r)` (`Spec.ah`), every
generated address is resolvable with its hash equal to `ah(irk, prand)`, and
`rpa_matches_irk` accepts an address under a key exactly when its hash is
`ah` of the key and its `prand` (`privateAddress_spec`).

`generate_nrpa` draws again while the address equals the public address.
Whatever it returns is a non-resolvable private address other than the
public one; it returns once a draw gives a first byte other than the public
address's, and never when the random source keeps giving it
(`generateNrpa_diverges_on_constant_source`).
-/

/-- The byte positions of an address are numerals of `Fin 6`; this names the
fact they need, so that each position is one term and not a proof made anew. -/
local instance addressBytesNeZero : NeZero 6 := ⟨by decide⟩

/-- `BLE_ADDR_MASK`: the two top bits of an address. -/
def bleAddrMask : UInt8 := 0xC0

/-- `BLE_RESOLVE_ADDR_MSB`: top bits `01`. -/
def bleResolveAddrMsb : UInt8 := 0x40

namespace Spec

/-- The random address hash function `ah(k, r)`: the low 24 bits of
`e(k, r')` with `r' = 0^104 || r`, most significant octet first. -/
def ah (e : List UInt8 → List UInt8 → List UInt8) (k r : List UInt8) : List UInt8 :=
  (e k (List.replicate 13 0 ++ r)).drop 13

end Spec

/-- The random part of a private address, all of its bits but the two top
ones, is neither all zeros nor all ones: `low` are its whole bytes, `top` the
byte whose low six bits it also takes. -/
def NontrivialRandom (low : List UInt8) (top : UInt8) : Prop :=
  ¬ ((∀ byte ∈ low, byte = 0x00) ∧ top &&& 0x3F = 0x00) ∧ ¬ ((∀ byte ∈ low, byte = 0xFF) ∧ top &&& 0x3F = 0x3F)

/-- The hash of an RPA, least significant byte first. -/
def hashOf (address : Hci.Address) : List UInt8 := [address.address 0, address.address 1, address.address 2]

/-- The `prand` of an RPA, most significant byte first. -/
def prandOf (address : Hci.Address) : List UInt8 := [address.address 5, address.address 4, address.address 3]

/-- `ToRawAddress`: the bytes in the reverse order. -/
def toRawAddress (address : Hci.Address) : RawAddress := ⟨fun i => address.address i.rev⟩

/-- `BTM_BLE_IS_RESOLVE_BDA`: the top bits of the most significant byte are `01`. -/
def btmBleIsResolveBda (x : RawAddress) : Bool := (x.address 0 &&& bleAddrMask) == bleResolveAddrMsb

section Cipher

variable (aesEncrypt : List UInt8 → List UInt8 → List UInt8)

/-- `LeAddressManager::generate_rpa`, with `GenerateRandom<3>()` giving
`generated` and the `GenerateRandom()` that replaces a trivial first byte
giving `random`. -/
def generateRpa (rotationIrk : List UInt8) (generated : Fin 3 → UInt8) (random : UInt32) : Hci.Address :=
  let masked := generated 2 &&& ~~~bleAddrMask
  let prand0 :=
    if (generated 0 = 0x00 ∧ generated 1 = 0x00 ∧ masked = 0x00) ∨ (generated 0 = 0xFF ∧ generated 1 = 0xFF ∧ masked = 0x3F)
    then UInt8.ofNat (random.toNat % 0xFE + 1) else generated 0
  let prand2 := masked ||| bleResolveAddrMsb
  let p := aes128 aesEncrypt rotationIrk ([prand0, generated 1, prand2] ++ List.replicate 13 0)
  ⟨![p.getD 0 0, p.getD 1 0, p.getD 2 0, prand0, generated 1, prand2]⟩

/-- `rpa_matches_irk`: `prand` from bytes 2, 1, 0 of the `RawAddress`,
compared after encryption with bytes 5, 4, 3. -/
def rpaMatchesIrk (rpa : RawAddress) (irk : List UInt8) : Bool :=
  let x := aes128 aesEncrypt irk ([rpa.address 2, rpa.address 1, rpa.address 0] ++ List.replicate 13 0)
  x.take 3 == [rpa.address 5, rpa.address 4, rpa.address 3]

end Cipher

/-- One round of the loop of `generate_nrpa` that keeps the address off the
public address; the state is the address and the number of values drawn. -/
def nrpaRound (publicAddress : Hci.Address) (draws : Nat → UInt32) (state : Hci.Address × Nat) :
    FuelLoop.Flow (Hci.Address × Nat) Hci.Address :=
  if state.1 = publicAddress then
    .next (⟨Function.update state.1.address 0 (UInt8.ofNat ((draws state.2).toNat % 0xFE + 1))⟩, state.2 + 1)
  else .exit state.1

/-- `LeAddressManager::generate_nrpa`, with `GenerateRandom<6>()` giving
`generated`, the `GenerateRandom()` that replaces a trivial first byte
`random`, and those of the loop `draws`, run for at most `fuel` rounds. -/
def generateNrpa (publicAddress : Hci.Address) (generated : Fin 6 → UInt8) (random : UInt32) (draws : Nat → UInt32)
    (fuel : Nat) : Option Hci.Address :=
  let masked := Function.update generated 5 (generated 5 &&& ~~~bleAddrMask)
  let trivial :=
    (masked 0 = 0x00 ∧ masked 1 = 0x00 ∧ masked 2 = 0x00 ∧ masked 3 = 0x00 ∧ masked 4 = 0x00 ∧ masked 5 = 0x00) ∨
      (masked 0 = 0xFF ∧ masked 1 = 0xFF ∧ masked 2 = 0xFF ∧ masked 3 = 0xFF ∧ masked 4 = 0xFF ∧ masked 5 = 0x3F)
  let random' := if trivial then Function.update masked 0 (UInt8.ofNat (random.toNat % 0xFE + 1)) else masked
  FuelLoop.run (nrpaRound publicAddress draws) fuel (⟨random'⟩, 0)

/-! ## Bits of the generated bytes -/

-- a replaced first byte is one of 1 .. 0xFE
theorem replacedByte_ne (n : Nat) : UInt8.ofNat (n % 0xFE + 1) ≠ 0x00 ∧ UInt8.ofNat (n % 0xFE + 1) ≠ 0xFF := by
  have small := Nat.mod_lt n (show 0 < 0xFE by decide)
  have value : (UInt8.ofNat (n % 0xFE + 1)).toNat = n % 0xFE + 1 :=
    UInt8.toNat_ofNat_of_lt' (by simp only [UInt8.size]; omega)
  constructor
  · intro zero
    have := congrArg UInt8.toNat zero
    rw [value] at this
    simp at this
  · intro ones
    have := congrArg UInt8.toNat ones
    rw [value] at this
    simp at this
    omega

-- the top byte of an RPA: bits 01, and below them the six random bits
theorem resolvableTop (byte : UInt8) :
    ((byte &&& ~~~bleAddrMask) ||| bleResolveAddrMsb) &&& bleAddrMask = bleResolveAddrMsb ∧
      ((byte &&& ~~~bleAddrMask) ||| bleResolveAddrMsb) &&& 0x3F = byte &&& ~~~bleAddrMask := by
  have all : ∀ n : Fin 256,
      ((UInt8.ofNat n &&& ~~~bleAddrMask) ||| bleResolveAddrMsb) &&& bleAddrMask = bleResolveAddrMsb ∧
        ((UInt8.ofNat n &&& ~~~bleAddrMask) ||| bleResolveAddrMsb) &&& 0x3F = UInt8.ofNat n &&& ~~~bleAddrMask := by
    decide +kernel
  simpa using all ⟨byte.toNat, UInt8.toNat_lt byte⟩

-- the top byte of an NRPA: bits 00, and below them the six random bits
theorem nonResolvableTop (byte : UInt8) :
    (byte &&& ~~~bleAddrMask) &&& bleAddrMask = 0 ∧ (byte &&& ~~~bleAddrMask) &&& 0x3F = byte &&& ~~~bleAddrMask := by
  have all : ∀ n : Fin 256,
      (UInt8.ofNat n &&& ~~~bleAddrMask) &&& bleAddrMask = 0 ∧
        (UInt8.ofNat n &&& ~~~bleAddrMask) &&& 0x3F = UInt8.ofNat n &&& ~~~bleAddrMask := by
    decide +kernel
  simpa using all ⟨byte.toNat, UInt8.toNat_lt byte⟩

theorem take_three {bytes : List UInt8} (long : 3 ≤ bytes.length) :
    [bytes.getD 0 0, bytes.getD 1 0, bytes.getD 2 0] = bytes.take 3 := by
  rcases bytes with _ | ⟨a, _ | ⟨b, _ | ⟨c, rest⟩⟩⟩
  all_goals simp at long ⊢

section Cipher

variable {aesEncrypt : List UInt8 → List UInt8 → List UInt8}

-- the low three bytes of aes_128 of prand, stored least significant first, are ah reversed
theorem aes128_prand (blockSized : ∀ key message, (aesEncrypt key message).length = 16) (irk : List UInt8)
    (b0 b1 b2 : UInt8) :
    (aes128 aesEncrypt irk ([b0, b1, b2] ++ List.replicate 13 0)).take 3 =
      (Spec.ah aesEncrypt irk.reverse [b2, b1, b0]).reverse := by
  have block : ([b0, b1, b2] ++ List.replicate 13 (0 : UInt8)).reverse = List.replicate 13 0 ++ [b2, b1, b0] := by
    simp
  rw [aes128, block, List.take_reverse, blockSized, Spec.ah]

theorem generateRpa_top (irk : List UInt8) (generated : Fin 3 → UInt8) (random : UInt32) :
    (generateRpa aesEncrypt irk generated random).address 5 &&& bleAddrMask = bleResolveAddrMsb :=
  (resolvableTop (generated 2)).1

theorem generateRpa_nontrivial (irk : List UInt8) (generated : Fin 3 → UInt8) (random : UInt32) :
    let address := generateRpa aesEncrypt irk generated random
    NontrivialRandom [address.address 3, address.address 4] (address.address 5) := by
  intro address
  have random5 : address.address 5 &&& 0x3F = generated 2 &&& ~~~bleAddrMask := (resolvableTop (generated 2)).2
  show NontrivialRandom [_, generated 1] _
  unfold NontrivialRandom
  rw [random5]
  by_cases trivial : (generated 0 = 0x00 ∧ generated 1 = 0x00 ∧ generated 2 &&& ~~~bleAddrMask = 0x00) ∨
      (generated 0 = 0xFF ∧ generated 1 = 0xFF ∧ generated 2 &&& ~~~bleAddrMask = 0x3F)
  · -- the replaced first byte is neither 0x00 nor 0xFF
    have first : address.address 3 = UInt8.ofNat (random.toNat % 0xFE + 1) := if_pos trivial
    obtain ⟨notZero, notOnes⟩ := replacedByte_ne random.toNat
    rw [first]
    constructor
    · rintro ⟨zeros, _⟩
      exact notZero (zeros _ (by simp))
    · rintro ⟨ones, _⟩
      exact notOnes (ones _ (by simp))
  · have first : address.address 3 = generated 0 := if_neg trivial
    rw [first]
    constructor
    · rintro ⟨zeros, top⟩
      exact trivial (.inl ⟨zeros _ (by simp), zeros _ (by simp), top⟩)
    · rintro ⟨ones, top⟩
      exact trivial (.inr ⟨ones _ (by simp), ones _ (by simp), top⟩)

theorem generateRpa_hash (blockSized : ∀ key message, (aesEncrypt key message).length = 16) (irk : List UInt8)
    (generated : Fin 3 → UInt8) (random : UInt32) :
    hashOf (generateRpa aesEncrypt irk generated random) =
      (Spec.ah aesEncrypt irk.reverse (prandOf (generateRpa aesEncrypt irk generated random))).reverse := by
  -- the hash bytes are those of aes_128 of whatever prand the address holds
  have bytes : ∀ b0 b1 b2 : UInt8,
      let p := aes128 aesEncrypt irk ([b0, b1, b2] ++ List.replicate 13 0)
      [p.getD 0 0, p.getD 1 0, p.getD 2 0] = (Spec.ah aesEncrypt irk.reverse [b2, b1, b0]).reverse := by
    intro b0 b1 b2 p
    have long : 3 ≤ p.length := by
      simp only [p, aes128, List.length_reverse, blockSized]
      omega
    rw [take_three long, aes128_prand blockSized]
  exact bytes _ _ _

theorem rpaMatchesIrk_iff (blockSized : ∀ key message, (aesEncrypt key message).length = 16) (address : Hci.Address)
    (irk : List UInt8) :
    rpaMatchesIrk aesEncrypt (toRawAddress address) irk = true ↔
      hashOf address = (Spec.ah aesEncrypt irk.reverse (prandOf address)).reverse := by
  unfold rpaMatchesIrk
  rw [beq_iff_eq, aes128_prand blockSized, eq_comm]
  rfl

end Cipher

/-! ## Non-resolvable private addresses -/

/-- A non-resolvable private address: top bits `00` and a random part of 46
bits neither all zeros nor all ones. -/
def NonResolvable (address : Hci.Address) : Prop :=
  address.address 5 &&& bleAddrMask = 0 ∧
    NontrivialRandom [address.address 0, address.address 1, address.address 2, address.address 3, address.address 4]
      (address.address 5)

-- a first byte of 1 .. 0xFE makes the random part nontrivial whatever the others are
theorem nonResolvable_replaced (bytes : Fin 6 → UInt8) (n : Nat) (top : bytes 5 &&& bleAddrMask = 0) :
    NonResolvable ⟨Function.update bytes 0 (UInt8.ofNat (n % 0xFE + 1))⟩ := by
  obtain ⟨notZero, notOnes⟩ := replacedByte_ne n
  have first : Function.update bytes 0 (UInt8.ofNat (n % 0xFE + 1)) 0 = UInt8.ofNat (n % 0xFE + 1) :=
    Function.update_self _ _ _
  have last : Function.update bytes 0 (UInt8.ofNat (n % 0xFE + 1)) 5 = bytes 5 :=
    Function.update_of_ne (by decide) _ _
  refine ⟨?_, ?_, ?_⟩
  · dsimp only
    rw [last]
    exact top
  · rintro ⟨zeros, _⟩
    exact notZero (first ▸ zeros _ (by simp))
  · rintro ⟨ones, _⟩
    exact notOnes (first ▸ ones _ (by simp))

theorem nrpaRound_keeps (publicAddress : Hci.Address) (draws : Nat → UInt32) (state state' : Hci.Address × Nat)
    (kept : NonResolvable state.1) (going : nrpaRound publicAddress draws state = .next state') :
    NonResolvable state'.1 := by
  unfold nrpaRound at going
  by_cases same : state.1 = publicAddress
  · rw [if_pos same] at going
    cases going
    exact nonResolvable_replaced _ _ kept.1
  · rw [if_neg same] at going
    cases going

-- the address generate_nrpa starts its loop from
theorem generateNrpa_start (generated : Fin 6 → UInt8) (random : UInt32) :
    let masked := Function.update generated 5 (generated 5 &&& ~~~bleAddrMask)
    let trivial :=
      (masked 0 = 0x00 ∧ masked 1 = 0x00 ∧ masked 2 = 0x00 ∧ masked 3 = 0x00 ∧ masked 4 = 0x00 ∧ masked 5 = 0x00) ∨
        (masked 0 = 0xFF ∧ masked 1 = 0xFF ∧ masked 2 = 0xFF ∧ masked 3 = 0xFF ∧ masked 4 = 0xFF ∧ masked 5 = 0x3F)
    NonResolvable ⟨if trivial then Function.update masked 0 (UInt8.ofNat (random.toNat % 0xFE + 1)) else masked⟩ := by
  intro masked trivial
  have top : masked 5 = generated 5 &&& ~~~bleAddrMask := Function.update_self _ _ _
  obtain ⟨clear, random5⟩ := nonResolvableTop (generated 5)
  by_cases replaced : trivial
  · rw [if_pos replaced]
    exact nonResolvable_replaced _ _ (top ▸ clear)
  · rw [if_neg replaced]
    refine ⟨?_, ?_, ?_⟩
    · dsimp only
      rw [top]
      exact clear
    · rintro ⟨zeros, low⟩
      dsimp only at low
      rw [top, random5, ← top] at low
      exact replaced (.inl ⟨zeros _ (by simp), zeros _ (by simp), zeros _ (by simp), zeros _ (by simp),
        zeros _ (by simp), low⟩)
    · rintro ⟨ones, low⟩
      dsimp only at low
      rw [top, random5, ← top] at low
      exact replaced (.inr ⟨ones _ (by simp), ones _ (by simp), ones _ (by simp), ones _ (by simp),
        ones _ (by simp), low⟩)

theorem generateNrpa_nonResolvable {publicAddress : Hci.Address} {generated : Fin 6 → UInt8} {random : UInt32}
    {draws : Nat → UInt32} {fuel : Nat} {address : Hci.Address}
    (ran : generateNrpa publicAddress generated random draws fuel = some address) :
    NonResolvable address ∧ address ≠ publicAddress := by
  refine FuelLoop.run_induction (fun state => NonResolvable state.1) (fun r => NonResolvable r ∧ r ≠ publicAddress)
    (nrpaRound_keeps publicAddress draws) ?_ (generateNrpa_start generated random) ran
  intro state r kept leaving
  unfold nrpaRound at leaving
  by_cases same : state.1 = publicAddress
  · rw [if_pos same] at leaving
    cases leaving
  · rw [if_neg same] at leaving
    cases leaving
    exact ⟨kept, same⟩

-- the loop leaves at the latest in the round after the first draw that gives
-- another first byte than the public address's
theorem nrpaLoop_returns (publicAddress start : Hci.Address) (draws : Nat → UInt32) {j fuel : Nat}
    (differs : UInt8.ofNat ((draws j).toNat % 0xFE + 1) ≠ publicAddress.address 0) (enough : j + 2 ≤ fuel) :
    ∃ address, FuelLoop.run (nrpaRound publicAddress draws) fuel (start, 0) = some address := by
  let Inv : Hci.Address × Nat → Prop := fun state => state.2 ≤ j ∨ state.1 ≠ publicAddress
  let measure : Hci.Address × Nat → Nat := fun state => j + 1 - state.2
  have next : ∀ s s', Inv s → nrpaRound publicAddress draws s = .next s' → Inv s' ∧ measure s' < measure s := by
    intro s s' kept going
    unfold nrpaRound at going
    by_cases same : s.1 = publicAddress
    · rw [if_pos same] at going
      cases going
      have early : s.2 ≤ j := kept.resolve_right (fun apart => apart same)
      refine ⟨?_, by simp only [measure]; omega⟩
      by_cases drawn : s.2 = j
      · -- draw j has replaced the first byte
        right
        intro equal
        apply differs
        have first := congrArg (fun address : Hci.Address => address.address 0) equal
        simp only [Function.update_self] at first
        rw [← drawn]
        exact first
      · left
        show s.2 + 1 ≤ j
        omega
    · rw [if_neg same] at going
      cases going
  have init : Inv (start, 0) := Or.inl (Nat.zero_le j)
  obtain ⟨address, ran⟩ := FuelLoop.run_terminates Inv measure next init
  exact ⟨address, FuelLoop.run_mono ran (by simp only [measure]; omega)⟩

theorem generateNrpa_returns (publicAddress : Hci.Address) (generated : Fin 6 → UInt8) (random : UInt32)
    (draws : Nat → UInt32) {j fuel : Nat} (differs : UInt8.ofNat ((draws j).toNat % 0xFE + 1) ≠ publicAddress.address 0)
    (enough : j + 2 ≤ fuel) : ∃ address, generateNrpa publicAddress generated random draws fuel = some address :=
  nrpaLoop_returns publicAddress _ draws differs enough

-- the public address is itself a valid NRPA, the generator draws it, and every
-- later draw gives its first byte again: no number of rounds is enough
theorem generateNrpa_diverges_on_constant_source (fuel : Nat) :
    let publicAddress : Hci.Address := ⟨![0x12, 0x34, 0x56, 0x78, 0x9A, 0x1C]⟩
    NonResolvable publicAddress ∧ generateNrpa publicAddress publicAddress.address 0 (fun _ => 0x11) fuel = none := by
  intro publicAddress
  refine ⟨by unfold NonResolvable NontrivialRandom; decide, ?_⟩
  have redrawn : (⟨Function.update publicAddress.address 0 (UInt8.ofNat ((0x11 : UInt32).toNat % 0xFE + 1))⟩ : Hci.Address) =
      publicAddress := by decide
  refine FuelLoop.run_diverges (fun state => state.1 = publicAddress) ?_ ?_ fuel
  · intro state same
    refine ⟨(publicAddress, state.2 + 1), ?_, rfl⟩
    unfold nrpaRound
    rw [if_pos same, same, redrawn]
  · -- the masked and checked bytes are the public address's own
    decide

-- with that source, no number of rounds gives an address
theorem generateNrpa_never_returns_on_constant_source :
    NonResolvable (⟨![0x12, 0x34, 0x56, 0x78, 0x9A, 0x1C]⟩ : Hci.Address) ∧
      ¬ ∃ fuel address, generateNrpa ⟨![0x12, 0x34, 0x56, 0x78, 0x9A, 0x1C]⟩ ![0x12, 0x34, 0x56, 0x78, 0x9A, 0x1C] 0
        (fun _ => 0x11) fuel = some address := by
  refine ⟨(generateNrpa_diverges_on_constant_source 0).1, ?_⟩
  rintro ⟨fuel, address, returned⟩
  rw [(generateNrpa_diverges_on_constant_source fuel).2] at returned
  cases returned

theorem privateAddress_spec {aesEncrypt : List UInt8 → List UInt8 → List UInt8}
    (blockSized : ∀ key message, (aesEncrypt key message).length = 16) :
    (∀ (irk : List UInt8) (generated : Fin 3 → UInt8) (random : UInt32),
      let address := generateRpa aesEncrypt irk generated random
      address.address 5 &&& bleAddrMask = bleResolveAddrMsb ∧
        NontrivialRandom [address.address 3, address.address 4] (address.address 5) ∧
        hashOf address = (Spec.ah aesEncrypt irk.reverse (prandOf address)).reverse) ∧
    (∀ (address : Hci.Address) (irk : List UInt8),
      rpaMatchesIrk aesEncrypt (toRawAddress address) irk = true ↔
        hashOf address = (Spec.ah aesEncrypt irk.reverse (prandOf address)).reverse) ∧
    (∀ (irk : List UInt8) (generated : Fin 3 → UInt8) (random : UInt32),
      let address := generateRpa aesEncrypt irk generated random
      btmBleIsResolveBda (toRawAddress address) = true ∧ rpaMatchesIrk aesEncrypt (toRawAddress address) irk = true) ∧
    (∀ (publicAddress : Hci.Address) (generated : Fin 6 → UInt8) (random : UInt32) (draws : Nat → UInt32)
      (fuel : Nat) (address : Hci.Address),
      generateNrpa publicAddress generated random draws fuel = some address →
        NonResolvable address ∧ address ≠ publicAddress) ∧
    (∀ (publicAddress : Hci.Address) (generated : Fin 6 → UInt8) (random : UInt32) (draws : Nat → UInt32)
      (j fuel : Nat), UInt8.ofNat ((draws j).toNat % 0xFE + 1) ≠ publicAddress.address 0 → j + 2 ≤ fuel →
        ∃ address, generateNrpa publicAddress generated random draws fuel = some address) := by
  refine ⟨?_, rpaMatchesIrk_iff blockSized, ?_, fun _ _ _ _ _ _ ran => generateNrpa_nonResolvable ran,
    fun publicAddress generated random draws _ _ differs enough =>
      generateNrpa_returns publicAddress generated random draws differs enough⟩
  · intro irk generated random address
    exact ⟨@generateRpa_top aesEncrypt irk generated random, @generateRpa_nontrivial aesEncrypt irk generated random,
      generateRpa_hash blockSized irk generated random⟩
  · intro irk generated random address
    refine ⟨?_, (rpaMatchesIrk_iff blockSized _ irk).mpr (generateRpa_hash blockSized irk generated random)⟩
    -- byte 0 of the RawAddress is byte 5 of the hci::Address
    unfold btmBleIsResolveBda
    rw [beq_iff_eq]
    exact @generateRpa_top aesEncrypt irk generated random

theorem privateAddress_spec_keyXor :
    (∀ key block, (keyXorCipher key block).length = 16) ∧
      rpaMatchesIrk keyXorCipher (toRawAddress (generateRpa keyXorCipher (List.replicate 16 0x5A) ![0, 0, 0] 7))
        (List.replicate 16 0x5A) = true :=
  ⟨keyXorCipher_sized, ((privateAddress_spec keyXorCipher_sized).2.2.1 _ _ _).2⟩

end Crypto
end BluetoothStack
