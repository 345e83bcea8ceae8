import Mathlib.Data.List.Basic
import Mathlib.Data.UInt
import BluetoothStack.Library.ReflectedCrc

namespace BluetoothStack
namespace L2cap

/-!
# The frame check sequence of ERTM frames

`l2c_fcr_updcrc` computes the 16-bit FCS of enhanced retransmission frames
with a byte-wise lookup table, `crctab`.  The table is the source's own;
`l2c_fcr_rx_get_fcs` runs it over a received frame from its basic L2CAP
header up to, but excluding, the two FCS bytes.

Each of the 256 entries is the bit-serial reflected CRC-16 (polynomial
0x8005, 0xA001 reflected) of its index, so the table-driven update is the
bit-serial one (`ReflectedCrc.update_eq_table`) for every 16-bit register,
and `l2c_fcr_updcrc` is the bit-serial CRC of every byte string.
-/

/-- `crctab`, the look-up table of `l2c_fcr.cc`. -/
def crctab : List Nat := [
    0x0000, 0xc0c1, 0xc181, 0x0140, 0xc301, 0x03c0, 0x0280, 0xc241,
    0xc601, 0x06c0, 0x0780, 0xc741, 0x0500, 0xc5c1, 0xc481, 0x0440,
    0xcc01, 0x0cc0, 0x0d80, 0xcd41, 0x0f00, 0xcfc1, 0xce81, 0x0e40,
    0x0a00, 0xcac1, 0xcb81, 0x0b40, 0xc901, 0x09c0, 0x0880, 0xc841,
    0xd801, 0x18c0, 0x1980, 0xd941, 0x1b00, 0xdbc1, 0xda81, 0x1a40,
    0x1e00, 0xdec1, 0xdf81, 0x1f40, 0xdd01, 0x1dc0, 0x1c80, 0xdc41,
    0x1400, 0xd4c1, 0xd581, 0x1540, 0xd701, 0x17c0, 0x1680, 0xd641,
    0xd201, 0x12c0, 0x1380, 0xd341, 0x1100, 0xd1c1, 0xd081, 0x1040,
    0xf001, 0x30c0, 0x3180, 0xf141, 0x3300, 0xf3c1, 0xf281, 0x3240,
    0x3600, 0xf6c1, 0xf781, 0x3740, 0xf501, 0x35c0, 0x3480, 0xf441,
    0x3c00, 0xfcc1, 0xfd81, 0x3d40, 0xff01, 0x3fc0, 0x3e80, 0xfe41,
    0xfa01, 0x3ac0, 0x3b80, 0xfb41, 0x3900, 0xf9c1, 0xf881, 0x3840,
    0x2800, 0xe8c1, 0xe981, 0x2940, 0xeb01, 0x2bc0, 0x2a80, 0xea41,
    0xee01, 0x2ec0, 0x2f80, 0xef41, 0x2d00, 0xedc1, 0xec81, 0x2c40,
    0xe401, 0x24c0, 0x2580, 0xe541, 0x2700, 0xe7c1, 0xe681, 0x2640,
    0x2200, 0xe2c1, 0xe381, 0x2340, 0xe101, 0x21c0, 0x2080, 0xe041,
    0xa001, 0x60c0, 0x6180, 0xa141, 0x6300, 0xa3c1, 0xa281, 0x6240,
    0x6600, 0xa6c1, 0xa781, 0x6740, 0xa501, 0x65c0, 0x6480, 0xa441,
    0x6c00, 0xacc1, 0xad81, 0x6d40, 0xaf01, 0x6fc0, 0x6e80, 0xae41,
    0xaa01, 0x6ac0, 0x6b80, 0xab41, 0x6900, 0xa9c1, 0xa881, 0x6840,
    0x7800, 0xb8c1, 0xb981, 0x7940, 0xbb01, 0x7bc0, 0x7a80, 0xba41,
    0xbe01, 0x7ec0, 0x7f80, 0xbf41, 0x7d00, 0xbdc1, 0xbc81, 0x7c40,
    0xb401, 0x74c0, 0x7580, 0xb541, 0x7700, 0xb7c1, 0xb681, 0x7640,
    0x7200, 0xb2c1, 0xb381, 0x7340, 0xb101, 0x71c0, 0x7080, 0xb041,
    0x5000, 0x90c1, 0x9181, 0x5140, 0x9301, 0x53c0, 0x5280, 0x9241,
    0x9601, 0x56c0, 0x5780, 0x9741, 0x5500, 0x95c1, 0x9481, 0x5440,
    0x9c01, 0x5cc0, 0x5d80, 0x9d41, 0x5f00, 0x9fc1, 0x9e81, 0x5e40,
    0x5a00, 0x9ac1, 0x9b81, 0x5b40, 0x9901, 0x59c0, 0x5880, 0x9841,
    0x8801, 0x48c0, 0x4980, 0x8941, 0x4b00, 0x8bc1, 0x8a81, 0x4a40,
    0x4e00, 0x8ec1, 0x8f81, 0x4f40, 0x8d01, 0x4dc0, 0x4c80, 0x8c41,
    0x4400, 0x84c1, 0x8581, 0x4540, 0x8701, 0x47c0, 0x4680, 0x8641,
    0x8201, 0x42c0, 0x4380, 0x8341, 0x4100, 0x81c1, 0x8081, 0x4040
  ]

/-- `l2c_fcr_updcrc`: fold the table-driven CRC update over the bytes. -/
def l2cFcrUpdcrc (icrc : Nat) (bytes : List UInt8) : Nat :=
  bytes.foldl (fun crc byte => ((crc >>> 8) &&& 0xff) ^^^ crctab.getD ((crc &&& 0xff) ^^^ byte.toNat) 0) icrc

/-- `L2CAP_FCR_INIT_CRC`. -/
def l2capFcrInitCrc : Nat := 0

/-- `l2c_fcr_tx_get_fcs`: the FCS of a frame to send, over the `len` bytes from
the buffer's offset, which start with its basic L2CAP header. -/
def l2cFcrTxGetFcs (frame : List UInt8) : Nat :=
  l2cFcrUpdcrc l2capFcrInitCrc frame

/-! ## The bit-serial CRC the table stands for -/

/-- The CRC-16 polynomial 0x8005, bit-reversed. -/
def crc16ReflectedPoly : Nat := 0xA001

/-- Every entry of `crctab` is eight clocks of the reflected CRC-16 register
loaded with its index. -/
theorem crctab_getD {i : Nat} (index : i < 256) :
    crctab.getD i 0 = ReflectedCrc.shiftByte crc16ReflectedPoly i := by
  have table : crctab = (List.range 256).map (ReflectedCrc.shiftByte crc16ReflectedPoly) := by
    decide +kernel
  rw [table, List.getD_eq_getElem?_getD, List.getElem?_map, List.getElem?_range index]
  rfl

/-- One pass of the loop of `l2c_fcr_updcrc` on a 16-bit register is the
bit-serial update by that byte. -/
theorem updcrcStep_eq_update {crc : Nat} (fits : crc < 2 ^ 16) (byte : UInt8) :
    ((crc >>> 8) &&& 0xff) ^^^ crctab.getD ((crc &&& 0xff) ^^^ byte.toNat) 0 =
      ReflectedCrc.update crc16ReflectedPoly crc byte := by
  have mask : ∀ x : Nat, x &&& 0xff = x % 256 := fun x => Nat.and_two_pow_sub_one_eq_mod x 8
  have high : crc >>> 8 < 256 := by
    rw [Nat.shiftRight_eq_div_pow]
    omega
  have index : crc % 256 ^^^ byte.toNat < 256 :=
    Nat.xor_lt_two_pow (n := 8) (Nat.mod_lt crc (by decide)) byte.toNat_lt
  rw [mask, mask, Nat.mod_eq_of_lt high, crctab_getD index, ReflectedCrc.update_eq_table]

/-- `l2c_fcr_updcrc` from any 16-bit start value is the bit-serial reflected
CRC-16 of the bytes. -/
theorem l2cFcrUpdcrc_eq_crc {init : Nat} (fits : init < 2 ^ 16) (bytes : List UInt8) :
    l2cFcrUpdcrc init bytes = ReflectedCrc.crc crc16ReflectedPoly init bytes := by
  induction bytes generalizing init with
  | nil => rfl
  | cons byte bytes ih =>
    have next : ReflectedCrc.update crc16ReflectedPoly init byte < 2 ^ 16 :=
      ReflectedCrc.update_lt (by decide) (by decide) fits byte
    calc l2cFcrUpdcrc init (byte :: bytes)
        = l2cFcrUpdcrc (ReflectedCrc.update crc16ReflectedPoly init byte) bytes := by
          rw [← updcrcStep_eq_update fits byte]
          rfl
      _ = ReflectedCrc.crc crc16ReflectedPoly init (byte :: bytes) := ih next

/-- The FCS is a 16-bit value. -/
theorem l2cFcrUpdcrc_lt {init : Nat} (fits : init < 2 ^ 16) (bytes : List UInt8) :
    l2cFcrUpdcrc init bytes < 2 ^ 16 := by
  rw [l2cFcrUpdcrc_eq_crc fits]
  induction bytes generalizing init with
  | nil => exact fits
  | cons byte bytes ih => exact ih (ReflectedCrc.update_lt (by decide) (by decide) fits byte)

end L2cap
end BluetoothStack
