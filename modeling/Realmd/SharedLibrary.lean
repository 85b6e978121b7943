import Realmd.ByteCodec
set_option autoImplicit false

namespace Realmd
open ByteCodec

/-- A SHA-1 digest, at its full width whatever its value. -/
structure Digest where
  bytes : Bytes
  length_eq : bytes.length = 20
  deriving DecidableEq

/-- What the daemon uses of the shared core library, the database client and the
system. A big number is a natural number: `SetBinary` is `leNat`, and products,
remainders and powers are exact. The remaining members are kept open and carry
the documented behaviour the daemon relies on. -/
structure SharedLibrary where
  sha1 : Bytes → Digest
  /-- The first `width` bytes of `AsByteArray(width)`. -/
  asByteArray : Nat → Nat → Bytes
  asByteArray_length : ∀ value width, (asByteArray value width).length = width
  asByteArray_fits : ∀ value width, value < 256^width →
    asByteArray value width = leBytes width value
  asHexStr : Nat → Bytes
  asHexStr_pos : ∀ value, 0 < value → asHexStr value = hexOf (minBytes value).reverse
  /-- `SetHexStr` of a text on a number that already has a value. -/
  setHexStr : Nat → Bytes → Nat
  setHexStr_digits : ∀ old text value, text ≠ [] → readHex text = some value →
    setHexStr old text = value
  escapeString : Bytes → Bytes
  getLocaleByName : Bytes → Nat
  getAddressString : UInt32 → UInt16 → Bytes
  isIPAddrInNetwork : UInt32 → UInt32 → UInt32 → Bool
  /-- `inet_pton` for IPv4, in host byte order. -/
  inetPton : Bytes → Option UInt32
  secPlayer : UInt8
  secAdministrator : UInt8
  secPlayer_lt : secPlayer < secAdministrator

variable (lib : SharedLibrary)

theorem SharedLibrary.asByteArray_leNat (bs : Bytes) :
    lib.asByteArray (leNat bs) bs.length = bs := by
  rw [lib.asByteArray_fits _ _ (leNat_lt bs),leBytes_leNat]

theorem SharedLibrary.asByteArray_digest (d : Digest) :
    lib.asByteArray (leNat d.bytes) 20 = d.bytes := by
  have h := lib.asByteArray_leNat d.bytes
  rwa [d.length_eq] at h

theorem SharedLibrary.setHexStr_asHexStr (old : Nat) {value : Nat} (h : 0 < value) :
    lib.setHexStr old (lib.asHexStr value) = value := by
  rw [lib.asHexStr_pos value h]
  refine lib.setHexStr_digits old _ value ?_ ?_
  · intro hnil
    have hlen := congrArg List.length hnil
    rw [hexOf_length,List.length_reverse,List.length_nil] at hlen
    have hzero : numBytes value = 0 := by
      unfold numBytes
      omega
    rw [numBytes_eq_zero] at hzero
    omega
  · rw [readHex_hexOf,beNat_reverse,leNat_minBytes]

end Realmd
