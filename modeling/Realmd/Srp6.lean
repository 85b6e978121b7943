import Realmd.SharedLibrary
set_option autoImplicit false

namespace Realmd
open ByteCodec

def srpN : Nat := 0x894B645E89E1535BBDAD5B8B290650530801B18EBFBF5E8FAB3C82872A3E9BB7
def srpG : Nat := 7

/-- Widths the protocol fixes: none is ever derived from a value. -/
def srpEphemeralWidth : Nat := 32
def srpSessionKeyWidth : Nat := 40
def srpGeneratorWidth : Nat := 1
def srpReconnectWidth : Nat := 16
def saltByteSize : Nat := 32
def shaDigestLength : Nat := 20

theorem srpN_lt : srpN < 256^srpEphemeralWidth := by decide

def everyOther (t : Bytes) (first : Nat) : Bytes :=
  (List.range 16).map fun i => byteAt t (2*i+first)

def interleave : Bytes → Bytes → Bytes
  | a :: as, b :: bs => a :: b :: interleave as bs
  | _, _ => []

def xorBytes (as bs : Bytes) : Bytes := List.zipWith (· ^^^ ·) as bs

theorem interleave_length {as bs : Bytes} (h : as.length = bs.length) :
    (interleave as bs).length = 2*as.length := by
  induction as generalizing bs with
  | nil => simp [interleave]
  | cons a as ih =>
    cases bs with
    | nil => simp at h
    | cons b bs =>
      have ht : (interleave as bs).length = 2*as.length := ih (by simpa using h)
      simp only [interleave,List.length_cons,ht]
      omega

section
variable (lib : SharedLibrary)

/-- The session key bytes `vK`: both halves of the shared secret are hashed, and
the two digests are woven together. -/
def interleavedKey (t : Bytes) : Bytes :=
  interleave (lib.sha1 (everyOther t 0)).bytes (lib.sha1 (everyOther t 1)).bytes

theorem interleavedKey_length (t : Bytes) : (interleavedKey lib t).length = 40 := by
  have h₀ := (lib.sha1 (everyOther t 0)).length_eq
  have h₁ := (lib.sha1 (everyOther t 1)).length_eq
  rw [interleavedKey,interleave_length (by rw [h₀,h₁]),h₀]

def srpU (A B : Nat) : Nat :=
  leNat (lib.sha1 (lib.asByteArray A srpEphemeralWidth ++
    lib.asByteArray B srpEphemeralWidth)).bytes

def serverSecret (A v b B : Nat) : Nat :=
  modExp (A*modExp v (srpU lib A B) srpN) b srpN

def sessionKey (A v b B : Nat) : Nat :=
  leNat (interleavedKey lib (lib.asByteArray (serverSecret lib A v b B) srpEphemeralWidth))

def groupHash : Nat :=
  leNat (xorBytes (lib.sha1 (lib.asByteArray srpN srpEphemeralWidth)).bytes
    (lib.sha1 (lib.asByteArray srpG srpGeneratorWidth)).bytes)

def proofM (login : Bytes) (s A B K : Nat) : Nat :=
  leNat (lib.sha1 (lib.asByteArray (groupHash lib) shaDigestLength ++
    (lib.sha1 login).bytes ++ lib.asByteArray s saltByteSize ++
    lib.asByteArray A srpEphemeralWidth ++ lib.asByteArray B srpEphemeralWidth ++
    lib.asByteArray K srpSessionKeyWidth)).bytes

def proofM2 (A M K : Nat) : Bytes :=
  (lib.sha1 (lib.asByteArray A srpEphemeralWidth ++ lib.asByteArray M shaDigestLength ++
    lib.asByteArray K srpSessionKeyWidth)).bytes

def reconnectDigest (login R1 : Bytes) (reconnectProof K : Nat) : Bytes :=
  (lib.sha1 (login ++ lib.asByteArray (leNat R1) srpReconnectWidth ++
    lib.asByteArray reconnectProof srpReconnectWidth ++
    lib.asByteArray K srpSessionKeyWidth)).bytes

/-- The private exponent of `_SetVSFields`: the stored digest is read as a number,
written out at the digest width and reversed back into the order of its text. -/
def verifierX (s : Nat) (rI : Bytes) : Nat :=
  let I := lib.setHexStr 0 rI
  let mDigest :=
    if numBytes I ≤ shaDigestLength then lib.asByteArray I shaDigestLength
    else List.replicate shaDigestLength 0
  leNat (lib.sha1 (lib.asByteArray s saltByteSize ++ mDigest.reverse)).bytes

end

end Realmd
