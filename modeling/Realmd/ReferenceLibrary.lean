import Mathlib.Data.List.TakeWhile
import Realmd.Decimal
import Realmd.SharedLibrary
set_option autoImplicit false

namespace Sha1
open ByteCodec

structure Chain where
  a : Nat
  b : Nat
  c : Nat
  d : Nat
  e : Nat
  deriving DecidableEq, Repr

def start : Chain := ⟨0x67452301,0xEFCDAB89,0x98BADCFE,0x10325476,0xC3D2E1F0⟩

def rotl (k x : Nat) : Nat := (x*2^k+x/2^(32-k))%2^32

def complement (x : Nat) : Nat := 2^32-1-x%2^32

def pad (msg : Bytes) : Bytes :=
  msg ++ [0x80] ++ List.replicate ((119-msg.length%64)%64) 0 ++
    (leBytes 8 (8*msg.length)).reverse

def wordsOf : Nat → Bytes → List Nat
  | 0, _ => []
  | k+1, bs => beNat (bs.take 4) :: wordsOf k (bs.drop 4)

def extend : Nat → List Nat → List Nat
  | 0, ws => ws
  | k+1, ws =>
      extend k (rotl 1 (ws.getD 2 0 ^^^ ws.getD 7 0 ^^^ ws.getD 13 0 ^^^ ws.getD 15 0) :: ws)

def schedule (block : Bytes) : List Nat := (extend 64 (wordsOf 16 block).reverse).reverse

def roundMix (t : Nat) (s : Chain) : Nat :=
  if t < 20 then ((s.b &&& s.c) ||| (complement s.b &&& s.d))+0x5A827999
  else if t < 40 then (s.b ^^^ s.c ^^^ s.d)+0x6ED9EBA1
  else if t < 60 then ((s.b &&& s.c) ||| (s.b &&& s.d) ||| (s.c &&& s.d))+0x8F1BBCDC
  else (s.b ^^^ s.c ^^^ s.d)+0xCA62C1D6

def rounds : Nat → List Nat → Chain → Chain
  | _, [], s => s
  | t, w :: ws, s =>
      rounds (t+1) ws ⟨(rotl 5 s.a+roundMix t s+s.e+w)%2^32,s.a,rotl 30 s.b,s.c,s.d⟩

def absorb (s : Chain) (block : Bytes) : Chain :=
  let r := rounds 0 (schedule block) s
  ⟨(s.a+r.a)%2^32,(s.b+r.b)%2^32,(s.c+r.c)%2^32,(s.d+r.d)%2^32,(s.e+r.e)%2^32⟩

def absorbAll : Nat → Bytes → Chain → Chain
  | 0, _, s => s
  | k+1, bs, s => absorbAll k (bs.drop 64) (absorb s (bs.take 64))

def Chain.bytes (s : Chain) : Bytes :=
  [s.a,s.b,s.c,s.d,s.e].flatMap fun x => (leBytes 4 x).reverse

def hash (msg : Bytes) : Bytes :=
  (absorbAll ((pad msg).length/64) (pad msg) start).bytes

theorem hash_length (msg : Bytes) : (hash msg).length = 20 := by
  simp [hash,Chain.bytes,leBytes_length]

example : hash (ascii "abc") =
    [0xA9,0x99,0x3E,0x36,0x47,0x06,0x81,0x6A,0xBA,0x3E,0x25,0x71,0x78,0x50,0xC2,0x6C,
      0x9C,0xD0,0xD8,0x9D] := by decide +kernel

end Sha1

namespace Realmd
open ByteCodec

def digitText (bs : Bytes) : Bool := bs.all fun c => 48 ≤ c && c ≤ 57

def readOctet (bs : Bytes) : Option Nat :=
  if bs ≠ [] ∧ bs.length ≤ 3 ∧ digitText bs = true ∧ (bs = [48] ∨ byteAt bs 0 ≠ 48) ∧
      readDecimal bs ≤ 255 then some (readDecimal bs)
  else none

def dottedQuad (addr : Bytes) : Option UInt32 :=
  match addr.splitOn 46 with
  | [a,b,c,d] => do
      let a ← readOctet a
      let b ← readOctet b
      let c ← readOctet c
      let d ← readOctet d
      return UInt32.ofNat (((a*256+b)*256+c)*256+d)
  | _ => none

def addressString (ip : UInt32) (port : UInt16) : Bytes :=
  decimal (ip.toNat/2^24) ++ [46] ++ decimal (ip.toNat/2^16%256) ++ [46] ++
    decimal (ip.toNat/2^8%256) ++ [46] ++ decimal (ip.toNat%256) ++ [58] ++
    decimal port.toNat

def escapeByte (c : UInt8) : Bytes :=
  if c = 0 then [92,48]
  else if c = 10 then [92,110]
  else if c = 13 then [92,114]
  else if c = 26 then [92,90]
  else if c = 92 ∨ c = 39 ∨ c = 34 then [92,c]
  else [c]

def localeNames : List (Bytes × Nat) :=
  [(ascii "enUS",0),(ascii "enGB",0),(ascii "koKR",1),(ascii "frFR",2),(ascii "deDE",3),
    (ascii "zhCN",4),(ascii "zhTW",5),(ascii "esES",6),(ascii "esMX",7),(ascii "ruRU",8)]

def hexText (value : Nat) : Bytes :=
  if value = 0 then [48] else hexOf (minBytes value).reverse

/-- A text without a leading digit leaves the old number alone. -/
def takeHex (old : Nat) (text : Bytes) : Nat :=
  let digits := text.takeWhile fun c => (hexValue c).isSome
  if digits = [] then old else (readHex digits).getD old

theorem hexValue_of_readHex {text : Bytes} {value : Nat} (n : Nat)
    (h : text.foldlM (fun n c => (hexValue c).map (16*n+·)) n = some value) :
    ∀ c ∈ text, (hexValue c).isSome = true := by
  induction text generalizing n with
  | nil => simp
  | cons c text ih =>
    rw [List.foldlM_cons] at h
    cases hc : hexValue c with
    | none => simp [hc] at h
    | some d =>
      simp only [hc,Option.map_some,Option.bind_eq_bind,Option.bind_some] at h
      intro c' hc'
      rcases List.mem_cons.mp hc' with rfl | ht
      · rw [hc]
        rfl
      · exact ih _ h c' ht

theorem takeHex_digits (old : Nat) (text : Bytes) (value : Nat) (hne : text ≠ [])
    (h : readHex text = some value) : takeHex old text = value := by
  have hall : text.takeWhile (fun c => (hexValue c).isSome) = text :=
    List.takeWhile_eq_self_iff.mpr fun c hc => hexValue_of_readHex 0 h c hc
  simp [takeHex,hall,hne,h]

/-- The shared library as it behaves in the daemon, for evaluating the model. -/
def referenceLibrary : SharedLibrary where
  sha1 msg := ⟨Sha1.hash msg,Sha1.hash_length msg⟩
  asByteArray value width := leBytes width value
  asByteArray_length value width := leBytes_length width value
  asByteArray_fits _ _ _ := rfl
  asHexStr := hexText
  asHexStr_pos value h := if_neg (Nat.pos_iff_ne_zero.mp h)
  setHexStr := takeHex
  setHexStr_digits := takeHex_digits
  escapeString text := text.flatMap escapeByte
  getLocaleByName name := ((localeNames.lookup name).getD 0)
  getAddressString := addressString
  isIPAddrInNetwork net addr mask := net &&& mask == addr &&& mask
  inetPton := dottedQuad
  secPlayer := 0
  secAdministrator := 3
  secPlayer_lt := by decide

end Realmd
