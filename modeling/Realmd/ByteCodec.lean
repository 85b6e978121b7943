import Mathlib.Data.Nat.Digits.Lemmas
import Mathlib.Tactic.Ring
set_option autoImplicit false

namespace ByteCodec

abbrev Bytes := List UInt8

def byteAt (bs : Bytes) (i : Nat) : UInt8 := bs.getD i 0

theorem byteAt_append {as : Bytes} (bs : Bytes) {i : Nat} (h : i < as.length) :
    byteAt (as ++ bs) i = byteAt as i := by
  simp [byteAt,List.getElem?_append_left h]

theorem byteAt_take {bs : Bytes} {n i : Nat} (h : i < n) :
    byteAt (bs.take n) i = byteAt bs i := by
  simp [byteAt,List.getElem?_take_of_lt h]

theorem byteAt_middle {as : Bytes} (b : UInt8) (bs : Bytes) {i : Nat} (h : as.length = i) :
    byteAt (as ++ b :: bs) i = b := by
  subst h
  simp [byteAt]

def slice (bs : Bytes) (start len : Nat) : Bytes := (bs.drop start).take len

@[simp] theorem slice_length {bs : Bytes} {start len : Nat} (h : start+len ≤ bs.length) :
    (slice bs start len).length = len := by
  simp only [slice,List.length_take,List.length_drop]
  omega

theorem slice_append {as : Bytes} (bs : Bytes) {start len : Nat}
    (h : start+len ≤ as.length) : slice (as ++ bs) start len = slice as start len := by
  rw [slice,List.drop_append_of_le_length (by omega),List.take_append_of_le_length]
  · rfl
  · rw [List.length_drop]
    omega

theorem slice_take {bs : Bytes} {n start len : Nat} (h : start+len ≤ n) :
    slice (bs.take n) start len = slice bs start len := by
  rw [slice,List.drop_take,List.take_take,slice]
  congr 1
  omega

theorem slice_middle {pre mid : Bytes} (post : Bytes) {start len : Nat}
    (hpre : pre.length = start) (hmid : mid.length = len) :
    slice (pre ++ (mid ++ post)) start len = mid := by
  subst hpre hmid
  simp [slice]

/-- The number a byte string holds when its first byte is the least significant. -/
def leNat (bs : Bytes) : Nat := Nat.ofDigits 256 (bs.map UInt8.toNat)

def beNat (bs : Bytes) : Nat := leNat bs.reverse

/-- The `w` low bytes of a number, least significant first. -/
def leBytes : Nat → Nat → Bytes
  | 0, _ => []
  | w+1, n => UInt8.ofNat n :: leBytes w (n/256)

/-- The shortest little-endian encoding: no byte at all for zero. -/
def minBytes (n : Nat) : Bytes := (Nat.digits 256 n).map UInt8.ofNat

def numBytes (n : Nat) : Nat := (minBytes n).length

@[simp] theorem leNat_nil : leNat [] = 0 := rfl

@[simp] theorem leNat_cons (b : UInt8) (bs : Bytes) :
    leNat (b :: bs) = b.toNat+256*leNat bs := by
  simp [leNat,Nat.ofDigits_cons]

theorem leNat_append (as bs : Bytes) :
    leNat (as ++ bs) = leNat as+256^as.length*leNat bs := by
  simp [leNat,Nat.ofDigits_append]

theorem leNat_lt (bs : Bytes) : leNat bs < 256^bs.length := by
  induction bs with
  | nil => simp
  | cons b bs ih =>
    have hb := b.toNat_lt
    simp only [leNat_cons,List.length_cons,Nat.pow_succ]
    omega

@[simp] theorem leBytes_length (w n : Nat) : (leBytes w n).length = w := by
  induction w generalizing n with
  | zero => rfl
  | succ w ih => simp [leBytes,ih]

theorem leNat_leBytes (w n : Nat) : leNat (leBytes w n) = n%256^w := by
  induction w generalizing n with
  | zero => simp [leBytes,Nat.mod_one]
  | succ w ih =>
    have hw : 256^(w+1) = 256*256^w := Nat.pow_succ'
    simp only [leBytes,leNat_cons,ih,UInt8.toNat_ofNat']
    rw [hw,Nat.mod_mul]

theorem leNat_leBytes_iff {w n : Nat} : leNat (leBytes w n) = n ↔ n < 256^w := by
  rw [leNat_leBytes]
  constructor
  · intro h
    rw [← h]
    exact Nat.mod_lt n (by positivity)
  · exact Nat.mod_eq_of_lt

theorem leBytes_leNat (bs : Bytes) : leBytes bs.length (leNat bs) = bs := by
  induction bs with
  | nil => rfl
  | cons b bs ih =>
    have hb := b.toNat_lt
    have hd : (b.toNat+256*leNat bs)/256 = leNat bs := by omega
    have hm : UInt8.ofNat (b.toNat+256*leNat bs) = b := by
      apply UInt8.toNat_inj.mp
      rw [UInt8.toNat_ofNat']
      omega
    simp only [List.length_cons,leNat_cons,leBytes,hd,hm,ih]

theorem leNat_minBytes (n : Nat) : leNat (minBytes n) = n := by
  have hd : ∀ d ∈ Nat.digits 256 n, (UInt8.ofNat d).toNat = d := by
    intro d hd
    rw [UInt8.toNat_ofNat']
    exact Nat.mod_eq_of_lt (Nat.digits_lt_base (by norm_num) hd)
  rw [leNat,minBytes,List.map_map]
  rw [List.map_congr_left (g := id) (by simpa using hd),List.map_id]
  exact Nat.ofDigits_digits 256 n

theorem numBytes_eq_zero {n : Nat} : numBytes n = 0 ↔ n = 0 := by
  constructor
  · intro h
    rw [← leNat_minBytes n,List.length_eq_zero_iff.mp h,leNat_nil]
  · rintro rfl
    simp [numBytes,minBytes]

theorem numBytes_le_iff {n w : Nat} : numBytes n ≤ w ↔ n < 256^w := by
  simpa [numBytes,minBytes] using Nat.digits_length_le_iff (b := 256) (k := w) (by norm_num) n

theorem numBytes_le {n w : Nat} (h : n < 256^w) : numBytes n ≤ w := numBytes_le_iff.mpr h

def hexValue (c : UInt8) : Option Nat :=
  if 48 ≤ c ∧ c ≤ 57 then some (c.toNat-48)
  else if 65 ≤ c ∧ c ≤ 70 then some (c.toNat-55)
  else if 97 ≤ c ∧ c ≤ 102 then some (c.toNat-87)
  else none

def readHex (cs : Bytes) : Option Nat :=
  cs.foldlM (fun n c => (hexValue c).map (16*n+·)) 0

def hexDigit (n : Nat) : UInt8 := UInt8.ofNat (if n < 10 then 48+n else 55+n)

def hexOf (bs : Bytes) : Bytes :=
  bs.flatMap fun b => [hexDigit (b.toNat/16),hexDigit (b.toNat%16)]

theorem hexValue_hexDigit {n : Nat} (h : n < 16) : hexValue (hexDigit n) = some n := by
  interval_cases n <;> rfl

theorem hexOf_length (bs : Bytes) : (hexOf bs).length = 2*bs.length := by
  induction bs with
  | nil => rfl
  | cons b bs ih =>
    simp only [hexOf,List.flatMap_cons,List.length_append,List.length_cons] at ih ⊢
    simp only [List.length_nil]
    omega

theorem readHex_foldl (bs : Bytes) (n : Nat) :
    (hexOf bs).foldlM (fun n c => (hexValue c).map (16*n+·)) n =
      some (256^bs.length*n+beNat bs) := by
  induction bs generalizing n with
  | nil => simp [hexOf,beNat]
  | cons b bs ih =>
    have hb := b.toNat_lt
    have hhi := hexValue_hexDigit (n := b.toNat/16) (by omega)
    have hlo := hexValue_hexDigit (n := b.toNat%16) (by omega)
    have hcons : hexOf (b :: bs) =
        hexDigit (b.toNat/16) :: hexDigit (b.toNat%16) :: hexOf bs := rfl
    have hval : beNat (b :: bs) = beNat bs+256^bs.length*b.toNat := by
      simp [beNat,leNat_append]
    rw [hcons,List.foldlM_cons,hhi]
    simp only [Option.map_some,Option.bind_eq_bind,Option.bind_some,List.foldlM_cons,hlo]
    rw [ih,hval,List.length_cons,Nat.pow_succ]
    have hsplit : 16*(16*n+b.toNat/16)+b.toNat%16 = 256*n+b.toNat := by omega
    rw [hsplit]
    congr 1
    ring

theorem readHex_hexOf (bs : Bytes) : readHex (hexOf bs) = some (beNat bs) := by
  simpa [readHex] using readHex_foldl bs 0

theorem beNat_reverse (bs : Bytes) : beNat bs.reverse = leNat bs := by
  simp [beNat]

/-- The characters of a text that fits into single bytes. -/
def ascii (text : String) : Bytes := text.toList.map fun c => UInt8.ofNat c.toNat

def decimal (n : Nat) : Bytes :=
  if n = 0 then [48] else (Nat.digits 10 n).reverse.map fun d => UInt8.ofNat (48+d)

def modExpFuel (m : Nat) : Nat → Nat → Nat → Nat
  | 0, _, _ => 1%m
  | fuel+1, a, e =>
      let h := modExpFuel m fuel (a*a%m) (e/2)
      if e%2 = 1 then a*h%m else h

def modExp (a e m : Nat) : Nat := modExpFuel m (e.log2+1) a e

theorem modExpFuel_eq (m fuel a e : Nat) (h : e < 2^fuel) :
    modExpFuel m fuel a e = a^e%m := by
  induction fuel generalizing a e with
  | zero =>
    have he : e = 0 := by simpa using h
    subst he
    simp [modExpFuel]
  | succ fuel ih =>
    have hhalf := ih (a*a%m) (e/2) (by rw [Nat.pow_succ] at h; omega)
    have hsq : (a*a%m)^(e/2)%m = a^(2*(e/2))%m := by
      rw [Nat.pow_mod,Nat.mod_mod,← Nat.pow_mod,Nat.pow_mul,Nat.pow_two]
    simp only [modExpFuel,hhalf,hsq]
    split
    · rename_i hodd
      have he : a^e = a^(2*(e/2))*a := by
        rw [← Nat.pow_succ]
        congr 1
        omega
      rw [Nat.mul_mod,Nat.mod_mod,← Nat.mul_mod,Nat.mul_comm a,← he]
    · rename_i heven
      have he : e = 2*(e/2) := by omega
      rw [← he]

theorem modExp_eq (a e m : Nat) : modExp a e m = a^e%m :=
  modExpFuel_eq m (e.log2+1) a e Nat.lt_log2_self

end ByteCodec
