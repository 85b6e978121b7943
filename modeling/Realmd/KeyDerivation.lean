import Realmd.Publication
import Realmd.ReferenceLibrary
set_option autoImplicit false

namespace Realmd
open ByteCodec Interaction

def evenBytes : Bytes → Bytes
  | [] => []
  | [a] => [a]
  | a :: _ :: t => a :: evenBytes t

def oddBytes (t : Bytes) : Bytes := evenBytes t.tail

theorem evenBytes_length (t : Bytes) : (evenBytes t).length = (t.length+1)/2 := by
  fun_induction evenBytes t with
  | case1 => simp
  | case2 a => simp
  | case3 a b t ih =>
    simp only [List.length_cons,ih]
    omega

theorem evenBytes_eq (t : Bytes) :
    evenBytes t = (List.range ((t.length+1)/2)).map fun i => byteAt t (2*i) := by
  fun_induction evenBytes t with
  | case1 => simp
  | case2 a => simp [byteAt]
  | case3 a b t ih =>
    have hhalf : ((a :: b :: t).length+1)/2 = (t.length+1)/2+1 := by
      simp only [List.length_cons]
      omega
    rw [hhalf,List.range_succ_eq_map,List.map_cons,List.map_map,ih]
    rfl

theorem everyOther_even {t : Bytes} (ht : t.length = 32) : everyOther t 0 = evenBytes t := by
  rw [evenBytes_eq,ht]
  rfl

theorem everyOther_odd {t : Bytes} (ht : t.length = 32) : everyOther t 1 = oddBytes t := by
  have htail : t.tail.length = 31 := by simp [ht]
  have hshift : ∀ i, byteAt t.tail i = byteAt t (i+1) := by
    intro i
    cases t with
    | nil => simp at ht
    | cons a t => rfl
  rw [oddBytes,evenBytes_eq,htail]
  simp only [hshift]
  rfl

theorem interleave_inj {as bs as' bs' : Bytes} (h : as.length = bs.length)
    (h' : as'.length = bs'.length) (hlen : as.length = as'.length) :
    interleave as bs = interleave as' bs' ↔ as = as' ∧ bs = bs' := by
  induction as generalizing bs as' bs' with
  | nil =>
    simp only [List.length_nil] at h hlen
    have has : as' = [] := List.length_eq_zero_iff.mp hlen.symm
    subst has
    have hbs : bs = [] := List.length_eq_zero_iff.mp h.symm
    have hbs' : bs' = [] := List.length_eq_zero_iff.mp h'.symm
    simp [hbs,hbs']
  | cons a as ih =>
    obtain ⟨b,bs,rfl⟩ := List.exists_cons_of_length_eq_add_one h.symm
    obtain ⟨a',as',rfl⟩ := List.exists_cons_of_length_eq_add_one hlen.symm
    obtain ⟨b',bs',rfl⟩ := List.exists_cons_of_length_eq_add_one h'.symm
    simp only [List.length_cons,Nat.add_right_cancel_iff] at h h' hlen
    simp only [interleave,List.cons.injEq,ih h h' hlen]
    tauto

section
variable (lib : SharedLibrary)

def weaveHalves (t : Bytes) : Bytes :=
  interleave (lib.sha1 (evenBytes t)).bytes (lib.sha1 (oddBytes t)).bytes

/-- What SHA_Interleave keeps of a string: no zeros in front, and an even number of
bytes. -/
def stripSecret (t : Bytes) : Bytes :=
  let kept := t.dropWhile (· == 0)
  if kept.length%2 = 1 then kept.tail else kept

def shaInterleave (t : Bytes) : Bytes := weaveHalves lib (stripSecret t)

/-- The halves of a string and those of what is kept of it differ in length, and yet have
the same digests. -/
structure HalvesCollide (t : Bytes) : Prop where
  shorter : (evenBytes (stripSecret t)).length < (evenBytes t).length
  even : lib.sha1 (evenBytes t) = lib.sha1 (evenBytes (stripSecret t))
  odd : lib.sha1 (oddBytes t) = lib.sha1 (oddBytes (stripSecret t))

variable {lib}

theorem interleavedKey_eq {t : Bytes} (ht : t.length = 32) :
    interleavedKey lib t = weaveHalves lib t := by
  rw [interleavedKey,everyOther_even ht,everyOther_odd ht,weaveHalves]

theorem Digest.bytes_inj {d d' : Digest} : d.bytes = d'.bytes ↔ d = d' := by
  constructor
  · intro h
    cases d
    cases d'
    cases h
    rfl
  · exact congrArg Digest.bytes

theorem weaveHalves_eq_iff {t t' : Bytes} : weaveHalves lib t = weaveHalves lib t' ↔
    lib.sha1 (evenBytes t) = lib.sha1 (evenBytes t') ∧
      lib.sha1 (oddBytes t) = lib.sha1 (oddBytes t') := by
  have hlen : ∀ x y : Bytes, (lib.sha1 x).bytes.length = (lib.sha1 y).bytes.length := by
    intro x y
    rw [(lib.sha1 x).length_eq,(lib.sha1 y).length_eq]
  rw [weaveHalves,weaveHalves,interleave_inj (hlen _ _) (hlen _ _) (hlen _ _),
    Digest.bytes_inj,Digest.bytes_inj]

theorem stripSecret_of_ne_zero {t : Bytes} (ht : t.length%2 = 0) (h : byteAt t 0 ≠ 0) :
    stripSecret t = t := by
  have hkept : t.dropWhile (· == 0) = t := by
    cases t with
    | nil => rfl
    | cons a t =>
      have ha : (a == 0) = false := by simpa [byteAt] using h
      simp [ha]
  rw [stripSecret,hkept,if_neg (by omega)]

theorem stripSecret_even (t : Bytes) : (stripSecret t).length%2 = 0 := by
  simp only [stripSecret]
  split
  · rw [List.length_tail]
    omega
  · omega

theorem stripSecret_shorter {t : Bytes} (ht : 0 < t.length) (h : byteAt t 0 = 0) :
    (stripSecret t).length < t.length := by
  have hkept : (t.dropWhile (· == 0)).length < t.length := by
    cases t with
    | nil => simp at ht
    | cons a t =>
      have ha : (a == 0) = true := by simpa [byteAt] using h
      have hle := List.length_dropWhile_le (· == 0) t
      rw [List.dropWhile_cons,if_pos ha,List.length_cons]
      omega
  simp only [stripSecret]
  split
  · rw [List.length_tail]
    omega
  · exact hkept

theorem halvesCollide_iff {t : Bytes} (ht : t.length = 32) (h : byteAt t 0 = 0) :
    HalvesCollide lib t ↔ weaveHalves lib t = shaInterleave lib t := by
  have heven := stripSecret_even t
  have hshorter := stripSecret_shorter (t := t) (by omega) h
  rw [shaInterleave,weaveHalves_eq_iff]
  constructor
  · exact fun hc => ⟨hc.even,hc.odd⟩
  · intro ⟨he,ho⟩
    refine ⟨?_,he,ho⟩
    rw [evenBytes_length,evenBytes_length]
    omega

end

/-- The forty key bytes are woven from the digests of both halves of the whole shared
secret, zeros in front included. That is SHA_Interleave where the secret does not start
with a zero, and where it does only if SHA-1 has the same digests for halves of different
lengths. -/
theorem session_key_weaves_all_bytes (lib : SharedLibrary) :
    (∀ t : Bytes, t.length = 32 →
      interleavedKey lib t = weaveHalves lib t ∧
      (byteAt t 0 ≠ 0 → interleavedKey lib t = shaInterleave lib t) ∧
      (byteAt t 0 = 0 → (interleavedKey lib t = shaInterleave lib t ↔ HalvesCollide lib t))) ∧
    ∀ (cfg : WrongPass) (s : Session) (lp : Bytes) (calls : List AuthEvent)
      (r : Bool × Session), (logonProof lib cfg s lp).Runs calls r → proofA lp%srpN ≠ 0 →
      let S := serverSecret lib (proofA lp) s.v s.b s.B
      r.2.K = leNat (interleavedKey lib (lib.asByteArray S 32)) := by
  constructor
  · intro t ht
    rw [interleavedKey_eq ht]
    refine ⟨rfl,?_,fun h => (halvesCollide_iff ht h).symm⟩
    intro h
    rw [shaInterleave,stripSecret_of_ne_zero (by omega) h]
  · intro cfg s lp calls r h hA
    exact (logonProof_runs h).key_of_proofA hA

def zeroLedSecret : Bytes := 0 :: List.replicate 31 1

theorem zeroLedSecret_not_interleaved : zeroLedSecret.length = 32 ∧
    leNat zeroLedSecret < srpN ∧
    referenceLibrary.asByteArray (leNat zeroLedSecret) 32 = zeroLedSecret ∧
    interleavedKey referenceLibrary zeroLedSecret ≠
      shaInterleave referenceLibrary zeroLedSecret := by
  decide +kernel

end Realmd
