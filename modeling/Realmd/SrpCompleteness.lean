import Mathlib.Data.ZMod.Basic
import Mathlib.Tactic.Ring
import Realmd.Authentication
import Realmd.Client
import Realmd.Fragmentation
set_option autoImplicit false

namespace Realmd
open ByteCodec Interaction

/-- The two formulas for the shared secret agree in every commutative ring. -/
theorem srp_secrets_agree {R : Type} [CommRing R] (k g : R) (a b u x : Nat) :
    (g^a*(g^x)^u)^b = (k*g^x+g^b-k*g^x)^(a+u*x) := by
  rw [add_sub_cancel_left,← pow_mul,← pow_mul,← pow_add,← pow_mul]
  ring

theorem clientBase_cast {N : Nat} (hN : 0 < N) (B g x : Nat) :
    ((clientBase B g x N : Nat) : ZMod N) = (B : ZMod N)-3*(g : ZMod N)^x := by
  have hle : 3*modExp g x N%N ≤ N := (Nat.mod_lt _ hN).le
  rw [clientBase,ZMod.natCast_mod,Nat.cast_add,Nat.cast_sub hle,ZMod.natCast_self,
    ZMod.natCast_mod,modExp_eq,Nat.cast_mul,ZMod.natCast_mod]
  push_cast
  ring

theorem modExp_clientBase {N : Nat} (hN : 0 < N) (B g x k : Nat) :
    (modExp (clientBase B g x N) k N : Int) = ((B : Int)-3*(g : Int)^x)^k%N := by
  have hcast : ((modExp (clientBase B g x N) k N : Nat) : ZMod N) =
      ((((B : Int)-3*(g : Int)^x)^k : Int) : ZMod N) := by
    rw [modExp_eq,ZMod.natCast_mod,Nat.cast_pow,clientBase_cast hN]
    push_cast
    ring
  have hlt : modExp (clientBase B g x N) k N < N := by
    rw [modExp_eq]
    exact Nat.mod_lt _ hN
  have hmod : (modExp (clientBase B g x N) k N : Int)%N = ((B : Int)-3*(g : Int)^x)^k%N := by
    apply (ZMod.intCast_eq_intCast_iff' _ _ N).mp
    rw [Int.cast_natCast]
    exact hcast
  rwa [Int.emod_eq_of_lt (Int.natCast_nonneg _) (by exact_mod_cast hlt)] at hmod

theorem secrets_agree {N : Nat} (hN : 0 < N) (g a b u x : Nat) :
    modExp (modExp g a N*modExp (modExp g x N) u N) b N =
      modExp (clientBase ((modExp g x N*3+modExp g b N)%N) g x N) (a+u*x) N := by
  rw [modExp_eq _ b N,modExp_eq _ (a+u*x) N]
  apply (ZMod.natCast_eq_natCast_iff' _ _ N).mp
  rw [Nat.cast_pow,Nat.cast_pow,clientBase_cast hN,ZMod.natCast_mod]
  simp only [modExp_eq,Nat.cast_mul,Nat.cast_add,ZMod.natCast_mod,Nat.cast_pow]
  rw [srp_secrets_agree 3 (g : ZMod N) a b u x]
  push_cast
  ring

section
variable {lib : SharedLibrary}

theorem challengeReply_parts (lib : SharedLibrary) (B s unk3 : Nat) :
    replyB (challengeReply lib B s unk3) = lib.asByteArray B 32 ∧
      replyG (challengeReply lib B s unk3) = lib.asByteArray srpG 1 ∧
      replyN (challengeReply lib B s unk3) = lib.asByteArray srpN 32 ∧
      replySalt (challengeReply lib B s unk3) = lib.asByteArray s 32 := by
  have hlen := lib.asByteArray_length
  simp only [challengeReply,List.append_assoc,srpEphemeralWidth,srpGeneratorWidth,
    saltByteSize]
  refine ⟨slice_middle _ rfl (hlen _ _),?_,?_,?_⟩
  · rw [← List.append_assoc _ (lib.asByteArray B 32),← List.append_assoc _ [UInt8.ofNat 1]]
    exact slice_middle _ (by simp [hlen]) (hlen _ _)
  · rw [← List.append_assoc _ (lib.asByteArray B 32),← List.append_assoc _ [UInt8.ofNat 1],
      ← List.append_assoc _ (lib.asByteArray srpG 1),← List.append_assoc _ [UInt8.ofNat 32]]
    exact slice_middle _ (by simp [hlen]) (hlen _ _)
  · rw [← List.append_assoc _ (lib.asByteArray B 32),← List.append_assoc _ [UInt8.ofNat 1],
      ← List.append_assoc _ (lib.asByteArray srpG 1),← List.append_assoc _ [UInt8.ofNat 32],
      ← List.append_assoc _ (lib.asByteArray srpN 32)]
    exact slice_middle _ (by simp [hlen]) (hlen _ _)

def privateX (lib : SharedLibrary) (s : Nat) (digest : Bytes) : Nat :=
  leNat (lib.sha1 (leBytes 32 s ++ digest)).bytes

theorem verifierX_eq {s : Nat} {rI digest : Bytes} (hdigest : digest.length = 20)
    (hs : s < 256^32) (hne : rI ≠ []) (hI : readHex rI = some (beNat digest)) :
    verifierX lib s rI = privateX lib s digest := by
  have hlt : leNat digest.reverse < 256^20 := by
    have h := leNat_lt digest.reverse
    rwa [List.length_reverse,hdigest] at h
  have hbytes : lib.asByteArray (leNat digest.reverse) 20 = digest.reverse := by
    have h := lib.asByteArray_leNat digest.reverse
    rwa [List.length_reverse,hdigest] at h
  simp only [verifierX,lib.setHexStr_digits 0 rI _ hne hI,shaDigestLength,saltByteSize,beNat,
    numBytes_le hlt,if_true,hbytes,List.reverse_reverse,lib.asByteArray_fits s 32 hs]
  rfl

/-- What the account holds of its password digest: a salt and a verifier of 64
hexadecimal digits, or neither and the digest itself. -/
inductive Credentials (lib : SharedLibrary) (row : AccountRow) (digest : Bytes) : Prop where
  | stored (salt : Bytes) (hsalt : salt.length = 32) (hsl : row.s.length = 64)
      (hvl : row.v.length = 64) (hs : readHex row.s = some (leNat salt))
      (hv : readHex row.v = some (srpG^leNat (lib.sha1 (salt ++ digest)).bytes%srpN))
  | unusable (hbad : row.v.length ≠ 64 ∨ row.s.length ≠ 64)
      (hl : row.sha_pass_hash.length = 40)
      (hp : readHex row.sha_pass_hash = some (beNat digest))

theorem Credentials.verifier {row : AccountRow} {digest : Bytes} {t : List AuthEvent}
    {s s' : Session} (h : Credentials lib row digest) (hdigest : digest.length = 20)
    (hdraw : ∀ salt, ⟨.setRand 256,salt⟩ ∈ t → salt < 256^32)
    (hv : TakesVerifier lib s row t s') :
    s'.s < 256^32 ∧ s'.v = modExp srpG (privateX lib s'.s digest) srpN := by
  cases hv with
  | stored hvl hsl =>
    cases h with
    | unusable hbad hl hp => exact absurd hvl (hbad.resolve_right (not_not.mpr hsl))
    | stored salt hsalt _ _ hs hv =>
      have hlt := leNat_lt salt
      have hbytes := leBytes_leNat salt
      rw [hsalt] at hlt hbytes
      have hsne : row.s ≠ [] := fun h0 => by simp [h0] at hsl
      have hvne : row.v ≠ [] := fun h0 => by simp [h0] at hvl
      simp only [lib.setHexStr_digits _ _ _ hsne hs,lib.setHexStr_digits _ _ _ hvne hv]
      refine ⟨hlt,?_⟩
      rw [modExp_eq,privateX,hbytes]
  | derived hbad salt queued =>
    have hsalt := hdraw salt (by simp)
    cases h with
    | stored _ _ hsl hvl _ _ =>
      rcases hbad with hbad | hbad
      · exact absurd hvl hbad
      · exact absurd hsl hbad
    | unusable _ hl hp =>
      have hne : row.sha_pass_hash ≠ [] := fun h0 => by simp [h0] at hl
      exact ⟨hsalt,by rw [verifierX_eq hdigest hsalt hne hp]⟩

/-- A session that has offered, in `reply`, a challenge for a password digest. -/
structure Offers (lib : SharedLibrary) (s : Session) (digest reply : Bytes) : Prop where
  salt : s.s < 256^32
  verifier : s.v = modExp srpG (privateX lib s.s digest) srpN
  B : s.B = challengeB s.v s.b
  reply : ∃ unk3, reply = challengeReply lib s.B s.s unk3

variable {s : Session} {digest reply : Bytes} {a : Nat}

theorem modExp_lt (g k : Nat) : modExp g k srpN < 256^32 := by
  rw [modExp_eq]
  exact (Nat.mod_lt _ (by decide)).trans srpN_lt

theorem Offers.B_lt (h : Offers lib s digest reply) : s.B < 256^32 := by
  have hmod : challengeB s.v s.b < srpN := Nat.mod_lt _ (by decide)
  rw [h.B]
  exact hmod.trans srpN_lt

theorem Offers.quiet {s' : Session} (h : Offers lib s digest reply) (hq : s.Quiet s') :
    Offers lib s' digest reply := by
  rw [hq.same]
  exact ⟨h.salt,h.verifier,h.B,h.reply⟩

theorem Offers.parts (h : Offers lib s digest reply) :
    replyB reply = leBytes 32 s.B ∧ replyG reply = leBytes 1 srpG ∧
      replyN reply = leBytes 32 srpN ∧ replySalt reply = leBytes 32 s.s := by
  obtain ⟨unk3,rfl⟩ := h.reply
  obtain ⟨h₁,h₂,h₃,h₄⟩ := challengeReply_parts lib s.B s.s unk3
  rw [lib.asByteArray_fits _ _ h.B_lt] at h₁
  rw [lib.asByteArray_fits _ _ (by decide)] at h₂
  rw [lib.asByteArray_fits _ 32 srpN_lt] at h₃
  rw [lib.asByteArray_fits _ _ h.salt] at h₄
  exact ⟨h₁,h₂,h₃,h₄⟩

theorem Offers.group (h : Offers lib s digest reply) :
    leNat (replyG reply) = srpG ∧ leNat (replyN reply) = srpN ∧ leNat (replyB reply) = s.B := by
  obtain ⟨hB,hG,hN,-⟩ := h.parts
  rw [hB,hG,hN,leNat_leBytes,leNat_leBytes,leNat_leBytes,Nat.mod_eq_of_lt h.B_lt]
  exact ⟨by decide,by decide,rfl⟩

theorem Offers.clientA_eq (h : Offers lib s digest reply) :
    clientA reply a = leBytes 32 (modExp srpG a srpN) := by
  rw [clientA,h.group.1,h.group.2.1]

theorem Offers.clientX_eq (h : Offers lib s digest reply) :
    clientX lib reply digest = privateX lib s.s digest := by
  rw [clientX,h.parts.2.2.2]
  rfl

theorem Offers.clientU_eq (h : Offers lib s digest reply) :
    clientU lib reply a = srpU lib (modExp srpG a srpN) s.B := by
  rw [clientU,srpU,h.clientA_eq,h.parts.1,srpEphemeralWidth,
    lib.asByteArray_fits _ 32 (modExp_lt srpG a),lib.asByteArray_fits _ 32 h.B_lt]

theorem Offers.clientS_eq (h : Offers lib s digest reply) :
    clientS lib reply digest a = serverSecret lib (modExp srpG a srpN) s.v s.b s.B := by
  have hagree := secrets_agree (N := srpN) (by decide) srpG a s.b
    (srpU lib (modExp srpG a srpN) s.B) (privateX lib s.s digest)
  rw [← h.verifier,← challengeB,← h.B] at hagree
  rw [clientS,h.group.1,h.group.2.1,h.group.2.2,h.clientU_eq,h.clientX_eq,serverSecret]
  exact hagree.symm

theorem Offers.clientK_eq (h : Offers lib s digest reply) :
    clientK lib reply digest a =
      lib.asByteArray (sessionKey lib (modExp srpG a srpN) s.v s.b s.B) 40 := by
  have hlt : serverSecret lib (modExp srpG a srpN) s.v s.b s.B < 256^32 := modExp_lt _ _
  have hlen := lib.asByteArray_leNat (clientK lib reply digest a)
  rw [clientK,interleavedKey_length] at hlen
  rw [sessionKey,srpEphemeralWidth,lib.asByteArray_fits _ 32 hlt,← h.clientS_eq,clientK,hlen]

theorem xorBytes_length {as bs : Bytes} (h : as.length = bs.length) :
    (xorBytes as bs).length = as.length := by
  simp [xorBytes,h]

theorem groupHash_bytes :
    lib.asByteArray (groupHash lib) 20 =
      xorBytes (lib.sha1 (leBytes 32 srpN)).bytes (lib.sha1 (leBytes 1 srpG)).bytes := by
  have hN := (lib.sha1 (lib.asByteArray srpN 32)).length_eq
  have hg := (lib.sha1 (lib.asByteArray srpG 1)).length_eq
  have hlen := lib.asByteArray_leNat
    (xorBytes (lib.sha1 (lib.asByteArray srpN 32)).bytes
      (lib.sha1 (lib.asByteArray srpG 1)).bytes)
  rw [xorBytes_length (hN.trans hg.symm),hN] at hlen
  rw [groupHash,srpEphemeralWidth,srpGeneratorWidth,hlen,lib.asByteArray_fits _ 32 srpN_lt,
    lib.asByteArray_fits _ 1 (by decide)]

theorem Offers.clientM1_eq (h : Offers lib s digest reply) (login : Bytes) :
    clientM1 lib login reply digest a =
      lib.asByteArray (proofM lib login s.s (modExp srpG a srpN) s.B
        (sessionKey lib (modExp srpG a srpN) s.v s.b s.B)) 20 := by
  obtain ⟨hB,hG,hN,hs⟩ := h.parts
  rw [proofM,lib.asByteArray_digest,clientM1,hB,hG,hN,hs,h.clientA_eq,h.clientK_eq,
    shaDigestLength,groupHash_bytes,saltByteSize,srpEphemeralWidth,srpSessionKeyWidth,
    lib.asByteArray_fits s.s 32 h.salt,lib.asByteArray_fits _ 32 (modExp_lt srpG a),
    lib.asByteArray_fits s.B 32 h.B_lt]

theorem Offers.clientM2_eq (h : Offers lib s digest reply) (login : Bytes) :
    clientM2 lib login reply digest a =
      proofM2 lib (modExp srpG a srpN) (proofM lib login s.s (modExp srpG a srpN) s.B
          (sessionKey lib (modExp srpG a srpN) s.v s.b s.B))
        (sessionKey lib (modExp srpG a srpN) s.v s.b s.B) := by
  rw [clientM2,proofM2,h.clientA_eq,h.clientM1_eq,h.clientK_eq,srpEphemeralWidth,
    srpSessionKeyWidth,shaDigestLength,lib.asByteArray_fits _ 32 (modExp_lt srpG a)]

theorem encodeLogonProof_parts (A M1 : Bytes) (hA : A.length = 32) (hM : M1.length = 20) :
    slice (encodeLogonProof A M1) 1 32 = A ∧ slice (encodeLogonProof A M1) 33 20 = M1 := by
  simp only [encodeLogonProof,List.append_assoc]
  refine ⟨slice_middle _ rfl hA,?_⟩
  rw [← List.append_assoc _ A]
  exact slice_middle _ (by simp [hA]) hM

theorem Offers.proofA_eq (h : Offers lib s digest reply) (login : Bytes) :
    proofA (clientProof lib login reply digest a) = modExp srpG a srpN := by
  have hparts := encodeLogonProof_parts (clientA reply a)
    (clientM1 lib login reply digest a) (leBytes_length _ _) (Digest.length_eq _)
  rw [proofA,clientProof,hparts.1,h.clientA_eq,leNat_leBytes,
    Nat.mod_eq_of_lt (modExp_lt srpG a)]

theorem Offers.proofMatches (h : Offers lib s digest reply) :
    s.ProofMatches lib (clientProof lib s.login reply digest a) := by
  have hparts := encodeLogonProof_parts (clientA reply a)
    (clientM1 lib s.login reply digest a) (leBytes_length _ _) (Digest.length_eq _)
  rw [Session.ProofMatches,Session.keyed,h.proofA_eq,clientProof,hparts.2,h.clientM1_eq]
  rfl

variable {cfg : WrongPass} {ω : Type} {e : AuthEnv ω} {c p : HandlerRun ω}

structure Completes (lib : SharedLibrary) (p : HandlerRun ω) (login reply digest : Bytes)
    (a : Nat) : Prop where
  accepted : AcceptLogonSpec lib (p.before.sock.toSession.keyed lib p.frame)
    (proofA p.frame) ((p.before.sock.toSession.keyed lib p.frame).expectedM lib
      (proofA p.frame)) p.calls (p.result,p.after.sock.toSession)
  key : lib.asByteArray p.after.sock.K 40 = clientK lib reply digest a
  M2 : (findBuildInfo p.before.sock.build).isSome = true →
    p.before.sock.patchPolicy.shouldPatch p.before.sock.build true = false →
    ∃ statement stored t, p.calls = ⟨.directPExecute statement,stored⟩ :: t ∧
      (stored = true → p.after.sock.status = .authed ∧
        SentOnce (proofReply p.before.sock.build (clientM2 lib login reply digest a)) t
          p.after.sock.toSession)

theorem Offers.completes (h : Offers lib p.before.sock.toSession digest reply)
    (hA : leNat (clientA reply a)%srpN ≠ 0)
    (hframe : p.frame = clientProof lib p.before.sock.login reply digest a)
    (hspec : LogonProofSpec lib p.before.sock.toSession p.frame p.calls
      (p.result,p.after.sock.toSession)) :
    Completes lib p p.before.sock.login reply digest a := by
  have hproofA : proofA p.frame = modExp srpG a srpN := by
    rw [hframe]
    exact h.proofA_eq _
  rw [h.clientA_eq,leNat_leBytes,Nat.mod_eq_of_lt (modExp_lt srpG a),← hproofA] at hA
  have hmatch : p.before.sock.toSession.ProofMatches lib p.frame := by
    rw [hframe]
    exact h.proofMatches
  have hacc := hspec.accepts hA hmatch
  refine ⟨hacc,?_,?_⟩
  · rw [h.clientK_eq,hacc.key,← hproofA]
    rfl
  · intro hsupported hunpatched
    obtain ⟨stored,t,hcalls,hsent⟩ := hacc.publishes hsupported hunpatched
    refine ⟨_,stored,t,hcalls,fun hstored => ?_⟩
    rw [h.clientM2_eq,← hproofA]
    exact hsent hstored

def sampleDigest : Bytes := Sha1.hash (ascii "ALICE:SECRET")
def sampleSalt : Bytes := List.replicate 31 9 ++ [0]

def sampleVerifier : Nat :=
  modExp srpG (leNat (Sha1.hash (sampleSalt ++ sampleDigest))) srpN

def verifierRow (gmlevel : UInt8) : AccountRow :=
  { sampleRow with
    gmlevel := gmlevel
    v := hexOf (leBytes 32 sampleVerifier).reverse
    s := hexOf sampleSalt.reverse }

def sampleReply : Bytes :=
  challengeReply referenceLibrary (challengeB sampleVerifier sampleDraw) (leNat sampleSalt)
    sampleDraw

def logonInputs (build : UInt16) : List (Input Unit) :=
  [.data [] (encodeChallenge .authLogonChallenge build (ascii "niW" ++ [0])
      (ascii "SUne") (ascii "ALICE")),
    .data [] (clientProof referenceLibrary (ascii "ALICE") sampleReply sampleDigest 5),
    .data [] encodeRealmList]

def Replies.verifying (gmlevel : UInt8) : Replies :=
  { Replies.admitting with account := some (verifierRow gmlevel) }

end

end Realmd
