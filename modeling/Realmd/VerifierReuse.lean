import Realmd.SrpCompleteness
set_option autoImplicit false

namespace Realmd
open ByteCodec Interaction

theorem asHexStr_length (lib : SharedLibrary) {value : Nat} (h : 0 < value) :
    (lib.asHexStr value).length = 2*numBytes value := by
  rw [lib.asHexStr_pos value h,hexOf_length,List.length_reverse,numBytes]

theorem asHexStr_full_iff (lib : SharedLibrary) {value : Nat} (hpos : 0 < value)
    (hlt : value < 256^32) : (lib.asHexStr value).length = 64 ↔ 256^31 ≤ value := by
  have hle : numBytes value ≤ 32 := numBytes_le hlt
  have hshort : numBytes value ≤ 31 ↔ value < 256^31 := numBytes_le_iff
  rw [asHexStr_length lib hpos]
  omega

/-- The generator is a unit modulo `N`, so no verifier is zero. -/
theorem verifier_pos (x : Nat) : 0 < modExp srpG x srpN := by
  rw [modExp_eq,Nat.pos_iff_ne_zero]
  intro hzero
  have hcoprime : Nat.Coprime (srpG^x) srpN := Nat.Coprime.pow_left x (by decide +kernel)
  have hdvd : srpN ∣ srpG^x := Nat.dvd_of_mod_eq_zero hzero
  have hone : srpN = 1 := Nat.Coprime.eq_one_of_dvd hcoprime.symm hdvd
  exact absurd hone (by decide +kernel)

def KeepsVerifier : Call → Prop
  | .setRand bits => bits ≠ 256
  | .pExecute (.updateVerifier ..) => False
  | _ => True

section
variable {lib : SharedLibrary} {s : Session} {t : List AuthEvent} {r : Bool × Session}

theorem logonChallenge_takes {buf name : Bytes} {row : AccountRow}
    (h : (logonChallenge lib s.closeStatus buf).Runs t r)
    (hread : ⟨.selectAccount name,some row⟩ ∈ t) (hexpects : r.2.status = .logonProof) :
    ∃ s₀ t₁ t₂ t₃ s₁, t = t₁ ++ t₂ ++ t₃ ∧ TakesVerifier lib s₀ row t₂ s₁ ∧
      Calls KeepsVerifier t₁ ∧ Calls KeepsVerifier t₃ ∧ r.2.s = s₁.s ∧ r.2.v = s₁.v := by
  unfold logonChallenge at h
  simp only at h
  split at h
  · obtain ⟨-,rfl⟩ := h
    simp [Session.closeStatus] at hexpects
  obtain ⟨-,⟨hq,-⟩ | ⟨row',t',rfl,-,haccount⟩⟩ := challengeGates_passes h
  · rw [hq.status] at hexpects
    simp [Session.claim,Session.closeStatus] at hexpects
  obtain ⟨t₂,s₁,b,unk3,t₄,rfl,hv,hq,ht₄⟩ := challengeAccount_runs haccount
  have hrow : row = row' := by
    simp only [List.mem_cons,List.mem_append] at hread
    rcases hread with heq | heq | heq | hmem | heq | heq | hmem
    · cases heq
    · cases heq
      rfl
    · cases heq
    · rcases hv.calls [] _ hmem with ⟨_,hc⟩ | ⟨_,hc⟩ | hc | hc <;> cases hc
    · cases heq
    · cases heq
    · rcases ht₄ _ hmem with hc | hc <;> cases hc
  subst hrow
  refine ⟨_,[_,_,_],t₂,_,s₁,rfl,hv,?_,?_,?_,?_⟩
  · exact .cons trivial (.cons trivial (.cons trivial .nil))
  · refine .cons (by simp [KeepsVerifier]) (.cons (by simp [KeepsVerifier]) ?_)
    refine ht₄.mono fun c hc => ?_
    rcases hc with rfl | rfl <;> trivial
  · rw [hq.same]
    rfl
  · rw [hq.same]
    rfl

end

/-- A challenge that works with the verifier and the salt that are stored. -/
structure ReusesVerifier (t : List AuthEvent) (s' : Session) (salt v : Nat) : Prop where
  calls : Calls KeepsVerifier t
  salt : s'.s = salt
  verifier : s'.v = v

theorem setVSFields_stores {lib : SharedLibrary} {s₀ s₁ : Session}
    {rI v_hex s_hex username : Bytes} {t₀ : List AuthEvent} {salt : Nat} {queued : Bool}
    (hmade : (setVSFields lib s₀ rI).Runs t₀ s₁) (hsalt : ⟨.setRand 256,salt⟩ ∈ t₀)
    (hstored : ⟨.pExecute (.updateVerifier v_hex s_hex username),queued⟩ ∈ t₀) :
    s₁.s = salt ∧ s₁.v = modExp srpG (verifierX lib salt rI) srpN ∧
      s_hex = lib.asHexStr s₁.s ∧ v_hex = lib.asHexStr s₁.v := by
  obtain ⟨drawn,_,rfl,queued',_,rfl,rfl,rfl⟩ := hmade
  have hdrawn : salt = drawn := by
    simp only [List.mem_cons,List.not_mem_nil,or_false] at hsalt
    rcases hsalt with heq | heq <;> cases heq
    rfl
  subst hdrawn
  simp only [List.mem_cons,List.not_mem_nil,or_false] at hstored
  rcases hstored with heq | heq <;> cases heq
  exact ⟨rfl,rfl,rfl,rfl⟩

/-- A verifier that was made for a salt of full width and stored is used by a later
challenge that reads the row exactly if it has full width itself: otherwise its text is
too short, and the salt and the verifier are made anew. -/
theorem stored_verifier_reused_iff (lib : SharedLibrary) (s₀ s₁ s : Session)
    (rI buf v_hex s_hex username name : Bytes) (t₀ t : List AuthEvent) (salt : Nat)
    (queued : Bool) (r : Bool × Session) (row : AccountRow)
    (hmade : (setVSFields lib s₀ rI).Runs t₀ s₁) (hsalt : ⟨.setRand 256,salt⟩ ∈ t₀)
    (hwidth : 256^31 ≤ salt ∧ salt < 256^32)
    (hstored : ⟨.pExecute (.updateVerifier v_hex s_hex username),queued⟩ ∈ t₀)
    (hrow : row.v = v_hex ∧ row.s = s_hex)
    (hnext : (logonChallenge lib s.closeStatus buf).Runs t r)
    (hread : ⟨.selectAccount name,some row⟩ ∈ t) (hexpects : r.2.status = .logonProof) :
    ReusesVerifier t r.2 s₁.s s₁.v ↔ 256^31 ≤ srpG^verifierX lib salt rI%srpN := by
  obtain ⟨hs₁,hv₁,rfl,rfl⟩ := setVSFields_stores hmade hsalt hstored
  rw [hs₁,hv₁] at hrow ⊢
  obtain ⟨hv,hs⟩ := hrow
  have hpos := verifier_pos (verifierX lib salt rI)
  have hlt : modExp srpG (verifierX lib salt rI) srpN < 256^32 :=
    modExp_lt _ _
  have hsalt_pos : 0 < salt := by omega
  have hs_full : row.s.length = 64 := by
    rw [hs]
    exact (asHexStr_full_iff lib hsalt_pos hwidth.2).mpr hwidth.1
  rw [← modExp_eq,← asHexStr_full_iff lib hpos hlt,← hv]
  obtain ⟨s₂,t₁,t₂,t₃,s₃,rfl,htakes,ht₁,ht₃,hs₃,hv₃⟩ :=
    logonChallenge_takes hnext hread hexpects
  cases htakes with
  | stored hv_full _ =>
    refine iff_of_true ?_ hv_full
    constructor
    case calls => exact (ht₁.append .nil).append ht₃
    case salt =>
      rw [hs₃]
      simp only [hs]
      exact lib.setHexStr_asHexStr _ hsalt_pos
    case verifier =>
      rw [hv₃]
      simp only [hv]
      exact lib.setHexStr_asHexStr _ hpos
  | derived hshort fresh queued =>
    refine iff_of_false ?_ ?_
    · intro hreuse
      have hdraw := hreuse.calls ⟨.setRand 256,fresh⟩ (by simp)
      simp [KeepsVerifier] at hdraw
    · exact fun hv_full => hshort.elim (absurd hv_full) (absurd hs_full)

def storedDigest : Bytes := hexOf sampleDigest

def storedRow (salt : Nat) : AccountRow :=
  { sampleRow with
    sha_pass_hash := storedDigest
    v := hexText (modExp srpG (verifierX referenceLibrary salt storedDigest) srpN)
    s := hexText salt }

def Replies.storingVerifier (salt drawn : Nat) : Replies :=
  { Replies.admitting with account := some (storedRow salt), draws := fun _ => drawn }

def makeVerifier (salt : Nat) : Outcome Call Reply Unit Session :=
  (setVSFields referenceLibrary World.sample.sock.toSession storedDigest).exec
    (Replies.storingVerifier salt salt).env ()

def challengeBuffer : Bytes :=
  encodeChallenge .authLogonChallenge 5875 (ascii "niW" ++ [0]) (ascii "SUne")
    (ascii "ALICE") ++ [0]

def challengeAgain (salt drawn : Nat) : Outcome Call Reply Unit (Bool × Session) :=
  (logonChallenge referenceLibrary World.sample.sock.toSession.closeStatus
    challengeBuffer).exec (Replies.storingVerifier salt drawn).env ()

def fullSalt : Nat := 2^255
def shortSalt : Nat := 2^255+114

theorem stored_verifier_reused_iff_sample :
    ReusesVerifier (challengeAgain fullSalt shortSalt).calls
      (challengeAgain fullSalt shortSalt).value.2 (makeVerifier fullSalt).value.s
      (makeVerifier fullSalt).value.v := by
  have hmade : (setVSFields referenceLibrary World.sample.sock.toSession storedDigest).Runs
      (makeVerifier fullSalt).calls (makeVerifier fullSalt).value := Prog.exec_runs _ _ _
  have hsalt : ⟨.setRand 256,fullSalt⟩ ∈ (makeVerifier fullSalt).calls := by decide +kernel
  have hstored : ⟨.pExecute (.updateVerifier (storedRow fullSalt).v (storedRow fullSalt).s
      []),true⟩ ∈ (makeVerifier fullSalt).calls := by
    decide +kernel
  have hnext : (logonChallenge referenceLibrary World.sample.sock.toSession.closeStatus
      challengeBuffer).Runs (challengeAgain fullSalt shortSalt).calls
      (challengeAgain fullSalt shortSalt).value := Prog.exec_runs _ _ _
  have hread : ⟨.selectAccount (ascii "ALICE"),some (storedRow fullSalt)⟩ ∈
      (challengeAgain fullSalt shortSalt).calls := by
    decide +kernel
  have hexpects : (challengeAgain fullSalt shortSalt).value.2.status = .logonProof := by
    decide +kernel
  have hfull : 256^31 ≤ srpG^verifierX referenceLibrary fullSalt storedDigest%srpN := by
    rw [← modExp_eq]
    decide +kernel
  have hwidth : 256^31 ≤ fullSalt ∧ fullSalt < 256^32 := by decide +kernel
  exact (stored_verifier_reused_iff referenceLibrary _ _ _ _ _ _ _ _ _ _ _ _ _ _ _ hmade
    hsalt hwidth hstored ⟨rfl,rfl⟩ hnext hread hexpects).mpr hfull

/-- A verifier that was stored is made again: a new salt is drawn and the row is
rewritten, although it was read as it had been stored. -/
theorem stored_verifier_made_again :
    (256^31 ≤ shortSalt ∧ shortSalt < 256^32) ∧
    ⟨.setRand 256,shortSalt⟩ ∈ (makeVerifier shortSalt).calls ∧
    ⟨.pExecute (.updateVerifier (storedRow shortSalt).v (storedRow shortSalt).s []),true⟩ ∈
      (makeVerifier shortSalt).calls ∧
    ⟨.selectAccount (ascii "ALICE"),some (storedRow shortSalt)⟩ ∈
      (challengeAgain shortSalt fullSalt).calls ∧
    (challengeAgain shortSalt fullSalt).value.2.status = .logonProof ∧
    ⟨.setRand 256,fullSalt⟩ ∈ (challengeAgain shortSalt fullSalt).calls ∧
    (challengeAgain shortSalt fullSalt).value.2.s ≠ (makeVerifier shortSalt).value.s ∧
    (challengeAgain shortSalt fullSalt).value.2.v ≠ (makeVerifier shortSalt).value.v := by
  decide +kernel

end Realmd
