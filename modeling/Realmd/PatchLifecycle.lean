import Realmd.PatchDelivery
import Realmd.SrpCompleteness
set_option autoImplicit false

namespace Realmd
open ByteCodec Interaction

def NoArchive : Call → Prop
  | .openArtifact _ => False
  | _ => True

section
variable {lib : SharedLibrary} {cfg : WrongPass} {s : Session} {t : List AuthEvent}
  {r : Bool × Session}

theorem Probing.noArchive (c : Call) (h : Probing c) : NoArchive c := by
  cases c <;> trivial

theorem Streaming.noArchive (c : Call) (h : Streaming c) : NoArchive c := by
  rcases h with rfl | ⟨_,_,rfl⟩ | ⟨_,_,rfl⟩ <;> trivial

theorem reconnectProof_opens_none (s : Session) (lp : Bytes) :
    (reconnectProof lib s lp).Meets NoArchive fun _ => True := by
  unfold reconnectProof
  simp only
  split
  · trivial
  split
  · exact Session.publish_meets trivial _ trivial trivial trivial
  · exact Session.fail_meets trivial _ _

theorem logonProof_opens {lp : Bytes} (h : (logonProof lib cfg s lp).Runs t r)
    {ev : AuthEvent} (hev : ev ∈ t) {path : Bytes} (hpath : ev.call = .openArtifact path) :
    proofA lp%srpN ≠ 0 ∧ s.ProofMatches lib lp ∧
      s.patchPolicy.shouldPatch s.build (findBuildInfo s.build).isSome = true ∧
      (offerPatch (s.keyed lib lp)).Runs t r := by
  have hno : ¬ NoArchive ev.call := by
    rw [hpath]
    exact id
  unfold logonProof at h
  simp only at h
  split at h
  · obtain ⟨rfl,-⟩ := h
    simp at hev
  rename_i hA
  split at h
  · rename_i hM
    unfold acceptLogon at h
    simp only at h
    split at h
    · rename_i hpatch
      exact ⟨hA,hM,hpatch,h⟩
    split at h
    · have hcalls := ((Session.answer_meets (P := NoArchive) trivial _ _ trivial).runs h).1
        ev hev
      exact absurd hcalls hno
    · have hcalls := ((Session.publish_meets (P := NoArchive) trivial _ trivial trivial
        trivial).runs h).1 ev hev
      exact absurd hcalls hno
  · have hcalls := ((rejectLogon_meets (P := NoArchive) trivial _ trivial (fun _ => trivial)
      (fun _ => trivial)).runs h).1 ev hev
    exact absurd hcalls hno

theorem frameBody_opens {cmd : AuthCmd} {frame : Bytes}
    (h : (frameBody lib cfg cmd frame s).Runs t r) {ev : AuthEvent} (hev : ev ∈ t)
    {path : Bytes} (hpath : ev.call = .openArtifact path) :
    cmd = .authLogonProof ∧ proofA frame%srpN ≠ 0 ∧ s.ProofMatches lib frame ∧
      s.patchPolicy.shouldPatch s.build (findBuildInfo s.build).isSome = true ∧
      (offerPatch (s.keyed lib frame)).Runs t r := by
  have hno : ¬ Calls NoArchive t := by
    intro ht
    have hcall := ht ev hev
    rw [hpath] at hcall
    exact hcall
  cases cmd with
  | authLogonChallenge =>
    have ht : Calls Probing t := ((logonChallenge_meets _ _).runs h).1
    exact absurd (ht.mono Probing.noArchive) hno
  | authReconnectChallenge =>
    have ht : Calls Probing t := ((reconnectChallenge_meets _ _).runs h).1
    exact absurd (ht.mono Probing.noArchive) hno
  | authLogonProof => exact ⟨rfl,logonProof_opens h hev hpath⟩
  | authReconnectProof => exact absurd ((reconnectProof_opens_none _ _).runs h).1 hno
  | realmList =>
    have ht := ((realmList_meets (P := NoArchive) trivial s trivial trivial trivial
      (fun _ _ => trivial) fun _ => trivial).runs h).1
    exact absurd ht hno
  | xferAccept => exact absurd ((beginPatchStream_runs h).1.mono Streaming.noArchive) hno
  | xferResume => exact absurd ((beginPatchStream_runs h).1.mono Streaming.noArchive) hno
  | xferCancel => exact absurd ((xferCancel_runs h).2.2.2.mono Streaming.noArchive) hno
  | xferInitiate =>
    obtain ⟨rfl,-⟩ := h
    cases hev
  | xferData =>
    obtain ⟨rfl,-⟩ := h
    cases hev

theorem SentOnce.sent {bytes : Bytes} (h : SentOnce bytes t s) (hopen : s.m_closed = false)
    (hsender : s.m_sender = true) : sentBytes t = [bytes] := by
  rcases h with hsent | ⟨-,hc | hs⟩
  · exact hsent
  · simp [hopen] at hc
  · simp [hsender] at hs

theorem offerPatch_announces {artifact : PatchArtifact} {path : Bytes}
    (h : (offerPatch s).Runs t r) (hmem : ⟨.openArtifact path,some artifact⟩ ∈ t)
    (hsender : s.m_sender = true) (hopen : r.2.m_closed = false) :
    sentBytes t = [updateNotice,xferInit artifact] := by
  obtain ⟨found,t₀,rfl,h⟩ := h
  cases found with
  | none =>
    rcases List.mem_cons.mp hmem with heq | hmem
    · cases heq
    · rcases (Session.answer_runs h).2.2 _ hmem with hc | hc <;> cases hc
  | some found =>
    have hlast : (do
      let s ← ({ s with m_patchArtifact := some found } : Session).send updateNotice
      let s ← s.send (xferInit found)
      let s ← { s with status := .patch }.deactivate
      return (true,s) : AuthProg (Bool × Session)).Runs t₀ r := h
    obtain ⟨t₁,t',s₁,rfl,hnotice,h⟩ := Prog.runs_bind.mp hlast
    obtain ⟨t₂,t'',s₂,rfl,hinit,h⟩ := Prog.runs_bind.mp h
    obtain ⟨t₃,t₄,s₃,rfl,hdeact,rfl,rfl⟩ := Prog.runs_bind.mp h
    obtain ⟨hq₁,ht₁⟩ := Session.send_runs hnotice
    obtain ⟨hq₂,ht₂⟩ := Session.send_runs hinit
    obtain ⟨hq₃,ht₃⟩ := Session.deactivate_runs hdeact
    have hfound : found = artifact := by
      simp only [List.append_nil,List.mem_cons,List.mem_append] at hmem
      rcases hmem with heq | hmem | hmem | hmem
      · cases heq
        rfl
      · rcases ht₁ _ hmem with hc | hc <;> cases hc
      · rcases ht₂ _ hmem with hc | hc <;> cases hc
      · cases ht₃ _ hmem
    have hopen₂ : s₂.m_closed = false := hq₃.opened hopen
    have hopen₁ : s₁.m_closed = false := hq₂.opened hopen₂
    have hsender₁ : s₁.m_sender = true := by
      rw [hq₁.same]
      exact hsender
    have hsender₂ : s₂.m_sender = true := by
      rw [hq₂.same]
      exact hsender₁
    have hsent₁ := (Session.send_once hnotice (by simp [updateNotice])).sent hopen₁ hsender₁
    have hsent₂ := (Session.send_once hinit (by simp [xferInit])).sent hopen₂ hsender₂
    have hsplit : sentBytes (⟨.openArtifact (patchFile s),some found⟩ ::
        (t₁ ++ (t₂ ++ (t₃ ++ [])))) =
      sentBytes t₁ ++ (sentBytes t₂ ++ (sentBytes t₃ ++ sentBytes [])) := by
      rw [← sentBytes_append,← sentBytes_append,← sentBytes_append]
      rfl
    rw [hsplit,hsent₁,hsent₂,sentBytes_otherThreads ht₃,hfound]
    rfl

def transfersStarted (calls : List AuthEvent) : List (PatchArtifact × UInt64) :=
  calls.filterMap fun ev =>
    match ev.call with
    | .spawnTransfer artifact offset => some (artifact,offset)
    | _ => none

theorem transfersStarted_append (t t' : List AuthEvent) :
    transfersStarted (t ++ t') = transfersStarted t ++ transfersStarted t' := by
  simp [transfersStarted]

theorem transfersStarted_otherThreads {t : List AuthEvent}
    (h : Calls (· = .otherThreads) t) : transfersStarted t = [] := by
  rw [transfersStarted,List.filterMap_eq_nil_iff]
  intro ev hmem
  rw [h ev hmem]

theorem startPatchTransfer_starts {artifact : PatchArtifact} {offset : UInt64} {ok : Bool}
    (h : (beginPatchStream.startPatchTransfer artifact offset).Runs t ok)
    (hsize : artifact.size.toNat < 2^63)
    (hseek : ∀ stream pos sought, ⟨.seekStream stream pos,sought⟩ ∈ t → sought = true) :
    transfersStarted t = (if offset ≤ artifact.size then [(artifact,offset)] else []) ∧
      ok = decide (offset ≤ artifact.size) := by
  unfold beginPatchStream.startPatchTransfer at h
  split at h
  · rename_i hlarge
    obtain ⟨rfl,rfl⟩ := h
    have hn : ¬ offset ≤ artifact.size := UInt64.not_le.mpr hlarge
    simp [transfersStarted,hn]
  rename_i hle
  rw [gt_iff_lt,UInt64.not_lt] at hle
  split at h
  · rename_i hlarge
    rw [UInt64.le_iff_toNat_le] at hle
    omega
  obtain ⟨sought,t₁,rfl,h⟩ := h
  obtain rfl := hseek artifact.stream offset sought List.mem_cons_self
  obtain ⟨_,t₂,rfl,rfl,rfl⟩ := h
  simp [transfersStarted,hle]

theorem beginPatchStream_starts {artifact : PatchArtifact} {offset : UInt64}
    (h : (beginPatchStream s offset).Runs t r) (ha : s.m_patchArtifact = some artifact)
    (hsize : artifact.size.toNat < 2^63)
    (hseek : ∀ stream pos sought, ⟨.seekStream stream pos,sought⟩ ∈ t → sought = true) :
    transfersStarted t = (if offset ≤ artifact.size then [(artifact,offset)] else []) ∧
      (¬ offset ≤ artifact.size → r.2.m_closed = true) := by
  unfold beginPatchStream at h
  rw [ha] at h
  obtain ⟨t₁,t₂,ok,rfl,hstart,h⟩ := Prog.runs_bind.mp h
  obtain ⟨hstarted,rfl⟩ := startPatchTransfer_starts hstart hsize
    fun stream pos sought hmem => hseek stream pos sought (by simp [hmem])
  rw [transfersStarted_append,hstarted]
  split at h
  · rename_i hle
    obtain ⟨rfl,rfl⟩ := h
    exact ⟨List.append_nil _,fun hn => absurd (of_decide_eq_true hle) hn⟩
  · obtain ⟨-,-,hc,ht⟩ := Session.close_runs h
    rw [transfersStarted_otherThreads ht]
    exact ⟨List.append_nil _,fun _ => hc⟩

end

section
variable (lib : SharedLibrary) (cfg : WrongPass) {ω : Type} (e : AuthEnv ω)

/-- The archive and the offset a handler call hands to `StartPatchTransfer`. -/
def HandlerRun.transferCall (run : HandlerRun ω) : Option (PatchArtifact × UInt64) :=
  match run.cmd with
  | .xferAccept => run.before.sock.m_patchArtifact.map (·,0)
  | .xferResume =>
      run.before.sock.m_patchArtifact.map (·,UInt64.ofNat (leNat (slice run.frame 1 8)))
  | _ => none

inductive PatchStep (run : HandlerRun ω) : Prop where
  | elsewhere (hbefore : run.before.sock.status ≠ .patch)
      (hafter : run.after.sock.status ≠ .patch)
      (hsame : run.after.sock.m_patchArtifact = run.before.sock.m_patchArtifact)
  | offered (artifact : PatchArtifact) (hcmd : run.cmd = .authLogonProof)
      (hafter : run.after.sock.status = .patch)
      (hnew : run.after.sock.m_patchArtifact = some artifact)
      (hopened : ⟨.openArtifact (patchFile run.before.sock.toSession),some artifact⟩ ∈
        run.calls)
  | started (hafter : run.after.sock.status = .closed)
      (hnone : run.after.sock.m_patchArtifact = none)
  | shut (hafter : run.after.sock.status = run.before.sock.status)
      (hsame : run.after.sock.m_patchArtifact = run.before.sock.m_patchArtifact)
      (hclosed : run.after.sock.m_closed = true)

variable {lib cfg e} {run : HandlerRun ω}

theorem Session.Quiet.artifact {s s' : Session} (h : s.Quiet s') :
    s'.m_patchArtifact = s.m_patchArtifact := by
  rw [h.same]

theorem Ran.logonProof_patchStep (h : Ran lib cfg e run)
    (hs : run.before.sock.status = .logonProof) : PatchStep run := by
  obtain ⟨hcmd,hspec⟩ := h.at_logonProof hs
  have hbefore : run.before.sock.status ≠ .patch := by
    rw [hs]
    nofun
  obtain ⟨s₀,hfixed,hq | ⟨artifact,hopened,hq⟩ | hq⟩ := hspec.origin
  · exact .elsewhere hbefore (by rw [hq.status]; nofun)
      (hq.artifact.trans (congrArg (·.2.1) hfixed))
  · exact .offered artifact hcmd hq.status hq.artifact hopened
  · exact .elsewhere hbefore (by rw [hq.status]; nofun)
      (hq.artifact.trans (congrArg (·.2.1) hfixed))

theorem beginPatchStream_patchStep {offset : UInt64}
    (h : (beginPatchStream run.before.sock.toSession offset).Runs run.calls
      (run.result,run.after.sock.toSession)) : PatchStep run := by
  obtain ⟨-,hclosed,⟨-,hfail,hq⟩ | hq⟩ := beginPatchStream_runs h
  · exact .shut hq.status hq.artifact (hclosed hfail)
  · exact .started hq.status hq.artifact

theorem Ran.patchStep (h : Ran lib cfg e run) : PatchStep run := by
  have hruns := h.runs
  cases hs : run.before.sock.status with
  | challenge =>
    have hbefore : run.before.sock.status ≠ .patch := by
      rw [hs]
      nofun
    have hafter : run.after.sock.status ≠ .patch := by
      obtain ⟨-,hc | hc | hc⟩ := h.challenged hs
      · rw [hc]
        nofun
      · rw [hc.status]
        nofun
      · rw [hc.status]
        nofun
    rcases h.at_challenge hs with ⟨-,hspec⟩ | ⟨-,hspec⟩
    · obtain ⟨s₀,hq,hfixed⟩ := hspec.origin
      exact .elsewhere hbefore hafter (hq.artifact.trans (congrArg (·.2.1) hfixed))
    · obtain ⟨s₀,hq,hfixed⟩ := hspec.origin
      exact .elsewhere hbefore hafter (hq.artifact.trans (congrArg (·.2.1) hfixed))
  | logonProof => exact h.logonProof_patchStep hs
  | reconProof =>
    obtain hq | hq := (h.at_reconProof hs).2.origin <;>
      exact .elsewhere (by rw [hs]; nofun) (by rw [hq.status]; nofun) hq.artifact
  | patch =>
    obtain ⟨hc | hc | hc,-,-⟩ := h.at_patch hs <;> rw [hc] at hruns
    · exact beginPatchStream_patchStep hruns
    · exact beginPatchStream_patchStep hruns
    · obtain ⟨-,hq,hclosed,-⟩ := xferCancel_runs hruns
      exact .shut hq.status hq.artifact hclosed
  | authed =>
    obtain ⟨-,hq,-⟩ := h.at_authed hs
    exact .elsewhere (by rw [hs]; nofun) (by rw [hq.status,hs]; nofun) hq.artifact
  | closed => exact absurd hs h.not_closed

/-- A session has an archive to send exactly while it waits for the client to take it. -/
def PatchHeld (s : Session) : Prop := s.status = .patch ↔ s.m_patchArtifact ≠ none

theorem PatchHeld.quiet {s s' : Session} (hq : s.Quiet s') (h : PatchHeld s) :
    PatchHeld s' := by
  unfold PatchHeld
  rw [hq.status,hq.artifact]
  exact h

/-- A logon proof that opened an archive for a client, and told it so if the session is
still open. -/
structure OffersPatch (artifact : PatchArtifact) (opened : Bool) (p : HandlerRun ω) : Prop where
  cmd : p.cmd = .authLogonProof
  opens : ⟨.openArtifact (patchFile p.before.sock.toSession),some artifact⟩ ∈ p.calls
  announces : opened = true → sentBytes p.calls = [updateNotice,xferInit artifact]

structure OfferedBefore (h : List (HandlerRun ω)) (s : Session) : Prop where
  sender : s.m_sender = true
  offer : ∀ artifact, s.m_patchArtifact = some artifact →
    ∃ p ∈ h, OffersPatch artifact (!s.m_closed) p

theorem OfferedBefore.quiet {h : List (HandlerRun ω)} {s s' : Session} (hq : s.Quiet s')
    (ho : OfferedBefore h s) : OfferedBefore h s' := by
  constructor
  case sender =>
    rw [hq.same]
    exact ho.sender
  case offer =>
    intro artifact ha
    obtain ⟨p,hmem,hp⟩ := ho.offer artifact (hq.artifact.symm.trans ha)
    refine ⟨p,hmem,hp.cmd,hp.opens,fun hopen => hp.announces ?_⟩
    rw [hq.opened (by simpa using hopen)]
    rfl

theorem OfferedBefore.ran {h : List (HandlerRun ω)} (hran : Ran lib cfg e run)
    (ho : OfferedBefore h run.before.sock.toSession) :
    OfferedBefore (h ++ [run]) run.after.sock.toSession := by
  have hsender : run.after.sock.m_sender = true :=
    (congrArg (·.2.2) hran.settings).trans ho.sender
  -- an archive that was there before was announced, since the session was open
  have hkept : ∀ artifact, run.before.sock.m_patchArtifact = some artifact →
      ∃ p ∈ h ++ [run], OffersPatch artifact (!run.after.sock.m_closed) p := by
    intro artifact ha
    obtain ⟨p,hmem,hp⟩ := ho.offer artifact ha
    refine ⟨p,by simp [hmem],hp.cmd,hp.opens,fun _ => hp.announces ?_⟩
    simp [hran.opened]
  refine ⟨hsender,fun artifact ha => ?_⟩
  cases hran.patchStep with
  | elsewhere hbefore hafter hsame => exact hkept artifact (hsame ▸ ha)
  | offered artifact' hcmd hafter hnew hopened =>
    obtain rfl := Option.some.inj (hnew.symm.trans ha)
    refine ⟨run,by simp,hcmd,hopened,fun hopen => ?_⟩
    obtain ⟨-,-,-,-,hoffer⟩ := frameBody_opens hran.runs hopened rfl
    exact offerPatch_announces hoffer hopened ho.sender (by simpa using hopen)
  | started hafter hnone => simp [hnone] at ha
  | shut hafter hsame hclosed => exact hkept artifact (hsame ▸ ha)

theorem HandlerRun.transferCall_eq_some {artifact : PatchArtifact} {offset : UInt64}
    (h : run.transferCall = some (artifact,offset)) :
    (run.cmd = .xferAccept ∨ run.cmd = .xferResume) ∧
      run.before.sock.m_patchArtifact = some artifact ∧
      ∀ lib cfg, frameBody lib cfg run.cmd run.frame run.before.sock.toSession =
        beginPatchStream run.before.sock.toSession offset := by
  unfold transferCall at h
  split at h
  · rename_i hcmd
    obtain ⟨a,ha,heq⟩ := Option.map_eq_some_iff.mp h
    obtain ⟨rfl,rfl⟩ := Prod.mk.inj heq
    exact ⟨.inl hcmd,ha,fun _ _ => by rw [hcmd]; rfl⟩
  · rename_i hcmd
    obtain ⟨a,ha,heq⟩ := Option.map_eq_some_iff.mp h
    obtain ⟨rfl,rfl⟩ := Prod.mk.inj heq
    exact ⟨.inr hcmd,ha,fun _ _ => by rw [hcmd]; rfl⟩
  · contradiction

variable (e)

/-- A seek inside an archive succeeds. -/
def SeeksInside : Prop := ∀ stream offset w, (e (.seekStream stream offset) w).1 = true

end

def offeredArtifact : PatchArtifact := ⟨0,5,sampleMd5 sampleFile.content⟩

def Replies.patching : Replies :=
  { Replies.verifying 0 with artifact := some offeredArtifact }

def patchInputs : List (Input Unit) :=
  (logonInputs 5875).take 2 ++ [.data [] ([AuthCmd.xferResume.code] ++ leBytes 8 3)]

end Realmd
