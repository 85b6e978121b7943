import Realmd.History
set_option autoImplicit false

namespace Realmd
open ByteCodec Interaction

section
variable (lib : SharedLibrary) (cfg : WrongPass) {ω : Type} (e : AuthEnv ω)

def HandlerRun.fields (run : HandlerRun ω) : ChallengeFields :=
  challengeFields (run.frame ++ [0])

structure LogonChallenged (c : HandlerRun ω) : Prop where
  ran : Ran lib cfg e c
  cmd : c.cmd = .authLogonChallenge
  gates : ∃ row b s₁, PassesGates lib
    (c.before.sock.toSession.closeStatus.claim lib c.fields) c.fields.clientLocale row b
    c.calls s₁ c.after.sock.toSession

structure ReconnectChallenged (c : HandlerRun ω) : Prop where
  ran : Ran lib cfg e c
  cmd : c.cmd = .authReconnectChallenge
  key : ∃ sessionkey drawn t, c.calls =
      ⟨.selectSessionKey (lib.escapeString c.fields.login),some sessionkey⟩ ::
        ⟨.setRand 128,drawn⟩ :: t ∧
    Calls (Sending (reconnectChallengeReply lib drawn)) t ∧
    ({ c.before.sock.toSession.closeStatus.reconnectClaim lib c.fields with
      K := lib.setHexStr c.before.sock.K sessionkey
      status := .reconProof
      reconnectProof := drawn } : Session).Quiet c.after.sock.toSession

structure LogonAccepted (p : HandlerRun ω) : Prop where
  ran : Ran lib cfg e p
  cmd : p.cmd = .authLogonProof
  nonzero : proofA p.frame%srpN ≠ 0
  proof : p.before.sock.toSession.ProofMatches lib p.frame
  supported : (findBuildInfo p.before.sock.build).isSome = true
  unpatched : p.before.sock.patchPolicy.shouldPatch p.before.sock.build true = false
  after : ({ p.before.sock.toSession.keyed lib p.frame with
    os := lib.escapeString p.before.sock.os } : Session).authenticate.Quiet
      p.after.sock.toSession

structure ReconnectAccepted (p : HandlerRun ω) : Prop where
  ran : Ran lib cfg e p
  cmd : p.cmd = .authReconnectProof
  key : p.before.sock.K ≠ 0
  proof : p.before.sock.toSession.DigestMatches lib p.frame
  after : p.before.sock.toSession.closeStatus.authenticate.Quiet p.after.sock.toSession

def AuthCmd.isChallenge : AuthCmd → Bool
  | .authLogonChallenge | .authReconnectChallenge => true
  | _ => false

def AuthCmd.isProof : AuthCmd → Bool
  | .authLogonProof | .authReconnectProof => true
  | _ => false

def AuthCmd.isTransfer : AuthCmd → Bool
  | .xferAccept | .xferResume | .xferCancel => true
  | _ => false

def ListsFrom (s : Session) (rest : List (HandlerRun ω)) : Prop :=
  ∀ run ∈ rest, run.cmd = .realmList ∧ s.Quiet run.before.sock.toSession ∧
    s.Quiet run.after.sock.toSession

/-- All a session can have done, from a fresh one to the given status. -/
inductive Life : List (HandlerRun ω) → Session → Prop where
  | waiting {s : Session} (hs : s.status = .challenge) : Life [] s
  | refused {c : HandlerRun ω} {s : Session} (hc : c.cmd.isChallenge = true)
      (hcs : c.after.sock.status = .closed) (hs : s.status = .closed) : Life [c] s
  | logonChallenged {c : HandlerRun ω} {s : Session} (hc : LogonChallenged lib cfg e c)
      (hq : c.after.sock.toSession.Quiet s) (hs : s.status = .logonProof) : Life [c] s
  | reconnectChallenged {c : HandlerRun ω} {s : Session}
      (hc : ReconnectChallenged lib cfg e c) (hq : c.after.sock.toSession.Quiet s)
      (hs : s.status = .reconProof) : Life [c] s
  | failed {c p : HandlerRun ω} {s : Session} (hc : c.cmd.isChallenge = true)
      (hcs : c.after.sock.status ≠ .authed) (hp : p.cmd.isProof = true)
      (hps : p.after.sock.status = .closed) (hs : s.status = .closed) : Life [c,p] s
  | patching {c p : HandlerRun ω} {rest : List (HandlerRun ω)} {s : Session}
      (hc : c.cmd.isChallenge = true) (hcs : c.after.sock.status ≠ .authed)
      (hp : p.cmd.isProof = true) (hps : p.after.sock.status ≠ .authed)
      (hrest : ∀ run ∈ rest, run.cmd.isTransfer = true ∧ run.after.sock.status ≠ .authed)
      (hs : s.status ≠ .authed) : Life (c :: p :: rest) s
  | logonAccepted {c p : HandlerRun ω} {rest : List (HandlerRun ω)} {s : Session}
      (hc : LogonChallenged lib cfg e c)
      (hlink : c.after.sock.toSession.Quiet p.before.sock.toSession)
      (hp : LogonAccepted lib cfg e p)
      (hrest : ListsFrom p.after.sock.toSession rest)
      (hq : p.after.sock.toSession.Quiet s) : Life (c :: p :: rest) s
  | reconnectAccepted {c p : HandlerRun ω} {rest : List (HandlerRun ω)} {s : Session}
      (hc : ReconnectChallenged lib cfg e c)
      (hlink : c.after.sock.toSession.Quiet p.before.sock.toSession)
      (hp : ReconnectAccepted lib cfg e p)
      (hrest : ListsFrom p.after.sock.toSession rest)
      (hq : p.after.sock.toSession.Quiet s) : Life (c :: p :: rest) s

variable {lib cfg e} {s s' : Session} {h : List (HandlerRun ω)}

theorem Linked.from_closed (hl : Linked lib cfg e s h s') (hs : s.status = .closed) :
    h = [] ∧ s'.status = .closed := by
  cases hl with
  | nil hq => exact ⟨rfl,hq.status.trans hs⟩
  | cons hq hran hrest => exact absurd (hq.status.trans hs) hran.not_closed

theorem Linked.from_authed (hl : Linked lib cfg e s h s') (hs : s.status = .authed) :
    ListsFrom s h ∧ s.Quiet s' := by
  induction hl with
  | nil hq => exact ⟨by simp [ListsFrom],hq⟩
  | cons hq hran _ ih =>
    obtain ⟨hcmd,hq',-⟩ := hran.at_authed (hq.status.trans hs)
    obtain ⟨hrest,hq''⟩ := ih ((hq.trans hq').status.trans hs)
    refine ⟨?_,(hq.trans hq').trans hq''⟩
    intro run hmem
    rcases List.mem_cons.mp hmem with rfl | htail
    · exact ⟨hcmd,hq,hq.trans hq'⟩
    · obtain ⟨hcmd',hb,ha⟩ := hrest run htail
      exact ⟨hcmd',(hq.trans hq').trans hb,(hq.trans hq').trans ha⟩

theorem Linked.from_patch (hl : Linked lib cfg e s h s') (hs : s.status = .patch) :
    (∀ run ∈ h, run.cmd.isTransfer = true ∧ run.after.sock.status ≠ .authed) ∧
      s'.status ≠ .authed := by
  induction hl with
  | nil hq =>
    refine ⟨by simp,?_⟩
    rw [hq.status,hs]
    decide
  | @cons s s' run rest hq hran hrest ih =>
    obtain ⟨hcmd,-,hafter⟩ := hran.at_patch (hq.status.trans hs)
    have hne : run.after.sock.status ≠ .authed := by
      rcases hafter with hc | ⟨hp,-⟩
      · rw [hc]
        decide
      · rw [hp]
        decide
    have htail : (∀ run ∈ rest, run.cmd.isTransfer = true ∧
        run.after.sock.status ≠ .authed) ∧ s'.status ≠ .authed := by
      rcases hafter with hc | ⟨hp,-⟩
      · obtain ⟨rfl,hs'⟩ := hrest.from_closed hc
        refine ⟨by simp,?_⟩
        rw [hs']
        decide
      · exact ih hp
    refine ⟨?_,htail.2⟩
    intro run' hmem
    rcases List.mem_cons.mp hmem with rfl | hmem'
    · rcases hcmd with hc | hc | hc <;> rw [hc] <;> exact ⟨rfl,hne⟩
    · exact htail.1 run' hmem'

theorem Linked.from_logonProof {c : HandlerRun ω} (hc : LogonChallenged lib cfg e c)
    (hcmd : c.cmd.isChallenge = true) (hcs : c.after.sock.status = .logonProof)
    (hl : Linked lib cfg e c.after.sock.toSession h s') : Life lib cfg e (c :: h) s' := by
  have hne : c.after.sock.status ≠ .authed := by
    rw [hcs]
    decide
  cases hl with
  | nil hq => exact .logonChallenged hc hq (hq.status.trans hcs)
  | @cons _ _ p rest hq hran hrest =>
    obtain ⟨hp,hspec⟩ := hran.at_logonProof (hq.status.trans hcs)
    have hproof : p.cmd.isProof = true := by
      rw [hp]
      rfl
    have hfail : p.after.sock.status = .closed → Life lib cfg e (c :: p :: rest) s' := by
      intro hps
      obtain ⟨rfl,hs'⟩ := hrest.from_closed hps
      exact .failed hcmd hne hproof hps hs'
    generalize hr : (p.result,p.after.sock.toSession) = r at hspec
    generalize ht : p.calls = t at hspec
    cases hspec with
    | zeroA hA =>
      obtain ⟨-,hafter⟩ := Prod.mk.inj hr
      exact hfail (by rw [hafter]; rfl)
    | rejected hA hM hcalls hq' =>
      obtain ⟨-,rfl⟩ := Prod.mk.inj hr
      exact hfail hq'.status
    | accepted hA hM hacc =>
      cases hacc with
      | noArchive hpatch hcalls hq' =>
        obtain ⟨-,rfl⟩ := Prod.mk.inj hr
        exact hfail hq'.status
      | offered artifact hpatch ht₁ ht₂ ht₃ hq' =>
        obtain ⟨-,rfl⟩ := Prod.mk.inj hr
        have hps : p.after.sock.status = .patch := hq'.status
        obtain ⟨hruns,hs'⟩ := hrest.from_patch hps
        exact .patching hcmd hne hproof (by rw [hps]; decide) hruns hs'
      | unsupported hpatch hbuild hcalls hq' =>
        obtain ⟨-,rfl⟩ := Prod.mk.inj hr
        exact hfail hq'.status
      | published hpatch hbuild hcalls honce hq' =>
        obtain ⟨-,rfl⟩ := Prod.mk.inj hr
        obtain ⟨hruns,hq''⟩ := hrest.from_authed hq'.status
        rw [hbuild] at hpatch
        exact .logonAccepted hc hq ⟨hran,hp,hA,hM,hbuild,hpatch,hq'⟩ hruns hq''
      | unpublished hcalls hclosed hq' =>
        obtain ⟨-,rfl⟩ := Prod.mk.inj hr
        exact hfail hq'.status

theorem Linked.from_reconProof {c : HandlerRun ω} (hc : ReconnectChallenged lib cfg e c)
    (hcmd : c.cmd.isChallenge = true) (hcs : c.after.sock.status = .reconProof)
    (hl : Linked lib cfg e c.after.sock.toSession h s') : Life lib cfg e (c :: h) s' := by
  have hne : c.after.sock.status ≠ .authed := by
    rw [hcs]
    decide
  cases hl with
  | nil hq => exact .reconnectChallenged hc hq (hq.status.trans hcs)
  | @cons _ _ p rest hq hran hrest =>
    obtain ⟨hp,hspec⟩ := hran.at_reconProof (hq.status.trans hcs)
    have hproof : p.cmd.isProof = true := by
      rw [hp]
      rfl
    have hfail : p.after.sock.status = .closed → Life lib cfg e (c :: p :: rest) s' := by
      intro hps
      obtain ⟨rfl,hs'⟩ := hrest.from_closed hps
      exact .failed hcmd hne hproof hps hs'
    generalize hr : (p.result,p.after.sock.toSession) = r at hspec
    generalize ht : p.calls = t at hspec
    cases hspec with
    | missing hmissing =>
      obtain ⟨-,hafter⟩ := Prod.mk.inj hr
      exact hfail (by rw [hafter]; rfl)
    | mismatch hR hcalls hclosed hq' =>
      obtain ⟨-,rfl⟩ := Prod.mk.inj hr
      exact hfail hq'.status
    | published hlogin hdrawn hK hR hcalls honce hq' =>
      obtain ⟨-,rfl⟩ := Prod.mk.inj hr
      obtain ⟨hruns,hq''⟩ := hrest.from_authed hq'.status
      exact .reconnectAccepted hc hq ⟨hran,hp,hK,hR,hq'⟩ hruns hq''
    | unpublished hR hcalls hclosed hq' =>
      obtain ⟨-,rfl⟩ := Prod.mk.inj hr
      exact hfail hq'.status

theorem Ran.challenged {c : HandlerRun ω} (hran : Ran lib cfg e c)
    (hs : c.before.sock.status = .challenge) :
    c.cmd.isChallenge = true ∧ (c.after.sock.status = .closed ∨
      LogonChallenged lib cfg e c ∨ ReconnectChallenged lib cfg e c) := by
  generalize hr : (c.result,c.after.sock.toSession) = r
  generalize ht : c.calls = t
  rcases hran.at_challenge hs with ⟨hcmd,hspec⟩ | ⟨hcmd,hspec⟩
  · refine ⟨by rw [hcmd]; rfl,?_⟩
    rw [hr,ht] at hspec
    cases hspec with
    | badOs hos =>
      obtain ⟨-,hafter⟩ := Prod.mk.inj hr
      exact .inl (by rw [hafter]; rfl)
    | refused hcalls hq =>
      obtain ⟨-,rfl⟩ := Prod.mk.inj hr
      exact .inl hq.status
    | expects hcalls row b s₁ hgates =>
      obtain ⟨-,rfl⟩ := Prod.mk.inj hr
      exact .inr (.inl ⟨hran,hcmd,row,b,s₁,ht ▸ hgates⟩)
  · refine ⟨by rw [hcmd]; rfl,?_⟩
    rw [hr,ht] at hspec
    cases hspec with
    | badOs hos =>
      obtain ⟨-,hafter⟩ := Prod.mk.inj hr
      exact .inl (by rw [hafter]; rfl)
    | unknown hcalls hclosed hq =>
      obtain ⟨-,rfl⟩ := Prod.mk.inj hr
      exact .inl hq.status
    | expects sessionkey drawn hcalls hq =>
      obtain ⟨-,rfl⟩ := Prod.mk.inj hr
      exact .inr (.inr ⟨hran,hcmd,sessionkey,drawn,_,ht,hcalls,hq⟩)

theorem LogonChallenged.status {c : HandlerRun ω} (hc : LogonChallenged lib cfg e c) :
    c.after.sock.status = .logonProof := by
  obtain ⟨row,b,s₁,hg⟩ := hc.gates
  exact hg.expects.status

theorem ReconnectChallenged.status {c : HandlerRun ω}
    (hc : ReconnectChallenged lib cfg e c) : c.after.sock.status = .reconProof := by
  obtain ⟨sessionkey,drawn,t,-,-,hq⟩ := hc.key
  exact hq.status

theorem Linked.life (hl : Linked lib cfg e s h s') (hs : s.status = .challenge) :
    Life lib cfg e h s' := by
  cases hl with
  | nil hq => exact .waiting (hq.status.trans hs)
  | @cons _ _ c rest hq hran hrest =>
    obtain ⟨hcmd,hclosed | hc | hc⟩ := hran.challenged (hq.status.trans hs)
    · obtain ⟨rfl,hs'⟩ := hrest.from_closed hclosed
      exact .refused hcmd hclosed hs'
    · exact hrest.from_logonProof hc hcmd hc.status
    · exact hrest.from_reconProof hc hcmd hc.status

variable (lib)

/-- The evidence of a logon: the challenge met no ban and no lock, and the proof
was the one its salt, verifier and secret call for. -/
structure LogonPath (c p : HandlerRun ω) : Prop where
  challenge : c.cmd = .authLogonChallenge
  proof : p.cmd = .authLogonProof
  login : c.after.sock.login = c.fields.login
  database : ∃ row,
    ⟨.selectIpBanned (lib.escapeString c.before.sock.remote_address),none⟩ ∈ c.calls ∧
    ⟨.selectAccount (lib.escapeString c.fields.login),some row⟩ ∈ c.calls ∧
    ¬ (row.locked = 1 ∧ row.last_ip ≠ c.before.sock.remote_address) ∧
    ⟨.selectAccountBanned row.id,none⟩ ∈ c.calls
  nonzero : proofA p.frame%srpN ≠ 0
  M1 : slice p.frame 33 20 = lib.asByteArray (proofM lib c.fields.login c.after.sock.s
    (proofA p.frame) c.after.sock.B
    (sessionKey lib (proofA p.frame) c.after.sock.v c.after.sock.b c.after.sock.B)) 20
  supported : (findBuildInfo c.after.sock.build).isSome = true
  unpatched : c.after.sock.patchPolicy.shouldPatch c.after.sock.build true = false

/-- The evidence of a reconnect: a stored session key, and the digest over it. -/
structure ReconnectPath (c p : HandlerRun ω) : Prop where
  challenge : c.cmd = .authReconnectChallenge
  proof : p.cmd = .authReconnectProof
  key : ∃ sessionkey,
    ⟨.selectSessionKey (lib.escapeString c.fields.login),some sessionkey⟩ ∈ c.calls ∧
    c.after.sock.K = lib.setHexStr c.before.sock.K sessionkey ∧ c.after.sock.K ≠ 0
  R2 : slice p.frame 17 20 = (lib.sha1 (c.fields.login ++ slice p.frame 1 16 ++
    lib.asByteArray c.after.sock.reconnectProof 16 ++
    lib.asByteArray c.after.sock.K 40)).bytes

variable {lib} {c p : HandlerRun ω}

theorem LogonChallenged.login (hc : LogonChallenged lib cfg e c) :
    c.after.sock.login = c.fields.login := by
  obtain ⟨row,b,s₁,hg⟩ := hc.gates
  obtain ⟨t',hv,-⟩ := hg.verifier
  have hs₁ : s₁.login = c.fields.login := by
    cases hv <;> rfl
  rw [← hs₁,hg.expects.same]
  rfl

theorem LogonAccepted.path (hc : LogonChallenged lib cfg e c)
    (hlink : c.after.sock.toSession.Quiet p.before.sock.toSession)
    (hp : LogonAccepted lib cfg e p) : LogonPath lib c p := by
  obtain ⟨row,b,s₁,hg⟩ := hc.gates
  have hlogin := hc.login
  have hM := hp.proof
  have hsupported := hp.supported
  have hunpatched := hp.unpatched
  rw [Session.ProofMatches,hlink.same] at hM
  rw [hlink.same] at hsupported hunpatched
  refine ⟨hc.cmd,hp.cmd,hlogin,⟨row,hg.ipBanned,hg.account,hg.unlocked,hg.accountBanned⟩,
    hp.nonzero,?_,hsupported,hunpatched⟩
  rw [← hM,← hlogin]
  rfl

theorem ReconnectAccepted.path (hc : ReconnectChallenged lib cfg e c)
    (hlink : c.after.sock.toSession.Quiet p.before.sock.toSession)
    (hp : ReconnectAccepted lib cfg e p) : ReconnectPath lib c p := by
  obtain ⟨sessionkey,drawn,t,hcalls,-,hq⟩ := hc.key
  have hR := hp.proof
  have hK := hp.key
  rw [Session.DigestMatches,hlink.same] at hR
  rw [hlink.same] at hK
  have hlogin : c.after.sock.login = c.fields.login := by
    rw [hq.same]
    rfl
  have hlen : (slice p.frame 1 16).length = 16 := by
    apply slice_length
    rw [hp.ran.reconnectProof_length hp.cmd]
    omega
  have hR1 : lib.asByteArray (leNat (slice p.frame 1 16)) 16 = slice p.frame 1 16 := by
    have h := lib.asByteArray_leNat (slice p.frame 1 16)
    rwa [hlen] at h
  refine ⟨hc.cmd,hp.cmd,⟨sessionkey,by simp [hcalls],?_,hK⟩,?_⟩
  · rw [hq.same]
  · rw [← hR,← hlogin,reconnectDigest,srpReconnectWidth,hR1]
    rfl

theorem LogonAccepted.status (hp : LogonAccepted lib cfg e p) :
    p.after.sock.status = .authed := hp.after.status

theorem ReconnectAccepted.status (hp : ReconnectAccepted lib cfg e p) :
    p.after.sock.status = .authed := hp.after.status

theorem split_at_second {α : Type} {P : α → Prop} {a b x : α} {rest pre post : List α}
    (h : a :: b :: rest = pre ++ x :: post) (ha : ¬ P a) (hb : P b) (hx : P x)
    (hpre : ∀ y ∈ pre, ¬ P y) : pre = [a] ∧ x = b := by
  cases pre with
  | nil =>
    obtain ⟨rfl,-⟩ := List.cons.inj h
    exact absurd hx ha
  | cons y pre =>
    obtain ⟨rfl,htail⟩ := List.cons.inj h
    cases pre with
    | nil =>
      obtain ⟨rfl,-⟩ := List.cons.inj htail
      exact ⟨rfl,rfl⟩
    | cons z pre =>
      obtain ⟨rfl,-⟩ := List.cons.inj htail
      exact absurd hb (hpre b (by simp))

theorem Life.first_authed (hl : Life lib cfg e h s) {pre post : List (HandlerRun ω)}
    (hsplit : h = pre ++ p :: post) (hp : p.after.sock.status = .authed)
    (hpre : ∀ run ∈ pre, run.after.sock.status ≠ .authed) :
    ∃ c, pre = [c] ∧ (LogonPath lib c p ∨ ReconnectPath lib c p) := by
  have hmem : p ∈ h := by
    rw [hsplit]
    simp
  cases hl with
  | waiting hs => simp at hmem
  | refused hc hcs hs =>
    rw [List.mem_singleton.mp hmem,hcs] at hp
    contradiction
  | logonChallenged hc hq hs =>
    rw [List.mem_singleton.mp hmem,hc.status] at hp
    contradiction
  | reconnectChallenged hc hq hs =>
    rw [List.mem_singleton.mp hmem,hc.status] at hp
    contradiction
  | failed hc hcs hp' hps hs =>
    simp only [List.mem_cons,List.not_mem_nil,or_false] at hmem
    rcases hmem with rfl | rfl
    · exact absurd hp hcs
    · rw [hps] at hp
      contradiction
  | patching hc hcs hp' hps hrest hs =>
    simp only [List.mem_cons] at hmem
    rcases hmem with rfl | rfl | hmem
    · exact absurd hp hcs
    · exact absurd hp hps
    · exact absurd hp (hrest p hmem).2
  | @logonAccepted c p' rest s hc hlink hp' hrest hq =>
    have hne : c.after.sock.status ≠ .authed := by
      rw [hc.status]
      decide
    obtain ⟨rfl,rfl⟩ := split_at_second
      (P := fun run : HandlerRun ω => run.after.sock.status = .authed)
      hsplit hne hp'.status hp hpre
    exact ⟨c,rfl,.inl (hp'.path hc hlink)⟩
  | @reconnectAccepted c p' rest s hc hlink hp' hrest hq =>
    have hne : c.after.sock.status ≠ .authed := by
      rw [hc.status]
      decide
    obtain ⟨rfl,rfl⟩ := split_at_second
      (P := fun run : HandlerRun ω => run.after.sock.status = .authed)
      hsplit hne hp'.status hp hpre
    exact ⟨c,rfl,.inr (hp'.path hc hlink)⟩

def AtMostOneGuess (h : List (HandlerRun ω)) : Prop :=
  (h.filter (·.cmd.isChallenge)).length ≤ 1 ∧ (h.filter (·.cmd.isProof)).length ≤ 1

theorem atMostOneGuess_pair {rest : List (HandlerRun ω)} (hc : c.cmd.isChallenge = true)
    (hp : p.cmd.isProof = true)
    (hrest : ∀ run ∈ rest, run.cmd.isChallenge = false ∧ run.cmd.isProof = false) :
    AtMostOneGuess (c :: p :: rest) := by
  have hc' : c.cmd.isProof = false := by
    cases hcmd : c.cmd <;> simp_all [AuthCmd.isChallenge,AuthCmd.isProof]
  have hp' : p.cmd.isChallenge = false := by
    cases hcmd : p.cmd <;> simp_all [AuthCmd.isChallenge,AuthCmd.isProof]
  have hnone : rest.filter (·.cmd.isChallenge) = [] ∧ rest.filter (·.cmd.isProof) = [] := by
    constructor <;> rw [List.filter_eq_nil_iff] <;> intro run hmem
    · simp [(hrest run hmem).1]
    · simp [(hrest run hmem).2]
  simp [AtMostOneGuess,hc,hc',hp,hp',hnone]

theorem atMostOneGuess_single {run : HandlerRun ω} : AtMostOneGuess [run] := by
  simp only [AtMostOneGuess,List.filter_cons,List.filter_nil]
  constructor <;> split <;> simp

theorem Life.atMostOneGuess (hl : Life lib cfg e h s) : AtMostOneGuess h := by
  have hlist : ∀ {s : Session} {rest : List (HandlerRun ω)}, ListsFrom s rest →
      ∀ run ∈ rest, run.cmd.isChallenge = false ∧ run.cmd.isProof = false := by
    intro s rest hrest run hmem
    rw [(hrest run hmem).1]
    exact ⟨rfl,rfl⟩
  cases hl with
  | waiting hs => exact ⟨Nat.zero_le 1,Nat.zero_le 1⟩
  | refused hc hcs hs => exact atMostOneGuess_single
  | logonChallenged hc hq hs => exact atMostOneGuess_single
  | reconnectChallenged hc hq hs => exact atMostOneGuess_single
  | failed hc hcs hp hps hs => exact atMostOneGuess_pair hc hp (by simp)
  | patching hc hcs hp hps hrest hs =>
    refine atMostOneGuess_pair hc hp fun run hmem => ?_
    have htransfer := (hrest run hmem).1
    cases hcmd : run.cmd <;> simp_all [AuthCmd.isTransfer,AuthCmd.isChallenge,AuthCmd.isProof]
  | logonAccepted hc hlink hp hrest hq =>
    exact atMostOneGuess_pair (by rw [hc.cmd]; rfl) (by rw [hp.cmd]; rfl) (hlist hrest)
  | reconnectAccepted hc hlink hp hrest hq =>
    exact atMostOneGuess_pair (by rw [hc.cmd]; rfl) (by rw [hp.cmd]; rfl) (hlist hrest)

/-- The session states a run passes through: around each handler call, and the last. -/
def sessionStates (h : List (HandlerRun ω)) (s : Session) : List Session :=
  h.flatMap (fun run => [run.before.sock.toSession,run.after.sock.toSession]) ++ [s]

theorem Linked.keeps {P : Session → Prop}
    (hquiet : ∀ {s s'}, Session.Quiet s s' → P s → P s')
    (hcall : ∀ {run}, Ran lib cfg e run → P run.before.sock.toSession →
      P run.after.sock.toSession)
    (hl : Linked lib cfg e s h s') (hs : P s) : ∀ x ∈ sessionStates h s', P x := by
  have hend : ∀ {h s'}, Linked lib cfg e s h s' → P s' := fun hl =>
    hl.rule (P := fun _ x => P x) hquiet hcall hs
  intro x hx
  rcases List.mem_append.mp hx with hmem | hmem
  · obtain ⟨run,hrun,hx'⟩ := List.mem_flatMap.mp hmem
    obtain ⟨pre,post,rfl⟩ := List.append_of_mem hrun
    obtain ⟨hpre,hran,-⟩ := hl.split
    simp only [List.mem_cons,List.not_mem_nil,or_false] at hx'
    rcases hx' with rfl | rfl
    · exact hend hpre
    · exact hcall hran (hend hpre)
  · rw [List.mem_singleton.mp hmem]
    exact hend hl

theorem Linked.authed_run (hl : Linked lib cfg e s h s') (hs : s.status ≠ .authed)
    {x : Session} (hx : x ∈ sessionStates h s') (hauthed : x.status = .authed) :
    ∃ run ∈ h, run.after.sock.status = .authed := by
  induction hl with
  | nil hq =>
    rw [List.mem_singleton.mp hx,hq.status] at hauthed
    exact absurd hauthed hs
  | @cons s s' run rest hq hran hrest ih =>
    by_cases hafter : run.after.sock.status = .authed
    · exact ⟨run,by simp,hafter⟩
    have hx' : x = run.before.sock.toSession ∨ x = run.after.sock.toSession ∨
        x ∈ sessionStates rest s' := by
      simpa [sessionStates] using hx
    rcases hx' with rfl | rfl | hx'
    · rw [hq.status] at hauthed
      exact absurd hauthed hs
    · exact absurd hauthed hafter
    · obtain ⟨run',hmem,hstatus⟩ := ih hafter hx'
      exact ⟨run',List.mem_cons_of_mem _ hmem,hstatus⟩

/-- A session came to be authenticated by the challenge `c` and the proof `p`. -/
structure Admits (lib : SharedLibrary) (cfg : WrongPass) (e : AuthEnv ω)
    (c p : HandlerRun ω) : Prop where
  link : c.after.sock.toSession.Quiet p.before.sock.toSession
  path : LogonChallenged lib cfg e c ∧ LogonAccepted lib cfg e p ∨
    ReconnectChallenged lib cfg e c ∧ ReconnectAccepted lib cfg e p

theorem Admits.early (h : Admits lib cfg e c p) :
    c.before.sock.status ≠ .authed ∧ c.after.sock.status ≠ .authed ∧
      p.before.sock.status ≠ .authed := by
  have hbefore : ∀ {run : HandlerRun ω}, Ran lib cfg e run → run.cmd.isChallenge = true →
      run.before.sock.status ≠ .authed := by
    intro run hran hcmd hs
    rw [(hran.at_authed hs).1] at hcmd
    contradiction
  rw [h.link.status]
  rcases h.path with ⟨hc,-⟩ | ⟨hc,-⟩
  · rw [hc.status]
    exact ⟨hbefore hc.ran (by rw [hc.cmd]; rfl),by decide,by decide⟩
  · rw [hc.status]
    exact ⟨hbefore hc.ran (by rw [hc.cmd]; rfl),by decide,by decide⟩

theorem ReconnectChallenged.login (hc : ReconnectChallenged lib cfg e c) :
    c.after.sock.login = c.fields.login ∧ c.after.sock.build = c.fields.build := by
  obtain ⟨sessionkey,drawn,t,-,-,hq⟩ := hc.key
  constructor <;> rw [hq.same] <;> rfl

theorem Admits.keeps (h : Admits lib cfg e c p) {x : Session}
    (hq : p.after.sock.toSession.Quiet x) :
    x.login = c.after.sock.login ∧ x.build = c.after.sock.build := by
  have hafter : p.after.sock.login = p.before.sock.login ∧
      p.after.sock.build = p.before.sock.build := by
    rcases h.path with ⟨-,hp⟩ | ⟨-,hp⟩
    · constructor <;> rw [hp.after.same] <;> rfl
    · constructor <;> rw [hp.after.same] <;> rfl
  rw [hq.same]
  refine ⟨hafter.1.trans ?_,hafter.2.trans ?_⟩ <;> rw [h.link.same]

/-- After the proof nothing but a close changes an authenticated session. -/
theorem Admits.settles (h : Admits lib cfg e c p) {rest : List (HandlerRun ω)}
    (hrest : ListsFrom p.after.sock.toSession rest) (hq : p.after.sock.toSession.Quiet s')
    {x : Session} (hx : x ∈ sessionStates (c :: p :: rest) s') (hauthed : x.status = .authed) :
    p.after.sock.toSession.Quiet x := by
  obtain ⟨hcb,hca,hpb⟩ := h.early
  have hx' : x = c.before.sock.toSession ∨ x = c.after.sock.toSession ∨
      x = p.before.sock.toSession ∨ x = p.after.sock.toSession ∨ x ∈ sessionStates rest s' := by
    simpa [sessionStates] using hx
  rcases hx' with rfl | rfl | rfl | rfl | hx'
  · exact absurd hauthed hcb
  · exact absurd hauthed hca
  · exact absurd hauthed hpb
  · exact .refl _
  · rcases List.mem_append.mp hx' with hmem | hmem
    · obtain ⟨run,hrun,hx⟩ := List.mem_flatMap.mp hmem
      obtain ⟨-,hb,ha⟩ := hrest run hrun
      simp only [List.mem_cons,List.not_mem_nil,or_false] at hx
      rcases hx with rfl | rfl
      · exact hb
      · exact ha
    · rw [List.mem_singleton.mp hmem]
      exact hq

theorem Linked.first_quiet {rest : List (HandlerRun ω)}
    (hl : Linked lib cfg e s (c :: rest) s') : s.Quiet c.before.sock.toSession := by
  cases hl with
  | cons hq hran hrest => exact hq

theorem Linked.first_pair {rest : List (HandlerRun ω)}
    (hl : Linked lib cfg e s (c :: p :: rest) s') (hs : s.status = .challenge) :
    (LogonChallenged lib cfg e c ∨ ReconnectChallenged lib cfg e c) ∧
      c.after.sock.toSession.Quiet p.before.sock.toSession ∧ Ran lib cfg e p := by
  obtain _ | ⟨hq,hran,hrest⟩ := hl
  obtain _ | ⟨hlink,hran',-⟩ := hrest
  have hopen : c.after.sock.status ≠ .closed := by
    rw [← hlink.status]
    exact hran'.not_closed
  obtain ⟨-,hclosed | hc⟩ := hran.challenged (hq.status.trans hs)
  · exact absurd hclosed hopen
  · exact ⟨hc,hlink,hran'⟩

theorem Linked.reconnect_pair {rest : List (HandlerRun ω)}
    (hl : Linked lib cfg e s (c :: p :: rest) s') (hs : s.status = .challenge)
    (hcmd : c.cmd = .authReconnectChallenge) :
    ReconnectChallenged lib cfg e c ∧
      c.after.sock.toSession.Quiet p.before.sock.toSession ∧
      Ran lib cfg e p ∧ p.cmd = .authReconnectProof ∧
      ReconnectProofSpec lib p.before.sock.toSession p.frame p.calls
        (p.result,p.after.sock.toSession) := by
  obtain ⟨hc | hc,hlink,hran⟩ := hl.first_pair hs
  · exact absurd (hcmd.symm.trans hc.cmd) (by decide)
  · exact ⟨hc,hlink,hran,hran.at_reconProof (hlink.status.trans hc.status)⟩

theorem Linked.admitted (hl : Linked lib cfg e s h s') (hs : s.status = .challenge)
    {x : Session} (hx : x ∈ sessionStates h s') (hauthed : x.status = .authed) :
    ∃ c p rest, h = c :: p :: rest ∧ s.Quiet c.before.sock.toSession ∧
      Admits lib cfg e c p ∧ p.after.sock.toSession.Quiet x := by
  have hne : s.status ≠ .authed := by
    rw [hs]
    decide
  obtain ⟨run,hrun,hend⟩ := hl.authed_run hne hx hauthed
  cases hl.life hs with
  | waiting hs => simp at hrun
  | refused hc hcs hs =>
    rw [List.mem_singleton.mp hrun,hcs] at hend
    contradiction
  | logonChallenged hc hq hs =>
    rw [List.mem_singleton.mp hrun,hc.status] at hend
    contradiction
  | reconnectChallenged hc hq hs =>
    rw [List.mem_singleton.mp hrun,hc.status] at hend
    contradiction
  | failed hc hcs hp hps hs =>
    simp only [List.mem_cons,List.not_mem_nil,or_false] at hrun
    rcases hrun with rfl | rfl
    · exact absurd hend hcs
    · simp [hps] at hend
  | patching hc hcs hp hps hrest hs =>
    simp only [List.mem_cons] at hrun
    rcases hrun with rfl | rfl | hrun
    · exact absurd hend hcs
    · exact absurd hend hps
    · exact absurd hend (hrest run hrun).2
  | @logonAccepted c p rest _ hc hlink hp hrest hq =>
    have had : Admits lib cfg e c p := ⟨hlink,.inl ⟨hc,hp⟩⟩
    exact ⟨c,p,rest,rfl,hl.first_quiet,had,had.settles hrest hq hx hauthed⟩
  | @reconnectAccepted c p rest _ hc hlink hp hrest hq =>
    have had : Admits lib cfg e c p := ⟨hlink,.inr ⟨hc,hp⟩⟩
    exact ⟨c,p,rest,rfl,hl.first_quiet,had,had.settles hrest hq hx hauthed⟩

/-- A session becomes authenticated only by the proof that directly follows its
one challenge, on the evidence of a logon or of a reconnect, and no session ever
makes a second guess. -/
theorem authed_only_by_evidence (lib : SharedLibrary) (cfg : WrongPass) (e : AuthEnv ω)
    (inputs : List (Input ω)) (now authTimeout : Nat) (patchPolicy : PatchPolicy)
    (remote_address : Bytes) (env : ω) :
    let out := runInputs lib cfg e inputs
      (World.start lib now authTimeout patchPolicy remote_address env)
    (∀ pre p post, out.1 = pre ++ p :: post → p.after.sock.status = .authed →
      (∀ run ∈ pre, run.after.sock.status ≠ .authed) →
        ∃ c, pre = [c] ∧ (LogonPath lib c p ∨ ReconnectPath lib c p)) ∧
    (∀ x ∈ sessionStates out.1 out.2.sock.toSession, x.status = .authed →
      ∃ run ∈ out.1, run.after.sock.status = .authed) ∧
    AtMostOneGuess out.1 := by
  intro out
  have hlinked := runInputs_linked lib cfg e inputs
    (World.start lib now authTimeout patchPolicy remote_address env)
  have hlife := hlinked.life rfl
  refine ⟨?_,?_,hlife.atMostOneGuess⟩
  · exact fun pre p post hsplit hp hpre => hlife.first_authed hsplit hp hpre
  · exact fun x hx hauthed => hlinked.authed_run nofun hx hauthed

end

end Realmd
