import Realmd.History
set_option autoImplicit false

namespace Realmd
open ByteCodec Interaction

section
variable {lib : SharedLibrary} {cfg : WrongPass} {ω : Type} {e : AuthEnv ω}
  {run : HandlerRun ω} {s : Session} {t : List AuthEvent} {r : Bool × Session}

/-- What a handler call publishes and reports: a publication comes first, a success
reply only follows one that was stored, and one that was not stored ends the
session without a word. -/
inductive Reports (statement : Statement) (reply : Bytes) (calls : List AuthEvent)
    (s' : Session) : Prop where
  | silent (h : Calls Harmless calls)
  | stored (t : List AuthEvent) (hcalls : calls = ⟨.directPExecute statement,true⟩ :: t)
      (h : Calls (fun c => Sending reply c ∨ c = .countAuthed) t)
  | lost (t : List AuthEvent) (hcalls : calls = ⟨.directPExecute statement,false⟩ :: t)
      (h : Calls (· = .otherThreads) t) (hstatus : s'.status = .closed)
      (hclosed : s'.m_closed = true)

theorem AcceptLogonSpec.reports {A M : Nat} (h : AcceptLogonSpec lib s A M t r)
    (hs : s.status = .closed) :
    Reports (s.publication lib) (proofReply s.build (proofM2 lib A M s.K)) t r.2 := by
  have hinvalid : Harmless (.sender [0,0,9]) := ⟨by decide,by decide⟩
  cases h with
  | noArchive hpatch ht hq =>
    exact .silent (.cons trivial (ht.mono fun _ hc => hc.harmless hinvalid))
  | offered artifact hpatch ht₁ ht₂ ht₃ hq =>
    have hnotice : Harmless (.sender updateNotice) := ⟨by decide,by decide⟩
    have hinit : Harmless (.sender (xferInit artifact)) := by
      constructor <;> simp [xferInit,AuthCmd.code]
    refine .silent (.cons trivial ?_)
    refine (ht₁.mono fun _ hc => hc.harmless hnotice).append
      ((ht₂.mono fun _ hc => hc.harmless hinit).append (ht₃.mono ?_))
    rintro _ rfl
    trivial
  | unsupported hpatch hbuild ht hq =>
    exact .silent (ht.mono fun _ hc => hc.harmless hinvalid)
  | published hpatch hbuild ht honce hq => exact .stored _ rfl ht
  | unpublished ht hc hq => exact .lost _ rfl ht (hq.status.trans hs) hc

theorem LogonProofSpec.reports {lp : Bytes} (h : LogonProofSpec lib s lp t r) :
    Reports ((s.keyed lib lp).publication lib)
      (proofReply s.build (proofM2 lib (proofA lp)
        ((s.keyed lib lp).expectedM lib (proofA lp)) (s.keyed lib lp).K)) t r.2 := by
  cases h with
  | zeroA hA => exact .silent .nil
  | rejected hA hM ht hq => exact .silent ht
  | accepted hA hM h => exact h.reports rfl

theorem ReconnectProofSpec.reports {lp : Bytes} (h : ReconnectProofSpec lib s lp t r) :
    Reports (s.identity lib) (reconnectReply s.build) t r.2 := by
  cases h with
  | missing h => exact .silent .nil
  | mismatch hR ht hc hq =>
    refine .silent (ht.mono ?_)
    rintro _ rfl
    trivial
  | published hlogin hproof hK hR ht honce hq => exact .stored _ rfl ht
  | unpublished hR ht hc hq => exact .lost _ rfl ht hq.status hc

theorem Reports.sent {statement : Statement} {reply : Bytes} {calls : List AuthEvent}
    {s' : Session} (h : Reports statement reply calls s') {pre post : List AuthEvent}
    {bytes : Bytes} {u : Unit} (hsent : calls = pre ++ ⟨.sender bytes,u⟩ :: post)
    (hreply : bytes.take 2 = [1,0] ∨ bytes.take 2 = [3,0]) :
    bytes = reply ∧ (⟨.directPExecute statement,true⟩ : AuthEvent) ∈ pre := by
  have hmem : (⟨.sender bytes,u⟩ : AuthEvent) ∈ calls := by
    rw [hsent]
    simp
  cases h with
  | silent h =>
    obtain ⟨h₁,h₃⟩ := h _ hmem
    rcases hreply with hr | hr
    · exact absurd hr h₁
    · exact absurd hr h₃
  | stored t hcalls h =>
    cases pre with
    | nil => simp [hcalls] at hsent
    | cons ev pre =>
      rw [hcalls] at hsent
      obtain ⟨rfl,htail⟩ := List.cons.inj hsent
      refine ⟨?_,by simp⟩
      rcases h ⟨.sender bytes,u⟩ (by rw [htail]; simp) with (hc | hc) | hc
      · simp at hc
      · simpa using hc
      · simp at hc
  | lost t hcalls h hstatus hclosed =>
    rw [hcalls] at hmem
    rcases List.mem_cons.mp hmem with heq | hmem
    · simp at heq
    · simpa using h _ hmem

theorem Reports.failed {statement : Statement} {reply : Bytes} {calls : List AuthEvent}
    {s' : Session} (h : Reports statement reply calls s') {st : Statement}
    (hmem : (⟨.directPExecute st,false⟩ : AuthEvent) ∈ calls) :
    (∀ ev ∈ calls, (∀ bytes, ev.call ≠ .sender bytes) ∧ ev.call ≠ .countAuthed) ∧
      s'.status = .closed ∧ s'.m_closed = true := by
  cases h with
  | silent h => exact absurd (h _ hmem) (by simp [Harmless])
  | stored t hcalls h =>
    rw [hcalls] at hmem
    rcases List.mem_cons.mp hmem with heq | hmem
    · simp at heq
    · rcases h _ hmem with (hc | hc) | hc <;> simp at hc
  | lost t hcalls h hstatus hclosed =>
    refine ⟨?_,hstatus,hclosed⟩
    intro ev hev
    rw [hcalls] at hev
    rcases List.mem_cons.mp hev with rfl | htail
    · simp
    · rw [h ev htail]
      simp

theorem Reports.executed {statement : Statement} {reply : Bytes} {calls : List AuthEvent}
    {s' : Session} (h : Reports statement reply calls s') {st : Statement} {stored : Bool}
    (hmem : (⟨.directPExecute st,stored⟩ : AuthEvent) ∈ calls) : st = statement := by
  cases h with
  | silent h => exact absurd (h _ hmem) (by simp [Harmless])
  | stored t hcalls h =>
    rw [hcalls] at hmem
    rcases List.mem_cons.mp hmem with heq | hmem
    · cases heq
      rfl
    · rcases h _ hmem with (hc | hc) | hc <;> cases hc
  | lost t hcalls h hstatus hclosed =>
    rw [hcalls] at hmem
    rcases List.mem_cons.mp hmem with heq | hmem
    · cases heq
      rfl
    · cases h _ hmem

theorem LogonProofSpec.key_of_proofA {lp : Bytes} (h : LogonProofSpec lib s lp t r)
    (hA : proofA lp%srpN ≠ 0) : r.2.K = (s.keyed lib lp).K := by
  cases h with
  | zeroA hzero => exact absurd hzero hA
  | rejected hA hM ht hq => rw [hq.same]
  | accepted hA hM h => exact h.key

theorem LogonProofSpec.key {lp : Bytes} (h : LogonProofSpec lib s lp t r) (ht : t ≠ []) :
    r.2.K = (s.keyed lib lp).K := by
  refine h.key_of_proofA fun hA => ?_
  cases h with
  | zeroA hzero => exact ht rfl
  | rejected hA' hM ht' hq => exact hA' hA
  | accepted hA' hM h => exact hA' hA

theorem Ran.reports (h : Ran lib cfg e run) :
    run.cmd = .authLogonProof ∧ LogonProofSpec lib run.before.sock.toSession run.frame
        run.calls (run.result,run.after.sock.toSession) ∨
      run.cmd = .authReconnectProof ∧ ReconnectProofSpec lib run.before.sock.toSession
        run.frame run.calls (run.result,run.after.sock.toSession) ∨
      Calls Harmless run.calls := by
  cases hs : run.before.sock.status with
  | challenge =>
    rcases h.at_challenge hs with ⟨-,hspec⟩ | ⟨-,hspec⟩
    · exact .inr (.inr hspec.harmless)
    · exact .inr (.inr hspec.harmless)
  | logonProof => exact .inl (h.at_logonProof hs)
  | reconProof => exact .inr (.inl (h.at_reconProof hs))
  | patch => exact .inr (.inr ((h.at_patch hs).2.1.mono fun _ hc => hc.harmless))
  | authed => exact .inr (.inr (h.at_authed hs).2.2)
  | closed => exact absurd hs h.not_closed

variable (lib)

/-- Success is reported only after publication: a logon success proof follows the
stored update of this session's key, locale and system, a reconnect success reply
the stored update of locale and system, and after a failed update nothing is sent,
the session is closed and the counter is left alone. -/
structure HandlerRun.SucceedsPublished (run : HandlerRun ω) : Prop where
  logon : ∀ pre bytes post u, run.calls = pre ++ ⟨.sender bytes,u⟩ :: post →
    bytes.take 2 = [AuthCmd.authLogonProof.code,0] →
    (⟨.directPExecute (.publishSession (lib.asHexStr run.after.sock.K)
      run.before.sock.remote_address (lib.getLocaleByName run.before.sock.localizationName)
      (lib.escapeString run.before.sock.localizationName)
      (lib.escapeString run.before.sock.os) run.before.sock.safelogin),true⟩ : AuthEvent) ∈ pre
  reconnect : ∀ pre bytes post u, run.calls = pre ++ ⟨.sender bytes,u⟩ :: post →
    bytes.take 2 = [AuthCmd.authReconnectProof.code,0] →
    (⟨.directPExecute (.publishIdentity
      (lib.escapeString run.before.sock.localizationName)
      (lib.escapeString run.before.sock.os) run.before.sock.safelogin),true⟩ : AuthEvent) ∈ pre
  failed : ∀ statement, (⟨.directPExecute statement,false⟩ : AuthEvent) ∈ run.calls →
    (∀ ev ∈ run.calls, (∀ bytes, ev.call ≠ .sender bytes) ∧ ev.call ≠ .countAuthed) ∧
      run.after.sock.status = .closed ∧ run.after.sock.m_closed = true

variable {lib}

theorem proofReply_start (build : UInt16) (M2 : Bytes) :
    (proofReply build M2).take 2 = [1,0] := by
  unfold proofReply
  split <;> rfl

theorem reconnectReply_start (build : UInt16) : (reconnectReply build).take 2 = [3,0] := by
  unfold reconnectReply
  split <;> rfl

theorem Ran.succeedsPublished (h : Ran lib cfg e run) : run.SucceedsPublished lib := by
  rcases h.reports with ⟨-,hspec⟩ | ⟨-,hspec⟩ | hsilent
  · have hreports := hspec.reports
    constructor
    case logon =>
      intro pre bytes post u hsent hreply
      have hK : run.after.sock.K = (run.before.sock.toSession.keyed lib run.frame).K :=
        hspec.key (by simp [hsent])
      have hmem := (hreports.sent hsent (.inl hreply)).2
      rw [hK]
      exact hmem
    case reconnect =>
      intro pre bytes post u hsent hreply
      rw [(hreports.sent hsent (.inr hreply)).1,proofReply_start] at hreply
      contradiction
    case failed => exact fun _ hmem => hreports.failed hmem
  · have hreports := hspec.reports
    constructor
    case logon =>
      intro pre bytes post u hsent hreply
      rw [(hreports.sent hsent (.inl hreply)).1,reconnectReply_start] at hreply
      contradiction
    case reconnect =>
      intro pre bytes post u hsent hreply
      exact (hreports.sent hsent (.inr hreply)).2
    case failed => exact fun _ hmem => hreports.failed hmem
  · have hreports : Reports (run.before.sock.toSession.identity lib) [] run.calls
      run.after.sock.toSession := .silent hsilent
    have hnever : ∀ {pre post : List AuthEvent} {bytes : Bytes} {u : Unit},
        run.calls = pre ++ ⟨.sender bytes,u⟩ :: post →
        ¬ (bytes.take 2 = [1,0] ∨ bytes.take 2 = [3,0]) := by
      intro pre post bytes u hsent hreply
      have hbytes := (hreports.sent hsent hreply).1
      subst hbytes
      simp at hreply
    constructor
    case logon => exact fun _ _ _ _ hsent hreply => absurd (.inl hreply) (hnever hsent)
    case reconnect => exact fun _ _ _ _ hsent hreply => absurd (.inr hreply) (hnever hsent)
    case failed => exact fun _ hmem => hreports.failed hmem

/-- Every handler call of every run reports success only after publication. -/
theorem success_only_after_publication (lib : SharedLibrary) (cfg : WrongPass)
    (e : AuthEnv ω) (inputs : List (Input ω)) (now authTimeout : Nat)
    (patchPolicy : PatchPolicy) (remote_address : Bytes) (env : ω) :
    ∀ run ∈ (runInputs lib cfg e inputs
        (World.start lib now authTimeout patchPolicy remote_address env)).1,
      run.SucceedsPublished lib := by
  intro run hmem
  exact ((runInputs_linked lib cfg e inputs _).ran run hmem).succeedsPublished

theorem success_only_after_publication_reconnect :
    ∃ run ∈ (runInputs referenceLibrary ⟨0,600,false⟩ Replies.admitting.env
        (reconnectInputs 5875) World.sample).1,
      run.cmd = .authReconnectProof ∧ run.after.sock.status = .authed ∧
        run.SucceedsPublished referenceLibrary := by
  refine ⟨(runInputs referenceLibrary ⟨0,600,false⟩ Replies.admitting.env
    (reconnectInputs 5875) World.sample).1.get ⟨1,by decide +kernel⟩,
    List.get_mem _ _,?_,?_,?_⟩
  · decide +kernel
  · decide +kernel
  · exact success_only_after_publication referenceLibrary ⟨0,600,false⟩
      Replies.admitting.env (reconnectInputs 5875) 0 30 ⟨false,[]⟩ (ascii "10.0.0.1") ()
      _ (List.get_mem _ _)

end

end Realmd
