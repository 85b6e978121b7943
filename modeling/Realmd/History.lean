import Realmd.HandlerSpecs
set_option autoImplicit false

namespace Realmd
open ByteCodec Interaction

section
variable (lib : SharedLibrary) (cfg : WrongPass) {ω : Type} (e : AuthEnv ω)

/-- A handler call as every run makes it: on an open session, for a command and a
frame the guard let through in its status. -/
structure Ran (run : HandlerRun ω) : Prop where
  opened : run.before.sock.m_closed = false
  state : run.cmd.streamState = some run.before.sock.status.streamState
  guard : ∃ more, inspectFrame run.before.sock.status.streamState (run.frame ++ more) =
    .complete run.frame.length
  command : AuthCmd.ofCode (byteAt run.frame 0) = some run.cmd
  outcome : (frameBody lib cfg run.cmd run.frame run.before.sock.toSession).exec e
      run.before.env =
    ⟨(run.result,run.after.sock.toSession),run.calls,run.after.env⟩

def HandlerRun.instants (run : HandlerRun ω) : List ω :=
  (frameBody lib cfg run.cmd run.frame run.before.sock.toSession).instants e run.before.env

variable {lib cfg e} {run : HandlerRun ω}

theorem FrameCall.ran {w : World ω} (h : FrameCall lib cfg e w run)
    (ho : w.sock.m_closed = false) : Ran lib cfg e run := by
  cases h with
  | mk cmd size ops hcmd hstate hframe hops =>
    obtain ⟨hpos,hl⟩ := frame_le_unread hframe
    have hlen : (w.sock.toReadBuffer.unread.take size).length = size := by
      rw [List.length_take]
      omega
    constructor
    case opened => exact ho
    case state => exact hstate
    case guard =>
      refine ⟨w.sock.toReadBuffer.unread.drop size,?_⟩
      change inspectFrame w.sock.status.streamState
        (w.sock.toReadBuffer.unread.take size ++ w.sock.toReadBuffer.unread.drop size) =
          .complete (w.sock.toReadBuffer.unread.take size).length
      rw [List.take_append_drop,hlen]
      exact hframe
    case command =>
      change AuthCmd.ofCode (byteAt (w.sock.toReadBuffer.unread.take size) 0) = some cmd
      rw [byteAt_take (by omega)]
      exact hcmd
    case outcome => rfl

theorem Ran.runs (h : Ran lib cfg e run) :
    (frameBody lib cfg run.cmd run.frame run.before.sock.toSession).Runs run.calls
      (run.result,run.after.sock.toSession) := by
  have hruns := Prog.exec_runs e
    (frameBody lib cfg run.cmd run.frame run.before.sock.toSession) run.before.env
  rwa [h.outcome] at hruns

theorem Ran.answered (h : Ran lib cfg e run) {call : Call} {reply : Reply call}
    (hmem : (⟨call,reply⟩ : AuthEvent) ∈ run.calls) :
    ∃ w ∈ run.instants lib cfg e, (e call w).1 = reply := by
  refine Prog.exec_answered e _ _ ?_
  rw [h.outcome]
  exact hmem

theorem Ran.inspect (h : Ran lib cfg e run) :
    ∃ more, run.cmd.inspect (run.frame ++ more) = .complete run.frame.length := by
  obtain ⟨more,hg⟩ := h.guard
  obtain ⟨cmd,size,hcmd,-,hinspect,hframe,hpos,-⟩ :=
    inspectFrame_complete (by rw [hg]; rfl)
  obtain rfl := FrameDecision.complete_inj (hframe.symm.trans hg)
  have hfirst : byteAt (run.frame ++ more) 0 = byteAt run.frame 0 :=
    byteAt_append more (by omega)
  rw [hfirst,h.command] at hcmd
  obtain rfl := Option.some.inj hcmd
  exact ⟨more,hinspect⟩

theorem Ran.challengeFrame (h : Ran lib cfg e run)
    (hc : run.cmd = .authLogonChallenge ∨ run.cmd = .authReconnectChallenge) :
    ∃ more, ChallengeFrame (run.frame ++ more) run.frame.length := by
  obtain ⟨more,hi⟩ := h.inspect
  refine ⟨more,?_⟩
  have hinspect : run.cmd.inspect (run.frame ++ more) =
      inspectChallenge (m := Id) (byteAt (run.frame ++ more)) (run.frame ++ more).length := by
    rcases hc with hc | hc <;> rw [hc] <;> rfl
  rw [hinspect] at hi
  obtain ⟨size,hframe,hsize⟩ := inspectChallenge_complete (by rw [hi]; rfl)
  obtain rfl := FrameDecision.complete_inj (hsize.symm.trans hi)
  exact hframe

theorem Ran.reconnectProof_length (h : Ran lib cfg e run)
    (hc : run.cmd = .authReconnectProof) : run.frame.length = 58 := by
  obtain ⟨more,hi⟩ := h.inspect
  rw [hc] at hi
  obtain ⟨-,-,hsize⟩ := inspectProof_complete (by
    change ((AuthCmd.authReconnectProof.inspect _).status) = _
    rw [hi]
    rfl)
  exact FrameDecision.complete_inj (hi.symm.trans hsize)

theorem Ran.commands {status : EStatus} (h : Ran lib cfg e run)
    (hs : run.before.sock.status = status) :
    match status with
    | .challenge => run.cmd = .authLogonChallenge ∨ run.cmd = .authReconnectChallenge
    | .logonProof => run.cmd = .authLogonProof
    | .reconProof => run.cmd = .authReconnectProof
    | .patch => run.cmd = .xferAccept ∨ run.cmd = .xferResume ∨ run.cmd = .xferCancel
    | .authed => run.cmd = .realmList
    | .closed => False := by
  have hstate := h.state
  rw [hs] at hstate
  cases status <;> cases hc : run.cmd <;>
    simp [hc,AuthCmd.streamState,EStatus.streamState] at hstate ⊢

theorem Ran.at_challenge (h : Ran lib cfg e run) (hs : run.before.sock.status = .challenge) :
    run.cmd = .authLogonChallenge ∧
        LogonChallengeSpec lib run.before.sock.toSession.closeStatus (run.frame ++ [0])
          run.calls (run.result,run.after.sock.toSession) ∨
      run.cmd = .authReconnectChallenge ∧
        ReconnectChallengeSpec lib run.before.sock.toSession.closeStatus (run.frame ++ [0])
          run.calls (run.result,run.after.sock.toSession) := by
  have hruns := h.runs
  rcases h.commands hs with hc | hc <;> rw [hc] at hruns
  · exact .inl ⟨hc,logonChallenge_runs hruns⟩
  · exact .inr ⟨hc,reconnectChallenge_runs hruns⟩

theorem Ran.at_logonProof (h : Ran lib cfg e run)
    (hs : run.before.sock.status = .logonProof) :
    run.cmd = .authLogonProof ∧ LogonProofSpec lib run.before.sock.toSession run.frame
      run.calls (run.result,run.after.sock.toSession) := by
  have hc : run.cmd = .authLogonProof := h.commands hs
  have hruns := h.runs
  rw [hc] at hruns
  exact ⟨hc,logonProof_runs hruns⟩

theorem Ran.at_reconProof (h : Ran lib cfg e run)
    (hs : run.before.sock.status = .reconProof) :
    run.cmd = .authReconnectProof ∧ ReconnectProofSpec lib run.before.sock.toSession run.frame
      run.calls (run.result,run.after.sock.toSession) := by
  have hc : run.cmd = .authReconnectProof := h.commands hs
  have hruns := h.runs
  rw [hc] at hruns
  exact ⟨hc,reconnectProof_runs hruns⟩

theorem Ran.at_authed (h : Ran lib cfg e run) (hs : run.before.sock.status = .authed) :
    run.cmd = .realmList ∧ run.before.sock.toSession.Quiet run.after.sock.toSession ∧
      Calls Harmless run.calls := by
  have hc : run.cmd = .realmList := h.commands hs
  have hruns := h.runs
  rw [hc] at hruns
  obtain ⟨hq,ht,-⟩ := realmList_runs hruns
  exact ⟨hc,hq,ht⟩

theorem Ran.at_patch (h : Ran lib cfg e run) (hs : run.before.sock.status = .patch) :
    (run.cmd = .xferAccept ∨ run.cmd = .xferResume ∨ run.cmd = .xferCancel) ∧
      Calls Streaming run.calls ∧
      (run.after.sock.status = .closed ∨
        run.after.sock.status = .patch ∧ run.after.sock.m_closed = true) := by
  have hstream : ∀ {offset : UInt64},
      (beginPatchStream run.before.sock.toSession offset).Runs run.calls
        (run.result,run.after.sock.toSession) →
      Calls Streaming run.calls ∧ (run.after.sock.status = .closed ∨
        run.after.sock.status = .patch ∧ run.after.sock.m_closed = true) := by
    intro offset hr
    obtain ⟨ht,hclosed,⟨-,hfail,hq⟩ | hq⟩ := beginPatchStream_runs hr
    · exact ⟨ht,.inr ⟨hq.status.trans hs,hclosed hfail⟩⟩
    · exact ⟨ht,.inl hq.status⟩
  have hruns := h.runs
  refine ⟨h.commands hs,?_⟩
  rcases h.commands hs with hc | hc | hc <;> rw [hc] at hruns
  · exact hstream hruns
  · exact hstream hruns
  · obtain ⟨-,hq,hclosed,ht⟩ := xferCancel_runs hruns
    exact ⟨ht,.inr ⟨hq.status.trans hs,hclosed⟩⟩

theorem EStatus.streamState_injective {status status' : EStatus}
    (h : status.streamState = status'.streamState) : status = status' := by
  cases status <;> cases status' <;> first | rfl | simp [EStatus.streamState] at h

theorem Ran.before_status {status : EStatus} (h : Ran lib cfg e run)
    (hc : run.cmd.streamState = some status.streamState) : run.before.sock.status = status :=
  EStatus.streamState_injective (Option.some.inj (h.state.symm.trans hc))

theorem Ran.of_realmList (h : Ran lib cfg e run) (hc : run.cmd = .realmList) :
    run.before.sock.status = .authed :=
  h.before_status (by rw [hc]; rfl)

theorem Ran.not_closed (h : Ran lib cfg e run) : run.before.sock.status ≠ .closed :=
  fun hs => h.commands hs

variable (lib cfg e)

/-- The handler calls that lead from one session state to another, with nothing but
quiet changes between them. -/
inductive Linked : Session → List (HandlerRun ω) → Session → Prop where
  | nil {s s' : Session} (hq : s.Quiet s') : Linked s [] s'
  | cons {s s' : Session} {run : HandlerRun ω} {rest : List (HandlerRun ω)}
      (hq : s.Quiet run.before.sock.toSession) (hran : Ran lib cfg e run)
      (hrest : Linked run.after.sock.toSession rest s') : Linked s (run :: rest) s'

variable {lib cfg e}

theorem Linked.quiet {s s' s'' : Session} {h : List (HandlerRun ω)}
    (hl : Linked lib cfg e s h s') (hq : s'.Quiet s'') : Linked lib cfg e s h s'' := by
  induction hl with
  | nil hq' => exact .nil (hq'.trans hq)
  | cons hq' hran _ ih => exact .cons hq' hran (ih hq)

theorem Linked.snoc {s s' : Session} {h : List (HandlerRun ω)}
    (hl : Linked lib cfg e s h s') (hran : Ran lib cfg e run)
    (hbefore : run.before.sock.toSession = s') :
    Linked lib cfg e s (h ++ [run]) run.after.sock.toSession := by
  induction hl with
  | nil hq => exact .cons (hbefore ▸ hq) hran (.nil (.refl _))
  | cons hq' hran' _ ih => exact .cons hq' hran' (ih hbefore)

theorem Linked.ran {s s' : Session} {h : List (HandlerRun ω)}
    (hl : Linked lib cfg e s h s') : ∀ run ∈ h, Ran lib cfg e run := by
  induction hl with
  | nil hq => simp
  | cons hq hran _ ih =>
    intro run hmem
    rcases List.mem_cons.mp hmem with rfl | htail
    · exact hran
    · exact ih run htail

/-- What holds of a history and the session it leads to, if it survives quiet changes
and every handler call. -/
theorem Linked.rule {P : List (HandlerRun ω) → Session → Prop}
    (hquiet : ∀ {h s s'}, Session.Quiet s s' → P h s → P h s')
    (hcall : ∀ {h run}, Ran lib cfg e run → P h run.before.sock.toSession →
      P (h ++ [run]) run.after.sock.toSession)
    {s s' : Session} {h : List (HandlerRun ω)} (hl : Linked lib cfg e s h s')
    (hs : P [] s) : P h s' := by
  have hmore : ∀ h₀, P h₀ s → P (h₀ ++ h) s' := by
    clear hs
    induction hl with
    | nil hq =>
      intro h₀ hp
      rw [List.append_nil]
      exact hquiet hq hp
    | cons hq hran _ ih =>
      intro h₀ hp
      have hnext := ih _ (hcall hran (hquiet hq hp))
      rwa [List.append_assoc] at hnext
  exact hmore [] hs

theorem Linked.split {s s' : Session} {pre post : List (HandlerRun ω)}
    (hl : Linked lib cfg e s (pre ++ run :: post) s') :
    Linked lib cfg e s pre run.before.sock.toSession ∧ Ran lib cfg e run ∧
      Linked lib cfg e run.after.sock.toSession post s' := by
  induction pre generalizing s with
  | nil =>
    obtain _ | ⟨hq,hran,hrest⟩ := hl
    exact ⟨.nil hq,hran,hrest⟩
  | cons first pre ih =>
    obtain _ | ⟨hq,hran,hrest⟩ := hl
    obtain ⟨hpre,hran',hpost⟩ := ih hrest
    exact ⟨.cons hq hran hpre,hran',hpost⟩

def Session.settings (s : Session) : Bytes × PatchPolicy × Bool :=
  (s.remote_address,s.patchPolicy,s.m_sender)

theorem Session.Quiet.settings {s s' : Session} (h : s.Quiet s') :
    s'.settings = s.settings := by
  rw [h.same]
  rfl

/-- What a handler leaves alone, unless the session is closed, admitted or offered a
patch. -/
def Session.fixed (s : Session) :
    (Bytes × PatchPolicy × Bool) × Option PatchArtifact × Bool × Deadline :=
  (s.settings,s.m_patchArtifact,s.m_closed,s.m_authDeadline)

theorem LogonChallengeSpec.origin {s : Session} {buf : Bytes} {t : List AuthEvent}
    {r : Bool × Session} (h : LogonChallengeSpec lib s buf t r) :
    ∃ s₀ : Session, s₀.Quiet r.2 ∧ s₀.fixed = s.fixed := by
  cases h with
  | badOs h => exact ⟨_,.refl _,rfl⟩
  | refused ht hq => exact ⟨_,hq,rfl⟩
  | expects ht row b s₁ hgates =>
    obtain ⟨t',hv,-⟩ := hgates.verifier
    refine ⟨_,hgates.expects,?_⟩
    cases hv <;> rfl

theorem ReconnectChallengeSpec.origin {s : Session} {buf : Bytes} {t : List AuthEvent}
    {r : Bool × Session} (h : ReconnectChallengeSpec lib s buf t r) :
    ∃ s₀ : Session, s₀.Quiet r.2 ∧ s₀.fixed = s.fixed := by
  cases h with
  | badOs h => exact ⟨_,.refl _,rfl⟩
  | unknown ht hc hq => exact ⟨_,hq,rfl⟩
  | expects sessionkey drawn ht hq => exact ⟨_,hq,rfl⟩

theorem LogonProofSpec.origin {s : Session} {lp : Bytes} {t : List AuthEvent}
    {r : Bool × Session} (h : LogonProofSpec lib s lp t r) :
    ∃ s₀ : Session, s₀.fixed = s.fixed ∧
      (s₀.closeStatus.Quiet r.2 ∨
        (∃ artifact, ⟨.openArtifact (patchFile s),some artifact⟩ ∈ t ∧
          ({ s₀ with m_patchArtifact := some artifact, status := .patch } :
            Session).deactivateAuthDeadline.Quiet r.2) ∨
        s₀.authenticate.Quiet r.2) := by
  cases h with
  | zeroA hA => exact ⟨s,rfl,.inl (.refl _)⟩
  | rejected hA hM ht hq => exact ⟨s.keyed lib lp,rfl,.inl hq⟩
  | accepted hA hM h =>
    cases h with
    | noArchive hpatch ht hq => exact ⟨s.keyed lib lp,rfl,.inl hq⟩
    | offered artifact hpatch ht₁ ht₂ ht₃ hq =>
      exact ⟨s.keyed lib lp,rfl,.inr (.inl ⟨artifact,List.mem_cons_self,hq⟩)⟩
    | unsupported hpatch hbuild ht hq => exact ⟨s.keyed lib lp,rfl,.inl hq⟩
    | published hpatch hbuild ht honce hq =>
      exact ⟨{ s.keyed lib lp with os := lib.escapeString s.os },rfl,.inr (.inr hq)⟩
    | unpublished ht hc hq =>
      exact ⟨{ s.keyed lib lp with os := lib.escapeString s.os },rfl,.inl hq⟩

theorem ReconnectProofSpec.origin {s : Session} {lp : Bytes} {t : List AuthEvent}
    {r : Bool × Session} (h : ReconnectProofSpec lib s lp t r) :
    s.closeStatus.Quiet r.2 ∨ s.closeStatus.authenticate.Quiet r.2 := by
  cases h with
  | missing h => exact .inl (.refl _)
  | mismatch hR ht hc hq => exact .inl hq
  | published hlogin hproof hK hR ht honce hq => exact .inr hq
  | unpublished hR ht hc hq => exact .inl hq

theorem Ran.settings (h : Ran lib cfg e run) :
    run.after.sock.toSession.settings = run.before.sock.toSession.settings := by
  have hruns := h.runs
  have hkept : ∀ {s₀ s : Session}, s₀.fixed = s.fixed →
      s₀.Quiet run.after.sock.toSession → s.settings = run.before.sock.toSession.settings →
        run.after.sock.toSession.settings = run.before.sock.toSession.settings := by
    intro s₀ s hfixed hq hs
    exact hq.settings.trans ((congrArg (·.1) hfixed).trans hs)
  cases hc : run.cmd <;> rw [hc] at hruns
  case authLogonChallenge =>
    obtain ⟨s₀,hq,hfixed⟩ := (logonChallenge_runs hruns).origin
    exact hkept hfixed hq rfl
  case authReconnectChallenge =>
    obtain ⟨s₀,hq,hfixed⟩ := (reconnectChallenge_runs hruns).origin
    exact hkept hfixed hq rfl
  case authLogonProof =>
    obtain ⟨s₀,hfixed,hq | ⟨artifact,-,hq⟩ | hq⟩ := (logonProof_runs hruns).origin <;>
      exact hq.settings.trans (congrArg (·.1) hfixed)
  case authReconnectProof =>
    obtain hq | hq := (reconnectProof_runs hruns).origin <;> exact hq.settings
  case realmList => exact (realmList_runs hruns).1.settings
  case xferAccept =>
    obtain ⟨-,-,⟨-,-,hq⟩ | hq⟩ := beginPatchStream_runs hruns <;> exact hq.settings
  case xferResume =>
    obtain ⟨-,-,⟨-,-,hq⟩ | hq⟩ := beginPatchStream_runs hruns <;> exact hq.settings
  case xferCancel => exact (xferCancel_runs hruns).2.1.settings
  case xferInitiate =>
    obtain ⟨-,hr⟩ := hruns
    rw [← (Prod.mk.inj hr).2]
  case xferData =>
    obtain ⟨-,hr⟩ := hruns
    rw [← (Prod.mk.inj hr).2]

theorem Linked.settings {s s' : Session} {h : List (HandlerRun ω)}
    (hl : Linked lib cfg e s h s') :
    ∀ run ∈ h, run.before.sock.toSession.settings = s.settings := by
  induction hl with
  | nil hq => simp
  | cons hq hran _ ih =>
    intro run hmem
    rcases List.mem_cons.mp hmem with rfl | htail
    · exact hq.settings
    · exact (ih run htail).trans (hran.settings.trans hq.settings)

theorem runInputs_linked (lib : SharedLibrary) (cfg : WrongPass) (e : AuthEnv ω)
    (inputs : List (Input ω)) (w : World ω) :
    Linked lib cfg e w.sock.toSession (runInputs lib cfg e inputs w).1
      (runInputs lib cfg e inputs w).2.sock.toSession := by
  have h := runInputs_rule lib cfg e (P := Linked lib cfg e w.sock.toSession)
    (fun hq hl => hl.quiet hq)
    (fun _ ho hcall hl => hl.snoc (hcall.ran ho) (by rw [hcall.before_eq]))
    inputs (h := []) (w := w) (.nil (.refl _))
  simpa using h

structure Connection (ω : Type) where
  surroundings : AuthEnv ω
  now : Nat
  authTimeout : Nat
  patchPolicy : PatchPolicy
  remote_address : Bytes
  env : ω
  inputs : List (Input ω)

def Connection.start (k : Connection ω) (lib : SharedLibrary) : World ω :=
  World.start lib k.now k.authTimeout k.patchPolicy k.remote_address k.env

def Connection.outcome (k : Connection ω) (lib : SharedLibrary) (cfg : WrongPass) :
    List (HandlerRun ω) × World ω :=
  runInputs lib cfg k.surroundings k.inputs (k.start lib)

theorem Connection.linked (k : Connection ω) (lib : SharedLibrary) (cfg : WrongPass) :
    Linked lib cfg k.surroundings (k.start lib).sock.toSession (k.outcome lib cfg).1
      (k.outcome lib cfg).2.sock.toSession :=
  runInputs_linked lib cfg k.surroundings k.inputs (k.start lib)

def Replies.connect (r : Replies) (inputs : List (Input Unit)) : Connection Unit :=
  ⟨r.env,0,30,⟨false,[]⟩,ascii "10.0.0.1",(),inputs⟩

def firstTwo (h : List (HandlerRun ω)) (test : HandlerRun ω → HandlerRun ω → Bool) : Bool :=
  match h with
  | c :: p :: _ => test c p
  | _ => false

theorem firstTwo_eq_true {h : List (HandlerRun ω)} {test : HandlerRun ω → HandlerRun ω → Bool}
    (htest : firstTwo h test = true) :
    ∃ c p rest, h = c :: p :: rest ∧ test c p = true := by
  unfold firstTwo at htest
  split at htest
  · exact ⟨_,_,_,rfl,htest⟩
  · contradiction

end

end Realmd
