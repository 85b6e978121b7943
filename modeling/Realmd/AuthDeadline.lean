import Realmd.AuthServer
set_option autoImplicit false

namespace Realmd
open ByteCodec Interaction

/-- The session has proved who it is: it is authenticated, or was offered a patch. -/
def Session.admitted (s : Session) : Bool := s.status == .authed || s.status == .patch

section
variable {lib : SharedLibrary} {cfg : WrongPass} {ω : Type} {e : AuthEnv ω}
  {run : HandlerRun ω}

theorem Session.Quiet.admitted {s s' : Session} (h : s.Quiet s') :
    s'.admitted = s.admitted := by
  rw [Session.admitted,h.status]
  rfl

def Session.clock (s : Session) : Bool × Deadline := (s.m_closed,s.m_authDeadline)

/-- What a handler call does to the deadline: admission puts it out, and without one
nothing but a close does. -/
inductive DeadlineStep (run : HandlerRun ω) : Prop where
  | kept {s : Session} (hq : s.Quiet run.after.sock.toSession)
      (hclock : s.clock = run.before.sock.toSession.clock)
      (hadmitted : run.after.sock.toSession.admitted = true →
        run.before.sock.toSession.admitted = true)
  | admitted {s : Session} (hq : s.Quiet run.after.sock.toSession)
      (hclock : s.clock = run.before.sock.toSession.deactivateAuthDeadline.clock)
      (hadmitted : run.after.sock.toSession.admitted = true)

theorem DeadlineStep.unadmitted {s : Session} (hq : s.Quiet run.after.sock.toSession)
    (hclock : s.clock = run.before.sock.toSession.clock)
    (hs : run.after.sock.toSession.admitted = false) : DeadlineStep run :=
  .kept hq hclock (by simp [hs])

theorem Ran.deadlineStep (h : Ran lib cfg e run) : DeadlineStep run := by
  have hruns := h.runs
  cases hs : run.before.sock.status with
  | challenge =>
    have hafter : run.after.sock.toSession.admitted = false := by
      unfold Session.admitted
      obtain ⟨-,hc | hc | hc⟩ := h.challenged hs
      · rw [hc]
        rfl
      · rw [hc.status]
        rfl
      · rw [hc.status]
        rfl
    rcases h.at_challenge hs with ⟨-,hspec⟩ | ⟨-,hspec⟩
    · obtain ⟨s₀,hq,hfixed⟩ := hspec.origin
      exact .unadmitted hq (congrArg (·.2.2) hfixed) hafter
    · obtain ⟨s₀,hq,hfixed⟩ := hspec.origin
      exact .unadmitted hq (congrArg (·.2.2) hfixed) hafter
  | logonProof =>
    obtain ⟨-,hspec⟩ := h.at_logonProof hs
    obtain ⟨s₀,hfixed,hq | ⟨artifact,-,hq⟩ | hq⟩ := hspec.origin
    · exact .unadmitted hq (congrArg (·.2.2) hfixed) (by rw [hq.admitted]; rfl)
    · refine .admitted hq ?_ (by rw [hq.admitted]; rfl)
      exact congrArg (fun f => (f.2.2.1,f.2.2.2.deactivate)) hfixed
    · refine .admitted hq ?_ (by rw [hq.admitted]; rfl)
      exact congrArg (fun f => (f.2.2.1,f.2.2.2.deactivate)) hfixed
  | reconProof =>
    obtain hq | hq := (h.at_reconProof hs).2.origin
    · exact .unadmitted hq rfl (by rw [hq.admitted]; rfl)
    · exact .admitted hq rfl (by rw [hq.admitted]; rfl)
  | patch =>
    have hbefore : run.before.sock.toSession.admitted = true := by
      rw [Session.admitted,hs]
      rfl
    obtain ⟨hc | hc | hc,-,-⟩ := h.at_patch hs <;> rw [hc] at hruns
    · obtain ⟨-,-,⟨-,-,hq⟩ | hq⟩ := beginPatchStream_runs hruns
      · exact .kept hq rfl fun _ => hbefore
      · exact .kept hq rfl fun _ => hbefore
    · obtain ⟨-,-,⟨-,-,hq⟩ | hq⟩ := beginPatchStream_runs hruns
      · exact .kept hq rfl fun _ => hbefore
      · exact .kept hq rfl fun _ => hbefore
    · exact .kept (xferCancel_runs hruns).2.1 rfl fun _ => hbefore
  | authed =>
    obtain ⟨-,hq,-⟩ := h.at_authed hs
    refine .kept hq rfl fun _ => ?_
    rw [Session.admitted,hs]
    rfl
  | closed => exact absurd hs h.not_closed

def everAdmitted (h : List (HandlerRun ω)) (s : Session) : Bool :=
  (sessionStates h s).any Session.admitted

theorem everAdmitted_quiet {h : List (HandlerRun ω)} {s s' : Session} (hq : s.Quiet s') :
    everAdmitted h s' = everAdmitted h s := by
  simp [everAdmitted,sessionStates,hq.admitted]

theorem everAdmitted_snoc (h : List (HandlerRun ω)) :
    everAdmitted (h ++ [run]) run.after.sock.toSession =
      (everAdmitted h run.before.sock.toSession || run.after.sock.toSession.admitted) := by
  simp [everAdmitted,sessionStates,Bool.or_assoc]

structure DeadlineOf (start timeout : Nat) (h : List (HandlerRun ω)) (s : Session) :
    Prop where
  deadline : s.m_authDeadline.deadline = start+timeout
  active : s.m_authDeadline.active =
    (decide (0 < timeout) && !s.m_closed && !everAdmitted h s)

variable {start timeout : Nat} {h : List (HandlerRun ω)}

theorem DeadlineOf.quiet {s s' : Session} (hq : s.Quiet s')
    (hd : DeadlineOf start timeout h s) : DeadlineOf start timeout h s' := by
  rcases hq.deadline with ⟨hc,hsame⟩ | ⟨hc,hoff⟩
  · constructor
    · rw [hsame]
      exact hd.deadline
    · rw [hsame,hc,everAdmitted_quiet hq]
      exact hd.active
  · constructor
    · rw [hoff]
      exact hd.deadline
    · simp [hoff,hc,Deadline.deactivate]

theorem DeadlineOf.ran (hran : Ran lib cfg e run)
    (hd : DeadlineOf start timeout h run.before.sock.toSession) :
    DeadlineOf start timeout (h ++ [run]) run.after.sock.toSession := by
  have hever : ∀ {s : Session}, s.Quiet run.after.sock.toSession →
      everAdmitted (h ++ [run]) s = (everAdmitted h run.before.sock.toSession ||
        run.after.sock.toSession.admitted) :=
    fun hq => (everAdmitted_quiet hq).symm.trans (everAdmitted_snoc h)
  cases hran.deadlineStep with
  | @kept s hq hclock hadmitted =>
    obtain ⟨hclosed,hdeadline⟩ := Prod.mk.inj hclock
    have hsame : everAdmitted (h ++ [run]) s = everAdmitted h run.before.sock.toSession := by
      rw [hever hq]
      cases hb : run.before.sock.toSession.admitted with
      | true => simp [everAdmitted,sessionStates,hb]
      | false =>
        have hafter : run.after.sock.toSession.admitted = false := by
          cases ha : run.after.sock.toSession.admitted with
          | false => rfl
          | true => simp [hadmitted ha] at hb
        rw [hafter,Bool.or_false]
    refine DeadlineOf.quiet hq ⟨?_,?_⟩
    · rw [hdeadline]
      exact hd.deadline
    · rw [hdeadline,hclosed,hsame]
      exact hd.active
  | @admitted s hq hclock hadmitted =>
    obtain ⟨hclosed,hdeadline⟩ := Prod.mk.inj hclock
    refine DeadlineOf.quiet hq ⟨?_,?_⟩
    · rw [hdeadline]
      exact hd.deadline
    · rw [hdeadline,hever hq,hadmitted]
      simp [Session.deactivateAuthDeadline,Deadline.deactivate]

end

section
variable (lib : SharedLibrary) (cfg : WrongPass) {ω : Type} (e : AuthEnv ω)
  (authTimeout : Nat) (patchPolicy : PatchPolicy)

end

end Realmd
