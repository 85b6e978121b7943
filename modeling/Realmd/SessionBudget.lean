import Realmd.History
import Realmd.ProgramLogic
set_option autoImplicit false

namespace Realmd
open ByteCodec Interaction

inductive Resource where
  | query
  | queued
  | update
  | draw
  | archive
  | transfer
  deriving DecidableEq, Repr

/-- What a call uses up; the queries a realm list needs are not among them. -/
def Call.resource : Call → Option Resource
  | .selectIpBanned _ | .selectAccount _ | .selectAccountBanned _ => some .query
  | .selectSessionKey _ | .selectFailedLogins _ => some .query
  | .pExecute _ => some .queued
  | .directPExecute _ => some .update
  | .setRand _ => some .draw
  | .openArtifact _ => some .archive
  | .spawnTransfer _ _ => some .transfer
  | _ => none

namespace Resource

def unit (r k : Resource) : Nat := if k = r then 1 else 0

def price (r : Resource) (c : Call) : Nat := c.resource.elim 0 r.unit

/-- What a session in a status can still use up. -/
def budget (r : Resource) : EStatus → Nat
  | .challenge =>
      match r with
      | .query => 4
      | .queued | .draw => 3
      | .update | .archive | .transfer => 1
  | .logonProof =>
      match r with
      | .queued => 2
      | .draw => 0
      | .query | .update | .archive | .transfer => 1
  | .reconProof => r.unit .update
  | .patch => r.unit .transfer
  | .authed | .closed => 0

def credit (r : Resource) (x : Bool × Session) : Nat := r.budget x.2.status

end Resource

section
variable {lib : SharedLibrary} {cfg : WrongPass} {s : Session} {r : Resource} {n : Nat}

theorem Session.send_free (s : Session) (bytes : Bytes) :
    (s.send bytes).Meets (fun c => r.price c = 0) s.Quiet :=
  s.send_meets (P := fun c => r.price c = 0) rfl bytes rfl

theorem Session.close_free (s : Session) :
    s.close.Meets (fun c => r.price c = 0) fun s' => s.Quiet s' ∧ s'.m_closed = true :=
  s.close_meets (P := fun c => r.price c = 0) rfl

theorem Session.answer_affords (hn : r.budget s.status ≤ n) (bytes : Bytes) (result : Bool) :
    (s.send bytes >>= fun s' => Prog.ret (result,s') : AuthProg (Bool × Session)).Affords
      r.price r.credit n := by
  refine Prog.Affords.bind (fun s' => r.budget s'.status)
    ((s.send_free bytes).affords ?_) fun s' => Nat.le_refl _
  intro s' hq
  rw [hq.status]
  exact hn

theorem Session.fail_affords (hn : r.budget s.status ≤ n) (result : Bool) :
    (s.close >>= fun s' => Prog.ret (result,s') : AuthProg (Bool × Session)).Affords
      r.price r.credit n := by
  refine Prog.Affords.bind (fun s' => r.budget s'.status)
    (s.close_free.affords ?_) fun s' => Nat.le_refl _
  intro s' hq
  rw [hq.1.status]
  exact hn

theorem takeVerifier_affords (row : AccountRow) :
    (takeVerifier lib s row).Affords r.price (fun _ => n) (r.unit .draw+(r.unit .queued+n)) := by
  unfold takeVerifier
  split
  · exact Prog.affords_ask (Nat.le_refl _) fun salt =>
      Prog.affords_ask (Nat.le_refl _) fun _ => Nat.le_refl _
  · change n ≤ _
    omega

theorem challengeAccount_affords (row : AccountRow) (clientLocale : Option Bytes) :
    (challengeAccount lib s row clientLocale >>= fun s' => Prog.ret (true,s') :
      AuthProg (Bool × Session)).Affords r.price r.credit
      (r.unit .draw+(r.unit .queued+(r.unit .draw+(r.unit .draw+r.budget .logonProof)))) := by
  refine Prog.Affords.bind (fun s' => r.budget s'.status)
    (Prog.Affords.bind _ (takeVerifier_affords row) fun s₁ => ?_) fun s' => Nat.le_refl _
  refine Prog.affords_ask (Nat.le_refl _) fun b =>
    Prog.affords_ask (Nat.le_refl _) fun unk3 => ?_
  refine ((s₁.expectProof lib b row clientLocale).send_free _).affords fun s' hq => ?_
  rw [hq.status]
  exact Nat.le_refl _

theorem logonChallenge_affords (hs : s.status = .closed) (buf : Bytes) :
    (logonChallenge lib s buf).Affords r.price r.credit (r.budget .challenge) := by
  have hrefuse : ∀ (s : Session) result n, s.status = .closed →
      (refuse s result).Affords r.price r.credit n := by
    intro s result n hclosed
    refine Session.answer_affords ?_ _ _
    rw [hclosed]
    exact Nat.zero_le _
  unfold logonChallenge
  simp only
  split
  · change r.budget s.status ≤ _
    rw [hs]
    exact Nat.zero_le _
  have hclaim : (s.claim lib (challengeFields buf)).status = .closed := hs
  generalize s.claim lib (challengeFields buf) = s₁ at hclaim
  unfold challengeGates
  refine Prog.affords_ask (m := r.unit .query+(r.unit .query+(r.unit .draw+(r.unit .queued+
    (r.unit .draw+(r.unit .draw+r.budget .logonProof)))))) ?_ fun banned => ?_
  · change r.unit .query+_ ≤ _
    cases r <;> decide
  cases banned with
  | some _ => exact hrefuse _ _ _ hclaim
  | none =>
    refine Prog.affords_ask (Nat.le_refl _) fun found => ?_
    cases found with
    | none => exact hrefuse _ _ _ hclaim
    | some row =>
      simp only [Prog.bind]
      split
      · exact hrefuse _ _ _ hclaim
      refine Prog.affords_ask (Nat.le_refl _) fun dates => ?_
      cases dates with
      | some _ => exact hrefuse _ _ _ hclaim
      | none => exact challengeAccount_affords row _

theorem challengeStoredKey_affords (sessionkey : Bytes) :
    (challengeStoredKey lib s sessionkey).Affords r.price (fun s' => r.budget s'.status)
      (r.unit .draw+r.budget .reconProof) := by
  refine Prog.affords_call (Nat.le_refl _) fun drawn => ?_
  refine (Session.send_free _ _).affords fun s' hq => ?_
  rw [hq.status]

theorem reconnectChallenge_affords (hs : s.status = .closed) (buf : Bytes) :
    (reconnectChallenge lib s buf).Affords r.price r.credit (r.budget .challenge) := by
  unfold reconnectChallenge
  simp only
  split
  · change r.budget s.status ≤ _
    rw [hs]
    exact Nat.zero_le _
  refine Prog.affords_call (m := r.unit .draw+r.budget .reconProof) ?_ fun found => ?_
  · change r.unit .query+_ ≤ _
    cases r <;> decide
  cases found with
  | none =>
    refine Session.fail_affords ?_ _
    change r.budget s.status ≤ _
    rw [hs]
    exact Nat.zero_le _
  | some sessionkey =>
    exact Prog.Affords.bind _ (challengeStoredKey_affords sessionkey) fun s' => Nat.le_refl _

theorem publish_affords (statement : Statement) (reply : Bytes) (hs : s.status = .closed)
    (hn : r.unit .update ≤ n) :
    (do
      let stored ← ask (.directPExecute statement)
      if stored then
        let s ← s.send reply
        let s ← { s with status := .authed }.deactivate
        let _ ← ask .countAuthed
        return (true,s)
      else return (false,← s.close) : AuthProg (Bool × Session)).Affords r.price r.credit n := by
  refine Prog.affords_call (m := 0) hn fun stored => ?_
  cases stored with
  | false =>
    refine Session.fail_affords ?_ _
    rw [hs]
    exact Nat.le_refl _
  | true =>
    refine Prog.Affords.bind (fun _ => 0)
      ((s.send_free reply).affords fun _ _ => Nat.le_refl _) fun s₁ => ?_
    have hdeactivate : (Session.deactivate { s₁ with status := .authed }).Meets
        (fun c => r.price c = 0)
        (Session.deactivateAuthDeadline { s₁ with status := .authed }).Quiet :=
      Session.deactivate_meets (P := fun c => r.price c = 0) rfl _
    refine Prog.Affords.bind (fun s' => r.budget s'.status)
      (hdeactivate.affords fun s₂ hq => ?_) fun s₂ => ?_
    · rw [hq.status]
      exact Nat.le_refl _
    · exact Prog.affords_call (Nat.le_of_eq (Nat.zero_add _)) fun _ => Nat.le_refl _

theorem offerPatch_affords (hs : s.status = .closed) :
    (offerPatch s).Affords r.price r.credit (r.unit .archive+r.budget .patch) := by
  refine Prog.affords_call (Nat.le_refl _) fun found => ?_
  cases found with
  | none =>
    refine Session.answer_affords ?_ _ _
    rw [hs]
    exact Nat.zero_le _
  | some artifact =>
    refine Prog.Affords.bind (fun _ => r.budget .patch)
      ((Session.send_free _ _).affords fun _ _ => Nat.le_refl _) fun s₁ => ?_
    refine Prog.Affords.bind (fun _ => r.budget .patch)
      ((s₁.send_free _).affords fun _ _ => Nat.le_refl _) fun s₂ => ?_
    have hdeactivate : (Session.deactivate { s₂ with status := .patch }).Meets
        (fun c => r.price c = 0)
        (Session.deactivateAuthDeadline { s₂ with status := .patch }).Quiet :=
      Session.deactivate_meets (P := fun c => r.price c = 0) rfl _
    refine Prog.Affords.bind (fun s' => r.budget s'.status)
      (hdeactivate.affords fun s₃ hq => ?_) fun s₃ => Nat.le_refl _
    rw [hq.status]
    exact Nat.le_refl _

theorem rejectLogon_affords (hs : s.status = .closed) :
    (rejectLogon lib cfg s).Affords r.price r.credit (r.budget .logonProof) := by
  refine Prog.Affords.bind (fun s' => r.budget s'.status+r.budget .logonProof)
    ((s.send_free _).affords fun s₁ hq => ?_) fun s₁ => ?_
  · rw [hq.status,hs]
    exact Nat.le_of_eq (Nat.zero_add _)
  split
  · refine Prog.affords_call (m := r.unit .query+(r.unit .queued+r.budget s₁.status)) ?_
      fun _ => ?_
    · change r.unit .queued+_ ≤ _
      have hpays : r.unit .queued+(r.unit .query+r.unit .queued) ≤ r.budget .logonProof := by
        cases r <;> decide
      omega
    refine Prog.affords_call (Nat.le_refl _) fun found => ?_
    cases found with
    | none => exact Nat.le_add_left _ _
    | some account =>
      simp only [judgeFailures]
      split
      · exact Prog.affords_ask (Nat.le_refl _) fun _ => Nat.le_refl _
      · exact Nat.le_add_left _ _
  · exact Nat.le_add_right _ _

theorem logonProof_affords (lp : Bytes) :
    (logonProof lib cfg s lp).Affords r.price r.credit (r.budget .logonProof) := by
  unfold logonProof
  simp only
  split
  · exact Nat.zero_le _
  split
  · unfold acceptLogon
    simp only
    split
    · refine (offerPatch_affords rfl).more ?_
      cases r <;> decide
    split
    · exact Session.answer_affords (Nat.zero_le _) _ _
    · refine publish_affords _ _ rfl ?_
      cases r <;> decide
  · exact rejectLogon_affords rfl

theorem reconnectProof_affords (lp : Bytes) :
    (reconnectProof lib s lp).Affords r.price r.credit (r.budget .reconProof) := by
  unfold reconnectProof
  simp only
  split
  · exact Nat.zero_le _
  split
  · exact publish_affords _ _ rfl (Nat.le_refl _)
  · exact Session.fail_affords (Nat.zero_le _) _

theorem beginPatchStream_affords (hs : s.status = .patch) (offset : UInt64) :
    (beginPatchStream s offset).Affords r.price r.credit (r.budget .patch) := by
  unfold beginPatchStream
  split
  · refine Session.fail_affords ?_ _
    rw [hs]
  · rename_i artifact _
    refine Prog.Affords.bind (fun _ => 0) ?_ fun ok => ?_
    · unfold beginPatchStream.startPatchTransfer
      split
      · exact Nat.zero_le _
      split
      · exact Nat.zero_le _
      refine Prog.affords_call (Nat.le_of_eq (Nat.zero_add _)) fun sought => ?_
      cases sought with
      | false => exact Nat.zero_le _
      | true => exact Prog.affords_call (m := 0) (Nat.le_refl _) fun _ => Nat.le_refl _
    · cases ok with
      | true => exact Nat.le_refl _
      | false => exact Session.fail_affords (Nat.zero_le _) _

theorem realmList_affords (hs : s.status = .authed) :
    (realmList lib s).Affords r.price r.credit (r.budget .authed) := by
  refine (realmList_meets (P := fun c => r.price c = 0) rfl s rfl rfl rfl
    (fun _ _ => rfl) fun _ => rfl).affords fun x hx => ?_
  rw [Resource.credit,hx.1.status,hs]

theorem Ran.affords {ω : Type} {e : AuthEnv ω} {run : HandlerRun ω}
    (h : Ran lib cfg e run) :
    (frameBody lib cfg run.cmd run.frame run.before.sock.toSession).Affords r.price r.credit
      (r.budget run.before.sock.status) := by
  obtain ⟨status,hs⟩ : ∃ status, run.before.sock.status = status := ⟨_,rfl⟩
  have hcommands := h.commands hs
  rw [hs]
  cases status with
  | challenge =>
    rcases hcommands with hcmd | hcmd <;> rw [hcmd]
    · exact logonChallenge_affords rfl _
    · exact reconnectChallenge_affords rfl _
  | logonProof =>
    rw [hcommands]
    exact logonProof_affords _
  | reconProof =>
    rw [hcommands]
    exact reconnectProof_affords _
  | patch =>
    rcases hcommands with hcmd | hcmd | hcmd <;> rw [hcmd]
    · exact beginPatchStream_affords hs _
    · exact beginPatchStream_affords hs _
    · refine Session.fail_affords ?_ _
      rw [hs]
  | authed =>
    rw [hcommands]
    exact realmList_affords hs
  | closed => exact hcommands.elim

theorem Linked.affords {ω : Type} {e : AuthEnv ω} {s s' : Session} {h : List (HandlerRun ω)}
    (hl : Linked lib cfg e s h s') (r : Resource) :
    spent r.price (h.flatMap (·.calls))+r.budget s'.status ≤ r.budget s.status := by
  refine hl.rule (P := fun h s' => spent r.price (h.flatMap (·.calls))+r.budget s'.status ≤
    r.budget s.status) ?_ ?_ (by simp [spent])
  · intro h s₁ s₂ hq hp
    rw [hq.status]
    exact hp
  · intro h run hran hp
    have hrun : spent r.price run.calls+r.budget run.after.sock.status ≤
        r.budget run.before.sock.status := hran.affords.runs hran.runs
    rw [List.flatMap_append,spent_append,List.flatMap_singleton]
    omega

/-- However long a connection lasts, whatever it sends and whatever other threads do, it
costs at most four queries about its account, three queued statements, one update, three
draws, one archive and one transfer, and at any time what it has used up leaves the budget of
its status. -/
theorem connection_costs_bounded (lib : SharedLibrary) (cfg : WrongPass) {ω : Type}
    (e : AuthEnv ω) (inputs : List (Input ω)) (now authTimeout : Nat)
    (patchPolicy : PatchPolicy) (remote_address : Bytes) (env : ω) (r : Resource) :
    let out := runInputs lib cfg e inputs
      (World.start lib now authTimeout patchPolicy remote_address env)
    spent r.price (out.1.flatMap (·.calls))+r.budget out.2.sock.status ≤
      r.budget .challenge := by
  intro out
  have hlinked : Linked lib cfg e _ out.1 out.2.sock.toSession :=
    runInputs_linked lib cfg e inputs
      (World.start lib now authTimeout patchPolicy remote_address env)
  exact hlinked.affords r

end

end Realmd
