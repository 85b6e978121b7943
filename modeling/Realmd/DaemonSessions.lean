import Realmd.AuthServer
set_option autoImplicit false

namespace Realmd
open ByteCodec Interaction

section
variable (lib : SharedLibrary) (cfg : WrongPass) {ω : Type} (e : AuthEnv ω)
  (authTimeout : Nat) (patchPolicy : PatchPolicy)

/-- What a step of the daemon is to one of its sockets: an input of its own, the time that
`Update` shows it, or a change of the surroundings. -/
def AuthServer.inputTo (i : Nat) (srv : AuthServer ω) : ServerStep ω → List (Input ω)
  | .accept _ _ => []
  | .input j inp =>
      if i = j then [inp]
      else match srv.live j with
        | none => []
        | some o => [.act (.elsewhere fun env => (o.input lib cfg e env inp).2.2)]
  | .destroy _ => []
  | .update now => [.act (.thread (.expireAuthentication now))]

def AuthServer.inputsTo (i : Nat) : List (ServerStep ω) → AuthServer ω → List (Input ω)
  | [], _ => []
  | act :: steps, srv =>
      srv.inputTo lib cfg e i act ++
        inputsTo i steps (srv.step lib cfg e authTimeout patchPolicy act)

end

section
variable {lib : SharedLibrary} {cfg : WrongPass} {ω : Type} {e : AuthEnv ω}
  {authTimeout : Nat} {patchPolicy : PatchPolicy} {srv : AuthServer ω} {i : Nat}

theorem AuthServer.run_append (steps steps' : List (ServerStep ω)) :
    srv.run lib cfg e authTimeout patchPolicy (steps ++ steps') =
      (srv.run lib cfg e authTimeout patchPolicy steps).run lib cfg e authTimeout patchPolicy
        steps' :=
  List.foldl_append

theorem AuthServer.inputsTo_append (steps steps' : List (ServerStep ω)) :
    srv.inputsTo lib cfg e authTimeout patchPolicy i (steps ++ steps') =
      srv.inputsTo lib cfg e authTimeout patchPolicy i steps ++
        (srv.run lib cfg e authTimeout patchPolicy steps).inputsTo lib cfg e authTimeout
          patchPolicy i steps' := by
  induction steps generalizing srv with
  | nil => rfl
  | cons act steps ih =>
    simp only [List.cons_append,inputsTo,ih,List.append_assoc]
    rfl

theorem AuthServer.expireAll_env (now : Nat) (ids : List Nat) :
    (expireAll now ids srv).env = srv.env := by
  induction ids generalizing srv with
  | nil => rfl
  | cons i rest ih => exact ih

theorem AuthServer.put_live_of {j : Nat} {o : LiveSocket ω} (h : srv.live j = some o)
    (next : Option (LiveSocket ω)) :
    (srv.put j next).live i = if j = i then next else srv.live i := by
  have hj : j < srv.objects.length := (List.getElem?_eq_some_iff.mp (live_eq_some.mp h)).1
  simp [put_live,hj]

/-- A socket that is live after a step was just accepted, or has run on its own on what
the step was to it. -/
theorem AuthServer.Sound.step_live (h : srv.Sound lib cfg e authTimeout patchPolicy)
    {act : ServerStep ω} {o' : LiveSocket ω}
    (hlive : (srv.step lib cfg e authTimeout patchPolicy act).live i = some o') :
    (∃ now remote_address, act = .accept now remote_address ∧ i = srv.objects.length ∧
      o' = ⟨now,remote_address,.fresh lib now authTimeout patchPolicy remote_address,[]⟩) ∨
    ∃ o runs, srv.live i = some o ∧ o'.history = o.history ++ runs ∧
      runInputs lib cfg e (srv.inputTo lib cfg e i act) ⟨o.sock,srv.env⟩ =
        (runs,⟨o'.sock,(srv.step lib cfg e authTimeout patchPolicy act).env⟩) := by
  cases act with
  | accept now remote_address =>
    rw [AuthServer.step,accept_live] at hlive
    split at hlive
    · rename_i hi
      exact .inl ⟨now,remote_address,rfl,hi,(Option.some.inj hlive).symm⟩
    · exact .inr ⟨o',[],hlive,(List.append_nil _).symm,rfl⟩
  | input j inp =>
    right
    cases hj : srv.live j with
    | none =>
      simp only [AuthServer.step,AuthServer.input,hj] at hlive
      have hne : i ≠ j := by
        rintro rfl
        simp [hj] at hlive
      refine ⟨o',[],hlive,(List.append_nil _).symm,?_⟩
      simp [inputTo,hne,hj,runInputs,AuthServer.step,AuthServer.input]
    | some o =>
      simp only [AuthServer.step,AuthServer.input,hj] at hlive
      change (srv.put j (some (o.input lib cfg e srv.env inp).2.1)).live i = some o' at hlive
      rw [put_live_of hj] at hlive
      split at hlive
      · rename_i hij
        obtain rfl := hij
        obtain rfl := Option.some.inj hlive
        refine ⟨o,_,hj,rfl,?_⟩
        simp [inputTo,runInputs,AuthServer.step,AuthServer.input,LiveSocket.input,hj]
      · rename_i hij
        refine ⟨o',[],hlive,(List.append_nil _).symm,?_⟩
        simp [inputTo,Ne.symm hij,runInputs,AuthServer.step,AuthServer.input,hj,inputStep,
          Act.apply]
  | destroy j =>
    right
    refine ⟨o',[],?_,(List.append_nil _).symm,?_⟩
    · simp only [AuthServer.step,AuthServer.destroy] at hlive
      cases hj : srv.live j with
      | none => simpa [hj] using hlive
      | some o =>
        simp only [hj] at hlive
        change (srv.put j none).live i = some o' at hlive
        rw [put_live_of hj] at hlive
        split at hlive
        · contradiction
        · exact hlive
    · simp only [AuthServer.step,AuthServer.destroy]
      split <;> rfl
  | update now =>
    right
    rw [AuthServer.step,h.update_live] at hlive
    obtain ⟨o,hi,rfl⟩ := Option.map_eq_some_iff.mp hlive
    refine ⟨o,[],hi,(List.append_nil _).symm,?_⟩
    simp only [AuthServer.step,AuthServer.update,expireAll_env]
    rfl

theorem runInputs_append (inputs inputs' : List (Input ω)) (w : World ω) :
    runInputs lib cfg e (inputs ++ inputs') w =
      ((runInputs lib cfg e inputs w).1 ++
          (runInputs lib cfg e inputs' (runInputs lib cfg e inputs w).2).1,
        (runInputs lib cfg e inputs' (runInputs lib cfg e inputs w).2).2) := by
  induction inputs generalizing w with
  | nil => rfl
  | cons inp inputs ih => simp [runInputs,ih,List.append_assoc]

end

/-- The daemon is its sessions side by side: whatever it accepts, is sent, expires and
destroys, every live socket has made the handler calls and is in the state of a single
session that ran on its own inputs from the moment it was accepted, over surroundings that
others change in between. -/
theorem sessions_run_alone (lib : SharedLibrary) (cfg : WrongPass) {ω : Type} (e : AuthEnv ω)
    (authTimeout : Nat) (patchPolicy : PatchPolicy) (steps : List (ServerStep ω)) (env : ω) :
    let daemon := fun steps => (AuthServer.idle env).run lib cfg e authTimeout patchPolicy steps
    ∀ i o, (daemon steps).live i = some o →
      ∃ before now remote_address after,
        steps = before ++ .accept now remote_address :: after ∧
        i = (daemon before).objects.length ∧
        runInputs lib cfg e
            ((daemon (before ++ [.accept now remote_address])).inputsTo lib cfg e authTimeout
              patchPolicy i after)
            (World.start lib now authTimeout patchPolicy remote_address (daemon before).env) =
          (o.history,⟨o.sock,(daemon steps).env⟩) := by
  intro daemon
  induction steps using List.reverseRecOn with
  | nil =>
    intro i o hlive
    simp [daemon,AuthServer.run,AuthServer.idle,AuthServer.live] at hlive
  | append_singleton steps act ih =>
    intro i o' hlive
    have hsound : (daemon steps).Sound lib cfg e authTimeout patchPolicy :=
      (AuthServer.idle_sound env).run steps
    have hstep : daemon (steps ++ [act]) =
        (daemon steps).step lib cfg e authTimeout patchPolicy act :=
      AuthServer.run_append steps [act]
    rw [hstep] at hlive ⊢
    rcases hsound.step_live hlive with ⟨now,remote_address,rfl,hi,rfl⟩ |
      ⟨o,runs,hlive',hhistory,hruns⟩
    · exact ⟨steps,now,remote_address,[],rfl,hi,rfl⟩
    · obtain ⟨before,now,remote_address,after,rfl,hi,hrun⟩ := ih i o hlive'
      refine ⟨before,now,remote_address,after ++ [act],by simp,hi,?_⟩
      have hdaemon : (daemon (before ++ [.accept now remote_address])).run lib cfg e
          authTimeout patchPolicy after =
            daemon (before ++ .accept now remote_address :: after) := by
        rw [List.append_cons before _ after]
        exact (AuthServer.run_append _ after).symm
      rw [AuthServer.inputsTo_append,runInputs_append,hrun,hdaemon]
      simp only [AuthServer.inputsTo,List.append_nil,hruns,hhistory]

end Realmd
