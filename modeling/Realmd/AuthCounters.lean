import Realmd.AuthServer
set_option autoImplicit false

namespace Realmd
open ByteCodec Interaction

section
variable {lib : SharedLibrary} {cfg : WrongPass} {s : Session} {t : List AuthEvent}
  {r : Bool × Session}

theorem countedAuthed_append (t t' : List AuthEvent) :
    countedAuthed (t ++ t') = countedAuthed t+countedAuthed t' :=
  List.countP_append

def Session.asAuthed (s : Session) : Nat := if s.status = .authed then 1 else 0

theorem Session.Quiet.asAuthed {s s' : Session} (h : s.Quiet s') :
    s'.asAuthed = s.asAuthed := by
  rw [Session.asAuthed,h.status]
  rfl

theorem countedAuthed_none {p : Call → Prop} (h : Calls p t) (hp : ¬ p .countAuthed) :
    countedAuthed t = 0 := by
  rw [countedAuthed,List.countP_eq_zero]
  intro ev hmem
  rw [decide_eq_true_eq]
  intro hc
  exact hp (hc ▸ h ev hmem)

theorem countedAuthed_sending {bytes : Bytes} (h : Calls (Sending bytes) t) :
    countedAuthed t = 0 :=
  countedAuthed_none h (by rintro (hc | hc) <;> cases hc)

theorem countedAuthed_otherThreads (h : Calls (· = .otherThreads) t) :
    countedAuthed t = 0 :=
  countedAuthed_none h nofun

theorem publish_counts {statement : Statement} {reply : Bytes}
    (h : (do
      let stored ← ask (.directPExecute statement)
      if stored then
        let s ← s.send reply
        let s ← { s with status := .authed }.deactivate
        let _ ← ask .countAuthed
        return (true,s)
      else return (false,← s.close) : AuthProg (Bool × Session)).Runs t r)
    (hs : s.status ≠ .authed) : countedAuthed t = r.2.asAuthed := by
  obtain ⟨stored,t',rfl,h⟩ := h
  have hfirst : countedAuthed (⟨.directPExecute statement,stored⟩ :: t') =
      countedAuthed t' := by
    simp [countedAuthed]
  rw [hfirst]
  cases stored with
  | true =>
    have hlast : (do
      let s ← s.send reply
      let s ← { s with status := .authed }.deactivate
      let _ ← ask .countAuthed
      return (true,s) : AuthProg (Bool × Session)).Runs t' r := h
    obtain ⟨t₁,t₂,s₁,rfl,hsend,h⟩ := Prog.runs_bind.mp hlast
    obtain ⟨t₃,t₄,s₂,rfl,hdeact,_,t₅,rfl,rfl,rfl⟩ := Prog.runs_bind.mp h
    obtain ⟨hq,ht₃⟩ := Session.deactivate_runs hdeact
    rw [countedAuthed_append,countedAuthed_append,
      countedAuthed_sending (Session.send_runs hsend).2,countedAuthed_otherThreads ht₃,
      hq.asAuthed]
    rfl
  | false =>
    obtain ⟨-,hq,-,ht⟩ := Session.close_runs h
    rw [countedAuthed_otherThreads ht,hq.asAuthed,Session.asAuthed,if_neg hs]

theorem offerPatch_counts (h : (offerPatch s).Runs t r) (hs : s.status ≠ .authed) :
    countedAuthed t = r.2.asAuthed := by
  have hmeets : (offerPatch s).Meets (· ≠ .countAuthed) fun r => r.2.status ≠ .authed := by
    refine ⟨nofun,fun found => ?_⟩
    cases found with
    | none =>
      refine (s.send_meets nofun _ nofun).bind fun s' hq => ?_
      change s'.status ≠ .authed
      rw [hq.status]
      exact hs
    | some artifact =>
      refine (Session.send_meets nofun _ _ nofun).bind fun s₁ hq₁ => ?_
      refine (Session.send_meets nofun _ _ nofun).bind fun s₂ hq₂ => ?_
      refine (Session.deactivate_meets nofun _).bind fun s₃ hq₃ => ?_
      change s₃.status ≠ .authed
      rw [hq₃.status]
      nofun
  obtain ⟨ht,hstatus⟩ := hmeets.runs h
  have hcalls : Calls (· ≠ .countAuthed) t := ht
  rw [countedAuthed_none hcalls fun hc => hc rfl,Session.asAuthed,if_neg hstatus]

theorem logonProof_counts {lp : Bytes} (h : (logonProof lib cfg s lp).Runs t r) :
    countedAuthed t = r.2.asAuthed := by
  unfold logonProof at h
  simp only at h
  split at h
  · obtain ⟨rfl,rfl⟩ := h
    rfl
  split at h
  · unfold acceptLogon at h
    simp only at h
    split at h
    · exact offerPatch_counts h nofun
    split at h
    · obtain ⟨-,hq,ht⟩ := Session.answer_runs h
      rw [countedAuthed_sending ht,hq.asAuthed]
      rfl
    · exact publish_counts h nofun
  · obtain ⟨-,hq,ht⟩ := rejectLogon_runs h
    rw [countedAuthed_none ht id,hq.asAuthed]
    rfl

theorem reconnectProof_counts {lp : Bytes} (h : (reconnectProof lib s lp).Runs t r) :
    countedAuthed t = r.2.asAuthed := by
  unfold reconnectProof at h
  simp only at h
  split at h
  · obtain ⟨rfl,rfl⟩ := h
    rfl
  split at h
  · exact publish_counts h nofun
  · obtain ⟨-,hq,-,ht⟩ := Session.close_runs h
    rw [countedAuthed_otherThreads ht,hq.asAuthed]
    rfl

end

section
variable {lib : SharedLibrary} {cfg : WrongPass} {ω : Type} {e : AuthEnv ω}
  {run : HandlerRun ω}

/-- A handler call counts its session exactly when it becomes authenticated. -/
theorem Ran.counts (h : Ran lib cfg e run) :
    countedAuthed run.calls+run.before.sock.toSession.asAuthed =
      run.after.sock.toSession.asAuthed := by
  have hruns := h.runs
  have hbefore : run.before.sock.status ≠ .authed →
      run.before.sock.toSession.asAuthed = 0 := fun hne => if_neg hne
  cases hs : run.before.sock.status with
  | challenge =>
    have hafter : run.after.sock.toSession.asAuthed = 0 := by
      refine if_neg ?_
      obtain ⟨-,hc | hc | hc⟩ := h.challenged hs
      · rw [hc]
        nofun
      · rw [hc.status]
        nofun
      · rw [hc.status]
        nofun
    rw [hbefore (by rw [hs]; nofun),hafter]
    rcases h.at_challenge hs with ⟨-,hspec⟩ | ⟨-,hspec⟩
    · exact countedAuthed_none hspec.harmless id
    · exact countedAuthed_none hspec.harmless id
  | logonProof =>
    rw [(h.at_logonProof hs).1] at hruns
    rw [hbefore (by rw [hs]; nofun),Nat.add_zero]
    exact logonProof_counts hruns
  | reconProof =>
    rw [(h.at_reconProof hs).1] at hruns
    rw [hbefore (by rw [hs]; nofun),Nat.add_zero]
    exact reconnectProof_counts hruns
  | patch =>
    obtain ⟨-,ht,hafter⟩ := h.at_patch hs
    have hne : run.after.sock.toSession.asAuthed = 0 := by
      refine if_neg ?_
      rcases hafter with hc | ⟨hp,-⟩
      · rw [hc]
        nofun
      · rw [hp]
        nofun
    rw [hbefore (by rw [hs]; nofun),hne]
    exact countedAuthed_none (ht.mono fun _ => Streaming.harmless) id
  | authed =>
    obtain ⟨-,hq,ht⟩ := h.at_authed hs
    rw [countedAuthed_none ht id,Nat.zero_add,hq.asAuthed]
  | closed => exact absurd hs h.not_closed

def timesCounted (h : List (HandlerRun ω)) : Nat := countedAuthed (h.flatMap (·.calls))

theorem timesCounted_append (h h' : List (HandlerRun ω)) :
    timesCounted (h ++ h') = timesCounted h+timesCounted h' := by
  rw [timesCounted,List.flatMap_append,countedAuthed_append]
  rfl

theorem Linked.timesCounted_eq {s s' : Session} {h : List (HandlerRun ω)}
    (hl : Linked lib cfg e s h s') (hs : s.asAuthed = 0) : timesCounted h = s'.asAuthed := by
  refine hl.rule (P := fun h x => timesCounted h = x.asAuthed) ?_ ?_ hs.symm
  · intro h s s' hq hp
    rw [hq.asAuthed]
    exact hp
  · intro h run hran hp
    rw [timesCounted_append,hp,← hran.counts]
    simp [timesCounted,Nat.add_comm]

end

section
variable {ω : Type} {srv : AuthServer ω} {i : Nat}

def AuthServer.liveCount (srv : AuthServer ω) : Nat := srv.objects.countP Option.isSome

def AuthServer.authedCount (srv : AuthServer ω) : Nat :=
  srv.objects.countP fun o => o.any fun o => decide (o.sock.status = .authed)

theorem countP_set {α : Type} {l : List α} {i : Nat} {a : α} (p : α → Bool) (b : α)
    (h : l[i]? = some a) :
    (l.set i b).countP p+(if p a then 1 else 0) = l.countP p+(if p b then 1 else 0) := by
  induction l generalizing i with
  | nil => simp at h
  | cons x l ih =>
    cases i with
    | zero =>
      obtain rfl : x = a := by simpa using h
      simp only [List.set_cons_zero,List.countP_cons]
      omega
    | succ i =>
      have htail := ih (i := i) (by simpa using h)
      simp only [List.set_cons_succ,List.countP_cons]
      omega

theorem AuthServer.expireAll_countP {p : Option (LiveSocket ω) → Bool} (now : Nat)
    (hp : ∀ o, p (o.map (·.expireAuthentication now)) = p o) (ids : List Nat) :
    (expireAll now ids srv).objects.countP p = srv.objects.countP p := by
  induction ids generalizing srv with
  | nil => rfl
  | cons i rest ih =>
    rw [expireAll,ih]
    cases hobject : srv.objects[i]? with
    | none =>
      have hlen : srv.objects.length ≤ i := List.getElem?_eq_none_iff.mp hobject
      simp only [put,List.set_eq_of_length_le hlen]
    | some o =>
      have hlive : srv.live i = o := by
        rw [live,hobject]
        rfl
      have hcount := countP_set p (o.map (·.expireAuthentication now)) hobject
      rw [hp] at hcount
      rw [hlive]
      exact Nat.add_right_cancel hcount

theorem AuthServer.expireAll_counters (srv : AuthServer ω) (now : Nat) (ids : List Nat) :
    (expireAll now ids srv).s_connections = srv.s_connections ∧
      (expireAll now ids srv).s_authed = srv.s_authed := by
  induction ids generalizing srv with
  | nil => exact ⟨rfl,rfl⟩
  | cons i rest ih => exact ih _

end

section
variable {lib : SharedLibrary} {cfg : WrongPass} {ω : Type} {e : AuthEnv ω}
  {authTimeout : Nat} {patchPolicy : PatchPolicy} {srv : AuthServer ω}

/-- Both counters show the live sockets they count. -/
structure AuthServer.Counted (srv : AuthServer ω) : Prop where
  connections : srv.s_connections = UInt32.ofNat srv.liveCount
  authed : srv.s_authed = UInt32.ofNat srv.authedCount

theorem AuthServer.put_counts {i : Nat} {o : LiveSocket ω} (h : srv.live i = some o)
    (o' : Option (LiveSocket ω)) :
    (srv.put i o').liveCount+1 = srv.liveCount+(if o'.isSome then 1 else 0) ∧
      (srv.put i o').authedCount+o.sock.toSession.asAuthed =
        srv.authedCount+o'.elim 0 (·.sock.toSession.asAuthed) := by
  have hobject := live_eq_some.mp h
  have hlive := countP_set Option.isSome o' hobject
  have hauthed := countP_set (fun o : Option (LiveSocket ω) =>
    o.any fun o => decide (o.sock.status = .authed)) o' hobject
  refine ⟨hlive,?_⟩
  cases o' with
  | none => simpa [Session.asAuthed,authedCount,put] using hauthed
  | some o' => simpa [Session.asAuthed,authedCount,put] using hauthed

theorem AuthServer.Counted.step (hsound : srv.Sound lib cfg e authTimeout patchPolicy)
    (h : srv.Counted) (act : ServerStep ω) :
    (srv.step lib cfg e authTimeout patchPolicy act).Counted := by
  cases act with
  | accept now remote_address =>
    constructor
    · simp [AuthServer.step,accept,liveCount,h.connections,UInt32.ofNat_add]
    · simp [AuthServer.step,accept,authedCount,h.authed,AuthSocket.fresh]
  | input i inp =>
    simp only [AuthServer.step,AuthServer.input]
    cases hi : srv.live i with
    | none => exact h
    | some o =>
      have hcounted := (hsound.linked hi).timesCounted_eq rfl
      have hcounted' := (inputStep_linked (w := ⟨o.sock,srv.env⟩) (hsound.linked hi)
        inp).timesCounted_eq rfl
      rw [timesCounted_append,hcounted] at hcounted'
      obtain ⟨hlive,hauthed⟩ :=
        put_counts hi (some (o.input lib cfg e srv.env inp).2.1)
      constructor
      · refine h.connections.trans (congrArg UInt32.ofNat ?_)
        exact (Nat.add_right_cancel hlive).symm
      · have htotal : (srv.put i (some (o.input lib cfg e srv.env inp).2.1)).authedCount =
            srv.authedCount+timesCounted (o.input lib cfg e srv.env inp).1 := by
          have hnew : (o.input lib cfg e srv.env inp).2.1.sock.toSession.asAuthed =
              o.sock.toSession.asAuthed+timesCounted (o.input lib cfg e srv.env inp).1 :=
            hcounted'.symm
          simp only [Option.elim_some] at hauthed
          omega
        change srv.s_authed+_ = UInt32.ofNat (srv.put i _).authedCount
        rw [htotal,UInt32.ofNat_add,h.authed]
        rfl
  | destroy i =>
    simp only [AuthServer.step,AuthServer.destroy]
    cases hi : srv.live i with
    | none => exact h
    | some o =>
      obtain ⟨hlive,hauthed⟩ := put_counts hi none
      simp only [Option.isSome_none,Bool.false_eq_true,if_false,Option.elim_none,
        Nat.add_zero] at hlive hauthed
      constructor
      · change srv.s_connections-1 = UInt32.ofNat (srv.put i none).liveCount
        rw [h.connections,← hlive]
        simp [UInt32.ofNat_add]
      · change (if o.sock.status = .authed then srv.s_authed-1 else srv.s_authed) =
          UInt32.ofNat (srv.put i none).authedCount
        rw [h.authed,← hauthed,Session.asAuthed]
        split <;> simp [UInt32.ofNat_add]
  | update now =>
    simp only [AuthServer.step,AuthServer.update]
    obtain ⟨hconnections,hauthed⟩ := expireAll_counters { srv with
      sockets := (lockSockets (fun i => (srv.live i).isSome) srv.sockets).2 } now
      (lockSockets (fun i => (srv.live i).isSome) srv.sockets).1
    constructor
    · rw [hconnections,liveCount,expireAll_countP now (fun o => by cases o <;> rfl)]
      exact h.connections
    · rw [hauthed,authedCount,expireAll_countP now]
      · exact h.authed
      · intro o
        cases o with
        | none => rfl
        | some o =>
          have hq := o.sock.toSession.suffer_quiet (.expireAuthentication now)
          simp [LiveSocket.expireAuthentication,← hq.status,Session.suffer]

theorem AuthServer.Counted.run (hsound : srv.Sound lib cfg e authTimeout patchPolicy)
    (h : srv.Counted) (steps : List (ServerStep ω)) :
    (srv.run lib cfg e authTimeout patchPolicy steps).Counted := by
  induction steps generalizing srv with
  | nil => exact h
  | cons act steps ih => exact ih (hsound.step act) (h.step hsound act)

theorem AuthServer.authedCount_le (srv : AuthServer ω) : srv.authedCount ≤ srv.liveCount := by
  refine List.countP_mono_left fun o _ hauthed => ?_
  cases o with
  | none => simp at hauthed
  | some o => rfl

end

/-- Over any steps of the daemon both counters show, in 32 bits, the number of live
sockets and of live authenticated ones; no session is ever counted twice; and as long
as the live sockets can be counted in 32 bits the counters are these numbers themselves
and no destructor finds a zero. -/
theorem counters_show_live_sockets {ω : Type} (lib : SharedLibrary) (cfg : WrongPass)
    (e : AuthEnv ω) (authTimeout : Nat) (patchPolicy : PatchPolicy)
    (steps : List (ServerStep ω)) (env : ω) :
    let srv := (AuthServer.idle env).run lib cfg e authTimeout patchPolicy steps
    srv.s_connections = UInt32.ofNat srv.liveCount ∧
    srv.s_authed = UInt32.ofNat srv.authedCount ∧
    (∀ i o, srv.live i = some o →
      timesCounted o.history = if o.sock.status = .authed then 1 else 0) ∧
    (srv.liveCount < 2^32 →
      srv.s_connections.toNat = srv.liveCount ∧ srv.s_authed.toNat = srv.authedCount ∧
      ∀ i o, srv.live i = some o → 0 < srv.s_connections.toNat ∧
        (o.sock.status = .authed → 0 < srv.s_authed.toNat)) := by
  intro srv
  have hsound : srv.Sound lib cfg e authTimeout patchPolicy :=
    (AuthServer.idle_sound env).run steps
  have hcounted : srv.Counted :=
    AuthServer.Counted.run (AuthServer.idle_sound env) ⟨rfl,rfl⟩ steps
  refine ⟨hcounted.connections,hcounted.authed,?_,?_⟩
  · intro i o hlive
    exact (hsound.linked hlive).timesCounted_eq rfl
  · intro hfit
    have hle := srv.authedCount_le
    have hconnections : srv.s_connections.toNat = srv.liveCount := by
      rw [hcounted.connections]
      exact UInt32.toNat_ofNat_of_lt' hfit
    have hauthed : srv.s_authed.toNat = srv.authedCount := by
      rw [hcounted.authed]
      exact UInt32.toNat_ofNat_of_lt' (Nat.lt_of_le_of_lt hle hfit)
    refine ⟨hconnections,hauthed,?_⟩
    intro i o hlive
    obtain ⟨hfewer,hfewer'⟩ := AuthServer.put_counts hlive none
    rw [hconnections,hauthed]
    refine ⟨by simp at hfewer; omega,fun hstatus => ?_⟩
    rw [Session.asAuthed,if_pos hstatus,Option.elim_none] at hfewer'
    omega

end Realmd
