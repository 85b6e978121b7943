import Realmd.Authentication
set_option autoImplicit false

namespace Realmd
open ByteCodec Interaction

/-- An `AuthSocket` that has not been destroyed, with the time and the peer it was
accepted with and the handler calls it has made. -/
structure LiveSocket (ω : Type) where
  start : Nat
  remote_address : Bytes
  sock : AuthSocket
  history : List (HandlerRun ω)

/-- The daemon: every socket ever constructed, under a number of its own, with the
destroyed ones left out; the registry of weak pointers; the two counters; and the
surroundings all sockets share. -/
structure AuthServer (ω : Type) where
  objects : List (Option (LiveSocket ω))
  sockets : List Nat
  s_connections : UInt32
  s_authed : UInt32
  env : ω

def AuthServer.idle {ω : Type} (env : ω) : AuthServer ω := ⟨[],[],0,0,env⟩

def AuthServer.live {ω : Type} (srv : AuthServer ω) (i : Nat) : Option (LiveSocket ω) :=
  srv.objects[i]?.join

def countedAuthed (calls : List AuthEvent) : Nat :=
  calls.countP fun ev => decide (ev.call = .countAuthed)

/-- What happens to the daemon, one step at a time. An input of a socket is a chunk of
data, or `onClose` or `ExpireAuthentication` by another thread. -/
inductive ServerStep (ω : Type) where
  | accept (now : Nat) (remote_address : Bytes)
  | input (i : Nat) (inp : Input ω)
  | destroy (i : Nat)
  | update (now : Nat)

section
variable (lib : SharedLibrary) (cfg : WrongPass) {ω : Type} (e : AuthEnv ω)
  (authTimeout : Nat) (patchPolicy : PatchPolicy)

/-- The factory of `AuthServer::Start`, with the constructor of `AuthSocket`. -/
def AuthServer.accept (srv : AuthServer ω) (now : Nat) (remote_address : Bytes) :
    AuthServer ω :=
  { srv with
    objects := srv.objects ++
      [some ⟨now,remote_address,.fresh lib now authTimeout patchPolicy remote_address,[]⟩]
    sockets := srv.sockets ++ [srv.objects.length]
    s_connections := srv.s_connections+1 }

def AuthServer.put (srv : AuthServer ω) (i : Nat) (o : Option (LiveSocket ω)) :
    AuthServer ω :=
  { srv with objects := srv.objects.set i o }

def LiveSocket.input (o : LiveSocket ω) (env : ω) (inp : Input ω) :
    List (HandlerRun ω) × LiveSocket ω × ω :=
  let out := inputStep lib cfg e ⟨o.sock,env⟩ inp
  (out.1,{ o with sock := out.2.sock, history := o.history ++ out.1 },out.2.env)

def AuthServer.input (srv : AuthServer ω) (i : Nat) (inp : Input ω) : AuthServer ω :=
  match srv.live i with
  | none => srv
  | some o =>
      let (runs,o,env) := o.input lib cfg e srv.env inp
      { srv.put i (some o) with
        s_authed := srv.s_authed+UInt32.ofNat (countedAuthed (runs.flatMap (·.calls)))
        env := env }

def AuthServer.destroy (srv : AuthServer ω) (i : Nat) : AuthServer ω :=
  match srv.live i with
  | none => srv
  | some o =>
      { srv.put i none with
        s_authed := if o.sock.status = .authed then srv.s_authed-1 else srv.s_authed
        s_connections := srv.s_connections-1 }

def lockSockets (alive : Nat → Bool) : List Nat → List Nat × List Nat
  | [] => ([],[])
  | i :: rest =>
      let (locked,kept) := lockSockets alive rest
      if alive i then (i :: locked,i :: kept) else (locked,kept)

def LiveSocket.expireAuthentication (o : LiveSocket ω) (now : Nat) : LiveSocket ω :=
  { o with sock.toSession := o.sock.toSession.expireAuthentication now }

def AuthServer.expireAll (now : Nat) : List Nat → AuthServer ω → AuthServer ω
  | [], srv => srv
  | i :: rest, srv =>
      expireAll now rest (srv.put i ((srv.live i).map (·.expireAuthentication now)))

def AuthServer.update (srv : AuthServer ω) (now : Nat) : AuthServer ω :=
  let (locked,kept) := lockSockets (fun i => (srv.live i).isSome) srv.sockets
  expireAll now locked { srv with sockets := kept }

def AuthServer.step (srv : AuthServer ω) : ServerStep ω → AuthServer ω
  | .accept now remote_address => srv.accept lib authTimeout patchPolicy now remote_address
  | .input i inp => srv.input lib cfg e i inp
  | .destroy i => srv.destroy i
  | .update now => srv.update now

def AuthServer.run (srv : AuthServer ω) (steps : List (ServerStep ω)) : AuthServer ω :=
  steps.foldl (AuthServer.step lib cfg e authTimeout patchPolicy) srv

end

section
variable {ω : Type} {srv : AuthServer ω} {i j : Nat}

theorem AuthServer.live_eq_some {o : LiveSocket ω} :
    srv.live i = some o ↔ srv.objects[i]? = some (some o) :=
  Option.join_eq_some_iff

@[simp] theorem AuthServer.put_sockets (o : Option (LiveSocket ω)) :
    (srv.put i o).sockets = srv.sockets := rfl

theorem AuthServer.put_live (o : Option (LiveSocket ω)) :
    (srv.put i o).live j = if i = j ∧ i < srv.objects.length then o else srv.live j := by
  simp only [live,put,List.getElem?_set]
  by_cases hij : i = j
  · subst hij
    by_cases hi : i < srv.objects.length
    · simp [hi]
    · simp [hi]
  · simp [hij]

theorem AuthServer.accept_live (lib : SharedLibrary) (authTimeout : Nat)
    (patchPolicy : PatchPolicy) (now : Nat) (remote_address : Bytes) :
    (srv.accept lib authTimeout patchPolicy now remote_address).live j =
      if j = srv.objects.length then
        some ⟨now,remote_address,.fresh lib now authTimeout patchPolicy remote_address,[]⟩
      else srv.live j := by
  simp only [live,accept,List.getElem?_append]
  by_cases hj : j < srv.objects.length
  · have hne : j ≠ srv.objects.length := by omega
    simp [hj,hne]
  · by_cases heq : j = srv.objects.length
    · simp [heq]
    · have hnew : j-srv.objects.length ≠ 0 := by omega
      simp [hj,heq,hnew]

theorem lockSockets_eq (alive : Nat → Bool) (sockets : List Nat) :
    lockSockets alive sockets = (sockets.filter alive,sockets.filter alive) := by
  induction sockets with
  | nil => rfl
  | cons i rest ih =>
    simp only [lockSockets,ih,List.filter_cons]
    split <;> rfl

theorem Session.expireAuthentication_idem (s : Session) (now : Nat) :
    (s.expireAuthentication now).expireAuthentication now = s.expireAuthentication now := by
  by_cases h : s.m_authDeadline.expired now = true
  · have hclose : s.expireAuthentication now = s.closeConnection := by
      rw [expireAuthentication,if_pos h]
    have hout : s.closeConnection.m_authDeadline.expired now = false := rfl
    rw [hclose,expireAuthentication,hout]
    rfl
  · simp [expireAuthentication,h]

theorem LiveSocket.expireAuthentication_idem (o : LiveSocket ω) (now : Nat) :
    (o.expireAuthentication now).expireAuthentication now = o.expireAuthentication now := by
  simp only [expireAuthentication,Session.expireAuthentication_idem]

theorem AuthServer.expireAll_live (now : Nat) (ids : List Nat) :
    (expireAll now ids srv).live j =
      if j ∈ ids then (srv.live j).map (·.expireAuthentication now) else srv.live j := by
  induction ids generalizing srv with
  | nil => simp [expireAll]
  | cons i rest ih =>
    have hput : (srv.put i ((srv.live i).map (·.expireAuthentication now))).live j =
        if i = j then (srv.live j).map (·.expireAuthentication now) else srv.live j := by
      rw [put_live]
      by_cases hij : i = j
      · subst hij
        by_cases hi : i < srv.objects.length
        · simp [hi]
        · have hnone : srv.live i = none := by
            rw [live,List.getElem?_eq_none (by omega)]
            rfl
          simp [hi,hnone]
      · simp [hij]
    rw [expireAll,ih,hput]
    by_cases hij : i = j
    · subst hij
      cases srv.live i with
      | none => simp
      | some o => simp [LiveSocket.expireAuthentication_idem]
    · have hne : j ≠ i := Ne.symm hij
      simp [hij,hne]

theorem AuthServer.expireAll_sockets (now : Nat) (ids : List Nat) :
    (expireAll now ids srv).sockets = srv.sockets := by
  induction ids generalizing srv with
  | nil => rfl
  | cons i rest ih => exact ih

theorem AuthServer.update_sockets (now : Nat) :
    (srv.update now).sockets = srv.sockets.filter fun i => (srv.live i).isSome := by
  simp only [update,lockSockets_eq,expireAll_sockets]

end

section
variable (lib : SharedLibrary) (cfg : WrongPass) {ω : Type} (e : AuthEnv ω)
  (authTimeout : Nat) (patchPolicy : PatchPolicy)

def LiveSocket.origin (o : LiveSocket ω) : Session :=
  (AuthSocket.fresh lib o.start authTimeout patchPolicy o.remote_address).toSession

/-- Every live socket is where its handler calls have led it, and is registered. -/
structure AuthServer.Sound (srv : AuthServer ω) : Prop where
  linked : ∀ {i o}, srv.live i = some o →
    Linked lib cfg e (o.origin lib authTimeout patchPolicy) o.history o.sock.toSession
  registered : ∀ {i o}, srv.live i = some o → i ∈ srv.sockets

variable {lib cfg e authTimeout patchPolicy} {srv : AuthServer ω}

theorem AuthServer.Sound.update_live (h : srv.Sound lib cfg e authTimeout patchPolicy)
    (now j : Nat) :
    (srv.update now).live j = (srv.live j).map (·.expireAuthentication now) := by
  simp only [update,lockSockets_eq,expireAll_live]
  have hsame : ({ srv with sockets := srv.sockets.filter fun i => (srv.live i).isSome } :
      AuthServer ω).live j = srv.live j := rfl
  rw [hsame]
  cases hj : srv.live j with
  | none => simp
  | some o =>
    have hmem : j ∈ srv.sockets.filter fun i => (srv.live i).isSome := by
      rw [List.mem_filter]
      exact ⟨h.registered hj,by rw [hj]; rfl⟩
    rw [if_pos hmem]

theorem inputStep_linked {s : Session} {h : List (HandlerRun ω)} {w : World ω}
    (hl : Linked lib cfg e s h w.sock.toSession) (inp : Input ω) :
    Linked lib cfg e s (h ++ (inputStep lib cfg e w inp).1)
      (inputStep lib cfg e w inp).2.sock.toSession := by
  have hrun := runInputs_rule lib cfg e (P := Linked lib cfg e s) (fun hq hl => hl.quiet hq)
    (fun _ ho hcall hl => hl.snoc (hcall.ran ho) (by rw [hcall.before_eq])) [inp] hl
  simpa [runInputs] using hrun

theorem AuthServer.Sound.put (h : srv.Sound lib cfg e authTimeout patchPolicy) {i : Nat}
    {o : LiveSocket ω} (hi : srv.live i = some o) (next : Option (LiveSocket ω))
    (hnext : ∀ o', next = some o' →
      Linked lib cfg e (o'.origin lib authTimeout patchPolicy) o'.history o'.sock.toSession) :
    (srv.put i next).Sound lib cfg e authTimeout patchPolicy := by
  have hcases : ∀ {j o'}, (srv.put i next).live j = some o' →
      i = j ∧ next = some o' ∨ srv.live j = some o' := by
    intro j o' hlive
    rw [put_live] at hlive
    split at hlive
    · rename_i hij
      exact .inl ⟨hij.1,hlive⟩
    · exact .inr hlive
  constructor
  · intro j o' hlive
    rcases hcases hlive with ⟨-,hnew⟩ | hold
    · exact hnext o' hnew
    · exact h.linked hold
  · intro j o' hlive
    rcases hcases hlive with ⟨rfl,-⟩ | hold
    · exact h.registered hi
    · exact h.registered hold

theorem AuthServer.Sound.step (h : srv.Sound lib cfg e authTimeout patchPolicy)
    (act : ServerStep ω) :
    (srv.step lib cfg e authTimeout patchPolicy act).Sound lib cfg e authTimeout
      patchPolicy := by
  cases act with
  | accept now remote_address =>
    constructor
    · intro i o hlive
      rw [AuthServer.step,accept_live] at hlive
      split at hlive
      · obtain rfl := Option.some.inj hlive
        exact .nil (.refl _)
      · exact h.linked hlive
    · intro i o hlive
      rw [AuthServer.step,accept_live] at hlive
      simp only [AuthServer.step,AuthServer.accept,List.mem_append,List.mem_singleton]
      split at hlive
      · rename_i heq
        exact .inr heq
      · exact .inl (h.registered hlive)
  | input i inp =>
    simp only [AuthServer.step,AuthServer.input]
    cases hi : srv.live i with
    | none => exact h
    | some o =>
      have hnew : Linked lib cfg e (o.origin lib authTimeout patchPolicy)
          (o.input lib cfg e srv.env inp).2.1.history
          (o.input lib cfg e srv.env inp).2.1.sock.toSession :=
        inputStep_linked (w := ⟨o.sock,srv.env⟩) (h.linked hi) inp
      have hput := h.put hi (some (o.input lib cfg e srv.env inp).2.1) fun o' ho' => by
        obtain rfl := Option.some.inj ho'
        exact hnew
      exact ⟨fun hlive => hput.linked hlive,fun hlive => hput.registered hlive⟩
  | destroy i =>
    simp only [AuthServer.step,AuthServer.destroy]
    cases hi : srv.live i with
    | none => exact h
    | some o =>
      have hput := h.put hi none fun o' ho' => by contradiction
      exact ⟨fun hlive => hput.linked hlive,fun hlive => hput.registered hlive⟩
  | update now =>
    constructor
    · intro j o hlive
      rw [AuthServer.step,h.update_live] at hlive
      obtain ⟨o',hj,rfl⟩ := Option.map_eq_some_iff.mp hlive
      exact (h.linked hj).quiet (o'.sock.toSession.suffer_quiet (.expireAuthentication now))
    · intro j o hlive
      rw [AuthServer.step,h.update_live] at hlive
      obtain ⟨o',hj,-⟩ := Option.map_eq_some_iff.mp hlive
      rw [AuthServer.step,update_sockets,List.mem_filter]
      exact ⟨h.registered hj,by rw [hj]; rfl⟩

theorem AuthServer.Sound.run (h : srv.Sound lib cfg e authTimeout patchPolicy)
    (steps : List (ServerStep ω)) :
    (srv.run lib cfg e authTimeout patchPolicy steps).Sound lib cfg e authTimeout
      patchPolicy := by
  induction steps generalizing srv with
  | nil => exact h
  | cons act steps ih => exact ih (h.step act)

theorem AuthServer.idle_sound (env : ω) :
    (AuthServer.idle env).Sound lib cfg e authTimeout patchPolicy :=
  ⟨by simp [live,idle],by simp [live,idle]⟩

end

end Realmd
