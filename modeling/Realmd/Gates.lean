import Realmd.Authentication
import Realmd.Fragmentation
set_option autoImplicit false

namespace Realmd
open ByteCodec Interaction

section
variable (lib : SharedLibrary) (cfg : WrongPass) {ω : Type} (e : AuthEnv ω)

/-- No active ban of the address or of the account, and no lock to another address,
in one state of the surroundings. -/
structure GatesOpen (w : ω) (remote_address login : Bytes) : Prop where
  ip : (e (.selectIpBanned (lib.escapeString remote_address)) w).1 = none
  account : ∀ row, (e (.selectAccount (lib.escapeString login)) w).1 = some row →
    ¬ (row.locked = 1 ∧ row.last_ip ≠ remote_address) ∧
      (e (.selectAccountBanned row.id) w).1 = none

/-- The same over the states of a span of time, in any of which other sessions may
have written. -/
structure GatesOpenDuring (ws : List ω) (remote_address login : Bytes) : Prop where
  ip : ∃ w ∈ ws, (e (.selectIpBanned (lib.escapeString remote_address)) w).1 = none
  account : ∃ w ∈ ws, ∃ w' ∈ ws, ∀ row,
    (e (.selectAccount (lib.escapeString login)) w).1 = some row →
      ¬ (row.locked = 1 ∧ row.last_ip ≠ remote_address) ∧
        (e (.selectAccountBanned row.id) w').1 = none

variable {lib cfg e} {c p run : HandlerRun ω} {s : Session} {h : List (HandlerRun ω)}

theorem GatesOpen.during {w : ω} {ws : List ω} {remote_address login : Bytes}
    (h : GatesOpen lib e w remote_address login) (hw : w ∈ ws) :
    GatesOpenDuring lib e ws remote_address login :=
  ⟨⟨w,hw,h.ip⟩,⟨w,hw,w,hw,h.account⟩⟩

theorem LogonChallenged.gatesOpen (hc : LogonChallenged lib cfg e c) :
    GatesOpenDuring lib e (c.instants lib cfg e) c.before.sock.remote_address
      c.fields.login := by
  obtain ⟨row,b,s₁,hg⟩ := hc.gates
  obtain ⟨w₁,hw₁,hip⟩ := hc.ran.answered hg.ipBanned
  obtain ⟨w₂,hw₂,haccount⟩ := hc.ran.answered hg.account
  obtain ⟨w₃,hw₃,hbanned⟩ := hc.ran.answered hg.accountBanned
  refine ⟨⟨w₁,hw₁,hip⟩,⟨w₂,hw₂,w₃,hw₃,?_⟩⟩
  intro row' hrow'
  have hsome : some row' = some row := hrow'.symm.trans haccount
  obtain rfl := Option.some.inj hsome
  exact ⟨hg.unlocked,hbanned⟩

/-- When the gates are open in every state a reconnect challenge is handled in, no
banned address, no banned account and no foreign address of a locked account is
ever authenticated, and a realm list is shown to authenticated sessions only. -/
theorem bans_and_locks_enforced (lib : SharedLibrary) (cfg : WrongPass) (e : AuthEnv ω)
    (inputs : List (Input ω)) (now authTimeout : Nat) (patchPolicy : PatchPolicy)
    (remote_address : Bytes) (env : ω) (out : List (HandlerRun ω) × World ω)
    (hout : out = runInputs lib cfg e inputs
      (World.start lib now authTimeout patchPolicy remote_address env))
    (hreconnect : ∀ run ∈ out.1, run.cmd = .authReconnectChallenge →
      GatesOpen lib e run.before.env remote_address run.fields.login) :
    (∀ x ∈ sessionStates out.1 out.2.sock.toSession, x.status = .authed →
      ∃ c ∈ out.1, c.cmd.isChallenge = true ∧ x.login = c.fields.login ∧
        GatesOpenDuring lib e (c.instants lib cfg e) remote_address c.fields.login) ∧
    ∀ run ∈ out.1, run.cmd = .realmList → run.before.sock.status = .authed := by
  subst hout
  have hlinked := runInputs_linked lib cfg e inputs
    (World.start lib now authTimeout patchPolicy remote_address env)
  constructor
  · intro x hx hauthed
    obtain ⟨c,p,rest,hout,-,had,hq⟩ := hlinked.admitted rfl hx hauthed
    have hmem : c ∈ (runInputs lib cfg e inputs
        (World.start lib now authTimeout patchPolicy remote_address env)).1 := by
      simp [hout]
    have hlogin := (had.keeps hq).1
    rcases had.path with ⟨hc,-⟩ | ⟨hc,-⟩
    · have haddress : c.before.sock.remote_address = remote_address :=
        congrArg Prod.fst (hlinked.settings c hmem)
      have hopen := hc.gatesOpen
      rw [haddress] at hopen
      exact ⟨c,hmem,by rw [hc.cmd]; rfl,hlogin.trans hc.login,hopen⟩
    · refine ⟨c,hmem,by rw [hc.cmd]; rfl,hlogin.trans hc.login.1,?_⟩
      exact (hreconnect c hmem hc.cmd).during (Prog.start_mem_instants e _ _)
  · exact fun run hmem hcmd => (hlinked.ran run hmem).of_realmList hcmd

theorem bans_and_locks_enforced_reconnect :
    let out := runInputs referenceLibrary ⟨0,600,false⟩ Replies.admitting.env
      (reconnectInputs 5875) World.sample
    out.2.sock.status = .authed ∧
      ∃ c ∈ out.1, c.cmd.isChallenge = true ∧ out.2.sock.login = c.fields.login ∧
        GatesOpenDuring referenceLibrary Replies.admitting.env
          (c.instants referenceLibrary ⟨0,600,false⟩ Replies.admitting.env)
          (ascii "10.0.0.1") c.fields.login := by
  intro out
  have hauthed : out.2.sock.status = .authed := by decide +kernel
  have hopen : ∀ run ∈ out.1, run.cmd = .authReconnectChallenge →
      GatesOpen referenceLibrary Replies.admitting.env run.before.env (ascii "10.0.0.1")
        run.fields.login := by
    intro run _ _
    refine ⟨rfl,fun row hrow => ?_⟩
    obtain rfl : sampleRow = row := Option.some.inj hrow
    exact ⟨by decide,rfl⟩
  have h := bans_and_locks_enforced referenceLibrary ⟨0,600,false⟩ Replies.admitting.env
    (reconnectInputs 5875) 0 30 ⟨false,[]⟩ (ascii "10.0.0.1") () out rfl hopen
  exact ⟨hauthed,h.1 out.2.sock.toSession (by simp [sessionStates]) hauthed⟩

def Replies.barring : Replies :=
  { Replies.admitting with
    ipBanned := some 0
    accountBanned := some (0,0)
    account := some { sampleRow with locked := 1, last_ip := ascii "10.9.9.9" } }

/-- A reconnect is admitted past a ban of its address, a ban of its account and a
lock to another address, and is shown a realm list. -/
theorem reconnect_passes_bans_and_locks :
    let out := runInputs referenceLibrary ⟨0,600,false⟩ Replies.barring.env
      (reconnectInputs 5875) World.sample
    out.2.sock.status = .authed ∧
      (out.1.map fun run => (run.cmd,(sentBytes run.calls).length)) =
        [(.authReconnectChallenge,1),(.authReconnectProof,1),(.realmList,1)] ∧
      ¬ ∃ c ∈ out.1, c.cmd.isChallenge = true ∧
        GatesOpenDuring referenceLibrary Replies.barring.env
          (c.instants referenceLibrary ⟨0,600,false⟩ Replies.barring.env)
          (ascii "10.0.0.1") c.fields.login := by
  intro out
  refine ⟨by decide +kernel,by decide +kernel,?_⟩
  rintro ⟨c,-,-,⟨w,-,hip⟩,-⟩
  contradiction

/-- When every reconnect challenge names a supported build that is not to be
patched, no other build is ever authenticated, and a realm list is shown to
authenticated sessions only. -/
theorem build_gate_enforced (lib : SharedLibrary) (cfg : WrongPass) (e : AuthEnv ω)
    (inputs : List (Input ω)) (now authTimeout : Nat) (patchPolicy : PatchPolicy)
    (remote_address : Bytes) (env : ω) (out : List (HandlerRun ω) × World ω)
    (hout : out = runInputs lib cfg e inputs
      (World.start lib now authTimeout patchPolicy remote_address env))
    (hreconnect : ∀ run ∈ out.1, run.cmd = .authReconnectChallenge →
      (findBuildInfo run.fields.build).isSome = true ∧
        patchPolicy.shouldPatch run.fields.build true = false) :
    (∀ x ∈ sessionStates out.1 out.2.sock.toSession, x.status = .authed →
      (findBuildInfo x.build).isSome = true ∧
        patchPolicy.shouldPatch x.build true = false) ∧
    ∀ run ∈ out.1, run.cmd = .realmList → run.before.sock.status = .authed := by
  subst hout
  have hlinked := runInputs_linked lib cfg e inputs
    (World.start lib now authTimeout patchPolicy remote_address env)
  constructor
  · intro x hx hauthed
    obtain ⟨c,p,rest,hout,-,had,hq⟩ := hlinked.admitted rfl hx hauthed
    rw [(had.keeps hq).2]
    rcases had.path with ⟨hc,hp⟩ | ⟨hc,-⟩
    · have hpolicy : p.before.sock.patchPolicy = patchPolicy :=
        congrArg (fun settings => settings.2.1) (hlinked.settings p (by simp [hout]))
      have hbuild : p.before.sock.build = c.after.sock.build := by
        rw [had.link.same]
      have hsupported := hp.supported
      have hunpatched := hp.unpatched
      rw [hpolicy,hbuild] at hunpatched
      rw [hbuild] at hsupported
      exact ⟨hsupported,hunpatched⟩
    · rw [hc.login.2]
      exact hreconnect c (by simp [hout]) hc.cmd
  · exact fun run hmem hcmd => (hlinked.ran run hmem).of_realmList hcmd

theorem build_gate_enforced_reconnect :
    let out := runInputs referenceLibrary ⟨0,600,false⟩ Replies.admitting.env
      (reconnectInputs 5875) World.sample
    out.2.sock.status = .authed ∧ (findBuildInfo out.2.sock.build).isSome = true ∧
      PatchPolicy.shouldPatch ⟨false,[]⟩ out.2.sock.build true = false := by
  intro out
  have hauthed : out.2.sock.status = .authed := by decide +kernel
  have hbuild : ∀ run ∈ out.1, run.cmd = .authReconnectChallenge →
      (findBuildInfo run.fields.build).isSome = true ∧
        PatchPolicy.shouldPatch ⟨false,[]⟩ run.fields.build true = false := by
    decide +kernel
  have h := build_gate_enforced referenceLibrary ⟨0,600,false⟩ Replies.admitting.env
    (reconnectInputs 5875) 0 30 ⟨false,[]⟩ (ascii "10.0.0.1") () out rfl hbuild
  exact ⟨hauthed,h.1 out.2.sock.toSession (by simp [sessionStates]) hauthed⟩

/-- A reconnect is admitted with a build no realm supports, and with one that is to
be patched before login. -/
theorem reconnect_passes_build_gate :
    let out := runInputs referenceLibrary ⟨0,600,false⟩ Replies.admitting.env
      (reconnectInputs 1) World.sample
    let forced := runInputs referenceLibrary ⟨0,600,false⟩ Replies.admitting.env
      (reconnectInputs 5875)
      (World.start referenceLibrary 0 30 ⟨true,[5875]⟩ (ascii "10.0.0.1") ())
    out.2.sock.status = .authed ∧ findBuildInfo out.2.sock.build = none ∧
      forced.2.sock.status = .authed ∧
      PatchPolicy.shouldPatch ⟨true,[5875]⟩ forced.2.sock.build true = true := by
  decide +kernel

end

end Realmd
