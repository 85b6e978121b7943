import Realmd.RealmListCounters
import Realmd.SrpCompleteness
set_option autoImplicit false

namespace Realmd
open ByteCodec Interaction

inductive ReplyKind where
  | proof | wrongPassword | reconnect | realms
  deriving DecidableEq, Repr

def replyKind (bytes : Bytes) : Option ReplyKind :=
  if bytes.take 2 = [AuthCmd.authLogonProof.code,AuthResult.success.code] then some .proof
  else if bytes.take 2 = [AuthCmd.authLogonProof.code,AuthResult.failUnknownAccount.code] then
    some .wrongPassword
  else if bytes.take 1 = [AuthCmd.authReconnectProof.code] then some .reconnect
  else if bytes.take 1 = [AuthCmd.realmList.code] then some .realms
  else none

inductive ReadReply where
  | proof (M2 : Nat)
  | wrongPassword
  | reconnect
  | realms (entries : List ShownRealm)

def decodeReply (vanilla : Bool) : Decoder ReadReply := do
  let cmd ← Decoder.byte
  if cmd = AuthCmd.realmList.code then
    let entries ← decodeRealmFrame vanilla
    return .realms entries
  else
    let error ← Decoder.byte
    if cmd = AuthCmd.authReconnectProof.code then
      let _ ← Decoder.le (if vanilla then 0 else 2)
      return .reconnect
    else if error = AuthResult.success.code then
      let M2 ← Decoder.le 20
      let _ ← Decoder.le (if vanilla then 4 else 10)
      return .proof M2
    else
      let _ ← Decoder.le (if vanilla then 0 else 2)
      return .wrongPassword

/-- A reply in the layout of its family: of the right length, with a realm count of the
right width, and read by the family's decoder to its last byte, whatever comes after. -/
def InLayout (vanilla : Bool) (realms : List Realm) (bytes : Bytes) : ReplyKind → Prop
  | .proof => bytes.length = (if vanilla then 26 else 32) ∧
      ∃ M2, Decoder.Reads (decodeReply vanilla) bytes (.proof M2)
  | .wrongPassword => bytes.length = (if vanilla then 2 else 4) ∧
      Decoder.Reads (decodeReply vanilla) bytes .wrongPassword
  | .reconnect => bytes.length = (if vanilla then 2 else 4) ∧
      Decoder.Reads (decodeReply vanilla) bytes .reconnect
  | .realms =>
      (∃ size rest, bytes = [AuthCmd.realmList.code] ++ leBytes 2 size ++ leBytes 4 0 ++
        leBytes (if vanilla then 1 else 2) realms.length ++ rest) ∧
      ∃ entries, Decoder.Reads (decodeReply vanilla) bytes (.realms entries)

/-- The realms a reply can hold: named without a zero byte, and no more of them and of
their bytes than its two fields can count. -/
structure FitsReply (lib : SharedLibrary) (s : Session) (realms : List Realm) : Prop where
  names : ∀ realm ∈ realms, 0 ∉ realm.name
  count : realms.length < if isPreTbc s.build then 256 else 65536
  size : 6+countWidth s.build+(realms.map (entrySize lib s)).sum < 65536

structure JudgedWrong (lib : SharedLibrary) {ω : Type} (run : HandlerRun ω) : Prop where
  command : run.cmd = .authLogonProof
  valid : proofA run.frame%srpN ≠ 0
  wrong : ¬ run.before.sock.toSession.ProofMatches lib run.frame

instance (lib : SharedLibrary) (s : Session) (realms : List Realm) :
    Decidable (FitsReply lib s realms) :=
  decidable_of_iff ((∀ realm ∈ realms, 0 ∉ realm.name) ∧
      (realms.length < if isPreTbc s.build then 256 else 65536) ∧
      6+countWidth s.build+(realms.map (entrySize lib s)).sum < 65536)
    ⟨fun ⟨hnames,hcount,hsize⟩ => ⟨hnames,hcount,hsize⟩,
      fun ⟨hnames,hcount,hsize⟩ => ⟨hnames,hcount,hsize⟩⟩

instance (lib : SharedLibrary) {ω : Type} (run : HandlerRun ω) :
    Decidable (JudgedWrong lib run) :=
  decidable_of_iff (run.cmd = .authLogonProof ∧ proofA run.frame%srpN ≠ 0 ∧
      ¬ run.before.sock.toSession.ProofMatches lib run.frame)
    ⟨fun ⟨hcmd,hA,hM⟩ => ⟨hcmd,hA,hM⟩,fun ⟨hcmd,hA,hM⟩ => ⟨hcmd,hA,hM⟩⟩

/-- Every reply of a history whose layout depends on the build is in the layout of the
family that the build's policy names. -/
def OneFamily {ω : Type} (h : List (HandlerRun ω)) : Prop :=
  ∀ run ∈ h, ∀ policy,
    findClientBuildPolicy run.before.sock.build.toNat = some policy →
    ∀ bytes ∈ sentBytes run.calls, ∀ kind, replyKind bytes = some kind →
      InLayout (policy.realmVersion = .vanilla) ((realmsAsked run.calls).flatMap (·.2)) bytes
        kind

section
variable {lib : SharedLibrary} {cfg : WrongPass}

theorem vanilla_iff {build : UInt16} {policy : ClientBuildPolicy}
    (h : findClientBuildPolicy build.toNat = some policy) :
    decide (policy.realmVersion = .vanilla) = isPreTbc build ∧
      (isPreTbc build = false ↔ build > 6141) ∧
      (build ≠ 6141 → (isPreTbc build = false ↔ build > 6005)) := by
  have hmem := List.mem_of_find?_eq_some h
  have hbuild := List.find?_some h
  rw [beq_iff_eq] at hbuild
  have hof : build = UInt16.ofNat policy.buildInfo.build := by
    rw [hbuild]
    exact (UInt16.ofNat_toNat).symm
  rw [hof]
  clear hof hbuild h
  revert policy
  decide

theorem proofReply_inLayout (build : UInt16) (digest : Digest) (realms : List Realm) :
    InLayout (isPreTbc build) realms (proofReply build digest.bytes) .proof := by
  have hM2 : Decoder.Reads (Decoder.le 20) digest.bytes (leNat digest.bytes) :=
    .leNat digest.length_eq
  have hreads : ∀ {vanilla : Bool} {ending : Bytes},
      ending.length = (if vanilla then 4 else 10) →
      Decoder.Reads (decodeReply vanilla) ([1] ++ ([0] ++ (digest.bytes ++ ending)))
        (.proof (leNat digest.bytes)) := by
    intro vanilla ending hending
    exact .bind (.byte 1) (.bind (.byte 0) (.bind hM2
      (Decoder.Reads.map (.leNat hending) _)))
  have hlength := digest.length_eq
  unfold proofReply
  cases isPreTbc build with
  | true =>
    refine ⟨by simp [hlength],leNat digest.bytes,?_⟩
    have hending : (leBytes 4 0).length = if true then 4 else 10 := rfl
    have hvanilla := hreads hending
    simpa [AuthCmd.code] using hvanilla
  | false =>
    refine ⟨by simp [hlength],leNat digest.bytes,?_⟩
    have hending : (leBytes 4 0x00800000 ++ (leBytes 4 0 ++ leBytes 2 0)).length =
      if false then 4 else 10 := rfl
    have hlater := hreads hending
    simpa [AuthCmd.code] using hlater

theorem shortReply_reads {vanilla : Bool} {cmd error : UInt8} (more : Bytes)
    (hmore : more.length = if vanilla then 0 else 2) :
    (cmd = AuthCmd.authReconnectProof.code →
      Decoder.Reads (decodeReply vanilla) ([cmd] ++ ([error] ++ more)) .reconnect) ∧
    (cmd = AuthCmd.authLogonProof.code → error ≠ AuthResult.success.code →
      Decoder.Reads (decodeReply vanilla) ([cmd] ++ ([error] ++ more)) .wrongPassword) := by
  constructor
  · rintro rfl
    exact .bind (.byte _) (.bind (.byte _) (Decoder.Reads.map (.leNat hmore) _))
  · rintro rfl herror
    refine .bind (.byte _) (.bind (.byte _) ?_)
    rw [if_neg (by decide),if_neg herror]
    exact Decoder.Reads.map (.leNat hmore) _

theorem reconnectReply_inLayout {build : UInt16}
    (hbuild : isPreTbc build = false ↔ build > 6141) (realms : List Realm) :
    InLayout (isPreTbc build) realms (reconnectReply build) .reconnect := by
  unfold reconnectReply
  cases hvanilla : isPreTbc build with
  | true =>
    rw [if_neg fun hlater => by simp [hbuild.mpr hlater] at hvanilla]
    exact ⟨rfl,(shortReply_reads [] rfl).1 rfl⟩
  | false =>
    rw [if_pos (hbuild.mp hvanilla)]
    exact ⟨rfl,(shortReply_reads (leBytes 2 0) rfl).1 rfl⟩

theorem wrongPasswordReply_inLayout {build : UInt16}
    (hbuild : isPreTbc build = false ↔ build > 6005) (realms : List Realm) :
    InLayout (isPreTbc build) realms (wrongPasswordReply build) .wrongPassword := by
  unfold wrongPasswordReply
  cases hvanilla : isPreTbc build with
  | true =>
    rw [if_neg fun hlater => by simp [hbuild.mpr hlater] at hvanilla]
    exact ⟨rfl,(shortReply_reads [] rfl).2 rfl (by decide)⟩
  | false =>
    rw [if_pos (hbuild.mp hvanilla)]
    exact ⟨rfl,(shortReply_reads [3,0] rfl).2 rfl (by decide)⟩

theorem realmList_inLayout {s : Session} {t : List AuthEvent} {r : Bool × Session}
    {reply : Bytes} {u : Unit} (haddress : ∀ ip port, 0 ∉ lib.getAddressString ip port)
    (h : (realmList lib s).Runs t r) (hmem : ⟨.sender reply,u⟩ ∈ t)
    (hfits : ∀ asked ∈ realmsAsked t, FitsReply lib s asked.2) :
    InLayout (isPreTbc s.build) ((realmsAsked t).flatMap (·.2)) reply .realms := by
  obtain ⟨account,counts,-,hasked,-,rfl⟩ := realmList_reply h hmem
  rw [hasked] at hfits ⊢
  obtain ⟨hnames,hcount,hsize⟩ := hfits _ List.mem_cons_self
  rw [← realmListBody_size] at hsize
  rw [List.length_map] at hcount
  obtain ⟨ending,-,hbody⟩ := realmListBody_counted lib s counts
  have hnames' : ∀ c ∈ counts, 0 ∉ c.1.name := fun c hc => hnames c.1 (List.mem_map_of_mem hc)
  obtain ⟨entries,hreads,-⟩ := realmListBody_reads hnames' haddress hcount
  refine ⟨⟨(realmListBody lib s counts).length,
    (counts.map fun c => listEntry lib s c.1 (c.2.getD 0)).flatten ++ ending,?_⟩,entries,?_⟩
  · rw [List.flatMap_singleton,List.length_map,realmListReply]
    conv_lhs => rw [hbody]
    simp only [hbody,countWidth,List.append_assoc]
  · rw [realmListReply,List.append_assoc]
    refine .bind (.byte _) ?_
    rw [if_pos rfl]
    exact Decoder.Reads.map (decodeRealmFrame_reads hsize hreads) _

def LogonReply (lib : SharedLibrary) (s : Session) (lp : Bytes) : Call → Prop
  | .sender bytes => replyKind bytes = none ∨
      (∃ digest : Digest, bytes = proofReply s.build digest.bytes) ∨
      proofA lp%srpN ≠ 0 ∧ ¬ s.ProofMatches lib lp ∧ bytes = wrongPasswordReply s.build
  | _ => True

theorem acceptLogon_replies {s s₀ : Session} {lp : Bytes} (hbuild : s.build = s₀.build)
    (A M : Nat) : (acceptLogon lib s A M).Meets (LogonReply lib s₀ lp) fun _ => True := by
  have hinvalid : LogonReply lib s₀ lp (.sender [0,0,9]) := .inl (by decide)
  have hnotice : LogonReply lib s₀ lp (.sender updateNotice) := .inl (by decide)
  have hinit : ∀ artifact, LogonReply lib s₀ lp (.sender (xferInit artifact)) :=
    fun artifact => .inl (by simp [xferInit,replyKind,AuthCmd.code])
  have hproof : LogonReply lib s₀ lp (.sender (proofReply s.build (proofM2 lib A M s.K))) :=
    .inr (.inl ⟨lib.sha1 _,by rw [← hbuild]; rfl⟩)
  exact acceptLogon_meets trivial s A M trivial hinvalid hnotice hinit trivial hproof trivial

theorem logonProof_replies (s : Session) (lp : Bytes) :
    (logonProof lib cfg s lp).Meets (LogonReply lib s lp) fun _ => True := by
  unfold logonProof
  simp only
  split
  · trivial
  rename_i hA
  split
  · exact acceptLogon_replies (s := s.keyed lib lp) rfl _ _
  rename_i hM
  have hfail : LogonReply lib s lp (.sender (wrongPasswordReply s.build)) :=
    .inr (.inr ⟨hA,hM,rfl⟩)
  exact (rejectLogon_meets trivial (s.keyed lib lp) hfail (fun _ => trivial)
    (fun _ => trivial)).weaken

theorem replyKind_probing {bytes : Bytes} (h : Probing (.sender bytes)) :
    replyKind bytes = none := by
  cases bytes with
  | nil => rfl
  | cons b bs =>
    rcases h with hb | hb <;> cases hb <;> simp [replyKind,AuthCmd.code]

theorem replyKind_proofReply (build : UInt16) (M2 : Bytes) :
    replyKind (proofReply build M2) = some .proof := by
  unfold proofReply
  split <;> simp [replyKind,AuthCmd.code,AuthResult.code]

theorem replyKind_wrongPasswordReply (build : UInt16) :
    replyKind (wrongPasswordReply build) = some .wrongPassword := by
  unfold wrongPasswordReply
  split <;> decide

theorem replyKind_reconnectReply (build : UInt16) :
    replyKind (reconnectReply build) = some .reconnect := by
  unfold reconnectReply
  split <;> decide

theorem ReconnectProofSpec.reply {s : Session} {lp bytes : Bytes} {t : List AuthEvent}
    {r : Bool × Session} (h : ReconnectProofSpec lib s lp t r)
    (hmem : ⟨.sender bytes,()⟩ ∈ t) : bytes = reconnectReply s.build := by
  cases h with
  | missing h => simp at hmem
  | mismatch hR ht hc hq => cases ht _ hmem
  | published hlogin hproof hK hR ht honce hq =>
    rcases List.mem_cons.mp hmem with heq | htail
    · cases heq
    · rcases ht _ htail with (hc | hc) | hc <;> cases hc
      rfl
  | unpublished hR ht hc hq =>
    rcases List.mem_cons.mp hmem with heq | htail
    · cases heq
    · cases ht _ htail

variable {ω : Type} {e : AuthEnv ω} {run : HandlerRun ω}

theorem Ran.oneFamily (hran : Ran lib cfg e run)
    (haddress : ∀ ip port, 0 ∉ lib.getAddressString ip port)
    (hwrong : JudgedWrong lib run → run.before.sock.build ≠ 6141)
    (hfits : ∀ asked ∈ realmsAsked run.calls,
      FitsReply lib run.before.sock.toSession asked.2) : OneFamily [run] := by
  intro run' hrun policy hpolicy bytes hbytes kind hkind
  obtain rfl := List.mem_singleton.mp hrun
  obtain ⟨hfamily,hlater,hboundary⟩ := vanilla_iff hpolicy
  have hquiet : ¬ Calls Streaming run'.calls := by
    intro ht
    rw [sentBytes_streaming ht] at hbytes
    cases hbytes
  rw [hfamily]
  rw [mem_sentBytes] at hbytes
  have hruns := hran.runs
  cases hcmd : run'.cmd <;> rw [hcmd] at hruns
  case authLogonChallenge =>
    have hprobing := ((logonChallenge_meets _ _).runs hruns).1 _ hbytes
    rw [replyKind_probing hprobing] at hkind
    cases hkind
  case authReconnectChallenge =>
    have hprobing := ((reconnectChallenge_meets _ _).runs hruns).1 _ hbytes
    rw [replyKind_probing hprobing] at hkind
    cases hkind
  case authLogonProof =>
    rcases ((logonProof_replies _ _).runs hruns).1 _ hbytes with
      hnone | ⟨digest,rfl⟩ | ⟨hA,hM,rfl⟩
    · rw [hnone] at hkind
      cases hkind
    · rw [replyKind_proofReply,Option.some.injEq] at hkind
      subst hkind
      exact proofReply_inLayout _ digest _
    · rw [replyKind_wrongPasswordReply,Option.some.injEq] at hkind
      subst hkind
      exact wrongPasswordReply_inLayout (hboundary (hwrong ⟨hcmd,hA,hM⟩)) _
  case authReconnectProof =>
    obtain rfl := (reconnectProof_runs hruns).reply hbytes
    rw [replyKind_reconnectReply,Option.some.injEq] at hkind
    subst hkind
    exact reconnectReply_inLayout hlater _
  case realmList =>
    have hlayout := realmList_inLayout haddress hruns hbytes hfits
    have hrealms : replyKind bytes = some .realms := by
      obtain ⟨size,rest,hreply⟩ := hlayout.1
      rw [hreply]
      simp [replyKind,AuthCmd.code]
    rw [hrealms,Option.some.injEq] at hkind
    subst hkind
    exact hlayout
  case xferAccept => exact absurd (beginPatchStream_runs hruns).1 hquiet
  case xferResume => exact absurd (beginPatchStream_runs hruns).1 hquiet
  case xferCancel => exact absurd (xferCancel_runs hruns).2.2.2 hquiet
  all_goals
    have hstate := hran.state
    rw [hcmd] at hstate
    cases hstate

end

/-- In every run in which no session of the last vanilla build is told of a wrong
password, and in which every realm list fits its reply, all replies of a supported build
are in the layout of its family. -/
theorem replies_keep_family {ω : Type} (lib : SharedLibrary) (cfg : WrongPass) (e : AuthEnv ω)
    (inputs : List (Input ω)) (now authTimeout : Nat) (patchPolicy : PatchPolicy)
    (remote_address : Bytes) (env : ω)
    (haddress : ∀ ip port, 0 ∉ lib.getAddressString ip port) :
    let out := runInputs lib cfg e inputs
      (World.start lib now authTimeout patchPolicy remote_address env)
    (∀ run ∈ out.1, JudgedWrong lib run → run.before.sock.build ≠ 6141) →
      (∀ run ∈ out.1, ∀ asked ∈ realmsAsked run.calls,
        FitsReply lib run.before.sock.toSession asked.2) →
      OneFamily out.1 := by
  intro out hwrong hfits run hmem
  have hlinked : Linked lib cfg e _ out.1 out.2.sock.toSession :=
    runInputs_linked lib cfg e inputs
      (World.start lib now authTimeout patchPolicy remote_address env)
  have hone := (hlinked.ran run hmem).oneFamily haddress (hwrong run hmem) (hfits run hmem)
  exact hone run List.mem_cons_self

def Replies.listing : Replies :=
  { Replies.verifying 3 with realms := [listedRealm], accountId := some (7,[]) }

theorem replies_keep_family_sample :
    let out := runInputs referenceLibrary ⟨0,600,false⟩ Replies.listing.env (logonInputs 6141)
      (World.start referenceLibrary 0 30 ⟨false,[]⟩ (ascii "10.0.0.1") ())
    (out.1.flatMap fun run => (sentBytes run.calls).filterMap replyKind) = [.proof,.realms] ∧
      OneFamily out.1 := by
  intro out
  -- one evaluation of the run serves the three checks
  obtain ⟨hwrong,hfits,hkinds⟩ : (∀ run ∈ out.1, JudgedWrong referenceLibrary run →
        run.before.sock.build ≠ 6141) ∧
      (∀ run ∈ out.1, ∀ asked ∈ realmsAsked run.calls,
        FitsReply referenceLibrary run.before.sock.toSession asked.2) ∧
      (out.1.flatMap fun run => (sentBytes run.calls).filterMap replyKind) =
        [.proof,.realms] := by decide +kernel
  have hone := replies_keep_family referenceLibrary ⟨0,600,false⟩ Replies.listing.env
    (logonInputs 6141) 0 30 ⟨false,[]⟩ (ascii "10.0.0.1") () referenceLibrary_address hwrong hfits
  exact ⟨hkinds,hone⟩

def wrongInputs (build : UInt16) : List (Input Unit) :=
  (logonInputs build).take 1 ++ [.data [] ([AuthCmd.authLogonProof.code] ++ leBytes 74 7)]

/-- The last vanilla build gets a failure of four bytes. -/
theorem wrongPassword_last_vanilla :
    ¬ OneFamily (runInputs referenceLibrary ⟨0,600,false⟩ Replies.listing.env
      (wrongInputs 6141)
      (World.start referenceLibrary 0 30 ⟨false,[]⟩ (ascii "10.0.0.1") ())).1 := by
  intro hone
  have hfound : ((runInputs referenceLibrary ⟨0,600,false⟩ Replies.listing.env
      (wrongInputs 6141) (World.start referenceLibrary 0 30 ⟨false,[]⟩
        (ascii "10.0.0.1") ())).1[1]?.map fun run =>
      (run.before.sock.build,sentBytes run.calls)) = some (6141,[[1,4,3,0]]) := by
    decide +kernel
  obtain ⟨run,hrun,heq⟩ := Option.map_eq_some_iff.mp hfound
  obtain ⟨hbuild,hsent⟩ := Prod.mk.inj heq
  have hpolicy : findClientBuildPolicy run.before.sock.build.toNat =
      some ⟨⟨6141,1,12,3,32⟩,.vanilla⟩ := by
    rw [hbuild]
    decide
  have hlayout := hone run (List.mem_of_getElem? hrun) _ hpolicy [1,4,3,0]
    (by simp [hsent]) .wrongPassword (by decide)
  exact absurd hlayout.1 (by decide)

end Realmd
