import Realmd.Authentication
import Realmd.ProgramLogic
set_option autoImplicit false

namespace Realmd
open ByteCodec Interaction

/-- What a client makes of the replies to a frame it sent. -/
def heard : AuthCmd → List Bytes → EStatus
  | .authLogonChallenge, [reply] => if reply.take 3 = [0,0,0] then .logonProof else .closed
  | .authReconnectChallenge, [reply] => if reply.take 2 = [2,0] then .reconProof else .closed
  | .authLogonProof, [reply] => if reply.take 2 = [1,0] then .authed else .closed
  | .authLogonProof, [_,offer] => if offer.head? = some 0x30 then .patch else .closed
  | .authReconnectProof, [reply] => if reply.take 2 = [3,0] then .authed else .closed
  | .realmList, _ => .authed
  | _, _ => .closed

/-- The replies there can be to a frame. Only an offered archive comes in two. -/
def Replying : AuthCmd → List Bytes → Prop
  | .authLogonChallenge, replies => replies.length ≤ 1 ∧ ∀ r ∈ replies, r.take 2 = [0,0]
  | .authReconnectChallenge, replies => replies.length ≤ 1 ∧ ∀ r ∈ replies, r.take 2 = [2,0]
  | .authLogonProof, replies =>
      replies.length ≤ 1 ∧ (∀ r ∈ replies, r.head? = some 1 ∨ r = [0,0,9]) ∨
        ∃ artifact, replies = [updateNotice,xferInit artifact]
  | .authReconnectProof, replies => replies.length ≤ 1 ∧ ∀ r ∈ replies, r.take 2 = [3,0]
  | .realmList, replies => replies.length ≤ 1 ∧ ∀ r ∈ replies, r.head? = some 0x10
  | _, replies => replies = []

theorem replying_nil (cmd : AuthCmd) : Replying cmd [] := by
  cases cmd <;> simp [Replying]

theorem replying_logonProof {reply : Bytes} (h : reply.head? = some 1 ∨ reply = [0,0,9]) :
    Replying .authLogonProof [reply] :=
  .inl ⟨Nat.le_refl 1,by simpa using h⟩

/-- A frame was answered, and the answer tells the client what the session waits for. -/
structure Answered (cmd : AuthCmd) (sender : Bool) (t : List AuthEvent) (s : Session) :
    Prop where
  replies : Replying cmd (sentBytes t)
  status : sender = true → s.m_closed = false → s.status = heard cmd (sentBytes t)

structure Sends (s : Session) (bytes : Bytes) (t : List AuthEvent) (s' : Session) : Prop where
  quiet : s.Quiet s'
  sent : sentBytes t = [] ∨ sentBytes t = [bytes]
  sends : s.m_sender = true → s'.m_closed = false → sentBytes t = [bytes]
  shut : s.m_closed = true ∨ s.m_sender = false → sentBytes t = []

theorem Sends.sender {s s' : Session} {bytes : Bytes} {t : List AuthEvent}
    (h : Sends s bytes t s') : s'.m_sender = s.m_sender := by
  rw [h.quiet.same]

theorem sentBytes_cons {c : Call} (hc : ∀ bytes, c ≠ .sender bytes) (r : Reply c)
    (t : List AuthEvent) : sentBytes (⟨c,r⟩ :: t) = sentBytes t := by
  cases c <;> first | rfl | exact absurd rfl (hc _)

section
variable {lib : SharedLibrary} {cfg : WrongPass} {s : Session} {bytes : Bytes}

theorem Session.send_traces (hne : bytes ≠ []) : (s.send bytes).Traces (Sends s bytes) := by
  intro t s' h
  obtain ⟨hq,ht⟩ := send_runs h
  refine ⟨hq,?_,?_,?_⟩
  · rcases send_once h hne with hsent | ⟨hsent,-⟩
    · exact .inr hsent
    · exact .inl hsent
  · intro hsender hopen
    rcases send_once h hne with hsent | ⟨-,hc | hs⟩
    · exact hsent
    · simp [hopen] at hc
    · rw [hq.same] at hs
      exact absurd hsender (by simpa using hs)
  · intro hshut
    unfold send at h
    rw [if_neg hne] at h
    obtain ⟨t₁,t₂,s₁,rfl,hsync,hrest⟩ := Prog.runs_bind.mp h
    obtain ⟨hq₁,ht₁⟩ := sync_runs hsync
    have hstill : (s₁.m_closed || !s₁.m_sender) = true := by
      rcases hshut with hc | hs
      · simp [hq₁.closed hc]
      · rw [hq₁.same]
        simp [hs]
    rw [if_pos hstill] at hrest
    obtain ⟨rfl,rfl⟩ := hrest
    rw [sentBytes_append,sentBytes_otherThreads ht₁]
    rfl

theorem returned_traces {cmd : AuthCmd} {sender : Bool} {p : AuthProg Session}
    (h : p.Traces (Answered cmd sender)) (result : Bool) :
    (p >>= fun s' => Prog.ret (result,s') : AuthProg (Bool × Session)).Traces
      fun t r => Answered cmd sender t r.2 := by
  refine h.bind fun t s' ha => Prog.traces_ret ?_
  rw [List.append_nil]
  exact ha

theorem Answered.cons {cmd : AuthCmd} {sender : Bool} {t : List AuthEvent} {s' : Session}
    (h : Answered cmd sender t s') {c : Call} (hc : ∀ bytes, c ≠ .sender bytes) (r : Reply c) :
    Answered cmd sender (⟨c,r⟩ :: t) s' := by
  have hsame := sentBytes_cons hc r t
  exact ⟨by rw [hsame]; exact h.replies,by rw [hsame]; exact h.status⟩

theorem answered_ask {cmd : AuthCmd} {sender : Bool} {c : Call} {α : Type} {left : α → Session}
    {k : Reply c → AuthProg α} (hc : ∀ bytes, c ≠ .sender bytes)
    (h : ∀ r, (k r).Traces fun t a => Answered cmd sender t (left a)) :
    (Prog.ask c k).Traces fun t a => Answered cmd sender t (left a) :=
  Prog.traces_ask fun r => (h r).mono fun _ _ ha => ha.cons hc r

theorem Session.answer_traces {cmd : AuthCmd} (hne : bytes ≠ [])
    (hone : Replying cmd [bytes]) (hview : s.status = heard cmd [bytes]) :
    (s.send bytes).Traces (Answered cmd s.m_sender) := by
  refine (Session.send_traces hne).mono fun t s' h => ?_
  constructor
  case replies =>
    rcases h.sent with hsent | hsent <;> rw [hsent]
    · exact replying_nil cmd
    · exact hone
  case status =>
    intro hsender hopen
    rw [h.sends hsender hopen,h.quiet.status,hview]

theorem Session.fail_traces {cmd : AuthCmd} {sender : Bool} :
    s.close.Traces (Answered cmd sender) := by
  intro t s' hclose
  obtain ⟨t₁,t₂,s₁,rfl,hsync,rfl,rfl⟩ := Prog.runs_bind.mp hclose
  have ht := sentBytes_otherThreads (sync_runs hsync).2
  constructor
  case replies => simpa [ht] using replying_nil cmd
  case status =>
    intro _ hopen
    simp [closeConnection] at hopen

theorem refuse_traces (hs : s.status = .closed) {result : AuthResult}
    (hr : result.code ≠ 0) : (refuse s result).Traces fun t r =>
      Answered .authLogonChallenge s.m_sender t r.2 := by
  refine returned_traces (Session.answer_traces (by simp [challengeFailure]) ?_ ?_) true
  · simp [Replying,challengeFailure,AuthCmd.code]
  · simp [heard,challengeFailure,AuthCmd.code,hr,hs]

theorem takeVerifier_traces (row : AccountRow) :
    (takeVerifier lib s row).Traces fun t s' =>
      sentBytes t = [] ∧ s'.m_sender = s.m_sender := by
  intro t s' h
  cases takeVerifier_runs h with
  | stored hv hs => exact ⟨rfl,rfl⟩
  | derived h salt queued => exact ⟨rfl,rfl⟩

theorem Answered.append {cmd : AuthCmd} {sender : Bool} {t t' : List AuthEvent} {s' : Session}
    (ht : sentBytes t = []) (h : Answered cmd sender t' s') :
    Answered cmd sender (t ++ t') s' := by
  have hsame : sentBytes (t ++ t') = sentBytes t' := by
    rw [sentBytes_append,ht,List.nil_append]
  exact ⟨by rw [hsame]; exact h.replies,by rw [hsame]; exact h.status⟩

theorem challengeAccount_traces (row : AccountRow) (clientLocale : Option Bytes) :
    (challengeAccount lib s row clientLocale).Traces
      (Answered .authLogonChallenge s.m_sender) := by
  refine (takeVerifier_traces row).bind ?_
  intro t s₁ ⟨ht,hsender⟩
  rw [← hsender]
  refine Prog.Traces.mono (T := Answered .authLogonChallenge s₁.m_sender) ?_
    fun t' s' h => h.append ht
  refine answered_ask (by simp) fun b => answered_ask (by simp) fun unk3 => ?_
  refine Session.answer_traces ?_ ?_ ?_
  · simp [challengeReply]
  · simp [Replying,challengeReply,AuthCmd.code]
  · simp [heard,challengeReply,AuthCmd.code,AuthResult.code,Session.expectProof]

theorem lockedAccountResult_code (build : Nat) :
    (lockedAccountResultForBuild build).code ≠ 0 := by
  unfold lockedAccountResultForBuild
  split
  · decide
  · split <;> decide

theorem logonChallenge_traces (buf : Bytes) (hs : s.status = .closed) :
    (logonChallenge lib s buf).Traces fun t r =>
      Answered .authLogonChallenge s.m_sender t r.2 := by
  have hclaim : (s.claim lib (challengeFields buf)).status = .closed := hs
  unfold logonChallenge
  simp only
  split
  · exact Prog.traces_ret ⟨replying_nil _,fun _ _ => hs⟩
  · unfold challengeGates
    refine answered_ask (by simp) fun banned => ?_
    cases banned with
    | some _ => exact refuse_traces hclaim (by decide)
    | none =>
      refine answered_ask (by simp) fun found => ?_
      cases found with
      | none => exact refuse_traces hclaim (by decide)
      | some row =>
        simp only [Prog.bind]
        split
        · exact refuse_traces hclaim (lockedAccountResult_code _)
        · refine answered_ask (by simp) fun dates => ?_
          cases dates with
          | some dates => exact refuse_traces hclaim (by split <;> decide)
          | none => exact returned_traces (challengeAccount_traces row _) true

theorem reconnectChallenge_traces (buf : Bytes) (hs : s.status = .closed) :
    (reconnectChallenge lib s buf).Traces fun t r =>
      Answered .authReconnectChallenge s.m_sender t r.2 := by
  unfold reconnectChallenge
  simp only
  split
  · exact Prog.traces_ret ⟨replying_nil _,fun _ _ => hs⟩
  · refine answered_ask (by simp) fun found => ?_
    cases found with
    | none => exact returned_traces Session.fail_traces false
    | some sessionkey =>
      refine returned_traces (answered_ask (c := .setRand 128) (by simp) fun drawn => ?_) true
      refine Session.answer_traces ?_ ?_ ?_
      · simp [reconnectChallengeReply]
      · simp [Replying,reconnectChallengeReply,AuthCmd.code]
      · simp [heard,reconnectChallengeReply,AuthCmd.code]

theorem sendInvalidVersion_traces (hs : s.status = .closed) :
    (sendInvalidVersion s).Traces (Answered .authLogonProof s.m_sender) := by
  refine Session.answer_traces (by simp) ?_ ?_
  · exact replying_logonProof (.inr rfl)
  · simp [heard,AuthCmd.code,AuthResult.code,hs]

theorem Session.deactivate_traces : s.deactivate.Traces fun t s' =>
    s.deactivateAuthDeadline.Quiet s' ∧ sentBytes t = [] := by
  intro t s' h
  obtain ⟨hq,ht⟩ := deactivate_runs h
  exact ⟨hq,sentBytes_otherThreads ht⟩

theorem offerPatch_traces (hs : s.status = .closed) :
    (offerPatch s).Traces fun t r => Answered .authLogonProof s.m_sender t r.2 := by
  refine answered_ask (c := .openArtifact (patchFile s)) (by simp) fun found => ?_
  cases found with
  | none => exact returned_traces (sendInvalidVersion_traces hs) true
  | some artifact =>
    have hnotice : (Session.send { s with m_patchArtifact := some artifact }
        updateNotice).Traces (Sends _ updateNotice) :=
      Session.send_traces (by simp [updateNotice])
    refine hnotice.bind ?_
    intro t₁ s₁ h₁
    have hoffer : (s₁.send (xferInit artifact)).Traces (Sends s₁ (xferInit artifact)) :=
      Session.send_traces (by simp [xferInit])
    refine hoffer.bind ?_
    intro t₂ s₂ h₂
    refine Session.deactivate_traces.bind ?_
    intro t₃ s₃ ⟨hq,ht₃⟩
    refine Prog.traces_ret ?_
    have hsent : sentBytes (t₁ ++ (t₂ ++ (t₃ ++ []))) = sentBytes t₁ ++ sentBytes t₂ := by
      simp [sentBytes_append,ht₃]
    constructor
    case replies =>
      rw [hsent]
      have hnotice : Replying .authLogonProof [updateNotice] := replying_logonProof (.inl rfl)
      by_cases hup : s.m_sender = true ∧ s₁.m_closed = false
      · rw [h₁.sends hup.1 hup.2]
        rcases h₂.sent with hsent₂ | hsent₂ <;> rw [hsent₂]
        · exact hnotice
        · exact .inr ⟨artifact,rfl⟩
      · have hshut : s₁.m_closed = true ∨ s₁.m_sender = false := by
          rw [h₁.sender]
          rcases not_and_or.mp hup with hs | hc
          · exact .inr (by simpa using hs)
          · exact .inl (by simpa using hc)
        rw [h₂.shut hshut]
        rcases h₁.sent with hsent₁ | hsent₁ <;> rw [hsent₁]
        · exact replying_nil _
        · exact hnotice
    case status =>
      intro hsender hopen
      have hopen₂ : s₂.m_closed = false := hq.opened hopen
      have hopen₁ : s₁.m_closed = false := h₂.quiet.opened hopen₂
      have hsender₁ : s₁.m_sender = true := by
        rw [h₁.quiet.same]
        exact hsender
      rw [hsent,h₁.sends hsender hopen₁,h₂.sends hsender₁ hopen₂,hq.status]
      rfl

theorem succeed_traces {cmd : AuthCmd} (hne : bytes ≠ [])
    (hone : Replying cmd [bytes]) (hview : heard cmd [bytes] = .authed) :
    (do
      let s ← s.send bytes
      let s ← { s with status := .authed }.deactivate
      let _ ← ask .countAuthed
      return (true,s) : AuthProg (Bool × Session)).Traces
        fun t r => Answered cmd s.m_sender t r.2 := by
  intro t r h
  obtain ⟨-,hq,-,honce⟩ := Session.succeed_runs h hne
  constructor
  case replies =>
    rcases honce with hsent | ⟨hsent,-⟩ <;> rw [hsent]
    · exact hone
    · exact replying_nil cmd
  case status =>
    intro hsender hopen
    rcases honce with hsent | ⟨-,hc | hs⟩
    · rw [hsent,hview]
      exact hq.status
    · simp [hopen] at hc
    · have hkept : r.2.m_sender = s.m_sender := by
        rw [hq.same]
        rfl
      simp [hkept,hsender] at hs

theorem acceptLogon_traces (A M : Nat) (hs : s.status = .closed) :
    (acceptLogon lib s A M).Traces fun t r => Answered .authLogonProof s.m_sender t r.2 := by
  unfold acceptLogon
  simp only
  split
  · exact offerPatch_traces hs
  split
  · exact returned_traces (sendInvalidVersion_traces hs) true
  · refine answered_ask (c := .directPExecute _) (by simp) fun stored => ?_
    cases stored with
    | true =>
      refine succeed_traces (proofReply_ne_nil _ _) (replying_logonProof (.inl ?_)) ?_
      · unfold proofReply
        split <;> rfl
      · unfold proofReply
        split <;> simp [heard,AuthCmd.code]
    | false => exact returned_traces Session.fail_traces false

theorem judgeFailures_traces (found : Option (UInt32 × UInt32)) :
    (judgeFailures lib cfg s found).Traces fun t r => sentBytes t = [] ∧ r.2 = s := by
  cases found with
  | none => exact Prog.traces_ret ⟨rfl,rfl⟩
  | some counted =>
    obtain ⟨id,failed_logins⟩ := counted
    simp only [judgeFailures]
    split
    · exact Prog.traces_ask fun _ => Prog.traces_ret ⟨rfl,rfl⟩
    · exact Prog.traces_ret ⟨rfl,rfl⟩

theorem rejectLogon_traces (hs : s.status = .closed) :
    (rejectLogon lib cfg s).Traces fun t r => Answered .authLogonProof s.m_sender t r.2 := by
  have hreply : (wrongPasswordReply s.build).head? = some 1 ∧
      heard .authLogonProof [wrongPasswordReply s.build] = .closed := by
    unfold wrongPasswordReply
    split <;> exact ⟨rfl,rfl⟩
  have hne : wrongPasswordReply s.build ≠ [] := by
    intro h
    simp [h] at hreply
  refine (Session.answer_traces hne (replying_logonProof (.inl hreply.1))
    (hs.trans hreply.2.symm)).bind ?_
  intro t s' ha
  have hmore : ∀ {t' : List AuthEvent}, sentBytes t' = [] →
      Answered .authLogonProof s.m_sender (t ++ t') s' := by
    intro t' ht'
    have hsame : sentBytes (t ++ t') = sentBytes t := by
      rw [sentBytes_append,ht',List.append_nil]
    exact ⟨by rw [hsame]; exact ha.replies,by rw [hsame]; exact ha.status⟩
  split
  · refine Prog.traces_ask fun _ => Prog.traces_ask fun found => ?_
    refine (judgeFailures_traces found).mono ?_
    rintro t' r ⟨ht',rfl⟩
    exact hmore ht'
  · exact Prog.traces_ret (hmore rfl)

theorem logonProof_traces (lp : Bytes) :
    (logonProof lib cfg s lp).Traces fun t r => Answered .authLogonProof s.m_sender t r.2 := by
  unfold logonProof
  simp only
  split
  · exact Prog.traces_ret ⟨replying_nil _,fun _ _ => rfl⟩
  split
  · exact acceptLogon_traces (s := s.closeStatus.deriveKey lib _) _ _ rfl
  · exact rejectLogon_traces (s := s.closeStatus.deriveKey lib _) rfl

theorem reconnectProof_traces (lp : Bytes) :
    (reconnectProof lib s lp).Traces fun t r =>
      Answered .authReconnectProof s.m_sender t r.2 := by
  unfold reconnectProof
  simp only
  split
  · exact Prog.traces_ret ⟨replying_nil _,fun _ _ => rfl⟩
  split
  · refine answered_ask (c := .directPExecute _) (by simp) fun stored => ?_
    cases stored with
    | true =>
      refine succeed_traces (s := s.closeStatus) (by simp [reconnectReply]) ?_ ?_
      · simp [Replying,reconnectReply,AuthCmd.code]
      · simp [heard,reconnectReply,AuthCmd.code]
    | false => exact returned_traces Session.fail_traces false
  · exact returned_traces Session.fail_traces false

theorem realmEntries_traces (entry : Realm → UInt8 → Bytes) (acctid : UInt32)
    (realms : List Realm) :
    (realmEntries entry acctid realms).Traces fun t _ => sentBytes t = [] := by
  induction realms with
  | nil => exact Prog.traces_ret rfl
  | cons realm rest ih =>
    refine Prog.traces_ask fun numchars => ih.bind fun t tail ht => Prog.traces_ret ?_
    rw [List.append_nil]
    exact ht

theorem loadRealmlist_traces (acctid : UInt32) :
    (loadRealmlist lib s acctid).Traces fun t _ => sentBytes t = [] := by
  refine Prog.traces_ask fun realms => ?_
  simp only [Prog.bind]
  split <;> refine (realmEntries_traces _ _ _).bind fun t entries ht => Prog.traces_ret ?_ <;>
    rw [List.append_nil] <;> exact ht

theorem realmList_traces (hs : s.status = .authed) :
    (realmList lib s).Traces fun t r => Answered .realmList s.m_sender t r.2 := by
  refine answered_ask (c := .selectAccountId _) (by simp) fun found => ?_
  cases found with
  | none => exact returned_traces Session.fail_traces false
  | some account =>
    refine answered_ask (c := .updateRealmsIfNeed) (by simp) fun _ => ?_
    refine (loadRealmlist_traces account.1).bind ?_
    intro t pkt ht
    have hanswer : (s.send ([AuthCmd.realmList.code] ++ leBytes 2 pkt.length ++ pkt)).Traces
        (Answered .realmList s.m_sender) := by
      refine Session.answer_traces ?_ ?_ hs
      · simp
      · simp [Replying,AuthCmd.code]
    exact (returned_traces hanswer true).mono fun t' r ha => ha.append ht

theorem beginPatchStream_answers {cmd : AuthCmd} {offset : UInt64} (hcmd : cmd.isTransfer = true)
    {t : List AuthEvent} {r : Bool × Session} (h : (beginPatchStream s offset).Runs t r) :
    Answered cmd s.m_sender t r.2 := by
  obtain ⟨ht,hfail,hq⟩ := beginPatchStream_runs h
  have hsent := sentBytes_streaming ht
  constructor
  case replies =>
    rw [hsent]
    exact replying_nil cmd
  case status =>
    intro _ hopen
    have hview : heard cmd [] = .closed := by cases cmd <;> first | rfl | contradiction
    rw [hsent,hview]
    rcases hq with ⟨-,hr,-⟩ | hq
    · simp [hfail hr] at hopen
    · exact hq.status

theorem xferCancel_answers {t : List AuthEvent} {r : Bool × Session}
    (h : (xferCancel s).Runs t r) : Answered .xferCancel s.m_sender t r.2 := by
  obtain ⟨-,-,hclosed,ht⟩ := xferCancel_runs h
  constructor
  case replies =>
    rw [sentBytes_streaming ht]
    exact replying_nil _
  case status =>
    intro _ hopen
    simp [hclosed] at hopen

end

section
variable {lib : SharedLibrary} {cfg : WrongPass} {ω : Type} {e : AuthEnv ω} {run : HandlerRun ω}

theorem Ran.answers (h : Ran lib cfg e run) :
    Answered run.cmd run.before.sock.m_sender run.calls run.after.sock.toSession := by
  have hruns := h.runs
  have hlist := h.of_realmList
  cases hc : run.cmd <;> rw [hc] at hruns
  case authLogonChallenge => exact logonChallenge_traces _ rfl _ _ hruns
  case authReconnectChallenge => exact reconnectChallenge_traces _ rfl _ _ hruns
  case authLogonProof => exact logonProof_traces _ _ _ hruns
  case authReconnectProof => exact reconnectProof_traces _ _ _ hruns
  case realmList => exact realmList_traces (hlist hc) _ _ hruns
  case xferAccept => exact beginPatchStream_answers rfl hruns
  case xferResume => exact beginPatchStream_answers rfl hruns
  case xferCancel => exact xferCancel_answers hruns
  case xferInitiate | xferData =>
    have hnone := h.state
    rw [hc] at hnone
    contradiction

end

/-- Where a client takes its session to be, from the replies to the last frame it sent. -/
def clientView {ω : Type} (h : List (HandlerRun ω)) : EStatus :=
  match h.getLast? with
  | none => .challenge
  | some run => heard run.cmd (sentBytes run.calls)

structure InView {ω : Type} (h : List (HandlerRun ω)) (s : Session) : Prop where
  sender : s.m_sender = true
  status : s.m_closed = false → s.status = clientView h

section
variable {lib : SharedLibrary} {cfg : WrongPass} {ω : Type} {e : AuthEnv ω} {run : HandlerRun ω}
  {h : List (HandlerRun ω)} {s s' : Session}

theorem InView.quiet (hq : s.Quiet s') (hv : InView h s) : InView h s' := by
  constructor
  case sender =>
    rw [hq.same]
    exact hv.sender
  case status =>
    intro hopen
    rw [hq.status]
    exact hv.status (hq.opened hopen)

theorem InView.ran (hran : Ran lib cfg e run) (hv : InView h run.before.sock.toSession) :
    InView (h ++ [run]) run.after.sock.toSession := by
  have hsender : run.after.sock.m_sender = run.before.sock.m_sender :=
    congrArg (·.2.2) hran.settings
  constructor
  case sender => exact hsender.trans hv.sender
  case status =>
    intro hopen
    simp only [clientView,List.getLast?_append,List.getLast?_singleton,Option.some_or]
    exact hran.answers.status hv.sender hopen

theorem Linked.inView (hl : Linked lib cfg e s h s') (hs : InView ([] : List (HandlerRun ω)) s) :
    InView h s' :=
  hl.rule (P := InView) InView.quiet InView.ran hs

end

/-- In every run, whatever other threads do, a client that goes by the replies it got
knows what its session waits for: every frame that was handled was one for that status,
got the replies of its kind, and a session that is still open is in the status the client
takes it to be in. -/
theorem client_knows_status (lib : SharedLibrary) (cfg : WrongPass) {ω : Type} (e : AuthEnv ω)
    (inputs : List (Input ω)) (now authTimeout : Nat) (patchPolicy : PatchPolicy)
    (remote_address : Bytes) (env : ω) :
    let out := runInputs lib cfg e inputs
      (World.start lib now authTimeout patchPolicy remote_address env)
    (out.2.sock.m_closed = false → out.2.sock.status = clientView out.1) ∧
    ∀ pre run post, out.1 = pre ++ run :: post →
      run.before.sock.status = clientView pre ∧
      run.cmd.streamState = some (clientView pre).streamState ∧
      Replying run.cmd (sentBytes run.calls) := by
  intro out
  have hlinked : Linked lib cfg e _ out.1 out.2.sock.toSession :=
    runInputs_linked lib cfg e inputs
      (World.start lib now authTimeout patchPolicy remote_address env)
  have hstart : InView ([] : List (HandlerRun ω))
      (World.start lib now authTimeout patchPolicy remote_address env).sock.toSession :=
    ⟨rfl,fun _ => rfl⟩
  refine ⟨(hlinked.inView hstart).status,?_⟩
  intro pre run post hsplit
  rw [hsplit] at hlinked
  obtain ⟨hpre,hran,-⟩ := hlinked.split
  have hstatus := (hpre.inView hstart).status hran.opened
  refine ⟨hstatus,?_,hran.answers.replies⟩
  rw [← hstatus]
  exact hran.state

end Realmd
