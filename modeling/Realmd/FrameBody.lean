import Realmd.Dispatch
set_option autoImplicit false

namespace Realmd
open ByteCodec Interaction

def ReadBuffer.took (r : ReadBuffer) (n : Nat) (ops : List ReadOp) : ReadBuffer :=
  { r with m_readPos := r.m_readPos+n, reads := r.reads ++ ops }

@[simp] theorem ReadBuffer.took_zero (r : ReadBuffer) : r.took 0 [] = r := by
  simp [took]

@[simp] theorem ReadBuffer.took_readBuf (r : ReadBuffer) (n : Nat) (ops : List ReadOp) :
    (r.took n ops).m_readBuf = r.m_readBuf := rfl

@[simp] theorem ReadBuffer.took_readPos (r : ReadBuffer) (n : Nat) (ops : List ReadOp) :
    (r.took n ops).m_readPos = r.m_readPos+n := rfl

@[simp] theorem ReadBuffer.took_unread (r : ReadBuffer) (n : Nat) (ops : List ReadOp) :
    (r.took n ops).unread = r.unread.drop n := by
  simp [unread,Nat.add_comm]

theorem ReadBuffer.unread_length (r : ReadBuffer) :
    r.unread.length = r.m_readBuf.length-r.m_readPos := by
  simp [unread]

theorem ReadBuffer.took_recvLen {r : ReadBuffer} {n len : Nat} {ops : List ReadOp}
    (hpos : r.m_readPos ≤ r.m_readBuf.length) (h : n+len ≤ r.unread.length) :
    len ≤ (r.took n ops).recvLen := by
  have hl := r.unread_length
  rw [recvLen,took_readPos,took_readBuf,if_pos (by omega)]
  omega

theorem ReadBuffer.took_require {r : ReadBuffer} {n len : Nat} {ops : List ReadOp}
    (hpos : r.m_readPos ≤ r.m_readBuf.length) (h : n+len ≤ r.unread.length) :
    (r.took n ops).require len =
      (true,r.took n (ops ++ [⟨r.m_readPos+n,len,true⟩])) := by
  rw [require,decide_eq_true (took_recvLen hpos h)]
  simp [note,took]

theorem ReadBuffer.took_recvSkip {r : ReadBuffer} {n len : Nat} {ops : List ReadOp}
    (hpos : r.m_readPos ≤ r.m_readBuf.length) (h : n+len ≤ r.unread.length) :
    (r.took n ops).recvSkip len =
      r.took (n+len) (ops ++ [⟨r.m_readPos+n,len,true⟩]) := by
  rw [recvSkip,decide_eq_true (took_recvLen hpos h)]
  simp [note,took,Nat.add_assoc]

theorem ReadBuffer.took_recv {r : ReadBuffer} {n len : Nat} {ops : List ReadOp}
    (hpos : r.m_readPos ≤ r.m_readBuf.length) (h : n+len ≤ r.unread.length) :
    (r.took n ops).recv len = (some (slice r.unread n len),
      r.took (n+len) (ops ++ [⟨r.m_readPos+n,len,true⟩])) := by
  have hn : ¬(r.took n ops).recvLen < len := Nat.not_lt.mpr (took_recvLen hpos h)
  rw [recv,if_neg hn,took_recvSkip hpos h,took_unread]
  rfl

def AuthSocket.took (sock : AuthSocket) (n : Nat) (ops : List ReadOp) : AuthSocket :=
  { sock with toReadBuffer := sock.toReadBuffer.took n ops }

/-- Cursor uses that succeed and stay inside a frame of `size` bytes. -/
def Inside (start size : Nat) (ops : List ReadOp) : Prop :=
  ∀ op ∈ ops, op.ok = true ∧ start ≤ op.start ∧ op.start+op.len ≤ start+size

variable (lib : SharedLibrary) (cfg : WrongPass)

/-- What each handler does once its frame is in hand. -/
def frameBody (cmd : AuthCmd) (frame : Bytes) (s : Session) : AuthProg (Bool × Session) :=
  match cmd with
  | .authLogonChallenge => logonChallenge lib s.closeStatus (frame ++ [0])
  | .authReconnectChallenge =>
      reconnectChallenge lib s.closeStatus (frame ++ [0])
  | .authLogonProof => logonProof lib cfg s frame
  | .authReconnectProof => reconnectProof lib s frame
  | .realmList => realmList lib s
  | .xferAccept => beginPatchStream s 0
  | .xferResume => beginPatchStream s (UInt64.ofNat (leNat (slice frame 1 8)))
  | .xferCancel => xferCancel s
  | .xferInitiate | .xferData => .ret (false,s)

theorem readChallenge_complete {sock : AuthSocket}
    (hpos : sock.m_readPos ≤ sock.m_readBuf.length) {size : Nat}
    (hf : ChallengeFrame sock.toReadBuffer.unread size) :
    ∃ ops, Inside sock.m_readPos size ops ∧
      sock.readChallenge = (some (sock.toReadBuffer.unread.take size ++ [0]),
        { sock.took size ops with status := .closed }) := by
  obtain ⟨ha,hb,hs,hl,-⟩ := hf
  obtain ⟨r,session⟩ := sock
  simp only at hpos hb hs hl ha ⊢
  have hheader : slice r.unread 0 4 = r.unread.take 4 := rfl
  have hlen₂ : byteAt (r.unread.take 4) 2 = byteAt r.unread 2 := byteAt_take (by omega)
  have hlen₃ : byteAt (r.unread.take 4) 3 = byteAt r.unread 3 := byteAt_take (by omega)
  have hjoin : r.unread.take 4 ++ slice r.unread 4 (30+(byteAt r.unread 33).toNat) =
      r.unread.take size := by
    rw [slice,← List.take_add,hs]
    congr 1
    omega
  refine ⟨[⟨r.m_readPos+0,35,true⟩,⟨r.m_readPos+0,4,true⟩,
    ⟨r.m_readPos+4,30+(byteAt r.unread 33).toNat,true⟩,
    ⟨r.m_readPos+4,30+(byteAt r.unread 33).toNat,true⟩],?_,?_⟩
  · intro op hop
    simp only [List.mem_cons,List.not_mem_nil,or_false] at hop
    rcases hop with rfl | rfl | rfl | rfl <;> exact ⟨rfl,by simp only; omega⟩
  · have h₁ : (r.took 0 []).require 35 = _ := ReadBuffer.took_require hpos (by omega)
    rw [ReadBuffer.took_zero] at h₁
    have hmin : decide (30+(byteAt r.unread 33).toNat < 31) = false := by
      rw [decide_eq_false_iff_not]
      omega
    simp only [AuthSocket.readChallenge,sizeofChallenge,h₁,if_true,List.nil_append]
    rw [ReadBuffer.took_recv hpos (by omega)]
    simp only [hheader,Option.getD_some,hlen₂,hlen₃,hb]
    rw [ReadBuffer.took_require hpos (by omega)]
    simp only [hmin,Bool.not_true,Bool.or_self,Bool.false_eq_true,if_false]
    rw [ReadBuffer.took_recv hpos (by omega)]
    simp only [Nat.zero_add,Option.getD_some,hjoin,List.cons_append,List.nil_append,hs]
    rw [show 4+(30+(byteAt r.unread 33).toNat) = 34+(byteAt r.unread 33).toNat by omega]
    rfl

def AuthCmd.row : AuthCmd → Option AuthHandler
  | .authLogonChallenge => some ⟨.authLogonChallenge,.challenge,handleLogonChallenge lib⟩
  | .authLogonProof => some ⟨.authLogonProof,.logonProof,handleLogonProof lib cfg⟩
  | .authReconnectChallenge =>
      some ⟨.authReconnectChallenge,.challenge,handleReconnectChallenge lib⟩
  | .authReconnectProof => some ⟨.authReconnectProof,.reconProof,handleReconnectProof lib⟩
  | .realmList => some ⟨.realmList,.authed,handleRealmList lib⟩
  | .xferAccept => some ⟨.xferAccept,.patch,handleXferAccept⟩
  | .xferResume => some ⟨.xferResume,.patch,handleXferResume⟩
  | .xferCancel => some ⟨.xferCancel,.patch,handleXferCancel⟩
  | .xferInitiate | .xferData => none

theorem handlerTable_find (cmd : AuthCmd) :
    (handlerTable lib cfg).find? (·.cmd.code == cmd.code) = cmd.row lib cfg := by
  cases cmd <;> rfl

theorem AuthCmd.row_of_streamState {cmd : AuthCmd} {status : EStatus}
    (h : cmd.streamState = some status.streamState) :
    ∃ row, cmd.row lib cfg = some row ∧ row.cmd = cmd ∧ row.status = status := by
  cases cmd <;> cases status <;>
    first
    | exact ⟨_,rfl,rfl,rfl⟩
    | simp [AuthCmd.streamState,EStatus.streamState] at h

theorem handleFixed_skip {r : ReadBuffer} {size : Nat}
    (hpos : r.m_readPos ≤ r.m_readBuf.length) (hl : size ≤ r.unread.length) :
    Inside r.m_readPos size [⟨r.m_readPos+0,size,true⟩] ∧
      r.recvSkip size = r.took size [⟨r.m_readPos+0,size,true⟩] := by
  constructor
  · intro op hop
    rw [List.mem_singleton.mp hop]
    exact ⟨rfl,by simp only; omega⟩
  · have h : (r.took 0 []).recvSkip size = _ := ReadBuffer.took_recvSkip hpos (by omega)
    rw [ReadBuffer.took_zero] at h
    simpa using h

theorem withStruct_complete {sock : AuthSocket} {size : Nat}
    (hpos : sock.m_readPos ≤ sock.m_readBuf.length)
    (hl : size ≤ sock.toReadBuffer.unread.length)
    (body : Session → Bytes → AuthProg (Bool × Session)) :
    ∃ ops, Inside sock.m_readPos size ops ∧
      sock.withStruct size body =
        (sock.took size ops).inSession
          (body · (sock.toReadBuffer.unread.take size)) := by
  refine ⟨[⟨sock.m_readPos+0,size,true⟩],(handleFixed_skip hpos hl).1,?_⟩
  have h : (sock.toReadBuffer.took 0 []).recv size = _ :=
    ReadBuffer.took_recv hpos (by omega)
  rw [ReadBuffer.took_zero] at h
  simp only [AuthSocket.withStruct,h,Nat.zero_add,List.nil_append]
  rfl

theorem handleRealmList_complete {sock : AuthSocket}
    (hpos : sock.m_readPos ≤ sock.m_readBuf.length)
    (hl : 5 ≤ sock.toReadBuffer.unread.length) :
    ∃ ops, Inside sock.m_readPos 5 ops ∧
      handleRealmList lib sock =
        (sock.took 5 ops).inSession
          (realmList lib) := by
  refine ⟨[⟨sock.m_readPos+0,5,true⟩,⟨sock.m_readPos+0,5,true⟩],?_,?_⟩
  · intro op hop
    simp only [List.mem_cons,List.not_mem_nil,or_false,or_self] at hop
    rw [hop]
    exact ⟨rfl,by simp only; omega⟩
  · have h : (sock.toReadBuffer.took 0 []).require 5 = _ :=
      ReadBuffer.took_require hpos (by omega)
    rw [ReadBuffer.took_zero] at h
    simp only [handleRealmList,authRealmListSize,h,if_true,List.nil_append]
    rw [ReadBuffer.took_recvSkip hpos (by omega)]
    simp only [Nat.zero_add,List.cons_append,List.nil_append]
    rfl

theorem handleXferResume_complete {sock : AuthSocket}
    (hpos : sock.m_readPos ≤ sock.m_readBuf.length)
    (hl : 9 ≤ sock.toReadBuffer.unread.length) :
    ∃ ops, Inside sock.m_readPos 9 ops ∧
      handleXferResume sock =
        (sock.took 9 ops).inSession
          (beginPatchStream ·
            (UInt64.ofNat (leNat (slice (sock.toReadBuffer.unread.take 9) 1 8)))) := by
  refine ⟨[⟨sock.m_readPos+0,9,true⟩,⟨sock.m_readPos+0,1,true⟩,
    ⟨sock.m_readPos+1,8,true⟩],?_,?_⟩
  · intro op hop
    simp only [List.mem_cons,List.not_mem_nil,or_false] at hop
    rcases hop with rfl | rfl | rfl <;> exact ⟨rfl,by simp only; omega⟩
  · have h : (sock.toReadBuffer.took 0 []).require 9 = _ :=
      ReadBuffer.took_require hpos (by omega)
    rw [ReadBuffer.took_zero] at h
    have hslice : slice (sock.toReadBuffer.unread.take 9) 1 8 =
        slice sock.toReadBuffer.unread 1 8 := by
      simp [slice,List.drop_take]
    simp only [handleXferResume,authXferResumeSize,h,if_true,List.nil_append]
    rw [ReadBuffer.took_recvSkip hpos (by omega)]
    simp only [Nat.zero_add,show 9-8 = 1 from rfl,List.cons_append,List.nil_append]
    rw [ReadBuffer.took_recv hpos (by omega)]
    simp only [Option.getD_some,hslice,List.cons_append,List.nil_append]
    rfl

/-- The guard and the handlers agree: on a frame the guard found complete, the
handler of the command consumes exactly that frame, every use of the cursor
succeeds inside it, and what follows depends on the frame alone. -/
theorem handler_complete {sock : AuthSocket} {cmd : AuthCmd} {row : AuthHandler}
    {size : Nat} (hpos : sock.m_readPos ≤ sock.m_readBuf.length)
    (hc : cmd.inspect sock.toReadBuffer.unread = .complete size)
    (hrow : cmd.row lib cfg = some row) :
    ∃ ops, Inside sock.m_readPos size ops ∧
      row.handler sock = (sock.took size ops).inSession
        (frameBody lib cfg cmd (sock.toReadBuffer.unread.take size)) := by
  have hs : (cmd.inspect sock.toReadBuffer.unread).status = .complete := by
    rw [hc]
    rfl
  cases cmd with
  | authLogonChallenge =>
    obtain ⟨size',hf,he⟩ := inspectChallenge_complete hs
    obtain rfl := FrameDecision.complete_inj (he.symm.trans hc)
    obtain ⟨ops,hin,hread⟩ := readChallenge_complete hpos hf
    cases hrow
    refine ⟨ops,hin,?_⟩
    simp only [handleLogonChallenge,hread]
    rfl
  | authReconnectChallenge =>
    obtain ⟨size',hf,he⟩ := inspectChallenge_complete hs
    obtain rfl := FrameDecision.complete_inj (he.symm.trans hc)
    obtain ⟨ops,hin,hread⟩ := readChallenge_complete hpos hf
    cases hrow
    refine ⟨ops,hin,?_⟩
    simp only [handleReconnectChallenge,hread]
    rfl
  | authLogonProof =>
    obtain ⟨hl,-,he⟩ := inspectProof_complete hs
    obtain rfl := FrameDecision.complete_inj (he.symm.trans hc)
    cases hrow
    exact withStruct_complete hpos hl (logonProof lib cfg)
  | authReconnectProof =>
    obtain ⟨hl,-,he⟩ := inspectProof_complete hs
    obtain rfl := FrameDecision.complete_inj (he.symm.trans hc)
    cases hrow
    exact withStruct_complete hpos hl (reconnectProof lib)
  | realmList =>
    obtain ⟨hl,he⟩ := inspectFixed_complete hs
    obtain rfl := FrameDecision.complete_inj (he.symm.trans hc)
    cases hrow
    exact handleRealmList_complete lib hpos hl
  | xferAccept =>
    obtain ⟨hl,he⟩ := inspectFixed_complete hs
    obtain rfl := FrameDecision.complete_inj (he.symm.trans hc)
    obtain ⟨hin,hskip⟩ := handleFixed_skip hpos hl
    cases hrow
    refine ⟨_,hin,?_⟩
    simp only [handleXferAccept,hskip]
    rfl
  | xferResume =>
    obtain ⟨hl,he⟩ := inspectFixed_complete hs
    obtain rfl := FrameDecision.complete_inj (he.symm.trans hc)
    cases hrow
    exact handleXferResume_complete hpos hl
  | xferCancel =>
    obtain ⟨hl,he⟩ := inspectFixed_complete hs
    obtain rfl := FrameDecision.complete_inj (he.symm.trans hc)
    obtain ⟨hin,hskip⟩ := handleFixed_skip hpos hl
    cases hrow
    refine ⟨_,hin,?_⟩
    simp only [handleXferCancel,hskip]
    rfl
  | xferInitiate => contradiction
  | xferData => contradiction

end Realmd
