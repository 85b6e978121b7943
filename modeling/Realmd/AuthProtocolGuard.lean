import Realmd.ByteCodec
set_option autoImplicit false

namespace Realmd
open ByteCodec

inductive AuthCmd where
  | authLogonChallenge | authLogonProof | authReconnectChallenge | authReconnectProof
  | realmList | xferInitiate | xferData | xferAccept | xferResume | xferCancel
  deriving DecidableEq, Repr

def AuthCmd.code : AuthCmd → UInt8
  | .authLogonChallenge => 0x00
  | .authLogonProof => 0x01
  | .authReconnectChallenge => 0x02
  | .authReconnectProof => 0x03
  | .realmList => 0x10
  | .xferInitiate => 0x30
  | .xferData => 0x31
  | .xferAccept => 0x32
  | .xferResume => 0x33
  | .xferCancel => 0x34

def AuthCmd.all : List AuthCmd :=
  [.authLogonChallenge,.authLogonProof,.authReconnectChallenge,.authReconnectProof,
    .realmList,.xferInitiate,.xferData,.xferAccept,.xferResume,.xferCancel]

def AuthCmd.ofCode (c : UInt8) : Option AuthCmd := AuthCmd.all.find? (·.code == c)

@[simp] theorem AuthCmd.ofCode_code (cmd : AuthCmd) : ofCode cmd.code = some cmd := by
  cases cmd <;> rfl

theorem AuthCmd.code_of_ofCode {c : UInt8} {cmd : AuthCmd} (h : ofCode c = some cmd) :
    cmd.code = c := by
  simpa using List.find?_some h

inductive StreamState where
  | challenge | logonProof | reconnectProof | patch | authenticated | closed
  deriving DecidableEq, Repr

inductive FrameStatus where
  | incomplete | complete | reject
  deriving DecidableEq, Repr

inductive RejectReason where
  | none | unknownCommand | unauthorizedCommand | malformedLength | unsupportedKeyProof
  deriving DecidableEq, Repr

structure FrameDecision where
  status : FrameStatus
  reason : RejectReason
  frameSize : Nat
  deriving DecidableEq, Repr

def authChallengeHeaderSize : Nat := 4
def authChallengeMinimumBodySize : Nat := 31
def authLogonProofSize : Nat := 75
def authReconnectProofSize : Nat := 58
def authRealmListSize : Nat := 5
def authXferAcceptSize : Nat := 1
def authXferResumeSize : Nat := 9
def authXferCancelSize : Nat := 1
def maxPendingInput : Nat := authChallengeHeaderSize+65535

def challengeAccountPrefixBodySize : Nat := 30
def challengeAccountLengthOffset : Nat :=
  authChallengeHeaderSize+challengeAccountPrefixBodySize-1
def challengeAccountDataOffset : Nat := challengeAccountLengthOffset+1
def logonProofKeyCountOffset : Nat := 73
def reconnectProofKeyCountOffset : Nat := 57

def FrameDecision.rejected (reason : RejectReason) : FrameDecision := ⟨.reject,reason,0⟩
def FrameDecision.incomplete (required : Nat) : FrameDecision :=
  ⟨.incomplete,.none,required⟩
def FrameDecision.complete (required : Nat) : FrameDecision := ⟨.complete,.none,required⟩

def u16 (lo hi : UInt8) : Nat := lo.toNat+256*hi.toNat

section InspectFrame
variable {m : Type → Type} [Monad m] (read : Nat → m UInt8)

def hasZeroByte : Nat → Nat → m Bool
  | _, 0 => pure false
  | offset, count+1 => do
      if (← read offset) == 0 then pure true else hasZeroByte (offset+1) count

def inspectChallenge (size : Nat) : m FrameDecision := do
  if size < authChallengeHeaderSize then
    return .incomplete authChallengeHeaderSize
  let body := u16 (← read 2) (← read 3)
  if body < authChallengeMinimumBodySize then return .rejected .malformedLength
  let required := authChallengeHeaderSize+body
  if size < required then return .incomplete required
  let accountLength := (← read challengeAccountLengthOffset).toNat
  if body ≠ challengeAccountPrefixBodySize+accountLength then
    return .rejected .malformedLength
  if ← hasZeroByte read challengeAccountDataOffset accountLength then
    return .rejected .malformedLength
  return .complete required

/-- The shared tail of the fixed-size commands. -/
def inspectFixed (required size : Nat) : FrameDecision :=
  if size < required then .incomplete required else .complete required

def inspectProof (keyCountOffset required size : Nat) : m FrameDecision := do
  if size ≤ keyCountOffset then return .incomplete (keyCountOffset+1)
  if (← read keyCountOffset) ≠ 0 then return .rejected .unsupportedKeyProof
  return inspectFixed required size

def inspectCommandWith (state : StreamState) (size : Nat) :
    Option AuthCmd → m FrameDecision
  | some .authLogonChallenge | some .authReconnectChallenge =>
      gate .challenge (inspectChallenge read size)
  | some .authLogonProof =>
      gate .logonProof (inspectProof read logonProofKeyCountOffset authLogonProofSize size)
  | some .authReconnectProof =>
      gate .reconnectProof
        (inspectProof read reconnectProofKeyCountOffset authReconnectProofSize size)
  | some .realmList => gate .authenticated (pure (inspectFixed authRealmListSize size))
  | some .xferAccept => gate .patch (pure (inspectFixed authXferAcceptSize size))
  | some .xferResume => gate .patch (pure (inspectFixed authXferResumeSize size))
  | some .xferCancel => gate .patch (pure (inspectFixed authXferCancelSize size))
  | some .xferInitiate | some .xferData | none => pure (.rejected .unknownCommand)
where
  gate (expected : StreamState) (inspect : m FrameDecision) : m FrameDecision :=
    if state = expected then inspect else pure (.rejected .unauthorizedCommand)

/-- The guard over an abstract byte reader, so that the same text can be run on
a plain byte string and with every read checked against the size. -/
def inspectFrameWith (state : StreamState) (null : Bool) (size : Nat) :
    m FrameDecision := do
  if size = 0 then return .incomplete 0
  if null then return .rejected .malformedLength
  inspectCommandWith read state size (AuthCmd.ofCode (← read 0))

end InspectFrame

/-- The guard on the unread bytes of a buffer, whose data pointer is not null
as soon as there is a byte to read. -/
def inspectFrame (state : StreamState) (data : Bytes) : FrameDecision :=
  inspectFrameWith (m := Id) (byteAt data) state false data.length

def AuthCmd.streamState : AuthCmd → Option StreamState
  | .authLogonChallenge | .authReconnectChallenge => some .challenge
  | .authLogonProof => some .logonProof
  | .authReconnectProof => some .reconnectProof
  | .realmList => some .authenticated
  | .xferAccept | .xferResume | .xferCancel => some .patch
  | .xferInitiate | .xferData => none

def hasZero (data : Bytes) (offset count : Nat) : Bool :=
  hasZeroByte (m := Id) (byteAt data) offset count

def AuthCmd.inspect (cmd : AuthCmd) (data : Bytes) : FrameDecision :=
  match cmd with
  | .authLogonChallenge | .authReconnectChallenge =>
      inspectChallenge (m := Id) (byteAt data) data.length
  | .authLogonProof =>
      inspectProof (m := Id) (byteAt data) logonProofKeyCountOffset
        authLogonProofSize data.length
  | .authReconnectProof =>
      inspectProof (m := Id) (byteAt data) reconnectProofKeyCountOffset
        authReconnectProofSize data.length
  | .realmList => inspectFixed authRealmListSize data.length
  | .xferAccept => inspectFixed authXferAcceptSize data.length
  | .xferResume => inspectFixed authXferResumeSize data.length
  | .xferCancel => inspectFixed authXferCancelSize data.length
  | .xferInitiate | .xferData => .rejected .unknownCommand

theorem inspectFrame_cons (state : StreamState) (c : UInt8) (tail : Bytes) :
    inspectFrame state (c :: tail) =
      inspectCommandWith (m := Id) (byteAt (c :: tail)) state (c :: tail).length
        (AuthCmd.ofCode c) := rfl

theorem inspectFrame_unknown (state : StreamState) {c : UInt8} (tail : Bytes)
    (h : AuthCmd.ofCode c = none) :
    inspectFrame state (c :: tail) = .rejected .unknownCommand := by
  rw [inspectFrame_cons,h]
  rfl

theorem inspectFrame_command (state : StreamState) {c : UInt8} (tail : Bytes)
    {cmd : AuthCmd} (h : AuthCmd.ofCode c = some cmd) :
    inspectFrame state (c :: tail) =
      if cmd.streamState = some state then cmd.inspect (c :: tail)
      else if cmd.streamState = none then .rejected .unknownCommand
      else .rejected .unauthorizedCommand := by
  rw [inspectFrame_cons,h]
  cases cmd <;> cases state <;> rfl

theorem inspectChallenge_eq (data : Bytes) :
    inspectChallenge (m := Id) (byteAt data) data.length =
      if data.length < 4 then FrameDecision.incomplete 4
      else if u16 (byteAt data 2) (byteAt data 3) < 31 then .rejected .malformedLength
      else if data.length < 4+u16 (byteAt data 2) (byteAt data 3) then
        .incomplete (4+u16 (byteAt data 2) (byteAt data 3))
      else if u16 (byteAt data 2) (byteAt data 3) ≠ 30+(byteAt data 33).toNat then
        .rejected .malformedLength
      else if hasZero data 34 (byteAt data 33).toNat = true then
        .rejected .malformedLength
      else .complete (4+u16 (byteAt data 2) (byteAt data 3)) := rfl

theorem inspectProof_eq (data : Bytes) (offset required : Nat) :
    inspectProof (m := Id) (byteAt data) offset required data.length =
      if data.length ≤ offset then FrameDecision.incomplete (offset+1)
      else if byteAt data offset ≠ 0 then .rejected .unsupportedKeyProof
      else inspectFixed required data.length := rfl

theorem hasZero_append {data : Bytes} (more : Bytes) {offset count : Nat}
    (h : offset+count ≤ data.length) :
    hasZero (data ++ more) offset count = hasZero data offset count := by
  induction count generalizing offset with
  | zero => rfl
  | succ count ih =>
    have hread : byteAt (data ++ more) offset = byteAt data offset :=
      byteAt_append more (by omega)
    have hrest : hasZero (data ++ more) (offset+1) count = hasZero data (offset+1) count :=
      ih (by omega)
    unfold hasZero at hrest ⊢
    simp only [hasZeroByte,hread,hrest]

theorem hasZero_eq_false {data : Bytes} {offset count : Nat} :
    hasZero data offset count = false ↔ ∀ i < count, byteAt data (offset+i) ≠ 0 := by
  induction count generalizing offset with
  | zero => exact ⟨fun _ i hi => absurd hi (by omega),fun _ => rfl⟩
  | succ count ih =>
    have hstep : hasZero data offset (count+1) =
        (byteAt data offset == 0 || hasZero data (offset+1) count) := by
      change (if (byteAt data offset == 0) = true then true
        else hasZero data (offset+1) count) = _
      cases byteAt data offset == 0 <;> rfl
    rw [hstep,Bool.or_eq_false_iff,ih]
    constructor
    · rintro ⟨h0,hrest⟩ i hi
      cases i with
      | zero => simpa using h0
      | succ i =>
        have hi' := hrest i (by omega)
        rwa [show offset+1+i = offset+(i+1) by omega] at hi'
    · intro h
      refine ⟨by simpa using h 0 (by omega),fun i hi => ?_⟩
      have hi' := h (i+1) (by omega)
      rwa [show offset+(i+1) = offset+1+i by omega] at hi'

theorem inspectFixed_append (data more : Bytes) (required : Nat)
    (h : (inspectFixed required data.length).status ≠ .incomplete) :
    inspectFixed required (data ++ more).length = inspectFixed required data.length := by
  unfold inspectFixed at h ⊢
  split at h
  · exact absurd rfl h
  · rename_i hl
    rw [if_neg (by simp only [List.length_append]; omega),if_neg hl]

theorem inspectProof_append (data more : Bytes) (offset required : Nat)
    (h : (inspectProof (m := Id) (byteAt data) offset required
      data.length).status ≠ .incomplete) :
    inspectProof (m := Id) (byteAt (data ++ more)) offset required (data ++ more).length =
      inspectProof (m := Id) (byteAt data) offset required data.length := by
  rw [inspectProof_eq] at h ⊢
  rw [inspectProof_eq]
  by_cases hl : data.length ≤ offset
  · rw [if_pos hl] at h
    exact absurd rfl h
  · have hread : byteAt (data ++ more) offset = byteAt data offset :=
      byteAt_append more (by omega)
    rw [if_neg hl] at h ⊢
    rw [if_neg (by simp only [List.length_append]; omega),hread]
    split at h
    · rename_i hk
      rw [if_pos hk,if_pos hk]
    · rename_i hk
      rw [if_neg hk,if_neg hk]
      exact inspectFixed_append data more required h

theorem inspectChallenge_append (data more : Bytes)
    (h : (inspectChallenge (m := Id) (byteAt data) data.length).status ≠ .incomplete) :
    inspectChallenge (m := Id) (byteAt (data ++ more)) (data ++ more).length =
      inspectChallenge (m := Id) (byteAt data) data.length := by
  rw [inspectChallenge_eq] at h ⊢
  rw [inspectChallenge_eq]
  by_cases hl : data.length < 4
  · rw [if_pos hl] at h
    exact absurd rfl h
  have h2 : byteAt (data ++ more) 2 = byteAt data 2 := byteAt_append more (by omega)
  have h3 : byteAt (data ++ more) 3 = byteAt data 3 := byteAt_append more (by omega)
  rw [if_neg hl] at h ⊢
  rw [if_neg (by simp only [List.length_append]; omega),h2,h3]
  by_cases hb : u16 (byteAt data 2) (byteAt data 3) < 31
  · rw [if_pos hb,if_pos hb]
  rw [if_neg hb] at h ⊢
  rw [if_neg hb]
  by_cases hr : data.length < 4+u16 (byteAt data 2) (byteAt data 3)
  · rw [if_pos hr] at h
    exact absurd rfl h
  have h33 : byteAt (data ++ more) 33 = byteAt data 33 := byteAt_append more (by omega)
  rw [if_neg hr,if_neg (by simp only [List.length_append]; omega),h33]
  by_cases ha : u16 (byteAt data 2) (byteAt data 3) ≠ 30+(byteAt data 33).toNat
  · rw [if_pos ha,if_pos ha]
  · rw [if_neg ha,if_neg ha,hasZero_append more (by omega)]

theorem AuthCmd.inspect_append (cmd : AuthCmd) (data more : Bytes)
    (h : (cmd.inspect data).status ≠ .incomplete) :
    cmd.inspect (data ++ more) = cmd.inspect data := by
  cases cmd with
  | authLogonChallenge => exact inspectChallenge_append data more h
  | authReconnectChallenge => exact inspectChallenge_append data more h
  | authLogonProof => exact inspectProof_append data more _ _ h
  | authReconnectProof => exact inspectProof_append data more _ _ h
  | realmList => exact inspectFixed_append data more _ h
  | xferAccept => exact inspectFixed_append data more _ h
  | xferResume => exact inspectFixed_append data more _ h
  | xferCancel => exact inspectFixed_append data more _ h
  | xferInitiate => rfl
  | xferData => rfl

theorem inspectFrame_append (state : StreamState) (data more : Bytes)
    (h : (inspectFrame state data).status ≠ .incomplete) :
    inspectFrame state (data ++ more) = inspectFrame state data := by
  cases data with
  | nil => exact absurd rfl h
  | cons c tail =>
    rw [List.cons_append]
    cases hc : AuthCmd.ofCode c with
    | none => rw [inspectFrame_unknown _ _ hc,inspectFrame_unknown _ _ hc]
    | some cmd =>
      rw [inspectFrame_command _ _ hc] at h ⊢
      rw [inspectFrame_command _ _ hc]
      split
      · rename_i hs
        rw [if_pos hs] at h
        exact cmd.inspect_append (c :: tail) more h
      · rfl

theorem inspectFixed_complete {required size : Nat}
    (h : (inspectFixed required size).status = .complete) :
    required ≤ size ∧ inspectFixed required size = .complete required := by
  unfold inspectFixed at h ⊢
  split at h
  · contradiction
  · rename_i hl
    exact ⟨by omega,if_neg hl⟩

theorem inspectProof_complete {data : Bytes} {offset required : Nat}
    (h : (inspectProof (m := Id) (byteAt data) offset required
      data.length).status = .complete) :
    required ≤ data.length ∧ byteAt data offset = 0 ∧
      inspectProof (m := Id) (byteAt data) offset required data.length =
        .complete required := by
  rw [inspectProof_eq] at h ⊢
  by_cases hl : data.length ≤ offset
  · rw [if_pos hl] at h
    contradiction
  rw [if_neg hl] at h ⊢
  by_cases hk : byteAt data offset ≠ 0
  · rw [if_pos hk] at h
    contradiction
  rw [if_neg hk] at h ⊢
  obtain ⟨hs,he⟩ := inspectFixed_complete h
  exact ⟨hs,not_not.mp hk,he⟩

/-- The shape of a complete challenge: both lengths agree, the account name is
not empty and holds no zero byte. -/
structure ChallengeFrame (data : Bytes) (size : Nat) : Prop where
  account_pos : 1 ≤ (byteAt data 33).toNat
  body_eq : u16 (byteAt data 2) (byteAt data 3) = 30+(byteAt data 33).toNat
  size_eq : size = 34+(byteAt data 33).toNat
  size_le : size ≤ data.length
  account_nonzero : ∀ i < (byteAt data 33).toNat, byteAt data (34+i) ≠ 0

theorem inspectChallenge_complete {data : Bytes}
    (h : (inspectChallenge (m := Id) (byteAt data) data.length).status = .complete) :
    ∃ size, ChallengeFrame data size ∧
      inspectChallenge (m := Id) (byteAt data) data.length = .complete size := by
  rw [inspectChallenge_eq] at h ⊢
  by_cases hl : data.length < 4
  · rw [if_pos hl] at h
    contradiction
  rw [if_neg hl] at h ⊢
  by_cases hb : u16 (byteAt data 2) (byteAt data 3) < 31
  · rw [if_pos hb] at h
    contradiction
  rw [if_neg hb] at h ⊢
  by_cases hr : data.length < 4+u16 (byteAt data 2) (byteAt data 3)
  · rw [if_pos hr] at h
    contradiction
  rw [if_neg hr] at h ⊢
  by_cases ha : u16 (byteAt data 2) (byteAt data 3) ≠ 30+(byteAt data 33).toNat
  · rw [if_pos ha] at h
    contradiction
  rw [if_neg ha] at h ⊢
  cases hz : hasZero data 34 (byteAt data 33).toNat with
  | true =>
    rw [if_pos hz] at h
    contradiction
  | false =>
    refine ⟨_,⟨?_,?_,?_,?_,hasZero_eq_false.mp hz⟩,if_neg (by simp)⟩
    all_goals omega

theorem FrameDecision.complete_inj {m n : Nat}
    (h : FrameDecision.complete m = .complete n) : m = n := congrArg frameSize h

theorem AuthCmd.inspect_complete {cmd : AuthCmd} {data : Bytes}
    (h : (cmd.inspect data).status = .complete) :
    ∃ size, cmd.inspect data = .complete size ∧ 1 ≤ size ∧ size ≤ data.length := by
  cases cmd with
  | authLogonChallenge | authReconnectChallenge =>
    obtain ⟨size,hf,he⟩ := inspectChallenge_complete h
    have hs := hf.size_eq
    exact ⟨size,he,by omega,hf.size_le⟩
  | authLogonProof | authReconnectProof =>
    obtain ⟨hl,-,he⟩ := inspectProof_complete h
    exact ⟨_,he,by decide,hl⟩
  | realmList | xferAccept | xferResume | xferCancel =>
    obtain ⟨hl,he⟩ := inspectFixed_complete h
    exact ⟨_,he,by decide,hl⟩
  | xferInitiate | xferData => contradiction

theorem inspectFrame_complete {state : StreamState} {data : Bytes}
    (h : (inspectFrame state data).status = .complete) :
    ∃ cmd size, AuthCmd.ofCode (byteAt data 0) = some cmd ∧
      cmd.streamState = some state ∧ cmd.inspect data = .complete size ∧
      inspectFrame state data = .complete size ∧ 1 ≤ size ∧ size ≤ data.length := by
  cases data with
  | nil => contradiction
  | cons c tail =>
    cases hc : AuthCmd.ofCode c with
    | none =>
      rw [inspectFrame_unknown _ _ hc] at h
      contradiction
    | some cmd =>
      rw [inspectFrame_command _ _ hc] at h ⊢
      by_cases hs : cmd.streamState = some state
      · rw [if_pos hs] at h ⊢
        obtain ⟨size,he,hpos,hl⟩ := cmd.inspect_complete h
        exact ⟨cmd,size,hc,hs,he,he,hpos,hl⟩
      · rw [if_neg hs] at h
        split at h <;> contradiction

def canAppendPending (pending incoming : Nat) : Bool :=
  pending ≤ maxPendingInput && incoming ≤ maxPendingInput-pending

/-- `start+timeout`, and whether the deadline still counts. -/
structure Deadline where
  deadline : Nat
  active : Bool
  deriving DecidableEq, Repr

def Deadline.arm (start timeout : Nat) : Deadline := ⟨start+timeout,decide (0 < timeout)⟩
def Deadline.expired (d : Deadline) (now : Nat) : Bool := d.active && d.deadline ≤ now
def Deadline.deactivate (d : Deadline) : Deadline := { d with active := false }

end Realmd
