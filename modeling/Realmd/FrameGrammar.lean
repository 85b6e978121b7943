import Realmd.AuthProtocolGuard
set_option autoImplicit false

namespace Realmd
open ByteCodec

/-- The byte string starts with a frame of `n` bytes that the state lets through. -/
inductive FrameAt (d : Bytes) (n : Nat) : StreamState → Prop where
  | challenge (cmd : byteAt d 0 = 0x00 ∨ byteAt d 0 = 0x02)
      (account_pos : 1 ≤ (byteAt d 33).toNat)
      (body : (byteAt d 2).toNat+256*(byteAt d 3).toNat = 30+(byteAt d 33).toNat)
      (account_nonzero : ∀ i < (byteAt d 33).toNat, byteAt d (34+i) ≠ 0)
      (size : n = 34+(byteAt d 33).toNat) : FrameAt d n .challenge
  | logonProof (cmd : byteAt d 0 = 0x01) (keys : byteAt d 73 = 0) (size : n = 75) :
      FrameAt d n .logonProof
  | reconnectProof (cmd : byteAt d 0 = 0x03) (keys : byteAt d 57 = 0) (size : n = 58) :
      FrameAt d n .reconnectProof
  | realmList (cmd : byteAt d 0 = 0x10) (size : n = 5) : FrameAt d n .authenticated
  | xferAccept (cmd : byteAt d 0 = 0x32) (size : n = 1) : FrameAt d n .patch
  | xferCancel (cmd : byteAt d 0 = 0x34) (size : n = 1) : FrameAt d n .patch
  | xferResume (cmd : byteAt d 0 = 0x33) (size : n = 9) : FrameAt d n .patch

def FrameDecision.Lets (decision : FrameDecision) (n : Nat) : Prop :=
  decision.status = .complete ∧ decision.frameSize = n

theorem FrameDecision.lets_complete {m n : Nat} : (complete m).Lets n ↔ m = n := by
  simp [Lets,complete]

theorem FrameDecision.not_lets_rejected (reason : RejectReason) (n : Nat) :
    ¬ (rejected reason).Lets n := by
  simp [Lets,rejected]

theorem FrameDecision.not_lets_incomplete (m n : Nat) : ¬ (incomplete m).Lets n := by
  simp [Lets,incomplete]

theorem inspectFixed_lets {required size n : Nat} :
    (inspectFixed required size).Lets n ↔ required ≤ size ∧ required = n := by
  unfold inspectFixed
  split
  · simp only [FrameDecision.not_lets_incomplete,false_iff]
    omega
  · rw [FrameDecision.lets_complete]
    omega

theorem inspectProof_lets {data : Bytes} {offset required n : Nat}
    (hoffset : offset < required) :
    (inspectProof (m := Id) (byteAt data) offset required data.length).Lets n ↔
      required ≤ data.length ∧ byteAt data offset = 0 ∧ required = n := by
  rw [inspectProof_eq]
  split
  · simp only [FrameDecision.not_lets_incomplete,false_iff]
    omega
  split
  · rename_i hk
    simp [FrameDecision.not_lets_rejected,hk]
  · rename_i hk
    rw [inspectFixed_lets,and_congr_right_iff]
    simp [not_not.mp hk]

theorem inspectChallenge_lets {data : Bytes} {n : Nat} :
    (inspectChallenge (m := Id) (byteAt data) data.length).Lets n ↔ ChallengeFrame data n := by
  constructor
  · rintro ⟨hs,hn⟩
    obtain ⟨size,hf,he⟩ := inspectChallenge_complete hs
    rw [he] at hn
    obtain rfl : size = n := hn
    exact hf
  · intro hf
    have hpos := hf.account_pos
    have hbody := hf.body_eq
    have hsize := hf.size_eq
    have hle := hf.size_le
    rw [inspectChallenge_eq,if_neg (by omega),if_neg (by omega),if_neg (by omega),
      if_neg (by simp [hbody]),hasZero_eq_false.mpr hf.account_nonzero]
    rw [if_neg (by simp),FrameDecision.lets_complete]
    omega

theorem FrameAt.patch_iff {d : Bytes} {n : Nat} :
    FrameAt d n .patch ↔ byteAt d 0 = 0x32 ∧ n = authXferAcceptSize ∨
      byteAt d 0 = 0x34 ∧ n = authXferCancelSize ∨
      byteAt d 0 = 0x33 ∧ n = authXferResumeSize := by
  constructor
  · intro h
    cases h with
    | xferAccept hc hsize => exact .inl ⟨hc,hsize⟩
    | xferCancel hc hsize => exact .inr (.inl ⟨hc,hsize⟩)
    | xferResume hc hsize => exact .inr (.inr ⟨hc,hsize⟩)
  · rintro (⟨hc,hn⟩ | ⟨hc,hn⟩ | ⟨hc,hn⟩)
    · exact .xferAccept hc hn
    · exact .xferCancel hc hn
    · exact .xferResume hc hn

theorem AuthCmd.inspect_lets {cmd : AuthCmd} {data : Bytes} {n : Nat}
    (hcmd : byteAt data 0 = cmd.code) (state : StreamState)
    (hstate : cmd.streamState = some state) :
    (cmd.inspect data).Lets n ↔ n ≤ data.length ∧ FrameAt data n state := by
  cases cmd with
  | authLogonChallenge | authReconnectChallenge =>
    obtain rfl : StreamState.challenge = state := Option.some.inj hstate
    refine inspectChallenge_lets.trans ⟨?_,?_⟩
    · intro hf
      exact ⟨hf.size_le,.challenge (by simp [hcmd,code]) hf.account_pos hf.body_eq
        hf.account_nonzero hf.size_eq⟩
    · rintro ⟨hl,hf⟩
      cases hf with
      | challenge hc hpos hbody hnonzero hsize => exact ⟨hpos,hbody,hsize,hl,hnonzero⟩
  | authLogonProof =>
    obtain rfl : StreamState.logonProof = state := Option.some.inj hstate
    refine (inspectProof_lets (by decide)).trans ⟨?_,?_⟩
    · rintro ⟨hl,hk,rfl⟩
      exact ⟨hl,.logonProof hcmd hk rfl⟩
    · rintro ⟨hl,hf⟩
      cases hf with
      | logonProof hc hk hsize =>
        subst hsize
        exact ⟨hl,hk,rfl⟩
  | authReconnectProof =>
    obtain rfl : StreamState.reconnectProof = state := Option.some.inj hstate
    refine (inspectProof_lets (by decide)).trans ⟨?_,?_⟩
    · rintro ⟨hl,hk,rfl⟩
      exact ⟨hl,.reconnectProof hcmd hk rfl⟩
    · rintro ⟨hl,hf⟩
      cases hf with
      | reconnectProof hc hk hsize =>
        subst hsize
        exact ⟨hl,hk,rfl⟩
  | realmList =>
    obtain rfl : StreamState.authenticated = state := Option.some.inj hstate
    refine inspectFixed_lets.trans ⟨?_,?_⟩
    · rintro ⟨hl,rfl⟩
      exact ⟨hl,.realmList hcmd rfl⟩
    · rintro ⟨hl,hf⟩
      cases hf with
      | realmList hc hsize =>
        subst hsize
        exact ⟨hl,rfl⟩
  | xferAccept | xferResume | xferCancel =>
    obtain rfl : StreamState.patch = state := Option.some.inj hstate
    rw [FrameAt.patch_iff,hcmd]
    refine inspectFixed_lets.trans ⟨?_,?_⟩
    · rintro ⟨hl,rfl⟩
      exact ⟨hl,by decide⟩
    · rintro ⟨hl,⟨hc,hn⟩ | ⟨hc,hn⟩ | ⟨hc,hn⟩⟩ <;>
        first
        | exact absurd hc (by decide)
        | exact ⟨hn ▸ hl,hn.symm⟩
  | xferInitiate | xferData => simp [streamState] at hstate

theorem FrameAt.command {d : Bytes} {n : Nat} {state : StreamState} (h : FrameAt d n state) :
    1 ≤ n ∧ ∃ cmd, AuthCmd.ofCode (byteAt d 0) = some cmd ∧ cmd.streamState = some state := by
  have hofCode : ∀ {c : UInt8} (cmd : AuthCmd), c = cmd.code → AuthCmd.ofCode c = some cmd := by
    rintro c cmd rfl
    exact cmd.ofCode_code
  cases h with
  | challenge hc hpos hbody hnonzero hsize =>
    refine ⟨by omega,?_⟩
    rcases hc with hc | hc
    · exact ⟨.authLogonChallenge,hofCode _ hc,rfl⟩
    · exact ⟨.authReconnectChallenge,hofCode _ hc,rfl⟩
  | logonProof hc _ hsize => exact ⟨by omega,.authLogonProof,hofCode _ hc,rfl⟩
  | reconnectProof hc _ hsize => exact ⟨by omega,.authReconnectProof,hofCode _ hc,rfl⟩
  | realmList hc hsize => exact ⟨by omega,.realmList,hofCode _ hc,rfl⟩
  | xferAccept hc hsize => exact ⟨by omega,.xferAccept,hofCode _ hc,rfl⟩
  | xferCancel hc hsize => exact ⟨by omega,.xferCancel,hofCode _ hc,rfl⟩
  | xferResume hc hsize => exact ⟨by omega,.xferResume,hofCode _ hc,rfl⟩

theorem inspectFrame_lets {state : StreamState} {data : Bytes} {n : Nat} :
    (inspectFrame state data).Lets n ↔ n ≤ data.length ∧ FrameAt data n state := by
  cases data with
  | nil =>
    constructor
    · rintro ⟨hs,-⟩
      contradiction
    · rintro ⟨hl,hf⟩
      have hpos := hf.command.1
      simp only [List.length_nil] at hl
      omega
  | cons c tail =>
    cases hc : AuthCmd.ofCode c with
    | none =>
      rw [inspectFrame_unknown _ _ hc]
      refine ⟨fun h => absurd h (FrameDecision.not_lets_rejected _ _),?_⟩
      rintro ⟨-,hf⟩
      obtain ⟨-,cmd,hcmd,-⟩ := hf.command
      exact absurd (hc.symm.trans hcmd) (by simp)
    | some cmd =>
      have hcode : byteAt (c :: tail) 0 = cmd.code := (AuthCmd.code_of_ofCode hc).symm
      rw [inspectFrame_command _ _ hc]
      split
      · rename_i hs
        exact cmd.inspect_lets hcode state hs
      · rename_i hs
        have hno : ¬ (if cmd.streamState = none then FrameDecision.rejected .unknownCommand
            else .rejected .unauthorizedCommand).Lets n := by
          split <;> exact FrameDecision.not_lets_rejected _ _
        refine ⟨fun h => absurd h hno,?_⟩
        rintro ⟨-,hf⟩
        obtain ⟨-,cmd',hcmd',hs'⟩ := hf.command
        obtain rfl : cmd = cmd' := Option.some.inj (hc.symm.trans hcmd')
        exact absurd hs' hs

section Checked
variable (data : Bytes)

/-- A read that fails past the end of the input. -/
def readChecked (i : Nat) : Option UInt8 := data[i]?

variable {data}

theorem readChecked_eq {i : Nat} (h : i < data.length) :
    readChecked data i = some (byteAt data i) := by
  simp [readChecked,byteAt,h]

theorem hasZeroByte_checked {offset count : Nat} (h : offset+count ≤ data.length) :
    hasZeroByte (readChecked data) offset count = some (hasZero data offset count) := by
  induction count generalizing offset with
  | zero => rfl
  | succ count ih =>
    have hnext : offset+1+count ≤ data.length := by omega
    have hrest := ih hnext
    change (readChecked data offset >>= fun b =>
      if (b == 0) = true then pure true
      else hasZeroByte (readChecked data) (offset+1) count) = _
    rw [readChecked_eq (by omega),hrest]
    change (if _ then some true else some (hasZero data (offset+1) count)) =
      some (if _ then true else hasZero data (offset+1) count)
    split <;> rfl

theorem inspectProof_checked (offset required : Nat) :
    inspectProof (readChecked data) offset required data.length =
      some (inspectProof (m := Id) (byteAt data) offset required data.length) := by
  rw [inspectProof_eq]
  unfold inspectProof
  by_cases hl : data.length ≤ offset
  · rw [if_pos hl,if_pos hl]
    rfl
  · rw [if_neg hl,if_neg hl,readChecked_eq (by omega)]
    by_cases hk : byteAt data offset ≠ 0
    · rw [if_pos hk]
      exact if_pos hk
    · rw [if_neg hk]
      exact if_neg hk

theorem inspectChallenge_checked :
    inspectChallenge (readChecked data) data.length =
      some (inspectChallenge (m := Id) (byteAt data) data.length) := by
  rw [inspectChallenge_eq]
  unfold inspectChallenge
  by_cases hl : data.length < 4
  · rw [if_pos hl]
    exact if_pos hl
  rw [if_neg hl,if_neg (by exact hl),readChecked_eq (by omega),readChecked_eq (by omega)]
  simp only [Option.bind_eq_bind,Option.bind_some]
  by_cases hb : u16 (byteAt data 2) (byteAt data 3) < 31
  · rw [if_pos hb]
    exact if_pos hb
  rw [if_neg hb,if_neg (by exact hb)]
  by_cases hr : data.length < 4+u16 (byteAt data 2) (byteAt data 3)
  · rw [if_pos hr]
    exact if_pos hr
  rw [if_neg hr,if_neg (by exact hr),readChecked_eq (i := challengeAccountLengthOffset)
    (by change 33 < _; omega)]
  by_cases ha : u16 (byteAt data 2) (byteAt data 3) ≠ 30+(byteAt data 33).toNat
  · rw [if_pos ha]
    exact if_pos ha
  -- the account lies inside the frame, because the two lengths agree
  have hscan : hasZeroByte (readChecked data) challengeAccountDataOffset
      (byteAt data 33).toNat = some (hasZero data 34 (byteAt data 33).toNat) :=
    hasZeroByte_checked (by change 34+_ ≤ _; omega)
  rw [if_neg ha]
  refine (if_neg ha).trans ?_
  change (hasZeroByte (readChecked data) challengeAccountDataOffset
    (byteAt data 33).toNat).bind _ = _
  rw [hscan]
  cases hasZero data 34 (byteAt data 33).toNat <;> rfl

theorem inspectFrame_checked (state : StreamState) (data : Bytes) :
    inspectFrameWith (readChecked data) state false data.length =
      some (inspectFrame state data) := by
  cases data with
  | nil => rfl
  | cons c tail =>
    change (readChecked (c :: tail) 0 >>= fun b => inspectCommandWith (readChecked (c :: tail))
      state (c :: tail).length (AuthCmd.ofCode b)) = _
    rw [inspectFrame_cons,readChecked_eq (by simp)]
    change inspectCommandWith (readChecked (c :: tail)) state (c :: tail).length
      (AuthCmd.ofCode c) = _
    cases AuthCmd.ofCode c with
    | none => rfl
    | some cmd =>
      have hgate : ∀ {expected : StreamState} {checked : Option FrameDecision}
          {decision : FrameDecision}, checked = some decision →
          inspectCommandWith.gate state expected checked =
            some (inspectCommandWith.gate (m := Id) state expected decision) := by
        rintro expected _ decision rfl
        unfold inspectCommandWith.gate
        split <;> rfl
      cases cmd with
      | authLogonChallenge | authReconnectChallenge => exact hgate inspectChallenge_checked
      | authLogonProof | authReconnectProof => exact hgate (inspectProof_checked _ _)
      | realmList | xferAccept | xferResume | xferCancel => exact hgate rfl
      | xferInitiate | xferData => rfl

end Checked

/-- For every state and every input the guard lets through exactly the frames of the
state's grammar, reads no byte outside the input, and refuses no input that more bytes
could still complete. -/
theorem guard_accepts_frame_grammar (state : StreamState) (d : Bytes) :
    (∀ n, (inspectFrame state d).status = .complete ∧ (inspectFrame state d).frameSize = n ↔
      n ≤ d.length ∧ FrameAt d n state) ∧
    inspectFrameWith (fun i => d[i]?) state false d.length = some (inspectFrame state d) ∧
    ((inspectFrame state d).status = .reject →
      ∀ e, (inspectFrame state (d ++ e)).status ≠ .complete) := by
  refine ⟨fun n => inspectFrame_lets,inspectFrame_checked state d,?_⟩
  intro hreject e
  rw [inspectFrame_append state d e (by rw [hreject]; nofun),hreject]
  nofun

def AuthCmd.largestFrame : AuthCmd → Nat
  | .authLogonChallenge | .authReconnectChallenge => maxPendingInput
  | .authLogonProof => authLogonProofSize
  | .authReconnectProof => authReconnectProofSize
  | .realmList => authRealmListSize
  | .xferAccept => authXferAcceptSize
  | .xferResume => authXferResumeSize
  | .xferCancel => authXferCancelSize
  | .xferInitiate | .xferData => 0

theorem maxPendingInput_eq : maxPendingInput = 65539 := rfl

theorem AuthCmd.largestFrame_le_maxPendingInput (cmd : AuthCmd) :
    cmd.largestFrame ≤ maxPendingInput := by
  cases cmd <;> decide

theorem u16_le (lo hi : UInt8) : u16 lo hi ≤ 65535 := by
  have hlo := lo.toNat_lt
  have hhi := hi.toNat_lt
  unfold u16
  omega

/-- A decision to wait names a size the input is below, and stands until the input
reaches it. -/
structure Hinted (inspect : Bytes → FrameDecision) (data : Bytes) (largest : Nat) : Prop where
  short : data.length < (inspect data).frameSize
  bound : (inspect data).frameSize ≤ largest
  stands : ∀ more, (data ++ more).length < (inspect data).frameSize →
    (inspect (data ++ more)).status = .incomplete

section
variable {data : Bytes}

theorem inspectFixed_hinted {required : Nat}
    (h : (inspectFixed required data.length).status = .incomplete) :
    Hinted (fun d => inspectFixed required d.length) data required := by
  have hshort : data.length < required := by
    unfold inspectFixed at h
    split at h
    · assumption
    · contradiction
  have hfixed : inspectFixed required data.length = .incomplete required := if_pos hshort
  constructor
  case short =>
    simp only [hfixed]
    exact hshort
  case bound =>
    simp only [hfixed]
    exact Nat.le_refl _
  case stands =>
    intro more hmore
    simp only [hfixed] at hmore
    have hlonger : inspectFixed required (data ++ more).length = .incomplete required :=
      if_pos hmore
    simp only [hlonger]
    rfl

theorem inspectProof_hinted {offset required : Nat} (hoffset : offset < required)
    (h : (inspectProof (m := Id) (byteAt data) offset required
      data.length).status = .incomplete) :
    Hinted (fun d => inspectProof (m := Id) (byteAt d) offset required d.length) data
      required := by
  by_cases hl : data.length ≤ offset
  · have hwaits : inspectProof (m := Id) (byteAt data) offset required data.length =
        .incomplete (offset+1) := by
      rw [inspectProof_eq,if_pos hl]
    constructor
    case short =>
      simp only [hwaits,FrameDecision.incomplete]
      omega
    case bound =>
      simp only [hwaits,FrameDecision.incomplete]
      omega
    case stands =>
      intro more hmore
      simp only [hwaits,FrameDecision.incomplete] at hmore
      simp only [inspectProof_eq]
      rw [if_pos (by omega)]
      rfl
  · have hread : ∀ more, byteAt (data ++ more) offset = byteAt data offset :=
      fun more => byteAt_append more (by omega)
    have hkeys : byteAt data offset = 0 := by
      rw [inspectProof_eq,if_neg hl] at h
      split at h
      · contradiction
      · exact not_not.mp ‹_›
    have hrest : ∀ more, inspectProof (m := Id) (byteAt (data ++ more)) offset required
        (data ++ more).length = inspectFixed required (data ++ more).length := by
      intro more
      rw [inspectProof_eq,if_neg (by simp only [List.length_append]; omega),hread,
        if_neg (by simp [hkeys])]
    have hnow := hrest []
    rw [List.append_nil] at hnow
    obtain ⟨hshort,hbound,hstands⟩ := inspectFixed_hinted (hnow ▸ h)
    constructor
    case short => simpa only [hnow] using hshort
    case bound => simpa only [hnow] using hbound
    case stands =>
      intro more hmore
      simp only [hnow] at hmore
      simpa only [hrest more] using hstands more hmore

theorem inspectChallenge_hinted
    (h : (inspectChallenge (m := Id) (byteAt data) data.length).status = .incomplete) :
    Hinted (fun d => inspectChallenge (m := Id) (byteAt d) d.length) data maxPendingInput := by
  by_cases hl : data.length < 4
  · have hwaits : inspectChallenge (m := Id) (byteAt data) data.length = .incomplete 4 := by
      rw [inspectChallenge_eq,if_pos hl]
    constructor
    case short => simpa only [hwaits,FrameDecision.incomplete] using hl
    case bound =>
      simp only [hwaits,FrameDecision.incomplete,maxPendingInput_eq]
      omega
    case stands =>
      intro more hmore
      simp only [hwaits,FrameDecision.incomplete] at hmore
      simp only [inspectChallenge_eq]
      rw [if_pos hmore]
      rfl
  -- the length field is in, so it does not change any more
  have hbody : ∀ more, u16 (byteAt (data ++ more) 2) (byteAt (data ++ more) 3) =
      u16 (byteAt data 2) (byteAt data 3) := by
    intro more
    rw [byteAt_append more (by omega),byteAt_append more (by omega)]
  rw [inspectChallenge_eq,if_neg hl] at h
  by_cases hb : u16 (byteAt data 2) (byteAt data 3) < 31
  · rw [if_pos hb] at h
    contradiction
  rw [if_neg hb] at h
  by_cases hr : data.length < 4+u16 (byteAt data 2) (byteAt data 3)
  · have hwaits : ∀ more, (data ++ more).length < 4+u16 (byteAt data 2) (byteAt data 3) →
        inspectChallenge (m := Id) (byteAt (data ++ more)) (data ++ more).length =
          .incomplete (4+u16 (byteAt data 2) (byteAt data 3)) := by
      intro more hmore
      rw [inspectChallenge_eq,hbody,if_neg (by simp only [List.length_append]; omega),
        if_neg hb,if_pos hmore]
    have hnow := hwaits [] (by rwa [List.append_nil])
    rw [List.append_nil] at hnow
    constructor
    case short => simpa only [hnow,FrameDecision.incomplete] using hr
    case bound =>
      have hle := u16_le (byteAt data 2) (byteAt data 3)
      simp only [hnow,FrameDecision.incomplete,maxPendingInput_eq]
      omega
    case stands =>
      intro more hmore
      simp only [hnow,FrameDecision.incomplete] at hmore
      simp only [hwaits more hmore]
      rfl
  · rw [if_neg hr] at h
    split at h
    · contradiction
    split at h <;> contradiction

theorem AuthCmd.inspect_hinted {cmd : AuthCmd}
    (h : (cmd.inspect data).status = .incomplete) :
    Hinted cmd.inspect data cmd.largestFrame := by
  cases cmd with
  | authLogonChallenge | authReconnectChallenge => exact inspectChallenge_hinted h
  | authLogonProof | authReconnectProof => exact inspectProof_hinted (by decide) h
  | realmList | xferAccept | xferResume | xferCancel => exact inspectFixed_hinted h
  | xferInitiate | xferData => contradiction

theorem inspectFrame_hinted {state : StreamState} (hne : data ≠ [])
    (h : (inspectFrame state data).status = .incomplete) :
    ∃ cmd : AuthCmd, cmd.streamState = some state ∧
      Hinted (inspectFrame state) data cmd.largestFrame := by
  cases data with
  | nil => exact absurd rfl hne
  | cons c tail =>
    cases hc : AuthCmd.ofCode c with
    | none =>
      rw [inspectFrame_unknown _ _ hc] at h
      contradiction
    | some cmd =>
      rw [inspectFrame_command _ _ hc] at h
      split at h
      · rename_i hs
        have hsame : ∀ more, inspectFrame state (c :: (tail ++ more)) =
            cmd.inspect (c :: (tail ++ more)) := by
          intro more
          rw [inspectFrame_command _ _ hc,if_pos hs]
        have hnow := hsame []
        rw [List.append_nil] at hnow
        obtain ⟨hshort,hbound,hstands⟩ := AuthCmd.inspect_hinted h
        refine ⟨cmd,hs,?_⟩
        constructor
        case short => rwa [hnow]
        case bound => rwa [hnow]
        case stands =>
          intro more hmore
          rw [hnow] at hmore
          rw [List.cons_append,hsame]
          exact hstands more hmore
      · split at h <;> contradiction

theorem FrameAt.of_take {n : Nat} {state : StreamState} (h : FrameAt data n state) :
    FrameAt (data.take n) n state := by
  have hread : ∀ i < n, byteAt (data.take n) i = byteAt data i := fun i hi => byteAt_take hi
  cases h with
  | challenge hc hpos hbody hnonzero hsize =>
    have h0 := hread 0 (by omega)
    have h2 := hread 2 (by omega)
    have h3 := hread 3 (by omega)
    have h33 := hread 33 (by omega)
    refine .challenge (by rwa [h0]) (by rwa [h33]) (by rwa [h2,h3,h33]) ?_ (by rwa [h33])
    intro i hi
    rw [h33] at hi
    rw [hread (34+i) (by omega)]
    exact hnonzero i hi
  | logonProof hc hk hsize =>
    exact .logonProof ((hread 0 (by omega)).trans hc) ((hread 73 (by omega)).trans hk) hsize
  | reconnectProof hc hk hsize =>
    exact .reconnectProof ((hread 0 (by omega)).trans hc) ((hread 57 (by omega)).trans hk) hsize
  | realmList hc hsize => exact .realmList ((hread 0 (by omega)).trans hc) hsize
  | xferAccept hc hsize => exact .xferAccept ((hread 0 (by omega)).trans hc) hsize
  | xferCancel hc hsize => exact .xferCancel ((hread 0 (by omega)).trans hc) hsize
  | xferResume hc hsize => exact .xferResume ((hread 0 (by omega)).trans hc) hsize

end

/-- The decisions of the guard are stable under more input: a frame or a refusal stays,
a frame is found with its last byte and not before, and a decision to wait stands until
the input has the size it names, which is never beyond the limit. -/
theorem guard_prefix_stable (state : StreamState) (p : Bytes) :
    ((inspectFrame state p).status ≠ .incomplete →
      ∀ q, inspectFrame state (p ++ q) = inspectFrame state p) ∧
    (∀ n, (inspectFrame state p).status = .complete ∧ (inspectFrame state p).frameSize = n →
      n ≤ p.length ∧
      ((inspectFrame state (p.take n)).status = .complete ∧
        (inspectFrame state (p.take n)).frameSize = n) ∧
      ∀ k < n, (inspectFrame state (p.take k)).status = .incomplete) ∧
    ((inspectFrame state p).status = .incomplete →
      (p.length < (inspectFrame state p).frameSize ∨ p = []) ∧
      ∀ q, (p ++ q).length < (inspectFrame state p).frameSize →
        (inspectFrame state (p ++ q)).status = .incomplete) ∧
    (maxPendingInput ≤ p.length → (inspectFrame state p).status ≠ .incomplete) := by
  refine ⟨?_,?_,?_,?_⟩
  · exact fun hdecided q => inspectFrame_append state p q hdecided
  · intro n hn
    obtain ⟨hl,hf⟩ := inspectFrame_lets.mp hn
    refine ⟨hl,inspectFrame_lets.mpr ⟨by simp [hl],hf.of_take⟩,?_⟩
    intro k hk
    -- a decision on the shorter prefix would be the decision on the whole
    by_contra hdecided
    have hsame := inspectFrame_append state (p.take k) (p.drop k) hdecided
    rw [List.take_append_drop] at hsame
    rw [hsame] at hn
    obtain ⟨hl',-⟩ := inspectFrame_lets.mp hn
    rw [List.length_take] at hl'
    omega
  · intro hwaits
    by_cases hne : p = []
    · subst hne
      refine ⟨.inr rfl,fun q hq => ?_⟩
      exact absurd hq (Nat.not_lt_zero _)
    · obtain ⟨cmd,-,hint⟩ := inspectFrame_hinted hne hwaits
      exact ⟨.inl hint.short,hint.stands⟩
  · intro hlong hwaits
    by_cases hne : p = []
    · subst hne
      exact absurd hlong (by decide)
    · obtain ⟨cmd,-,hint⟩ := inspectFrame_hinted hne hwaits
      have hshort := hint.short
      have hbound := hint.bound
      have hmax := cmd.largestFrame_le_maxPendingInput
      omega

end Realmd
