import Realmd.FrameGrammar
import Realmd.HandlerSpecs
set_option autoImplicit false

namespace Realmd
open ByteCodec Interaction

def IsLocale (locale : Bytes) : Prop :=
  locale.length = 4 ∧ isLower (byteAt locale 0) = true ∧ isLower (byteAt locale 1) = true ∧
    isUpper (byteAt locale 2) = true ∧ isUpper (byteAt locale 3) = true

instance (locale : Bytes) : Decidable (IsLocale locale) := inferInstanceAs (Decidable (_ ∧ _))

theorem parseClientLocaleClaim_eq (wireLocale : Bytes) :
    parseClientLocaleClaim wireLocale =
      if IsLocale wireLocale.reverse then some wireLocale.reverse else none := by
  unfold parseClientLocaleClaim
  by_cases hl : wireLocale.length = 4
  · rw [if_neg (by simp [hl])]
    simp only [IsLocale,List.length_reverse,hl,Bool.and_eq_true,true_and,and_assoc]
  · have hno : ¬ IsLocale wireLocale.reverse := fun h => hl (by simpa using h.1)
    rw [if_pos hl,if_neg hno]

def claimedLocale (d : Bytes) : Bytes :=
  if IsLocale (slice d 21 4).reverse then (slice d 21 4).reverse else []

theorem claimedLocale_eq (d : Bytes) :
    claimedLocale d = (parseClientLocaleClaim (slice d 21 4)).getD [] := by
  rw [parseClientLocaleClaim_eq,claimedLocale]
  split <;> rfl

/-- The operating system has no end of its own, and what follows it is not zero. -/
def OsOverruns (d : Bytes) : Prop := 0 ∉ slice d 17 4 ∧ byteAt d 21 ≠ 0

theorem cString_append {as : Bytes} (bs : Bytes) :
    cString (as ++ bs) = if 0 ∈ as then cString as else as ++ cString bs := by
  induction as with
  | nil => rfl
  | cons a as ih =>
    unfold cString at ih ⊢
    rw [List.cons_append,List.takeWhile_cons,List.takeWhile_cons]
    by_cases ha : a = 0
    · simp [ha]
    · simp only [ne_eq,ha,not_false_eq_true,decide_true,if_true,ih,List.mem_cons,
        Ne.symm ha,false_or]
      split <;> rfl

theorem cString_length_le (bs : Bytes) : (cString bs).length ≤ bs.length :=
  (List.takeWhile_sublist _).length_le

theorem cString_field (field : Bytes) (hl : field.length = 4) (next : UInt8) (rest : Bytes) :
    ((cString (field ++ next :: rest)).length > 4 ↔ 0 ∉ field ∧ next ≠ 0) ∧
      (¬ (0 ∉ field ∧ next ≠ 0) → cString (field ++ next :: rest) = cString field) := by
  rw [cString_append]
  by_cases hz : 0 ∈ field
  · have hle := cString_length_le field
    simp only [hz,if_true,not_true_eq_false,false_and,not_false_eq_true,iff_false,
      forall_const,and_true]
    omega
  · have hfield : cString field = field := by
      rw [cString,List.takeWhile_eq_self_iff]
      intro b hb
      have hne : b ≠ 0 := fun hb' => hz (hb' ▸ hb)
      simpa using hne
    by_cases hn : next = 0
    · subst hn
      have hnone : cString (0 :: rest) = [] := by simp [cString]
      simp [hz,hl,hfield,hnone]
    · simp [hz,hl,hn,cString]

section
variable {d : Bytes} {n : Nat}

theorem challengeFields_frame (hf : ChallengeFrame d n) :
    (challengeFields (d.take n ++ [0])).login = slice d 34 (byteAt d 33).toNat ∧
    (challengeFields (d.take n ++ [0])).build.toNat =
      (byteAt d 11).toNat+256*(byteAt d 12).toNat ∧
    (challengeFields (d.take n ++ [0])).clientLocale = parseClientLocaleClaim (slice d 21 4) ∧
    ((challengeFields (d.take n ++ [0])).os.length > 4 ↔ OsOverruns d) ∧
    (¬ OsOverruns d → (challengeFields (d.take n ++ [0])).os = cString (slice d 17 4)) := by
  have hpos := hf.account_pos
  have hsize := hf.size_eq
  have hle := hf.size_le
  have hlen : (d.take n).length = n := by
    rw [List.length_take]
    omega
  have hbyte : ∀ i < n, byteAt (d.take n ++ [0]) i = byteAt d i := by
    intro i hi
    rw [byteAt_append [0] (by omega),byteAt_take hi]
  have hslice : ∀ start len, start+len ≤ n → slice (d.take n ++ [0]) start len =
      slice d start len := by
    intro start len hin
    rw [slice_append [0] (by omega),slice_take hin]
  have hbuild : (challengeFields (d.take n ++ [0])).build.toNat =
      (byteAt d 11).toNat+256*(byteAt d 12).toNat := by
    have hlo := (byteAt d 11).toNat_lt
    have hhi := (byteAt d 12).toNat_lt
    simp only [challengeFields,hbyte 11 (by omega),hbyte 12 (by omega),u16,UInt16.toNat_ofNat']
    omega
  have hos : (d.take n ++ [0]).drop 17 =
      slice d 17 4 ++ byteAt d 21 :: (d.take n ++ [0]).drop 22 := by
    have hfirst : (d.take n ++ [0]).drop 17 =
        slice (d.take n ++ [0]) 17 4 ++ (d.take n ++ [0]).drop 21 := by
      rw [slice,← List.drop_drop (i := 4) (j := 17)]
      exact (List.take_append_drop 4 _).symm
    have hnext : (d.take n ++ [0]).drop 21 =
        byteAt (d.take n ++ [0]) 21 :: (d.take n ++ [0]).drop 22 := by
      have hin : 21 < (d.take n ++ [0]).length := by
        rw [List.length_append,hlen]
        omega
      rw [List.drop_eq_getElem_cons hin]
      simp [byteAt,List.getElem?_eq_getElem hin]
    rw [hfirst,hnext,hslice 17 4 (by omega),hbyte 21 (by omega)]
  obtain ⟨hlong,hshort⟩ := cString_field (slice d 17 4) (slice_length (by omega))
    (byteAt d 21) ((d.take n ++ [0]).drop 22)
  rw [← hos] at hlong hshort
  refine ⟨?_,hbuild,?_,hlong,hshort⟩
  · simp only [challengeFields,hbyte 33 (by omega)]
    exact hslice 34 _ (by omega)
  · simp only [challengeFields,hslice 21 4 (by omega)]

end

/-- What a challenge handler made of the frame at the start of `d`: it refuses the frame
before asking anything exactly if its operating system overruns. -/
structure ChallengeDecoded (d : Bytes) (t : List AuthEvent) (r : Bool × Session) : Prop where
  login : r.2.login = slice d 34 (byteAt d 33).toNat
  build : r.2.build.toNat = (byteAt d 11).toNat+256*(byteAt d 12).toNat
  refused : r.1 = false ∧ t = [] ↔ OsOverruns d
  os : ¬ OsOverruns d → r.2.os = (cString (slice d 17 4)).reverse
  locale : r.2.status = .logonProof ∨ r.2.status = .reconProof →
    r.2.localizationName = claimedLocale d

section
variable {lib : SharedLibrary} {s : Session} {d : Bytes} {n : Nat} {t : List AuthEvent}
  {r : Bool × Session}

variable (lib s) in
theorem ChallengeDecoded.of_claim (hf : ChallengeFrame d n) (hover : ¬ OsOverruns d)
    {s₁ s' : Session} {result : Bool} (hq : s₁.Quiet s')
    (hclaim : (s₁.login,s₁.build,s₁.os) =
      ((s.claim lib (challengeFields (d.take n ++ [0]))).login,
        (s.claim lib (challengeFields (d.take n ++ [0]))).build,
        (s.claim lib (challengeFields (d.take n ++ [0]))).os))
    (hanswered : ¬ (result = false ∧ t = []))
    (hlocale : s₁.status = .logonProof ∨ s₁.status = .reconProof → s₁.localizationName =
      (challengeFields (d.take n ++ [0])).clientLocale.getD []) :
    ChallengeDecoded d t (result,s') := by
  obtain ⟨hlogin,hbuild,hclaimed,-,hos⟩ := challengeFields_frame hf
  simp only [Session.claim,Prod.mk.injEq] at hclaim
  obtain ⟨hlogin₁,hbuild₁,hos₁⟩ := hclaim
  constructor
  case login =>
    rw [hq.same]
    exact hlogin₁.trans hlogin
  case build =>
    rw [hq.same]
    exact (congrArg UInt16.toNat hbuild₁).trans hbuild
  case refused => simp only [hanswered,hover]
  case os =>
    intro _
    rw [hq.same]
    exact hos₁.trans (congrArg List.reverse (hos hover))
  case locale =>
    intro hs
    rw [hq.status] at hs
    rw [hq.same,claimedLocale_eq,← hclaimed]
    exact hlocale hs

theorem logonChallenge_decodes (hf : ChallengeFrame d n) (hs : s.status = .closed)
    (h : (logonChallenge lib s (d.take n ++ [0])).Runs t r) : ChallengeDecoded d t r := by
  obtain ⟨hlogin,hbuild,-,hlong,-⟩ := challengeFields_frame hf
  by_cases hover : OsOverruns d
  · rw [logonChallenge,if_pos (hlong.mpr hover)] at h
    obtain ⟨rfl,rfl⟩ := h
    constructor
    case login => exact hlogin
    case build => exact hbuild
    case refused => simp [hover]
    case os => exact fun hno => absurd hover hno
    case locale => simp [hs]
  · cases logonChallenge_runs h with
    | badOs hos => exact absurd (hlong.mp hos) hover
    | refused ht hq =>
      refine .of_claim lib s hf hover hq rfl (by simp) ?_
      simp [Session.claim,hs]
    | expects ht row b s₁ hgates =>
      obtain ⟨t',hv,-⟩ := hgates.verifier
      refine .of_claim lib s hf hover hgates.expects ?_ (by simp) fun _ => rfl
      cases hv <;> rfl

theorem reconnectChallenge_decodes (hf : ChallengeFrame d n) (hs : s.status = .closed)
    (h : (reconnectChallenge lib s (d.take n ++ [0])).Runs t r) : ChallengeDecoded d t r := by
  obtain ⟨hlogin,hbuild,-,hlong,-⟩ := challengeFields_frame hf
  by_cases hover : OsOverruns d
  · simp only [reconnectChallenge,if_pos (hlong.mpr hover)] at h
    obtain ⟨rfl,rfl⟩ := h
    constructor
    case login => exact hlogin
    case build => exact hbuild
    case refused => simp [hover]
    case os => exact fun hno => absurd hover hno
    case locale => simp [Session.claim,hs]
  · cases reconnectChallenge_runs h with
    | badOs hos => exact absurd (hlong.mp hos) hover
    | unknown ht hc hq =>
      exact .of_claim lib s hf hover hq rfl (by simp) fun _ => rfl
    | expects sessionkey drawn ht hq =>
      exact .of_claim lib s hf hover hq rfl (by simp) fun _ => rfl

end

/-- A challenge as a client fills it in. -/
structure ChallengePacket where
  reconnect : Bool
  error : UInt8
  gamename : Bytes
  gamename_length : gamename.length = 4
  version : Bytes
  version_length : version.length = 3
  build : UInt16
  platform : Bytes
  platform_length : platform.length = 4
  os : Bytes
  os_length : os.length ≤ 3
  os_nonzero : 0 ∉ os
  country : Bytes
  country_length : country.length = 4
  timezone_bias : UInt32
  ip : UInt32
  account : Bytes
  account_pos : 1 ≤ account.length
  account_length : account.length ≤ 255
  account_nonzero : 0 ∉ account

namespace ChallengePacket
variable (p : ChallengePacket)

/-- The operating system on the wire: reversed, then filled up with zeros. -/
def osField : Bytes := p.os.reverse ++ List.replicate (4-p.os.length) 0

def header : Bytes :=
  [if p.reconnect then AuthCmd.authReconnectChallenge.code else AuthCmd.authLogonChallenge.code,
    p.error] ++ leBytes 2 (30+p.account.length) ++ p.gamename ++ p.version ++
    leBytes 2 p.build.toNat ++ p.platform ++ p.osField ++ p.country ++
    leBytes 4 p.timezone_bias.toNat ++ leBytes 4 p.ip.toNat

def encode : Bytes := p.header ++ UInt8.ofNat p.account.length :: p.account

theorem osField_length : p.osField.length = 4 := by
  have hl := p.os_length
  simp only [osField,List.length_append,List.length_reverse,List.length_replicate]
  omega

theorem cString_osField : (cString p.osField).reverse = p.os ∧ 0 ∈ p.osField := by
  have hl := p.os_length
  obtain ⟨k,hk⟩ : ∃ k, 4-p.os.length = k+1 := ⟨3-p.os.length,by omega⟩
  have hfield : p.osField = p.os.reverse ++ 0 :: List.replicate k 0 := by
    rw [osField,hk,List.replicate_succ]
  have hread : cString p.os.reverse = p.os.reverse := by
    rw [cString,List.takeWhile_eq_self_iff]
    intro b hb
    have hne : b ≠ 0 := fun hb' => p.os_nonzero (hb' ▸ List.mem_reverse.mp hb)
    simpa using hne
  have hnone : cString (0 :: List.replicate k 0) = [] := by simp [cString]
  constructor
  · rw [hfield,cString_append,if_neg (by simpa using p.os_nonzero),hnone,List.append_nil,
      List.reverse_reverse]
  · simp [hfield]

theorem header_split :
    p.header.length = 33 ∧
    byteAt p.header 0 = (if p.reconnect then 0x02 else 0x00) ∧
    byteAt p.header 2 = UInt8.ofNat (30+p.account.length) ∧
    byteAt p.header 3 = UInt8.ofNat ((30+p.account.length)/256) ∧
    byteAt p.header 11 = UInt8.ofNat p.build.toNat ∧
    byteAt p.header 12 = UInt8.ofNat (p.build.toNat/256) ∧
    slice p.header 17 4 = p.osField := by
  obtain ⟨_,_,_,_,hgamename⟩ := List.length_eq_four.mp p.gamename_length
  obtain ⟨_,_,_,hversion⟩ := List.length_eq_three.mp p.version_length
  obtain ⟨_,_,_,_,hplatform⟩ := List.length_eq_four.mp p.platform_length
  obtain ⟨_,_,_,_,hos⟩ := List.length_eq_four.mp p.osField_length
  obtain ⟨_,_,_,_,hcountry⟩ := List.length_eq_four.mp p.country_length
  rw [header,hgamename,hversion,hplatform,hos,hcountry]
  refine ⟨rfl,?_,rfl,rfl,rfl,rfl,rfl⟩
  cases p.reconnect <;> rfl

theorem encode_frame (more : Bytes) : ChallengeFrame (p.encode ++ more) p.encode.length := by
  obtain ⟨hl,-,h2,h3,-,-,-⟩ := p.header_split
  have hpos := p.account_pos
  have hmax := p.account_length
  have hencode : p.encode ++ more =
      p.header ++ UInt8.ofNat p.account.length :: (p.account ++ more) := by
    simp [encode]
  have h33 : (byteAt (p.encode ++ more) 33).toNat = p.account.length := by
    rw [hencode,byteAt_middle _ _ hl,UInt8.toNat_ofNat']
    omega
  have hlength : p.encode.length = 34+p.account.length := by
    rw [encode,List.length_append,List.length_cons,hl]
    omega
  constructor
  case account_pos => omega
  case body_eq =>
    rw [h33,hencode,byteAt_append _ (by omega),byteAt_append _ (by omega),h2,h3,u16,
      UInt8.toNat_ofNat',UInt8.toNat_ofNat']
    omega
  case size_eq => rw [h33,hlength]
  case size_le =>
    rw [List.length_append]
    omega
  case account_nonzero =>
    intro i hi
    rw [h33] at hi
    have hread : byteAt (p.encode ++ more) (34+i) = p.account[i] := by
      rw [hencode,byteAt,List.getD_eq_getElem?_getD,List.getElem?_append_right (by omega),hl,
        show 34+i-33 = i+1 by omega]
      simp [List.getElem?_append_left hi,List.getElem?_eq_getElem hi]
    rw [hread]
    exact fun hzero => p.account_nonzero (hzero ▸ List.getElem_mem hi)

theorem encode_fields (more : Bytes) :
    slice (p.encode ++ more) 34 (byteAt (p.encode ++ more) 33).toNat = p.account ∧
    (byteAt (p.encode ++ more) 11).toNat+256*(byteAt (p.encode ++ more) 12).toNat =
      p.build.toNat ∧
    (cString (slice (p.encode ++ more) 17 4)).reverse = p.os ∧
    ¬ OsOverruns (p.encode ++ more) := by
  obtain ⟨hl,-,-,-,h11,h12,hos⟩ := p.header_split
  have hmax := p.account_length
  have hencode : p.encode ++ more =
      p.header ++ UInt8.ofNat p.account.length :: (p.account ++ more) := by
    simp [encode]
  have h33 : (byteAt (p.encode ++ more) 33).toNat = p.account.length := by
    rw [hencode,byteAt_middle _ _ hl,UInt8.toNat_ofNat']
    omega
  have hfield : slice (p.encode ++ more) 17 4 = p.osField := by
    rw [hencode,slice_append _ (by omega),hos]
  obtain ⟨hread,hpadded⟩ := p.cString_osField
  refine ⟨?_,?_,?_,?_⟩
  · have hbefore : (p.header ++ [UInt8.ofNat p.account.length]).length = 34 := by
      rw [List.length_append,hl]
      rfl
    have hsplit : p.encode ++ more =
        (p.header ++ [UInt8.ofNat p.account.length]) ++ (p.account ++ more) := by
      simp [encode]
    rw [h33,hsplit]
    exact slice_middle more hbefore rfl
  · have hbuild := p.build.toNat_lt
    rw [hencode,byteAt_append _ (by omega),byteAt_append _ (by omega),h11,h12,
      UInt8.toNat_ofNat',UInt8.toNat_ofNat']
    omega
  · rw [hfield]
    exact hread
  · rintro ⟨hno,-⟩
    exact hno (hfield ▸ hpadded)

theorem encode_accepted : inspectFrame .challenge p.encode = .complete p.encode.length := by
  have hf := p.encode_frame []
  rw [List.append_nil] at hf
  obtain ⟨hl,hcmd,-⟩ := p.header_split
  have h0 : byteAt p.encode 0 = if p.reconnect then 0x02 else 0x00 := by
    rw [encode,byteAt_append _ (by omega),hcmd]
  have hlets : (inspectFrame .challenge p.encode).Lets p.encode.length := by
    refine inspectFrame_lets.mpr ⟨Nat.le_refl _,.challenge ?_ hf.account_pos hf.body_eq
      hf.account_nonzero hf.size_eq⟩
    rw [h0]
    cases p.reconnect
    · exact .inl rfl
    · exact .inr rfl
  obtain ⟨_,size,-,-,-,he,-,-⟩ := inspectFrame_complete hlets.1
  rw [he] at hlets ⊢
  rw [FrameDecision.lets_complete.mp hlets]

end ChallengePacket

section
variable (lib : SharedLibrary) {ω : Type} (e : AuthEnv ω)

theorem challengeHandler_decodes {handler : AuthSocket → AuthProg (Bool × AuthSocket)}
    (hhandler : handler ∈ [handleLogonChallenge lib,handleReconnectChallenge lib])
    {sock : AuthSocket} {n : Nat} (hf : ChallengeFrame sock.toReadBuffer.unread n) (env : ω) :
    ChallengeDecoded sock.toReadBuffer.unread ((handler sock).exec e env).calls
      (((handler sock).exec e env).value.1,
        ((handler sock).exec e env).value.2.toSession) := by
  have hpos : sock.m_readPos ≤ sock.m_readBuf.length := by
    have hle := hf.size_le
    have hsize := hf.size_eq
    rw [ReadBuffer.unread_length] at hle
    omega
  obtain ⟨ops,-,hread⟩ := readChallenge_complete hpos hf
  rcases List.mem_pair.mp hhandler with rfl | rfl
  · simp only [handleLogonChallenge,hread,exec_inSession]
    exact logonChallenge_decodes hf rfl (Prog.exec_runs _ _ _)
  · simp only [handleReconnectChallenge,hread,exec_inSession]
    exact reconnectChallenge_decodes hf rfl (Prog.exec_runs _ _ _)

/-- Both challenge handlers read the same values from the same bytes of every frame the
guard accepts, refuse exactly the frames whose operating system overruns, and read back
what a client encoded. -/
theorem challenge_decoding :
    (∀ (d : Bytes) (n : Nat), inspectFrame .challenge d = .complete n →
      (challengeFields (d.take n ++ [0])).clientLocale =
        if IsLocale (slice d 21 4).reverse then some (slice d 21 4).reverse else none) ∧
    (∀ handler ∈ [handleLogonChallenge lib,handleReconnectChallenge lib],
      ∀ (sock : AuthSocket) (n : Nat) (env : ω),
      inspectFrame .challenge sock.toReadBuffer.unread = .complete n →
      let out := (handler sock).exec e env
      ChallengeDecoded sock.toReadBuffer.unread out.calls
        (out.value.1,out.value.2.toSession)) ∧
    ∀ p : ChallengePacket,
      inspectFrame .challenge p.encode = .complete p.encode.length ∧
      ∀ handler ∈ [handleLogonChallenge lib,handleReconnectChallenge lib],
        ∀ (sock : AuthSocket) (more : Bytes) (env : ω),
        sock.toReadBuffer.unread = p.encode ++ more →
        let out := (handler sock).exec e env
        ¬ (out.value.1 = false ∧ out.calls = []) ∧ out.value.2.login = p.account ∧
          out.value.2.build = p.build ∧ out.value.2.os = p.os := by
  have hchallenge : ∀ {d : Bytes} {n : Nat}, inspectFrame .challenge d = .complete n →
      ChallengeFrame d n := by
    intro d n hframe
    have hlets : (inspectFrame .challenge d).Lets n := by
      rw [hframe]
      exact ⟨rfl,rfl⟩
    obtain ⟨hle,hat⟩ := inspectFrame_lets.mp hlets
    cases hat with
    | challenge hcmd hpos hbody hnonzero hsize => exact ⟨hpos,hbody,hsize,hle,hnonzero⟩
  refine ⟨?_,?_,?_⟩
  · intro d n hframe
    obtain ⟨-,-,hlocale,-⟩ := challengeFields_frame (hchallenge hframe)
    rw [hlocale,parseClientLocaleClaim_eq]
  · exact fun handler hhandler sock n env hframe =>
      challengeHandler_decodes lib e hhandler (hchallenge hframe) env
  · refine fun p => ⟨p.encode_accepted,?_⟩
    intro handler hhandler sock more env hunread out
    have hf := p.encode_frame more
    rw [← hunread] at hf
    have hdecoded := challengeHandler_decodes lib e hhandler hf env
    obtain ⟨haccount,hbuild,hos,hno⟩ := p.encode_fields more
    rw [← hunread] at haccount hbuild hos hno
    refine ⟨?_,hdecoded.login.trans haccount,?_,(hdecoded.os hno).trans hos⟩
    · exact fun hrefused => hno (hdecoded.refused.mp hrefused)
    · exact UInt16.toNat_inj.mp (hdecoded.build.trans hbuild)

end

end Realmd
