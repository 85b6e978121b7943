import Realmd.Publication
import Realmd.SrpCompleteness
set_option autoImplicit false

namespace Realmd
open ByteCodec Interaction

section
variable {lib : SharedLibrary} {cfg : WrongPass} {ω : Type} {e : AuthEnv ω}
  {run c q : HandlerRun ω} {s : Session}

def HandlerRun.keyBytes (lib : SharedLibrary) (run : HandlerRun ω) : Bytes :=
  interleavedKey lib (lib.asByteArray (serverSecret lib (proofA run.frame)
    run.before.sock.v run.before.sock.b run.before.sock.B) 32)

theorem HandlerRun.asByteArray_keyBytes (run : HandlerRun ω) :
    lib.asByteArray (leNat (run.keyBytes lib)) 40 = run.keyBytes lib := by
  have h := lib.asByteArray_leNat (run.keyBytes lib)
  rwa [keyBytes,interleavedKey_length] at h

theorem Ran.published_key (h : Ran lib cfg e run)
    {sessionkey last_ip client_locale os username : Bytes} {locale : Nat} {stored : Bool}
    (hmem : ⟨.directPExecute (.publishSession sessionkey last_ip locale client_locale os
      username),stored⟩ ∈ run.calls) :
    sessionkey = lib.asHexStr (leNat (run.keyBytes lib)) := by
  rcases h.reports with ⟨-,hspec⟩ | ⟨-,hspec⟩ | hsilent
  · have hstatement := hspec.reports.executed hmem
    exact (Statement.publishSession.inj hstatement).1
  · cases hspec.reports.executed hmem
  · exact absurd (hsilent _ hmem) (by simp [Harmless])

theorem ReconnectChallenged.restores (hc : ReconnectChallenged lib cfg e c) {K : Nat}
    (hK : 0 < K) {username reply : Bytes}
    (hstored : ⟨.selectSessionKey username,some (lib.asHexStr K)⟩ ∈ c.calls)
    (hreply : ⟨.sender reply,()⟩ ∈ c.calls) :
    c.after.sock.K = K ∧
      slice reply 2 16 = lib.asByteArray c.after.sock.reconnectProof 16 := by
  obtain ⟨sessionkey,drawn,t,hcalls,ht,hq⟩ := hc.key
  rw [hcalls,List.mem_cons,List.mem_cons] at hstored hreply
  have hkey : sessionkey = lib.asHexStr K := by
    rcases hstored with heq | heq | hmem
    · cases heq
      rfl
    · cases heq
    · rcases ht _ hmem with hc | hc <;> cases hc
  have hsent : reply = reconnectChallengeReply lib drawn := by
    rcases hreply with heq | heq | hmem
    · cases heq
    · cases heq
    · rcases ht _ hmem with hc | hc <;> cases hc
      rfl
  rw [hq.same]
  refine ⟨?_,?_⟩
  · rw [hkey]
    exact lib.setHexStr_asHexStr _ hK
  · rw [hsent,reconnectChallengeReply,List.append_assoc,List.append_assoc]
    exact slice_middle _ rfl (lib.asByteArray_length _ _)

theorem Ran.digestMatches_iff (h : Ran lib cfg e q) (hcmd : q.cmd = .authReconnectProof)
    {reply : Bytes}
    (hreply : slice reply 2 16 = lib.asByteArray q.before.sock.reconnectProof 16) :
    q.before.sock.toSession.DigestMatches lib q.frame ↔
      clientR2 lib q.before.sock.login (slice q.frame 1 16) reply
        (lib.asByteArray q.before.sock.K 40) = slice q.frame 17 20 := by
  have hlen : (slice q.frame 1 16).length = 16 := by
    apply slice_length
    rw [h.reconnectProof_length hcmd]
    omega
  have hR1 : lib.asByteArray (leNat (slice q.frame 1 16)) 16 = slice q.frame 1 16 := by
    have h := lib.asByteArray_leNat (slice q.frame 1 16)
    rwa [hlen] at h
  rw [Session.DigestMatches,reconnectDigest,clientR2,srpReconnectWidth,srpSessionKeyWidth,
    hR1,hreply]

theorem Ran.login_ne_nil (h : Ran lib cfg e c)
    (hc : c.cmd = .authLogonChallenge ∨ c.cmd = .authReconnectChallenge) :
    c.fields.login ≠ [] := by
  obtain ⟨more,hframe⟩ := h.challengeFrame hc
  have hsize := hframe.size_eq
  have hpos := hframe.account_pos
  rw [byteAt_append more (by omega)] at hsize hpos
  have hlen : c.fields.login.length = (byteAt c.frame 33).toNat := by
    change (slice (c.frame ++ [0]) 34 (byteAt (c.frame ++ [0]) 33).toNat).length = _
    rw [byteAt_append [0] (by omega)]
    apply slice_length
    rw [List.length_append]
    omega
  intro hnil
  rw [hnil,List.length_nil] at hlen
  omega

def Collides (lib : SharedLibrary) (x y : Bytes) : Prop :=
  x ≠ y ∧ (lib.sha1 x).bytes = (lib.sha1 y).bytes

/-- What a reconnect proof with the given key bytes comes to, when the account still
holds the text of the key `K`. -/
structure Reconnects (lib : SharedLibrary) (q : HandlerRun ω) (login reply K key : Bytes) :
    Prop where
  same : key = K → q.before.sock.toSession.DigestMatches lib q.frame
  accepted : key = K → q.before.sock.reconnectProof ≠ 0 →
    ∃ statement stored t, q.calls = ⟨.directPExecute statement,stored⟩ :: t ∧
      (stored = true → q.after.sock.status = .authed ∧
        SentOnce (reconnectReply q.before.sock.build) t q.after.sock.toSession)
  other : key ≠ K → q.before.sock.toSession.DigestMatches lib q.frame →
    Collides lib (login ++ slice q.frame 1 16 ++ slice reply 2 16 ++ key)
      (login ++ slice q.frame 1 16 ++ slice reply 2 16 ++ K)

variable {ω' : Type}

/-- The session key a logon published serves every later reconnect while the account
holds its text: the client with the same forty bytes passes the comparison, and one
with other bytes only by a collision. -/
theorem stored_key_reconnects (lib : SharedLibrary) (cfg : WrongPass) (k : Connection ω)
    (p : HandlerRun ω) (hp : p ∈ (k.outcome lib cfg).1)
    (sessionkey last_ip client_locale os username : Bytes) (locale : Nat)
    (hpublished : ⟨.directPExecute (.publishSession sessionkey last_ip locale client_locale
      os username),true⟩ ∈ p.calls)
    (hK : leNat (p.keyBytes lib) ≠ 0) (k' : Connection ω') (c q : HandlerRun ω')
    (rest : List (HandlerRun ω')) (hrun : (k'.outcome lib cfg).1 = c :: q :: rest)
    (hcmd : c.cmd = .authReconnectChallenge)
    (hlogin : c.fields.login = p.before.sock.login)
    (hstored : ⟨.selectSessionKey (lib.escapeString c.fields.login),some sessionkey⟩ ∈
      c.calls)
    (reply : Bytes) (hreply : ⟨.sender reply,()⟩ ∈ c.calls) (key : Bytes)
    (hR2 : slice q.frame 17 20 =
      clientR2 lib p.before.sock.login (slice q.frame 1 16) reply key) :
    q.cmd = .authReconnectProof ∧
      Reconnects lib q p.before.sock.login reply (p.keyBytes lib) key := by
  have htext := ((k.linked lib cfg).ran p hp).published_key hpublished
  have hlinked := k'.linked lib cfg
  rw [hrun] at hlinked
  obtain ⟨hc,hlink,hq,hqcmd,hspec⟩ := hlinked.reconnect_pair rfl hcmd
  rw [htext] at hstored
  obtain ⟨hrestored,hbytes⟩ := hc.restores (Nat.pos_of_ne_zero hK) hstored hreply
  have hqK : q.before.sock.K = leNat (p.keyBytes lib) := by
    rw [← hrestored,hlink.same]
  have hqlogin : q.before.sock.login = p.before.sock.login := by
    rw [← hlogin,← hc.login.1,hlink.same]
  have hqreply : slice reply 2 16 = lib.asByteArray q.before.sock.reconnectProof 16 := by
    rw [hbytes,hlink.same]
  have hiff := hq.digestMatches_iff hqcmd hqreply
  rw [hqK,p.asByteArray_keyBytes,hqlogin,hR2] at hiff
  have hsame : key = p.keyBytes lib → q.before.sock.toSession.DigestMatches lib q.frame := by
    rintro rfl
    exact hiff.mpr rfl
  refine ⟨hqcmd,hsame,?_,?_⟩
  · intro hkey hdrawn
    have hne : q.before.sock.login ≠ [] := by
      rw [hqlogin,← hlogin]
      exact hc.ran.login_ne_nil (.inr hcmd)
    obtain ⟨stored,t,hcalls,hsent⟩ := hspec.accepts hne hdrawn (by rwa [hqK]) (hsame hkey)
    exact ⟨_,stored,t,hcalls,hsent⟩
  · intro hkey hmatch
    refine ⟨fun heq => hkey (List.append_cancel_left heq),?_⟩
    exact (hiff.mp hmatch).symm

def sampleLogonKey : Bytes := clientK referenceLibrary sampleReply sampleDigest 5

def Replies.storing : Replies :=
  { Replies.verifying 0 with sessionkey := some (hexText (leNat sampleLogonKey)) }

theorem stored_key_reconnects_sample :
    let logon := Replies.storing.connect (logonInputs 5875)
    let later := Replies.storing.connect (reconnectWith sampleLogonKey 5875)
    ∃ p ∈ (logon.outcome referenceLibrary ⟨0,600,false⟩).1, ∃ c q rest,
      (later.outcome referenceLibrary ⟨0,600,false⟩).1 = c :: q :: rest ∧
      q.after.sock.status = .authed ∧
      Reconnects referenceLibrary q (ascii "ALICE")
        (reconnectChallengeReply referenceLibrary sampleDraw)
        (p.keyBytes referenceLibrary) sampleLogonKey := by
  intro logon later
  have hlogon : firstTwo (logon.outcome referenceLibrary ⟨0,600,false⟩).1 (fun _ p =>
      decide (⟨.directPExecute (.publishSession (hexText (leNat sampleLogonKey))
          (ascii "10.0.0.1") 0 (ascii "enUS") (ascii "Win") (ascii "ALICE")),true⟩ ∈ p.calls ∧
        leNat (p.keyBytes referenceLibrary) ≠ 0 ∧ p.before.sock.login = ascii "ALICE")) =
      true := by
    decide +kernel
  have hlater : firstTwo (later.outcome referenceLibrary ⟨0,600,false⟩).1 (fun c q =>
      decide (c.cmd = .authReconnectChallenge ∧ c.fields.login = ascii "ALICE" ∧
        ⟨.selectSessionKey (referenceLibrary.escapeString (ascii "ALICE")),
          some (hexText (leNat sampleLogonKey))⟩ ∈ c.calls ∧
        ⟨.sender (reconnectChallengeReply referenceLibrary sampleDraw),()⟩ ∈ c.calls ∧
        slice q.frame 17 20 = clientR2 referenceLibrary (ascii "ALICE")
          (slice q.frame 1 16) (reconnectChallengeReply referenceLibrary sampleDraw)
          sampleLogonKey ∧ q.after.sock.status = .authed)) = true := by
    decide +kernel
  obtain ⟨c₁,p,rest₁,hrun₁,htest₁⟩ := firstTwo_eq_true hlogon
  obtain ⟨c,q,rest,hrun,htest⟩ := firstTwo_eq_true hlater
  obtain ⟨hpublished,hK,hlogin⟩ := of_decide_eq_true htest₁
  obtain ⟨hcmd,hclogin,hstored,hreply,hR2,hstatus⟩ := of_decide_eq_true htest
  have hp : p ∈ (logon.outcome referenceLibrary ⟨0,600,false⟩).1 := by simp [hrun₁]
  rw [← hclogin] at hstored
  rw [← hlogin] at hR2 hclogin ⊢
  have h := stored_key_reconnects referenceLibrary ⟨0,600,false⟩ logon p hp _ _ _ _ _ _
    hpublished hK later c q rest hrun hcmd hclogin hstored _ hreply sampleLogonKey hR2
  exact ⟨p,hp,c,q,rest,hrun,hstatus,h.2⟩

end

end Realmd
