import Realmd.SrpCompleteness
set_option autoImplicit false

namespace Realmd
open ByteCodec Interaction

section
variable {lib : SharedLibrary} {s x y : Session} {r : Replies}

theorem realmEntries_exec (r : Replies) (entry : Realm → UInt8 → Bytes) (acctid : UInt32)
    (realms : List Realm) :
    ((realmEntries entry acctid realms).exec r.env ()).value =
        realms.flatMap (fun realm => entry realm ((r.numchars realm.m_ID).getD 0)) ∧
      sentBytes ((realmEntries entry acctid realms).exec r.env ()).calls = [] := by
  induction realms with
  | nil => exact ⟨rfl,rfl⟩
  | cons realm rest ih =>
    have hstep : (realmEntries entry acctid (realm :: rest)).exec r.env () =
        ⟨entry realm ((r.numchars realm.m_ID).getD 0) ++
            ((realmEntries entry acctid rest).exec r.env ()).value,
          ⟨.selectNumChars realm.m_ID acctid,r.numchars realm.m_ID⟩ ::
            (((realmEntries entry acctid rest).exec r.env ()).calls ++ []),
          ()⟩ := by
      have hcons : realmEntries entry acctid (realm :: rest) =
          .ask (.selectNumChars realm.m_ID acctid) fun numchars =>
            realmEntries entry acctid rest >>= fun tail =>
              .ret (entry realm (Option.getD numchars 0) ++ tail) := rfl
      rw [hcons]
      simp only [Prog.exec,Prog.exec_bind]
      rfl
    rw [hstep]
    refine ⟨?_,?_⟩
    · rw [List.flatMap_cons,← ih.1]
    · rw [List.append_nil]
      exact ih.2

def realmPacket (lib : SharedLibrary) (r : Replies) (s : Session) : Bytes :=
  let clientIp := parseClientIPv4 lib s.remote_address
  let entries (entry : Realm → UInt8 → Bytes) : Bytes :=
    r.realms.flatMap fun realm => entry realm ((r.numchars realm.m_ID).getD 0)
  if s.build = 5875 ∨ s.build = 6005 ∨ s.build = 6141 then
    leBytes 4 0 ++ [UInt8.ofNat r.realms.length] ++
      entries (realmEntryVanilla lib s.build s.accountSecurityLevel clientIp) ++
      leBytes 2 0x0002
  else
    leBytes 4 0 ++ leBytes 2 r.realms.length ++
      entries (realmEntry lib s.build s.accountSecurityLevel clientIp) ++
      leBytes 2 0x0010

theorem loadRealmlist_exec (lib : SharedLibrary) (r : Replies) (s : Session)
    (acctid : UInt32) :
    ((loadRealmlist lib s acctid).exec r.env ()).value = realmPacket lib r s ∧
      sentBytes ((loadRealmlist lib s acctid).exec r.env ()).calls = [] := by
  have hstep : loadRealmlist lib s acctid = .ask (.getRealmsForBuild s.build.toNat)
      fun realms =>
        if s.build = 5875 ∨ s.build = 6005 ∨ s.build = 6141 then
          realmEntries (realmEntryVanilla lib s.build s.accountSecurityLevel
            (parseClientIPv4 lib s.remote_address)) acctid realms >>= fun entries =>
            .ret (leBytes 4 0 ++ [UInt8.ofNat realms.length] ++ entries ++ leBytes 2 0x0002)
        else
          realmEntries (realmEntry lib s.build s.accountSecurityLevel
            (parseClientIPv4 lib s.remote_address)) acctid realms >>= fun entries =>
            .ret (leBytes 4 0 ++ leBytes 2 realms.length ++ entries ++ leBytes 2 0x0010) := rfl
  have hrealms : (r.env (.getRealmsForBuild s.build.toNat) ()).1 = r.realms := rfl
  rw [hstep]
  simp only [Prog.exec,hrealms,realmPacket]
  by_cases hv : s.build = 5875 ∨ s.build = 6005 ∨ s.build = 6141
  · have hentries := realmEntries_exec r (realmEntryVanilla lib s.build
      s.accountSecurityLevel (parseClientIPv4 lib s.remote_address)) acctid r.realms
    simp only [if_pos hv,Prog.exec_bind,Prog.exec_ret,List.append_nil]
    exact ⟨by rw [← hentries.1],hentries.2⟩
  · have hentries := realmEntries_exec r (realmEntry lib s.build
      s.accountSecurityLevel (parseClientIPv4 lib s.remote_address)) acctid r.realms
    simp only [if_neg hv,Prog.exec_bind,Prog.exec_ret,List.append_nil]
    exact ⟨by rw [← hentries.1],hentries.2⟩

def listReply (lib : SharedLibrary) (r : Replies) (s : Session) : List Bytes :=
  sentBytes ((realmList lib s).exec r.env ()).calls

theorem send_exec {bytes : Bytes} (hne : bytes ≠ []) (ho : s.m_closed = false)
    (hs : s.m_sender = true) :
    (s.send bytes).exec r.env () = ⟨s,[⟨.otherThreads,[]⟩,⟨.sender bytes,()⟩],()⟩ := by
  have hstep : s.send bytes = s.sync >>= fun s =>
      if s.m_closed || !s.m_sender then .ret s
      else .ask (.sender bytes) fun _ => .ret s := by
    simp only [Session.send,if_neg hne]
    rfl
  rw [hstep,Prog.exec_bind]
  simp only [Session.sync,Prog.exec,Replies.env,List.foldl_nil,ho,hs,Bool.not_true,
    Bool.or_self,Bool.false_eq_true,if_false]
  rfl

theorem listReply_eq (ho : s.m_closed = false) (hs : s.m_sender = true) :
    listReply lib r s = r.accountId.toList.map fun _ =>
      [0x10] ++ leBytes 2 (realmPacket lib r s).length ++ realmPacket lib r s := by
  have hstep : realmList lib s = .ask (.selectAccountId s.safelogin) fun account =>
      Option.elim account (s.close >>= fun s => .ret (false,s)) fun found =>
        .ask .updateRealmsIfNeed fun _ =>
          loadRealmlist lib s found.1 >>= fun pkt =>
            s.send ([AuthCmd.realmList.code] ++ leBytes 2 pkt.length ++ pkt) >>= fun s =>
              .ret (true,s) := by
    refine congrArg (Prog.ask _) (funext fun account => ?_)
    cases account <;> rfl
  have hreply : (r.env (.selectAccountId s.safelogin) ()).1 = r.accountId := rfl
  rw [listReply,hstep]
  simp only [Prog.exec,hreply]
  cases hid : r.accountId with
  | none => rfl
  | some account =>
    obtain ⟨id,hash⟩ := account
    obtain ⟨hvalue,hsilent⟩ := loadRealmlist_exec lib r s id
    simp only [Option.elim_some,Prog.exec,Prog.exec_bind,hvalue]
    rw [send_exec (by simp) ho hs]
    have htail : ∀ t, sentBytes (⟨.selectAccountId s.safelogin,some (id,hash)⟩ ::
        ⟨.updateRealmsIfNeed,()⟩ :: t) = sentBytes t := fun _ => rfl
    rw [htail,sentBytes_append,hsilent]
    rfl

theorem listReply_congr (hbuild : x.build = y.build)
    (haddress : x.remote_address = y.remote_address)
    (hlevel : x.accountSecurityLevel = y.accountSecurityLevel) (hox : x.m_closed = false)
    (hoy : y.m_closed = false) (hsx : x.m_sender = true) (hsy : y.m_sender = true) :
    listReply lib r x = listReply lib r y := by
  have hpacket : realmPacket lib r x = realmPacket lib r y := by
    simp only [realmPacket,hbuild,haddress,hlevel]
  rw [listReply_eq hox hsx,listReply_eq hoy hsy,hpacket]

def levelRealm (build : UInt16) (level : UInt8) : Realm :=
  ⟨[],⟨0,0,false⟩,⟨0,0,false⟩,⟨0,0,false⟩,0,0,0,0,level,0,[build.toNat],⟨0,0,0,0,0⟩⟩

def levelReplies (build : UInt16) (level : UInt8) : Replies :=
  { accountId := some (0,[]), realms := [levelRealm build level] }

theorem realmPacket_level (lib : SharedLibrary) (s : Session) (build : UInt16)
    (level : UInt8) (hs : s.build = build) :
    byteAt (realmPacket lib (levelReplies build level) s)
        (if build = 5875 ∨ build = 6005 ∨ build = 6141 then 9 else 7) =
      if level > s.accountSecurityLevel then
        (if build = 5875 ∨ build = 6005 ∨ build = 6141 then 2 else 1) else 0 := by
  have hok : okBuild (levelRealm build level) build = true := by
    simp [okBuild,levelRealm]
  by_cases hv : build = 5875 ∨ build = 6005 ∨ build = 6141
  · simp only [realmPacket,levelReplies,hs,hv,if_true,List.flatMap_cons,List.flatMap_nil,
      realmEntryVanilla,hok]
    by_cases hl : level > s.accountSecurityLevel
    · simp [hl,levelRealm]
      rfl
    · simp [hl,levelRealm]
      rfl
  · simp only [realmPacket,levelReplies,hs,hv,if_false,List.flatMap_cons,List.flatMap_nil,
      realmEntry,hok]
    by_cases hl : level > s.accountSecurityLevel
    · simp [hl,levelRealm]
      rfl
    · simp [hl,levelRealm]
      rfl

theorem level_le_of_listReply (hbuild : x.build = y.build) (hox : x.m_closed = false)
    (hoy : y.m_closed = false) (hsx : x.m_sender = true) (hsy : y.m_sender = true)
    (h : ∀ r, listReply lib r x = listReply lib r y) :
    x.accountSecurityLevel ≤ y.accountSecurityLevel := by
  by_contra hlt
  rw [UInt8.not_le] at hlt
  have hreply := h (levelReplies x.build x.accountSecurityLevel)
  rw [listReply_eq hox hsx,listReply_eq hoy hsy] at hreply
  simp only [levelReplies,Option.toList_some,List.map_cons,List.map_nil,List.cons.injEq,
    and_true,List.append_assoc] at hreply
  have hpacket := List.append_inj_right (List.append_cancel_left hreply) (by simp)
  have hx := realmPacket_level lib x x.build x.accountSecurityLevel rfl
  have hy := realmPacket_level lib y x.build x.accountSecurityLevel hbuild.symm
  rw [levelReplies,if_neg (UInt8.lt_irrefl _)] at hx
  rw [levelReplies,if_pos hlt] at hy
  rw [hpacket,hy] at hx
  split at hx <;> contradiction

/-- An open authenticated session of a connection, after the challenge `c`. -/
structure Connection.Reaches {ω : Type} (k : Connection ω) (lib : SharedLibrary)
    (cfg : WrongPass) (c : HandlerRun ω) (x : Session) : Prop where
  first : (k.outcome lib cfg).1.head? = some c
  state : x ∈ sessionStates (k.outcome lib cfg).1 (k.outcome lib cfg).2.sock.toSession
  authed : x.status = .authed
  opened : x.m_closed = false

variable {cfg : WrongPass} {ω ω' : Type} {k : Connection ω} {c : HandlerRun ω}

theorem Connection.Reaches.admits (h : k.Reaches lib cfg c x) :
    ∃ p, (k.start lib).sock.toSession.Quiet c.before.sock.toSession ∧
      Admits lib cfg k.surroundings c p ∧ p.after.sock.toSession.Quiet x ∧
      x.settings = (k.start lib).sock.toSession.settings := by
  obtain ⟨c',p,rest,hrun,hq,had,hq'⟩ := (k.linked lib cfg).admitted rfl h.state h.authed
  have hfirst := h.first
  rw [hrun,List.head?_cons] at hfirst
  obtain rfl := Option.some.inj hfirst
  have hp : p ∈ (k.outcome lib cfg).1 := by
    rw [hrun]
    simp
  refine ⟨p,hq,had,hq',?_⟩
  rw [hq'.settings,((k.linked lib cfg).ran p hp).settings]
  exact (k.linked lib cfg).settings p hp

theorem Connection.Reaches.sender (h : k.Reaches lib cfg c x) : x.m_sender = true := by
  obtain ⟨p,-,-,-,hsettings⟩ := h.admits
  exact congrArg (fun settings => settings.2.2) hsettings

theorem Connection.Reaches.address (h : k.Reaches lib cfg c x) :
    x.remote_address = k.remote_address := by
  obtain ⟨p,-,-,-,hsettings⟩ := h.admits
  exact congrArg Prod.fst hsettings

theorem Connection.Reaches.logon_level (h : k.Reaches lib cfg c x)
    (hcmd : c.cmd = .authLogonChallenge) {username : Bytes} {row : AccountRow}
    (hrow : ⟨.selectAccount username,some row⟩ ∈ c.calls) :
    x.accountSecurityLevel = clampSecurity lib row.gmlevel := by
  obtain ⟨p,-,had,hq,-⟩ := h.admits
  rcases had.path with ⟨hc,hp⟩ | ⟨hc,-⟩
  · obtain ⟨row',b,s₁,hgates⟩ := hc.gates
    obtain rfl : row = row' := Option.some.inj (hgates.row_unique _ _ hrow)
    have hbefore : p.before.sock.accountSecurityLevel = c.after.sock.accountSecurityLevel := by
      rw [had.link.same]
    have hafter : c.after.sock.accountSecurityLevel = clampSecurity lib row.gmlevel := by
      rw [hgates.expects.same]
      rfl
    rw [← hafter,← hbefore,hq.same]
    change p.after.sock.accountSecurityLevel = _
    rw [hp.after.same]
    rfl
  · exact absurd (hcmd.symm.trans hc.cmd) (by decide)

theorem Connection.Reaches.reconnect_level (h : k.Reaches lib cfg c x)
    (hcmd : c.cmd = .authReconnectChallenge) : x.accountSecurityLevel = lib.secPlayer := by
  obtain ⟨p,hstart,had,hq,-⟩ := h.admits
  rcases had.path with ⟨hc,-⟩ | ⟨hc,hp⟩
  · exact absurd (hcmd.symm.trans hc.cmd) (by decide)
  · obtain ⟨sessionkey,drawn,t,-,-,hkey⟩ := hc.key
    have hfresh : c.before.sock.accountSecurityLevel = lib.secPlayer := by
      rw [hstart.same]
      rfl
    have hafter : c.after.sock.accountSecurityLevel = c.before.sock.accountSecurityLevel := by
      rw [hkey.same]
      rfl
    have hbefore : p.before.sock.accountSecurityLevel = c.after.sock.accountSecurityLevel := by
      rw [had.link.same]
    rw [← hfresh,← hafter,← hbefore,hq.same]
    change p.after.sock.accountSecurityLevel = _
    rw [hp.after.same]
    rfl

theorem clampSecurity_eq_min (level : UInt8) :
    clampSecurity lib level = min level lib.secAdministrator := rfl

theorem min_level_iff (level : UInt8) :
    lib.secPlayer = min level lib.secAdministrator ↔ level = lib.secPlayer := by
  have hlt := lib.secPlayer_lt
  have hle := UInt8.le_of_lt hlt
  constructor
  · intro h
    rw [← clampSecurity_eq_min,clampSecurity] at h
    split at h
    · exact h.symm
    · rw [h] at hlt
      exact absurd hlt (UInt8.lt_irrefl _)
  · rintro rfl
    rw [← clampSecurity_eq_min,clampSecurity,if_pos hle]

/-- A logon and a reconnect to the same account, with the same build and from the same
address, are shown the same realm lists, and hold the level of the account, exactly
when the account is that of a player. -/
theorem realm_lists_same_iff_player (lib : SharedLibrary) (cfg : WrongPass)
    (k : Connection ω) (k' : Connection ω') (c : HandlerRun ω) (c' : HandlerRun ω')
    (x y : Session) (hx : k.Reaches lib cfg c x) (hcmd : c.cmd = .authLogonChallenge)
    (hy : k'.Reaches lib cfg c' y) (hcmd' : c'.cmd = .authReconnectChallenge)
    (row : AccountRow)
    (hrow : ⟨.selectAccount (lib.escapeString y.login),some row⟩ ∈ c.calls)
    (hbuild : x.build = y.build) (haddress : k.remote_address = k'.remote_address) :
    (∀ r, listReply lib r x = listReply lib r y ∧
        x.accountSecurityLevel = min row.gmlevel lib.secAdministrator ∧
        y.accountSecurityLevel = min row.gmlevel lib.secAdministrator ↔
      row.gmlevel = lib.secPlayer) ∧
    ((∀ r, listReply lib r x = listReply lib r y) ↔ row.gmlevel = lib.secPlayer) := by
  have hlx : x.accountSecurityLevel = min row.gmlevel lib.secAdministrator :=
    hx.logon_level hcmd hrow
  have hly := hy.reconnect_level hcmd'
  have hsame : row.gmlevel = lib.secPlayer → ∀ r, listReply lib r x = listReply lib r y := by
    intro hplayer r
    have hlevel : x.accountSecurityLevel = y.accountSecurityLevel := by
      rw [hlx,hly,(min_level_iff _).mpr hplayer]
    exact listReply_congr hbuild (by rw [hx.address,hy.address,haddress]) hlevel hx.opened
      hy.opened hx.sender hy.sender
  constructor
  · intro r
    rw [hly,min_level_iff]
    exact ⟨fun h => h.2.2,fun h => ⟨hsame h r,hlx,h⟩⟩
  · refine ⟨fun h => ?_,hsame⟩
    have hle := level_le_of_listReply hbuild hx.opened hy.opened hx.sender hy.sender h
    have hge := level_le_of_listReply hbuild.symm hy.opened hx.opened hy.sender hx.sender
      fun r => (h r).symm
    rw [← min_level_iff,← hlx,← hly]
    exact UInt8.le_antisymm hge hle

theorem realm_lists_same_iff_player_sample :
    let k := (Replies.verifying 0).connect (logonInputs 5875)
    let k' := (Replies.verifying 0).connect (reconnectInputs 5875)
    let x := (k.outcome referenceLibrary ⟨0,600,false⟩).2.sock.toSession
    let y := (k'.outcome referenceLibrary ⟨0,600,false⟩).2.sock.toSession
    x.status = .authed ∧ y.status = .authed ∧
      ∀ r, listReply referenceLibrary r x = listReply referenceLibrary r y := by
  intro k k' x y
  have hlogon : (k.outcome referenceLibrary ⟨0,600,false⟩).1.head?.any (fun c =>
      decide (c.cmd = .authLogonChallenge ∧
        ⟨.selectAccount (referenceLibrary.escapeString (ascii "ALICE")),
          some (verifierRow 0)⟩ ∈ c.calls ∧
        x.status = .authed ∧ x.m_closed = false ∧ x.build = 5875)) = true := by
    decide +kernel
  have hreconnect : (k'.outcome referenceLibrary ⟨0,600,false⟩).1.head?.any (fun c =>
      decide (c.cmd = .authReconnectChallenge ∧ y.login = ascii "ALICE" ∧
        y.status = .authed ∧ y.m_closed = false ∧ y.build = 5875)) = true := by
    decide +kernel
  obtain ⟨c,hc,htest⟩ := (Option.any_eq_true _ _).mp hlogon
  obtain ⟨c',hc',htest'⟩ := (Option.any_eq_true _ _).mp hreconnect
  obtain ⟨hcmd,hrow,hstatus,hopen,hbuild⟩ := of_decide_eq_true htest
  obtain ⟨hcmd',hlogin,hstatus',hopen',hbuild'⟩ := of_decide_eq_true htest'
  rw [← hlogin] at hrow
  have h := realm_lists_same_iff_player referenceLibrary ⟨0,600,false⟩ k k' c c' x y
    ⟨hc,by simp [sessionStates,x],hstatus,hopen⟩ hcmd
    ⟨hc',by simp [sessionStates,y],hstatus',hopen'⟩ hcmd' (verifierRow 0) hrow
    (hbuild.trans hbuild'.symm) rfl
  exact ⟨hstatus,hstatus',h.2.mpr rfl⟩

/-- A game master sees a restricted realm open after a logon and offline after a
reconnect to the same account, with the same build and from the same address. -/
theorem reconnect_forgets_level :
    let r := { Replies.verifying 3 with realms := [levelRealm 5875 1] }
    let logon := (r.connect (logonInputs 5875)).outcome referenceLibrary ⟨0,600,false⟩
    let later := (r.connect (reconnectInputs 5875)).outcome referenceLibrary ⟨0,600,false⟩
    logon.2.sock.status = .authed ∧ later.2.sock.status = .authed ∧
      logon.2.sock.login = later.2.sock.login ∧
      logon.2.sock.build = later.2.sock.build ∧
      logon.2.sock.remote_address = later.2.sock.remote_address ∧
      logon.2.sock.accountSecurityLevel = 3 ∧ later.2.sock.accountSecurityLevel = 0 ∧
      (logon.1.map fun run => sentBytes run.calls).getLast? ≠
        (later.1.map fun run => sentBytes run.calls).getLast? := by
  decide +kernel

end

end Realmd
