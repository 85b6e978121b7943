import Realmd.Decoder
import Realmd.HandlerSpecs
set_option autoImplicit false

namespace Realmd
open ByteCodec Interaction

/-- One realm of a list as a client reads it. The vanilla layout has neither a lock nor a
version. -/
structure ShownRealm where
  icon : Nat
  lock : Option UInt8
  flags : UInt8
  name : Bytes
  address : Bytes
  populationLevel : Nat
  amountOfCharacters : UInt8
  timezone : UInt8
  version : Option (UInt8 × UInt8 × UInt8 × Nat)
  deriving DecidableEq, Repr

def decodeRealmVanilla : Decoder ShownRealm := do
  let icon ← Decoder.le 4
  let flags ← Decoder.byte
  let name ← Decoder.cString
  let address ← Decoder.cString
  let populationLevel ← Decoder.le 4
  let amountOfCharacters ← Decoder.byte
  let timezone ← Decoder.byte
  let _ ← Decoder.byte
  return ⟨icon,none,flags,name,address,populationLevel,amountOfCharacters,timezone,none⟩

/-- The version trailer, there exactly if the flags that were read say so. -/
def decodeVersion (flags : UInt8) : Decoder (Option (UInt8 × UInt8 × UInt8 × Nat)) :=
  if flags &&& realmFlagSpecifyBuild ≠ 0 then do
    let major ← Decoder.byte
    let minor ← Decoder.byte
    let bugfix ← Decoder.byte
    let build ← Decoder.le 2
    return some (major,minor,bugfix,build)
  else pure none

def decodeRealm : Decoder ShownRealm := do
  let icon ← Decoder.byte
  let lock ← Decoder.byte
  let flags ← Decoder.byte
  let name ← Decoder.cString
  let address ← Decoder.cString
  let populationLevel ← Decoder.le 4
  let amountOfCharacters ← Decoder.byte
  let timezone ← Decoder.byte
  let _ ← Decoder.byte
  let version ← decodeVersion flags
  return ⟨icon.toNat,some lock,flags,name,address,populationLevel,amountOfCharacters,
    timezone,version⟩

def decodeRealmlist (vanilla : Bool) : Decoder (List ShownRealm) := do
  let _ ← Decoder.le 4
  let count ← Decoder.le (if vanilla then 1 else 2)
  let realms ← Decoder.times (if vanilla then decodeRealmVanilla else decodeRealm) count
  let _ ← Decoder.le 2
  return realms

/-- The rest of a reply after its command byte: the header announces exactly the bytes
of the body. -/
def decodeRealmFrame (vanilla : Bool) : Decoder (List ShownRealm) := do
  let size ← Decoder.le 2
  Decoder.block size (decodeRealmlist vanilla)

def decodeRealmReply (vanilla : Bool) : Decoder (List ShownRealm) := do
  let cmd ← Decoder.byte
  if cmd = AuthCmd.realmList.code then decodeRealmFrame vanilla else failure

section
variable (lib : SharedLibrary) (s : Session)

/-- What a client of the session's build is to see of a realm. -/
structure Shows (realm : Realm) (amountOfCharacters : UInt8) (shown : ShownRealm) : Prop where
  icon : shown.icon = realm.icon.toNat
  name : shown.name = realm.name ++
    if isPreTbc s.build = true ∧ realm.realmflags &&& realmFlagSpecifyBuild ≠ 0 then
      versionSuffix (shownBuildInfo realm s.build)
    else []
  address : shown.address = lib.getAddressString
    (getAddressForClient lib realm (parseClientIPv4 lib s.remote_address)).ip
    realm.externalAddress.port
  populationLevel : shown.populationLevel = realm.populationLevel.toNat
  amountOfCharacters : shown.amountOfCharacters = amountOfCharacters
  timezone : shown.timezone = realm.timezone
  offline : shown.flags &&& realmFlagOffline ≠ 0 ↔
    realm.realmflags &&& realmFlagOffline ≠ 0 ∨ s.build.toNat ∉ realm.realmbuilds ∨
      isPreTbc s.build = true ∧ realm.allowedSecurityLevel > s.accountSecurityLevel
  flags : shown.flags ||| realmFlagOffline = realm.realmflags ||| realmFlagOffline
  lock : shown.lock = if isPreTbc s.build then none
    else some (if realm.allowedSecurityLevel > s.accountSecurityLevel then 1 else 0)
  version : shown.version =
    if isPreTbc s.build = false ∧ realm.realmflags &&& realmFlagSpecifyBuild ≠ 0 then
      let info := shownBuildInfo realm s.build
      some (UInt8.ofNat info.major_version,UInt8.ofNat info.minor_version,
        UInt8.ofNat info.bugfix_version,s.build.toNat)
    else none

end

def numCharsAsked (calls : List AuthEvent) : List (UInt32 × UInt32 × Option UInt8) :=
  calls.filterMap fun ev =>
    match ev with
    | ⟨.selectNumChars realmid acctid,numchars⟩ => some (realmid,acctid,numchars)
    | _ => none

def realmsAsked (calls : List AuthEvent) : List (Nat × List Realm) :=
  calls.filterMap fun ev =>
    match ev with
    | ⟨.getRealmsForBuild build,realms⟩ => some (build,realms)
    | _ => none

section
variable {lib : SharedLibrary} {s : Session} {t : List AuthEvent}

theorem zero_notMem_decimal (n : Nat) : 0 ∉ decimal n := by
  intro hmem
  have hdigit := isDigit_decimal n 0 hmem
  simp [isDigit_iff] at hdigit

theorem zero_notMem_versionSuffix (info : RealmBuildInfo) : 0 ∉ versionSuffix info := by
  intro hmem
  have hall := List.mem_of_mem_take hmem
  simp only [List.mem_append] at hall
  have hmajor := zero_notMem_decimal info.major_version
  have hminor := zero_notMem_decimal info.minor_version
  have hbugfix := zero_notMem_decimal info.bugfix_version
  have hfirst : 0 ∉ ascii " (" := by decide
  have hcomma : 0 ∉ ascii "," := by decide
  have hlast : 0 ∉ ascii ")" := by decide
  tauto

theorem offline_bit (flags : UInt8) :
    (flags ||| realmFlagOffline) &&& realmFlagOffline ≠ 0 ∧
      (flags ||| realmFlagOffline) &&& realmFlagSpecifyBuild =
        flags &&& realmFlagSpecifyBuild ∧
      flags ||| realmFlagOffline ||| realmFlagOffline = flags ||| realmFlagOffline := by
  obtain ⟨bits⟩ := flags
  revert bits
  decide +kernel

theorem markedOffline {flags shown : UInt8} {reason : Bool}
    (h : (if reason then flags ||| realmFlagOffline else flags) = shown) :
    (shown &&& realmFlagOffline ≠ 0 ↔ flags &&& realmFlagOffline ≠ 0 ∨ reason = true) ∧
      shown ||| realmFlagOffline = flags ||| realmFlagOffline ∧
      shown &&& realmFlagSpecifyBuild = flags &&& realmFlagSpecifyBuild := by
  obtain ⟨hset,hspecify,hother⟩ := offline_bit flags
  subst h
  cases reason with
  | true => simp [hset,hspecify,hother]
  | false => simp

theorem isPreTbc_iff (build : UInt16) :
    isPreTbc build = true ↔ build = 5875 ∨ build = 6005 ∨ build = 6141 := by
  simp [isPreTbc,or_assoc]

theorem realmEntryVanilla_reads (hbuild : isPreTbc s.build = true) {realm : Realm}
    (hname : 0 ∉ realm.name) (haddress : ∀ ip port, 0 ∉ lib.getAddressString ip port)
    (amountOfCharacters : UInt8) :
    ∃ shown, Decoder.Reads decodeRealmVanilla
        (realmEntryVanilla lib s.build s.accountSecurityLevel
          (parseClientIPv4 lib s.remote_address) realm amountOfCharacters) shown ∧
      Shows lib s realm amountOfCharacters shown := by
  generalize hflags : (if !okBuild realm s.build ||
    realm.allowedSecurityLevel > s.accountSecurityLevel then
      realm.realmflags ||| realmFlagOffline else realm.realmflags) = flags
  generalize hshown : (if realm.realmflags &&& realmFlagSpecifyBuild ≠ 0 then
      realm.name ++ versionSuffix (shownBuildInfo realm s.build) else realm.name) = name
  have hzero : 0 ∉ name := by
    rw [← hshown]
    split
    · rw [List.mem_append,not_or]
      exact ⟨hname,zero_notMem_versionSuffix _⟩
    · exact hname
  refine ⟨⟨realm.icon.toNat,none,flags,name,
    realmAddressText lib realm (parseClientIPv4 lib s.remote_address),
    realm.populationLevel.toNat,amountOfCharacters,realm.timezone,none⟩,?_,?_⟩
  · have hicon : realm.icon.toNat < 256^4 := by
      have hlt := realm.icon.toNat_lt
      omega
    have hpopulation : realm.populationLevel.toNat < 256^4 := realm.populationLevel.toNat_lt
    have hreads : Decoder.Reads decodeRealmVanilla
        (leBytes 4 realm.icon.toNat ++ ([flags] ++ (packString name ++
          (packString (realmAddressText lib realm (parseClientIPv4 lib s.remote_address)) ++
            (leBytes 4 realm.populationLevel.toNat ++ ([amountOfCharacters] ++
              ([realm.timezone] ++ [0]))))))) _ :=
      .bind (.le hicon) (.bind (.byte flags) (.bind (.cString hzero)
        (.bind (.cString (haddress _ _)) (.bind (.le hpopulation)
          (.bind (.byte amountOfCharacters) (.bind (.byte realm.timezone)
            (Decoder.Reads.map (.byte 0) _)))))))
    rw [realmEntryVanilla]
    simp only [hflags,hshown]
    simpa only [List.append_assoc,List.cons_append,List.nil_append] using hreads
  · obtain ⟨hoffline,hother,-⟩ := markedOffline hflags
    constructor
    case icon => rfl
    case name =>
      rw [← hshown]
      simp only [hbuild,true_and]
      split <;> simp
    case address => rfl
    case populationLevel => rfl
    case amountOfCharacters => rfl
    case timezone => rfl
    case offline =>
      rw [hoffline]
      simp [hbuild,okBuild]
    case flags => exact hother
    case lock => simp [hbuild]
    case version => simp [hbuild]

theorem decodeVersion_reads (flags : UInt8) (info : RealmBuildInfo) (build : UInt16) :
    Decoder.Reads (decodeVersion flags)
      (if flags &&& realmFlagSpecifyBuild ≠ 0 then
        [UInt8.ofNat info.major_version,UInt8.ofNat info.minor_version,
          UInt8.ofNat info.bugfix_version] ++ leBytes 2 build.toNat
      else [])
      (if flags &&& realmFlagSpecifyBuild ≠ 0 then
        some (UInt8.ofNat info.major_version,UInt8.ofNat info.minor_version,
          UInt8.ofNat info.bugfix_version,build.toNat)
      else none) := by
  unfold decodeVersion
  split
  · change Decoder.Reads _ ([UInt8.ofNat info.major_version] ++
      ([UInt8.ofNat info.minor_version] ++ ([UInt8.ofNat info.bugfix_version] ++
        leBytes 2 build.toNat))) _
    exact .bind (.byte _) (.bind (.byte _) (.bind (.byte _)
      (Decoder.Reads.map (.le build.toNat_lt) _)))
  · exact .pure none

theorem realmEntry_reads (hbuild : isPreTbc s.build = false) {realm : Realm}
    (hname : 0 ∉ realm.name) (haddress : ∀ ip port, 0 ∉ lib.getAddressString ip port)
    (amountOfCharacters : UInt8) :
    ∃ shown, Decoder.Reads decodeRealm
        (realmEntry lib s.build s.accountSecurityLevel
          (parseClientIPv4 lib s.remote_address) realm amountOfCharacters) shown ∧
      Shows lib s realm amountOfCharacters shown := by
  generalize hflags : (if !okBuild realm s.build then
      realm.realmflags ||| realmFlagOffline else realm.realmflags) = flags
  obtain ⟨hoffline,hother,hspecify⟩ := markedOffline hflags
  have hversion := decodeVersion_reads flags (shownBuildInfo realm s.build) s.build
  refine ⟨⟨realm.icon.toNat,
    some (if realm.allowedSecurityLevel > s.accountSecurityLevel then 1 else 0),flags,
    realm.name,realmAddressText lib realm (parseClientIPv4 lib s.remote_address),
    realm.populationLevel.toNat,amountOfCharacters,realm.timezone,
    if flags &&& realmFlagSpecifyBuild ≠ 0 then
      some (UInt8.ofNat (shownBuildInfo realm s.build).major_version,
        UInt8.ofNat (shownBuildInfo realm s.build).minor_version,
        UInt8.ofNat (shownBuildInfo realm s.build).bugfix_version,s.build.toNat)
    else none⟩,?_,?_⟩
  · have hpopulation : realm.populationLevel.toNat < 256^4 := realm.populationLevel.toNat_lt
    have hreads : Decoder.Reads decodeRealm ([realm.icon] ++
        ([if realm.allowedSecurityLevel > s.accountSecurityLevel then 1 else 0] ++
          ([flags] ++ (packString realm.name ++
            (packString (realmAddressText lib realm (parseClientIPv4 lib s.remote_address)) ++
              (leBytes 4 realm.populationLevel.toNat ++ ([amountOfCharacters] ++
                ([realm.timezone] ++ ([0x2C] ++ _))))))))) _ :=
      .bind (.byte realm.icon) (.bind (.byte _) (.bind (.byte flags) (.bind (.cString hname)
        (.bind (.cString (haddress _ _)) (.bind (.le hpopulation)
          (.bind (.byte amountOfCharacters) (.bind (.byte realm.timezone) (.bind (.byte 0x2C)
            (hversion.map _)))))))))
    rw [realmEntry]
    simp only [hflags]
    simpa only [List.append_assoc,List.cons_append,List.nil_append] using hreads
  · constructor
    case icon => rfl
    case name => simp [hbuild]
    case address => rfl
    case populationLevel => rfl
    case amountOfCharacters => rfl
    case timezone => rfl
    case offline =>
      rw [hoffline]
      simp [hbuild,okBuild]
    case flags => exact hother
    case lock => simp [hbuild]
    case version =>
      rw [hspecify]
      simp [hbuild]

def realmListBody (lib : SharedLibrary) (s : Session) (counts : List (Realm × Option UInt8)) :
    Bytes :=
  let clientIp := parseClientIPv4 lib s.remote_address
  if isPreTbc s.build then
    leBytes 4 0 ++ leBytes 1 counts.length ++
      (counts.map fun c => realmEntryVanilla lib s.build s.accountSecurityLevel clientIp c.1
        (c.2.getD 0)).flatten ++ leBytes 2 0x0002
  else
    leBytes 4 0 ++ leBytes 2 counts.length ++
      (counts.map fun c => realmEntry lib s.build s.accountSecurityLevel clientIp c.1
        (c.2.getD 0)).flatten ++ leBytes 2 0x0010

def realmListReply (lib : SharedLibrary) (s : Session) (counts : List (Realm × Option UInt8)) :
    Bytes :=
  [AuthCmd.realmList.code] ++ leBytes 2 (realmListBody lib s counts).length ++
    realmListBody lib s counts

theorem realmEntries_body {entry : Realm → UInt8 → Bytes} {acctid : UInt32}
    {realms : List Realm} {body : Bytes}
    (h : (realmEntries entry acctid realms).Runs t body) :
    ∃ counts : List (Realm × Option UInt8), counts.map Prod.fst = realms ∧
      realmsAsked t = [] ∧ numCharsAsked t = counts.map (fun c => (c.1.m_ID,acctid,c.2)) ∧
      body = (counts.map fun c => entry c.1 (c.2.getD 0)).flatten := by
  induction realms generalizing t body with
  | nil =>
    obtain ⟨rfl,rfl⟩ := h
    exact ⟨[],rfl,rfl,rfl,rfl⟩
  | cons realm rest ih =>
    obtain ⟨numchars,t₁,rfl,h⟩ := h
    obtain ⟨t₂,t₃,tail,rfl,hrest,rfl,rfl⟩ :=
      (Prog.runs_bind (p := realmEntries entry acctid rest)).mp h
    obtain ⟨counts,hrealms,hnone,hasked,rfl⟩ := ih hrest
    refine ⟨(realm,numchars) :: counts,by rw [List.map_cons,hrealms],?_,?_,rfl⟩
    · rw [List.append_nil]
      exact hnone
    · rw [List.append_nil,List.map_cons,← hasked]
      rfl

theorem loadRealmlist_body {acctid : UInt32} {pkt : Bytes}
    (h : (loadRealmlist lib s acctid).Runs t pkt) :
    ∃ counts : List (Realm × Option UInt8),
      realmsAsked t = [(s.build.toNat,counts.map Prod.fst)] ∧
      numCharsAsked t = counts.map (fun c => (c.1.m_ID,acctid,c.2)) ∧
      pkt = realmListBody lib s counts := by
  obtain ⟨realms,t₁,rfl,h⟩ := h
  simp only [Prog.bind] at h
  by_cases hv : s.build = 5875 ∨ s.build = 6005 ∨ s.build = 6141
  · rw [if_pos hv] at h
    obtain ⟨t₂,t₃,body,rfl,hentries,rfl,rfl⟩ := Prog.runs_bind.mp h
    obtain ⟨counts,rfl,hnone,hasked,rfl⟩ := realmEntries_body hentries
    rw [List.append_nil]
    refine ⟨counts,congrArg (_ :: ·) hnone,hasked,?_⟩
    rw [realmListBody,(isPreTbc_iff s.build).mpr hv,List.length_map]
    rfl
  · rw [if_neg hv] at h
    obtain ⟨t₂,t₃,body,rfl,hentries,rfl,rfl⟩ := Prog.runs_bind.mp h
    obtain ⟨counts,rfl,hnone,hasked,rfl⟩ := realmEntries_body hentries
    have hlater : isPreTbc s.build = false := by
      rw [← Bool.not_eq_true,isPreTbc_iff]
      exact hv
    rw [List.append_nil]
    refine ⟨counts,congrArg (_ :: ·) hnone,hasked,?_⟩
    rw [realmListBody,hlater,List.length_map]
    rfl

theorem realmsAsked_append (t t' : List AuthEvent) :
    realmsAsked (t ++ t') = realmsAsked t ++ realmsAsked t' := by
  simp [realmsAsked]

theorem numCharsAsked_append (t t' : List AuthEvent) :
    numCharsAsked (t ++ t') = numCharsAsked t ++ numCharsAsked t' := by
  simp [numCharsAsked]

theorem asked_sending {bytes : Bytes} (h : Calls (Sending bytes) t) :
    realmsAsked t = [] ∧ numCharsAsked t = [] := by
  constructor
  · rw [realmsAsked,List.filterMap_eq_nil_iff]
    rintro ⟨call,reply⟩ hmem
    rcases h _ hmem with hc | hc <;> cases hc <;> rfl
  · rw [numCharsAsked,List.filterMap_eq_nil_iff]
    rintro ⟨call,reply⟩ hmem
    rcases h _ hmem with hc | hc <;> cases hc <;> rfl

theorem realmList_reply {r : Bool × Session} {reply : Bytes} {u : Unit}
    (h : (realmList lib s).Runs t r) (hmem : ⟨.sender reply,u⟩ ∈ t) :
    ∃ (account : UInt32 × Bytes) (counts : List (Realm × Option UInt8)),
      ⟨.selectAccountId s.safelogin,some account⟩ ∈ t ∧
      realmsAsked t = [(s.build.toNat,counts.map Prod.fst)] ∧
      numCharsAsked t = counts.map (fun c => (c.1.m_ID,account.1,c.2)) ∧
      reply = realmListReply lib s counts := by
  obtain ⟨found,t₁,rfl,h⟩ := h
  cases found with
  | none =>
    obtain ⟨-,-,-,ht⟩ := Session.close_runs h
    rcases List.mem_cons.mp hmem with heq | hmem
    · cases heq
    · cases ht _ hmem
  | some account =>
    have hlast : (do
      let _ ← ask .updateRealmsIfNeed
      let pkt ← loadRealmlist lib s account.1
      let s ← s.send ([AuthCmd.realmList.code] ++ leBytes 2 pkt.length ++ pkt)
      return (true,s) : AuthProg (Bool × Session)).Runs t₁ r := h
    obtain ⟨_,t₂,rfl,hnext⟩ := hlast
    obtain ⟨t₃,t₄,pkt,rfl,hload,hanswer⟩ :=
      (Prog.runs_bind (p := loadRealmlist lib s account.1)).mp hnext
    obtain ⟨-,-,ht₄⟩ := Session.answer_runs hanswer
    obtain ⟨counts,hrealms,hasked,rfl⟩ := loadRealmlist_body hload
    obtain ⟨hrealms₄,hasked₄⟩ := asked_sending ht₄
    refine ⟨account,counts,List.mem_cons_self,?_,?_,?_⟩
    · change realmsAsked (t₃ ++ t₄) = _
      rw [realmsAsked_append,hrealms,hrealms₄]
      rfl
    · change numCharsAsked (t₃ ++ t₄) = _
      rw [numCharsAsked_append,hasked,hasked₄,List.append_nil]
    · simp only [List.mem_cons,List.mem_append] at hmem
      rcases hmem with heq | heq | hmem | hmem
      · cases heq
      · cases heq
      · have hquiet : (loadRealmlist lib s account.1).Meets (fun c => ∀ bytes, c ≠ .sender bytes)
            fun _ => True := loadRealmlist_meets s account.1 (by simp) (by simp)
        exact absurd rfl ((hquiet.runs hload).1 _ hmem reply)
      · rcases ht₄ _ hmem with hc | hc <;> cases hc
        rfl

theorem decodeRealmlist_reads {vanilla : Bool} {chunks : List Bytes}
    {entries : List ShownRealm} {ending : Nat}
    (hchunks : List.Forall₂ (fun chunk shown => Decoder.Reads
      (if vanilla then decodeRealmVanilla else decodeRealm) chunk shown) chunks entries)
    (hcount : entries.length < 256^(if vanilla then 1 else 2)) (hending : ending < 256^2) :
    Decoder.Reads (decodeRealmlist vanilla)
      (leBytes 4 0 ++ leBytes (if vanilla then 1 else 2) entries.length ++ chunks.flatten ++
        leBytes 2 ending) entries := by
  have hreads : Decoder.Reads (decodeRealmlist vanilla)
      (leBytes 4 0 ++ (leBytes (if vanilla then 1 else 2) entries.length ++
        (chunks.flatten ++ leBytes 2 ending))) entries :=
    .bind (.le (by decide)) (.bind (.le hcount) (.bind (.times hchunks)
      (Decoder.Reads.map (.le hending) _)))
  simpa only [List.append_assoc] using hreads

theorem realmListBody_reads {counts : List (Realm × Option UInt8)}
    (hnames : ∀ c ∈ counts, 0 ∉ c.1.name)
    (haddress : ∀ ip port, 0 ∉ lib.getAddressString ip port)
    (hcount : counts.length < if isPreTbc s.build then 256 else 65536) :
    ∃ entries, Decoder.Reads (decodeRealmlist (isPreTbc s.build)) (realmListBody lib s counts)
        entries ∧
      List.Forall₂ (fun c shown => Shows lib s c.1 (c.2.getD 0) shown) counts entries := by
  -- one induction over the realms serves both layouts
  have hall : ∀ {d : Decoder ShownRealm} {entry : Realm → UInt8 → Bytes},
      (∀ c ∈ counts, ∃ shown, d.Reads (entry c.1 (c.2.getD 0)) shown ∧
        Shows lib s c.1 (c.2.getD 0) shown) →
      ∃ entries, List.Forall₂ (fun chunk shown => d.Reads chunk shown)
          (counts.map fun c => entry c.1 (c.2.getD 0)) entries ∧
        List.Forall₂ (fun c shown => Shows lib s c.1 (c.2.getD 0) shown) counts entries := by
    intro d entry hentry
    clear hnames hcount
    induction counts with
    | nil => exact ⟨[],.nil,.nil⟩
    | cons c counts ih =>
      obtain ⟨shown,hreads,hshows⟩ := hentry c List.mem_cons_self
      obtain ⟨entries,hchunks,hentries⟩ := ih fun c hmem => hentry c (List.mem_cons_of_mem _ hmem)
      exact ⟨shown :: entries,.cons hreads hchunks,.cons hshows hentries⟩
  cases hbuild : isPreTbc s.build with
  | true =>
    obtain ⟨entries,hchunks,hshows⟩ := hall fun c hmem =>
      realmEntryVanilla_reads hbuild (hnames c hmem) haddress (c.2.getD 0)
    refine ⟨entries,?_,hshows⟩
    rw [hbuild,hshows.length_eq] at hcount
    have hreads : Decoder.Reads (decodeRealmlist true) (_ ++ leBytes 2 2) entries :=
      decodeRealmlist_reads hchunks hcount (by decide)
    rw [realmListBody,hbuild,hshows.length_eq]
    exact hreads
  | false =>
    obtain ⟨entries,hchunks,hshows⟩ := hall fun c hmem =>
      realmEntry_reads hbuild (hnames c hmem) haddress (c.2.getD 0)
    refine ⟨entries,?_,hshows⟩
    rw [hbuild,hshows.length_eq] at hcount
    have hreads : Decoder.Reads (decodeRealmlist false) (_ ++ leBytes 2 16) entries :=
      decodeRealmlist_reads hchunks hcount (by decide)
    rw [realmListBody,hbuild,hshows.length_eq]
    exact hreads

theorem decodeRealmFrame_reads {vanilla : Bool} {body : Bytes} {entries : List ShownRealm}
    (hsize : body.length < 256^2)
    (hreads : Decoder.Reads (decodeRealmlist vanilla) body entries) :
    Decoder.Reads (decodeRealmFrame vanilla) (leBytes 2 body.length ++ body) entries :=
  .bind (.le hsize) hreads.block

end

/-- For every list of realms, account, level, address and build: the reply to a realm
list request, if it holds as many realms and bytes as its header can count, is read back
by the layout of the build to the last byte, as one entry for each realm of the list, in
its order, that shows the realm. -/
theorem realm_list_decodes (lib : SharedLibrary) (s : Session) (t : List AuthEvent)
    (r : Bool × Session) (realms : List Realm) (reply : Bytes)
    (hruns : (realmList lib s).Runs t r)
    (hrealms : ⟨.getRealmsForBuild s.build.toNat,realms⟩ ∈ t)
    (hreply : ⟨.sender reply,()⟩ ∈ t) (hnames : ∀ realm ∈ realms, 0 ∉ realm.name)
    (haddress : ∀ ip port, 0 ∉ lib.getAddressString ip port)
    (hcount : realms.length < if isPreTbc s.build then 256 else 65536)
    (hbody : reply.length ≤ 3+65535) :
    ∃ (account : UInt32 × Bytes) (counts : List (Realm × Option UInt8))
      (entries : List ShownRealm),
      ⟨.selectAccountId s.safelogin,some account⟩ ∈ t ∧ counts.map Prod.fst = realms ∧
      numCharsAsked t = counts.map (fun c => (c.1.m_ID,account.1,c.2)) ∧
      (decodeRealmReply (isPreTbc s.build)).whole reply = some entries ∧
      List.Forall₂ (fun c shown => Shows lib s c.1 (c.2.getD 0) shown) counts entries := by
  obtain ⟨account,counts,haccount,hasked,hchars,rfl⟩ := realmList_reply hruns hreply
  have hgiven : (s.build.toNat,realms) ∈ realmsAsked t :=
    List.mem_filterMap.mpr ⟨_,hrealms,rfl⟩
  rw [hasked,List.mem_singleton] at hgiven
  obtain rfl : realms = counts.map Prod.fst := (Prod.mk.inj hgiven).2
  have hnames' : ∀ c ∈ counts, 0 ∉ c.1.name := fun c hmem =>
    hnames c.1 (List.mem_map_of_mem hmem)
  rw [List.length_map] at hcount
  obtain ⟨entries,hreads,hshows⟩ := realmListBody_reads hnames' haddress hcount
  refine ⟨account,counts,entries,haccount,rfl,hchars,?_,hshows⟩
  have hsize : (realmListBody lib s counts).length < 256^2 := by
    simp only [realmListReply,List.length_append,List.length_singleton,leBytes_length] at hbody
    omega
  rw [realmListReply,List.append_assoc]
  refine Decoder.Reads.whole (.bind (.byte _) ?_)
  rw [if_pos rfl]
  exact decodeRealmFrame_reads hsize hreads

theorem referenceLibrary_address (ip : UInt32) (port : UInt16) :
    0 ∉ referenceLibrary.getAddressString ip port := by
  change 0 ∉ addressString ip port
  simp [addressString,zero_notMem_decimal]

def listedRealm : Realm :=
  ⟨ascii "Sample",⟨0x0A000005,8085,false⟩,⟨0xC0A80005,8085,false⟩,⟨0xFFFFFF00,0,false⟩,1,4,2,
    7,0,0x3F800000,[12340],⟨12340,3,3,5,97⟩⟩

def offlineRealm : Realm :=
  ⟨ascii "Other",⟨0x0A000006,8086,false⟩,⟨0xC0A80006,8086,false⟩,⟨0xFFFFFF00,0,false⟩,6,2,1,
    8,0,0x3F000000,[8606],⟨8606,2,4,3,32⟩⟩

def listingSession : Session :=
  { World.sample.sock.toSession with status := .authed, build := 12340 }

theorem realm_list_decodes_sample :
    let replies : Replies := { accountId := some (7,[]), realms := [listedRealm,offlineRealm] }
    let t := ((realmList referenceLibrary listingSession).exec replies.env ()).calls
    let reply := (sentBytes t).headD []
    ⟨.sender reply,()⟩ ∈ t ∧
      ∃ (counts : List (Realm × Option UInt8)) (entries : List ShownRealm),
      counts.map Prod.fst = [listedRealm,offlineRealm] ∧
      (decodeRealmReply false).whole reply = some entries ∧
      List.Forall₂ (fun c shown => Shows referenceLibrary listingSession c.1 (c.2.getD 0)
        shown) counts entries := by
  intro replies t reply
  have hreply : ⟨.sender reply,()⟩ ∈ t := by decide +kernel
  have hrealms :
      ⟨.getRealmsForBuild listingSession.build.toNat,[listedRealm,offlineRealm]⟩ ∈ t := by
    decide +kernel
  have hruns : (realmList referenceLibrary listingSession).Runs t _ :=
    Prog.exec_runs replies.env (realmList referenceLibrary listingSession) ()
  have hnames : ∀ realm ∈ [listedRealm,offlineRealm], 0 ∉ realm.name := by decide
  have hbody : reply.length ≤ 3+65535 := by decide +kernel
  obtain ⟨account,counts,entries,-,hfst,-,hdecoded,hshows⟩ :=
    realm_list_decodes referenceLibrary listingSession t _ [listedRealm,offlineRealm] reply hruns
      hrealms hreply hnames referenceLibrary_address (by decide) hbody
  exact ⟨hreply,counts,entries,hfst,hdecoded,hshows⟩

end Realmd
