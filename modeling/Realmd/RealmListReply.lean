import Realmd.Session
set_option autoImplicit false

namespace Realmd
open ByteCodec Interaction

variable (lib : SharedLibrary)

def getAddressForClient (realm : Realm) (clientIp : UInt32) : RealmAddress :=
  if clientIp >>> 24 = 127 then
    if realm.localAddress.loopback || realm.externalAddress.loopback then
      { realm.externalAddress with ip := clientIp }
    else realm.localAddress
  else if lib.isIPAddrInNetwork realm.localAddress.ip clientIp realm.localSubnetMask.ip then
    realm.localAddress
  else realm.externalAddress

def parseClientIPv4 (addr : Bytes) : UInt32 := (lib.inetPton addr).getD 0

def packString (text : Bytes) : Bytes := text ++ [0]

def okBuild (realm : Realm) (build : UInt16) : Bool :=
  realm.realmbuilds.contains build.toNat

/-- The build record shown for a realm. It is never null, so the branch that
clears the build flag for a null record is never taken. -/
def shownBuildInfo (realm : Realm) (build : UInt16) : RealmBuildInfo :=
  (if okBuild realm build then findBuildInfo build else none).getD realm.realmBuildInfo

/-- ` (a,b,c)`, cut to the 19 characters that fit the buffer. -/
def versionSuffix (info : RealmBuildInfo) : Bytes :=
  (ascii " (" ++ decimal info.major_version ++ ascii "," ++ decimal info.minor_version ++
    ascii "," ++ decimal info.bugfix_version ++ ascii ")").take 19

def realmAddressText (realm : Realm) (clientIp : UInt32) : Bytes :=
  lib.getAddressString (getAddressForClient lib realm clientIp).ip realm.externalAddress.port

def realmEntryVanilla (build : UInt16) (level : UInt8) (clientIp : UInt32)
    (realm : Realm) (amountOfCharacters : UInt8) : Bytes :=
  let name := if realm.realmflags &&& realmFlagSpecifyBuild ≠ 0 then
      realm.name ++ versionSuffix (shownBuildInfo realm build) else realm.name
  let flags := if !okBuild realm build || realm.allowedSecurityLevel > level then
      realm.realmflags ||| realmFlagOffline else realm.realmflags
  leBytes 4 realm.icon.toNat ++ [flags] ++ packString name ++
    packString (realmAddressText lib realm clientIp) ++
    leBytes 4 realm.populationLevel.toNat ++
    [amountOfCharacters,realm.timezone,0x00]

def realmEntry (build : UInt16) (level : UInt8) (clientIp : UInt32)
    (realm : Realm) (amountOfCharacters : UInt8) : Bytes :=
  let info := shownBuildInfo realm build
  let lock : UInt8 := if realm.allowedSecurityLevel > level then 1 else 0
  let flags := if !okBuild realm build then realm.realmflags ||| realmFlagOffline
    else realm.realmflags
  [realm.icon,lock,flags] ++ packString realm.name ++
    packString (realmAddressText lib realm clientIp) ++
    leBytes 4 realm.populationLevel.toNat ++
    [amountOfCharacters,realm.timezone,0x2C] ++
    if flags &&& realmFlagSpecifyBuild ≠ 0 then
      [UInt8.ofNat info.major_version,UInt8.ofNat info.minor_version,
        UInt8.ofNat info.bugfix_version] ++ leBytes 2 build.toNat
    else []

def realmEntries (entry : Realm → UInt8 → Bytes) (acctid : UInt32) :
    List Realm → AuthProg Bytes
  | [] => .ret []
  | realm :: rest => do
      let numchars ← ask (.selectNumChars realm.m_ID acctid)
      let tail ← realmEntries entry acctid rest
      return entry realm (numchars.getD 0) ++ tail

def loadRealmlist (s : Session) (acctid : UInt32) : AuthProg Bytes := do
  let realms ← ask (.getRealmsForBuild s.build.toNat)
  let clientIp := parseClientIPv4 lib s.remote_address
  if s.build = 5875 ∨ s.build = 6005 ∨ s.build = 6141 then
    let entries ← realmEntries
      (realmEntryVanilla lib s.build s.accountSecurityLevel clientIp) acctid realms
    return leBytes 4 0 ++ [UInt8.ofNat realms.length] ++ entries ++ leBytes 2 0x0002
  else
    let entries ← realmEntries
      (realmEntry lib s.build s.accountSecurityLevel clientIp) acctid realms
    return leBytes 4 0 ++ leBytes 2 realms.length ++ entries ++ leBytes 2 0x0010

def realmList (s : Session) : AuthProg (Bool × Session) := do
  match ← ask (.selectAccountId s.safelogin) with
  | none => return (false,← s.close)
  | some (id,_) =>
      let _ ← ask .updateRealmsIfNeed
      let pkt ← loadRealmlist lib s id
      let s ← s.send ([AuthCmd.realmList.code] ++ leBytes 2 pkt.length ++ pkt)
      return (true,s)

end Realmd
