import Realmd.Session
import Realmd.Srp6
set_option autoImplicit false

namespace Realmd
open ByteCodec Interaction

structure WrongPass where
  maxCount : Nat
  banTime : Nat
  banType : Bool
  deriving DecidableEq, Repr

variable (lib : SharedLibrary) (cfg : WrongPass)

def cString (bs : Bytes) : Bytes := bs.takeWhile (· ≠ 0)

/-- The challenge fields a handler reads through the packed struct, whose buffer
ends in one zero byte of its own. -/
structure ChallengeFields where
  login : Bytes
  build : UInt16
  os : Bytes
  clientLocale : Option Bytes
  deriving DecidableEq, Repr

def challengeFields (buf : Bytes) : ChallengeFields where
  login := slice buf 34 (byteAt buf 33).toNat
  build := UInt16.ofNat (u16 (byteAt buf 11) (byteAt buf 12))
  os := cString (buf.drop 17)
  clientLocale := parseClientLocaleClaim (slice buf 21 4)

def setVSFields (s : Session) (rI : Bytes) : AuthProg Session := do
  let salt ← ask (.setRand (saltByteSize*8))
  let v := modExp srpG (verifierX lib salt rI) srpN
  let _ ← ask (.pExecute (.updateVerifier (lib.asHexStr v) (lib.asHexStr salt) s.safelogin))
  return { s with s := salt, v := v }

/-- The optional blocks after the security flags, all absent for flags zero. -/
def securityBlocks (securityFlags : UInt8) : Bytes :=
  (if securityFlags &&& 0x01 ≠ 0 then leBytes 4 0 ++ leBytes 8 0 ++ leBytes 8 0 else []) ++
  (if securityFlags &&& 0x02 ≠ 0 then [0,0,0,0] ++ leBytes 8 0 else []) ++
  (if securityFlags &&& 0x04 ≠ 0 then [1] else [])

def challengeReply (B s unk3 : Nat) : Bytes :=
  [AuthCmd.authLogonChallenge.code,0x00,AuthResult.success.code] ++
    lib.asByteArray B srpEphemeralWidth ++ [UInt8.ofNat srpGeneratorWidth] ++
    lib.asByteArray srpG srpGeneratorWidth ++ [UInt8.ofNat srpEphemeralWidth] ++
    lib.asByteArray srpN srpEphemeralWidth ++ lib.asByteArray s saltByteSize ++
    lib.asByteArray unk3 srpReconnectWidth ++ [0] ++ securityBlocks 0

def challengeFailure (result : AuthResult) : Bytes :=
  [AuthCmd.authLogonChallenge.code,0x00,result.code]

def clampSecurity (level : UInt8) : UInt8 :=
  if level ≤ lib.secAdministrator then level else lib.secAdministrator

def challengeB (v b : Nat) : Nat := (v*3+modExp srpG b srpN)%srpN

def takeVerifier (s : Session) (row : AccountRow) : AuthProg Session :=
  if row.v.length ≠ saltByteSize*2 ∨ row.s.length ≠ saltByteSize*2 then
    setVSFields lib s row.sha_pass_hash
  else .ret { s with s := lib.setHexStr s.s row.s, v := lib.setHexStr s.v row.v }

def Session.expectProof (s : Session) (b : Nat) (row : AccountRow)
    (clientLocale : Option Bytes) : Session :=
  { s with
    b := b
    B := challengeB s.v b
    accountSecurityLevel := clampSecurity lib row.gmlevel
    localizationName := clientLocale.getD []
    status := .logonProof }

def challengeAccount (s : Session) (row : AccountRow) (clientLocale : Option Bytes) :
    AuthProg Session := do
  let s ← takeVerifier lib s row
  let b ← ask (.setRand (19*8))
  let unk3 ← ask (.setRand (16*8))
  let s := s.expectProof lib b row clientLocale
  s.send (challengeReply lib s.B s.s unk3)

def refuse (s : Session) (result : AuthResult) : AuthProg (Bool × Session) := do
  return (true,← s.send (challengeFailure result))

def challengeGates (s : Session) (clientLocale : Option Bytes) :
    AuthProg (Bool × Session) := do
  match ← ask (.selectIpBanned (lib.escapeString s.remote_address)) with
  | some _ => refuse s .failBanned
  | none =>
    match ← ask (.selectAccount s.safelogin) with
    | none => refuse s .failUnknownAccount
    | some row =>
      if row.locked = 1 ∧ row.last_ip ≠ s.remote_address then
        refuse s (lockedAccountResultForBuild s.build.toNat)
      else
        match ← ask (.selectAccountBanned row.id) with
        | some (bandate,unbandate) =>
            refuse s (if bandate = unbandate then .failBanned else .failSuspended)
        | none => return (true,← challengeAccount lib s row clientLocale)

def Session.claim (s : Session) (f : ChallengeFields) : Session :=
  { s with
    login := f.login
    safelogin := lib.escapeString f.login
    build := f.build
    os := f.os.reverse }

/-- The part of `_HandleLogonChallenge` after its frame was read into `buf`. -/
def logonChallenge (s : Session) (buf : Bytes) : AuthProg (Bool × Session) :=
  let f := challengeFields buf
  if f.os.length > 4 then .ret (false,{ s with login := f.login, build := f.build, os := f.os })
  else challengeGates lib (s.claim lib f) f.clientLocale

def isPreTbc (build : UInt16) : Bool := build == 5875 || build == 6005 || build == 6141

def proofReply (build : UInt16) (M2 : Bytes) : Bytes :=
  if isPreTbc build then [AuthCmd.authLogonProof.code,0] ++ M2 ++ leBytes 4 0
  else [AuthCmd.authLogonProof.code,0] ++ M2 ++ leBytes 4 0x00800000 ++ leBytes 4 0 ++
    leBytes 2 0

def sendInvalidVersion (s : Session) : AuthProg Session :=
  s.send [AuthCmd.authLogonChallenge.code,0x00,AuthResult.failVersionInvalid.code]

def patchFile (s : Session) : Bytes :=
  ascii "./patches/" ++ decimal s.build.toNat ++ s.localizationName ++ ascii ".mpq"

def xferInit (artifact : PatchArtifact) : Bytes :=
  [AuthCmd.xferInitiate.code,5] ++ ascii "Patch" ++ leBytes 8 artifact.size.toNat ++
    artifact.digest

def offerPatch (s : Session) : AuthProg (Bool × Session) := do
  match ← ask (.openArtifact (patchFile s)) with
  | none => return (true,← sendInvalidVersion s)
  | some artifact =>
      let s := { s with m_patchArtifact := some artifact }
      let s ← s.send [AuthCmd.authLogonProof.code,AuthResult.failVersionUpdate.code]
      let s ← s.send (xferInit artifact)
      return (true,← { s with status := .patch }.deactivate)

def publishLogon (s : Session) (A M : Nat) : AuthProg (Bool × Session) := do
  let s := { s with os := lib.escapeString s.os }
  let stored ← ask (.directPExecute (.publishSession (lib.asHexStr s.K) s.remote_address
    (lib.getLocaleByName s.localizationName) (lib.escapeString s.localizationName)
    s.os s.safelogin))
  if stored then
    let s ← s.send (proofReply s.build (proofM2 lib A M s.K))
    let s ← { s with status := .authed }.deactivate
    let _ ← ask .countAuthed
    return (true,s)
  else return (false,← s.close)

def acceptLogon (s : Session) (A M : Nat) : AuthProg (Bool × Session) := do
  let supported := (findBuildInfo s.build).isSome
  if s.patchPolicy.shouldPatch s.build supported then offerPatch s
  else if !supported then return (true,← sendInvalidVersion s)
  else publishLogon lib s A M

def wrongPasswordReply (build : UInt16) : Bytes :=
  if build > 6005 then
    [AuthCmd.authLogonProof.code,AuthResult.failUnknownAccount.code,3,0]
  else [AuthCmd.authLogonProof.code,AuthResult.failUnknownAccount.code]

def wrongPasswordBan (s : Session) (id : UInt32) : Statement :=
  if cfg.banType then .banAccount id cfg.banTime
  else .banIp (lib.escapeString s.remote_address) cfg.banTime

def judgeFailures (s : Session) : Option (UInt32 × UInt32) → AuthProg (Bool × Session)
  | none => .ret (true,s)
  | some (id,failed_logins) =>
      if failed_logins.toNat ≥ cfg.maxCount then
        .ask (.pExecute (wrongPasswordBan lib cfg s id)) fun _ => .ret (true,s)
      else .ret (true,s)

def rejectLogon (s : Session) : AuthProg (Bool × Session) := do
  let s ← s.send (wrongPasswordReply s.build)
  if cfg.maxCount > 0 then
    let _ ← ask (.pExecute (.countFailedLogin s.safelogin))
    judgeFailures lib cfg s (← ask (.selectFailedLogins s.safelogin))
  else return (true,s)

def Session.closeStatus (s : Session) : Session := { s with status := .closed }

def Session.deriveKey (s : Session) (A : Nat) : Session :=
  { s with K := sessionKey lib A s.v s.b s.B }

def Session.expectedM (s : Session) (A : Nat) : Nat :=
  proofM lib s.login s.s A s.B s.K

/-- The part of `_HandleLogonProof` after its frame was read. -/
def logonProof (s : Session) (lp : Bytes) : AuthProg (Bool × Session) :=
  let s := s.closeStatus
  let A := leNat (slice lp 1 32)
  if A%srpN = 0 then .ret (false,s)
  else
    let s := s.deriveKey lib A
    let M := s.expectedM lib A
    if lib.asByteArray M shaDigestLength = slice lp 33 20 then acceptLogon lib s A M
    else rejectLogon lib cfg s

def reconnectChallengeReply (reconnectProof : Nat) : Bytes :=
  [AuthCmd.authReconnectChallenge.code,0x00] ++
    lib.asByteArray reconnectProof srpReconnectWidth ++ leBytes 8 0 ++ leBytes 8 0

def challengeStoredKey (s : Session) (sessionkey : Bytes) : AuthProg Session := do
  let s := { s with K := lib.setHexStr s.K sessionkey, status := .reconProof }
  let drawn ← ask (.setRand (16*8))
  { s with reconnectProof := drawn }.send (reconnectChallengeReply lib drawn)

/-- The part of `_HandleReconnectChallenge` after its frame was read into `buf`. -/
def reconnectChallenge (s : Session) (buf : Bytes) : AuthProg (Bool × Session) := do
  let f := challengeFields buf
  let s := { s with localizationName := f.clientLocale.getD [] }
  if f.os.length > 4 then
    return (false,{ s.claim lib f with os := f.os })
  else
    let s := s.claim lib f
    match ← ask (.selectSessionKey s.safelogin) with
    | none => return (false,← s.close)
    | some sessionkey => return (true,← challengeStoredKey lib s sessionkey)

def reconnectReply (build : UInt16) : Bytes :=
  [AuthCmd.authReconnectProof.code,0x00] ++ if build > 6141 then leBytes 2 0 else []

def acceptReconnect (s : Session) : AuthProg (Bool × Session) := do
  let stored ← ask (.directPExecute (.publishIdentity
    (lib.escapeString s.localizationName) (lib.escapeString s.os) s.safelogin))
  if stored then
    let s ← s.send (reconnectReply s.build)
    let s ← { s with status := .authed }.deactivate
    let _ ← ask .countAuthed
    return (true,s)
  else return (false,← s.close)

/-- The part of `_HandleReconnectProof` after its frame was read. -/
def reconnectProof (s : Session) (lp : Bytes) : AuthProg (Bool × Session) := do
  let s := s.closeStatus
  if s.login = [] ∨ numBytes s.reconnectProof = 0 ∨ numBytes s.K = 0 then return (false,s)
  else if reconnectDigest lib s.login (slice lp 1 16) s.reconnectProof s.K =
      slice lp 17 20 then acceptReconnect lib s
  else return (false,← s.close)

/-- Only one transfer per session: the status closes before the thread starts. -/
def beginPatchStream (s : Session) (startOffset : UInt64) : AuthProg (Bool × Session) := do
  match s.m_patchArtifact with
  | none => return (false,← s.close)
  | some artifact =>
      let s := { s with status := .closed, m_patchArtifact := none }
      if ← startPatchTransfer artifact startOffset then return (true,s)
      else return (false,← s.close)
where
  /-- `StartPatchTransfer` with `PatchArtifact::Seek`. -/
  startPatchTransfer (artifact : PatchArtifact) (startOffset : UInt64) : AuthProg Bool := do
    if startOffset > artifact.size then return false
    else if startOffset.toNat > 2^63-1 then return false
    else if ← ask (.seekStream artifact.stream startOffset) then
      let _ ← ask (.spawnTransfer artifact startOffset)
      return true
    else return false

end Realmd
