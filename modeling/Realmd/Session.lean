import Realmd.AuthProtocolGuard
import Realmd.ClientPolicy
import Realmd.Interaction
import Realmd.SharedLibrary
set_option autoImplicit false

namespace Realmd
open ByteCodec Interaction

inductive EStatus where
  | challenge | logonProof | reconProof | patch | authed | closed
  deriving DecidableEq, Repr

structure PatchArtifact where
  stream : Nat
  size : UInt64
  digest : Bytes
  deriving DecidableEq, Repr

structure RealmAddress where
  ip : UInt32
  port : UInt16
  loopback : Bool
  deriving DecidableEq, Repr

def realmFlagOffline : UInt8 := 0x02
def realmFlagSpecifyBuild : UInt8 := 0x04

/-- The population level is kept as the bits of the float it is sent as, and the
allowed builds as the ascending list an ordered set iterates over. -/
structure Realm where
  name : Bytes
  externalAddress : RealmAddress
  localAddress : RealmAddress
  localSubnetMask : RealmAddress
  icon : UInt8
  realmflags : UInt8
  timezone : UInt8
  m_ID : UInt32
  allowedSecurityLevel : UInt8
  populationLevel : UInt32
  realmbuilds : List Nat
  realmBuildInfo : RealmBuildInfo
  deriving DecidableEq, Repr

structure AccountRow where
  sha_pass_hash : Bytes
  id : UInt32
  locked : UInt8
  last_ip : Bytes
  gmlevel : UInt8
  v : Bytes
  s : Bytes
  deriving DecidableEq, Repr

inductive Statement where
  | updateVerifier (v s username : Bytes)
  | publishSession (sessionkey last_ip : Bytes) (locale : Nat)
      (client_locale os username : Bytes)
  | publishIdentity (client_locale os username : Bytes)
  | countFailedLogin (username : Bytes)
  | banAccount (id : UInt32) (banTime : Nat)
  | banIp (ip : Bytes) (banTime : Nat)
  deriving DecidableEq, Repr

inductive ThreadAct where
  | expireAuthentication (now : Nat)
  | onClose
  deriving DecidableEq, Repr

/-- What a session asks of its surroundings. Before a handler looks at a member
it shares with other threads, `otherThreads` says what these have done to it. -/
inductive Call where
  | selectIpBanned (ip : Bytes)
  | selectAccount (username : Bytes)
  | selectAccountBanned (id : UInt32)
  | selectSessionKey (username : Bytes)
  | selectFailedLogins (username : Bytes)
  | selectAccountId (username : Bytes)
  | selectNumChars (realmid acctid : UInt32)
  | pExecute (statement : Statement)
  | directPExecute (statement : Statement)
  | setRand (bits : Nat)
  | openArtifact (path : Bytes)
  | seekStream (stream : Nat) (offset : UInt64)
  | spawnTransfer (artifact : PatchArtifact) (offset : UInt64)
  | updateRealmsIfNeed
  | getRealmsForBuild (build : Nat)
  | sender (bytes : Bytes)
  | countAuthed
  | otherThreads
  deriving DecidableEq, Repr

abbrev Reply : Call → Type
  | .selectIpBanned _ => Option UInt64
  | .selectAccount _ => Option AccountRow
  | .selectAccountBanned _ => Option (UInt64 × UInt64)
  | .selectSessionKey _ => Option Bytes
  | .selectFailedLogins _ => Option (UInt32 × UInt32)
  | .selectAccountId _ => Option (UInt32 × Bytes)
  | .selectNumChars _ _ => Option UInt8
  | .pExecute _ => Bool
  | .directPExecute _ => Bool
  | .setRand _ => Nat
  | .openArtifact _ => Option PatchArtifact
  | .seekStream _ _ => Bool
  | .spawnTransfer _ _ => Unit
  | .updateRealmsIfNeed => Unit
  | .getRealmsForBuild _ => List Realm
  | .sender _ => Unit
  | .countAuthed => Unit
  | .otherThreads => List ThreadAct

instance : (c : Call) → DecidableEq (Reply c)
  | .selectIpBanned _ => inferInstanceAs (DecidableEq (Option UInt64))
  | .selectAccount _ => inferInstanceAs (DecidableEq (Option AccountRow))
  | .selectAccountBanned _ => inferInstanceAs (DecidableEq (Option (UInt64 × UInt64)))
  | .selectSessionKey _ => inferInstanceAs (DecidableEq (Option (List UInt8)))
  | .selectFailedLogins _ => inferInstanceAs (DecidableEq (Option (UInt32 × UInt32)))
  | .selectAccountId _ => inferInstanceAs (DecidableEq (Option (UInt32 × List UInt8)))
  | .selectNumChars _ _ => inferInstanceAs (DecidableEq (Option UInt8))
  | .pExecute _ | .directPExecute _ | .seekStream _ _ => inferInstanceAs (DecidableEq Bool)
  | .setRand _ => inferInstanceAs (DecidableEq Nat)
  | .openArtifact _ => inferInstanceAs (DecidableEq (Option PatchArtifact))
  | .getRealmsForBuild _ => inferInstanceAs (DecidableEq (List Realm))
  | .otherThreads => inferInstanceAs (DecidableEq (List ThreadAct))
  | .spawnTransfer _ _ | .updateRealmsIfNeed | .sender _ | .countAuthed =>
      inferInstanceAs (DecidableEq Unit)

instance : (c : Call) → Inhabited (Reply c)
  | .selectIpBanned _ | .selectAccount _ | .selectAccountBanned _ | .selectSessionKey _
  | .selectFailedLogins _ | .selectAccountId _ | .selectNumChars _ _ | .openArtifact _ => ⟨none⟩
  | .pExecute _ | .directPExecute _ | .seekStream _ _ => ⟨false⟩
  | .setRand _ => ⟨(0 : Nat)⟩
  | .spawnTransfer _ _ | .updateRealmsIfNeed | .sender _ | .countAuthed => ⟨()⟩
  | .getRealmsForBuild _ | .otherThreads => ⟨[]⟩

abbrev AuthProg (α : Type) := Prog Call Reply α
abbrev ask (c : Call) : AuthProg (Reply c) := call c
abbrev AuthEvent := Event Call Reply
abbrev AuthEnv (ω : Type) := Env Call Reply ω

/-- The fields of a session other than its input buffer. `m_sender` and
`m_closer` say whether the transport has supplied the channel, and
`closeRequested` whether `m_closer` was called. -/
structure Session where
  m_sender : Bool
  m_closer : Bool
  m_closed : Bool
  closeRequested : Bool
  remote_address : Bytes
  s : Nat
  v : Nat
  b : Nat
  B : Nat
  K : Nat
  reconnectProof : Nat
  status : EStatus
  m_authDeadline : Deadline
  login : Bytes
  safelogin : Bytes
  localizationName : Bytes
  os : Bytes
  patchPolicy : PatchPolicy
  m_patchArtifact : Option PatchArtifact
  build : UInt16
  accountSecurityLevel : UInt8
  deriving DecidableEq, Repr

structure ReadOp where
  start : Nat
  len : Nat
  ok : Bool
  deriving DecidableEq, Repr

/-- The pending input with its cursor, and a record of how the cursor was used. -/
structure ReadBuffer where
  m_readBuf : Bytes
  m_readPos : Nat
  reads : List ReadOp
  deriving DecidableEq, Repr

structure AuthSocket extends ReadBuffer, Session
  deriving DecidableEq, Repr

def AuthSocket.fresh (lib : SharedLibrary) (start authTimeout : Nat)
    (patchPolicy : PatchPolicy) (remote_address : Bytes) : AuthSocket where
  m_readBuf := []
  m_readPos := 0
  reads := []
  m_sender := true
  m_closer := true
  m_closed := false
  closeRequested := false
  remote_address := remote_address
  s := 0
  v := 0
  b := 0
  B := 0
  K := 0
  reconnectProof := 0
  status := .challenge
  m_authDeadline := .arm start authTimeout
  login := []
  safelogin := []
  localizationName := []
  os := []
  patchPolicy := patchPolicy
  m_patchArtifact := none
  build := 0
  accountSecurityLevel := lib.secPlayer

/-- An unsigned 64-bit difference: a cursor past the end would wrap around. -/
def ReadBuffer.recvLen (r : ReadBuffer) : Nat :=
  if r.m_readPos ≤ r.m_readBuf.length then r.m_readBuf.length-r.m_readPos
  else 2^64-(r.m_readPos-r.m_readBuf.length)

def ReadBuffer.unread (r : ReadBuffer) : Bytes := r.m_readBuf.drop r.m_readPos

def ReadBuffer.note (r : ReadBuffer) (len : Nat) (ok : Bool) : ReadBuffer :=
  { r with reads := r.reads ++ [⟨r.m_readPos,len,ok⟩] }

def ReadBuffer.require (r : ReadBuffer) (len : Nat) : Bool × ReadBuffer :=
  (decide (len ≤ r.recvLen),r.note len (decide (len ≤ r.recvLen)))

def ReadBuffer.recvSkip (r : ReadBuffer) (len : Nat) : ReadBuffer :=
  { r.note len (decide (len ≤ r.recvLen)) with m_readPos := r.m_readPos+len }

def ReadBuffer.recv (r : ReadBuffer) (len : Nat) : Option Bytes × ReadBuffer :=
  if r.recvLen < len then (none,r.note len false)
  else (some (r.unread.take len),r.recvSkip len)

def EStatus.streamState : EStatus → StreamState
  | .challenge => .challenge
  | .logonProof => .logonProof
  | .reconProof => .reconnectProof
  | .patch => .patch
  | .authed => .authenticated
  | .closed => .closed

def Session.deactivateAuthDeadline (s : Session) : Session :=
  { s with m_authDeadline := s.m_authDeadline.deactivate }

def Session.closeConnection (s : Session) : Session :=
  { s.deactivateAuthDeadline with
    m_closed := true
    closeRequested := s.closeRequested || (!s.m_closed && s.m_closer) }

def Session.onClose (s : Session) : Session :=
  { s.deactivateAuthDeadline with m_closed := true }

def Session.expireAuthentication (s : Session) (now : Nat) : Session :=
  if s.m_authDeadline.expired now then s.closeConnection else s

def Session.suffer (s : Session) : ThreadAct → Session
  | .expireAuthentication now => s.expireAuthentication now
  | .onClose => s.onClose

def Session.sync (s : Session) : AuthProg Session :=
  .ask .otherThreads fun acts => .ret (acts.foldl Session.suffer s)

/-- Every caller ignores whether the bytes went out. -/
def Session.send (s : Session) (bytes : Bytes) : AuthProg Session :=
  if bytes = [] then .ret s
  else do
    let s ← s.sync
    if s.m_closed || !s.m_sender then return s
    else
      let _ ← ask (.sender bytes)
      return s

def sentBytes (calls : List AuthEvent) : List Bytes :=
  calls.filterMap fun ev =>
    match ev.call with
    | .sender bytes => some bytes
    | _ => none

def Session.deactivate (s : Session) : AuthProg Session := do
  let s ← s.sync
  return s.deactivateAuthDeadline

def Session.close (s : Session) : AuthProg Session := do
  let s ← s.sync
  return s.closeConnection

/-- Surroundings that always answer the same, for evaluating the model. -/
structure Replies where
  ipBanned : Option UInt64 := none
  account : Option AccountRow := none
  accountBanned : Option (UInt64 × UInt64) := none
  sessionkey : Option Bytes := none
  failedLogins : Option (UInt32 × UInt32) := none
  accountId : Option (UInt32 × Bytes) := none
  numchars : UInt32 → Option UInt8 := fun _ => none
  executes : Bool := true
  draws : Nat → Nat := fun _ => 0
  artifact : Option PatchArtifact := none
  realms : List Realm := []

def Replies.env (r : Replies) : AuthEnv Unit := fun c _ =>
  (match c with
    | .selectIpBanned _ => r.ipBanned
    | .selectAccount _ => r.account
    | .selectAccountBanned _ => r.accountBanned
    | .selectSessionKey _ => r.sessionkey
    | .selectFailedLogins _ => r.failedLogins
    | .selectAccountId _ => r.accountId
    | .selectNumChars realmid _ => r.numchars realmid
    | .pExecute _ => r.executes
    | .directPExecute _ => r.executes
    | .setRand bits => r.draws bits
    | .openArtifact _ => r.artifact
    | .seekStream _ _ => true
    | .spawnTransfer _ _ => ()
    | .updateRealmsIfNeed => ()
    | .getRealmsForBuild _ => r.realms
    | .sender _ => ()
    | .countAuthed => ()
    | .otherThreads => [],())

end Realmd
