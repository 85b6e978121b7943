import Realmd.AuthProtocolGuard
import Realmd.Srp6
set_option autoImplicit false

namespace Realmd
open ByteCodec

/-- A challenge of either kind as a client writes it: `os` and `country` are four
bytes each, in the order of the wire. -/
def encodeChallenge (cmd : AuthCmd) (build : UInt16) (os country login : Bytes) : Bytes :=
  [cmd.code,3] ++ leBytes 2 (30+login.length) ++ ascii "WoW" ++ [0,1,12,1] ++
    leBytes 2 build.toNat ++ ascii "68x" ++ [0] ++ os ++ country ++ leBytes 4 0 ++
    leBytes 4 0 ++ [UInt8.ofNat login.length] ++ login

def encodeLogonProof (A M1 : Bytes) : Bytes :=
  [AuthCmd.authLogonProof.code] ++ A ++ M1 ++ List.replicate 22 0

def encodeReconnectProof (R1 R2 : Bytes) : Bytes :=
  [AuthCmd.authReconnectProof.code] ++ R1 ++ R2 ++ List.replicate 21 0

def encodeRealmList : Bytes := AuthCmd.realmList.code :: leBytes 4 0

def replyB (reply : Bytes) : Bytes := slice reply 3 32
def replyG (reply : Bytes) : Bytes := slice reply 36 1
def replyN (reply : Bytes) : Bytes := slice reply 38 32
def replySalt (reply : Bytes) : Bytes := slice reply 70 32

section
variable (lib : SharedLibrary)

def clientX (reply digest : Bytes) : Nat := leNat (lib.sha1 (replySalt reply ++ digest)).bytes

def clientA (reply : Bytes) (a : Nat) : Bytes :=
  leBytes 32 (modExp (leNat (replyG reply)) a (leNat (replyN reply)))

def clientU (reply : Bytes) (a : Nat) : Nat :=
  leNat (lib.sha1 (clientA reply a ++ replyB reply)).bytes

/-- `B-3*g^x` modulo `N`, without leaving the natural numbers. -/
def clientBase (B g x N : Nat) : Nat := (B+(N-3*modExp g x N%N))%N

def clientS (reply digest : Bytes) (a : Nat) : Nat :=
  modExp (clientBase (leNat (replyB reply)) (leNat (replyG reply))
      (clientX lib reply digest) (leNat (replyN reply)))
    (a+clientU lib reply a*clientX lib reply digest) (leNat (replyN reply))

def clientK (reply digest : Bytes) (a : Nat) : Bytes :=
  interleavedKey lib (leBytes 32 (clientS lib reply digest a))

def clientM1 (login reply digest : Bytes) (a : Nat) : Bytes :=
  (lib.sha1 (xorBytes (lib.sha1 (replyN reply)).bytes (lib.sha1 (replyG reply)).bytes ++
    (lib.sha1 login).bytes ++ replySalt reply ++ clientA reply a ++ replyB reply ++
    clientK lib reply digest a)).bytes

def clientM2 (login reply digest : Bytes) (a : Nat) : Bytes :=
  (lib.sha1 (clientA reply a ++ clientM1 lib login reply digest a ++
    clientK lib reply digest a)).bytes

def clientProof (login reply digest : Bytes) (a : Nat) : Bytes :=
  encodeLogonProof (clientA reply a) (clientM1 lib login reply digest a)

def clientR2 (login R1 reply key : Bytes) : Bytes :=
  (lib.sha1 (login ++ R1 ++ slice reply 2 16 ++ key)).bytes

end

end Realmd
