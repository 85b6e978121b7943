import Realmd.Handlers
import Realmd.RealmListReply
set_option autoImplicit false

namespace Realmd
open ByteCodec Interaction

variable (lib : SharedLibrary) (cfg : WrongPass)

def AuthSocket.inSession (sock : AuthSocket) (body : Session → AuthProg (Bool × Session)) :
    AuthProg (Bool × AuthSocket) := do
  let (result,session) ← body sock.toSession
  return (result,{ sock with toSession := session })

def sizeofChallenge : Nat := 35

/-- Read a challenge of either kind into the buffer the struct is laid over. The
status closes between the header and the body. -/
def AuthSocket.readChallenge (sock : AuthSocket) : Option Bytes × AuthSocket :=
  let (enough,r) := sock.toReadBuffer.require sizeofChallenge
  if enough then
    let (header,r) := r.recv 4
    let buf := header.getD (List.replicate 4 0)
    let remaining := u16 (byteAt buf 2) (byteAt buf 3)
    let (present,r) := r.require remaining
    if remaining < sizeofChallenge-4 || !present then
      (none,{ sock with toReadBuffer := r })
    else
      let (body,r) := r.recv remaining
      (some (buf ++ body.getD (List.replicate remaining 0) ++ [0]),
        { sock with toReadBuffer := r, status := .closed })
  else (none,{ sock with toReadBuffer := r })

def handleLogonChallenge (sock : AuthSocket) : AuthProg (Bool × AuthSocket) :=
  match sock.readChallenge with
  | (none,sock) => .ret (false,sock)
  | (some buf,sock) => sock.inSession (logonChallenge lib · buf)

def handleReconnectChallenge (sock : AuthSocket) : AuthProg (Bool × AuthSocket) :=
  match sock.readChallenge with
  | (none,sock) => .ret (false,sock)
  | (some buf,sock) => sock.inSession (reconnectChallenge lib · buf)

def AuthSocket.withStruct (sock : AuthSocket) (size : Nat)
    (body : Session → Bytes → AuthProg (Bool × Session)) : AuthProg (Bool × AuthSocket) :=
  match sock.toReadBuffer.recv size with
  | (none,r) => .ret (false,{ sock with toReadBuffer := r })
  | (some lp,r) => { sock with toReadBuffer := r }.inSession (body · lp)

def handleLogonProof (sock : AuthSocket) : AuthProg (Bool × AuthSocket) :=
  sock.withStruct authLogonProofSize (logonProof lib cfg)

def handleReconnectProof (sock : AuthSocket) : AuthProg (Bool × AuthSocket) :=
  sock.withStruct authReconnectProofSize (reconnectProof lib)

def handleRealmList (sock : AuthSocket) : AuthProg (Bool × AuthSocket) :=
  let (enough,r) := sock.toReadBuffer.require authRealmListSize
  if enough then
    { sock with toReadBuffer := r.recvSkip authRealmListSize }.inSession (realmList lib)
  else .ret (false,{ sock with toReadBuffer := r })

def handleXferAccept (sock : AuthSocket) : AuthProg (Bool × AuthSocket) :=
  { sock with toReadBuffer := sock.toReadBuffer.recvSkip authXferAcceptSize }.inSession
    (beginPatchStream · 0)

/-- An unread operand would leave the offset at whatever the stack held. -/
def handleXferResume (sock : AuthSocket) : AuthProg (Bool × AuthSocket) :=
  let (enough,r) := sock.toReadBuffer.require authXferResumeSize
  if enough then
    let r := r.recvSkip (authXferResumeSize-8)
    let (operand,r) := r.recv 8
    { sock with toReadBuffer := r }.inSession
      (beginPatchStream · (UInt64.ofNat (leNat (operand.getD []))))
  else .ret (false,{ sock with toReadBuffer := r })

def xferCancel (s : Session) : AuthProg (Bool × Session) := do
  return (true,← s.close)

def handleXferCancel (sock : AuthSocket) : AuthProg (Bool × AuthSocket) :=
  { sock with toReadBuffer := sock.toReadBuffer.recvSkip authXferCancelSize }.inSession
    xferCancel

structure AuthHandler where
  cmd : AuthCmd
  status : EStatus
  handler : AuthSocket → AuthProg (Bool × AuthSocket)

def handlerTable : List AuthHandler :=
  [⟨.authLogonChallenge,.challenge,handleLogonChallenge lib⟩,
    ⟨.authLogonProof,.logonProof,handleLogonProof lib cfg⟩,
    ⟨.authReconnectChallenge,.challenge,handleReconnectChallenge lib⟩,
    ⟨.authReconnectProof,.reconProof,handleReconnectProof lib⟩,
    ⟨.realmList,.authed,handleRealmList lib⟩,
    ⟨.xferAccept,.patch,handleXferAccept⟩,
    ⟨.xferResume,.patch,handleXferResume⟩,
    ⟨.xferCancel,.patch,handleXferCancel⟩]

structure World (ω : Type) where
  sock : AuthSocket
  env : ω

/-- One handler call: what it was given, what it did and what it left. -/
structure HandlerRun (ω : Type) where
  cmd : AuthCmd
  frame : Bytes
  before : World ω
  calls : List AuthEvent
  result : Bool
  after : World ω

inductive Pass (ω : Type) where
  | incomplete
  | rejected (reason : RejectReason)
  | unauthorized (cmd : UInt8)
  | unmatched (cmd : UInt8)
  | failed (run : HandlerRun ω)
  | unexpectedLength (run : HandlerRun ω)
  | handled (run : HandlerRun ω)

def Pass.run? {ω : Type} : Pass ω → Option (HandlerRun ω)
  | .failed run | .unexpectedLength run | .handled run => some run
  | _ => none

/-- What other threads may do to a session, or to its surroundings, between two
of its own steps. -/
inductive Act (ω : Type) where
  | thread (act : ThreadAct)
  | elsewhere (change : ω → ω)

def Act.apply {ω : Type} (w : World ω) : Act ω → World ω
  | .thread act => { w with sock.toSession := w.sock.toSession.suffer act }
  | .elsewhere change => { w with env := change w.env }

def AuthSocket.drop (sock : AuthSocket) : AuthSocket :=
  { sock with
    toSession := sock.toSession.closeConnection
    m_readBuf := []
    m_readPos := 0 }

section Loop
variable {ω : Type} (e : AuthEnv ω)

def callHandler (row : AuthHandler) (size : Nat) (w : World ω) : HandlerRun ω :=
  let out := (row.handler w.sock).exec e w.env
  ⟨row.cmd,w.sock.toReadBuffer.unread.take size,w,out.calls,out.value.1,
    ⟨out.value.2,out.env⟩⟩

def dispatchPass (w : World ω) : Pass ω × World ω :=
  let decision := inspectFrame w.sock.status.streamState w.sock.toReadBuffer.unread
  match decision.status with
  | .incomplete => (.incomplete,w)
  | .reject => (.rejected decision.reason,{ w with sock := w.sock.drop })
  | .complete =>
      let cmd := byteAt w.sock.toReadBuffer.unread 0
      match (handlerTable lib cfg).find? (·.cmd.code == cmd) with
      | none => (.unmatched cmd,{ w with sock := w.sock.drop })
      | some row =>
          if row.status ≠ w.sock.status then
            (.unauthorized cmd,{ w with sock := w.sock.drop })
          else
            let run := callHandler e row decision.frameSize w
            if !run.result then (.failed run,{ run.after with sock := run.after.sock.drop })
            else if run.after.sock.m_readPos-w.sock.m_readPos ≠ decision.frameSize then
              (.unexpectedLength run,{ run.after with sock := run.after.sock.drop })
            else (.handled run,run.after)

def Pass.continues : Pass ω → Bool
  | .handled _ => true
  | _ => false

structure LoopResult (ω : Type) where
  passes : List (Pass ω)
  world : World ω
  finished : Bool

/-- The dispatch loop. Before each test of `m_closed` the other threads act. -/
def dispatchLoop : Nat → List (List (Act ω)) → World ω → LoopResult ω
  | 0, _, w => ⟨[],w,false⟩
  | fuel+1, acts, w =>
      let w := (acts.headD []).foldl Act.apply w
      if w.sock.m_closed then ⟨[],w,true⟩
      else
        let (pass,w) := dispatchPass lib cfg e w
        if pass.continues then
          let rest := dispatchLoop fuel acts.tail w
          ⟨pass :: rest.passes,rest.world,rest.finished⟩
        else ⟨[pass],w,true⟩

def AuthSocket.compact (sock : AuthSocket) : AuthSocket :=
  { sock with
    m_readBuf := if sock.m_readPos ≥ sock.m_readBuf.length then []
      else sock.m_readBuf.drop sock.m_readPos
    m_readPos := 0 }

def AuthSocket.append (sock : AuthSocket) (data : Bytes) : AuthSocket :=
  { sock with m_readBuf := sock.m_readBuf ++ data, m_readPos := 0 }

/-- One more pass than there are buffered bytes is enough for the loop. -/
def onData (acts : List (List (Act ω))) (data : Bytes) (w : World ω) : LoopResult ω :=
  if w.sock.m_closed then ⟨[],w,true⟩
  else if !canAppendPending w.sock.m_readBuf.length data.length then
    ⟨[],{ w with sock := w.sock.drop },true⟩
  else
    let out := dispatchLoop lib cfg e (w.sock.m_readBuf.length+data.length+1) acts
      { w with sock := w.sock.append data }
    { out with world.sock := out.world.sock.compact }

def LoopResult.history (r : LoopResult ω) : List (HandlerRun ω) :=
  r.passes.filterMap Pass.run?

inductive Input (ω : Type) where
  | data (acts : List (List (Act ω))) (chunk : Bytes)
  | act (a : Act ω)

def inputStep (w : World ω) : Input ω → List (HandlerRun ω) × World ω
  | .data acts chunk =>
      ((onData lib cfg e acts chunk w).history,(onData lib cfg e acts chunk w).world)
  | .act a => ([],a.apply w)

def runInputs : List (Input ω) → World ω → List (HandlerRun ω) × World ω
  | [], w => ([],w)
  | i :: is, w =>
      let first := inputStep lib cfg e w i
      let rest := runInputs is first.2
      (first.1 ++ rest.1,rest.2)

end Loop

end Realmd
