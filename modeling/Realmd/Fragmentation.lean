import Realmd.Client
import Realmd.Framing
import Realmd.Runs
set_option autoImplicit false

namespace Realmd
open ByteCodec Interaction Framing

variable (lib : SharedLibrary) (cfg : WrongPass) {ω : Type} (e : AuthEnv ω)

/-- A handler call without the input buffer: the handler, its frame, the session
fields and the surroundings before and after it, the calls it made with the
replies it got, and its result. -/
structure CallView (ω : Type) where
  cmd : AuthCmd
  frame : Bytes
  before : Session × ω
  calls : List AuthEvent
  result : Bool
  after : Session × ω

def HandlerRun.view (run : HandlerRun ω) : CallView ω :=
  ⟨run.cmd,run.frame,(run.before.sock.toSession,run.before.env),run.calls,run.result,
    (run.after.sock.toSession,run.after.env)⟩

def World.view (w : World ω) : Session × ω := (w.sock.toSession,w.env)

def FrameDecision.framing (d : FrameDecision) : Decision :=
  match d.status with
  | .incomplete => .incomplete
  | .reject => .reject
  | .complete => .complete d.frameSize

def viewCall (x : Session × ω) (frame : Bytes) : CallView ω :=
  let cmd := (AuthCmd.ofCode (byteAt frame 0)).getD .xferData
  let out := (frameBody lib cfg cmd frame x.1).exec e x.2
  ⟨cmd,frame,x,out.calls,out.value.1,(out.value.2,out.env)⟩

/-- The session as a consumer of its input stream. -/
def sessionMachine : Machine UInt8 (Session × ω) (CallView ω) where
  isOpen x := !x.1.m_closed
  inspect x data := (inspectFrame x.1.status.streamState data).framing
  handle x frame :=
    let v := viewCall lib cfg e x frame
    (v,if v.result then v.after else (v.after.1.closeConnection,v.after.2))
  refuse x := (x.1.closeConnection,x.2)

theorem FrameDecision.framing_complete {d : FrameDecision} {n : Nat}
    (h : d.framing = .complete n) : d.status = .complete ∧ d.frameSize = n := by
  unfold framing at h
  cases hs : d.status <;> simp_all

theorem FrameDecision.framing_reject {d : FrameDecision} (h : d.framing = .reject) :
    d.status = .reject := by
  unfold framing at h
  cases hs : d.status <;> simp_all

theorem FrameDecision.framing_incomplete {d : FrameDecision} :
    d.framing = .incomplete ↔ d.status = .incomplete := by
  unfold framing
  cases hs : d.status <;> simp

theorem sessionMachine_stable : (sessionMachine lib cfg e).Stable where
  complete_append q h := by
    have hs := (FrameDecision.framing_complete h).1
    change (inspectFrame _ _).framing = _
    rw [inspectFrame_append _ _ q (by rw [hs]; decide)]
    exact h
  reject_append q h := by
    have hs := FrameDecision.framing_reject h
    change (inspectFrame _ _).framing = _
    rw [inspectFrame_append _ _ q (by rw [hs]; decide)]
    exact h
  complete_bounds h := by
    obtain ⟨hs,hn⟩ := FrameDecision.framing_complete h
    obtain ⟨_,size,-,-,-,he,hpos,hl⟩ := inspectFrame_complete hs
    rw [he] at hn
    obtain rfl : size = _ := hn
    exact ⟨hpos,hl⟩
  refuse_closed x := rfl

theorem byteAt_take_zero {data : Bytes} {n : Nat} (h : 1 ≤ n) :
    byteAt (data.take n) 0 = byteAt data 0 :=
  byteAt_take h

section
variable {lib cfg e} {w w' : World ω} {run : HandlerRun ω}

theorem FrameCall.view_eq (h : FrameCall lib cfg e w run) :
    run.view = viewCall lib cfg e w.view
      (w.sock.toReadBuffer.unread.take run.frame.length) ∧
    (sessionMachine lib cfg e).inspect w.view w.sock.toReadBuffer.unread =
      .complete run.frame.length := by
  cases h with
  | mk cmd size ops hcmd hstate hframe hops =>
    obtain ⟨hpos,hl⟩ := frame_le_unread hframe
    have hlen : (frameRun lib cfg e cmd size ops w).frame.length = size := by
      change (w.sock.toReadBuffer.unread.take size).length = size
      rw [List.length_take]
      omega
    rw [hlen]
    constructor
    · simp only [viewCall,byteAt_take_zero hpos,hcmd,Option.getD_some]
      rfl
    · change (inspectFrame _ _).framing = _
      rw [World.view,hframe]
      rfl

end

theorem dispatchLoop_drain (fuel : Nat) {w : World ω} (hw : w.InBounds)
    (hf : w.sock.toReadBuffer.unread.length < fuel) :
    (dispatchLoop lib cfg e fuel [] w).history.map HandlerRun.view =
        ((sessionMachine lib cfg e).drain w.view w.sock.toReadBuffer.unread).log ∧
      (dispatchLoop lib cfg e fuel [] w).world.view =
        ((sessionMachine lib cfg e).drain w.view w.sock.toReadBuffer.unread).state ∧
      ((dispatchLoop lib cfg e fuel [] w).world.sock.m_closed = false →
        (dispatchLoop lib cfg e fuel [] w).world.sock.toReadBuffer.unread =
          ((sessionMachine lib cfg e).drain w.view w.sock.toReadBuffer.unread).pending) := by
  have hstable := sessionMachine_stable lib cfg e
  induction fuel generalizing w with
  | zero => omega
  | succ fuel ih =>
    cases ho : w.sock.m_closed with
    | true =>
      rw [dispatchLoop_closed lib cfg e fuel [] rfl ho,
        Machine.drain_closed _ _ (by simp [sessionMachine,World.view,ho])]
      exact ⟨rfl,rfl,fun _ => rfl⟩
    | false =>
      have hopen : (sessionMachine lib cfg e).isOpen w.view = true := by
        simp [sessionMachine,World.view,ho]
      have hspec := dispatchPass_spec lib cfg e hw
      have hacts : (List.headD [] []).foldl Act.apply w = w := rfl
      generalize hpass : (dispatchPass lib cfg e w).1 = pass at hspec
      generalize hnext : (dispatchPass lib cfg e w).2 = w' at hspec
      cases hspec with
      | incomplete h =>
        rw [dispatchLoop_stop lib cfg e fuel [] hacts ho (by rw [hpass]; rfl),hpass,hnext,
          Machine.drain_incomplete _ (FrameDecision.framing_incomplete.mpr h)]
        exact ⟨rfl,rfl,fun _ => rfl⟩
      | rejected reason h =>
        have hinspect : (sessionMachine lib cfg e).inspect w.view
            w.sock.toReadBuffer.unread = .reject := by
          simp [sessionMachine,FrameDecision.framing,World.view,h]
        rw [dispatchLoop_stop lib cfg e fuel [] hacts ho (by rw [hpass]; rfl),hpass,hnext,
          Machine.drain_reject _ hopen hinspect]
        exact ⟨rfl,rfl,fun _ => rfl⟩
      | failed run h hr =>
        obtain ⟨hview,hinspect⟩ := h.view_eq
        have hhandle : (sessionMachine lib cfg e).handle w.view
            (w.sock.toReadBuffer.unread.take run.frame.length) =
            (run.view,(run.after.sock.toSession.closeConnection,run.after.env)) := by
          simp only [sessionMachine,← hview]
          simp [HandlerRun.view,hr]
        rw [dispatchLoop_stop lib cfg e fuel [] hacts ho (by rw [hpass]; rfl),hpass,hnext,
          hstable.drain_complete hopen hinspect,hhandle,
          Machine.drain_closed _ _ (by simp [sessionMachine,Session.closeConnection])]
        refine ⟨rfl,rfl,fun hc => ?_⟩
        simp [Session.closeConnection] at hc
      | handled run h hr =>
        obtain ⟨hview,hinspect⟩ := h.view_eq
        have hcons := h.consumes hw
        have hhandle : (sessionMachine lib cfg e).handle w.view
            (w.sock.toReadBuffer.unread.take run.frame.length) =
            (run.view,run.after.view) := by
          simp only [sessionMachine,← hview]
          simp [HandlerRun.view,hr,World.view]
        have hunread := hcons.unread
        have hle := hcons.frame_le
        have hpos := hcons.nonempty
        rw [h.before_eq] at hunread hle
        have hlt : run.after.sock.toReadBuffer.unread.length < fuel := by
          rw [hunread,List.length_drop]
          omega
        obtain ⟨hlog,hend,hpending⟩ := ih hcons.after hlt
        rw [dispatchLoop_continue lib cfg e fuel [] hacts ho (by rw [hpass]; rfl),hpass,hnext,
          hstable.drain_complete hopen hinspect,hhandle,← hunread]
        refine ⟨?_,hend,hpending⟩
        change run.view :: _ = run.view :: _
        exact congrArg _ hlog

def World.drained (w : World ω) (log : List (CallView ω)) :
    Drained UInt8 (Session × ω) (CallView ω) :=
  ⟨log,w.view,w.sock.m_readBuf⟩

theorem onData_feed {w : World ω} {data : Bytes}
    (hfits : w.sock.m_closed = false →
      canAppendPending w.sock.m_readBuf.length data.length = true)
    (log : List (CallView ω)) :
    (sessionMachine lib cfg e).Agree
      ((onData lib cfg e [] data w).world.drained
        (log ++ (onData lib cfg e [] data w).history.map HandlerRun.view))
      ((sessionMachine lib cfg e).feed (w.drained log) data) := by
  unfold onData
  cases ho : w.sock.m_closed with
  | true =>
    rw [Machine.feed_closed _ _ (by simp [sessionMachine,World.drained,World.view,ho])]
    simp only [if_true,LoopResult.history,List.filterMap_nil,List.map_nil,List.append_nil]
    exact .refl _
  | false =>
    rw [Machine.feed_open _ _ (by simp [sessionMachine,World.drained,World.view,ho])]
    obtain ⟨hlog,hstate,hpending⟩ := dispatchLoop_drain lib cfg e
      (w.sock.m_readBuf.length+data.length+1) (w.append_inBounds data)
      (by rw [AuthSocket.append_unread,List.length_append]; omega)
    rw [AuthSocket.append_unread] at hlog hstate hpending
    simp only [Bool.false_eq_true,if_false,hfits ho,Bool.not_true]
    refine ⟨?_,?_,?_⟩
    · exact congrArg (log ++ ·) hlog
    · exact hstate
    · intro hopen
      have hc : (dispatchLoop lib cfg e (w.sock.m_readBuf.length+data.length+1) []
          { w with sock := w.sock.append data }).world.sock.m_closed = false := by
        simpa [sessionMachine,World.drained,World.view] using hopen
      have hcompact := AuthSocket.compact_unread (dispatchLoop lib cfg e
        (w.sock.m_readBuf.length+data.length+1) []
        { w with sock := w.sock.append data }).world.sock
      rw [hpending hc] at hcompact
      exact hcompact

def Fits : List Bytes → World ω → Prop
  | [], _ => True
  | chunk :: chunks, w =>
      (w.sock.m_closed = false →
        canAppendPending w.sock.m_readBuf.length chunk.length = true) ∧
      Fits chunks (onData lib cfg e [] chunk w).world

def feedChunks (chunks : List Bytes) (w : World ω) : List (HandlerRun ω) × World ω :=
  runInputs lib cfg e (chunks.map (.data [])) w

theorem feedChunks_feed (chunks : List Bytes) {w : World ω} (hfits : Fits lib cfg e chunks w)
    (log : List (CallView ω)) :
    (sessionMachine lib cfg e).Agree
      ((feedChunks lib cfg e chunks w).2.drained
        (log ++ (feedChunks lib cfg e chunks w).1.map HandlerRun.view))
      (chunks.foldl (sessionMachine lib cfg e).feed (w.drained log)) := by
  induction chunks generalizing w log with
  | nil =>
    simp only [feedChunks,List.map_nil,runInputs,List.append_nil,List.foldl_nil]
    exact .refl _
  | cons chunk chunks ih =>
    obtain ⟨hfirst,hrest⟩ := hfits
    have hhead := onData_feed lib cfg e hfirst log
    have htail := ih hrest
      (log ++ (onData lib cfg e [] chunk w).history.map HandlerRun.view)
    have hall := htail.trans (hhead.foldl_feed chunks)
    rw [List.append_assoc,← List.map_append] at hall
    exact hall

theorem World.Ready.drained_settled {w : World ω} (h : w.Ready)
    (log : List (CallView ω)) : (sessionMachine lib cfg e).Settled (w.drained log) := by
  intro ho
  have hopen : w.sock.m_closed = false := by
    simpa [sessionMachine,World.drained,World.view] using ho
  have hs := h.settled hopen
  rw [h.unread] at hs
  exact FrameDecision.framing_incomplete.mpr hs

/-- What two runs of one session have in common. -/
structure SameRun (r r' : List (HandlerRun ω) × World ω) : Prop where
  handlers : r.1.map (fun run => (run.cmd,run.frame)) =
    r'.1.map (fun run => (run.cmd,run.frame))
  sent : r.1.map (fun run => sentBytes run.calls) = r'.1.map (fun run => sentBytes run.calls)
  views : r.1.map HandlerRun.view = r'.1.map HandlerRun.view
  session : r.2.sock.toSession = r'.2.sock.toSession
  env : r.2.env = r'.2.env
  pending : r.2.sock.m_closed = false → r.2.sock.m_readBuf = r'.2.sock.m_readBuf

theorem SameRun.of_views {r r' : List (HandlerRun ω) × World ω}
    (hviews : r.1.map HandlerRun.view = r'.1.map HandlerRun.view)
    (hstate : r.2.view = r'.2.view)
    (hpending : r.2.sock.m_closed = false → r.2.sock.m_readBuf = r'.2.sock.m_readBuf) :
    SameRun r r' := by
  have hmap : ∀ {β : Type} (f : CallView ω → β),
      r.1.map (fun run => f run.view) = r'.1.map (fun run => f run.view) := by
    intro β f
    have h := congrArg (List.map f) hviews
    simpa [List.map_map,Function.comp_def] using h
  exact ⟨hmap fun v => (v.cmd,v.frame),hmap fun v => sentBytes v.calls,hviews,
    congrArg Prod.fst hstate,congrArg Prod.snd hstate,hpending⟩

/-- However the same bytes are cut into chunks, an open session makes of them the
same handler calls on the same frames, with the same replies and the same bytes
sent, and ends in the same state. -/
theorem onData_chunking_irrelevant {inputs : List (Input ω)} {now authTimeout : Nat}
    {patchPolicy : PatchPolicy} {remote_address : Bytes} {env : ω} {w : World ω}
    (hw : w = (runInputs lib cfg e inputs
      (World.start lib now authTimeout patchPolicy remote_address env)).2)
    {chunks chunks' : List Bytes} (hflat : chunks.flatten = chunks'.flatten)
    (hfits : Fits lib cfg e chunks w) (hfits' : Fits lib cfg e chunks' w) :
    SameRun (feedChunks lib cfg e chunks w) (feedChunks lib cfg e chunks' w) := by
  have hready : w.Ready := by
    rw [hw]
    exact runInputs_ready lib cfg e inputs
      (World.start_ready lib now authTimeout patchPolicy remote_address env)
  have h := feedChunks_feed lib cfg e chunks hfits []
  have h' := feedChunks_feed lib cfg e chunks' hfits' []
  have hcut := (sessionMachine_stable lib cfg e).chunking_irrelevant
    (hready.drained_settled lib cfg e []) hflat
  have hagree := (h.trans hcut).trans h'.symm
  refine .of_views hagree.log hagree.state fun ho => hagree.pending ?_
  simpa [sessionMachine,World.drained,World.view] using ho

theorem onData_chunking_irrelevant_logonChallenge :
    let frame := encodeChallenge .authLogonChallenge 5875 (ascii "niW" ++ [0])
      (ascii "SUne") (ascii "ALICE")
    (feedChunks referenceLibrary ⟨0,600,false⟩ ({} : Replies).env [frame]
      World.sample).1.length = 1 ∧
    SameRun
      (feedChunks referenceLibrary ⟨0,600,false⟩ ({} : Replies).env
        [frame.take 3,[],frame.drop 3] World.sample)
      (feedChunks referenceLibrary ⟨0,600,false⟩ ({} : Replies).env [frame]
        World.sample) := by
  refine ⟨by decide +kernel,?_⟩
  have hw : World.sample = (runInputs referenceLibrary ⟨0,600,false⟩ ({} : Replies).env []
      (World.start referenceLibrary 0 30 ⟨false,[]⟩ (ascii "10.0.0.1") ())).2 := rfl
  refine onData_chunking_irrelevant referenceLibrary ⟨0,600,false⟩ ({} : Replies).env hw
    (by decide +kernel) ?_ ?_
  · refine ⟨fun _ => ?_,fun _ => ?_,fun _ => ?_,trivial⟩ <;> decide +kernel
  · exact ⟨fun _ => by decide +kernel,trivial⟩

end Realmd
