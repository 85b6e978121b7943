import Realmd.FrameBody
set_option autoImplicit false

namespace Realmd
open ByteCodec Interaction

variable (lib : SharedLibrary) (cfg : WrongPass) {ω : Type} (e : AuthEnv ω)

theorem exec_inSession (sock : AuthSocket) (body : Session → AuthProg (Bool × Session))
    (w : ω) :
    (sock.inSession body).exec e w =
      ⟨(((body sock.toSession).exec e w).value.1,
          { sock with toSession := ((body sock.toSession).exec e w).value.2 }),
        ((body sock.toSession).exec e w).calls,((body sock.toSession).exec e w).env⟩ := by
  simp only [AuthSocket.inSession]
  rw [Prog.exec_bind]
  simp only [Prog.pure_eq,Prog.exec_ret,List.append_nil]

def frameRun (cmd : AuthCmd) (size : Nat) (ops : List ReadOp) (w : World ω) :
    HandlerRun ω :=
  let frame := w.sock.toReadBuffer.unread.take size
  let out := (frameBody lib cfg cmd frame w.sock.toSession).exec e w.env
  ⟨cmd,frame,w,out.calls,out.value.1,
    ⟨{ w.sock.took size ops with toSession := out.value.2 },out.env⟩⟩

def World.InBounds (w : World ω) : Prop := w.sock.m_readPos ≤ w.sock.m_readBuf.length

/-- A call of the handler the guard let through, on a frame it found complete. -/
inductive FrameCall (w : World ω) : HandlerRun ω → Prop where
  | mk (cmd : AuthCmd) (size : Nat) (ops : List ReadOp)
      (hcmd : AuthCmd.ofCode (byteAt w.sock.toReadBuffer.unread 0) = some cmd)
      (hstate : cmd.streamState = some w.sock.status.streamState)
      (hframe : inspectFrame w.sock.status.streamState w.sock.toReadBuffer.unread =
        .complete size)
      (hops : Inside w.sock.m_readPos size ops) :
      FrameCall w (frameRun lib cfg e cmd size ops w)

inductive PassSpec (w : World ω) : Pass ω → World ω → Prop where
  | incomplete
      (h : (inspectFrame w.sock.status.streamState
        w.sock.toReadBuffer.unread).status = .incomplete) :
      PassSpec w .incomplete w
  | rejected (reason : RejectReason)
      (h : (inspectFrame w.sock.status.streamState
        w.sock.toReadBuffer.unread).status = .reject) :
      PassSpec w (.rejected reason) { w with sock := w.sock.drop }
  | handled (run : HandlerRun ω) (h : FrameCall lib cfg e w run) (hr : run.result = true) :
      PassSpec w (.handled run) run.after
  | failed (run : HandlerRun ω) (h : FrameCall lib cfg e w run) (hr : run.result = false) :
      PassSpec w (.failed run) { run.after with sock := run.after.sock.drop }

theorem dispatchPass_spec {w : World ω} (hw : w.InBounds) :
    PassSpec lib cfg e w (dispatchPass lib cfg e w).1 (dispatchPass lib cfg e w).2 := by
  cases hs : (inspectFrame w.sock.status.streamState
      w.sock.toReadBuffer.unread).status with
  | incomplete =>
    simp only [dispatchPass,hs]
    exact .incomplete hs
  | reject =>
    simp only [dispatchPass,hs]
    exact .rejected _ hs
  | complete =>
    obtain ⟨cmd,size,hcmd,hstate,hinspect,hframe,hpos,hl⟩ := inspectFrame_complete hs
    obtain ⟨row,hrow,hrc,hrs⟩ := cmd.row_of_streamState lib cfg hstate
    obtain ⟨ops,hops,hhandler⟩ := handler_complete lib cfg hw hinspect hrow
    have hfind : (handlerTable lib cfg).find?
        (·.cmd.code == byteAt w.sock.toReadBuffer.unread 0) = some row := by
      rw [← AuthCmd.code_of_ofCode hcmd,handlerTable_find,hrow]
    have hrun : callHandler e row size w = frameRun lib cfg e cmd size ops w := by
      simp only [callHandler,hhandler,exec_inSession,hrc]
      rfl
    have hcall : FrameCall lib cfg e w (frameRun lib cfg e cmd size ops w) :=
      .mk cmd size ops hcmd hstate hframe hops
    simp only [dispatchPass,hframe,FrameDecision.complete,hfind,hrs,ne_eq,
      not_true_eq_false,if_false,hrun]
    cases hr : (frameRun lib cfg e cmd size ops w).result with
    | false =>
      simp only [Bool.not_false,if_true]
      exact .failed _ hcall hr
    | true =>
      have hconsumed : (frameRun lib cfg e cmd size ops w).after.sock.m_readPos-
          w.sock.m_readPos = size := by
        change w.sock.m_readPos+size-w.sock.m_readPos = size
        omega
      simp only [Bool.not_true,Bool.false_eq_true,if_false,hconsumed,not_true_eq_false]
      exact .handled _ hcall hr

theorem World.recvLen_eq {w : World ω} (hw : w.InBounds) :
    w.sock.toReadBuffer.recvLen = w.sock.toReadBuffer.unread.length := by
  rw [ReadBuffer.recvLen,ReadBuffer.unread_length]
  exact if_pos hw

@[simp] theorem Act.apply_toReadBuffer (a : Act ω) (w : World ω) :
    (a.apply w).sock.toReadBuffer = w.sock.toReadBuffer := by
  cases a <;> rfl

theorem foldl_apply_toReadBuffer (acts : List (Act ω)) (w : World ω) :
    (acts.foldl Act.apply w).sock.toReadBuffer = w.sock.toReadBuffer := by
  induction acts generalizing w with
  | nil => rfl
  | cons a acts ih => rw [List.foldl_cons,ih,a.apply_toReadBuffer]

theorem foldl_apply_inBounds {w : World ω} (hw : w.InBounds) (acts : List (Act ω)) :
    (acts.foldl Act.apply w).InBounds := by
  unfold World.InBounds at hw ⊢
  rwa [foldl_apply_toReadBuffer]

theorem frame_le_unread {status : EStatus} {data : Bytes} {size : Nat}
    (h : inspectFrame status.streamState data = .complete size) :
    1 ≤ size ∧ size ≤ data.length := by
  obtain ⟨_,size',-,-,-,he,hpos,hl⟩ := inspectFrame_complete (by rw [h]; rfl)
  obtain rfl := FrameDecision.complete_inj (he.symm.trans h)
  exact ⟨hpos,hl⟩

def World.Settled (w : World ω) : Prop :=
  w.sock.m_closed = false →
    (inspectFrame w.sock.status.streamState w.sock.toReadBuffer.unread).status = .incomplete

section
variable {lib cfg e} {w w' : World ω} {pass : Pass ω} {run : HandlerRun ω}

/-- The handler consumes its frame and stays inside it. -/
structure HandlerRun.Consumes (run : HandlerRun ω) : Prop where
  before : run.before.InBounds
  after : run.after.InBounds
  reads : ∃ ops, Inside run.before.sock.m_readPos run.frame.length ops ∧
    run.after.sock.reads = run.before.sock.reads ++ ops
  frame : run.frame = run.before.sock.toReadBuffer.unread.take run.frame.length
  nonempty : 1 ≤ run.frame.length
  unread : run.after.sock.toReadBuffer.unread =
    run.before.sock.toReadBuffer.unread.drop run.frame.length
  readPos : run.after.sock.m_readPos = run.before.sock.m_readPos+run.frame.length

theorem FrameCall.before_eq (h : FrameCall lib cfg e w run) : run.before = w := by
  cases h
  rfl

theorem FrameCall.consumes (h : FrameCall lib cfg e w run) (hw : w.InBounds) :
    run.Consumes := by
  cases h with
  | mk cmd size ops hcmd hstate hframe hops =>
    obtain ⟨hpos,hl⟩ := frame_le_unread hframe
    have hlen : (frameRun lib cfg e cmd size ops w).frame.length = size := by
      change (w.sock.toReadBuffer.unread.take size).length = size
      rw [List.length_take]
      omega
    have hu := w.sock.toReadBuffer.unread_length
    constructor
    case before => exact hw
    case after =>
      change w.sock.m_readPos+size ≤ w.sock.m_readBuf.length
      unfold World.InBounds at hw
      omega
    case reads =>
      rw [hlen]
      exact ⟨ops,hops,rfl⟩
    case frame =>
      rw [hlen]
      rfl
    case nonempty => omega
    case unread =>
      rw [hlen]
      exact w.sock.toReadBuffer.took_unread size ops
    case readPos =>
      rw [hlen]
      rfl

theorem HandlerRun.Consumes.frame_le (h : run.Consumes) :
    run.frame.length ≤ run.before.sock.toReadBuffer.unread.length := by
  have hl := congrArg List.length h.frame
  rw [List.length_take] at hl
  omega

theorem PassSpec.inBounds (h : PassSpec lib cfg e w pass w') (hw : w.InBounds) :
    w'.InBounds := by
  cases h with
  | incomplete h => exact hw
  | rejected reason h => exact Nat.le_refl 0
  | handled run h hr => exact (h.consumes hw).after
  | failed run h hr => exact Nat.le_refl 0

theorem PassSpec.unread_lt (h : PassSpec lib cfg e w pass w') (hw : w.InBounds)
    (hc : pass.continues = true) :
    w'.sock.toReadBuffer.unread.length < w.sock.toReadBuffer.unread.length := by
  cases h with
  | incomplete h => simp [Pass.continues] at hc
  | rejected reason h => simp [Pass.continues] at hc
  | failed run h hr => simp [Pass.continues] at hc
  | handled run h hr =>
    have hcons := h.consumes hw
    have hle := hcons.frame_le
    have hpos := hcons.nonempty
    rw [hcons.unread,List.length_drop]
    rw [h.before_eq] at hle ⊢
    omega

theorem PassSpec.settled (h : PassSpec lib cfg e w pass w')
    (hc : pass.continues = false) : w'.Settled := by
  intro ho
  cases h with
  | incomplete h => exact h
  | rejected reason h => simp [AuthSocket.drop,Session.closeConnection] at ho
  | failed run h hr => simp [AuthSocket.drop,Session.closeConnection] at ho
  | handled run h hr => simp [Pass.continues] at hc

def Pass.Expected : Pass ω → Prop
  | .incomplete | .rejected _ => True
  | .failed run | .handled run => run.Consumes
  | .unauthorized _ | .unmatched _ | .unexpectedLength _ => False

theorem PassSpec.expected (h : PassSpec lib cfg e w pass w') (hw : w.InBounds) :
    pass.Expected := by
  cases h with
  | incomplete h => trivial
  | rejected reason h => trivial
  | handled run h hr => exact h.consumes hw
  | failed run h hr => exact h.consumes hw

theorem PassSpec.run_le (h : PassSpec lib cfg e w pass w') (hw : w.InBounds)
    (hr : pass.run? = some run) : 1 ≤ w.sock.toReadBuffer.unread.length := by
  have hle : FrameCall lib cfg e w run → 1 ≤ w.sock.toReadBuffer.unread.length := by
    intro hcall
    have hcons := hcall.consumes hw
    have hle := hcons.frame_le
    rw [hcall.before_eq] at hle
    exact Nat.le_trans hcons.nonempty hle
  cases h with
  | incomplete h => simp [Pass.run?] at hr
  | rejected reason h => simp [Pass.run?] at hr
  | handled run' h hr' => cases hr; exact hle h
  | failed run' h hr' => cases hr; exact hle h

end

section
variable (fuel : Nat) (acts : List (List (Act ω))) {w w' : World ω}

theorem dispatchLoop_closed (hw' : (acts.headD []).foldl Act.apply w = w')
    (hc : w'.sock.m_closed = true) :
    dispatchLoop lib cfg e (fuel+1) acts w = ⟨[],w',true⟩ := by
  simp only [dispatchLoop,hw',hc,if_true]

theorem dispatchLoop_stop (hw' : (acts.headD []).foldl Act.apply w = w')
    (ho : w'.sock.m_closed = false)
    (hc : (dispatchPass lib cfg e w').1.continues = false) :
    dispatchLoop lib cfg e (fuel+1) acts w =
      ⟨[(dispatchPass lib cfg e w').1],(dispatchPass lib cfg e w').2,true⟩ := by
  simp only [dispatchLoop,hw',ho,hc,Bool.false_eq_true,if_false]

theorem dispatchLoop_continue (hw' : (acts.headD []).foldl Act.apply w = w')
    (ho : w'.sock.m_closed = false)
    (hc : (dispatchPass lib cfg e w').1.continues = true) :
    dispatchLoop lib cfg e (fuel+1) acts w =
      ⟨(dispatchPass lib cfg e w').1 ::
          (dispatchLoop lib cfg e fuel acts.tail (dispatchPass lib cfg e w').2).passes,
        (dispatchLoop lib cfg e fuel acts.tail (dispatchPass lib cfg e w').2).world,
        (dispatchLoop lib cfg e fuel acts.tail (dispatchPass lib cfg e w').2).finished⟩ := by
  simp only [dispatchLoop,hw',ho,hc,Bool.false_eq_true,if_false,if_true]

end

theorem dispatchLoop_rule {P : List (Pass ω) → World ω → Prop}
    (hact : ∀ {ps w} (a : Act ω), w.InBounds → P ps w → P ps (a.apply w))
    (hpass : ∀ {ps w pass w'}, w.InBounds → w.sock.m_closed = false →
      PassSpec lib cfg e w pass w' → P ps w → P (ps ++ [pass]) w')
    (fuel : Nat) (acts : List (List (Act ω))) (ps : List (Pass ω)) {w : World ω}
    (hw : w.InBounds) (h : P ps w) :
    (dispatchLoop lib cfg e fuel acts w).world.InBounds ∧
      P (ps ++ (dispatchLoop lib cfg e fuel acts w).passes)
        (dispatchLoop lib cfg e fuel acts w).world := by
  induction fuel generalizing acts ps w with
  | zero => exact ⟨hw,by simpa [dispatchLoop] using h⟩
  | succ fuel ih =>
    have hfold : ∀ (as : List (Act ω)) (w : World ω), w.InBounds → P ps w →
        P ps (as.foldl Act.apply w) := by
      intro as
      induction as with
      | nil => exact fun _ _ h => h
      | cons a as iha =>
        intro w hw h
        exact iha _ (foldl_apply_inBounds hw [a]) (hact a hw h)
    have hacted := hfold (acts.headD []) w hw h
    have hin := foldl_apply_inBounds hw (acts.headD [])
    generalize hw' : (acts.headD []).foldl Act.apply w = w' at hacted hin
    cases ho : w'.sock.m_closed with
    | true =>
      rw [dispatchLoop_closed lib cfg e fuel acts hw' ho,List.append_nil]
      exact ⟨hin,hacted⟩
    | false =>
      have hspec := dispatchPass_spec lib cfg e hin
      have hnext := hpass hin ho hspec hacted
      cases hc : (dispatchPass lib cfg e w').1.continues with
      | false =>
        rw [dispatchLoop_stop lib cfg e fuel acts hw' ho hc]
        exact ⟨hspec.inBounds hin,hnext⟩
      | true =>
        have hrest := ih acts.tail _ (hspec.inBounds hin) hnext
        rw [dispatchLoop_continue lib cfg e fuel acts hw' ho hc]
        simpa using hrest

/-- The loop ended by itself: at most one frame for each of the `bytes`, one pass
for each frame and one last pass. -/
structure LoopResult.Ended (r : LoopResult ω) (bytes : Nat) : Prop where
  finished : r.finished = true
  passes_le : r.passes.length ≤ bytes+1
  history_le : r.history.length ≤ bytes
  settled : r.world.Settled

theorem dispatchLoop_ended (fuel : Nat) (acts : List (List (Act ω))) {w : World ω}
    (hw : w.InBounds) (hf : w.sock.toReadBuffer.unread.length < fuel) :
    (dispatchLoop lib cfg e fuel acts w).Ended w.sock.toReadBuffer.unread.length := by
  induction fuel generalizing acts w with
  | zero => omega
  | succ fuel ih =>
    have hin := foldl_apply_inBounds hw (acts.headD [])
    have hbuf := foldl_apply_toReadBuffer (acts.headD []) w
    rw [← hbuf] at hf ⊢
    generalize hw' : (acts.headD []).foldl Act.apply w = w' at hin hf ⊢
    cases ho : w'.sock.m_closed with
    | true =>
      rw [dispatchLoop_closed lib cfg e fuel acts hw' ho]
      exact ⟨rfl,Nat.zero_le _,Nat.zero_le _,fun h => by simp [ho] at h⟩
    | false =>
      have hspec := dispatchPass_spec lib cfg e hin
      cases hc : (dispatchPass lib cfg e w').1.continues with
      | false =>
        rw [dispatchLoop_stop lib cfg e fuel acts hw' ho hc]
        refine ⟨rfl,Nat.le_add_left 1 _,?_,hspec.settled hc⟩
        cases hrun : (dispatchPass lib cfg e w').1.run? with
        | none => simp [LoopResult.history,hrun]
        | some run => simpa [LoopResult.history,hrun] using hspec.run_le hin hrun
      | true =>
        have hlt := hspec.unread_lt hin hc
        obtain ⟨hfin,hpasses,hhist,hset⟩ := ih acts.tail (hspec.inBounds hin) (by omega)
        rw [dispatchLoop_continue lib cfg e fuel acts hw' ho hc]
        refine ⟨hfin,?_,?_,hset⟩
        · simp only [List.length_cons]
          omega
        · simp only [LoopResult.history] at hhist ⊢
          rw [List.filterMap_cons]
          cases hrun : (dispatchPass lib cfg e w').1.run? with
          | none => simp only; omega
          | some run => simp only [List.length_cons]; omega

end Realmd
