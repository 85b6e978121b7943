import Realmd.FrameGrammar
import Realmd.Runs
set_option autoImplicit false

namespace Realmd
open ByteCodec Interaction

/-- The most a session waiting in a status can hold. -/
def EStatus.pendingBound : EStatus → Nat
  | .challenge => 65538
  | .logonProof => 74
  | .reconProof => 57
  | .patch => 8
  | .authed => 4
  | .closed => 0

theorem AuthCmd.largestFrame_le {cmd : AuthCmd} {status : EStatus}
    (h : cmd.streamState = some status.streamState) :
    cmd.largestFrame ≤ status.pendingBound+1 := by
  cases cmd <;> cases status <;>
    first
    | decide
    | simp [AuthCmd.streamState,EStatus.streamState] at h

theorem inspectFrame_incomplete {status : EStatus} {data : Bytes}
    (h : (inspectFrame status.streamState data).status = .incomplete) :
    data.length ≤ status.pendingBound := by
  by_cases hne : data = []
  · subst hne
    exact Nat.zero_le _
  · obtain ⟨cmd,hstate,hint⟩ := inspectFrame_hinted hne h
    have hshort := hint.short
    have hbound := hint.bound
    have hlargest := AuthCmd.largestFrame_le hstate
    omega

theorem EStatus.pendingBound_lt (status : EStatus) :
    status.pendingBound < maxPendingInput := by
  cases status <;> decide

variable (lib : SharedLibrary) (cfg : WrongPass) {ω : Type} (e : AuthEnv ω)

def World.Bounded (w : World ω) : Prop := w.sock.m_readBuf.length ≤ maxPendingInput

/-- The states of a session in one call of `onData`, as far as its input buffer is
concerned: before it, with the chunk appended, around each handler, and after it. -/
def onDataWorlds (acts : List (List (Act ω))) (data : Bytes) (w : World ω) :
    List (World ω) :=
  let out := onData lib cfg e acts data w
  let appended := if w.sock.m_closed || !canAppendPending w.sock.m_readBuf.length data.length
    then [] else [{ w with sock := w.sock.append data }]
  w :: appended ++ out.history.flatMap (fun run => [run.before,run.after]) ++ [out.world]

section
variable {lib cfg e} {w w' : World ω}

theorem Act.apply_bounded (h : w.Bounded) (a : Act ω) : (a.apply w).Bounded := by
  unfold World.Bounded
  rw [a.apply_toReadBuffer]
  exact h

theorem World.drop_bounded (w : World ω) :
    ({ w with sock := w.sock.drop } : World ω).Bounded := by
  simp [World.Bounded,AuthSocket.drop]

theorem FrameCall.bounded {run : HandlerRun ω} (hc : FrameCall lib cfg e w run)
    (h : w.Bounded) : run.before.Bounded ∧ run.after.Bounded := by
  cases hc
  exact ⟨h,h⟩

theorem PassSpec.bounded {pass : Pass ω} (hspec : PassSpec lib cfg e w pass w')
    (h : w.Bounded) :
    w'.Bounded ∧ ∀ run, pass.run? = some run → run.before.Bounded ∧ run.after.Bounded := by
  cases hspec with
  | incomplete _ => exact ⟨h,fun _ hr => by simp [Pass.run?] at hr⟩
  | rejected reason _ => exact ⟨w.drop_bounded,fun _ hr => by simp [Pass.run?] at hr⟩
  | handled run hc hr =>
    refine ⟨(hc.bounded h).2,?_⟩
    rintro run' ⟨⟩
    exact hc.bounded h
  | failed run hc hr =>
    refine ⟨run.after.drop_bounded,?_⟩
    rintro run' ⟨⟩
    exact hc.bounded h

theorem canAppendPending_bounded {data : Bytes}
    (h : canAppendPending w.sock.m_readBuf.length data.length = true) :
    ({ w with sock := w.sock.append data } : World ω).Bounded := by
  simp only [canAppendPending,Bool.and_eq_true,decide_eq_true_eq] at h
  simp only [World.Bounded,AuthSocket.append,List.length_append]
  omega

theorem AuthSocket.compact_bounded (h : w.Bounded) :
    ({ w with sock := w.sock.compact } : World ω).Bounded := by
  simp only [World.Bounded,AuthSocket.compact] at h ⊢
  split
  · exact Nat.zero_le _
  · rw [List.length_drop]
    omega

end

theorem onDataWorlds_bounded (acts : List (List (Act ω))) (data : Bytes) {w : World ω}
    (h : w.Bounded) : ∀ w' ∈ onDataWorlds lib cfg e acts data w, w'.Bounded := by
  unfold onDataWorlds onData
  split
  · rename_i hc
    simpa [hc,LoopResult.history] using h
  rename_i hc
  split
  · rename_i ha
    simpa [hc,ha,LoopResult.history] using ⟨h,w.drop_bounded⟩
  rename_i ha
  rw [Bool.not_eq_true,Bool.not_eq_false'] at ha
  have happended := canAppendPending_bounded ha
  obtain ⟨-,hruns,hend⟩ := dispatchLoop_rule lib cfg e
    (P := fun ps w => (∀ run ∈ ps.filterMap Pass.run?, run.before.Bounded ∧ run.after.Bounded) ∧
      w.Bounded)
    (fun a _ hp => ⟨hp.1,Act.apply_bounded hp.2 a⟩)
    (by
      intro ps w pass w' _ _ hspec hp
      obtain ⟨hw',hrun⟩ := hspec.bounded hp.2
      refine ⟨?_,hw'⟩
      intro run hmem
      rw [List.filterMap_append,List.mem_append] at hmem
      rcases hmem with hold | hnew
      · exact hp.1 run hold
      · simp only [List.mem_filterMap,List.mem_singleton] at hnew
        obtain ⟨_,rfl,hpass⟩ := hnew
        exact hrun run hpass)
    (w.sock.m_readBuf.length+data.length+1) acts [] (w.append_inBounds data)
    ⟨by simp,happended⟩
  intro w' hmem
  simp only [hc,ha,Bool.not_true,Bool.or_false,Bool.false_eq_true,if_false,List.mem_append,
    List.mem_cons,List.not_mem_nil,or_false,List.mem_flatMap] at hmem
  rcases hmem with ((rfl | rfl) | ⟨run,hrun,hmem⟩) | rfl
  · exact h
  · exact happended
  · have hb := hruns run (by simpa [LoopResult.history] using hrun)
    rcases hmem with rfl | rfl
    · exact hb.1
    · exact hb.2
  · exact AuthSocket.compact_bounded hend

theorem inputStep_bounded {w : World ω} (h : w.Bounded) (i : Input ω) :
    (inputStep lib cfg e w i).2.Bounded := by
  cases i with
  | data acts chunk =>
    exact onDataWorlds_bounded lib cfg e acts chunk h _ (by simp [onDataWorlds,inputStep])
  | act a => exact Act.apply_bounded h a

theorem runInputs_bounded (inputs : List (Input ω)) {w : World ω} (h : w.Bounded) :
    (runInputs lib cfg e inputs w).2.Bounded := by
  induction inputs generalizing w with
  | nil => exact h
  | cons i is ih => exact ih (inputStep_bounded lib cfg e h i)

/-- An open session between two inputs: nothing of its buffer is consumed, it waits
for more, and it holds less than any frame of its status. -/
structure World.Waits (w : World ω) : Prop where
  readPos : w.sock.m_readPos = 0
  incomplete : (inspectFrame w.sock.status.streamState w.sock.m_readBuf).status = .incomplete
  pending : w.sock.m_readBuf.length ≤ w.sock.status.pendingBound

variable {lib cfg e}

theorem World.Ready.waits {w : World ω} (h : w.Ready) (ho : w.sock.m_closed = false) :
    w.Waits := by
  have hsettled := h.settled ho
  rw [h.unread] at hsettled
  exact ⟨h.readPos,hsettled,inspectFrame_incomplete hsettled⟩

theorem World.Waits.canAppend {w : World ω} (h : w.Waits) :
    canAppendPending w.sock.m_readBuf.length 1 = true := by
  have hpending := h.pending
  have hlt := w.sock.status.pendingBound_lt
  simp only [canAppendPending,Bool.and_eq_true,decide_eq_true_eq]
  omega

variable (lib cfg e)

/-- In every run the input held is within the limit in every state, and a call of
`onData` that leaves the session open leaves it waiting, with room for another byte. -/
theorem pending_input_bounded (inputs : List (Input ω)) (now authTimeout : Nat)
    (patchPolicy : PatchPolicy) (remote_address : Bytes) (env : ω)
    (acts : List (List (Act ω))) (data : Bytes) :
    let w := (runInputs lib cfg e inputs
      (World.start lib now authTimeout patchPolicy remote_address env)).2
    let w' := (onData lib cfg e acts data w).world
    (∀ x ∈ onDataWorlds lib cfg e acts data w, x.sock.m_readBuf.length ≤ 65539) ∧
    (w'.sock.m_closed = false → w'.Waits) ∧
    (w.sock.m_closed = false → canAppendPending w.sock.m_readBuf.length 1 = true) := by
  intro w w'
  have hready : w.Ready := runInputs_ready lib cfg e inputs
    (World.start_ready lib now authTimeout patchPolicy remote_address env)
  have hbounded : w.Bounded := runInputs_bounded lib cfg e inputs (Nat.zero_le _)
  refine ⟨?_,?_,?_⟩
  · exact onDataWorlds_bounded lib cfg e acts data hbounded
  · exact fun ho => (onData_ready lib cfg e acts data hready).waits ho
  · exact fun ho => (hready.waits ho).canAppend

end Realmd
