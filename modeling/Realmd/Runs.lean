import Realmd.Client
import Realmd.GuardAgreement
import Realmd.ReferenceLibrary
set_option autoImplicit false

namespace Realmd
open ByteCodec Interaction

/-- All that other threads, and the loop outside its handlers, do to a session:
they may close it, which also puts out its deadline and may ask for the teardown. -/
structure Session.Quiet (s s' : Session) : Prop where
  same : s' = { s with
    m_closed := s'.m_closed
    closeRequested := s'.closeRequested
    m_authDeadline := s'.m_authDeadline }
  closed : s.m_closed = true → s'.m_closed = true
  deadline : s'.m_closed = s.m_closed ∧ s'.m_authDeadline = s.m_authDeadline ∨
    s'.m_closed = true ∧ s'.m_authDeadline = s.m_authDeadline.deactivate

theorem Session.Quiet.refl (s : Session) : s.Quiet s := ⟨rfl,id,.inl ⟨rfl,rfl⟩⟩

theorem Session.Quiet.trans {s s' s'' : Session} (h : s.Quiet s') (h' : s'.Quiet s'') :
    s.Quiet s'' := by
  refine ⟨?_,fun hc => h'.closed (h.closed hc),?_⟩
  · rw [h'.same,h.same]
  · rcases h.deadline with ⟨hc,hd⟩ | ⟨hc,hd⟩
    · rw [← hc,← hd]
      exact h'.deadline
    · refine .inr ⟨h'.closed hc,?_⟩
      rcases h'.deadline with ⟨-,hd'⟩ | ⟨-,hd'⟩
      · rw [hd',hd]
      · rw [hd',hd]
        rfl

theorem Session.Quiet.status {s s' : Session} (h : s.Quiet s') : s'.status = s.status := by
  rw [h.same]

theorem Session.Quiet.opened {s s' : Session} (h : s.Quiet s') (ho : s'.m_closed = false) :
    s.m_closed = false := by
  cases hc : s.m_closed with
  | false => rfl
  | true => simp [h.closed hc] at ho

theorem Session.closeConnection_quiet (s : Session) : s.Quiet s.closeConnection :=
  ⟨rfl,fun _ => rfl,.inr ⟨rfl,rfl⟩⟩

theorem Session.Quiet.deactivated {s s' : Session} (h : s.Quiet s') :
    s.deactivateAuthDeadline.Quiet s'.deactivateAuthDeadline := by
  refine ⟨?_,h.closed,?_⟩
  · simp only [Session.deactivateAuthDeadline]
    rw [h.same]
  · rcases h.deadline with ⟨hc,hd⟩ | ⟨hc,hd⟩
    · refine .inl ⟨hc,?_⟩
      simp only [Session.deactivateAuthDeadline,hd]
    · refine .inr ⟨hc,?_⟩
      simp only [Session.deactivateAuthDeadline,hd]

theorem Session.suffer_quiet (s : Session) (act : ThreadAct) : s.Quiet (s.suffer act) := by
  cases act with
  | onClose => exact ⟨rfl,fun _ => rfl,.inr ⟨rfl,rfl⟩⟩
  | expireAuthentication now =>
    simp only [suffer,expireAuthentication]
    split
    · exact s.closeConnection_quiet
    · exact .refl s

theorem Session.foldl_suffer_quiet (acts : List ThreadAct) (s : Session) :
    s.Quiet (acts.foldl Session.suffer s) := by
  induction acts generalizing s with
  | nil => exact .refl s
  | cons act acts ih => exact (s.suffer_quiet act).trans (ih (s.suffer act))

section
variable (lib : SharedLibrary) (cfg : WrongPass) {ω : Type} (e : AuthEnv ω)

theorem Act.apply_quiet (a : Act ω) (w : World ω) :
    w.sock.toSession.Quiet (a.apply w).sock.toSession := by
  cases a with
  | thread act => exact w.sock.toSession.suffer_quiet act
  | elsewhere change => exact .refl _

/-- Between two inputs the cursor is back at the start of the buffer and no
complete frame is left in it. -/
structure World.Ready (w : World ω) : Prop where
  readPos : w.sock.m_readPos = 0
  settled : w.Settled

theorem World.Ready.inBounds {w : World ω} (h : w.Ready) : w.InBounds := by
  unfold World.InBounds
  rw [h.readPos]
  exact Nat.zero_le _

theorem World.Ready.unread {w : World ω} (h : w.Ready) :
    w.sock.toReadBuffer.unread = w.sock.m_readBuf := by
  rw [ReadBuffer.unread,h.readPos,List.drop_zero]

@[simp] theorem AuthSocket.drop_toSession (sock : AuthSocket) :
    sock.drop.toSession = sock.toSession.closeConnection := rfl

@[simp] theorem AuthSocket.append_toSession (sock : AuthSocket) (data : Bytes) :
    (sock.append data).toSession = sock.toSession := rfl

@[simp] theorem AuthSocket.compact_toSession (sock : AuthSocket) :
    sock.compact.toSession = sock.toSession := rfl

theorem AuthSocket.append_unread (sock : AuthSocket) (data : Bytes) :
    (sock.append data).toReadBuffer.unread = sock.m_readBuf ++ data := rfl

theorem AuthSocket.compact_unread (sock : AuthSocket) :
    sock.compact.toReadBuffer.unread = sock.toReadBuffer.unread := by
  simp only [compact,ReadBuffer.unread,List.drop_zero]
  split
  · rename_i h
    exact (List.drop_eq_nil_of_le h).symm
  · rfl

theorem Act.apply_ready {w : World ω} (h : w.Ready) (a : Act ω) : (a.apply w).Ready := by
  have hq := a.apply_quiet w
  have hb := a.apply_toReadBuffer w
  refine ⟨?_,?_⟩
  · rw [hb]
    exact h.readPos
  · intro ho
    rw [hb,hq.same]
    exact h.settled (hq.opened ho)

theorem AuthSocket.drop_ready (sock : AuthSocket) (env : ω) :
    (⟨sock.drop,env⟩ : World ω).Ready :=
  ⟨rfl,fun h => by simp [AuthSocket.drop,Session.closeConnection] at h⟩

theorem World.append_inBounds (w : World ω) (data : Bytes) :
    ({ w with sock := w.sock.append data } : World ω).InBounds :=
  Nat.zero_le _

theorem onData_ready (acts : List (List (Act ω))) (data : Bytes) {w : World ω}
    (h : w.Ready) : (onData lib cfg e acts data w).world.Ready := by
  unfold onData
  split
  · exact h
  split
  · exact w.sock.drop_ready w.env
  · have hend := dispatchLoop_ended lib cfg e (w.sock.m_readBuf.length+data.length+1) acts
      (w.append_inBounds data)
      (by rw [AuthSocket.append_unread,List.length_append]; omega)
    refine ⟨rfl,fun ho => ?_⟩
    rw [AuthSocket.compact_unread]
    exact hend.settled ho

theorem inputStep_ready {w : World ω} (h : w.Ready) (i : Input ω) :
    (inputStep lib cfg e w i).2.Ready := by
  cases i with
  | data acts chunk => exact onData_ready lib cfg e acts chunk h
  | act a => exact a.apply_ready h

theorem runInputs_ready (inputs : List (Input ω)) {w : World ω} (h : w.Ready) :
    (runInputs lib cfg e inputs w).2.Ready := by
  induction inputs generalizing w with
  | nil => exact h
  | cons i is ih => exact ih (inputStep_ready lib cfg e h i)

def World.start (lib : SharedLibrary) (now authTimeout : Nat) (patchPolicy : PatchPolicy)
    (remote_address : Bytes) (env : ω) : World ω :=
  ⟨AuthSocket.fresh lib now authTimeout patchPolicy remote_address,env⟩

theorem World.start_ready (now authTimeout : Nat) (patchPolicy : PatchPolicy)
    (remote_address : Bytes) (env : ω) :
    (World.start lib now authTimeout patchPolicy remote_address env).Ready :=
  ⟨rfl,fun _ => rfl⟩

def World.sample : World Unit :=
  World.start referenceLibrary 0 30 ⟨false,[]⟩ (ascii "10.0.0.1") ()

def sampleKey : Nat := 2^312+7
def sampleDraw : Nat := 2^120+1

def sampleRow : AccountRow := ⟨[],7,0,[],0,[],[]⟩

def Replies.admitting : Replies :=
  { account := some sampleRow
    sessionkey := some (hexText sampleKey)
    accountId := some (7,[])
    draws := fun _ => sampleDraw }

def reconnectWith (key : Bytes) (build : UInt16) : List (Input Unit) :=
  let R1 : Bytes := List.replicate 16 1
  [.data [] (encodeChallenge .authReconnectChallenge build (ascii "niW" ++ [0])
      (ascii "SUne") (ascii "ALICE")),
    .data [] (encodeReconnectProof R1 (Sha1.hash (ascii "ALICE" ++ R1 ++
      leBytes 16 sampleDraw ++ key))),
    .data [] encodeRealmList]

def reconnectInputs : UInt16 → List (Input Unit) := reconnectWith (leBytes 40 sampleKey)

/-- What every run keeps, if it survives whatever happens outside the handlers and
every call of a handler on a complete frame. -/
theorem onData_rule {P : List (HandlerRun ω) → Session → Prop}
    (hquiet : ∀ {h s s'}, Session.Quiet s s' → P h s → P h s')
    (hcall : ∀ {h w run}, w.InBounds → w.sock.m_closed = false →
      FrameCall lib cfg e w run → P h w.sock.toSession →
        P (h ++ [run]) run.after.sock.toSession)
    (acts : List (List (Act ω))) (data : Bytes) {h : List (HandlerRun ω)} {w : World ω}
    (hp : P h w.sock.toSession) :
    P (h ++ (onData lib cfg e acts data w).history)
      (onData lib cfg e acts data w).world.sock.toSession := by
  unfold onData
  split
  · simpa [LoopResult.history] using hp
  split
  · simpa [LoopResult.history] using hquiet w.sock.toSession.closeConnection_quiet hp
  · have hloop := dispatchLoop_rule lib cfg e
      (P := fun ps w => P (h ++ ps.filterMap Pass.run?) w.sock.toSession)
      (fun a _ hp => hquiet (a.apply_quiet _) hp)
      (by
        intro ps w pass w' hw ho hspec hp
        rw [List.filterMap_append,← List.append_assoc]
        cases hspec with
        | incomplete _ => simpa [List.filterMap_cons,Pass.run?] using hp
        | rejected reason _ =>
          simpa [List.filterMap_cons,Pass.run?] using
            hquiet w.sock.toSession.closeConnection_quiet hp
        | handled run hc hr => exact hcall hw ho hc hp
        | failed run hc hr =>
          exact hquiet run.after.sock.toSession.closeConnection_quiet (hcall hw ho hc hp))
      (w.sock.m_readBuf.length+data.length+1) acts [] (w.append_inBounds data)
      (by simpa using hp)
    simpa [LoopResult.history] using hloop.2

theorem runInputs_rule {P : List (HandlerRun ω) → Session → Prop}
    (hquiet : ∀ {h s s'}, Session.Quiet s s' → P h s → P h s')
    (hcall : ∀ {h w run}, w.InBounds → w.sock.m_closed = false →
      FrameCall lib cfg e w run → P h w.sock.toSession →
        P (h ++ [run]) run.after.sock.toSession)
    (inputs : List (Input ω)) {h : List (HandlerRun ω)} {w : World ω}
    (hp : P h w.sock.toSession) :
    P (h ++ (runInputs lib cfg e inputs w).1)
      (runInputs lib cfg e inputs w).2.sock.toSession := by
  induction inputs generalizing h w with
  | nil => simpa [runInputs] using hp
  | cons i is ih =>
    have hstep : P (h ++ (inputStep lib cfg e w i).1)
        (inputStep lib cfg e w i).2.sock.toSession := by
      cases i with
      | data acts chunk => exact onData_rule lib cfg e (P := P) hquiet hcall acts chunk hp
      | act a => simpa [inputStep] using hquiet (a.apply_quiet w) hp
    simpa [runInputs] using ih hstep

theorem handlerTable_filter {cmd : AuthCmd} {row : AuthHandler}
    (h : cmd.row lib cfg = some row) :
    (handlerTable lib cfg).filter (·.cmd.code == cmd.code) = [row] := by
  cases cmd <;> cases h <;> rfl

structure World.Agrees (w : World ω) (n : Nat) (row : AuthHandler) : Prop where
  pos : 1 ≤ n
  le_recvLen : n ≤ w.sock.toReadBuffer.recvLen
  row_unique : (handlerTable lib cfg).filter
    (·.cmd.code == byteAt w.sock.toReadBuffer.unread 0) = [row]
  row_status : row.status = w.sock.status
  reads : ∃ ops, (callHandler e row n w).after.sock.reads = w.sock.reads ++ ops ∧
    Inside w.sock.m_readPos n ops
  consumed : (callHandler e row n w).result = true →
    (callHandler e row n w).after.sock.m_readPos = w.sock.m_readPos+n

theorem World.InBounds.agrees {w : World ω} (hw : w.InBounds) {n : Nat}
    (h : inspectFrame w.sock.status.streamState w.sock.toReadBuffer.unread = .complete n) :
    ∃ row, w.Agrees lib cfg e n row := by
  obtain ⟨cmd,size,hcmd,hstate,hinspect,hframe,hpos,hl⟩ :=
    inspectFrame_complete (by rw [h]; rfl)
  obtain rfl := FrameDecision.complete_inj (hframe.symm.trans h)
  obtain ⟨row,hrow,-,hrs⟩ := cmd.row_of_streamState lib cfg hstate
  obtain ⟨ops,hops,hhandler⟩ := handler_complete lib cfg hw hinspect hrow
  refine ⟨row,hpos,?_,?_,hrs,⟨ops,?_,hops⟩,?_⟩
  · rwa [World.recvLen_eq hw]
  · rw [← AuthCmd.code_of_ofCode hcmd]
    exact handlerTable_filter lib cfg hrow
  · simp only [callHandler,hhandler,exec_inSession]
    rfl
  · intro _
    simp only [callHandler,hhandler,exec_inSession]
    rfl

theorem onData_expected (acts : List (List (Act ω))) (data : Bytes) (w : World ω) :
    ∀ pass ∈ (onData lib cfg e acts data w).passes, pass.Expected := by
  unfold onData
  split
  · simp
  split
  · simp
  · have hloop := dispatchLoop_rule lib cfg e
      (P := fun ps _ => ∀ pass ∈ ps, pass.Expected)
      (fun a _ hp => hp)
      (by
        intro ps w pass w' hw _ hspec hp pass' hmem
        rcases List.mem_append.mp hmem with hold | hnew
        · exact hp pass' hold
        · rw [List.mem_singleton.mp hnew]
          exact hspec.expected hw)
      (w.sock.m_readBuf.length+data.length+1) acts [] (w.append_inBounds data)
      (by simp)
    simpa using hloop.2

theorem onData_ended (acts : List (List (Act ω))) (data : Bytes) {w : World ω}
    (h : w.Ready) :
    (onData lib cfg e acts data w).Ended (w.sock.m_readBuf.length+data.length) := by
  have hready := onData_ready lib cfg e acts data h
  unfold onData at hready ⊢
  split at hready
  · rename_i hc
    simp only [hc,if_true]
    exact ⟨rfl,Nat.zero_le _,Nat.zero_le _,hready.settled⟩
  rename_i hc
  split at hready
  · rename_i ha
    simp only [hc,ha,if_true]
    exact ⟨rfl,Nat.zero_le _,Nat.zero_le _,hready.settled⟩
  · rename_i ha
    have hend := dispatchLoop_ended lib cfg e (w.sock.m_readBuf.length+data.length+1) acts
      (w.append_inBounds data)
      (by rw [AuthSocket.append_unread,List.length_append]; omega)
    rw [AuthSocket.append_unread,List.length_append] at hend
    simp only [hc,ha]
    exact ⟨hend.finished,hend.passes_le,hend.history_le,hready.settled⟩

/-- In every session state and for every pending buffer the guard and the handlers
agree, and so in every run no pass is refused by the table or by the length test,
the cursor stays inside the buffer, and the loop ends within one frame for each
buffered byte and one last pass. -/
theorem guard_and_handlers_agree :
    (∀ (w : World ω) (n : Nat), w.InBounds →
      inspectFrame w.sock.status.streamState w.sock.toReadBuffer.unread = .complete n →
        ∃ row, w.Agrees lib cfg e n row) ∧
    ∀ (inputs : List (Input ω)) (now authTimeout : Nat) (patchPolicy : PatchPolicy)
      (remote_address : Bytes) (env : ω) (w : World ω),
      w = (runInputs lib cfg e inputs
        (World.start lib now authTimeout patchPolicy remote_address env)).2 →
      w.InBounds ∧
      ∀ (acts : List (List (Act ω))) (data : Bytes),
        (∀ pass ∈ (onData lib cfg e acts data w).passes, pass.Expected) ∧
        (onData lib cfg e acts data w).Ended (w.sock.m_readBuf.length+data.length) ∧
        (onData lib cfg e acts data w).world.InBounds := by
  constructor
  · intro w n hw h
    exact hw.agrees lib cfg e h
  · rintro inputs now authTimeout patchPolicy remote_address env w rfl
    have hready := runInputs_ready lib cfg e inputs
      (World.start_ready lib now authTimeout patchPolicy remote_address env)
    refine ⟨hready.inBounds,fun acts data => ⟨?_,?_,?_⟩⟩
    · exact onData_expected lib cfg e acts data _
    · exact onData_ended lib cfg e acts data hready
    · exact (onData_ready lib cfg e acts data hready).inBounds

/-- A call of `onData` without a single byte still makes a pass. -/
theorem onData_empty_chunk_one_pass :
    ¬ (onData referenceLibrary ⟨0,600,false⟩ ({} : Replies).env [] []
        World.sample).passes.length ≤
      World.sample.sock.m_readBuf.length+([] : Bytes).length := by
  decide +kernel

end

end Realmd
