import Realmd.Framing
import Realmd.PatchLifecycle
set_option autoImplicit false

namespace Realmd
open ByteCodec Interaction Framing

section
variable {flow : Bool} {n : Nat} {st st' : IfStream} {t : List PatchEvent} {r : TransferEnd}
  {content got : Bytes}

end

def resumeRequest (offset : Nat) : Bytes :=
  [AuthCmd.xferResume.code] ++ leBytes 8 offset

theorem resumeRequest_offset (offset : Nat) :
    UInt64.ofNat (leNat (slice (resumeRequest offset) 1 8)) = UInt64.ofNat offset := by
  have hslice : slice (resumeRequest offset) 1 8 = leBytes 8 offset := rfl
  rw [hslice,leNat_leBytes]
  refine UInt64.toNat_inj.mp ?_
  simp only [UInt64.toNat_ofNat']
  omega

theorem HandlerRun.transferCall_resume {ω : Type} {run : HandlerRun ω} {offset : Nat}
    (hcmd : run.cmd = .xferResume) (hframe : run.frame = resumeRequest offset) :
    run.transferCall =
      run.before.sock.m_patchArtifact.map (·,UInt64.ofNat offset) := by
  rw [transferCall,hcmd,hframe]
  simp only [resumeRequest_offset]

/-- A handler call for the request of a client that goes on after a part of the archive
its session holds. -/
structure ResumeRun {ω : Type} (lib : SharedLibrary) (cfg : WrongPass) (e : AuthEnv ω)
    (artifact : PatchArtifact) (kept : Bytes) (run : HandlerRun ω) : Prop where
  ran : Ran lib cfg e run
  seeks : SeeksInside e
  held : run.before.sock.m_patchArtifact = some artifact
  frame : run.frame = resumeRequest kept.length

theorem ResumeRun.starts {ω : Type} {lib : SharedLibrary} {cfg : WrongPass} {e : AuthEnv ω}
    {artifact : PatchArtifact} {kept : Bytes} {run : HandlerRun ω}
    (h : ResumeRun lib cfg e artifact kept run) (hsize : artifact.size.toNat < 2^63)
    (hle : kept.length ≤ artifact.size.toNat) :
    transfersStarted run.calls = [(artifact,UInt64.ofNat kept.length)] := by
  have hcommand : some AuthCmd.xferResume = some run.cmd := by
    rw [← h.ran.command,h.frame]
    rfl
  have hcall : run.transferCall = some (artifact,UInt64.ofNat kept.length) := by
    rw [run.transferCall_resume (Option.some.inj hcommand).symm h.frame,h.held]
    rfl
  obtain ⟨-,ha,hbody⟩ := run.transferCall_eq_some hcall
  have hruns := h.ran.runs
  rw [hbody] at hruns
  have hseek : ∀ stream pos sought, ⟨.seekStream stream pos,sought⟩ ∈ run.calls →
      sought = true := by
    intro stream pos sought hmem
    obtain ⟨w,-,hw⟩ := h.ran.answered hmem
    rw [← hw]
    exact h.seeks stream pos w
  have hoffset : (UInt64.ofNat kept.length).toNat = kept.length :=
    UInt64.toNat_ofNat_of_lt' (by change kept.length < 2^64; omega)
  have hinside : UInt64.ofNat kept.length ≤ artifact.size := by
    rw [UInt64.le_iff_toNat_le,hoffset]
    exact hle
  rw [(beginPatchStream_starts hruns ha hsize hseek).1,if_pos hinside]

/-- One connection of a client: whether its transport has flow control, what that says of
its backlog, and the pieces of the stream that arrive. -/
structure Attempt where
  flow : Bool
  writable : Nat → Bool
  chunks : List Bytes

section
variable (md5 : Bytes → Bytes) (fuel : Nat) (file : PatchFile) (path : Bytes)

def Attempt.transfer (c : Attempt) (artifact : StreamedArtifact) (offset : UInt64) :
    Option (TransferEnd × Bytes) := do
  let env := fileEnv file.content c.writable
  let start := (startPatchTransfer (some artifact) offset).exec env 0
  let sought ← start.value
  let out := (transferThread c.flow fuel sought).exec env start.env
  return (out.value,(framesOf out.calls).flatten)

/-- A connection in which the client asks to go on after what it kept: the archive, and
what is made of the request. -/
def Attempt.stream (c : Attempt) (kept : Bytes) :
    Option (StreamedArtifact × TransferEnd × Bytes) := do
  let artifact ← ((openArtifact md5 fuel path).exec (fileEnv file.content c.writable) 0).value
  let offset := UInt64.ofNat (leNat (slice (resumeRequest kept.length) 1 8))
  let (ended,wire) ← c.transfer fuel file artifact offset
  return (artifact,ended,wire)

def Attempt.wire (c : Attempt) (kept : Bytes) : Bytes :=
  ((c.stream md5 fuel file path kept).map (·.2.2)).getD []

variable {md5 fuel file path}

end

end Realmd
