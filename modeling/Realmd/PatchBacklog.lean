import Realmd.PatchDelivery
import Realmd.ProgramLogic
set_option autoImplicit false

namespace Realmd
open ByteCodec Interaction

/-- What a transport does to the bytes it has taken and not yet written: only what is
sent adds to them, and a wait that succeeds ends below its ceiling. -/
structure Backlogged {ω : Type} (e : Env PatchCall PatchReply ω) (backlog : ω → Nat) : Prop where
  sent : ∀ bytes w, backlog (e (.sender bytes) w).2 ≤ backlog w+bytes.length
  other : ∀ c w, (∀ bytes, c ≠ .sender bytes) → backlog (e c w).2 ≤ backlog w
  awaited : ∀ ceiling w, (e (.awaitWritable ceiling) w).1 = true →
    backlog (e (.awaitWritable ceiling) w).2 ≤ ceiling

section
variable {ω : Type} {e : Env PatchCall PatchReply ω} {backlog : ω → Nat} {limit : Nat} {w : ω}

theorem Backlogged.await_holds (h : Backlogged e backlog) (hw : backlog w ≤ limit) :
    (awaitWritable true).Holds e (backlog · ≤ limit)
      (fun ok w' => backlog w' ≤ limit ∧ (ok = true → backlog w' ≤ kMaxOutstandingBytes)) w := by
  have hle := h.other (.awaitWritable kMaxOutstandingBytes) w (by simp)
  exact ⟨hw,by omega,by omega,h.awaited kMaxOutstandingBytes w⟩

theorem Backlogged.read_holds (h : Backlogged e backlog) (hlimit : limit ≥ backlog w)
    (st : IfStream) (capacity : Nat) :
    (st.read capacity).Holds e (backlog · ≤ limit)
      (fun r w' => backlog w' ≤ backlog w ∧ r.1.length ≤ capacity) w := by
  unfold IfStream.read
  split
  · have hle := h.other (.read st.pos capacity) w (by simp)
    exact ⟨hlimit,by omega,hle,ReadOutcome.fits _⟩
  · exact ⟨hlimit,Nat.le_refl _,Nat.zero_le _⟩

theorem Backlogged.readChunk_holds (h : Backlogged e backlog) (hlimit : limit ≥ backlog w)
    (a : StreamedArtifact) {pkt : Bytes} (hpkt : 3 ≤ pkt.length) :
    (a.read (some (pkt.drop 3)) (UInt64.ofNat kChunkSize)).Holds e (backlog · ≤ limit)
      (fun r w' => backlog w' ≤ backlog w ∧ ∃ got : Bytes, got.length ≤ kChunkSize ∧
        r.1 = (got.length,some ((overwrite pkt 3 got).drop 3))) w := by
  rw [a.read_chunk hpkt]
  refine (h.read_holds hlimit a.m_stream kChunkSize).bind ?_
  rintro ⟨got,st'⟩ w₁ ⟨hread,hgot⟩
  exact ⟨by omega,hread,got,hgot,rfl⟩

theorem Backlogged.streamChunks_holds (h : Backlogged e backlog)
    (hlimit : kMaxOutstandingBytes+3+kChunkSize ≤ limit) (fuel : Nat) {pkt : Bytes}
    (hpkt : pkt.length = 3+kChunkSize) (a : StreamedArtifact) (hw : backlog w ≤ limit) :
    (streamChunks true fuel pkt a).Holds e (backlog · ≤ limit) (fun _ _ => True) w := by
  induction fuel generalizing pkt a w with
  | zero => exact ⟨hw,trivial⟩
  | succ fuel ih =>
    unfold streamChunks
    refine (h.await_holds hw).bind ?_
    rintro ok w₁ ⟨hw₁,hceiling⟩
    cases ok with
    | false => exact ⟨hw₁,trivial⟩
    | true =>
      have hbelow := hceiling rfl
      have hheader : 3 ≤ pkt.length := by omega
      rw [if_pos rfl]
      refine (h.readChunk_holds hw₁ a hheader).bind ?_
      rintro ⟨_,a'⟩ w₂ ⟨hread,got,hgot,rfl⟩
      simp only [Option.getD_some]
      split
      · split
        · have hclosed := h.other .closer w₂ (by simp)
          exact ⟨by omega,by omega,trivial⟩
        · exact ⟨by omega,trivial⟩
      · have hsent := h.sent (dataFrame got) w₂
        have hfit : 3+got.length ≤ pkt.length := by omega
        rw [dataFrame_length] at hsent
        rw [take_append_drop_overwrite hheader,take_overwrite hfit]
        refine ⟨by omega,ih ?_ a' (by omega)⟩
        have hfirst : (overwrite pkt 3 got).length = pkt.length := overwrite_length hfit
        rw [overwrite_length (by simp; omega),hfirst,hpkt]

end

/-- However fast the file is read and however slowly the client drains, the bytes queued
for it never pass the ceiling by more than one frame. -/
theorem backlog_stays_bounded {ω : Type} (e : Env PatchCall PatchReply ω) (backlog : ω → Nat)
    (h : Backlogged e backlog) (fuel : Nat) (a : StreamedArtifact) (w : ω) :
    ∀ w' ∈ (transferThread true fuel a).instants e w,
      backlog w' ≤ max (backlog w) (256*1024+3+4096) := by
  have hlimit : kMaxOutstandingBytes+3+kChunkSize ≤ max (backlog w) (256*1024+3+4096) :=
    Nat.le_max_right _ _
  exact (h.streamChunks_holds hlimit fuel (by simp) a (Nat.le_max_left _ _)).instants

structure Transport where
  queued : Nat
  turn : Nat

/-- The wait lasts until the queue is down to the ceiling, or the connection is gone. -/
def queueEnv (content : Bytes) (written : Nat → Nat) (gone : Nat → Bool) :
    Env PatchCall PatchReply Transport
  | c, w =>
      let w : Transport := ⟨w.queued-written w.turn,w.turn+1⟩
      match c with
      | .isRegularFile _ | .openAtEnd _ | .seekg _ => (true,w)
      | .tellg => (Int64.ofNat content.length,w)
      | .read pos capacity => (fileRead content pos capacity,w)
      | .awaitWritable ceiling =>
          if gone w.turn then (false,w) else (true,{ w with queued := min w.queued ceiling })
      | .sender bytes => ((),{ w with queued := w.queued+bytes.length })
      | .closer => ((),w)

theorem queueEnv_backlogged (content : Bytes) (written : Nat → Nat) (gone : Nat → Bool) :
    Backlogged (queueEnv content written gone) Transport.queued where
  sent := by
    intro bytes w
    simp only [queueEnv]
    omega
  other := by
    intro c w hc
    cases c with
    | awaitWritable ceiling =>
      simp only [queueEnv]
      split
      · exact Nat.sub_le _ _
      · exact Nat.le_trans (Nat.min_le_left _ _) (Nat.sub_le _ _)
    | sender bytes => exact absurd rfl (hc bytes)
    | _ => exact Nat.sub_le _ _
  awaited := by
    intro ceiling w h
    simp only [queueEnv] at h ⊢
    split at h
    · contradiction
    · rename_i hopen
      rw [if_neg hopen]
      exact Nat.min_le_right _ _

theorem backlog_stays_bounded_slow :
    ((transferThread true 100 sampleArtifact).instants
      (queueEnv (List.replicate 300000 7) (fun k => k%3) (fun _ => false)) ⟨0,0⟩).all
        (·.queued ≤ 266243) := by
  refine List.all_eq_true.mpr fun w' hw' => decide_eq_true ?_
  exact backlog_stays_bounded _ Transport.queued (queueEnv_backlogged _ _ _) 100
    sampleArtifact ⟨0,0⟩ w' hw'

end Realmd
