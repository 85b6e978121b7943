import Realmd.PatchDelivery
set_option autoImplicit false

namespace Realmd
open ByteCodec Interaction

inductive ArtifactCall where
  | seek (offset : UInt64)
  | read (destination : Option Bytes) (capacity : UInt64)
  deriving DecidableEq

abbrev ArtifactReply : ArtifactCall → Type
  | .seek _ => Bool
  | .read _ _ => Nat × Option Bytes

def StreamedArtifact.perform : (c : ArtifactCall) → StreamedArtifact →
    PatchProg (ArtifactReply c × StreamedArtifact)
  | .seek offset, a => a.seek offset
  | .read destination capacity, a => a.read destination capacity

def cursorEnv (content : Bytes) : Env ArtifactCall ArtifactReply Nat
  | .seek offset, pos =>
      if offset.toNat ≤ content.length ∧ offset.toNat ≤ 2^63-1 then (true,offset.toNat)
      else (false,pos)
  | .read none _, pos => ((0,none),pos)
  | .read (some buf) capacity, pos =>
      if capacity = 0 then ((0,some buf),pos)
      else
        let got := content.extract pos (min (pos+capacity.toNat) content.length)
        ((got.length,some (got ++ buf.drop got.length)),pos+got.length)

/-- A file of any length: its end is told only where a position can hold it. -/
def diskEnv (content : Bytes) (writable : Nat → Bool) : Env PatchCall PatchReply Nat
  | .tellg, k => (if content.length < 2^63 then Int64.ofNat content.length else -1,k)
  | c, k => fileEnv content writable c k

section
variable {content : Bytes} {writable : Nat → Bool} {k : Nat}

theorem diskEnv_eq (h : content.length < 2^63) :
    diskEnv content writable = fileEnv content writable := by
  funext c k
  cases c with
  | tellg => simp only [diskEnv,if_pos h,fileEnv]
  | _ => rfl

theorem openArtifact_untold (md5 : Bytes → Bytes) (path : Bytes) (fuel : Nat)
    (h : ¬ content.length < 2^63) :
    ((openArtifact md5 fuel path).exec (diskEnv content writable) k).value = none := by
  have hneg : (-1 : Int64) ≤ 0 := by decide
  simp only [openArtifact,call,Prog.exec_bind,Prog.exec,diskEnv,fileEnv,if_neg h,hneg,if_true,
    Bool.not_true,Bool.false_eq_true,if_false,Prog.pure_eq]

theorem extract_window (content : Bytes) (pos capacity : Nat) :
    content.extract pos (min (pos+capacity) content.length) =
      (content.drop pos).take capacity := by
  rw [List.extract_eq_take_drop,List.take_eq_take_iff,List.length_drop]
  omega

theorem take_bounded {pos capacity : Nat} (hlen : content.length < 2^63) :
    (content.drop pos).take (min capacity (2^63-1)) = (content.drop pos).take capacity := by
  rw [List.take_eq_take_iff,List.length_drop]
  omega

/-- The archive stands where the cursor does. Its stream is good, or has failed and the
cursor is at the end. -/
structure Tracks (content : Bytes) (a : StreamedArtifact) (pos : Nat) : Prop where
  size : a.m_size.toNat = content.length
  on : a.m_stream.On content
  stands : a.m_stream.pos = pos
  inside : pos ≤ content.length

theorem Tracks.seek {a : StreamedArtifact} {pos : Nat} (h : Tracks content a pos)
    (offset : UInt64) :
    let out := ((a.seek offset).exec (fileEnv content writable) k).value
    let ref := cursorEnv content (.seek offset) pos
    out.1 = ref.1 ∧ Tracks content out.2 ref.2 := by
  intro out ref
  have hout : out = _ := a.seek_file offset
  have hle : offset ≤ a.m_size ↔ offset.toNat ≤ content.length := by
    rw [UInt64.le_iff_toNat_le,h.size]
  simp only [hout,ref,cursorEnv,hle]
  split
  · rename_i hin
    exact ⟨rfl,h.size,⟨rfl,.inl rfl⟩,rfl,hin.1⟩
  · exact ⟨rfl,h⟩

theorem Tracks.read {a : StreamedArtifact} {pos : Nat} (h : Tracks content a pos)
    (hlen : content.length < 2^63) (destination : Option Bytes) (capacity : UInt64) :
    let out := ((a.read destination capacity).exec (fileEnv content writable) k).value
    let ref := cursorEnv content (.read destination capacity) pos
    out.1 = ref.1 ∧ Tracks content out.2 ref.2 := by
  cases destination with
  | none => exact ⟨rfl,h⟩
  | some buf =>
    by_cases hzero : capacity = 0
    · simp only [StreamedArtifact.read,cursorEnv,if_pos hzero]
      exact ⟨rfl,h⟩
    · obtain ⟨st,calls,hread,hon,hpos,-⟩ := IfStream.read_file writable k h.on
        (min capacity.toNat (2^63-1))
      rw [take_bounded hlen,h.stands] at hread hpos
      simp only [StreamedArtifact.read,cursorEnv,extract_window,if_neg hzero,Prog.exec_bind,hread,
        overwrite_zero,Prog.pure_eq,Prog.exec_ret]
      refine ⟨trivial,h.size,hon,hpos,?_⟩
      have hpast := h.inside
      rw [List.length_take,List.length_drop]
      omega

theorem openArtifact_tracks (writable : Nat → Bool) (k : Nat) (md5 : Bytes → Bytes)
    (file : PatchFile) (path : Bytes) {fuel : Nat} (hfuel : file.content.length+2 ≤ fuel) :
    ∃ a, ((openArtifact md5 fuel path).exec (fileEnv file.content writable) k).value = some a ∧
      Tracks file.content a 0 := by
  have hlen := file.length_lt
  have hsize : (UInt64.ofNat file.content.length).toNat = file.content.length :=
    UInt64.toNat_ofNat_of_lt' (Nat.lt_trans hlen (by decide))
  exact ⟨_,openArtifact_file md5 file path hfuel,hsize,⟨rfl,.inl rfl⟩,rfl,Nat.zero_le _⟩

theorem artifact_simulates_cursor (hlen : content.length < 2^63) :
    Simulates (Env.serve (fileEnv content writable) StreamedArtifact.perform)
      (cursorEnv content) fun s pos => Tracks content s.1 pos where
  reply c h := by
    cases c with
    | seek offset => exact (h.seek offset).1
    | read destination capacity => exact (h.read hlen destination capacity).1
  keeps c h := by
    cases c with
    | seek offset => exact (h.seek offset).2
    | read destination capacity => exact (h.read hlen destination capacity).2

end

/-- An archive is its content with a cursor. It opens where the end of the file can be
told, and from then on every sequence of calls is answered as the cursor answers it. -/
theorem artifact_refines_cursor (md5 : Bytes → Bytes) (content : Bytes) (path : Bytes)
    (writable : Nat → Bool) (k fuel : Nat) (hne : content ≠ [])
    (hfuel : content.length+2 ≤ fuel) :
    let opened := (openArtifact md5 fuel path).exec (diskEnv content writable) k
    (opened.value.isSome = true ↔ content.length < 2^63) ∧
    ∀ a, opened.value = some a → ∀ calls : List ArtifactCall,
      ((callAll calls).exec
          (Env.serve (diskEnv content writable) StreamedArtifact.perform) (a,opened.env)).calls =
        ((callAll calls).exec (cursorEnv content) 0).calls := by
  intro opened
  by_cases hlen : content.length < 2^63
  · obtain ⟨a',hopen,htracks⟩ := openArtifact_tracks writable k md5 ⟨content,hne,hlen⟩ path hfuel
    have hopened : opened.value = some a' := by
      simp only [opened,diskEnv_eq hlen]
      exact hopen
    rw [hopened,diskEnv_eq hlen]
    refine ⟨iff_of_true rfl hlen,?_⟩
    intro a ha calls
    obtain rfl := Option.some.inj ha
    exact ((artifact_simulates_cursor hlen).exec (callAll calls) htracks).2.1
  · have hopened : opened.value = none := openArtifact_untold md5 path fuel hlen
    rw [hopened]
    refine ⟨iff_of_false (by decide) hlen,?_⟩
    intro a ha
    contradiction

def sampleCalls : List ArtifactCall :=
  [.read (some [0,0,0,0,0]) 5,.read (some [9]) 1,.seek 6,.read (some [9]) 1,.seek 3,
    .read none 2,.read (some [0,0,0,0]) 4,.read (some [7]) 0]

theorem artifact_refines_cursor_sample :
    let opened := (openArtifact sampleMd5 7 []).exec (diskEnv [1,2,3,4,5] fun _ => true) 0
    ∃ a, opened.value = some a ∧
      ((callAll sampleCalls).exec
          (Env.serve (diskEnv [1,2,3,4,5] fun _ => true) StreamedArtifact.perform)
          (a,opened.env)).calls =
        [⟨.read (some [0,0,0,0,0]) 5,(5,some [1,2,3,4,5])⟩,⟨.read (some [9]) 1,(0,some [9])⟩,
          ⟨.seek 6,false⟩,⟨.read (some [9]) 1,(0,some [9])⟩,⟨.seek 3,true⟩,
          ⟨.read none 2,(0,none)⟩,⟨.read (some [0,0,0,0]) 4,(2,some [4,5,0,0])⟩,
          ⟨.read (some [7]) 0,(0,some [7])⟩] := by
  intro opened
  obtain ⟨hopen,hcalls⟩ := artifact_refines_cursor sampleMd5 [1,2,3,4,5] [] (fun _ => true) 0 7
    (by decide) (by decide)
  obtain ⟨a,ha⟩ := Option.isSome_iff_exists.mp (hopen.mpr (by decide))
  exact ⟨a,ha,(hcalls a ha sampleCalls).trans rfl⟩

def readAll : Nat → Bytes → Prog ArtifactCall ArtifactReply (Option Bytes)
  | 0, _ => .ret none
  | fuel+1, buffer =>
      .ask (.read (some buffer) (UInt64.ofNat buffer.length)) fun (count,memory) =>
        let buffer := memory.getD buffer
        if count = 0 then .ret (some [])
        else do
          let rest ← readAll fuel buffer
          return rest.map (buffer.take count ++ ·)

theorem readAll_cursor {content buffer : Bytes} {pos fuel : Nat}
    (hfuel : content.length-pos < fuel) (hbuffer : 0 < buffer.length)
    (hfits : buffer.length < 2^64) :
    ((readAll fuel buffer).exec (cursorEnv content) pos).value = some (content.drop pos) := by
  induction fuel generalizing pos buffer with
  | zero => omega
  | succ fuel ih =>
    have hcapacity : (UInt64.ofNat buffer.length).toNat = buffer.length :=
      UInt64.toNat_ofNat_of_lt' hfits
    have hnonzero : ¬ UInt64.ofNat buffer.length = 0 := by
      intro hzero
      rw [hzero,UInt64.toNat_zero] at hcapacity
      omega
    have hrest := fileRead_rest content pos buffer.length
    simp only [readAll,Prog.exec,cursorEnv,if_neg hnonzero,hcapacity,extract_window,
      Option.getD_some]
    generalize hgot : (content.drop pos).take buffer.length = got
    have hlen : got.length = min buffer.length (content.length-pos) := by
      rw [← hgot,List.length_take,List.length_drop]
    split
    · rename_i hzero
      have hend : content.length ≤ pos := by omega
      simp only [Prog.exec_ret,List.drop_eq_nil_of_le hend]
    · have hmemory : (got ++ buffer.drop got.length).length = buffer.length := by
        rw [List.length_append,List.length_drop]
        omega
      have hnext : ((readAll fuel (got ++ buffer.drop got.length)).exec (cursorEnv content)
          (pos+got.length)).value = some (content.drop (pos+got.length)) :=
        ih (by omega) (by omega) (by omega)
      simp only [fileRead,hgot] at hrest
      simp only [Prog.exec_bind,hnext,Prog.pure_eq,Prog.exec_ret,Option.map_some,
        List.take_left,← hrest]

theorem readAll_artifact (md5 : Bytes → Bytes) (file : PatchFile) (path : Bytes)
    (writable : Nat → Bool) (k fuel : Nat) (calls : List ArtifactCall) (offset : UInt64)
    (buffer : Bytes) (hfuel : file.content.length+2 ≤ fuel)
    (hoffset : offset.toNat ≤ file.content.length) (hbuffer : 0 < buffer.length)
    (hfits : buffer.length < 2^64) :
    let opened := (openArtifact md5 fuel path).exec (fileEnv file.content writable) k
    ∃ a, opened.value = some a ∧
      ((do
          callAll calls
          let _ ← call (.seek offset)
          readAll fuel buffer : Prog ArtifactCall ArtifactReply (Option Bytes)).exec
        (Env.serve (fileEnv file.content writable) StreamedArtifact.perform)
        (a,opened.env)).value = some (file.content.drop offset.toNat) := by
  intro opened
  have hlen := file.length_lt
  obtain ⟨a,hopen,htracks⟩ := openArtifact_tracks writable k md5 file path hfuel
  have hinside : offset.toNat ≤ file.content.length ∧ offset.toNat ≤ 2^63-1 :=
    ⟨hoffset,by omega⟩
  refine ⟨a,hopen,?_⟩
  rw [((artifact_simulates_cursor hlen).exec _ htracks).1]
  simp only [Prog.exec_bind,call,Prog.exec,cursorEnv,if_pos hinside]
  exact readAll_cursor (by omega) hbuffer hfits

end Realmd
