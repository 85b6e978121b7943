import Realmd.PatchTransfer
set_option autoImplicit false

namespace Realmd
open ByteCodec Interaction

section
variable {flow : Bool} {n : Nat} {st st' : IfStream} {t : List PatchEvent} {r : TransferEnd}
  {got : Bytes}

theorem ReadsChunk.trace (h : ReadsChunk st t got st') :
    framesOf t = [] ∧ closerCalled t = false ∧ ((readsOf t).map (·.1.length)).sum = got.length := by
  cases h with
  | file hgood o => exact ⟨rfl,rfl,Nat.add_zero _⟩
  | failed hbad => exact ⟨rfl,rfl,rfl⟩

theorem ReadsChunk.badbit_iff (h : ReadsChunk st t got st') :
    st'.badbit = true ↔ st.badbit = true ∨ ∃ o ∈ readsOf t, o.2 = .error := by
  cases h with
  | file hgood o =>
    have hclean : st.badbit = false := by
      simp only [IfStream.good,Bool.and_eq_true,Bool.not_eq_true'] at hgood
      exact hgood.2
    have hreads : readsOf [⟨.read st.pos kChunkSize,o⟩] = [(o.bytes,o.ended)] := rfl
    simp [hreads,hclean,IfStream.took]
  | failed hbad => simp [readsOf]

theorem dataFrame_length (payload : Bytes) : (dataFrame payload).length = 3+payload.length := by
  simp [dataFrame]
  omega

theorem ReadsChunk.sent_pass (h : ReadsChunk st t got st') (flow : Bool) (t' : List PatchEvent) :
    let pass := waited flow ++ (t ++ ⟨.sender (dataFrame got),()⟩ :: t')
    framesOf pass = dataFrame got :: framesOf t' ∧ readsOf pass = readsOf t ++ readsOf t' ∧
      closerCalled pass = closerCalled t' := by
  intro pass
  obtain ⟨hframes,hquiet,-⟩ := h.trace
  have hsender : framesOf (⟨.sender (dataFrame got),()⟩ :: t') = dataFrame got :: framesOf t' ∧
      readsOf (⟨.sender (dataFrame got),()⟩ :: t') = readsOf t' ∧
      closerCalled (⟨.sender (dataFrame got),()⟩ :: t') = closerCalled t' := ⟨rfl,rfl,rfl⟩
  simp [pass,framesOf_append,readsOf_append,closerCalled_append,hframes,hquiet,hsender]

theorem ReadsChunk.done_pass (h : ReadsChunk st t got st') (flow : Bool) :
    let pass := waited flow ++ (t ++ if st'.badbit then [⟨.closer,()⟩] else [])
    framesOf pass = [] ∧ readsOf pass = readsOf t ∧ closerCalled pass = st'.badbit := by
  intro pass
  obtain ⟨hframes,hquiet,-⟩ := h.trace
  have hcloser : framesOf [⟨.closer,()⟩] = [] ∧ readsOf [⟨.closer,()⟩] = [] ∧
      closerCalled [⟨.closer,()⟩] = true := ⟨rfl,rfl,rfl⟩
  cases hb : st'.badbit with
  | false => simp [pass,hb,framesOf_append,readsOf_append,closerCalled_append,hframes,hquiet]
  | true =>
    simp [pass,hb,framesOf_append,readsOf_append,closerCalled_append,hframes,hquiet,hcloser]

theorem Streamed.conserved (h : Streamed flow n st t r) :
    payloadTotal t = ((readsOf t).map (·.1.length)).sum := by
  induction h with
  | running st => rfl
  | gone hflow => rfl
  | @done n st st' t hread =>
    obtain ⟨-,-,hsum⟩ := hread.trace
    obtain ⟨hframes,hreads,-⟩ := hread.done_pass flow
    rw [payloadTotal,hframes,hreads,hsum]
    rfl
  | @sent n st st' t t' got r hread hne hrest ih =>
    obtain ⟨-,-,hsum⟩ := hread.trace
    obtain ⟨hframes,hreads,-⟩ := hread.sent_pass flow t'
    simp only [payloadTotal] at ih
    simp only [payloadTotal,hframes,hreads,List.map_append,List.map_cons,List.sum_append,
      List.sum_cons,hsum,ih,dataFrame_length]
    omega

theorem Streamed.closes_iff (h : Streamed flow n st t r) (hr : r = .done) :
    closerCalled t = true ↔ st.badbit = true ∨ ∃ o ∈ readsOf t, o.2 = .error := by
  induction h with
  | running st => contradiction
  | gone hflow => contradiction
  | @done n st st' t hread =>
    obtain ⟨-,hreads,hcloses⟩ := hread.done_pass flow
    rw [hcloses,hreads,hread.badbit_iff]
  | @sent n st st' t t' got r hread hne hrest ih =>
    obtain ⟨-,hreads,hcloses⟩ := hread.sent_pass flow t'
    rw [hcloses,hreads,ih hr,hread.badbit_iff,or_assoc]
    simp only [List.mem_append]
    constructor
    · rintro (hb | ⟨o,hmem,ho⟩ | ⟨o,hmem,ho⟩)
      · exact .inl hb
      · exact .inr ⟨o,.inl hmem,ho⟩
      · exact .inr ⟨o,.inr hmem,ho⟩
    · rintro (hb | ⟨o,hmem | hmem,ho⟩)
      · exact .inl hb
      · exact .inr (.inl ⟨o,hmem,ho⟩)
      · exact .inr (.inr ⟨o,hmem,ho⟩)

end

theorem startPatchTransfer_runs_some {a a' : StreamedArtifact} {offset : UInt64}
    {t : List PatchEvent} (h : (startPatchTransfer (some a) offset).Runs t (some a')) :
    offset ≤ a.m_size ∧
      a' = { a with m_stream := ⟨offset.toNat,false,false,false⟩ } := by
  unfold startPatchTransfer at h
  simp only at h
  split at h
  · simp [Prog.Runs] at h
  rename_i hle
  obtain ⟨t₁,t₂,⟨sought,a₁⟩,rfl,hseek,hlast⟩ := Prog.runs_bind.mp h
  obtain ⟨rfl,hres⟩ := hlast
  refine ⟨UInt64.not_lt.mp hle,?_⟩
  unfold StreamedArtifact.seek at hseek
  split at hseek
  · obtain ⟨rfl,hpair⟩ := hseek
    obtain ⟨rfl,rfl⟩ := Prod.mk.inj hpair
    simp at hres
  obtain ⟨t₃,t₄,st,rfl,hseekg,rfl,hpair⟩ := Prog.runs_bind.mp hseek
  obtain ⟨rfl,rfl⟩ := Prod.mk.inj hpair
  obtain ⟨ok,t₅,rfl,hok⟩ := hseekg
  cases ok with
  | false =>
    obtain ⟨rfl,rfl⟩ := hok
    simp [IfStream.good,IfStream.clear] at hres
  | true =>
    obtain ⟨rfl,rfl⟩ := hok
    simp only [IfStream.good,IfStream.clear,Bool.not_false,Bool.and_self,if_true,
      Option.some.injEq] at hres
    exact hres.symm

/-- When the thread is done with the file by itself, the archive was sent in full or
the connection torn down exactly if a read failed, or the file ended where it was
measured to. -/
theorem transfer_complete_or_closed_iff (flow : Bool) (fuel : Nat) (a a' : StreamedArtifact)
    (startOffset : UInt64) (t₀ t : List PatchEvent)
    (hstart : (startPatchTransfer (some a) startOffset).Runs t₀ (some a'))
    (hthread : (transferThread flow fuel a').Runs t .done) :
    payloadTotal t = a.m_size.toNat-startOffset.toNat ∨ closerCalled t = true ↔
      (∃ o ∈ readsOf t, o.2 = .error) ∨
        ((readsOf t).map (·.1.length)).sum = a.m_size.toNat-startOffset.toNat := by
  obtain ⟨-,rfl⟩ := startPatchTransfer_runs_some hstart
  have hstreamed := streamChunks_runs (by simp) hthread
  rw [hstreamed.conserved,hstreamed.closes_iff rfl]
  simp only [Bool.false_eq_true,false_or]
  exact or_comm

def fileRead (content : Bytes) (pos capacity : Nat) : ReadOutcome capacity where
  bytes := (content.drop pos).take capacity
  ended := if capacity ≤ (content.drop pos).length then .full else .endOfFile
  fits := List.length_take_le _ _
  full_length h := by
    rw [List.length_take]
    split at h
    · omega
    · contradiction

/-- A file system and a transport, with the answers of the transport to the question
whether it can take more. The state counts these questions. -/
def fileEnv (content : Bytes) (writable : Nat → Bool) : Env PatchCall PatchReply Nat
  | .isRegularFile _, k | .openAtEnd _, k | .seekg _, k => (true,k)
  | .tellg, k => (Int64.ofNat content.length,k)
  | .read pos capacity, k => (fileRead content pos capacity,k)
  | .awaitWritable _, k => (writable k,k+1)
  | .sender _, k | .closer, k => ((),k)

def sampleArtifact : StreamedArtifact := ⟨⟨0,false,false,false⟩,5,[]⟩

theorem transfer_complete_or_closed_iff_sample :
    let a := { sampleArtifact with m_stream := ⟨2,false,false,false⟩ }
    let t₀ := ((startPatchTransfer (some sampleArtifact) 2).exec
      (fileEnv [1,2,3,4,5] fun _ => true) 0).calls
    let t := ((transferThread true 9 a).exec (fileEnv [1,2,3,4,5] fun _ => true) 0).calls
    (startPatchTransfer (some sampleArtifact) 2).Runs t₀ (some a) ∧
      (transferThread true 9 a).Runs t .done ∧
      (payloadTotal t = 5-2 ∨ closerCalled t = true) := by
  intro a t₀ t
  have hstart : (startPatchTransfer (some sampleArtifact) 2).Runs t₀ (some a) :=
    Prog.exec_runs (fileEnv [1,2,3,4,5] fun _ => true) _ 0
  have hthread : (transferThread true 9 a).Runs t .done :=
    Prog.exec_runs (fileEnv [1,2,3,4,5] fun _ => true) (transferThread true 9 a) 0
  refine ⟨hstart,hthread,?_⟩
  exact (transfer_complete_or_closed_iff true 9 sampleArtifact a 2 t₀ t hstart hthread).mpr
    (.inr (by decide +kernel))

/-- An archive that was cut to three of its five bytes after it was measured: the
thread is done, has sent three bytes, and leaves the connection open. -/
theorem truncated_archive_left_open :
    let start := (startPatchTransfer (some sampleArtifact) 0).exec
      (fileEnv [1,2,3] fun _ => true) 0
    let out := (transferThread true 9 sampleArtifact).exec (fileEnv [1,2,3] fun _ => true) 0
    start.value = some sampleArtifact ∧ out.value = .done ∧
      ¬ (payloadTotal out.calls = 5-0 ∨ closerCalled out.calls = true) := by
  decide +kernel

/-- A patch archive on disk: never empty, and its length is a file position. -/
structure PatchFile where
  content : Bytes
  nonempty : content ≠ []
  length_lt : content.length < 2^63

section
variable {content : Bytes} {writable : Nat → Bool} {st : IfStream} {k : Nat}

structure IfStream.On (st : IfStream) (content : Bytes) : Prop where
  badbit : st.badbit = false
  rest : st.good = true ∨ st.failbit = true ∧ content.length ≤ st.pos

theorem IfStream.took_on (st : IfStream) (content : Bytes) (capacity : Nat) :
    (st.took (fileRead content st.pos capacity)).On content := by
  refine ⟨?_,?_⟩
  · simp only [IfStream.took,fileRead]
    split <;> rfl
  · simp only [IfStream.took,fileRead,IfStream.good]
    split
    · exact .inl rfl
    · rename_i hshort
      rw [List.length_drop] at hshort
      refine .inr ⟨rfl,?_⟩
      rw [List.length_take,List.length_drop]
      omega

theorem IfStream.took_good {capacity : Nat}
    (h : (st.took (fileRead content st.pos capacity)).good = true) :
    capacity ≤ content.length-st.pos := by
  by_contra hshort
  have hended : (fileRead content st.pos capacity).ended = .endOfFile := by
    simp only [fileRead,List.length_drop]
    exact if_neg hshort
  simp [took,good,hended] at h

theorem IfStream.good_fail (h : st.good = true) : st.fail = false := by
  simp only [IfStream.good,Bool.and_eq_true,Bool.not_eq_true'] at h
  simp [IfStream.fail,h]

theorem fileRead_rest (content : Bytes) (pos capacity : Nat) :
    content.drop pos = (fileRead content pos capacity).bytes ++
      content.drop (pos+(fileRead content pos capacity).bytes.length) := by
  simp only [fileRead,List.length_take,List.length_drop,← List.drop_drop]
  by_cases h : capacity ≤ content.length-pos
  · rw [Nat.min_eq_left h,List.take_append_drop]
  · have hall : (content.drop pos).length ≤ capacity := by
      rw [List.length_drop]
      omega
    rw [Nat.min_eq_right (by omega),List.take_of_length_le hall,← List.length_drop,
      List.drop_length,List.append_nil]

/-- A read brings what follows the position, also where it finds the stream failed, and
only a full read leaves the stream good. -/
theorem IfStream.read_file (writable : Nat → Bool) (k : Nat) {st : IfStream}
    (h : st.On content) (capacity : Nat) :
    ∃ st' calls, (st.read capacity).exec (fileEnv content writable) k =
        ⟨((content.drop st.pos).take capacity,st'),calls,k⟩ ∧ st'.On content ∧
      st'.pos = st.pos+((content.drop st.pos).take capacity).length ∧
      (st'.good = true → capacity ≤ content.length-st.pos) := by
  rcases h.rest with hgood | ⟨hfail,hend⟩
  · simp only [read,hgood]
    exact ⟨_,_,rfl,st.took_on content capacity,rfl,IfStream.took_good⟩
  · have hbad : st.good = false := by simp [good,hfail]
    have hnil : content.drop st.pos = [] := List.drop_eq_nil_of_le hend
    simp only [read,hbad,hnil,List.take_nil]
    refine ⟨_,_,rfl,⟨h.badbit,.inr ⟨rfl,hend⟩⟩,rfl,?_⟩
    intro hgood'
    simp [good] at hgood'

theorem digestLoop_file (writable : Nat → Bool) (k fuel : Nat) (message : Bytes)
    {st : IfStream} (h : st.On content) (hpos : 1 ≤ fuel)
    (hfuel : st.good = true → content.length-st.pos+2 ≤ fuel) :
    ∃ st' calls, (digestLoop fuel st message).exec (fileEnv content writable) k =
      ⟨some (message ++ content.drop st.pos,st'),calls,k⟩ ∧ st'.badbit = false := by
  induction fuel generalizing st message with
  | zero => omega
  | succ fuel ih =>
    rcases h.rest with hgood | ⟨hfail,hend⟩
    · have hrem := hfuel hgood
      obtain ⟨st',calls,hread,hon,hat,hfull⟩ := IfStream.read_file writable k h digestChunkSize
      have hrest : content.drop st.pos =
          (content.drop st.pos).take digestChunkSize ++ content.drop st'.pos := by
        rw [hat]
        exact fileRead_rest content st.pos digestChunkSize
      have hshrinks : st'.good = true → content.length-st'.pos+2 ≤ fuel := by
        intro hgood'
        have hchunk := hfull hgood'
        rw [hat,List.length_take,List.length_drop]
        simp only [digestChunkSize] at hchunk ⊢
        omega
      obtain ⟨st'',calls',hloop,hb⟩ :=
        ih (message ++ (content.drop st.pos).take digestChunkSize) hon (by omega) hshrinks
      refine ⟨st'',calls ++ calls',?_,hb⟩
      rw [hrest,← List.append_assoc]
      simp only [digestLoop,IfStream.good_fail hgood,Bool.false_eq_true,if_false,Prog.exec_bind,
        hread,hloop]
    · have hf : st.fail = true := by simp [IfStream.fail,hfail]
      refine ⟨st,[],?_,h.badbit⟩
      simp only [digestLoop,hf,if_true,Prog.exec_ret,List.drop_eq_nil_of_le hend,
        List.append_nil]

theorem seekg_file (offset : Nat) (hok : st.fail = false) :
    (st.seekg offset).exec (fileEnv content writable) k =
      ⟨⟨offset,false,st.failbit,st.badbit⟩,[⟨.seekg offset,true⟩],k⟩ := by
  have hok' : ({ st with eofbit := false } : IfStream).fail = false := hok
  simp only [IfStream.seekg,hok']
  rfl

theorem openArtifact_file (md5 : Bytes → Bytes) (file : PatchFile) (path : Bytes) {fuel : Nat}
    (hfuel : file.content.length+2 ≤ fuel) :
    ((openArtifact md5 fuel path).exec (fileEnv file.content writable) k).value =
      some ⟨⟨0,false,false,false⟩,UInt64.ofNat file.content.length,md5 file.content⟩ := by
  have hlen := file.length_lt
  have hpos := List.length_pos_iff.mpr file.nonempty
  have hnat : (Int64.ofNat file.content.length).toNatClampNeg = file.content.length :=
    Int64.toNatClampNeg_ofNat_of_lt hlen
  have hle : ¬ Int64.ofNat file.content.length ≤ 0 := by
    rw [Int64.le_iff_toInt_le,Int64.toInt_ofNat_of_lt hlen,Int64.toInt_zero]
    omega
  have hon : (⟨0,false,false,false⟩ : IfStream).On file.content := ⟨rfl,.inl rfl⟩
  obtain ⟨st',calls,hloop,hb⟩ := digestLoop_file writable k fuel [] hon (by omega)
    (fun _ => by simpa using hfuel)
  have hstart : (IfStream.seekg ⟨file.content.length,false,false,false⟩ 0).exec
      (fileEnv file.content writable) k = ⟨⟨0,false,false,false⟩,[⟨.seekg 0,true⟩],k⟩ :=
    seekg_file 0 rfl
  have hback : (st'.clear.seekg 0).exec (fileEnv file.content writable) k =
      ⟨⟨0,false,false,false⟩,[⟨.seekg 0,true⟩],k⟩ := seekg_file 0 rfl
  simp only [openArtifact,Prog.exec_bind,call,Prog.exec,fileEnv,hnat,hle,hstart,hloop,hb,hback,
    IfStream.good,Prog.pure_eq,Bool.not_true,Bool.not_false,Bool.and_self,
    Bool.false_eq_true,if_false,List.nil_append,List.drop_zero]

theorem StreamedArtifact.seek_file (a : StreamedArtifact) (offset : UInt64) :
    ((a.seek offset).exec (fileEnv content writable) k).value =
      if offset ≤ a.m_size ∧ offset.toNat ≤ 2^63-1 then
        (true,{ a with m_stream := ⟨offset.toNat,false,false,false⟩ })
      else (false,a) := by
  by_cases hin : offset ≤ a.m_size ∧ offset.toNat ≤ 2^63-1
  · have hout : ¬ (offset > a.m_size ∨ offset.toNat > 2^63-1) := by
      rw [not_or]
      exact ⟨UInt64.not_lt.mpr hin.1,Nat.not_lt.mpr hin.2⟩
    have hsought : (a.m_stream.clear.seekg offset.toNat).exec (fileEnv content writable) k =
        ⟨⟨offset.toNat,false,false,false⟩,[⟨.seekg offset.toNat,true⟩],k⟩ :=
      seekg_file _ rfl
    simp only [seek,if_neg hout,if_pos hin,Prog.exec_bind,hsought,Prog.pure_eq,Prog.exec_ret,
      IfStream.good,Bool.not_false,Bool.and_self]
  · have hout : offset > a.m_size ∨ offset.toNat > 2^63-1 := by
      rcases not_and_or.mp hin with hsize | hfits
      · exact .inl (UInt64.not_le.mp hsize)
      · exact .inr (Nat.not_le.mp hfits)
    simp only [seek,if_pos hout,if_neg hin,Prog.pure_eq,Prog.exec_ret]

theorem startPatchTransfer_file (a : StreamedArtifact) (offset : UInt64)
    (hsize : a.m_size.toNat < 2^63) :
    ((startPatchTransfer (some a) offset).exec (fileEnv content writable) k).value =
      if offset ≤ a.m_size then some { a with m_stream := ⟨offset.toNat,false,false,false⟩ }
      else none := by
  by_cases hle : offset ≤ a.m_size
  · have hnat := UInt64.le_iff_toNat_le.mp hle
    have hin : offset ≤ a.m_size ∧ offset.toNat ≤ 2^63-1 := ⟨hle,by omega⟩
    have hsought : ((a.seek offset).exec (fileEnv content writable) k).value = _ :=
      a.seek_file offset
    rw [if_pos hin] at hsought
    simp only [startPatchTransfer,if_neg (UInt64.not_lt.mpr hle),Prog.exec_bind,hsought,
      Prog.pure_eq,Prog.exec_ret,if_true,if_pos hle]
  · have hgt : offset > a.m_size := UInt64.not_le.mp hle
    simp only [startPatchTransfer,if_pos hgt,if_neg hle,Prog.exec_ret]

def ReadsFile (content : Bytes) (t : List PatchEvent) : Prop :=
  ∀ pos capacity o, (⟨.read pos capacity,o⟩ : PatchEvent) ∈ t → o = fileRead content pos capacity

theorem exec_readsFile {α : Type} (p : PatchProg α) :
    ReadsFile content (p.exec (fileEnv content writable) k).calls := by
  intro pos capacity o hmem
  obtain ⟨w,-,hw⟩ := Prog.exec_answered _ p k hmem
  exact hw.symm

variable {flow : Bool} {n : Nat} {t : List PatchEvent} {r : TransferEnd}

/-- What a loop over a file that keeps its content has sent: whole chunks of it, and
all of it when the loop is done. -/
structure Delivers (flow : Bool) (content : Bytes) (pos n : Nat) (t : List PatchEvent)
    (r : TransferEnd) (payloads : List Bytes) : Prop where
  frames : framesOf t = payloads.map dataFrame
  sizes : ∀ p ∈ payloads, 1 ≤ p.length ∧ p.length ≤ kChunkSize
  prefixed : payloads.flatten <+: content.drop pos
  open_ : closerCalled t = false
  done : r = .done → payloads.flatten = content.drop pos
  running : r = .running → n ≤ payloads.length
  gone : r = .gone → flow = true ∧ ⟨.awaitWritable kMaxOutstandingBytes,false⟩ ∈ t

theorem ReadsChunk.on_file {st' : IfStream} {got : Bytes} (h : ReadsChunk st t got st')
    (hfile : ReadsFile content t) (hst : st.On content) :
    st'.On content ∧ content.drop st.pos = got ++ content.drop st'.pos ∧
      (got = [] → content.drop st.pos = []) := by
  cases h with
  | file hgood o =>
    obtain rfl := hfile st.pos kChunkSize o (by simp)
    refine ⟨st.took_on content _,fileRead_rest content st.pos kChunkSize,?_⟩
    intro hnil
    rcases List.take_eq_nil_iff.mp hnil with hzero | hempty
    · contradiction
    · exact hempty
  | failed hbad =>
    rcases hst.rest with hgood | ⟨-,hend⟩
    · simp [hgood] at hbad
    · exact ⟨⟨hst.badbit,.inr ⟨rfl,hend⟩⟩,rfl,fun _ => List.drop_eq_nil_of_le hend⟩

theorem Streamed.delivers (h : Streamed flow n st t r) (hfile : ReadsFile content t)
    (hst : st.On content) : ∃ payloads, Delivers flow content st.pos n t r payloads := by
  induction h with
  | running st =>
    exact ⟨[],rfl,by simp,List.nil_prefix,rfl,nofun,fun _ => Nat.le_refl 0,nofun⟩
  | gone hflow =>
    exact ⟨[],rfl,by simp,List.nil_prefix,rfl,nofun,nofun,fun _ => ⟨hflow,by simp⟩⟩
  | @done n st st' t hread =>
    have hreads : ReadsFile content t := fun pos capacity o hmem =>
      hfile pos capacity o (by simp [hmem])
    obtain ⟨hst',-,hempty⟩ := hread.on_file hreads hst
    obtain ⟨hframes,-,hcloses⟩ := hread.done_pass flow
    have hopen := hcloses.trans hst'.badbit
    exact ⟨[],hframes,by simp,List.nil_prefix,hopen,fun _ => (hempty rfl).symm,nofun,nofun⟩
  | @sent n st st' t t' got r hread hne hrest ih =>
    have hreads : ReadsFile content t := fun pos capacity o hmem =>
      hfile pos capacity o (by simp [hmem])
    have hrests : ReadsFile content t' := fun pos capacity o hmem =>
      hfile pos capacity o (by simp [hmem])
    obtain ⟨hst',hdrop,-⟩ := hread.on_file hreads hst
    obtain ⟨hframes,-,hcloses⟩ := hread.sent_pass flow t'
    obtain ⟨payloads,hd⟩ := ih hrests hst'
    refine ⟨got :: payloads,?_,?_,?_,hcloses.trans hd.open_,?_,?_,?_⟩
    · rw [hframes,hd.frames,List.map_cons]
    · intro p hp
      rcases List.mem_cons.mp hp with rfl | hp
      · exact ⟨List.length_pos_iff.mpr hne,hread.length_le⟩
      · exact hd.sizes p hp
    · rw [List.flatten_cons,hdrop]
      exact List.prefix_append_right_inj got |>.mpr hd.prefixed
    · intro hr
      rw [List.flatten_cons,hdrop,hd.done hr]
    · intro hr
      have hle := hd.running hr
      simp only [List.length_cons]
      omega
    · intro hr
      obtain ⟨hflow,hmem⟩ := hd.gone hr
      exact ⟨hflow,by simp [hmem]⟩

theorem Delivers.not_running {pos : Nat} {payloads : List Bytes}
    (h : Delivers flow content pos n t r payloads) (hn : content.length < n) : r ≠ .running := by
  intro hr
  have hle := h.running hr
  have hcount : payloads.length ≤ payloads.flatten.length := by
    have hsizes := h.sizes
    clear h hle
    induction payloads with
    | nil => exact Nat.le_refl 0
    | cons p ps ih =>
      have hp := (hsizes p (by simp)).1
      have hps := ih fun q hq => hsizes q (by simp [hq])
      simp only [List.flatten_cons,List.length_cons,List.length_append]
      omega
  have hlen := h.prefixed.length_le
  rw [List.length_drop] at hlen
  omega

def IsDataFrame (frame payload : Bytes) : Prop :=
  ∃ lo hi : UInt8, frame = [0x31,lo,hi] ++ payload ∧ payload.length = lo.toNat+256*hi.toNat ∧
    1 ≤ payload.length ∧ payload.length ≤ 4096

theorem isDataFrame_dataFrame {payload : Bytes} (hpos : 1 ≤ payload.length)
    (hle : payload.length ≤ kChunkSize) : IsDataFrame (dataFrame payload) payload := by
  simp only [kChunkSize] at hle
  refine ⟨UInt8.ofNat payload.length,UInt8.ofNat (payload.length/256),rfl,?_,hpos,hle⟩
  simp only [UInt8.toNat_ofNat']
  omega

theorem Delivers.isDataFrame {pos : Nat} {payloads : List Bytes}
    (h : Delivers flow content pos n t r payloads) :
    List.Forall₂ IsDataFrame (framesOf t) payloads := by
  rw [h.frames,List.forall₂_map_left_iff,List.forall₂_same]
  exact fun p hp => isDataFrame_dataFrame (h.sizes p hp).1 (h.sizes p hp).2

theorem transferThread_file (writable : Nat → Bool) (k : Nat) (flow : Bool) (fuel : Nat)
    (a : StreamedArtifact) (hst : a.m_stream.On content)
    (hfuel : content.length < fuel) :
    let out := (transferThread flow fuel a).exec (fileEnv content writable) k
    ∃ payloads, Delivers flow content a.m_stream.pos fuel out.calls out.value payloads ∧
      out.value ≠ .running ∧
      ((flow = true → ∀ j, writable j = true) → out.value = .done) := by
  intro out
  have hruns : (transferThread flow fuel a).Runs out.calls out.value := Prog.exec_runs _ _ _
  obtain ⟨payloads,hd⟩ := (streamChunks_runs (by simp) hruns).delivers (exec_readsFile _) hst
  have hended := hd.not_running hfuel
  refine ⟨payloads,hd,hended,?_⟩
  intro hwritable
  cases hv : out.value with
  | running => exact absurd hv hended
  | done => rfl
  | gone =>
    obtain ⟨hflow,hmem⟩ := hd.gone hv
    obtain ⟨j,-,hj⟩ := Prog.exec_answered _ _ _ hmem
    have hfalse : writable j = false := hj
    rw [hwritable hflow j] at hfalse
    contradiction

end

/-- An archive that keeps its content is measured and digested in full at open, can be
sent from every offset inside it and from no other, and arrives: the frames of a
transfer carry the rest of the file, or the part of it sent before the connection was
gone, and complete what the client holds to the archive that was advertised. -/
theorem patch_reassembles (md5 : Bytes → Bytes) (file : PatchFile) (path : Bytes)
    (writable : Nat → Bool) (k : Nat) (flow : Bool) (startOffset : UInt64) (fuel : Nat)
    (hfuel : file.content.length+2 ≤ fuel) :
    ∃ a, ((openArtifact md5 fuel path).exec (fileEnv file.content writable) k).value = some a ∧
      a.m_size.toNat = file.content.length ∧ a.m_digest = md5 file.content ∧
      let start := (startPatchTransfer (some a) startOffset).exec
        (fileEnv file.content writable) k
      (start.value.isSome = true ↔ startOffset.toNat ≤ file.content.length) ∧
      ∀ a', start.value = some a' →
        let out := (transferThread flow fuel a').exec (fileEnv file.content writable) start.env
        ∃ payloads, List.Forall₂ IsDataFrame (framesOf out.calls) payloads ∧
          closerCalled out.calls = false ∧ out.value ≠ .running ∧
          ((flow = true → ∀ j, writable j = true) → out.value = .done) ∧
          (out.value = .done →
            payloads.flatten = file.content.drop startOffset.toNat ∧
            (file.content.take startOffset.toNat ++ payloads.flatten).length = a.m_size.toNat ∧
            md5 (file.content.take startOffset.toNat ++ payloads.flatten) = a.m_digest) ∧
          (out.value = .gone → payloads.flatten <+: file.content.drop startOffset.toNat) := by
  have hlen := file.length_lt
  have hsize : (UInt64.ofNat file.content.length).toNat = file.content.length :=
    UInt64.toNat_ofNat_of_lt' (Nat.lt_trans hlen (by decide))
  refine ⟨_,openArtifact_file md5 file path hfuel,hsize,rfl,?_⟩
  intro start
  have hvalue : start.value = _ := startPatchTransfer_file _ startOffset (by rw [hsize]; exact hlen)
  rw [hvalue]
  have hle : startOffset ≤ UInt64.ofNat file.content.length ↔
      startOffset.toNat ≤ file.content.length := by
    rw [UInt64.le_iff_toNat_le,hsize]
  refine ⟨by rw [← hle]; split <;> simp_all,?_⟩
  intro a' ha'
  split at ha'
  case isFalse => contradiction
  obtain rfl := Option.some.inj ha'
  intro out
  have hon : (⟨startOffset.toNat,false,false,false⟩ : IfStream).On file.content :=
    ⟨rfl,.inl rfl⟩
  obtain ⟨payloads,hd,hended,hdone⟩ := transferThread_file writable start.env flow fuel
    ⟨_,UInt64.ofNat file.content.length,md5 file.content⟩ hon (by omega)
  refine ⟨payloads,hd.isDataFrame,hd.open_,hended,hdone,?_,fun _ => hd.prefixed⟩
  intro hv
  rw [hd.done hv,List.take_append_drop]
  exact ⟨rfl,hsize.symm,rfl⟩

def sampleFile : PatchFile := ⟨[1,2,3,4,5],by decide,by decide⟩

/-- The MD5 of the sample file; no other message is digested with it. -/
def sampleMd5 (_ : Bytes) : Bytes :=
  [0x7C,0xFD,0xD0,0x78,0x89,0xB3,0x29,0x5D,0x6A,0x55,0x09,0x14,0xAB,0x35,0xE0,0x68]

theorem patch_reassembles_sample :
    ∃ a, ((openArtifact sampleMd5 7 []).exec (fileEnv sampleFile.content fun _ => true) 0).value =
        some a ∧ a.m_size.toNat = 5 ∧
      let start := (startPatchTransfer (some a) 2).exec
        (fileEnv sampleFile.content fun _ => true) 0
      ∃ a', start.value = some a' ∧
        ((transferThread true 7 a').exec (fileEnv sampleFile.content fun _ => true)
          start.env).value = .done := by
  obtain ⟨a,hopen,hsize,-,hstart,hthread⟩ :=
    patch_reassembles sampleMd5 sampleFile [] (fun _ => true) 0 true 2 7 (by decide)
  obtain ⟨a',ha'⟩ := Option.isSome_iff_exists.mp (hstart.mpr (by decide))
  obtain ⟨payloads,-,-,-,hdone,-⟩ := hthread a' ha'
  exact ⟨a,hopen,hsize,a',ha',hdone fun _ _ => rfl⟩

end Realmd
