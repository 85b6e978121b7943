import Realmd.Session
set_option autoImplicit false

namespace Realmd
open ByteCodec Interaction

inductive ReadEnd where
  | full | endOfFile | error
  deriving DecidableEq, Repr

/-- What one read of at most `capacity` bytes brought. A read that neither met the
end of the file nor failed has filled the buffer. -/
structure ReadOutcome (capacity : Nat) where
  bytes : Bytes
  ended : ReadEnd
  fits : bytes.length ≤ capacity
  full_length : ended = .full → bytes.length = capacity
  deriving DecidableEq

/-- What opening and streaming an archive asks of the file system and of the
transport. `seekg` and `read` only stand for calls that reach the file buffer. -/
inductive PatchCall where
  | isRegularFile (path : Bytes)
  | openAtEnd (path : Bytes)
  | tellg
  | seekg (offset : Nat)
  | read (pos capacity : Nat)
  | awaitWritable (maxOutstanding : Nat)
  | sender (bytes : Bytes)
  | closer
  deriving DecidableEq, Repr

/-- A position is a signed 64-bit number, -1 when it cannot be told. -/
abbrev PatchReply : PatchCall → Type
  | .isRegularFile _ | .openAtEnd _ | .seekg _ | .awaitWritable _ => Bool
  | .tellg => Int64
  | .read _ capacity => ReadOutcome capacity
  | .sender _ | .closer => Unit

abbrev PatchProg (α : Type) := Prog PatchCall PatchReply α
abbrev askFile (c : PatchCall) : PatchProg (PatchReply c) := call c
abbrev PatchEvent := Event PatchCall PatchReply

structure IfStream where
  pos : Nat
  eofbit : Bool
  failbit : Bool
  badbit : Bool
  deriving DecidableEq, Repr

def IfStream.good (st : IfStream) : Bool := !st.eofbit && !st.failbit && !st.badbit
def IfStream.fail (st : IfStream) : Bool := st.failbit || st.badbit

def IfStream.clear (st : IfStream) : IfStream :=
  { st with eofbit := false, failbit := false, badbit := false }

/-- `istream::seekg` from the beginning: a stream that has failed does not move. -/
def IfStream.seekg (st : IfStream) (offset : Nat) : PatchProg IfStream := do
  let st := { st with eofbit := false }
  if st.fail then return st
  else if ← askFile (.seekg offset) then return { st with pos := offset }
  else return { st with failbit := true }

def IfStream.took (st : IfStream) {capacity : Nat} (o : ReadOutcome capacity) : IfStream :=
  { st with
    pos := st.pos+o.bytes.length
    eofbit := decide (o.ended = .endOfFile)
    failbit := decide (o.ended = .endOfFile)
    badbit := decide (o.ended = .error) }

/-- `istream::read` with `gcount`: a stream that is not good reads nothing. -/
def IfStream.read (st : IfStream) (capacity : Nat) : PatchProg (Bytes × IfStream) :=
  if st.good then
    .ask (.read st.pos capacity) fun o => .ret (o.bytes,st.took o)
  else .ret ([],{ st with failbit := true })

structure StreamedArtifact where
  m_stream : IfStream
  m_size : UInt64
  m_digest : Bytes
  deriving DecidableEq, Repr

def StreamedArtifact.handle (a : StreamedArtifact) (stream : Nat) : PatchArtifact :=
  ⟨stream,a.m_size,a.m_digest⟩

def digestChunkSize : Nat := 4096

/-- The loop of `Open` over the file: the message given to the digest, or nothing
when the fuel did not last. -/
def digestLoop : Nat → IfStream → Bytes → PatchProg (Option (Bytes × IfStream))
  | 0, _, _ => .ret none
  | fuel+1, st, message =>
      if st.fail then .ret (some (message,st))
      else do
        let (bytes,st) ← st.read digestChunkSize
        digestLoop fuel st (message ++ bytes)

/-- `PatchArtifact::Open`. The digest is the MD5 of the bytes given to `UpdateData`. -/
def openArtifact (md5 : Bytes → Bytes) (fuel : Nat) (path : Bytes) :
    PatchProg (Option StreamedArtifact) := do
  if !(← askFile (.isRegularFile path)) then return none
  if !(← askFile (.openAtEnd path)) then return none
  let length : Int64 ← askFile .tellg
  if length ≤ 0 then return none
  let st ← (⟨length.toNatClampNeg,false,false,false⟩ : IfStream).seekg 0
  if !st.good then return none
  match ← digestLoop fuel st [] with
  | none => return none
  | some (message,st) =>
      if st.badbit then return none
      let st ← st.clear.seekg 0
      if !st.good then return none
      return some ⟨st,UInt64.ofNat length.toNatClampNeg,md5 message⟩

def StreamedArtifact.seek (a : StreamedArtifact) (offset : UInt64) :
    PatchProg (Bool × StreamedArtifact) := do
  if offset > a.m_size ∨ offset.toNat > 2^63-1 then return (false,a)
  else
    let st ← a.m_stream.clear.seekg offset.toNat
    return (st.good,{ a with m_stream := st })

def kChunkSize : Nat := 4096
def kMaxOutstandingBytes : Nat := 256*1024

/-- `StartPatchTransfer`: the archive the background thread is started with, or
nothing when the transfer is refused. -/
def startPatchTransfer (artifact : Option StreamedArtifact) (startOffset : UInt64) :
    PatchProg (Option StreamedArtifact) :=
  match artifact with
  | none => .ret none
  | some a =>
      if startOffset > a.m_size then .ret none
      else do
        let (sought,a) ← a.seek startOffset
        return if sought then some a else none

def overwrite (buf : Bytes) (start : Nat) (bytes : Bytes) : Bytes :=
  buf.take start ++ bytes ++ buf.drop (start+bytes.length)

/-- `PatchArtifact::Read`: how many bytes were read, and what is at the destination
after that; a null destination is nothing. -/
def StreamedArtifact.read (a : StreamedArtifact) (destination : Option Bytes)
    (capacity : UInt64) : PatchProg ((Nat × Option Bytes) × StreamedArtifact) :=
  match destination with
  | none => .ret ((0,none),a)
  | some buf =>
      if capacity = 0 then .ret ((0,some buf),a)
      else do
        let bounded := min capacity.toNat (2^63-1)
        let (got,st) ← a.m_stream.read bounded
        return ((got.length,some (overwrite buf 0 got)),{ a with m_stream := st })

inductive TransferEnd where
  | running | gone | done
  deriving DecidableEq, Repr

/-- Wait until the transport has drained its backlog; without flow control there is
nothing to wait for. -/
def awaitWritable (flow : Bool) : PatchProg Bool :=
  if flow then askFile (.awaitWritable kMaxOutstandingBytes) else .ret true

def streamChunks (flow : Bool) : Nat → Bytes → StreamedArtifact → PatchProg TransferEnd
  | 0, _, _ => .ret .running
  | fuel+1, pkt, a => do
      if ← awaitWritable flow then
        let ((got,payload),a) ← a.read (some (pkt.drop 3)) (UInt64.ofNat kChunkSize)
        let pkt := pkt.take 3 ++ payload.getD []
        if got = 0 then
          if a.m_stream.badbit then
            let _ ← askFile .closer
            return .done
          else return .done
        else
          let pkt := overwrite pkt 0 ([AuthCmd.xferData.code] ++ leBytes 2 got)
          let _ ← askFile (.sender (pkt.take (3+got)))
          streamChunks flow fuel pkt a
      else return .gone

def transferThread (flow : Bool) (fuel : Nat) (a : StreamedArtifact) :
    PatchProg TransferEnd :=
  streamChunks flow fuel (List.replicate (3+kChunkSize) 0) a

def dataFrame (payload : Bytes) : Bytes :=
  [AuthCmd.xferData.code] ++ leBytes 2 payload.length ++ payload

theorem overwrite_length {buf bytes : Bytes} {start : Nat}
    (h : start+bytes.length ≤ buf.length) : (overwrite buf start bytes).length = buf.length := by
  simp only [overwrite,List.length_append,List.length_take,List.length_drop]
  omega

theorem overwrite_zero (buf bytes : Bytes) :
    overwrite buf 0 bytes = bytes ++ buf.drop bytes.length := by
  simp [overwrite]

theorem drop_overwrite {buf : Bytes} {start : Nat} (h : start ≤ buf.length) (bytes : Bytes) :
    (overwrite buf start bytes).drop start = bytes ++ buf.drop (start+bytes.length) := by
  have hstart : (buf.take start).length = start := by
    rw [List.length_take]
    omega
  rw [overwrite,List.append_assoc,List.drop_left' hstart]

theorem take_append_drop_overwrite {buf : Bytes} {start : Nat} (h : start ≤ buf.length)
    (bytes : Bytes) : buf.take start ++ (overwrite buf start bytes).drop start =
      overwrite buf start bytes := by
  rw [drop_overwrite h,overwrite,List.append_assoc]

theorem StreamedArtifact.read_chunk (a : StreamedArtifact) {pkt : Bytes} (h : 3 ≤ pkt.length) :
    a.read (some (pkt.drop 3)) (UInt64.ofNat kChunkSize) = do
      let (got,st) ← a.m_stream.read kChunkSize
      return ((got.length,some ((overwrite pkt 3 got).drop 3)),{ a with m_stream := st }) := by
  have hnonzero : ¬ UInt64.ofNat kChunkSize = 0 := by decide
  have hbounded : min (UInt64.ofNat kChunkSize).toNat (2^63-1) = kChunkSize := by decide
  simp only [read,if_neg hnonzero,hbounded,overwrite_zero,drop_overwrite h,List.drop_drop]

theorem take_overwrite {pkt got : Bytes} (h : 3+got.length ≤ pkt.length) :
    (overwrite (overwrite pkt 3 got) 0 ([AuthCmd.xferData.code] ++ leBytes 2 got.length)).take
      (3+got.length) = dataFrame got := by
  have hheader : ([AuthCmd.xferData.code] ++ leBytes 2 got.length).length = 3 := by
    simp
  have hpayload : (overwrite pkt 3 got).drop 3 = got ++ pkt.drop (3+got.length) :=
    drop_overwrite (by omega) got
  have hall : overwrite (overwrite pkt 3 got) 0
      ([AuthCmd.xferData.code] ++ leBytes 2 got.length) =
        dataFrame got ++ pkt.drop (3+got.length) := by
    rw [overwrite,hheader,Nat.zero_add,hpayload,List.take_zero,List.nil_append,dataFrame]
    simp only [List.append_assoc]
  rw [hall]
  refine List.take_left' ?_
  rw [dataFrame,List.length_append,hheader]

inductive ReadsChunk (st : IfStream) : List PatchEvent → Bytes → IfStream → Prop where
  | file (hgood : st.good = true) (o : ReadOutcome kChunkSize) :
      ReadsChunk st [⟨.read st.pos kChunkSize,o⟩] o.bytes (st.took o)
  | failed (hbad : st.good = false) : ReadsChunk st [] [] { st with failbit := true }

theorem read_runs {st st' : IfStream} {t : List PatchEvent} {got : Bytes}
    (h : (st.read kChunkSize).Runs t (got,st')) : ReadsChunk st t got st' := by
  unfold IfStream.read at h
  split at h
  · rename_i hgood
    obtain ⟨o,t',rfl,rfl,hr⟩ := h
    obtain ⟨rfl,rfl⟩ := Prod.mk.inj hr
    exact .file hgood o
  · rename_i hbad
    obtain ⟨rfl,hr⟩ := h
    obtain ⟨rfl,rfl⟩ := Prod.mk.inj hr
    exact .failed (by simpa using hbad)

theorem ReadsChunk.length_le {st st' : IfStream} {t : List PatchEvent} {got : Bytes}
    (h : ReadsChunk st t got st') : got.length ≤ kChunkSize := by
  cases h with
  | file hgood o => exact o.fits
  | failed hbad => exact Nat.zero_le _

def waited (flow : Bool) : List PatchEvent :=
  if flow then [⟨.awaitWritable kMaxOutstandingBytes,true⟩] else []

inductive Streamed (flow : Bool) :
    Nat → IfStream → List PatchEvent → TransferEnd → Prop where
  | running (st : IfStream) : Streamed flow 0 st [] .running
  | gone {n : Nat} {st : IfStream} (hflow : flow = true) :
      Streamed flow (n+1) st [⟨.awaitWritable kMaxOutstandingBytes,false⟩] .gone
  | done {n : Nat} {st st' : IfStream} {t : List PatchEvent} (hread : ReadsChunk st t [] st') :
      Streamed flow (n+1) st
        (waited flow ++ (t ++ if st'.badbit then [⟨.closer,()⟩] else [])) .done
  | sent {n : Nat} {st st' : IfStream} {t t' : List PatchEvent} {got : Bytes} {r : TransferEnd}
      (hread : ReadsChunk st t got st') (hne : got ≠ []) (hrest : Streamed flow n st' t' r) :
      Streamed flow (n+1) st
        (waited flow ++ (t ++ ⟨.sender (dataFrame got),()⟩ :: t')) r

theorem streamChunks_runs {flow : Bool} {fuel : Nat} {pkt : Bytes} {a : StreamedArtifact}
    {t : List PatchEvent} {r : TransferEnd} (hpkt : pkt.length = 3+kChunkSize)
    (h : (streamChunks flow fuel pkt a).Runs t r) : Streamed flow fuel a.m_stream t r := by
  induction fuel generalizing pkt a t with
  | zero =>
    obtain ⟨rfl,rfl⟩ := h
    exact .running _
  | succ fuel ih =>
    unfold streamChunks at h
    obtain ⟨tw,t₁,writable,rfl,hwait,hpass⟩ := Prog.runs_bind.mp h
    have hw : writable = true ∧ tw = waited flow ∨
        writable = false ∧ flow = true ∧
          tw = [⟨.awaitWritable kMaxOutstandingBytes,false⟩] := by
      cases flow with
      | false =>
        obtain ⟨rfl,rfl⟩ := hwait
        exact .inl ⟨rfl,rfl⟩
      | true =>
        obtain ⟨answer,t',rfl,rfl,rfl⟩ := hwait
        cases answer
        · exact .inr ⟨rfl,rfl,rfl⟩
        · exact .inl ⟨rfl,rfl⟩
    rcases hw with ⟨rfl,rfl⟩ | ⟨rfl,hflow,rfl⟩
    · have hheader : 3 ≤ pkt.length := by omega
      rw [if_pos rfl,a.read_chunk hheader] at hpass
      obtain ⟨tr,t₂,_,rfl,hread,hgot⟩ := Prog.runs_bind.mp hpass
      obtain ⟨tc,_,⟨got,st'⟩,rfl,hchunk,rfl,rfl⟩ := Prog.runs_bind.mp hread
      rw [List.append_nil]
      have hreads := read_runs hchunk
      have hlen := hreads.length_le
      have hfit : 3+got.length ≤ pkt.length := by omega
      simp only [Option.getD_some] at hgot
      split at hgot
      · rename_i hnil
        rw [List.length_eq_zero_iff] at hnil
        subst hnil
        have hend : t₂ = (if st'.badbit then [⟨.closer,()⟩] else []) ∧ r = .done := by
          cases hb : st'.badbit <;> rw [hb] at hgot
          · obtain ⟨rfl,rfl⟩ := hgot
            exact ⟨rfl,rfl⟩
          · obtain ⟨_,t',rfl,rfl,rfl⟩ := hgot
            exact ⟨rfl,rfl⟩
        rw [hend.1,hend.2]
        exact .done hreads
      · rename_i hne
        obtain ⟨_,t',rfl,hnext⟩ := hgot
        rw [take_append_drop_overwrite hheader] at hnext ⊢
        rw [take_overwrite hfit]
        refine .sent hreads (fun hnil => hne (by rw [hnil]; rfl)) (ih ?_ hnext)
        have hfirst : (overwrite pkt 3 got).length = pkt.length := overwrite_length hfit
        rw [overwrite_length (by simp; omega),hfirst,hpkt]
    · obtain ⟨rfl,rfl⟩ := hpass
      exact .gone hflow

def framesOf (t : List PatchEvent) : List Bytes :=
  t.filterMap fun ev =>
    match ev.call with
    | .sender bytes => some bytes
    | _ => none

def readsOf (t : List PatchEvent) : List (Bytes × ReadEnd) :=
  t.filterMap fun
    | ⟨.read _ _,o⟩ => some (o.bytes,o.ended)
    | _ => none

def closerCalled (t : List PatchEvent) : Bool :=
  t.any fun ev => decide (ev.call = .closer)

def payloadTotal (t : List PatchEvent) : Nat :=
  ((framesOf t).map fun frame => frame.length-3).sum

theorem framesOf_append (t t' : List PatchEvent) :
    framesOf (t ++ t') = framesOf t ++ framesOf t' := by
  simp [framesOf]

theorem readsOf_append (t t' : List PatchEvent) :
    readsOf (t ++ t') = readsOf t ++ readsOf t' := by
  simp [readsOf]

theorem closerCalled_append (t t' : List PatchEvent) :
    closerCalled (t ++ t') = (closerCalled t || closerCalled t') := by
  simp [closerCalled]

@[simp] theorem framesOf_waited (flow : Bool) : framesOf (waited flow) = [] := by
  cases flow <;> rfl

@[simp] theorem readsOf_waited (flow : Bool) : readsOf (waited flow) = [] := by
  cases flow <;> rfl

@[simp] theorem closerCalled_waited (flow : Bool) : closerCalled (waited flow) = false := by
  cases flow <;> rfl

end Realmd
