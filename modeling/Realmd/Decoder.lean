import Realmd.ByteCodec
set_option autoImplicit false

namespace ByteCodec

/-- A reader of some leading bytes, which leaves the others. -/
abbrev Decoder := StateT Bytes Option

namespace Decoder

def byte : Decoder UInt8
  | [] => none
  | b :: bs => some (b,bs)

def le (width : Nat) : Decoder Nat := fun bs =>
  if width ≤ bs.length then some (leNat (bs.take width),bs.drop width) else none

def cString : Decoder Bytes
  | [] => none
  | b :: bs =>
      if b = 0 then some ([],bs)
      else (cString bs).map fun (text,rest) => (b :: text,rest)

variable {α β : Type}

def times (d : Decoder α) : Nat → Decoder (List α)
  | 0 => pure []
  | n+1 => do
      let a ← d
      let as ← times d n
      return a :: as

def whole (d : Decoder α) (bs : Bytes) : Option α :=
  match d bs with
  | some (a,[]) => some a
  | _ => none

/-- The next bytes of a given number, to be read to the last. -/
def block (size : Nat) (d : Decoder α) : Decoder α := fun bs =>
  if size ≤ bs.length then (d.whole (bs.take size)).map (·,bs.drop size) else none

/-- The decoder takes exactly these bytes, whatever follows them. -/
def Reads (d : Decoder α) (bs : Bytes) (a : α) : Prop := ∀ rest, d (bs ++ rest) = some (a,rest)

variable {d : Decoder α} {f : α → Decoder β} {bs bs' : Bytes} {a : α} {b : β}

theorem Reads.pure (a : α) : Reads (Pure.pure a : Decoder α) [] a := fun _ => rfl

theorem Reads.bind (h : Reads d bs a) (hf : Reads (f a) bs' b) :
    Reads (d >>= f) (bs ++ bs') b := by
  intro rest
  have hstep : (d >>= f) (bs ++ bs' ++ rest) =
      (d (bs ++ (bs' ++ rest))).bind fun p => f p.1 p.2 := by
    rw [List.append_assoc]
    rfl
  rw [hstep,h]
  exact hf rest

theorem Reads.map (h : Reads d bs a) (g : α → β) :
    Reads (d >>= fun a => Pure.pure (g a)) bs (g a) := by
  have hbind := h.bind (f := fun a => Pure.pure (g a)) (Reads.pure (g a))
  rwa [List.append_nil] at hbind

theorem Reads.byte (b : UInt8) : Reads Decoder.byte [b] b := fun _ => rfl

theorem Reads.le {width n : Nat} (h : n < 256^width) :
    Reads (Decoder.le width) (leBytes width n) n := by
  intro rest
  have hlen : width ≤ (leBytes width n ++ rest).length := by simp
  have htake : (leBytes width n ++ rest).take width = leBytes width n :=
    List.take_left' (leBytes_length width n)
  have hdrop : (leBytes width n ++ rest).drop width = rest :=
    List.drop_left' (leBytes_length width n)
  rw [Decoder.le,if_pos hlen,htake,hdrop,leNat_leBytes,Nat.mod_eq_of_lt h]

theorem Reads.leNat {width : Nat} (h : bs.length = width) :
    Reads (Decoder.le width) bs (ByteCodec.leNat bs) := by
  have hreads := Reads.le (leNat_lt bs)
  rwa [leBytes_leNat,h] at hreads

theorem Reads.cString {text : Bytes} (h : 0 ∉ text) :
    Reads Decoder.cString (text ++ [0]) text := by
  intro rest
  induction text with
  | nil => rfl
  | cons c text ih =>
    rw [List.mem_cons,not_or] at h
    have hc : c ≠ 0 := Ne.symm h.1
    simp only [List.cons_append,Decoder.cString,if_neg hc,ih h.2]
    rfl

theorem Reads.times {chunks : List Bytes} {as : List α}
    (h : List.Forall₂ (fun chunk a => Reads d chunk a) chunks as) :
    Reads (Decoder.times d as.length) chunks.flatten as := by
  induction h with
  | nil => exact Reads.pure []
  | @cons chunk a chunks as hfirst hrest ih =>
    exact hfirst.bind (ih.map fun as => a :: as)

theorem Reads.whole (h : Reads d bs a) : Decoder.whole d bs = some a := by
  have hall := h []
  rw [List.append_nil] at hall
  rw [Decoder.whole,hall]

theorem Reads.block (h : Reads d bs a) : Reads (Decoder.block bs.length d) bs a := by
  intro rest
  have hlen : bs.length ≤ (bs ++ rest).length := by simp
  rw [Decoder.block,if_pos hlen,List.take_left,List.drop_left,h.whole]
  rfl

end Decoder

end ByteCodec
