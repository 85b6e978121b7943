import Realmd.ByteCodec
set_option autoImplicit false

namespace ByteCodec

def isDigit (c : UInt8) : Bool := 48 ≤ c && c ≤ 57

def readDecimal (bs : Bytes) : Nat := bs.foldl (fun n c => 10*n+(c.toNat-48)) 0

theorem isDigit_iff (c : UInt8) : isDigit c = true ↔ 48 ≤ c.toNat ∧ c.toNat ≤ 57 := by
  simp [isDigit,UInt8.le_iff_toNat_le]

@[simp] theorem readDecimal_nil : readDecimal [] = 0 := rfl

@[simp] theorem readDecimal_snoc (bs : Bytes) (c : UInt8) :
    readDecimal (bs ++ [c]) = 10*readDecimal bs+(c.toNat-48) := by
  simp [readDecimal]

theorem decimal_small {n : Nat} (h : n < 10) : decimal n = [UInt8.ofNat (48+n)] := by
  unfold decimal
  split
  · rename_i hz
    subst hz
    rfl
  · rename_i hz
    rw [Nat.digits_of_lt 10 n hz h]
    rfl

theorem decimal_step {n : Nat} (h : 10 ≤ n) :
    decimal n = decimal (n/10) ++ [UInt8.ofNat (48+n%10)] := by
  unfold decimal
  rw [if_neg (by omega),if_neg (by omega),Nat.digits_def' (by decide) (by omega),
    List.reverse_cons,List.map_append]
  rfl

/-- Every induction over the decimal digits of a number. -/
theorem decimal_induction {P : Nat → Bytes → Prop}
    (hsmall : ∀ n, n < 10 → P n [UInt8.ofNat (48+n)])
    (hstep : ∀ n bs d, 1 ≤ n → d < 10 → P n bs → P (10*n+d) (bs ++ [UInt8.ofNat (48+d)]))
    (n : Nat) : P n (decimal n) := by
  induction n using Nat.strong_induction_on with
  | _ n ih =>
    by_cases h : n < 10
    · rw [decimal_small h]
      exact hsmall n h
    · have hprev := hstep (n/10) _ (n%10) (by omega) (by omega) (ih (n/10) (by omega))
      rw [decimal_step (by omega)]
      rwa [show 10*(n/10)+n%10 = n by omega] at hprev

theorem toNat_digit {d : Nat} (h : d < 10) : (UInt8.ofNat (48+d)).toNat = 48+d := by
  rw [UInt8.toNat_ofNat']
  omega

theorem readDecimal_decimal (n : Nat) : readDecimal (decimal n) = n := by
  refine decimal_induction (P := fun n bs => readDecimal bs = n) ?_ ?_ n
  · intro n h
    have hd := toNat_digit h
    simp only [readDecimal,List.foldl_cons,List.foldl_nil,hd]
    omega
  · intro n bs d _ h ih
    rw [readDecimal_snoc,ih,toNat_digit h]
    omega

theorem decimal_injective {m n : Nat} (h : decimal m = decimal n) : m = n := by
  rw [← readDecimal_decimal m,h,readDecimal_decimal]

theorem isDigit_decimal (n : Nat) : ∀ c ∈ decimal n, isDigit c = true := by
  refine decimal_induction (P := fun _ bs => ∀ c ∈ bs, isDigit c = true) ?_ ?_ n
  · intro n h c hc
    rw [List.mem_singleton.mp hc,isDigit_iff,toNat_digit h]
    omega
  · intro n bs d _ h ih c hc
    rcases List.mem_append.mp hc with hc | hc
    · exact ih c hc
    · rw [List.mem_singleton.mp hc,isDigit_iff,toNat_digit h]
      omega

theorem decimal_ne_nil (n : Nat) : decimal n ≠ [] := by
  refine decimal_induction (P := fun _ bs => bs ≠ []) ?_ ?_ n
  · simp
  · simp

theorem decimal_head (n : Nat) : byteAt (decimal n) 0 = 48 ↔ n = 0 := by
  have hhead : decimal n ≠ [] ∧ (byteAt (decimal n) 0 = 48 ↔ n = 0) := by
    refine decimal_induction (P := fun n bs => bs ≠ [] ∧ (byteAt bs 0 = 48 ↔ n = 0)) ?_ ?_ n
    · intro n h
      refine ⟨by simp,?_⟩
      rw [← UInt8.toNat_inj]
      change (UInt8.ofNat (48+n)).toNat = 48 ↔ _
      rw [toNat_digit h]
      omega
    · rintro n bs d hn h ⟨hne,ih⟩
      refine ⟨by simp,?_⟩
      rw [byteAt_append _ (List.length_pos_iff.mpr hne),ih]
      omega
  exact hhead.2

end ByteCodec
