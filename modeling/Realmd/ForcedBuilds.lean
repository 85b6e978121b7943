import Realmd.ClientPolicy
import Realmd.Decimal
import Realmd.Words
set_option autoImplicit false

namespace Realmd
open ByteCodec Words

inductive Errc where
  | ok | invalid_argument | result_out_of_range
  deriving DecidableEq, Repr

structure FromChars where
  ptr : Nat
  ec : Errc
  value : Nat
  deriving DecidableEq, Repr

/-- `from_chars` to 32 bits and the base ten: digits only, no blanks and no sign. -/
def fromChars (text : Bytes) (value : Nat) : FromChars :=
  let digits := text.takeWhile isDigit
  if digits = [] then ⟨0,.invalid_argument,value⟩
  else if readDecimal digits ≥ 2^32 then ⟨digits.length,.result_out_of_range,value⟩
  else ⟨digits.length,.ok,readDecimal digits⟩

def PatchPolicy.parseTokens (policy : PatchPolicy) (tokens : Bytes) : Option PatchPolicy :=
  match _h : next isSpace tokens with
  | none => some policy
  | some (token,tokens') =>
      let parsed := fromChars token 0
      if parsed.ec ≠ .ok ∨ parsed.ptr ≠ token.length ∨ parsed.value = 0 ∨
          parsed.value > 65535 then none
      else
        { policy with
          forcedBuilds := policy.forcedBuilds.insert (UInt16.ofNat parsed.value)
        }.parseTokens tokens'
termination_by tokens.length
decreasing_by exact next_shorter _h

def PatchPolicy.parse (enabled : Bool) (forcedBuilds : Bytes) : Option PatchPolicy :=
  PatchPolicy.parseTokens ⟨enabled,[]⟩ forcedBuilds

/-- A token that names a build: digits for a number of 16 bits that is not zero. -/
structure BuildToken (token : Bytes) : Prop where
  nonempty : token ≠ []
  digits : ∀ c ∈ token, isDigit c = true
  pos : 1 ≤ readDecimal token
  small : readDecimal token ≤ 65535

instance (token : Bytes) : Decidable (BuildToken token) :=
  decidable_of_iff (token ≠ [] ∧ token.all isDigit = true ∧ 1 ≤ readDecimal token ∧
      readDecimal token ≤ 65535)
    ⟨fun ⟨hne,hdigits,hpos,hsmall⟩ => ⟨hne,List.all_eq_true.mp hdigits,hpos,hsmall⟩,
      fun h => ⟨h.nonempty,List.all_eq_true.mpr h.digits,h.pos,h.small⟩⟩

theorem fromChars_digits {token : Bytes} {value : Nat} (hne : token ≠ [])
    (hdigits : ∀ c ∈ token, isDigit c = true) (hrange : readDecimal token < 2^32) :
    fromChars token value = ⟨token.length,.ok,readDecimal token⟩ := by
  have hall : token.takeWhile isDigit = token := List.takeWhile_eq_self_iff.mpr hdigits
  simp only [fromChars,hall]
  rw [if_neg hne,if_neg (by omega)]

theorem fromChars_full {token : Bytes} {value : Nat} (hec : (fromChars token value).ec = .ok)
    (hptr : (fromChars token value).ptr = token.length) :
    token ≠ [] ∧ (∀ c ∈ token, isDigit c = true) ∧
      (fromChars token value).value = readDecimal token := by
  simp only [fromChars] at hec hptr ⊢
  split at hec
  · cases hec
  rename_i hdigits
  split at hec
  · cases hec
  rename_i hrange
  simp only [if_neg hdigits,if_neg hrange] at hptr ⊢
  have hall : token.takeWhile isDigit = token :=
    (List.takeWhile_prefix isDigit).eq_of_length hptr
  rw [hall] at hdigits ⊢
  exact ⟨hdigits,List.takeWhile_eq_self_iff.mp hall,rfl⟩

theorem fromChars_accepts {token : Bytes} :
    ((fromChars token 0).ec = .ok ∧ (fromChars token 0).ptr = token.length ∧
      (fromChars token 0).value ≠ 0 ∧ (fromChars token 0).value ≤ 65535) ↔
      BuildToken token := by
  constructor
  · intro ⟨hec,hptr,hpos,hsmall⟩
    obtain ⟨hne,hdigits,hvalue⟩ := fromChars_full hec hptr
    rw [hvalue] at hpos hsmall
    exact ⟨hne,hdigits,by omega,hsmall⟩
  · intro ⟨hne,hdigits,hpos,hsmall⟩
    rw [fromChars_digits hne hdigits (by omega)]
    exact ⟨rfl,rfl,by simp only; omega,hsmall⟩

theorem BuildToken.fromChars_eq {token : Bytes} (h : BuildToken token) :
    fromChars token 0 = ⟨token.length,.ok,readDecimal token⟩ :=
  fromChars_digits h.nonempty h.digits (by have := h.small; omega)

namespace PatchPolicy

def force (policy : PatchPolicy) (tokens : List Bytes) : PatchPolicy :=
  { policy with
    forcedBuilds := tokens.foldl (fun builds token =>
      builds.insert (UInt16.ofNat (readDecimal token))) policy.forcedBuilds }

theorem parseTokens_spec (policy : PatchPolicy) (text : Bytes) :
    ((∀ token ∈ words isSpace text, BuildToken token) →
      policy.parseTokens text = some (policy.force (words isSpace text))) ∧
    ∀ token ∈ words isSpace text, ¬ BuildToken token → policy.parseTokens text = none := by
  fun_induction PatchPolicy.parseTokens policy text with
  | case1 policy text h => simp [words_none h,force]
  | case2 policy text token text' h parsed hbad =>
    rw [words_some h]
    have hnot : ¬ BuildToken token := by
      rw [← fromChars_accepts]
      rintro ⟨hec,hptr,hpos,hsmall⟩
      rcases hbad with hbad | hbad | hbad | hbad
      · exact hbad hec
      · exact hbad hptr
      · exact hpos hbad
      · exact absurd hsmall (by simpa [parsed] using hbad)
    exact ⟨fun hall => absurd (hall token (by simp)) hnot,fun _ _ _ => rfl⟩
  | case3 policy text token text' h parsed hgood ih =>
    rw [words_some h]
    have hbuild : BuildToken token := by
      rw [← fromChars_accepts]
      simpa [parsed] using hgood
    have hvalue : parsed.value = readDecimal token := by
      simp only [parsed,hbuild.fromChars_eq]
    constructor
    · intro hall
      rw [ih.1 fun other hother => hall other (List.mem_cons_of_mem _ hother)]
      simp [force,hvalue]
    · intro other hother hnot
      rcases List.mem_cons.mp hother with rfl | hother
      · exact absurd hbuild hnot
      · exact ih.2 other hother hnot

theorem parse_isSome_iff (enabled : Bool) (text : Bytes) :
    (parse enabled text).isSome = true ↔ ∀ token, IsWord isSpace text token → BuildToken token := by
  obtain ⟨haccept,hreject⟩ := parseTokens_spec ⟨enabled,[]⟩ text
  constructor
  · intro hsome token htoken
    by_contra hnot
    rw [parse,hreject token (mem_words_iff.mpr htoken) hnot] at hsome
    cases hsome
  · intro hall
    rw [parse,haccept fun token htoken => hall token (mem_words_iff.mp htoken)]
    rfl

theorem mem_forcedBuilds_force {policy : PatchPolicy} {tokens : List Bytes} {build : UInt16} :
    build ∈ (policy.force tokens).forcedBuilds ↔ build ∈ policy.forcedBuilds ∨
      ∃ token ∈ tokens, UInt16.ofNat (readDecimal token) = build := by
  induction tokens generalizing policy with
  | nil => simp [force]
  | cons token tokens ih =>
    have hstep : policy.force (token :: tokens) =
        force { policy with
          forcedBuilds := policy.forcedBuilds.insert (UInt16.ofNat (readDecimal token)) }
          tokens := rfl
    rw [hstep,ih]
    simp only [List.mem_insert_iff,List.exists_mem_cons_iff,eq_comm (a := build)]
    tauto

theorem parse_shouldPatch_iff {enabled : Bool} {text : Bytes} {policy : PatchPolicy}
    (h : parse enabled text = some policy) (build : UInt16) (supported : Bool) :
    policy.shouldPatch build supported = true ↔ enabled = true ∧
      (supported = false ∨
        ∃ token, IsWord isSpace text token ∧ readDecimal token = build.toNat) := by
  have hall := (parse_isSome_iff enabled text).mp (by simp [h])
  rw [parse,(parseTokens_spec ⟨enabled,[]⟩ text).1
    fun token htoken => hall token (mem_words_iff.mp htoken)] at h
  cases h
  have hmem : build ∈ (force ⟨enabled,[]⟩ (words isSpace text)).forcedBuilds ↔
      ∃ token, IsWord isSpace text token ∧ readDecimal token = build.toNat := by
    rw [mem_forcedBuilds_force]
    simp only [List.not_mem_nil,false_or,mem_words_iff]
    refine exists_congr fun token => and_congr_right fun htoken => ?_
    -- a build token fits in 16 bits
    have hsmall := (hall token htoken).small
    rw [← UInt16.toNat_inj,UInt16.toNat_ofNat',Nat.mod_eq_of_lt (by omega)]
  simp only [shouldPatch,Bool.and_eq_true,Bool.or_eq_true,Bool.not_eq_true',
    List.contains_iff_mem,hmem]
  rfl

end PatchPolicy

/-- `PatchPolicy::Parse` accepts the texts whose words are all build tokens, whatever the
flag; the policy then forces the builds the tokens spell and no others, so that it depends
on nothing but which tokens there are. -/
theorem patchPolicy_accepts_grammar (forcedBuilds : Bytes) (enabled : Bool) :
    ((PatchPolicy.parse enabled forcedBuilds).isSome = true ↔
      ∀ token, IsWord isSpace forcedBuilds token → BuildToken token) ∧
    (∀ policy, PatchPolicy.parse enabled forcedBuilds = some policy →
      ∀ (build : UInt16) (supported : Bool), policy.shouldPatch build supported = true ↔
        enabled = true ∧ (supported = false ∨
          ∃ token, IsWord isSpace forcedBuilds token ∧ readDecimal token = build.toNat)) ∧
    ∀ other, (∀ token, IsWord isSpace forcedBuilds token ↔ IsWord isSpace other token) →
      (PatchPolicy.parse enabled forcedBuilds).map PatchPolicy.shouldPatch =
        (PatchPolicy.parse enabled other).map PatchPolicy.shouldPatch := by
  refine ⟨PatchPolicy.parse_isSome_iff enabled forcedBuilds,
    fun policy h => PatchPolicy.parse_shouldPatch_iff h,?_⟩
  intro other hsame
  have hsome : (PatchPolicy.parse enabled forcedBuilds).isSome = true ↔
      (PatchPolicy.parse enabled other).isSome = true := by
    simp only [PatchPolicy.parse_isSome_iff,hsame]
  cases hp : PatchPolicy.parse enabled forcedBuilds with
  | none =>
    cases hq : PatchPolicy.parse enabled other with
    | none => rfl
    | some policy => simp [hp,hq] at hsome
  | some policy =>
    cases hq : PatchPolicy.parse enabled other with
    | none => simp [hp,hq] at hsome
    | some policy' =>
      have heq : policy.shouldPatch = policy'.shouldPatch := by
        funext build supported
        rw [Bool.eq_iff_iff,PatchPolicy.parse_shouldPatch_iff hp,
          PatchPolicy.parse_shouldPatch_iff hq]
        simp only [hsame]
      simp [heq]

end Realmd
