import Realmd.ChallengeDecoding
import Realmd.Decimal
import Realmd.PatchLifecycle
set_option autoImplicit false

namespace Realmd
open ByteCodec Interaction

/-- A file of the patch directory that is named by the digits of a build, without a leading
zero, and by a locale or none. -/
def PatchPath (path : Bytes) : Prop :=
  ∃ digits locale : Bytes,
    path = ascii "./patches/" ++ digits ++ locale ++ ascii ".mpq" ∧
    digits ≠ [] ∧ (∀ c ∈ digits, isDigit c = true) ∧
    (byteAt digits 0 = 48 → digits = [48]) ∧ readDecimal digits < 65536 ∧
    (locale = [] ∨ IsLocale locale)

def ChallengeFields.patchPath (f : ChallengeFields) : Bytes :=
  ascii "./patches/" ++ decimal f.build.toNat ++ f.clientLocale.getD [] ++ ascii ".mpq"

theorem challengeFields_locale {buf locale : Bytes}
    (h : (challengeFields buf).clientLocale = some locale) : IsLocale locale := by
  simp only [challengeFields,parseClientLocaleClaim_eq] at h
  split at h
  · rename_i hl
    exact Option.some.inj h ▸ hl
  · contradiction

theorem takeWhile_isDigit_locale {locale : Bytes} (h : locale = [] ∨ IsLocale locale) :
    locale.takeWhile isDigit = [] := by
  rcases h with rfl | ⟨hl,hfirst,-⟩
  · rfl
  · match locale,hl with
    | [a,_,_,_],_ =>
      have ha : isLower a = true := hfirst
      have hno : isDigit a = false := by
        rw [← Bool.not_eq_true,isDigit_iff]
        simp only [isLower,Bool.and_eq_true,decide_eq_true_eq,UInt8.le_iff_toNat_le] at ha
        change 97 ≤ a.toNat ∧ _ at ha
        omega
      rw [List.takeWhile_cons,hno]
      rfl

theorem digits_locale_injective {m n : Nat} {locale locale' : Bytes}
    (hl : locale = [] ∨ IsLocale locale) (hl' : locale' = [] ∨ IsLocale locale')
    (h : decimal m ++ locale = decimal n ++ locale') : m = n ∧ locale = locale' := by
  have hdigits : decimal m = decimal n := by
    have htake := congrArg (List.takeWhile isDigit) h
    rwa [List.takeWhile_append_of_pos (isDigit_decimal m),
      List.takeWhile_append_of_pos (isDigit_decimal n),takeWhile_isDigit_locale hl,
      takeWhile_isDigit_locale hl',List.append_nil,List.append_nil] at htake
  rw [hdigits] at h
  exact ⟨decimal_injective hdigits,List.append_cancel_left h⟩

section
variable {buf buf' : Bytes}

theorem clientLocale_shape (buf : Bytes) :
    (challengeFields buf).clientLocale.getD [] = [] ∨
      IsLocale ((challengeFields buf).clientLocale.getD []) := by
  cases hl : (challengeFields buf).clientLocale with
  | none => exact .inl rfl
  | some locale => exact .inr (challengeFields_locale hl)

theorem patchPath_confined (buf : Bytes) : PatchPath (challengeFields buf).patchPath := by
  refine ⟨decimal (challengeFields buf).build.toNat,_,rfl,decimal_ne_nil _,isDigit_decimal _,
    ?_,?_,clientLocale_shape buf⟩
  · intro hzero
    rw [(decimal_head _).mp hzero]
    rfl
  · rw [readDecimal_decimal]
    exact (challengeFields buf).build.toNat_lt

theorem patchPath_injective
    (h : (challengeFields buf).patchPath = (challengeFields buf').patchPath) :
    (challengeFields buf).build = (challengeFields buf').build ∧
      (challengeFields buf).clientLocale = (challengeFields buf').clientLocale := by
  simp only [ChallengeFields.patchPath,List.append_assoc,List.append_cancel_left_eq] at h
  rw [← List.append_assoc,← List.append_assoc] at h
  obtain ⟨hbuild,hlocale⟩ := digits_locale_injective (clientLocale_shape buf)
    (clientLocale_shape buf') (List.append_cancel_right h)
  refine ⟨UInt16.toNat_inj.mp hbuild,?_⟩
  have hsome : ∀ {buf : Bytes}, some [] ≠ (challengeFields buf).clientLocale := by
    intro buf hl
    have hempty := challengeFields_locale hl.symm
    simp [IsLocale] at hempty
  cases hl : (challengeFields buf).clientLocale <;>
    cases hl' : (challengeFields buf').clientLocale <;>
      rw [hl,hl'] at hlocale <;> simp only [Option.getD_none,Option.getD_some] at hlocale
  · exact absurd (hlocale ▸ hl'.symm) hsome
  · exact absurd (hlocale ▸ hl.symm) hsome
  · rw [hlocale]

end

section
variable {lib : SharedLibrary} {cfg : WrongPass} {ω : Type} {e : AuthEnv ω}
  {run : HandlerRun ω} {s s' : Session} {h : List (HandlerRun ω)}

def ClaimHeld (h : List (HandlerRun ω)) (s : Session) : Prop :=
  s.status = .logonProof → ∃ c ∈ h, c.cmd = .authLogonChallenge ∧
    s.build = c.fields.build ∧ s.localizationName = c.fields.clientLocale.getD []

theorem ClaimHeld.quiet (hq : s.Quiet s') (hc : ClaimHeld h s) : ClaimHeld h s' := by
  intro hs
  obtain ⟨c,hmem,hcmd,hbuild,hlocale⟩ := hc (hq.status.symm.trans hs)
  refine ⟨c,hmem,hcmd,?_,?_⟩ <;> rw [hq.same]
  · exact hbuild
  · exact hlocale

theorem LogonChallenged.claims {c : HandlerRun ω} (hc : LogonChallenged lib cfg e c) :
    c.after.sock.build = c.fields.build ∧
      c.after.sock.localizationName = c.fields.clientLocale.getD [] := by
  obtain ⟨row,b,s₁,hg⟩ := hc.gates
  obtain ⟨t',hv,-⟩ := hg.verifier
  rw [hg.expects.same]
  constructor
  · cases hv <;> rfl
  · rfl

theorem Ran.expects_logonProof (hran : Ran lib cfg e run)
    (hs : run.after.sock.status = .logonProof) : LogonChallenged lib cfg e run := by
  have hno : ∀ {s₁ : Session} {status : EStatus}, s₁.status = status →
      s₁.Quiet run.after.sock.toSession → status ≠ .logonProof → False := by
    rintro s₁ status rfl hq hne
    exact hne (hq.status.symm.trans hs)
  cases hb : run.before.sock.status with
  | challenge =>
    obtain ⟨-,hc | hc | hc⟩ := hran.challenged hb
    · simp [hc] at hs
    · exact hc
    · simp [hc.status] at hs
  | logonProof =>
    obtain ⟨s₀,-,hq | ⟨artifact,-,hq⟩ | hq⟩ := (hran.at_logonProof hb).2.origin
    · exact (hno rfl hq nofun).elim
    · exact (hno rfl hq nofun).elim
    · exact (hno rfl hq nofun).elim
  | reconProof =>
    obtain hq | hq := (hran.at_reconProof hb).2.origin
    · exact (hno rfl hq nofun).elim
    · exact (hno rfl hq nofun).elim
  | patch =>
    obtain ⟨-,-,hc | ⟨hc,-⟩⟩ := hran.at_patch hb <;> simp [hc] at hs
  | authed => exact (hno hb (hran.at_authed hb).2.1 nofun).elim
  | closed => exact absurd hb hran.not_closed

theorem ClaimHeld.ran (hran : Ran lib cfg e run) : ClaimHeld (h ++ [run])
    run.after.sock.toSession := by
  intro hs
  have hc := hran.expects_logonProof hs
  exact ⟨run,by simp,hc.cmd,hc.claims⟩

theorem eq_of_length_le_one {α : Type} {l : List α} {a b : α} (h : l.length ≤ 1) (ha : a ∈ l)
    (hb : b ∈ l) : a = b := by
  match l,h with
  | [x],_ => rw [List.mem_singleton.mp ha,List.mem_singleton.mp hb]

def OpensPath (h : List (HandlerRun ω)) (path : Bytes) : Prop :=
  ∃ run ∈ h, ∃ ev ∈ run.calls, ev.call = .openArtifact path

/-- An archive is opened after the one challenge of the session, under the name this
challenge claimed. -/
theorem Linked.opens_claimed (hl : Linked lib cfg e s h s') (hs : s.status = .challenge)
    {path : Bytes} (hopen : OpensPath h path) :
    ∃ c ∈ h, c.cmd = .authLogonChallenge ∧ path = c.fields.patchPath ∧
      ∀ c' ∈ h, c'.cmd.isChallenge = true → c' = c := by
  have hone := (hl.life hs).atMostOneGuess.1
  obtain ⟨p,hp,ev,hev,hpath⟩ := hopen
  obtain ⟨pre,post,rfl⟩ := List.append_of_mem hp
  obtain ⟨hpre,hran,-⟩ := hl.split
  obtain ⟨hcmd,-,-,-,hoffer⟩ := frameBody_opens hran.runs hev hpath
  have hname : path = patchFile p.before.sock.toSession := by
    have hmeets := (offerPatch_meets (P := fun c => ∀ path, c = .openArtifact path →
      path = patchFile p.before.sock.toSession) (by simp)
      (p.before.sock.toSession.keyed lib p.frame) (by rintro path ⟨⟩; rfl) (by simp) (by simp)
      (by simp)).runs hoffer
    exact hmeets.1 ev hev path hpath
  have hstatus : p.before.sock.status = .logonProof := hran.before_status (by rw [hcmd]; rfl)
  have hheld := hpre.rule (P := ClaimHeld) ClaimHeld.quiet (fun hran _ => ClaimHeld.ran hran)
    (fun hproof => absurd (hs.symm.trans hproof) (by decide))
  obtain ⟨c,hc,hccmd,hbuild,hlocale⟩ := hheld hstatus
  refine ⟨c,by simp [hc],hccmd,?_,?_⟩
  · rw [hname,patchFile,hbuild,hlocale]
    rfl
  · intro c' hmem hc'
    have hfilter : ∀ {x : HandlerRun ω}, x ∈ pre ++ p :: post → x.cmd.isChallenge = true →
        x ∈ (pre ++ p :: post).filter (·.cmd.isChallenge) :=
      fun hx hx' => List.mem_filter.mpr ⟨hx,hx'⟩
    exact eq_of_length_le_one hone (hfilter hmem hc')
      (hfilter (by simp [hc]) (by rw [hccmd]; rfl))

end

/-- In every run every archive a session opens lies in the patch directory under a name
made of the build and the locale its one challenge claimed and of nothing else, and two
sessions open the same archive only for the same claims. -/
theorem patch_paths_confined {ω ω' : Type} (lib : SharedLibrary) (cfg : WrongPass)
    (k : Connection ω) (path : Bytes) (hopen : OpensPath (k.outcome lib cfg).1 path) :
    PatchPath path ∧
    (∃ c ∈ (k.outcome lib cfg).1, c.cmd = .authLogonChallenge ∧
      path = ascii "./patches/" ++ decimal c.fields.build.toNat ++
        c.fields.clientLocale.getD [] ++ ascii ".mpq") ∧
    ∀ k' : Connection ω', OpensPath (k'.outcome lib cfg).1 path →
      ∀ c ∈ (k.outcome lib cfg).1, ∀ c' ∈ (k'.outcome lib cfg).1,
        c.cmd.isChallenge = true → c'.cmd.isChallenge = true →
          c.fields.build = c'.fields.build ∧
          c.fields.clientLocale = c'.fields.clientLocale := by
  obtain ⟨c,hmem,hcmd,hpath,hunique⟩ := (k.linked lib cfg).opens_claimed rfl hopen
  refine ⟨?_,⟨c,hmem,hcmd,hpath⟩,?_⟩
  · rw [hpath]
    exact patchPath_confined _
  · intro k' hopen' c₁ hc₁ c₁' hc₁' hcmd₁ hcmd₁'
    obtain ⟨c',-,-,hpath',hunique'⟩ := (k'.linked lib cfg).opens_claimed rfl hopen'
    obtain rfl := hunique c₁ hc₁ hcmd₁
    obtain rfl := hunique' c₁' hc₁' hcmd₁'
    exact patchPath_injective (hpath.symm.trans hpath')

def patchingConnection : Connection Unit :=
  ⟨Replies.patching.env,0,30,⟨true,[5875]⟩,ascii "10.0.0.1",(),patchInputs⟩

theorem patch_paths_confined_sample :
    let h := (patchingConnection.outcome referenceLibrary ⟨0,600,false⟩).1
    OpensPath h (ascii "./patches/5875enUS.mpq") ∧
      PatchPath (ascii "./patches/5875enUS.mpq") ∧
      ∃ c ∈ h, c.cmd = .authLogonChallenge ∧
        ascii "./patches/5875enUS.mpq" = ascii "./patches/" ++ decimal c.fields.build.toNat ++
          c.fields.clientLocale.getD [] ++ ascii ".mpq" := by
  intro h
  have hopen : OpensPath h (ascii "./patches/5875enUS.mpq") := by
    have hfound : (h.any fun run => run.calls.any fun ev =>
        ev.call = .openArtifact (ascii "./patches/5875enUS.mpq")) = true := by
      decide +kernel
    obtain ⟨run,hrun,hcalls⟩ := List.any_eq_true.mp hfound
    obtain ⟨ev,hev,hcall⟩ := List.any_eq_true.mp hcalls
    exact ⟨run,hrun,ev,hev,of_decide_eq_true hcall⟩
  obtain ⟨hpath,hclaim,-⟩ := @patch_paths_confined Unit Unit referenceLibrary ⟨0,600,false⟩
    patchingConnection _ hopen
  exact ⟨hopen,hpath,hclaim⟩

end Realmd
