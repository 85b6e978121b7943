import Realmd.Runs
set_option autoImplicit false

namespace Realmd
open ByteCodec Interaction

def Calls (p : Call → Prop) (t : List AuthEvent) : Prop := ∀ ev ∈ t, p ev.call

theorem Calls.nil {p : Call → Prop} : Calls p [] := by
  simp [Calls]

theorem Calls.cons {p : Call → Prop} {ev : AuthEvent} {t : List AuthEvent}
    (hev : p ev.call) (ht : Calls p t) : Calls p (ev :: t) := by
  intro ev' hmem
  rcases List.mem_cons.mp hmem with rfl | htail
  · exact hev
  · exact ht ev' htail

theorem Calls.append {p : Call → Prop} {t t' : List AuthEvent} (h : Calls p t)
    (h' : Calls p t') : Calls p (t ++ t') := by
  intro ev hmem
  rcases List.mem_append.mp hmem with hl | hr
  · exact h ev hl
  · exact h' ev hr

theorem Calls.mono {p q : Call → Prop} {t : List AuthEvent} (h : Calls p t)
    (hpq : ∀ c, p c → q c) : Calls q t :=
  fun ev hmem => hpq ev.call (h ev hmem)

theorem sentBytes_append (t t' : List AuthEvent) :
    sentBytes (t ++ t') = sentBytes t ++ sentBytes t' := by
  simp [sentBytes]

theorem mem_sentBytes {bytes : Bytes} {t : List AuthEvent} :
    bytes ∈ sentBytes t ↔ ⟨.sender bytes,()⟩ ∈ t := by
  rw [sentBytes,List.mem_filterMap]
  constructor
  · rintro ⟨⟨call,reply⟩,hmem,hcall⟩
    cases call <;> simp only [reduceCtorEq,Option.some.injEq] at hcall
    subst hcall
    exact hmem
  · intro hmem
    exact ⟨_,hmem,rfl⟩

theorem sentBytes_otherThreads {t : List AuthEvent} (h : Calls (· = .otherThreads) t) :
    sentBytes t = [] := by
  rw [sentBytes,List.filterMap_eq_nil_iff]
  intro ev hmem
  rw [h ev hmem]

/-- A reply went out once, unless the session had no way to send it. -/
def SentOnce (bytes : Bytes) (t : List AuthEvent) (s' : Session) : Prop :=
  sentBytes t = [bytes] ∨ sentBytes t = [] ∧ (s'.m_closed = true ∨ s'.m_sender = false)

def Sending (bytes : Bytes) (c : Call) : Prop := c = .otherThreads ∨ c = .sender bytes

/-- Calls that neither publish nor report a success, and send no success reply. -/
def Harmless : Call → Prop
  | .directPExecute _ | .countAuthed => False
  | .sender bytes => bytes.take 2 ≠ [1,0] ∧ bytes.take 2 ≠ [3,0]
  | _ => True

theorem Sending.harmless {bytes : Bytes} (h : Harmless (.sender bytes)) {c : Call}
    (hc : Sending bytes c) : Harmless c := by
  rcases hc with rfl | rfl
  · trivial
  · exact h

section
variable {lib : SharedLibrary} {cfg : WrongPass} {s s' : Session} {bytes : Bytes}
  {t : List AuthEvent} {r : Bool × Session}

theorem Session.Quiet.withStatus (h : s.Quiet s') (status : EStatus) :
    ({ s with status := status } : Session).Quiet { s' with status := status } := by
  refine ⟨?_,h.closed,h.deadline⟩
  rw [h.same]

theorem Session.sync_runs (h : s.sync.Runs t s') :
    s.Quiet s' ∧ Calls (· = .otherThreads) t := by
  obtain ⟨acts,t',rfl,rfl,rfl⟩ := h
  exact ⟨s.foldl_suffer_quiet acts,.cons rfl .nil⟩

theorem Session.send_runs (h : (s.send bytes).Runs t s') :
    s.Quiet s' ∧ Calls (Sending bytes) t := by
  unfold send at h
  split at h
  · obtain ⟨rfl,rfl⟩ := h
    exact ⟨.refl s,.nil⟩
  obtain ⟨t₁,t₂,s₁,rfl,hsync,hrest⟩ := Prog.runs_bind.mp h
  obtain ⟨hq,ht₁⟩ := sync_runs hsync
  have hsending : Calls (Sending bytes) t₁ := ht₁.mono fun _ => .inl
  split at hrest
  · obtain ⟨rfl,rfl⟩ := hrest
    exact ⟨hq,hsending.append .nil⟩
  · obtain ⟨_,t₃,rfl,rfl,rfl⟩ := hrest
    exact ⟨hq,hsending.append (.cons (.inr rfl) .nil)⟩

theorem Session.send_once (h : (s.send bytes).Runs t s') (hne : bytes ≠ []) :
    SentOnce bytes t s' := by
  unfold send at h
  rw [if_neg hne] at h
  obtain ⟨t₁,t₂,s₁,rfl,hsync,hrest⟩ := Prog.runs_bind.mp h
  have ht₁ := sentBytes_otherThreads (sync_runs hsync).2
  split at hrest
  · rename_i hshut
    obtain ⟨rfl,rfl⟩ := hrest
    refine .inr ⟨by rw [sentBytes_append,ht₁]; rfl,?_⟩
    simpa using hshut
  · obtain ⟨_,t₃,rfl,rfl,rfl⟩ := hrest
    exact .inl (by rw [sentBytes_append,ht₁]; rfl)

theorem SentOnce.quiet (h : SentOnce bytes t s) {s₁ : Session}
    (hq : s₁.Quiet s') (hopen : s₁.m_closed = s.m_closed)
    (hsender : s₁.m_sender = s.m_sender) : SentOnce bytes t s' := by
  rcases h with h | ⟨h,hc | hs⟩
  · exact .inl h
  · exact .inr ⟨h,.inl (hq.closed (hopen.trans hc))⟩
  · refine .inr ⟨h,.inr ?_⟩
    rw [hq.same]
    exact hsender.trans hs

theorem Session.deactivate_runs (h : s.deactivate.Runs t s') :
    s.deactivateAuthDeadline.Quiet s' ∧ Calls (· = .otherThreads) t := by
  obtain ⟨t₁,t₂,s₁,rfl,hsync,rfl,rfl⟩ := Prog.runs_bind.mp h
  obtain ⟨hq,ht⟩ := sync_runs hsync
  exact ⟨hq.deactivated,ht.append .nil⟩

theorem Session.close_runs
    (h : (s.close >>= fun s => Prog.ret (false,s) : AuthProg (Bool × Session)).Runs t r) :
    r.1 = false ∧ s.Quiet r.2 ∧ r.2.m_closed = true ∧ Calls (· = .otherThreads) t := by
  obtain ⟨t₁,t₂,s₁,rfl,hclose,rfl,rfl⟩ := Prog.runs_bind.mp h
  obtain ⟨t₃,t₄,s₂,rfl,hsync,rfl,rfl⟩ := Prog.runs_bind.mp hclose
  obtain ⟨hq,ht⟩ := sync_runs hsync
  exact ⟨rfl,hq.trans s₂.closeConnection_quiet,rfl,(ht.append .nil).append .nil⟩

theorem Session.answer_runs
    (h : (s.send bytes >>= fun s => Prog.ret (true,s) : AuthProg (Bool × Session)).Runs t r) :
    r.1 = true ∧ s.Quiet r.2 ∧ Calls (Sending bytes) t := by
  obtain ⟨t₁,t₂,s₁,rfl,hsend,rfl,rfl⟩ := Prog.runs_bind.mp h
  obtain ⟨hq,ht⟩ := send_runs hsend
  exact ⟨rfl,hq,ht.append .nil⟩

section
variable {P : Call → Prop} (hsync : P .otherThreads)
include hsync

theorem Session.sync_meets (s : Session) : s.sync.Meets P s.Quiet :=
  ⟨hsync,fun acts => s.foldl_suffer_quiet acts⟩

theorem Session.send_meets (s : Session) (bytes : Bytes) (hsend : P (.sender bytes)) :
    (s.send bytes).Meets P s.Quiet := by
  unfold send
  split
  · exact .refl s
  · refine (s.sync_meets hsync).bind fun s' hq => ?_
    split
    · exact hq
    · exact ⟨hsend,fun _ => hq⟩

theorem Session.deactivate_meets (s : Session) :
    s.deactivate.Meets P s.deactivateAuthDeadline.Quiet :=
  (s.sync_meets hsync).bind fun _ hq => hq.deactivated

theorem Session.close_meets (s : Session) :
    s.close.Meets P fun s' => s.Quiet s' ∧ s'.m_closed = true :=
  (s.sync_meets hsync).bind fun s₁ hq => ⟨hq.trans s₁.closeConnection_quiet,rfl⟩

theorem Session.fail_meets (s : Session) (result : Bool) :
    (s.close >>= fun s' => Prog.ret (result,s') : AuthProg (Bool × Session)).Meets P
      fun _ => True :=
  (s.close_meets hsync).bind fun _ _ => trivial

theorem Session.answer_meets (s : Session) (bytes : Bytes) (hsend : P (.sender bytes)) :
    (s.send bytes >>= fun s' => Prog.ret (true,s') : AuthProg (Bool × Session)).Meets P
      fun _ => True :=
  (s.send_meets hsync bytes hsend).bind fun _ _ => trivial

end

/-- The calls of a challenge of either kind. -/
def Probing : Call → Prop
  | .selectIpBanned _ | .selectAccount _ | .selectAccountBanned _ | .selectSessionKey _ => True
  | .setRand _ | .pExecute _ | .otherThreads => True
  | .sender bytes => bytes.head? = some 0 ∨ bytes.head? = some 2
  | _ => False

theorem refuse_meets (s : Session) (result : AuthResult) :
    (refuse s result).Meets Probing fun _ => True :=
  s.answer_meets trivial _ (.inl rfl)

theorem challengeAccount_meets (s : Session) (row : AccountRow)
    (clientLocale : Option Bytes) :
    (challengeAccount lib s row clientLocale).Meets Probing fun _ => True := by
  have htake : (takeVerifier lib s row).Meets Probing fun _ => True := by
    unfold takeVerifier
    split
    · exact ⟨trivial,fun _ => ⟨trivial,fun _ => trivial⟩⟩
    · trivial
  refine htake.bind fun s _ => ⟨trivial,fun b => ⟨trivial,fun unk3 => ?_⟩⟩
  exact (Session.send_meets trivial _ _ (.inl rfl)).weaken

theorem logonChallenge_meets (s : Session) (buf : Bytes) :
    (logonChallenge lib s buf).Meets Probing fun _ => True := by
  unfold logonChallenge
  simp only
  split
  · trivial
  refine ⟨trivial,fun banned => ?_⟩
  cases banned with
  | some _ => exact refuse_meets _ _
  | none =>
    refine ⟨trivial,fun found => ?_⟩
    cases found with
    | none => exact refuse_meets _ _
    | some row =>
      simp only [Prog.bind]
      split
      · exact refuse_meets _ _
      refine ⟨trivial,fun dates => ?_⟩
      cases dates with
      | some _ => exact refuse_meets _ _
      | none => exact (challengeAccount_meets _ row _).bind fun _ _ => trivial

theorem reconnectChallenge_meets (s : Session) (buf : Bytes) :
    (reconnectChallenge lib s buf).Meets Probing fun _ => True := by
  unfold reconnectChallenge
  simp only
  split
  · trivial
  refine Prog.Meets.bind (p := ask _) (Q := fun _ => True) ⟨trivial,fun _ => trivial⟩
    fun found _ => ?_
  cases found with
  | none => exact Session.fail_meets trivial _ _
  | some sessionkey =>
    refine Prog.Meets.bind (Q := fun _ => True) ?_ fun _ _ => trivial
    exact ⟨trivial,fun _ => (Session.send_meets trivial _ _ (.inr rfl)).weaken⟩

theorem Session.succeed_runs
    (h : (do
      let s ← s.send bytes
      let s ← { s with status := .authed }.deactivate
      let _ ← ask .countAuthed
      return (true,s) : AuthProg (Bool × Session)).Runs t r) (hne : bytes ≠ []) :
    r.1 = true ∧ ({ s with status := .authed } : Session).deactivateAuthDeadline.Quiet r.2 ∧
      Calls (fun c => Sending bytes c ∨ c = .countAuthed) t ∧ SentOnce bytes t r.2 := by
  obtain ⟨t₁,t₂,s₁,rfl,hsend,hrest⟩ := Prog.runs_bind.mp h
  obtain ⟨t₃,t₄,s₂,rfl,hdeact,_,t₅,rfl,rfl,rfl⟩ := Prog.runs_bind.mp hrest
  obtain ⟨hq,ht₁⟩ := send_runs hsend
  obtain ⟨hq',ht₃⟩ := deactivate_runs hdeact
  refine ⟨rfl,(hq.withStatus .authed).deactivated.trans hq',?_,?_⟩
  · exact (ht₁.mono fun _ => .inl).append
      ((ht₃.mono fun _ hc => .inl (.inl hc)).append (.cons (.inr rfl) .nil))
  · have hlater : sentBytes (t₃ ++ [⟨.countAuthed,()⟩]) = [] := by
      rw [sentBytes_append,sentBytes_otherThreads ht₃]
      rfl
    have honce : SentOnce bytes t₁ s₂ := (send_once hsend hne).quiet hq' rfl rfl
    unfold SentOnce at honce ⊢
    rw [sentBytes_append,hlater,List.append_nil]
    exact honce

inductive TakesVerifier (lib : SharedLibrary) (s : Session) (row : AccountRow) :
    List AuthEvent → Session → Prop where
  | stored (hv : row.v.length = 64) (hs : row.s.length = 64) :
      TakesVerifier lib s row []
        { s with s := lib.setHexStr s.s row.s, v := lib.setHexStr s.v row.v }
  | derived (h : row.v.length ≠ 64 ∨ row.s.length ≠ 64) (salt : Nat) (queued : Bool) :
      TakesVerifier lib s row
        [⟨.setRand 256,salt⟩,
          ⟨.pExecute (.updateVerifier
            (lib.asHexStr (modExp srpG (verifierX lib salt row.sha_pass_hash) srpN))
            (lib.asHexStr salt) s.safelogin),queued⟩]
        { s with s := salt, v := modExp srpG (verifierX lib salt row.sha_pass_hash) srpN }

theorem takeVerifier_runs {row : AccountRow} (h : (takeVerifier lib s row).Runs t s') :
    TakesVerifier lib s row t s' := by
  unfold takeVerifier at h
  split at h
  · rename_i hbad
    obtain ⟨salt,t',rfl,queued,t'',rfl,rfl,rfl⟩ := h
    exact .derived hbad salt queued
  · rename_i hgood
    obtain ⟨rfl,rfl⟩ := h
    rw [not_or,not_not,not_not] at hgood
    exact .stored hgood.1 hgood.2

def Challenging (reply : Bytes) (c : Call) : Prop :=
  (∃ bits, c = .setRand bits) ∨ (∃ statement, c = .pExecute statement) ∨ Sending reply c

theorem Challenging.harmless {reply : Bytes} (h : Harmless (.sender reply)) {c : Call}
    (hc : Challenging reply c) : Harmless c := by
  rcases hc with ⟨_,rfl⟩ | ⟨_,rfl⟩ | hc
  · trivial
  · trivial
  · exact hc.harmless h

theorem TakesVerifier.calls {row : AccountRow} (h : TakesVerifier lib s row t s')
    (reply : Bytes) : Calls (Challenging reply) t := by
  cases h with
  | stored hv hs => exact .nil
  | derived h salt queued => exact .cons (.inl ⟨_,rfl⟩) (.cons (.inr (.inl ⟨_,rfl⟩)) .nil)

/-- A challenge that passed every gate. -/
structure PassesGates (lib : SharedLibrary) (s : Session) (clientLocale : Option Bytes)
    (row : AccountRow) (b : Nat) (t : List AuthEvent) (s₁ s' : Session) : Prop where
  ipBanned : ⟨.selectIpBanned (lib.escapeString s.remote_address),none⟩ ∈ t
  account : ⟨.selectAccount s.safelogin,some row⟩ ∈ t
  row_unique : ∀ username found, ⟨.selectAccount username,found⟩ ∈ t → found = some row
  unlocked : ¬ (row.locked = 1 ∧ row.last_ip ≠ s.remote_address)
  accountBanned : ⟨.selectAccountBanned row.id,none⟩ ∈ t
  verifier : ∃ t', TakesVerifier lib s row t' s₁ ∧ t' ⊆ t
  secret : ⟨.setRand 152,b⟩ ∈ t
  reply : ∀ bytes u, ⟨.sender bytes,u⟩ ∈ t → ∃ unk3, bytes = challengeReply lib s'.B s'.s unk3
  expects : (s₁.expectProof lib b row clientLocale).Quiet s'

theorem challengeReply_harmless (B salt unk3 : Nat) :
    Harmless (.sender (challengeReply lib B salt unk3)) := by
  constructor <;> simp [challengeReply,AuthCmd.code]

theorem challengeAccount_runs {row : AccountRow} {clientLocale : Option Bytes}
    (h : (challengeAccount lib s row clientLocale).Runs t s') :
    ∃ t₁ s₁ b unk3 t₂, t = t₁ ++ ⟨.setRand 152,b⟩ :: ⟨.setRand 128,unk3⟩ :: t₂ ∧
      TakesVerifier lib s row t₁ s₁ ∧ (s₁.expectProof lib b row clientLocale).Quiet s' ∧
      Calls (Sending (challengeReply lib s'.B s'.s unk3)) t₂ := by
  obtain ⟨t₁,t₂,s₁,rfl,htake,b,t₃,rfl,unk3,t₄,rfl,hsend⟩ := Prog.runs_bind.mp h
  obtain ⟨hq,ht⟩ := Session.send_runs hsend
  have hreply : challengeReply lib (s₁.expectProof lib b row clientLocale).B
      (s₁.expectProof lib b row clientLocale).s unk3 = challengeReply lib s'.B s'.s unk3 := by
    rw [hq.same]
  rw [hreply] at ht
  exact ⟨t₁,s₁,b,unk3,t₄,rfl,takeVerifier_runs htake,hq,ht⟩

theorem refuse_runs {result : AuthResult} (h : (refuse s result).Runs t r) :
    r.1 = true ∧ s.Quiet r.2 ∧ Calls Harmless t := by
  obtain ⟨hr,hq,ht⟩ := Session.answer_runs h
  refine ⟨hr,hq,ht.mono fun _ hc => hc.harmless ?_⟩
  exact ⟨by simp [challengeFailure,AuthCmd.code],by simp [challengeFailure,AuthCmd.code]⟩

theorem challengeGates_passes {clientLocale : Option Bytes}
    (h : (challengeGates lib s clientLocale).Runs t r) :
    r.1 = true ∧ (s.Quiet r.2 ∧ Calls Harmless t ∨ ∃ row t',
      t = ⟨.selectIpBanned (lib.escapeString s.remote_address),none⟩ ::
        ⟨.selectAccount s.safelogin,some row⟩ :: ⟨.selectAccountBanned row.id,none⟩ :: t' ∧
      ¬ (row.locked = 1 ∧ row.last_ip ≠ s.remote_address) ∧
      (challengeAccount lib s row clientLocale).Runs t' r.2) := by
  obtain ⟨banned,t₁,rfl,h⟩ := h
  cases banned with
  | some _ =>
    obtain ⟨hr,hq,ht⟩ := refuse_runs h
    exact ⟨hr,.inl ⟨hq,.cons trivial ht⟩⟩
  | none =>
    obtain ⟨found,t₂,rfl,h⟩ := h
    cases found with
    | none =>
      obtain ⟨hr,hq,ht⟩ := refuse_runs h
      exact ⟨hr,.inl ⟨hq,.cons trivial (.cons trivial ht)⟩⟩
    | some row =>
      simp only [Prog.bind] at h
      split at h
      · obtain ⟨hr,hq,ht⟩ := refuse_runs h
        exact ⟨hr,.inl ⟨hq,.cons trivial (.cons trivial ht)⟩⟩
      rename_i hunlocked
      obtain ⟨accountBanned,t₃,rfl,h⟩ := h
      cases accountBanned with
      | some dates =>
        obtain ⟨hr,hq,ht⟩ := refuse_runs h
        exact ⟨hr,.inl ⟨hq,.cons trivial (.cons trivial (.cons trivial ht))⟩⟩
      | none =>
        have hlast : (challengeAccount lib s row clientLocale >>= fun s =>
          Prog.ret (true,s) : AuthProg (Bool × Session)).Runs t₃ r := h
        obtain ⟨t₄,t₅,s',rfl,haccount,rfl,rfl⟩ := Prog.runs_bind.mp hlast
        rw [List.append_nil]
        exact ⟨rfl,.inr ⟨row,t₄,rfl,hunlocked,haccount⟩⟩

theorem challengeGates_runs {clientLocale : Option Bytes}
    (h : (challengeGates lib s clientLocale).Runs t r) :
    r.1 = true ∧ Calls Harmless t ∧
      (s.Quiet r.2 ∨ ∃ row b s₁, PassesGates lib s clientLocale row b t s₁ r.2) := by
  obtain ⟨hr,⟨hq,ht⟩ | ⟨row,t',rfl,hunlocked,haccount⟩⟩ := challengeGates_passes h
  · exact ⟨hr,ht,.inl hq⟩
  obtain ⟨t₁,s₁,b,unk3,t₂,ht',hv,hq,ht₂⟩ := challengeAccount_runs haccount
  have ht : Calls (Challenging (challengeReply lib r.2.B r.2.s unk3)) t' := by
    rw [ht']
    exact (hv.calls _).append (.cons (.inl ⟨_,rfl⟩) (.cons (.inl ⟨_,rfl⟩)
      (ht₂.mono fun _ hc => .inr (.inr hc))))
  have hharmless : Calls Harmless t' :=
    ht.mono fun _ hc => hc.harmless (challengeReply_harmless _ _ _)
  refine ⟨hr,.cons trivial (.cons trivial (.cons trivial hharmless)),.inr ⟨row,b,s₁,?_⟩⟩
  constructor
  case ipBanned => simp
  case account => simp
  case row_unique =>
    intro username found hmem
    simp only [List.mem_cons] at hmem
    rcases hmem with heq | heq | heq | hmem
    · cases heq
    · cases heq
      rfl
    · cases heq
    · rcases ht _ hmem with ⟨_,hc⟩ | ⟨_,hc⟩ | hc | hc <;> cases hc
  case unlocked => exact hunlocked
  case accountBanned => simp
  case verifier =>
    refine ⟨t₁,hv,fun ev hev => ?_⟩
    simp [ht',hev]
  case secret => simp [ht']
  case reply =>
    intro bytes u hmem
    simp only [List.mem_cons] at hmem
    rcases hmem with heq | heq | heq | hmem
    · cases heq
    · cases heq
    · cases heq
    · rcases ht _ hmem with ⟨_,hc⟩ | ⟨_,hc⟩ | hc | hc <;> cases hc
      exact ⟨unk3,rfl⟩
  case expects => exact hq

/-- Everything the logon challenge can do: refuse the frame, refuse the account,
or expect a proof. -/
inductive LogonChallengeSpec (lib : SharedLibrary) (s : Session) (buf : Bytes) :
    List AuthEvent → Bool × Session → Prop where
  | badOs (h : (challengeFields buf).os.length > 4) :
      LogonChallengeSpec lib s buf [] (false,{ s with
        login := (challengeFields buf).login
        build := (challengeFields buf).build
        os := (challengeFields buf).os })
  | refused {t : List AuthEvent} {s' : Session} (ht : Calls Harmless t)
      (hq : (s.claim lib (challengeFields buf)).Quiet s') :
      LogonChallengeSpec lib s buf t (true,s')
  | expects {t : List AuthEvent} {s' : Session} (ht : Calls Harmless t) (row : AccountRow)
      (b : Nat) (s₁ : Session)
      (hgates : PassesGates lib (s.claim lib (challengeFields buf))
        (challengeFields buf).clientLocale row b t s₁ s') :
      LogonChallengeSpec lib s buf t (true,s')

theorem logonChallenge_runs {buf : Bytes} (h : (logonChallenge lib s buf).Runs t r) :
    LogonChallengeSpec lib s buf t r := by
  unfold logonChallenge at h
  simp only at h
  split at h
  · rename_i hos
    obtain ⟨rfl,rfl⟩ := h
    exact .badOs hos
  · obtain ⟨hr,ht,hout⟩ := challengeGates_runs h
    obtain ⟨result,s'⟩ := r
    obtain rfl : result = true := hr
    rcases hout with hq | ⟨row,b,s₁,hgates⟩
    · exact .refused ht hq
    · exact .expects ht row b s₁ hgates

def Session.reconnectClaim (lib : SharedLibrary) (s : Session) (f : ChallengeFields) :
    Session :=
  { s with localizationName := f.clientLocale.getD [] }.claim lib f

/-- Everything the reconnect challenge can do: refuse the frame, find no account,
or expect a proof for the stored key. -/
inductive ReconnectChallengeSpec (lib : SharedLibrary) (s : Session) (buf : Bytes) :
    List AuthEvent → Bool × Session → Prop where
  | badOs (h : (challengeFields buf).os.length > 4) :
      ReconnectChallengeSpec lib s buf []
        (false,{ s.reconnectClaim lib (challengeFields buf) with
          os := (challengeFields buf).os })
  | unknown {t : List AuthEvent} {s' : Session} (ht : Calls (· = .otherThreads) t)
      (hc : s'.m_closed = true)
      (hq : (s.reconnectClaim lib (challengeFields buf)).Quiet s') :
      ReconnectChallengeSpec lib s buf
        (⟨.selectSessionKey (lib.escapeString (challengeFields buf).login),none⟩ :: t)
        (false,s')
  | expects {t : List AuthEvent} {s' : Session} (sessionkey : Bytes) (drawn : Nat)
      (ht : Calls (Sending (reconnectChallengeReply lib drawn)) t)
      (hq : ({ s.reconnectClaim lib (challengeFields buf) with
        K := lib.setHexStr s.K sessionkey
        status := .reconProof
        reconnectProof := drawn } : Session).Quiet s') :
      ReconnectChallengeSpec lib s buf
        (⟨.selectSessionKey (lib.escapeString (challengeFields buf).login),some sessionkey⟩ ::
          ⟨.setRand 128,drawn⟩ :: t)
        (true,s')

theorem reconnectChallenge_runs {buf : Bytes}
    (h : (reconnectChallenge lib s buf).Runs t r) :
    ReconnectChallengeSpec lib s buf t r := by
  unfold reconnectChallenge at h
  simp only at h
  split at h
  · rename_i hos
    obtain ⟨rfl,rfl⟩ := h
    exact .badOs hos
  obtain ⟨found,t₁,rfl,h⟩ := h
  cases found with
  | none =>
    obtain ⟨hr,hq,hc,ht⟩ := Session.close_runs h
    obtain ⟨result,s'⟩ := r
    obtain rfl : result = false := hr
    exact .unknown ht hc hq
  | some sessionkey =>
    have hlast : (challengeStoredKey lib
        (s.reconnectClaim lib (challengeFields buf)) sessionkey >>= fun s =>
        Prog.ret (true,s) : AuthProg (Bool × Session)).Runs t₁ r := h
    obtain ⟨t₂,t₃,s',rfl,⟨drawn,t₄,rfl,hsend⟩,rfl,rfl⟩ := Prog.runs_bind.mp hlast
    obtain ⟨hq,ht⟩ := Session.send_runs hsend
    rw [List.append_nil]
    exact .expects sessionkey drawn ht hq

theorem ReconnectChallengeSpec.harmless {buf : Bytes}
    (h : ReconnectChallengeSpec lib s buf t r) : Calls Harmless t := by
  cases h with
  | badOs h => exact .nil
  | unknown ht hc hq =>
    refine .cons trivial (ht.mono fun _ hc => ?_)
    rw [hc]
    trivial
  | expects sessionkey drawn ht hq =>
    refine .cons trivial (.cons trivial (ht.mono fun _ hc => hc.harmless ?_))
    constructor <;> simp [reconnectChallengeReply,AuthCmd.code]

theorem LogonChallengeSpec.harmless {buf : Bytes}
    (h : LogonChallengeSpec lib s buf t r) : Calls Harmless t := by
  cases h with
  | badOs h => exact .nil
  | refused ht hq => exact ht
  | expects ht row b s₁ hgates => exact ht

def proofA (lp : Bytes) : Nat := leNat (slice lp 1 32)

def Session.keyed (lib : SharedLibrary) (s : Session) (lp : Bytes) : Session :=
  s.closeStatus.deriveKey lib (proofA lp)

def Session.ProofMatches (lib : SharedLibrary) (s : Session) (lp : Bytes) : Prop :=
  lib.asByteArray ((s.keyed lib lp).expectedM lib (proofA lp)) shaDigestLength = slice lp 33 20

instance (s : Session) (lp : Bytes) : Decidable (s.ProofMatches lib lp) :=
  inferInstanceAs (Decidable (_ = _))

def Session.publication (lib : SharedLibrary) (s : Session) : Statement :=
  .publishSession (lib.asHexStr s.K) s.remote_address
    (lib.getLocaleByName s.localizationName) (lib.escapeString s.localizationName)
    (lib.escapeString s.os) s.safelogin

def Session.authenticate (s : Session) : Session :=
  { s with status := .authed }.deactivateAuthDeadline

def updateNotice : Bytes := [AuthCmd.authLogonProof.code,AuthResult.failVersionUpdate.code]

section
variable {P : Call → Prop} (hsync : P .otherThreads)
include hsync

theorem Session.publish_meets (s : Session) {statement : Statement} {reply : Bytes}
    (hstore : P (.directPExecute statement)) (hsend : P (.sender reply))
    (hcount : P .countAuthed) :
    (do
      let stored ← ask (.directPExecute statement)
      if stored then
        let s ← s.send reply
        let s ← { s with status := .authed }.deactivate
        let _ ← ask .countAuthed
        return (true,s)
      else return (false,← s.close) : AuthProg (Bool × Session)).Meets P fun _ => True := by
  refine ⟨hstore,fun stored => ?_⟩
  cases stored with
  | true =>
    refine (s.send_meets hsync _ hsend).bind fun s₁ _ => ?_
    refine (Session.deactivate_meets hsync _).bind fun s₂ _ => ?_
    exact ⟨hcount,fun _ => trivial⟩
  | false => exact s.fail_meets hsync _

theorem offerPatch_meets (s : Session) (hopen : P (.openArtifact (patchFile s)))
    (hinvalid : P (.sender [0,0,9])) (hnotice : P (.sender updateNotice))
    (hinit : ∀ artifact, P (.sender (xferInit artifact))) :
    (offerPatch s).Meets P fun _ => True := by
  refine ⟨hopen,fun found => ?_⟩
  cases found with
  | none => exact s.answer_meets hsync _ hinvalid
  | some artifact =>
    refine (Session.send_meets hsync _ _ hnotice).bind fun s₁ _ => ?_
    refine (Session.send_meets hsync _ _ (hinit artifact)).bind fun s₂ _ => ?_
    exact (Session.deactivate_meets hsync _).bind fun _ _ => trivial

theorem acceptLogon_meets (s : Session) (A M : Nat) (hopen : P (.openArtifact (patchFile s)))
    (hinvalid : P (.sender [0,0,9])) (hnotice : P (.sender updateNotice))
    (hinit : ∀ artifact, P (.sender (xferInit artifact)))
    (hstore : P (.directPExecute (s.publication lib)))
    (hsend : P (.sender (proofReply s.build (proofM2 lib A M s.K))))
    (hcount : P .countAuthed) : (acceptLogon lib s A M).Meets P fun _ => True := by
  unfold acceptLogon
  simp only
  split
  · exact offerPatch_meets hsync s hopen hinvalid hnotice hinit
  split
  · exact s.answer_meets hsync _ hinvalid
  · exact Session.publish_meets hsync { s with os := lib.escapeString s.os } hstore hsend hcount

theorem rejectLogon_meets (s : Session) (hsend : P (.sender (wrongPasswordReply s.build)))
    (hqueue : ∀ statement, P (.pExecute statement))
    (hread : ∀ username, P (.selectFailedLogins username)) :
    (rejectLogon lib cfg s).Meets P fun r => r.1 = true ∧ s.Quiet r.2 := by
  refine (s.send_meets hsync _ hsend).bind fun s₁ hq => ?_
  split
  · refine ⟨hqueue _,fun _ => ⟨hread _,fun found => ?_⟩⟩
    cases found with
    | none => exact ⟨rfl,hq⟩
    | some account =>
      simp only [Prog.bind,judgeFailures]
      split
      · exact ⟨hqueue _,fun _ => ⟨rfl,hq⟩⟩
      · exact ⟨rfl,hq⟩
  · exact ⟨rfl,hq⟩

end

/-- Everything the logon proof can do once the client's proof matched. -/
inductive AcceptLogonSpec (lib : SharedLibrary) (s : Session) (A M : Nat) :
    List AuthEvent → Bool × Session → Prop where
  | noArchive {t : List AuthEvent} {s' : Session}
      (hpatch : s.patchPolicy.shouldPatch s.build (findBuildInfo s.build).isSome = true)
      (ht : Calls (Sending [0,0,9]) t) (hq : s.Quiet s') :
      AcceptLogonSpec lib s A M (⟨.openArtifact (patchFile s),none⟩ :: t) (true,s')
  | offered {t₁ t₂ t₃ : List AuthEvent} {s' : Session} (artifact : PatchArtifact)
      (hpatch : s.patchPolicy.shouldPatch s.build (findBuildInfo s.build).isSome = true)
      (ht₁ : Calls (Sending updateNotice) t₁) (ht₂ : Calls (Sending (xferInit artifact)) t₂)
      (ht₃ : Calls (· = .otherThreads) t₃)
      (hq : ({ s with m_patchArtifact := some artifact, status := .patch } :
        Session).deactivateAuthDeadline.Quiet s') :
      AcceptLogonSpec lib s A M
        (⟨.openArtifact (patchFile s),some artifact⟩ :: (t₁ ++ (t₂ ++ t₃))) (true,s')
  | unsupported {t : List AuthEvent} {s' : Session}
      (hpatch : s.patchPolicy.shouldPatch s.build (findBuildInfo s.build).isSome = false)
      (hbuild : (findBuildInfo s.build).isSome = false)
      (ht : Calls (Sending [0,0,9]) t) (hq : s.Quiet s') :
      AcceptLogonSpec lib s A M t (true,s')
  | published {t : List AuthEvent} {s' : Session}
      (hpatch : s.patchPolicy.shouldPatch s.build (findBuildInfo s.build).isSome = false)
      (hbuild : (findBuildInfo s.build).isSome = true)
      (ht : Calls (fun c => Sending (proofReply s.build (proofM2 lib A M s.K)) c ∨
        c = .countAuthed) t)
      (honce : SentOnce (proofReply s.build (proofM2 lib A M s.K)) t s')
      (hq : ({ s with os := lib.escapeString s.os } : Session).authenticate.Quiet s') :
      AcceptLogonSpec lib s A M (⟨.directPExecute (s.publication lib),true⟩ :: t) (true,s')
  | unpublished {t : List AuthEvent} {s' : Session}
      (ht : Calls (· = .otherThreads) t) (hc : s'.m_closed = true)
      (hq : ({ s with os := lib.escapeString s.os } : Session).Quiet s') :
      AcceptLogonSpec lib s A M (⟨.directPExecute (s.publication lib),false⟩ :: t) (false,s')

theorem AcceptLogonSpec.key {A M : Nat} (h : AcceptLogonSpec lib s A M t r) :
    r.2.K = s.K := by
  cases h with
  | noArchive hpatch ht hq => rw [hq.same]
  | offered artifact hpatch ht₁ ht₂ ht₃ hq =>
    rw [hq.same]
    rfl
  | unsupported hpatch hbuild ht hq => rw [hq.same]
  | published hpatch hbuild ht honce hq =>
    rw [hq.same]
    rfl
  | unpublished ht hc hq => rw [hq.same]

theorem AcceptLogonSpec.publishes {A M : Nat} (h : AcceptLogonSpec lib s A M t r)
    (hbuild : (findBuildInfo s.build).isSome = true)
    (hpatch : s.patchPolicy.shouldPatch s.build true = false) :
    ∃ stored t', t = ⟨.directPExecute (s.publication lib),stored⟩ :: t' ∧
      (stored = true → r.2.status = .authed ∧
        SentOnce (proofReply s.build (proofM2 lib A M s.K)) t' r.2) := by
  rw [← hbuild] at hpatch
  cases h with
  | noArchive hpatch' ht hq => simp [hpatch'] at hpatch
  | offered artifact hpatch' ht₁ ht₂ ht₃ hq => simp [hpatch'] at hpatch
  | unsupported hpatch' hbuild' ht hq => simp [hbuild'] at hbuild
  | published hpatch' hbuild' ht honce hq => exact ⟨true,_,rfl,fun _ => ⟨hq.status,honce⟩⟩
  | unpublished ht hc hq => exact ⟨false,_,rfl,nofun⟩

theorem offerPatch_runs {A M : Nat} (h : (offerPatch s).Runs t r)
    (hpatch : s.patchPolicy.shouldPatch s.build (findBuildInfo s.build).isSome = true) :
    AcceptLogonSpec lib s A M t r := by
  obtain ⟨found,t₀,rfl,h⟩ := h
  cases found with
  | none =>
    obtain ⟨hr,hq,ht⟩ := Session.answer_runs h
    obtain ⟨result,s'⟩ := r
    obtain rfl : result = true := hr
    exact .noArchive hpatch ht hq
  | some artifact =>
    have hlast : (do
      let s ← ({ s with m_patchArtifact := some artifact } : Session).send updateNotice
      let s ← s.send (xferInit artifact)
      let s ← { s with status := .patch }.deactivate
      return (true,s) : AuthProg (Bool × Session)).Runs t₀ r := h
    obtain ⟨t₁,t',s₁,rfl,hnotice,h⟩ := Prog.runs_bind.mp hlast
    obtain ⟨t₂,t'',s₂,rfl,hinit,h⟩ := Prog.runs_bind.mp h
    obtain ⟨t₃,t₄,s₃,rfl,hdeact,rfl,rfl⟩ := Prog.runs_bind.mp h
    obtain ⟨hq₁,ht₁⟩ := Session.send_runs hnotice
    obtain ⟨hq₂,ht₂⟩ := Session.send_runs hinit
    obtain ⟨hq₃,ht₃⟩ := Session.deactivate_runs hdeact
    rw [List.append_nil]
    exact .offered artifact hpatch ht₁ ht₂ ht₃
      (((hq₁.trans hq₂).withStatus .patch).deactivated.trans hq₃)

theorem proofReply_ne_nil (build : UInt16) (M2 : Bytes) : proofReply build M2 ≠ [] := by
  unfold proofReply
  split <;> simp

theorem acceptLogon_runs {A M : Nat} (h : (acceptLogon lib s A M).Runs t r) :
    AcceptLogonSpec lib s A M t r := by
  unfold acceptLogon at h
  simp only at h
  split at h
  · rename_i hpatch
    exact offerPatch_runs h hpatch
  rename_i hpatch
  rw [Bool.not_eq_true] at hpatch
  split at h
  · rename_i hbuild
    obtain ⟨hr,hq,ht⟩ := Session.answer_runs h
    obtain ⟨result,s'⟩ := r
    obtain rfl : result = true := hr
    exact .unsupported hpatch (by simpa using hbuild) ht hq
  rename_i hbuild
  rw [Bool.not_eq_true,Bool.not_eq_false'] at hbuild
  obtain ⟨stored,t₁,rfl,h⟩ := h
  cases stored with
  | true =>
    obtain ⟨hr,hq,ht,honce⟩ := Session.succeed_runs h (proofReply_ne_nil _ _)
    obtain ⟨result,s'⟩ := r
    obtain rfl : result = true := hr
    exact .published hpatch hbuild ht honce hq
  | false =>
    obtain ⟨hr,hq,hc,ht⟩ := Session.close_runs h
    obtain ⟨result,s'⟩ := r
    obtain rfl : result = false := hr
    exact .unpublished ht hc hq

theorem rejectLogon_runs (hruns : (rejectLogon lib cfg s).Runs t r) :
    r.1 = true ∧ s.Quiet r.2 ∧ Calls Harmless t := by
  have hfail : Harmless (.sender (wrongPasswordReply s.build)) := by
    unfold wrongPasswordReply
    split <;> exact ⟨by decide,by decide⟩
  obtain ⟨ht,hr,hq⟩ := (rejectLogon_meets trivial s hfail (fun _ => trivial)
    (fun _ => trivial)).runs hruns
  exact ⟨hr,hq,ht⟩

inductive LogonProofSpec (lib : SharedLibrary) (s : Session) (lp : Bytes) :
    List AuthEvent → Bool × Session → Prop where
  | zeroA (hA : proofA lp%srpN = 0) : LogonProofSpec lib s lp [] (false,s.closeStatus)
  | rejected {t : List AuthEvent} {s' : Session} (hA : proofA lp%srpN ≠ 0)
      (hM : ¬ s.ProofMatches lib lp) (ht : Calls Harmless t)
      (hq : (s.keyed lib lp).Quiet s') : LogonProofSpec lib s lp t (true,s')
  | accepted {t : List AuthEvent} {r : Bool × Session} (hA : proofA lp%srpN ≠ 0)
      (hM : s.ProofMatches lib lp)
      (h : AcceptLogonSpec lib (s.keyed lib lp) (proofA lp)
        ((s.keyed lib lp).expectedM lib (proofA lp)) t r) : LogonProofSpec lib s lp t r

theorem LogonProofSpec.accepts {lp : Bytes} (h : LogonProofSpec lib s lp t r)
    (hA : proofA lp%srpN ≠ 0) (hM : s.ProofMatches lib lp) :
    AcceptLogonSpec lib (s.keyed lib lp) (proofA lp)
      ((s.keyed lib lp).expectedM lib (proofA lp)) t r := by
  cases h with
  | zeroA hA' => exact absurd hA' hA
  | rejected _ hM' _ _ => exact absurd hM hM'
  | accepted _ _ h => exact h

theorem logonProof_runs {lp : Bytes} (h : (logonProof lib cfg s lp).Runs t r) :
    LogonProofSpec lib s lp t r := by
  unfold logonProof at h
  simp only at h
  split at h
  · rename_i hA
    obtain ⟨rfl,rfl⟩ := h
    exact .zeroA hA
  rename_i hA
  split at h
  · rename_i hM
    exact .accepted hA hM (acceptLogon_runs h)
  · rename_i hM
    obtain ⟨hr,hq,ht⟩ := rejectLogon_runs h
    obtain ⟨result,s'⟩ := r
    obtain rfl : result = true := hr
    exact .rejected hA hM ht hq

def Session.identity (lib : SharedLibrary) (s : Session) : Statement :=
  .publishIdentity (lib.escapeString s.localizationName) (lib.escapeString s.os) s.safelogin

def Session.DigestMatches (lib : SharedLibrary) (s : Session) (lp : Bytes) : Prop :=
  reconnectDigest lib s.login (slice lp 1 16) s.reconnectProof s.K = slice lp 17 20

inductive ReconnectProofSpec (lib : SharedLibrary) (s : Session) (lp : Bytes) :
    List AuthEvent → Bool × Session → Prop where
  | missing (h : s.login = [] ∨ numBytes s.reconnectProof = 0 ∨ numBytes s.K = 0) :
      ReconnectProofSpec lib s lp [] (false,s.closeStatus)
  | mismatch {t : List AuthEvent} {s' : Session} (hR : ¬ s.DigestMatches lib lp)
      (ht : Calls (· = .otherThreads) t) (hc : s'.m_closed = true)
      (hq : s.closeStatus.Quiet s') : ReconnectProofSpec lib s lp t (false,s')
  | published {t : List AuthEvent} {s' : Session} (hlogin : s.login ≠ [])
      (hproof : s.reconnectProof ≠ 0) (hK : s.K ≠ 0) (hR : s.DigestMatches lib lp)
      (ht : Calls (fun c => Sending (reconnectReply s.build) c ∨ c = .countAuthed) t)
      (honce : SentOnce (reconnectReply s.build) t s')
      (hq : s.closeStatus.authenticate.Quiet s') :
      ReconnectProofSpec lib s lp (⟨.directPExecute (s.identity lib),true⟩ :: t) (true,s')
  | unpublished {t : List AuthEvent} {s' : Session} (hR : s.DigestMatches lib lp)
      (ht : Calls (· = .otherThreads) t) (hc : s'.m_closed = true)
      (hq : s.closeStatus.Quiet s') :
      ReconnectProofSpec lib s lp (⟨.directPExecute (s.identity lib),false⟩ :: t) (false,s')

theorem ReconnectProofSpec.accepts {lp : Bytes} (h : ReconnectProofSpec lib s lp t r)
    (hlogin : s.login ≠ []) (hproof : s.reconnectProof ≠ 0) (hK : s.K ≠ 0)
    (hR : s.DigestMatches lib lp) :
    ∃ stored t', t = ⟨.directPExecute (s.identity lib),stored⟩ :: t' ∧
      (stored = true → r.2.status = .authed ∧ SentOnce (reconnectReply s.build) t' r.2) := by
  cases h with
  | missing h =>
    rw [numBytes_eq_zero,numBytes_eq_zero] at h
    rcases h with h | h | h
    · exact absurd h hlogin
    · exact absurd h hproof
    · exact absurd h hK
  | mismatch hR' ht hc hq => exact absurd hR hR'
  | published _ _ _ _ ht honce hq => exact ⟨true,_,rfl,fun _ => ⟨hq.status,honce⟩⟩
  | unpublished _ ht hc hq => exact ⟨false,_,rfl,nofun⟩

theorem reconnectProof_runs {lp : Bytes} (h : (reconnectProof lib s lp).Runs t r) :
    ReconnectProofSpec lib s lp t r := by
  unfold reconnectProof at h
  simp only at h
  split at h
  · rename_i hmissing
    obtain ⟨rfl,rfl⟩ := h
    exact .missing hmissing
  rename_i hpresent
  simp only [not_or] at hpresent
  split at h
  · rename_i hR
    obtain ⟨stored,t₁,rfl,h⟩ := h
    cases stored with
    | true =>
      obtain ⟨hr,hq,ht,honce⟩ := Session.succeed_runs h (by simp [reconnectReply])
      obtain ⟨result,s'⟩ := r
      obtain rfl : result = true := hr
      exact .published hpresent.1 (fun h0 => hpresent.2.1 (numBytes_eq_zero.mpr h0))
        (fun h0 => hpresent.2.2 (numBytes_eq_zero.mpr h0)) hR ht honce hq
    | false =>
      obtain ⟨hr,hq,hc,ht⟩ := Session.close_runs h
      obtain ⟨result,s'⟩ := r
      obtain rfl : result = false := hr
      exact .unpublished hR ht hc hq
  · rename_i hR
    obtain ⟨hr,hq,hc,ht⟩ := Session.close_runs h
    obtain ⟨result,s'⟩ := r
    obtain rfl : result = false := hr
    exact .mismatch hR ht hc hq

section
variable {P : Call → Prop}

theorem loadRealmlist_meets (s : Session) (acctid : UInt32)
    (hload : P (.getRealmsForBuild s.build.toNat))
    (hchars : ∀ realmid, P (.selectNumChars realmid acctid)) :
    (loadRealmlist lib s acctid).Meets P fun _ => True := by
  have hentries : ∀ (entry : Realm → UInt8 → Bytes) (realms : List Realm),
      (realmEntries entry acctid realms).Meets P fun _ => True := by
    intro entry realms
    induction realms with
    | nil => trivial
    | cons realm rest ih => exact ⟨hchars _,fun numchars => ih.bind fun _ _ => trivial⟩
  refine ⟨hload,fun realms => ?_⟩
  simp only [Prog.bind]
  split <;> exact (hentries _ _).bind fun _ _ => trivial

theorem realmList_meets (hsync : P .otherThreads) (s : Session)
    (haccount : P (.selectAccountId s.safelogin)) (hupdate : P .updateRealmsIfNeed)
    (hload : P (.getRealmsForBuild s.build.toNat))
    (hchars : ∀ realmid acctid, P (.selectNumChars realmid acctid))
    (hsend : ∀ pkt : Bytes, P (.sender ([AuthCmd.realmList.code] ++ leBytes 2 pkt.length ++ pkt))) :
    (realmList lib s).Meets P fun r => s.Quiet r.2 ∧ (r.1 = false → r.2.m_closed = true) := by
  refine ⟨haccount,fun found => ?_⟩
  cases found with
  | none => exact (s.close_meets hsync).bind fun s₁ hclosed => ⟨hclosed.1,fun _ => hclosed.2⟩
  | some account =>
    refine ⟨hupdate,fun _ => ?_⟩
    refine (loadRealmlist_meets s account.1 hload fun _ => hchars _ _).bind fun pkt _ => ?_
    exact (s.send_meets hsync _ (hsend pkt)).bind fun s₁ hq => ⟨hq,nofun⟩

end

theorem realmList_runs (h : (realmList lib s).Runs t r) :
    s.Quiet r.2 ∧ Calls Harmless t ∧ (r.1 = false → r.2.m_closed = true) := by
  have hreply : ∀ pkt : Bytes,
      Harmless (.sender ([AuthCmd.realmList.code] ++ leBytes 2 pkt.length ++ pkt)) := by
    intro pkt
    constructor <;> simp [AuthCmd.code]
  obtain ⟨ht,hq,hc⟩ := (realmList_meets trivial s trivial trivial trivial
    (fun _ _ => trivial) hreply).runs h
  exact ⟨hq,ht,hc⟩

def Streaming (c : Call) : Prop :=
  c = .otherThreads ∨ (∃ stream offset, c = .seekStream stream offset) ∨
    ∃ artifact offset, c = .spawnTransfer artifact offset

theorem Streaming.harmless {c : Call} (h : Streaming c) : Harmless c := by
  rcases h with rfl | ⟨_,_,rfl⟩ | ⟨_,_,rfl⟩ <;> trivial

theorem sentBytes_streaming (h : Calls Streaming t) :
    sentBytes t = [] := by
  rw [sentBytes,List.filterMap_eq_nil_iff]
  intro ev hmem
  rcases h ev hmem with hc | ⟨_,_,hc⟩ | ⟨_,_,hc⟩ <;> rw [hc]

theorem startPatchTransfer_runs {artifact : PatchArtifact} {offset : UInt64} {ok : Bool}
    (h : (beginPatchStream.startPatchTransfer artifact offset).Runs t ok) :
    Calls Streaming t := by
  unfold beginPatchStream.startPatchTransfer at h
  split at h
  · obtain ⟨rfl,-⟩ := h
    exact .nil
  split at h
  · obtain ⟨rfl,-⟩ := h
    exact .nil
  obtain ⟨sought,t₁,rfl,h⟩ := h
  have hseek : Streaming (.seekStream artifact.stream offset) := .inr (.inl ⟨_,_,rfl⟩)
  cases sought with
  | false =>
    obtain ⟨rfl,-⟩ := h
    exact .cons hseek .nil
  | true =>
    obtain ⟨_,t₂,rfl,rfl,-⟩ := h
    exact .cons hseek (.cons (.inr (.inr ⟨_,_,rfl⟩)) .nil)

theorem beginPatchStream_runs {offset : UInt64} (h : (beginPatchStream s offset).Runs t r) :
    Calls Streaming t ∧ (r.1 = false → r.2.m_closed = true) ∧
      (s.m_patchArtifact = none ∧ r.1 = false ∧ s.Quiet r.2 ∨
        ({ s with status := .closed, m_patchArtifact := none } : Session).Quiet r.2) := by
  unfold beginPatchStream at h
  split at h
  · rename_i hnone
    obtain ⟨hr,hq,hc,ht⟩ := Session.close_runs h
    exact ⟨ht.mono fun _ => .inl,fun _ => hc,.inl ⟨hnone,hr,hq⟩⟩
  · obtain ⟨t₁,t₂,ok,rfl,hstart,h⟩ := Prog.runs_bind.mp h
    have ht₁ := startPatchTransfer_runs hstart
    cases ok with
    | true =>
      obtain ⟨rfl,rfl⟩ := h
      exact ⟨ht₁.append .nil,fun hf => by simp at hf,.inr (.refl _)⟩
    | false =>
      obtain ⟨hr,hq,hc,ht⟩ := Session.close_runs h
      exact ⟨ht₁.append (ht.mono fun _ => .inl),fun _ => hc,.inr hq⟩

theorem xferCancel_runs (h : (xferCancel s).Runs t r) :
    r.1 = true ∧ s.Quiet r.2 ∧ r.2.m_closed = true ∧ Calls Streaming t := by
  obtain ⟨t₁,t₂,s₁,rfl,hclose,rfl,rfl⟩ := Prog.runs_bind.mp h
  obtain ⟨t₃,t₄,s₂,rfl,hsync,rfl,rfl⟩ := Prog.runs_bind.mp hclose
  obtain ⟨hq,ht⟩ := Session.sync_runs hsync
  exact ⟨rfl,hq.trans s₂.closeConnection_quiet,rfl,
    ((ht.mono fun _ => .inl).append .nil).append .nil⟩

end

end Realmd
