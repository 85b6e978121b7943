import Realmd.SessionKeys
import Realmd.VerifierReuse
set_option autoImplicit false

namespace Realmd
open ByteCodec Interaction

structure VerifierPair (lib : SharedLibrary) (digest : Bytes) (salt v : Nat) : Prop where
  pos : 0 < salt
  verifier : v = modExp srpG (verifierX lib salt digest) srpN

def StoredPair (lib : SharedLibrary) (digest s_hex v_hex : Bytes) : Prop :=
  ∃ salt v, VerifierPair lib digest salt v ∧ s_hex = lib.asHexStr salt ∧ v_hex = lib.asHexStr v

def AccountRow.Usable (row : AccountRow) : Prop :=
  row.v.length = saltByteSize*2 ∧ row.s.length = saltByteSize*2

def AccountRow.Sound (lib : SharedLibrary) (row : AccountRow) : Prop :=
  row.Usable → StoredPair lib row.sha_pass_hash row.s row.v

/-- What a handler has seen so far: the account it read, and the salt it drew. -/
structure Seen where
  row : Option (Bytes × AccountRow)
  salt : Option Nat

def Seen.next (m : Seen) : AuthEvent → Seen
  | ⟨.selectAccount username,some row⟩ => { m with row := some (username,row) }
  | ⟨.setRand bits,drawn⟩ => if bits = 256 then { m with salt := some drawn } else m
  | _ => m

section
variable (lib : SharedLibrary)

/-- A verifier is only stored for the account that was read, and made from the salt that
was drawn. -/
def Seen.allows (m : Seen) : Call → Prop
  | .pExecute (.updateVerifier v s username) => ∃ row salt, m.row = some (username,row) ∧
      m.salt = some salt ∧ s = lib.asHexStr salt ∧
      v = lib.asHexStr (modExp srpG (verifierX lib salt row.sha_pass_hash) srpN)
  | .directPExecute (.updateVerifier ..) => False
  | _ => True

def Seen.Takes (m : Seen) (s' : Session) : Prop :=
  ∃ row, m.row = some (s'.safelogin,row) ∧
    (row.Usable ∧ (∃ old, s'.s = lib.setHexStr old row.s) ∧
        (∃ old, s'.v = lib.setHexStr old row.v) ∨
      m.salt = some s'.s ∧ s'.v = modExp srpG (verifierX lib s'.s row.sha_pass_hash) srpN)

end

def Unseen : Call → Prop
  | .selectAccount _ | .setRand _ | .pExecute (.updateVerifier ..)
  | .directPExecute (.updateVerifier ..) => False
  | _ => True

section
variable {lib : SharedLibrary} {cfg : WrongPass} {s : Session}

theorem Unseen.allows {c : Call} (h : Unseen c) (m : Seen) : m.allows lib c := by
  cases c <;> try trivial
  case pExecute statement => cases statement <;> trivial
  case directPExecute statement => cases statement <;> trivial

theorem Unseen.next {c : Call} (h : Unseen c) (m : Seen) (r : Reply c) : m.next ⟨c,r⟩ = m := by
  cases c <;> first | rfl | contradiction

theorem unseen_follows {α : Type} {p : AuthProg α} {Q : α → Prop} (h : p.Meets Unseen Q)
    (m : Seen) : p.Follows (Seen.allows lib) Seen.next (fun m' a => m' = m ∧ Q a) m :=
  h.follows (fun m _ hc => hc.allows m) (fun m _ r hc => hc.next m r) m

theorem takeVerifier_follows {m : Seen} {row : AccountRow}
    (hrow : m.row = some (s.safelogin,row)) :
    (takeVerifier lib s row).Follows (Seen.allows lib) Seen.next
      (fun m' s' => m'.Takes lib s') m := by
  unfold takeVerifier
  split
  · refine ⟨trivial,fun salt => ⟨⟨row,salt,?_,rfl,rfl,rfl⟩,fun _ => ?_⟩⟩
    · exact hrow
    · exact ⟨row,hrow,.inr ⟨rfl,rfl⟩⟩
  · rename_i hgood
    rw [not_or,not_not,not_not] at hgood
    exact ⟨row,hrow,.inl ⟨hgood,⟨_,rfl⟩,_,rfl⟩⟩

theorem Seen.Takes.same {m : Seen} {s' : Session} (h : m.Takes lib s)
    (hlogin : s'.safelogin = s.safelogin) (hs : s'.s = s.s) (hv : s'.v = s.v) :
    m.Takes lib s' := by
  obtain ⟨row,hrow,hcases⟩ := h
  refine ⟨row,by rw [hlogin,hrow],?_⟩
  rw [hs,hv]
  exact hcases

theorem challengeAccount_follows {m : Seen} {row : AccountRow}
    (hrow : m.row = some (s.safelogin,row)) (clientLocale : Option Bytes) :
    (challengeAccount lib s row clientLocale).Follows (Seen.allows lib) Seen.next
      (fun m' s' => m'.Takes lib s') m := by
  refine (takeVerifier_follows hrow).bind fun m₁ s₁ htakes => ?_
  refine ⟨trivial,fun b => ⟨trivial,fun unk3 => ?_⟩⟩
  have hsend : ((s₁.expectProof lib b row clientLocale).send
      (challengeReply lib (s₁.expectProof lib b row clientLocale).B
        (s₁.expectProof lib b row clientLocale).s unk3)).Meets Unseen
      (s₁.expectProof lib b row clientLocale).Quiet :=
    Session.send_meets trivial _ _ trivial
  refine (unseen_follows hsend _).mono fun m₂ s₂ hsent => ?_
  obtain ⟨rfl,hq⟩ := hsent
  refine htakes.same ?_ ?_ ?_ <;> rw [hq.same] <;> rfl

def Expecting (lib : SharedLibrary) (m : Seen) (r : Bool × Session) : Prop :=
  r.2.status = .logonProof → m.Takes lib r.2

theorem refuse_follows (hs : s.status = .closed) (result : AuthResult) (m : Seen) :
    (refuse s result).Follows (Seen.allows lib) Seen.next (Expecting lib) m := by
  have hsend : (s.send (challengeFailure result)).Meets Unseen s.Quiet :=
    Session.send_meets trivial _ _ trivial
  refine (unseen_follows hsend m).bind fun m₁ s₁ hsent hstatus => ?_
  rw [hsent.2.status,hs] at hstatus
  contradiction

theorem logonChallenge_follows (s : Session) (buf : Bytes) (m : Seen) :
    (logonChallenge lib s.closeStatus buf).Follows (Seen.allows lib) Seen.next
      (Expecting lib) m := by
  unfold logonChallenge
  simp only
  split
  · exact fun hstatus => by contradiction
  refine ⟨trivial,fun banned => ?_⟩
  cases banned with
  | some _ => exact refuse_follows rfl _ _
  | none =>
    refine ⟨trivial,fun found => ?_⟩
    cases found with
    | none => exact refuse_follows rfl _ _
    | some row =>
      simp only [Prog.bind]
      split
      · exact refuse_follows rfl _ _
      refine ⟨trivial,fun dates => ?_⟩
      cases dates with
      | some _ => exact refuse_follows rfl _ _
      | none => exact (challengeAccount_follows rfl _).bind fun m' s' htakes _ => htakes

theorem requestBody_follows (request : Request) (m : Seen) :
    (requestBody lib cfg request).Follows (Seen.allows lib) Seen.next
      (fun m' r => request.cmd = .authLogonChallenge → Expecting lib m' r) m := by
  obtain ⟨s,cmd,frame⟩ := request
  by_cases hcmd : cmd = .authLogonChallenge
  · subst hcmd
    exact (logonChallenge_follows s _ m).mono fun m' r h _ => h
  · have hallowed : (frameBody lib cfg cmd frame s).Meets
        (fun c => ∀ m : Seen, m.allows lib c) fun _ => True := by
      refine frameBody_stores ?_ cmd (fun h => absurd h hcmd) (fun _ _ => trivial)
        (fun s id m => ?_) (fun _ _ => trivial) (fun _ _ => trivial) frame s
      · intro c hc m
        cases c <;> first | trivial | exact absurd trivial hc
      · unfold wrongPasswordBan
        split <;> trivial
    exact (hallowed.follows_any (fun m c hc => hc m) m).mono fun m' r _ h => absurd h hcmd

end

def Statement.leavesVerifiers : Statement → Bool
  | .updateVerifier .. => false
  | _ => true

def LoginDatabase.digest (db : LoginDatabase) (name : Bytes) : Option Bytes :=
  (db.account name).map fun record => record.row.sha_pass_hash

def Statement.Paired (lib : SharedLibrary) (digests : Bytes → Option Bytes) :
    Statement → Prop
  | .updateVerifier v s username =>
      ∀ digest, digests username = some digest → StoredPair lib digest s v
  | _ => True

/-- What the surroundings said of an account is true of its password, and a salt they
drew is not zero. -/
def ToldOf (lib : SharedLibrary) (digests : Bytes → Option Bytes) : AuthEvent → Prop
  | ⟨.selectAccount username,some row⟩ =>
      digests username = some row.sha_pass_hash ∧ row.Sound lib
  | ⟨.setRand bits,drawn⟩ => bits = 256 → 0 < drawn
  | _ => True

/-- All the verifiers there are in the database or on their way to it. -/
structure LoginDatabase.Paired (lib : SharedLibrary) (digests : Bytes → Option Bytes)
    (db : LoginDatabase) : Prop where
  digest : ∀ name, db.digest name = digests name
  rows : ∀ name record, db.account name = some record → record.row.Sound lib
  queue : ∀ statement ∈ db.queue, statement.Paired lib digests

section
variable {lib : SharedLibrary} {digests : Bytes → Option Bytes} {db : LoginDatabase}

theorem LoginDatabase.Paired.update (h : db.Paired lib digests) {username : Bytes}
    {f : AccountRecord → AccountRecord}
    (hdigest : ∀ record, (f record).row.sha_pass_hash = record.row.sha_pass_hash)
    (hsound : ∀ record, db.account username = some record → (f record).row.Sound lib) :
    (db.update username f).Paired lib digests where
  digest name := by
    rw [← h.digest name]
    simp only [LoginDatabase.digest,LoginDatabase.update]
    split
    · rw [Option.map_map]
      exact congrArg (fun g => (db.account name).map g) (funext hdigest)
    · rfl
  rows name record hrecord := by
    simp only [LoginDatabase.update] at hrecord
    split at hrecord
    · rename_i heq
      obtain ⟨old,hold,rfl⟩ := Option.map_eq_some_iff.mp hrecord
      exact hsound old (heq ▸ hold)
    · exact h.rows name record hrecord
  queue := h.queue

theorem LoginDatabase.Paired.execute (h : db.Paired lib digests) {statement : Statement}
    (hs : statement.Paired lib digests) : (db.execute statement).Paired lib digests := by
  cases statement with
  | updateVerifier v s username =>
    refine h.update (fun _ => rfl) fun record hrecord _ => ?_
    refine hs record.row.sha_pass_hash ?_
    rw [← h.digest username,LoginDatabase.digest,hrecord]
    rfl
  | publishSession sessionkey last_ip locale client_locale os username =>
    exact h.update (fun _ => rfl) fun record hrecord => h.rows username record hrecord
  | countFailedLogin username =>
    exact h.update (fun _ => rfl) fun record hrecord => h.rows username record hrecord
  | publishIdentity | banAccount | banIp => exact ⟨h.digest,h.rows,h.queue⟩

theorem LoginDatabase.Paired.work (h : db.Paired lib digests) : db.work.Paired lib digests := by
  unfold LoginDatabase.work
  split
  · exact h
  · rename_i statement rest hqueue
    have hall : ∀ st ∈ statement :: rest, st.Paired lib digests := hqueue ▸ h.queue
    have hrest : LoginDatabase.Paired lib digests { db with queue := rest } :=
      ⟨h.digest,h.rows,fun st hmem => hall st (List.mem_cons_of_mem _ hmem)⟩
    exact hrest.execute (hall statement List.mem_cons_self)

end

section
variable {ω : Type} {lib : SharedLibrary} {cfg : WrongPass} {digests : Bytes → Option Bytes}
  {outside : AuthEnv ω} {bg : Background ω} {w : LoginDatabase × ω} {p : RequestPool ω}

theorem Seen.told {t : List AuthEvent} (h : ∀ ev ∈ t, ToldOf lib digests ev) :
    (∀ username row, (t.foldl Seen.next ⟨none,none⟩).row = some (username,row) →
      digests username = some row.sha_pass_hash ∧ row.Sound lib) ∧
    ∀ salt, (t.foldl Seen.next ⟨none,none⟩).salt = some salt → 0 < salt := by
  induction t using List.reverseRecOn with
  | nil => exact ⟨nofun,nofun⟩
  | append_singleton t ev ih =>
    obtain ⟨hrow,hsalt⟩ := ih fun e hmem => h e (List.mem_append_left _ hmem)
    have hev := h ev (by simp)
    rw [List.foldl_append]
    generalize t.foldl Seen.next ⟨none,none⟩ = m at hrow hsalt
    change (∀ username row, (m.next ev).row = _ → _) ∧ ∀ salt, (m.next ev).salt = _ → _
    unfold Seen.next
    split
    · refine ⟨?_,hsalt⟩
      rintro _ _ ⟨⟩
      exact hev
    · split
      · rename_i hbits
        refine ⟨hrow,?_⟩
        rintro _ ⟨⟩
        exact hev hbits
      · exact ⟨hrow,hsalt⟩
    · exact ⟨hrow,hsalt⟩

theorem Seen.allows.paired {m : Seen} {statement : Statement}
    (h : m.allows lib (.pExecute statement))
    (hrow : ∀ username row, m.row = some (username,row) →
      digests username = some row.sha_pass_hash ∧ row.Sound lib)
    (hsalt : ∀ salt, m.salt = some salt → 0 < salt) : statement.Paired lib digests := by
  cases statement with
  | updateVerifier v s username =>
    obtain ⟨row,salt,hseen,hdrawn,rfl,rfl⟩ := h
    intro digest hdigest
    obtain rfl : row.sha_pass_hash = digest :=
      Option.some.inj ((hrow username row hseen).1.symm.trans hdigest)
    exact ⟨salt,_,⟨hsalt salt hdrawn,rfl⟩,rfl,rfl⟩
  | _ => trivial

structure PairedPool (lib : SharedLibrary) (cfg : WrongPass) (digests : Bytes → Option Bytes)
    (p : RequestPool ω) : Prop where
  traced : p.Traced (requestBody lib cfg)
  database : p.env.1.Paired lib digests
  told : ∀ entry ∈ p.log, ToldOf lib digests entry.2

def seenBy (p : RequestPool ω) (i : Nat) : Seen := (p.trace i).foldl Seen.next ⟨none,none⟩

theorem PairedPool.seen (h : PairedPool lib cfg digests p) (i : Nat) :
    (∀ username row, (seenBy p i).row = some (username,row) →
      digests username = some row.sha_pass_hash ∧ row.Sound lib) ∧
    ∀ salt, (seenBy p i).salt = some salt → 0 < salt :=
  Seen.told fun _ hmem => h.told _ (Pool.mem_log_of_mem_trace hmem)

theorem PairedPool.follows (h : PairedPool lib cfg digests p) {i : Nat}
    {th : Thread Call Reply Request (Bool × Session)} (hth : p.threads[i]? = some th) :
    th.prog.Follows (Seen.allows lib) Seen.next
      (fun m' r => th.tag.cmd = .authLogonChallenge → Expecting lib m' r) (seenBy p i) :=
  (requestBody_follows th.tag _).after (h.traced.after i th hth)

theorem databaseEnv_told (hdraw : ∀ o, 0 < (outside (.setRand 256) o).1)
    (h : w.1.Paired lib digests) (c : Call) :
    ToldOf lib digests ⟨c,(databaseEnv outside c w).1⟩ := by
  cases c <;> try trivial
  case selectAccount username =>
    simp only [databaseEnv]
    cases hrecord : w.1.account username with
    | none => trivial
    | some record =>
      refine ⟨?_,h.rows username record hrecord⟩
      rw [← h.digest username,LoginDatabase.digest,hrecord]
      rfl
  case setRand bits =>
    rintro rfl
    exact hdraw _

theorem databaseEnv_paired (h : w.1.Paired lib digests) {c : Call} {m : Seen}
    (hc : m.allows lib c)
    (hrow : ∀ username row, m.row = some (username,row) →
      digests username = some row.sha_pass_hash ∧ row.Sound lib)
    (hsalt : ∀ salt, m.salt = some salt → 0 < salt) :
    (databaseEnv outside c w).2.1.Paired lib digests := by
  cases c <;> try exact h
  case pExecute statement =>
    refine ⟨h.digest,h.rows,?_⟩
    intro st hmem
    rcases List.mem_append.mp hmem with hold | hnew
    · exact h.queue st hold
    · rw [List.mem_singleton.mp hnew]
      exact hc.paired hrow hsalt
  case directPExecute statement =>
    simp only [databaseEnv]
    split
    · refine h.execute ?_
      cases statement <;> trivial
    · exact h

theorem background_paired (h : w.1.Paired lib digests) : (bg.work w).1.Paired lib digests := by
  have hlater : LoginDatabase.Paired lib digests { w.1 with now := w.1.now+bg.elapse w.2 } :=
    ⟨h.digest,h.rows,h.queue⟩
  simp only [Background.work]
  split
  · exact hlater.work
  · exact hlater

theorem PairedPool.step (hdraw : ∀ o, 0 < (outside (.setRand 256) o).1)
    (h : PairedPool lib cfg digests p) (m : Move Request) :
    PairedPool lib cfg digests
      (p.step (databaseEnv outside) (requestBody lib cfg) bg.work m) := by
  have htraced : (p.step (databaseEnv outside) (requestBody lib cfg) bg.work m).Traced
      (requestBody lib cfg) := h.traced.step m
  generalize hp' : p.step (databaseEnv outside) (requestBody lib cfg) bg.work m = p' at htraced ⊢
  have hspec := hp' ▸ p.step_spec (databaseEnv outside) (requestBody lib cfg) bg.work m
  cases hspec with
  | idle i => exact h
  | start tag => exact ⟨htraced,h.database,h.told⟩
  | work => exact ⟨htraced,background_paired h.database,h.told⟩
  | @call i tag c k hth =>
    obtain ⟨hrow,hsalt⟩ := h.seen i
    refine ⟨htraced,databaseEnv_paired h.database (h.follows hth).1 hrow hsalt,?_⟩
    intro entry hmem
    rcases List.mem_append.mp hmem with hold | hnew
    · exact h.told entry hold
    · rw [List.mem_singleton.mp hnew]
      exact databaseEnv_told hdraw h.database c

theorem Seen.Takes.pair {m : Seen} {s' : Session} (h : m.Takes lib s')
    (hrow : ∀ username row, m.row = some (username,row) →
      digests username = some row.sha_pass_hash ∧ row.Sound lib)
    (hsalt : ∀ salt, m.salt = some salt → 0 < salt) :
    ∃ digest, digests s'.safelogin = some digest ∧ VerifierPair lib digest s'.s s'.v := by
  obtain ⟨row,hseen,hcases⟩ := h
  obtain ⟨hdigest,hsound⟩ := hrow _ row hseen
  refine ⟨row.sha_pass_hash,hdigest,?_⟩
  rcases hcases with ⟨husable,⟨old,hs⟩,⟨old',hv⟩⟩ | ⟨hdrawn,hv⟩
  · obtain ⟨salt,v,hpair,hs_hex,hv_hex⟩ := hsound husable
    have hpos : 0 < v := by
      rw [hpair.verifier]
      exact verifier_pos _
    rw [hs_hex,lib.setHexStr_asHexStr old hpair.pos] at hs
    rw [hv_hex,lib.setHexStr_asHexStr old' hpos] at hv
    rw [hs,hv]
    exact hpair
  · exact ⟨hsalt _ hdrawn,hv⟩

/-- However handlers of many sessions take turns with the worker, and whichever of two
challenges of one account stores its verifier last: every verifier the database holds in
full is the one of its salt and the account's password, and so is the one that a logon
challenge goes on with. -/
theorem verifiers_stay_paired (lib : SharedLibrary) (cfg : WrongPass) (outside : AuthEnv ω)
    (hdraw : ∀ o, 0 < (outside (.setRand 256) o).1) (bg : Background ω) (db : LoginDatabase)
    (o : ω) (hrows : ∀ name record, db.account name = some record → record.row.Sound lib)
    (hqueue : ∀ statement ∈ db.queue, statement.leavesVerifiers = true)
    (moves : List (Move Request)) (p : RequestPool ω)
    (hp : p = RequestPool.run lib cfg outside bg moves (Pool.start (db,o))) :
    (∀ name record, p.env.1.account name = some record →
      db.digest name = some record.row.sha_pass_hash ∧ record.row.Sound lib) ∧
    ∀ (i : Nat) (request : Request) (r : Bool × Session),
      p.threads[i]? = some ⟨request,.ret r⟩ → request.cmd = .authLogonChallenge →
        r.2.status = .logonProof → ∃ digest,
          db.digest r.2.safelogin = some digest ∧ VerifierPair lib digest r.2.s r.2.v := by
  have hpaired : PairedPool lib cfg db.digest p := by
    rw [hp]
    refine Pool.run_keeps _ _ _ (fun q m hq => hq.step hdraw m) moves
      ⟨Pool.start_traced _,⟨fun _ => rfl,hrows,?_⟩,by simp [Pool.start]⟩
    intro statement hmem
    have hleaves := hqueue statement hmem
    cases statement <;> trivial
  constructor
  · intro name record hrecord
    refine ⟨?_,hpaired.database.rows name record hrecord⟩
    rw [← hpaired.database.digest name,LoginDatabase.digest,hrecord]
    rfl
  · intro i request r hth hcmd hstatus
    obtain ⟨hrow,hsalt⟩ := hpaired.seen i
    exact (hpaired.follows hth hcmd hstatus).pair hrow hsalt

end

def countingDraws : AuthEnv Nat := fun c n =>
  match c with
  | .setRand _ => (256^31+sampleDraw+n,n+1)
  | c => ((({} : Replies).env c ()).1,n)

/-- Both challenges of an account draw their salts before either verifier is stored. -/
theorem verifiers_stay_paired_race :
    let p := RequestPool.run referenceLibrary ⟨3,600,true⟩ countingDraws
      ⟨fun _ => 1,fun _ => true,id⟩
      (.start sampleRequest :: .start sampleRequest ::
        ((List.replicate 9 [.call 0,.call 1]).flatten ++ [.work,.work,.work]))
      (Pool.start (LoginDatabase.sample,0))
    (∀ name record, p.env.1.account name = some record →
      LoginDatabase.sample.digest name = some record.row.sha_pass_hash ∧
        record.row.Sound referenceLibrary) ∧
    ∃ r r', p.threads[0]? = some ⟨sampleRequest,.ret r⟩ ∧
      p.threads[1]? = some ⟨sampleRequest,.ret r'⟩ ∧ r.2.s ≠ r'.2.s ∧
      (∃ digest, LoginDatabase.sample.digest r.2.safelogin = some digest ∧
        VerifierPair referenceLibrary digest r.2.s r.2.v) ∧
      ∃ digest, LoginDatabase.sample.digest r'.2.safelogin = some digest ∧
        VerifierPair referenceLibrary digest r'.2.s r'.2.v := by
  intro p
  have hended : (p.ended 0).map (fun x => (x.1,x.2.2.status,x.2.2.s)) =
        some (sampleRequest,.logonProof,256^31+sampleDraw) ∧
      (p.ended 1).map (fun x => (x.1,x.2.2.status,x.2.2.s)) =
        some (sampleRequest,.logonProof,256^31+sampleDraw+1) := by
    decide +kernel
  obtain ⟨tag,r,hth,hr⟩ := Pool.ended_map hended.1
  obtain ⟨tag',r',hth',hr'⟩ := Pool.ended_map hended.2
  obtain ⟨rfl,hstatus,hs⟩ : tag = _ ∧ r.2.status = _ ∧ r.2.s = _ := by simpa using hr
  obtain ⟨rfl,hstatus',hs'⟩ : tag' = _ ∧ r'.2.status = _ ∧ r'.2.s = _ := by simpa using hr'
  have hrows : ∀ name record, LoginDatabase.sample.account name = some record →
      record.row.Sound referenceLibrary := by
    intro name record hrecord husable
    simp only [LoginDatabase.sample] at hrecord
    split at hrecord
    · obtain rfl := Option.some.inj hrecord
      exact absurd husable.1 (by decide)
    · contradiction
  obtain ⟨hall,hsessions⟩ := verifiers_stay_paired referenceLibrary ⟨3,600,true⟩ countingDraws
    (fun n => by simp [countingDraws]) ⟨fun _ => 1,fun _ => true,id⟩
    LoginDatabase.sample 0 hrows (by decide) _ p rfl
  refine ⟨hall,r,r',hth,hth',?_,hsessions 0 _ r hth rfl hstatus,
    hsessions 1 _ r' hth' rfl hstatus'⟩
  rw [hs,hs']
  omega

end Realmd
