import Realmd.Interleaving
import Realmd.SrpCompleteness
set_option autoImplicit false

namespace Realmd
open ByteCodec Interaction

/-- The database layer after `AllowAsyncTransactions`: the id and the failed logins of
each account as applied so far, and the statements that wait for the worker. -/
structure Storage where
  failed : Bytes → Option (UInt32 × UInt32)
  queue : List Statement

/-- A full column stays full. -/
def incrementColumn (n : UInt32) : UInt32 := if n.toNat = 2^32-1 then n else n+1

def Storage.update (db : Storage) (username : Bytes) (f : UInt32 → UInt32) : Storage :=
  { db with failed := fun u =>
      if u = username then (db.failed u).map fun row => (row.1,f row.2) else db.failed u }

def Storage.execute (db : Storage) : Statement → Storage
  | .publishSession _ _ _ _ _ username => db.update username fun _ => 0
  | .countFailedLogin username => db.update username incrementColumn
  | _ => db

def Storage.work (db : Storage) : Storage :=
  match db.queue with
  | [] => db
  | statement :: rest => { db with queue := rest }.execute statement

variable {ω : Type}

/-- The surroundings of the sessions with this layer in them: `PExecute` appends to the
queue, `DirectPExecute` applies at once unless it fails, and `PQuery` reads what was
applied so far. -/
def storageEnv (outside : AuthEnv ω) : AuthEnv (Storage × ω) := fun c w =>
  match c with
  | .selectFailedLogins username => (w.1.failed username,w)
  | .pExecute statement =>
      ((outside (.pExecute statement) w.2).1,
        ({ w.1 with queue := w.1.queue ++ [statement] },(outside (.pExecute statement) w.2).2))
  | .directPExecute statement =>
      ((outside (.directPExecute statement) w.2).1,
        (if (outside (.directPExecute statement) w.2).1 then w.1.execute statement else w.1,
          (outside (.directPExecute statement) w.2).2))
  | c => ((outside c w.2).1,(w.1,(outside c w.2).2))

abbrev LogonPool (ω : Type) := Pool Call Reply (Session × Bytes) (Storage × ω) (Bool × Session)

section
variable (lib : SharedLibrary) (cfg : WrongPass)

def proofBody (tag : Session × Bytes) : AuthProg (Bool × Session) :=
  logonProof lib cfg tag.1 tag.2

def LogonPool.run (outside : AuthEnv ω) (moves : List (Move (Session × Bytes)))
    (p : LogonPool ω) : LogonPool ω :=
  Pool.run (storageEnv outside) (proofBody lib cfg) (fun w => (w.1.work,w.2)) p moves

def addWrong (name : Bytes) (is : List Nat) : Nat × AuthEvent → List Nat
  | (_,⟨.directPExecute (.publishSession _ _ _ _ _ username),stored⟩) =>
      if stored ∧ username = name then [] else is
  | (i,⟨.pExecute (.countFailedLogin username),_⟩) =>
      if username = name then i :: is else is
  | _ => is

/-- The threads whose wrong proof for the account was counted since its last
successful logon. -/
def wrongSince (name : Bytes) (log : List (Nat × AuthEvent)) : List Nat :=
  log.foldl (addWrong name) []

def Plain : Call → Prop
  | .pExecute _ | .selectFailedLogins _ => False
  | .directPExecute statement => ∃ key ip locale client_locale os username,
      statement = .publishSession key ip locale client_locale os username
  | _ => True

structure Session.SamePeer (s s' : Session) : Prop where
  name : s'.safelogin = s.safelogin
  address : s'.remote_address = s.remote_address

/-- A program that counts a failure, if at all, as its last deed but for the judgment. -/
inductive Lawful (s : Session) : AuthProg (Bool × Session) → Prop where
  | ret (r : Bool × Session) : Lawful s (.ret r)
  | other {c : Call} {k : Reply c → AuthProg (Bool × Session)} (hc : Plain c)
      (hk : ∀ r, Lawful s (k r)) : Lawful s (.ask c k)
  | count {s' : Session} (hs : s.SamePeer s') :
      Lawful s (.ask (.pExecute (.countFailedLogin s'.safelogin)) fun _ =>
        .ask (.selectFailedLogins s'.safelogin) (judgeFailures lib cfg s'))

variable {lib cfg} {s : Session}

theorem Lawful.of_meets {q : AuthProg (Bool × Session)} (h : q.Meets Plain fun _ => True) :
    Lawful lib cfg s q := by
  induction q with
  | ret r => exact .ret r
  | ask c k ih => exact .other h.1 fun r => ih r (h.2 r)

theorem Lawful.bind {q : AuthProg Session} {f : Session → AuthProg (Bool × Session)}
    {Q : Session → Prop} (h : q.Meets Plain Q) (hf : ∀ s', Q s' → Lawful lib cfg s (f s')) :
    Lawful lib cfg s (q >>= f) := by
  induction q with
  | ret s' => exact hf s' h
  | ask c k ih => exact .other h.1 fun r => ih r (h.2 r)

theorem acceptLogon_plain (s : Session) (A M : Nat) :
    (acceptLogon lib s A M).Meets Plain fun _ => True :=
  acceptLogon_meets trivial s A M trivial trivial trivial (fun _ => trivial)
    ⟨_,_,_,_,_,_,rfl⟩ trivial trivial

theorem Session.SamePeer.quiet {s₁ s₂ : Session} (h : s.SamePeer s₁) (hq : s₁.Quiet s₂) :
    s.SamePeer s₂ := by
  rw [hq.same]
  exact ⟨h.name,h.address⟩

theorem rejectLogon_lawful {s₁ : Session} (h : s.SamePeer s₁) :
    Lawful lib cfg s (rejectLogon lib cfg s₁) := by
  refine .bind (s₁.send_meets trivial _ trivial) fun s' hq => ?_
  split
  · exact .count (h.quiet hq)
  · exact .ret _

theorem logonProof_lawful (s : Session) (lp : Bytes) :
    Lawful lib cfg s (logonProof lib cfg s lp) := by
  unfold logonProof
  simp only
  split
  · exact .ret _
  split
  · exact .of_meets (acceptLogon_plain _ _ _)
  · exact rejectLogon_lawful ⟨rfl,rfl⟩

def Statement.resets : Statement → Bool
  | .publishSession _ _ _ _ _ _ => true
  | _ => false

/-- Nothing in the queue resets the counter, and the counter with the increments still
in the queue comes to at least `k`. -/
structure Storage.Holds (db : Storage) (name : Bytes) (id : UInt32) (k : Nat) : Prop where
  queued : ∀ statement ∈ db.queue, statement.resets = false
  row : ∃ n, db.failed name = some (id,n) ∧
    (k ≤ n.toNat+db.queue.count (.countFailedLogin name) ∨ n.toNat = 2^32-1)

variable {db : Storage} {name : Bytes} {id : UInt32} {k : Nat}

theorem Storage.Holds.enqueue (h : db.Holds name id k) {statement : Statement}
    (hs : statement.resets = false) :
    ({ db with queue := db.queue ++ [statement] } : Storage).Holds name id
      (k+if statement = .countFailedLogin name then 1 else 0) := by
  obtain ⟨n,hrow,hn⟩ := h.row
  constructor
  · intro st hmem
    rcases List.mem_append.mp hmem with hold | hnew
    · exact h.queued st hold
    · rw [List.mem_singleton.mp hnew]
      exact hs
  · refine ⟨n,hrow,hn.imp_left fun hk => ?_⟩
    rw [List.count_append,List.count_singleton]
    by_cases heq : statement = .countFailedLogin name
    · simp only [heq,if_true,beq_self_eq_true]
      omega
    · simp only [heq,if_false,beq_iff_eq,Nat.add_zero]
      omega

theorem Storage.update_failed (db : Storage) (username : Bytes) (f : UInt32 → UInt32) :
    (db.update username f).failed name =
      if name = username then (db.failed name).map fun row => (row.1,f row.2)
      else db.failed name := rfl

theorem Storage.Holds.publish (h : db.Holds name id k) (username : Bytes) :
    (db.update username fun _ => 0).Holds name id (if username = name then 0 else k) := by
  obtain ⟨n,hrow,hn⟩ := h.row
  refine ⟨h.queued,?_⟩
  rw [db.update_failed]
  by_cases heq : username = name
  · subst heq
    refine ⟨0,?_,.inl ?_⟩
    · rw [if_pos rfl,hrow]
      rfl
    · rw [if_pos rfl]
      exact Nat.zero_le _
  · rw [if_neg (Ne.symm heq),if_neg heq]
    exact ⟨n,hrow,hn⟩

theorem incrementColumn_ge {n : UInt32} :
    n.toNat+1 ≤ (incrementColumn n).toNat ∨ (incrementColumn n).toNat = 2^32-1 := by
  unfold incrementColumn
  split
  · rename_i hfull
    exact .inr hfull
  · have hlt := n.toNat_lt
    rw [UInt32.toNat_add]
    simp only [UInt32.reduceToNat]
    omega

theorem Storage.Holds.work (h : db.Holds name id k) : db.work.Holds name id k := by
  obtain ⟨n,hrow,hn⟩ := h.row
  have hqueued := h.queued
  unfold Storage.work
  split
  · exact h
  · rename_i statement rest hqueue
    rw [hqueue] at hqueued hn
    have hrest : ∀ st ∈ rest, st.resets = false := fun st hmem => hqueued st (by simp [hmem])
    have hsame : ∀ u, u ≠ name → statement = .countFailedLogin u →
        k ≤ n.toNat+rest.count (.countFailedLogin name) ∨ n.toNat = 2^32-1 := by
      rintro u hu rfl
      rwa [List.count_cons_of_ne (by simpa using hu)] at hn
    cases statement with
    | publishSession => simp [Statement.resets] at hqueued
    | countFailedLogin username =>
      refine ⟨hrest,?_⟩
      change ∃ n, (Storage.update { db with queue := rest } username incrementColumn).failed
        name = some (id,n) ∧ _
      rw [Storage.update_failed]
      by_cases heq : username = name
      · subst heq
        refine ⟨incrementColumn n,?_,?_⟩
        · rw [if_pos rfl]
          change Option.map _ (db.failed username) = _
          rw [hrow]
          rfl
        · have hge := @incrementColumn_ge n
          rw [List.count_cons_self] at hn
          change k ≤ _+rest.count _ ∨ _
          have hfull : n.toNat = 2^32-1 → (incrementColumn n).toNat = 2^32-1 := by
            intro hfull
            rw [incrementColumn,if_pos hfull]
            exact hfull
          omega
      · rw [if_neg (Ne.symm heq)]
        exact ⟨n,hrow,hsame username heq rfl⟩
    | _ =>
      refine ⟨hrest,n,hrow,?_⟩
      rwa [List.count_cons_of_ne (by simp)] at hn

variable (lib cfg name id)

/-- Where a thread stands. One that has not counted a failure yet is not among the
wrong ones. -/
inductive Phase (counted : Prop) (s : Session) : AuthProg (Bool × Session) → Prop where
  | fresh {q : AuthProg (Bool × Session)} (hc : ¬ counted) (hl : Lawful lib cfg s q) :
      Phase counted s q
  | reading {s' : Session} (hs : s.SamePeer s') :
      Phase counted s (.ask (.selectFailedLogins s'.safelogin) (judgeFailures lib cfg s'))
  | banning {s' : Session} (hs : s.SamePeer s') {account : UInt32}
      (ha : s.safelogin = name → account = id) :
      Phase counted s (.ask (.pExecute (wrongPasswordBan lib cfg s' account))
        fun _ => .ret (true,s'))
  | done (r : Bool × Session) : Phase counted s (.ret r)

def LogonPool.Bans (p : LogonPool ω) (i : Nat) : Prop :=
  ∃ th queued, p.threads[i]? = some th ∧
    (i,⟨.pExecute (wrongPasswordBan lib cfg th.tag.1 id),queued⟩) ∈ p.log

/-- Fewer wrong proofs than the limit were handled without a ban. -/
def LogonPool.Settled (p : LogonPool ω) : Prop :=
  ∀ is : List Nat, is.Sublist (wrongSince name p.log) →
    (∀ i ∈ is, p.finished i = true ∧ ¬ LogonPool.Bans lib cfg id p i) →
      is.length < cfg.maxCount

structure LogonPool.Lockout (p : LogonPool ω) : Prop where
  phase : ∀ i th, p.threads[i]? = some th →
    Phase lib cfg name id (i ∈ wrongSince name p.log) th.tag.1 th.prog
  named : ∀ i ∈ wrongSince name p.log, ∃ th, p.threads[i]? = some th ∧
    th.tag.1.safelogin = name
  holds : p.env.1.Holds name id (wrongSince name p.log).length
  settled : LogonPool.Settled lib cfg name id p

variable {lib cfg name id}

theorem LogonPool.Lockout.account {p : LogonPool ω} {i : Nat} {tag : Session × Bytes}
    {q : AuthProg (Bool × Session)} (h : LogonPool.Lockout lib cfg name id p)
    (hth : p.threads[i]? = some ⟨tag,q⟩) (hmem : i ∈ wrongSince name p.log) :
    tag.1.safelogin = name := by
  obtain ⟨th,hth',hname⟩ := h.named i hmem
  obtain rfl := Option.some.inj (hth.symm.trans hth')
  exact hname

theorem wrongSince_record (p : LogonPool ω) (i : Nat)
    (th : Thread Call Reply (Session × Bytes) (Bool × Session)) (env : Storage × ω)
    (ev : AuthEvent) :
    wrongSince name (p.record i th env ev).log = addWrong name (wrongSince name p.log) (i,ev) := by
  simp [wrongSince,Pool.record]

theorem Phase.not_counted {P P' : Prop} {s : Session} {q : AuthProg (Bool × Session)}
    (h : Phase lib cfg name id P s q) (hp : P' → P) : Phase lib cfg name id P' s q := by
  cases h with
  | fresh hc hl => exact .fresh (fun h => hc (hp h)) hl
  | reading hs => exact .reading hs
  | banning hs ha => exact .banning hs ha
  | done r => exact .done r

variable {p : LogonPool ω} {i : Nat} {tag : Session × Bytes}

theorem LogonPool.Bans.record {j : Nat} {q : AuthProg (Bool × Session)} {env : Storage × ω}
    {ev : AuthEvent} (h : LogonPool.Bans lib cfg id p j)
    (hth : ∃ q', p.threads[i]? = some ⟨tag,q'⟩) :
    LogonPool.Bans lib cfg id (p.record i ⟨tag,q⟩ env ev) j := by
  obtain ⟨th,queued,hj,hmem⟩ := h
  obtain ⟨q',hi⟩ := hth
  have hlog : (j,⟨.pExecute (wrongPasswordBan lib cfg th.tag.1 id),queued⟩) ∈
      (p.record i ⟨tag,q⟩ env ev).log := List.mem_append_left _ hmem
  by_cases hij : i = j
  · subst hij
    obtain rfl := Option.some.inj (hj.symm.trans hi)
    have hlt : i < p.threads.length := (List.getElem?_eq_some_iff.mp hi).1
    exact ⟨⟨tag,q⟩,queued,Pool.record_self hlt _ _ _,hlog⟩
  · exact ⟨th,queued,(Pool.record_other hij _ _ _).trans hj,hlog⟩

theorem LogonPool.Settled.record {q q' : AuthProg (Bool × Session)} {env : Storage × ω}
    {ev : AuthEvent} (h : LogonPool.Settled lib cfg name id p)
    (hth : p.threads[i]? = some ⟨tag,q'⟩)
    (hsub : (addWrong name (wrongSince name p.log) (i,ev)).Sublist
      (i :: wrongSince name p.log))
    (hi : i ∈ addWrong name (wrongSince name p.log) (i,ev) → (∃ r, q = .ret r) →
      LogonPool.Bans lib cfg id (p.record i ⟨tag,q⟩ env ev) i ∨
        (addWrong name (wrongSince name p.log) (i,ev)).length < cfg.maxCount) :
    LogonPool.Settled lib cfg name id (p.record i ⟨tag,q⟩ env ev) := by
  intro is his hall
  rw [wrongSince_record] at his
  have hlt : i < p.threads.length := (List.getElem?_eq_some_iff.mp hth).1
  by_cases hmem : i ∈ is
  · obtain ⟨hfin,hban⟩ := hall i hmem
    obtain ⟨tag',r,hth'⟩ := Pool.finished_iff.mp hfin
    rw [Pool.record_self hlt] at hth'
    have hq : q = .ret r := congrArg Thread.prog (Option.some.inj hth')
    rcases hi (his.subset hmem) ⟨r,hq⟩ with hb | hb
    · exact absurd hb hban
    · exact lt_of_le_of_lt his.length_le hb
  · have hold : is.Sublist (wrongSince name p.log) := by
      rcases List.sublist_cons_iff.mp (his.trans hsub) with hold | ⟨tail,rfl,-⟩
      · exact hold
      · simp at hmem
    refine h is hold fun j hj => ?_
    obtain ⟨hfin,hban⟩ := hall j hj
    have hij : i ≠ j := fun heq => hmem (heq ▸ hj)
    refine ⟨?_,fun hb => hban (hb.record ⟨q',hth⟩)⟩
    rw [Pool.finished_iff] at hfin ⊢
    rwa [Pool.record_other hij] at hfin

theorem LogonPool.Lockout.record {q q' : AuthProg (Bool × Session)} {env : Storage × ω}
    {ev : AuthEvent} (h : LogonPool.Lockout lib cfg name id p)
    (hth : p.threads[i]? = some ⟨tag,q'⟩)
    (hsub : (addWrong name (wrongSince name p.log) (i,ev)).Sublist
      (i :: wrongSince name p.log))
    (hphase : Phase lib cfg name id (i ∈ addWrong name (wrongSince name p.log) (i,ev)) tag.1 q)
    (hname : i ∈ addWrong name (wrongSince name p.log) (i,ev) → tag.1.safelogin = name)
    (hholds : env.1.Holds name id (addWrong name (wrongSince name p.log) (i,ev)).length)
    (hi : i ∈ addWrong name (wrongSince name p.log) (i,ev) → (∃ r, q = .ret r) →
      LogonPool.Bans lib cfg id (p.record i ⟨tag,q⟩ env ev) i ∨
        (addWrong name (wrongSince name p.log) (i,ev)).length < cfg.maxCount) :
    LogonPool.Lockout lib cfg name id (p.record i ⟨tag,q⟩ env ev) := by
  have hlt : i < p.threads.length := (List.getElem?_eq_some_iff.mp hth).1
  have hold : ∀ {j : Nat}, i ≠ j → j ∈ addWrong name (wrongSince name p.log) (i,ev) →
      j ∈ wrongSince name p.log := by
    intro j hij hj
    rcases List.mem_cons.mp (hsub.subset hj) with heq | hmem
    · exact absurd heq.symm hij
    · exact hmem
  constructor
  case phase =>
    intro j th hj
    rw [wrongSince_record]
    by_cases hij : i = j
    · subst hij
      rw [Pool.record_self hlt] at hj
      obtain rfl := Option.some.inj hj
      exact hphase
    · rw [Pool.record_other hij] at hj
      exact (h.phase j th hj).not_counted (hold hij)
  case named =>
    intro j hj
    rw [wrongSince_record] at hj
    by_cases hij : i = j
    · subst hij
      exact ⟨_,Pool.record_self hlt _ _ _,hname hj⟩
    · rw [Pool.record_other hij]
      exact h.named j (hold hij hj)
  case holds =>
    rw [wrongSince_record]
    exact hholds
  case settled => exact h.settled.record hth hsub hi

theorem plain_call (outside : AuthEnv ω) {c : Call} (hc : Plain c) (w : Storage × ω)
    (is : List Nat) (h : w.1.Holds name id is.length) :
    (addWrong name is (i,⟨c,(storageEnv outside c w).1⟩)).Sublist is ∧
      (storageEnv outside c w).2.1.Holds name id
        (addWrong name is (i,⟨c,(storageEnv outside c w).1⟩)).length := by
  cases c with
  | pExecute statement => exact absurd hc (by simp [Plain])
  | selectFailedLogins username => exact absurd hc (by simp [Plain])
  | directPExecute statement =>
    obtain ⟨key,ip,locale,client_locale,os,username,rfl⟩ := hc
    obtain ⟨stored,hstored⟩ : ∃ stored : Bool, (outside (.directPExecute (.publishSession key
      ip locale client_locale os username)) w.2).1 = stored := ⟨_,rfl⟩
    simp only [storageEnv,addWrong,hstored]
    cases stored with
    | false => exact ⟨List.Sublist.refl _,h⟩
    | true =>
      have hpublish := h.publish username
      by_cases heq : username = name
      · simp only [heq,and_self,if_true] at hpublish ⊢
        exact ⟨List.nil_sublist _,hpublish⟩
      · simp only [heq,and_false,if_false] at hpublish ⊢
        exact ⟨List.Sublist.refl _,hpublish⟩
  | _ => exact ⟨List.Sublist.refl _,h⟩

theorem LogonPool.Lockout.plain (outside : AuthEnv ω) {c : Call}
    {k : Reply c → AuthProg (Bool × Session)} (h : LogonPool.Lockout lib cfg name id p)
    (hth : p.threads[i]? = some ⟨tag,.ask c k⟩) (hi : i ∉ wrongSince name p.log)
    (hc : Plain c) (hk : ∀ r, Lawful lib cfg tag.1 (k r)) :
    LogonPool.Lockout lib cfg name id (p.record i ⟨tag,k (storageEnv outside c p.env).1⟩
      (storageEnv outside c p.env).2 ⟨c,(storageEnv outside c p.env).1⟩) := by
  obtain ⟨hsub,hholds⟩ := plain_call (i := i) outside hc p.env _ h.holds
  have hnot : i ∉ addWrong name (wrongSince name p.log)
      (i,⟨c,(storageEnv outside c p.env).1⟩) := fun hmem => hi (hsub.subset hmem)
  exact h.record hth (hsub.trans (List.sublist_cons_self _ _)) (.fresh hnot (hk _))
    (fun hmem => absurd hmem hnot) hholds (fun hmem => absurd hmem hnot)

theorem LogonPool.Lockout.count {s' : Session} (h : LogonPool.Lockout lib cfg name id p)
    (hs : tag.1.SamePeer s')
    (hth : p.threads[i]? = some ⟨tag,.ask (.pExecute (.countFailedLogin s'.safelogin))
      fun _ => .ask (.selectFailedLogins s'.safelogin) (judgeFailures lib cfg s')⟩)
    (hi : i ∉ wrongSince name p.log) (queued : Bool) (w : ω) :
    LogonPool.Lockout lib cfg name id (p.record i
      ⟨tag,.ask (.selectFailedLogins s'.safelogin) (judgeFailures lib cfg s')⟩
      ({ p.env.1 with queue := p.env.1.queue ++ [.countFailedLogin s'.safelogin] },w)
      ⟨.pExecute (.countFailedLogin s'.safelogin),queued⟩) := by
  have hwrong : addWrong name (wrongSince name p.log)
      (i,⟨.pExecute (.countFailedLogin s'.safelogin),queued⟩) =
        if s'.safelogin = name then i :: wrongSince name p.log
        else wrongSince name p.log := rfl
  have hreset : (Statement.countFailedLogin s'.safelogin).resets = false := rfl
  have hholds := h.holds.enqueue hreset
  apply h.record hth
  · rw [hwrong]
    split
    · exact List.Sublist.refl _
    · exact List.sublist_cons_self _ _
  · exact .reading hs
  · intro hmem
    rw [hwrong] at hmem
    split at hmem
    · rename_i heq
      exact hs.name.symm.trans heq
    · exact absurd hmem hi
  · rw [hwrong]
    by_cases heq : s'.safelogin = name
    · simpa [heq] using hholds
    · simpa [heq] using hholds
  · rintro - ⟨r,hr⟩
    cases hr

theorem LogonPool.Lockout.read {s' : Session} (hmax : cfg.maxCount < 2^32)
    (h : LogonPool.Lockout lib cfg name id p) (hs : tag.1.SamePeer s')
    (hth : p.threads[i]? = some ⟨tag,.ask (.selectFailedLogins s'.safelogin)
      (judgeFailures lib cfg s')⟩)
    (hdrained : s'.safelogin = name → .countFailedLogin name ∉ p.env.1.queue) :
    LogonPool.Lockout lib cfg name id (p.record i
      ⟨tag,judgeFailures lib cfg s' (p.env.1.failed s'.safelogin)⟩ p.env
      ⟨.selectFailedLogins s'.safelogin,p.env.1.failed s'.safelogin⟩) := by
  obtain ⟨n,hrow,hn⟩ := h.holds.row
  have hread : tag.1.safelogin = name → p.env.1.failed s'.safelogin = some (id,n) := by
    intro hname
    rw [hs.name,hname]
    exact hrow
  apply h.record hth
  · exact List.sublist_cons_self _ _
  · cases hreply : p.env.1.failed s'.safelogin with
    | none => exact .done _
    | some row =>
      simp only [judgeFailures]
      split
      · refine .banning hs fun hname => ?_
        rw [hread hname] at hreply
        rw [← Option.some.inj hreply]
      · exact .done _
  · exact h.account hth
  · exact h.holds
  · rintro hmem ⟨r,hr⟩
    have hname := h.account hth hmem
    rw [hread hname] at hr
    simp only [judgeFailures] at hr
    split at hr
    · cases hr
    · rename_i hlimit
      refine .inr ?_
      have hnone := hdrained (hs.name.trans hname)
      rw [List.count_eq_zero_of_not_mem hnone] at hn
      change (wrongSince name p.log).length < cfg.maxCount
      omega

def Statement.bans : Statement → Bool
  | .banAccount _ _ | .banIp _ _ => true
  | _ => false

theorem wrongPasswordBan_bans (s : Session) (account : UInt32) :
    (wrongPasswordBan lib cfg s account).bans = true := by
  unfold wrongPasswordBan
  split <;> rfl

theorem addWrong_ban {statement : Statement} (h : statement.bans = true) (is : List Nat)
    (queued : Bool) : addWrong name is (i,⟨.pExecute statement,queued⟩) = is := by
  cases statement <;> first | rfl | cases h

theorem Storage.Holds.enqueueBan (h : db.Holds name id k) {statement : Statement}
    (hs : statement.bans = true) :
    ({ db with queue := db.queue ++ [statement] } : Storage).Holds name id k := by
  have hresets : statement.resets = false := by
    cases statement <;> first | rfl | cases hs
  have hother : statement ≠ .countFailedLogin name := by
    rintro rfl
    cases hs
  have hholds := h.enqueue hresets
  rwa [if_neg hother] at hholds

theorem Session.SamePeer.ban {s s' : Session} (h : s.SamePeer s') (account : UInt32) :
    wrongPasswordBan lib cfg s' account = wrongPasswordBan lib cfg s account := by
  rw [wrongPasswordBan,wrongPasswordBan,h.address]

theorem LogonPool.Lockout.ban {s' : Session} {account : UInt32}
    (h : LogonPool.Lockout lib cfg name id p) (hs : tag.1.SamePeer s')
    (ha : tag.1.safelogin = name → account = id)
    (hth : p.threads[i]? = some ⟨tag,.ask (.pExecute (wrongPasswordBan lib cfg s' account))
      fun _ => .ret (true,s')⟩) (queued : Bool) (w : ω) :
    LogonPool.Lockout lib cfg name id (p.record i ⟨tag,.ret (true,s')⟩
      ({ p.env.1 with queue := p.env.1.queue ++ [wrongPasswordBan lib cfg s' account] },w)
      ⟨.pExecute (wrongPasswordBan lib cfg s' account),queued⟩) := by
  have hbans : (wrongPasswordBan lib cfg s' account).bans = true :=
    wrongPasswordBan_bans s' account
  have hwrong : addWrong name (wrongSince name p.log)
      (i,⟨.pExecute (wrongPasswordBan lib cfg s' account),queued⟩) = wrongSince name p.log :=
    addWrong_ban hbans _ queued
  have hlt : i < p.threads.length := (List.getElem?_eq_some_iff.mp hth).1
  apply h.record hth
  · rw [hwrong]
    exact List.sublist_cons_self _ _
  · exact .done _
  · rw [hwrong]
    exact h.account hth
  · rw [hwrong]
    exact h.holds.enqueueBan hbans
  · rw [hwrong]
    rintro hmem -
    refine .inl ⟨_,queued,Pool.record_self hlt _ _ _,?_⟩
    rw [← hs.ban,← ha (h.account hth hmem)]
    exact List.mem_append_right _ (List.mem_singleton.mpr rfl)

theorem LogonPool.Lockout.spawn (h : LogonPool.Lockout lib cfg name id p)
    (tag : Session × Bytes) :
    LogonPool.Lockout lib cfg name id (p.spawn ⟨tag,proofBody lib cfg tag⟩) := by
  have hnew : p.threads.length ∉ wrongSince name p.log := by
    intro hmem
    obtain ⟨th,hth,-⟩ := h.named _ hmem
    simp at hth
  constructor
  case phase =>
    intro i th hth
    rcases Pool.spawn_cases hth with hold | ⟨rfl,rfl⟩
    · exact h.phase i th hold
    · exact .fresh hnew (logonProof_lawful _ _)
  case named =>
    intro i hi
    obtain ⟨th,hth,hname⟩ := h.named i hi
    exact ⟨th,Pool.spawn_old hth _,hname⟩
  case holds => exact h.holds
  case settled =>
    intro is his hall
    refine h.settled is his fun i hi => ?_
    obtain ⟨hfin,hban⟩ := hall i hi
    obtain ⟨th,hth,-⟩ := h.named i (his.subset hi)
    refine ⟨?_,?_⟩
    · rw [Pool.finished_iff] at hfin ⊢
      rwa [Pool.spawn_old hth,← hth] at hfin
    · rintro ⟨th',queued,hth',hmem⟩
      exact hban ⟨th',queued,Pool.spawn_old hth' _,hmem⟩

def LogonPool.reads (p : LogonPool ω) (name : Bytes) : Move (Session × Bytes) → Bool
  | .call i =>
      match p.threads[i]? with
      | some ⟨_,.ask (.selectFailedLogins username) _⟩ => username == name
      | _ => false
  | _ => false

/-- No increment for the account waits when its counter is read back. -/
def Drained (name : Bytes) (p : LogonPool ω) (m : Move (Session × Bytes)) : Prop :=
  LogonPool.reads p name m = true → .countFailedLogin name ∉ p.env.1.queue

instance (name : Bytes) (p : LogonPool ω) (m : Move (Session × Bytes)) :
    Decidable (Drained name p m) :=
  inferInstanceAs (Decidable (_ → _))

theorem LogonPool.Lockout.step (outside : AuthEnv ω) (hmax : cfg.maxCount < 2^32)
    (m : Move (Session × Bytes)) (hm : Drained name p m)
    (h : LogonPool.Lockout lib cfg name id p) :
    LogonPool.Lockout lib cfg name id
      (p.step (storageEnv outside) (proofBody lib cfg) (fun w => (w.1.work,w.2)) m) := by
  generalize hp' : p.step (storageEnv outside) (proofBody lib cfg)
    (fun w => (w.1.work,w.2)) m = p'
  have hspec := hp' ▸ p.step_spec (storageEnv outside) (proofBody lib cfg)
    (fun w => (w.1.work,w.2)) m
  cases hspec with
  | idle i => exact h
  | work => exact ⟨h.phase,h.named,h.holds.work,h.settled⟩
  | start tag => exact h.spawn tag
  | @call i tag c k hth =>
    generalize hprog : (Prog.ask c k : AuthProg (Bool × Session)) = q at hth
    have hphase := h.phase i _ hth
    cases hphase with
    | fresh hi hl =>
      cases hl with
      | ret r => cases hprog
      | other hc hk =>
        cases hprog
        exact h.plain outside hth hi hc hk
      | count hs =>
        cases hprog
        exact h.count hs hth hi _ _
    | reading hs =>
      cases hprog
      exact h.read hmax hs hth fun hname => hm (by simp [LogonPool.reads,hth,hname])
    | banning hs ha =>
      cases hprog
      exact h.ban hs ha hth _ _
    | done r => cases hprog

/-- A proof for the account that the handler has to refuse. -/
structure WrongProof (lib : SharedLibrary) (name : Bytes) (tag : Session × Bytes) : Prop where
  account : tag.1.safelogin = name
  nonzero : proofA tag.2%srpN ≠ 0
  mismatch : ¬ tag.1.ProofMatches lib tag.2

theorem WrongProof.counted (h : WrongProof lib name tag) (hmax : 0 < cfg.maxCount)
    (hp : p.Traced (proofBody lib cfg)) {r : Bool × Session}
    (hth : p.threads[i]? = some ⟨tag,.ret r⟩) :
    ∃ queued, (i,⟨.pExecute (.countFailedLogin name),queued⟩) ∈ p.log := by
  have hreject : proofBody lib cfg tag = rejectLogon lib cfg (tag.1.keyed lib tag.2) :=
    (if_neg h.nonzero).trans (if_neg h.mismatch)
  have hruns := hp.runs hth
  rw [hreject] at hruns
  obtain ⟨t₁,t₂,s₁,ht,hsend,hrest⟩ := Prog.runs_bind.mp hruns
  obtain ⟨hq,-⟩ := Session.send_runs hsend
  rw [if_pos hmax] at hrest
  obtain ⟨queued,t₃,rfl,-⟩ := hrest
  have hname : s₁.safelogin = name := by
    rw [hq.same]
    exact h.account
  refine ⟨queued,Pool.mem_log_of_mem_trace ?_⟩
  rw [ht,← hname]
  simp

/-- When no increment for the account waits at any of the turns that read its counter
back, the limit is enforced in every state of every interleaving: as soon as as many
wrong proofs as the limit were handled since the last successful logon, one of their
sessions has issued its ban. -/
theorem lockout_when_drained (lib : SharedLibrary) (cfg : WrongPass) (outside : AuthEnv ω)
    (hpos : 0 < cfg.maxCount) (hmax : cfg.maxCount < 2^32) (name : Bytes) (id n : UInt32)
    (db : Storage) (hrow : db.failed name = some (id,n))
    (hqueue : ∀ statement ∈ db.queue, statement.resets = false) (w : ω)
    (moves : List (Move (Session × Bytes)))
    (hdrained : Pool.Throughout (storageEnv outside) (proofBody lib cfg)
      (fun w => (w.1.work,w.2)) (Drained name) moves (Pool.start (db,w))) (p : LogonPool ω)
    (hp : p = LogonPool.run lib cfg outside moves (Pool.start (db,w))) :
    (∀ i tag r, p.threads[i]? = some ⟨tag,.ret r⟩ → WrongProof lib name tag →
      ∃ queued, (i,⟨.pExecute (.countFailedLogin name),queued⟩) ∈ p.log) ∧
    (cfg.maxCount ≤ ((wrongSince name p.log).filter p.finished).length →
      ∃ i ∈ wrongSince name p.log, ∃ tag q queued, p.threads[i]? = some ⟨tag,q⟩ ∧
        tag.1.safelogin = name ∧
        (i,⟨.pExecute (wrongPasswordBan lib cfg tag.1 id),queued⟩) ∈ p.log) := by
  subst hp
  constructor
  · intro i tag r hth hwrong
    exact hwrong.counted hpos ((Pool.start_traced (db,w)).run moves) hth
  · have hstart : LogonPool.Lockout lib cfg name id (Pool.start (db,w)) := by
      refine ⟨by simp [Pool.start],by simp [Pool.start,wrongSince],⟨hqueue,n,hrow,?_⟩,?_⟩
      · exact .inl (Nat.zero_le _)
      · intro is his _
        rw [List.sublist_nil.mp his]
        exact hpos
    have h := Pool.run_rule (storageEnv outside) (proofBody lib cfg) (fun w => (w.1.work,w.2))
      (fun p m hm hl => LogonPool.Lockout.step outside hmax m hm hl) moves hstart hdrained
    intro hk
    by_contra hnone
    refine absurd hk (Nat.not_le.mpr (h.settled _ List.filter_sublist ?_))
    intro i hi
    obtain ⟨hmem,hfin⟩ := List.mem_filter.mp hi
    refine ⟨hfin,?_⟩
    rintro ⟨th,queued,hth,hlog⟩
    exact hnone ⟨i,hmem,th.tag,th.prog,queued,hth,h.account hth hmem,hlog⟩

def waitingSession : Session :=
  (runInputs referenceLibrary ⟨0,600,false⟩ (Replies.verifying 0).env
    ((logonInputs 5875).take 1) World.sample).2.sock.toSession

def wrongFrame : Bytes := encodeLogonProof (leBytes 32 7) (List.replicate 20 0)

def Storage.sample : Storage :=
  ⟨fun username => if username = ascii "ALICE" then some (7,0) else none,[]⟩

def guessMoves (i : Nat) : List (Move (Session × Bytes)) :=
  [.start (waitingSession,wrongFrame),.call i,.call i,.call i,.call i,.work]

def drainedMoves : List (Move (Session × Bytes)) :=
  List.replicate 3 (.start (waitingSession,wrongFrame)) ++
    [.call 0,.call 1,.call 2,.call 2,.call 0,.call 1,.call 1,.call 0,.work,.work,.call 0,.call 2,
      .work,.call 1,.call 2,.call 1,.call 2]

theorem lockout_when_drained_sample :
    let p := LogonPool.run referenceLibrary ⟨3,600,true⟩ ({} : Replies).env drainedMoves
      (Pool.start (Storage.sample,()))
    ((wrongSince (ascii "ALICE") p.log).filter p.finished).length = 3 ∧
      ∃ i ∈ wrongSince (ascii "ALICE") p.log, ∃ tag q queued,
        p.threads[i]? = some ⟨tag,q⟩ ∧ tag.1.safelogin = ascii "ALICE" ∧
        (i,⟨.pExecute (wrongPasswordBan referenceLibrary ⟨3,600,true⟩ tag.1 7),queued⟩) ∈
          p.log := by
  intro p
  obtain ⟨hk,hdrained⟩ :
      ((wrongSince (ascii "ALICE") p.log).filter p.finished).length = 3 ∧
      Pool.Throughout (storageEnv ({} : Replies).env)
        (proofBody referenceLibrary ⟨3,600,true⟩) (fun w => (w.1.work,w.2))
        (Drained (ascii "ALICE")) drainedMoves (Pool.start (Storage.sample,())) := by
    decide +kernel
  have h := lockout_when_drained referenceLibrary ⟨3,600,true⟩ ({} : Replies).env
    (by decide) (by decide) (ascii "ALICE") 7 0 Storage.sample rfl (by simp [Storage.sample])
    () drainedMoves hdrained p rfl
  exact ⟨hk,h.2 (by rw [hk])⟩

def Call.bans : Call → Bool
  | .pExecute statement | .directPExecute statement => statement.bans
  | _ => false

/-- Three wrong proofs one after the other, with a limit of three and a worker that
applies each increment right after it was read back: no ban is issued. -/
theorem lockout_missed :
    let p := LogonPool.run referenceLibrary ⟨3,600,true⟩ ({} : Replies).env
      (guessMoves 0 ++ guessMoves 1 ++ guessMoves 2) (Pool.start (Storage.sample,()))
    WrongProof referenceLibrary (ascii "ALICE") (waitingSession,wrongFrame) ∧
      ((wrongSince (ascii "ALICE") p.log).filter p.finished).length = 3 ∧
      ∀ entry ∈ p.log, entry.2.call.bans = false := by
  intro p
  have h : (waitingSession.safelogin = ascii "ALICE" ∧ proofA wrongFrame%srpN ≠ 0 ∧
      ¬ waitingSession.ProofMatches referenceLibrary wrongFrame) ∧
      ((wrongSince (ascii "ALICE") p.log).filter p.finished).length = 3 ∧
      ∀ entry ∈ p.log, entry.2.call.bans = false := by
    decide +kernel
  exact ⟨⟨h.1.1,h.1.2.1,h.1.2.2⟩,h.2⟩

end

end Realmd
