import Realmd.FrameBody
import Realmd.Interleaving
import Realmd.Lockout
set_option autoImplicit false

namespace Realmd
open ByteCodec Interaction

structure AccountRecord where
  row : AccountRow
  sessionkey : Bytes
  failed_logins : UInt32
  deriving DecidableEq, Repr

/-- A row of `account_banned` or of `ip_banned`, which has no active column. -/
structure Ban where
  bandate : Nat
  unbandate : Nat
  active : Bool
  deriving DecidableEq, Repr

def Ban.permanent (ban : Ban) : Bool := ban.unbandate == ban.bandate

def Ban.live (now : Nat) (ban : Ban) : Bool := ban.permanent || decide (ban.unbandate > now)

def Ban.retire (now : Nat) (ban : Ban) : Ban :=
  { ban with active := ban.active && ban.live now }

/-- The tables of the login database, under the texts and ids the statements name, the
statements that wait for the worker, and the clock of the server in seconds. -/
structure LoginDatabase where
  account : Bytes → Option AccountRecord
  account_banned : UInt32 → List Ban
  ip_banned : Bytes → List Ban
  queue : List Statement
  now : Nat

namespace LoginDatabase

def update (db : LoginDatabase) (username : Bytes) (f : AccountRecord → AccountRecord) :
    LoginDatabase :=
  { db with account := fun u => if u = username then (db.account u).map f else db.account u }

/-- A ban of some seconds from now on; none at all is for good. -/
def newBan (db : LoginDatabase) (banTime : Nat) : Ban := ⟨db.now,db.now+banTime,true⟩

def execute (db : LoginDatabase) : Statement → LoginDatabase
  | .updateVerifier v s username =>
      db.update username fun record => { record with row := { record.row with v := v, s := s } }
  | .publishSession sessionkey last_ip _ _ _ username =>
      db.update username fun record =>
        ⟨{ record.row with last_ip := last_ip },sessionkey,0⟩
  | .publishIdentity _ _ _ => db
  | .countFailedLogin username =>
      db.update username fun record =>
        { record with failed_logins := incrementColumn record.failed_logins }
  | .banAccount id banTime =>
      { db with account_banned := fun i =>
          if i = id then db.account_banned i ++ [db.newBan banTime] else db.account_banned i }
  | .banIp ip banTime =>
      { db with ip_banned := fun a =>
          if a = ip then db.ip_banned a ++ [db.newBan banTime] else db.ip_banned a }

def work (db : LoginDatabase) : LoginDatabase :=
  match db.queue with
  | [] => db
  | statement :: rest => { db with queue := rest }.execute statement

def cleanup (db : LoginDatabase) : LoginDatabase :=
  { db with
    account_banned := fun id => (db.account_banned id).map (Ban.retire db.now)
    ip_banned := fun ip => (db.ip_banned ip).filter (Ban.live db.now) }

def ipBan (db : LoginDatabase) (ip : Bytes) : Option Ban :=
  (db.ip_banned ip).find? (Ban.live db.now)

def accountBan (db : LoginDatabase) (id : UInt32) : Option Ban :=
  (db.account_banned id).find? fun ban => ban.active && ban.live db.now

def storage (db : LoginDatabase) : Storage :=
  ⟨fun username => (db.account username).map fun record => (record.row.id,record.failed_logins),
    db.queue⟩

theorem storage_execute (db : LoginDatabase) (statement : Statement) :
    (db.execute statement).storage = db.storage.execute statement := by
  have hupdate : ∀ (username : Bytes) (f : AccountRecord → AccountRecord) (g : UInt32 → UInt32),
      (∀ record, (f record).row.id = record.row.id ∧
        (f record).failed_logins = g record.failed_logins) →
      (db.update username f).storage = db.storage.update username g := by
    intro username f g hf
    simp only [storage,update,Storage.update,Storage.mk.injEq,and_true]
    funext u
    by_cases hu : u = username
    · simp only [if_pos hu,Option.map_map]
      congr 1
      funext record
      simp [hf record]
    · simp only [if_neg hu]
  cases statement with
  | updateVerifier v s username =>
    have hsame := hupdate username
      (fun record => { record with row := { record.row with v := v, s := s } }) id
      fun _ => ⟨rfl,rfl⟩
    exact hsame.trans (by simp [Storage.update,Storage.execute])
  | publishSession _ _ _ _ _ username =>
    exact hupdate username _ (fun _ => 0) fun _ => ⟨rfl,rfl⟩
  | countFailedLogin username => exact hupdate username _ incrementColumn fun _ => ⟨rfl,rfl⟩
  | publishIdentity | banAccount | banIp => rfl

theorem storage_work (db : LoginDatabase) : db.work.storage = db.storage.work := by
  unfold work Storage.work
  cases hqueue : db.queue with
  | nil => simp [storage,hqueue]
  | cons statement rest =>
    have hnext := storage_execute { db with queue := rest } statement
    simpa [storage,hqueue] using hnext

end LoginDatabase

/-- What the surroundings do by themselves: seconds pass, and the worker may be up. -/
structure Background (ω : Type) where
  elapse : ω → Nat
  awake : ω → Bool
  next : ω → ω

variable {ω : Type}

def databaseEnv (outside : AuthEnv ω) : AuthEnv (LoginDatabase × ω) := fun c w =>
  match c with
  | .selectIpBanned ip => ((w.1.ipBan ip).map fun ban => UInt64.ofNat ban.unbandate,w)
  | .selectAccount username => ((w.1.account username).map AccountRecord.row,w)
  | .selectAccountBanned id =>
      ((w.1.accountBan id).map fun ban =>
        (UInt64.ofNat ban.bandate,UInt64.ofNat ban.unbandate),w)
  | .selectSessionKey username => ((w.1.account username).map AccountRecord.sessionkey,w)
  | .selectFailedLogins username =>
      ((w.1.account username).map fun record => (record.row.id,record.failed_logins),w)
  | .selectAccountId username =>
      ((w.1.account username).map fun record => (record.row.id,record.row.sha_pass_hash),w)
  | .pExecute statement =>
      ((outside (.pExecute statement) w.2).1,
        ({ w.1 with queue := w.1.queue ++ [statement] },(outside (.pExecute statement) w.2).2))
  | .directPExecute statement =>
      ((outside (.directPExecute statement) w.2).1,
        (if (outside (.directPExecute statement) w.2).1 then w.1.execute statement else w.1,
          (outside (.directPExecute statement) w.2).2))
  | c => ((outside c w.2).1,(w.1,(outside c w.2).2))

def Background.work (bg : Background ω) (w : LoginDatabase × ω) : LoginDatabase × ω :=
  let db := { w.1 with now := w.1.now+bg.elapse w.2 }
  (if bg.awake w.2 then db.work else db,bg.next w.2)

structure Request where
  session : Session
  cmd : AuthCmd
  frame : Bytes
  deriving DecidableEq, Repr

abbrev RequestPool (ω : Type) := Pool Call Reply Request (LoginDatabase × ω) (Bool × Session)

def requestBody (lib : SharedLibrary) (cfg : WrongPass) (request : Request) :
    AuthProg (Bool × Session) :=
  frameBody lib cfg request.cmd request.frame request.session

def RequestPool.run (lib : SharedLibrary) (cfg : WrongPass) (outside : AuthEnv ω)
    (bg : Background ω) (moves : List (Move Request)) (p : RequestPool ω) : RequestPool ω :=
  Pool.run (databaseEnv outside) (requestBody lib cfg) bg.work p moves

/-- Calls of logon proofs: of the tables they read the failed logins only. -/
def LogonCall : Call → Prop
  | .selectIpBanned _ | .selectAccount _ | .selectAccountBanned _ | .selectSessionKey _
  | .selectAccountId _ => False
  | _ => True

theorem logonProof_calls (lib : SharedLibrary) (cfg : WrongPass) (s : Session) (lp : Bytes) :
    (logonProof lib cfg s lp).Meets LogonCall fun _ => True := by
  unfold logonProof
  simp only
  split
  · trivial
  split
  · exact acceptLogon_meets trivial _ _ _ trivial trivial trivial (fun _ => trivial) trivial
      trivial trivial
  · exact (rejectLogon_meets trivial _ trivial (fun _ => trivial) (fun _ => trivial)).weaken

def Stores (w : LoginDatabase × ω) (w' : Storage × List ω) : Prop := w'.1 = w.1.storage

theorem storage_foretells (outside : AuthEnv ω) (bg : Background ω) :
    Foretells LogonCall (databaseEnv outside) bg.work (storageEnv outside.taped)
      (fun w => (w.1.work,w.2)) Stores where
  call := by
    rintro c w ⟨_,tape⟩ hc rfl
    cases c with
    | selectIpBanned | selectAccount | selectAccountBanned | selectSessionKey
    | selectAccountId => cases hc
    | selectFailedLogins => exact ⟨(w.1.storage,tape),rfl,rfl⟩
    | directPExecute statement =>
      refine ⟨(w.1.storage,w.2 :: tape),rfl,?_⟩
      cases hstored : (outside (.directPExecute statement) w.2).1 with
      | false => simp [storageEnv,databaseEnv,Env.taped,hstored]
      | true => simp [storageEnv,databaseEnv,Env.taped,hstored,LoginDatabase.storage_execute]
    | _ => exact ⟨(w.1.storage,w.2 :: tape),rfl,rfl⟩
  work := by
    rintro w ⟨_,tape⟩ rfl
    refine ⟨(w.1.storage,tape),rfl,?_⟩
    simp only [Background.work]
    split
    · refine .inl ?_
      rw [LoginDatabase.storage_work]
      rfl
    · exact .inr rfl

abbrev LogonsPool (ω : Type) := Pool Call Reply (Session × Bytes) (LoginDatabase × ω)
  (Bool × Session)

/-- Logon proofs over the login database, with any surroundings, are logon proofs over the
storage that the lockout is stated of: with the same threads, calls and replies, and the
failed logins and the queue of the database in the end. -/
theorem logonProofs_on_storage (lib : SharedLibrary) (cfg : WrongPass) (outside : AuthEnv ω)
    (bg : Background ω) (db : LoginDatabase) (o : ω) (moves : List (Move (Session × Bytes))) :
    let p : LogonsPool ω :=
      Pool.run (databaseEnv outside) (proofBody lib cfg) bg.work (Pool.start (db,o)) moves
    ∃ tape moves', moves'.Sublist moves ∧
      LogonPool.run lib cfg outside.taped moves' (Pool.start (db.storage,tape)) =
        ⟨p.threads,(p.env.1.storage,[]),p.log⟩ := by
  have hbody : ∀ tag, (proofBody lib cfg tag).Meets LogonCall fun _ => True :=
    fun tag => logonProof_calls lib cfg tag.1 tag.2
  have hstart : ∀ th ∈ (Pool.start (db,o) : LogonsPool ω).threads,
      th.prog.Meets LogonCall fun _ => True := by simp [Pool.start]
  intro p
  have hlast : Stores p.env (p.env.1.storage,[]) := rfl
  obtain ⟨⟨_,tape⟩,moves',hsub,rfl,hrun⟩ :=
    (storage_foretells outside bg).run hbody moves hstart hlast
  exact ⟨tape,moves',hsub,hrun⟩

/-- No session can tell two databases apart that show the same bans from now on. -/
structure Looks (w w' : LoginDatabase × ω) : Prop where
  account : w.1.account = w'.1.account
  queue : w.1.queue = w'.1.queue
  now : w.1.now = w'.1.now
  outside : w.2 = w'.2
  account_banned : ∀ id t, w.1.now ≤ t →
    (w.1.account_banned id).filter (fun ban => ban.active && ban.live t) =
      (w'.1.account_banned id).filter fun ban => ban.active && ban.live t
  ip_banned : ∀ ip t, w.1.now ≤ t →
    (w.1.ip_banned ip).filter (Ban.live t) = (w'.1.ip_banned ip).filter (Ban.live t)

theorem Ban.live_mono {ban : Ban} {t t' : Nat} (ht : t ≤ t') (h : ban.live t' = true) :
    ban.live t = true := by
  simp only [live,Bool.or_eq_true,decide_eq_true_eq] at h ⊢
  exact h.imp_right fun hlater => by omega

section
variable {w w' : LoginDatabase × ω}

theorem Looks.ipBan (h : Looks w w') (ip : Bytes) : w.1.ipBan ip = w'.1.ipBan ip := by
  have hbans := h.ip_banned ip w.1.now (Nat.le_refl _)
  rw [LoginDatabase.ipBan,LoginDatabase.ipBan,← List.head?_filter,← List.head?_filter,hbans,
    h.now]

theorem Looks.accountBan (h : Looks w w') (id : UInt32) :
    w.1.accountBan id = w'.1.accountBan id := by
  have hbans := h.account_banned id w.1.now (Nat.le_refl _)
  rw [LoginDatabase.accountBan,LoginDatabase.accountBan,← List.head?_filter,
    ← List.head?_filter,hbans,h.now]

theorem Looks.beside (h : Looks w w') (o : ω) : Looks (w.1,o) (w'.1,o) :=
  ⟨h.account,h.queue,h.now,rfl,h.account_banned,h.ip_banned⟩

theorem Looks.later (h : Looks w w') (n : Nat) :
    Looks ({ w.1 with now := w.1.now+n },w.2) ({ w'.1 with now := w'.1.now+n },w'.2) where
  account := h.account
  queue := h.queue
  now := congrArg (·+n) h.now
  outside := h.outside
  account_banned id t ht := h.account_banned id t (by simp only at ht; omega)
  ip_banned ip t ht := h.ip_banned ip t (by simp only at ht; omega)

theorem Looks.queued (h : Looks w w') (queue : List Statement) (o : ω) :
    Looks ({ w.1 with queue := queue },o) ({ w'.1 with queue := queue },o) where
  account := h.account
  queue := rfl
  now := h.now
  outside := rfl
  account_banned := h.account_banned
  ip_banned := h.ip_banned

theorem Looks.update (h : Looks w w') (username : Bytes) (f : AccountRecord → AccountRecord)
    (o : ω) : Looks (w.1.update username f,o) (w'.1.update username f,o) where
  account := by
    simp only [LoginDatabase.update,h.account]
  queue := h.queue
  now := h.now
  outside := rfl
  account_banned := h.account_banned
  ip_banned := h.ip_banned

theorem Looks.execute (h : Looks w w') (statement : Statement) (o : ω) :
    Looks (w.1.execute statement,o) (w'.1.execute statement,o) := by
  have hnew : ∀ banTime, w.1.newBan banTime = w'.1.newBan banTime := by
    intro banTime
    rw [LoginDatabase.newBan,LoginDatabase.newBan,h.now]
  cases statement with
  | updateVerifier v s username => exact h.update _ _ o
  | publishSession sessionkey last_ip locale client_locale os username =>
    exact h.update _ _ o
  | publishIdentity client_locale os username =>
    exact h.beside o
  | countFailedLogin username => exact h.update _ _ o
  | banAccount id banTime =>
    refine ⟨h.account,h.queue,h.now,rfl,?_,h.ip_banned⟩
    intro i t ht
    simp only [LoginDatabase.execute]
    split
    · rw [List.filter_append,List.filter_append,h.account_banned i t ht,hnew]
    · exact h.account_banned i t ht
  | banIp ip banTime =>
    refine ⟨h.account,h.queue,h.now,rfl,h.account_banned,?_⟩
    intro a t ht
    simp only [LoginDatabase.execute]
    split
    · rw [List.filter_append,List.filter_append,h.ip_banned a t ht,hnew]
    · exact h.ip_banned a t ht

theorem Looks.work (h : Looks w w') (o : ω) : Looks (w.1.work,o) (w'.1.work,o) := by
  unfold LoginDatabase.work
  rw [← h.queue]
  split
  · exact h.beside o
  · exact (h.queued _ o).execute _ o

theorem Looks.background (h : Looks w w') (bg : Background ω) :
    Looks (bg.work w) (bg.work w') := by
  have hlater := h.later (bg.elapse w.2)
  simp only [Background.work,← h.outside]
  split
  · exact hlater.work _
  · exact hlater.beside _

theorem cleanup_looks (db : LoginDatabase) (o : ω) : Looks (db,o) (db.cleanup,o) where
  account := rfl
  queue := rfl
  now := rfl
  outside := rfl
  account_banned id t ht := by
    simp only [LoginDatabase.cleanup,List.filter_map]
    have hsame : (fun ban : Ban => ban.active && ban.live t) ∘ Ban.retire db.now =
        fun ban => ban.active && ban.live t := by
      funext ban
      change (ban.active && ban.live db.now && ban.live t) = (ban.active && ban.live t)
      cases hlive : ban.live t with
      | false => simp
      | true => simp [Ban.live_mono ht hlive]
    rw [hsame]
    refine (List.map_id' _).symm.trans (List.map_congr_left fun ban hmem => ?_)
    obtain ⟨-,hkept⟩ := List.mem_filter.mp hmem
    rw [Bool.and_eq_true] at hkept
    have hactive : (ban.active && ban.live db.now) = ban.active := by
      rw [Ban.live_mono ht hkept.2,Bool.and_true]
    rw [Ban.retire,hactive]
  ip_banned ip t ht := by
    simp only [LoginDatabase.cleanup,List.filter_filter]
    refine List.filter_congr fun ban _ => ?_
    cases hlive : ban.live t with
    | false => rfl
    | true => simp [Ban.live_mono ht hlive]

theorem database_simulates (outside : AuthEnv ω) :
    Simulates (databaseEnv outside) (databaseEnv outside) Looks where
  reply := by
    intro w w' c h
    cases c <;> simp only [databaseEnv,h.account,h.outside,h.ipBan,h.accountBan]
  keeps := by
    intro w w' c h
    cases c <;> simp only [databaseEnv,← h.outside]
    case pExecute statement =>
      rw [← h.queue]
      exact h.queued _ _
    case directPExecute statement =>
      split
      · exact h.execute _ _
      · exact h.beside _
    all_goals first | exact h | exact h.beside _

/-- No session sees whether the expired bans were cleaned up at the start: whatever
sessions come, however their handlers take turns and whatever they store, every handler
gets the same replies, makes the same calls and comes to the same result, and at every
later time the same bans are in force. -/
theorem cleanup_unseen (lib : SharedLibrary) (cfg : WrongPass) (outside : AuthEnv ω)
    (bg : Background ω) (db : LoginDatabase) (o : ω) (moves : List (Move Request)) :
    let p := RequestPool.run lib cfg outside bg moves (Pool.start (db,o))
    let p' := RequestPool.run lib cfg outside bg moves (Pool.start (db.cleanup,o))
    p.threads = p'.threads ∧ p.log = p'.log ∧ p.env.2 = p'.env.2 ∧
      (∀ id, p.env.1.accountBan id = p'.env.1.accountBan id) ∧
      ∀ ip, p.env.1.ipBan ip = p'.env.1.ipBan ip := by
  intro p p'
  have halike : Pool.Alike Looks p p' :=
    (database_simulates outside).run (fun h => h.background bg) (requestBody lib cfg) moves
      ⟨rfl,rfl,cleanup_looks db o⟩
  exact ⟨halike.threads,halike.log,halike.env.outside,halike.env.accountBan,
    halike.env.ipBan⟩

end

end Realmd
