import Realmd.LoginDatabase
set_option autoImplicit false

namespace Realmd
open ByteCodec Interaction

/-- Who can be banned: an account by its id, or a peer by the text of its address. -/
inductive Subject where
  | account (id : UInt32)
  | ip (address : Bytes)
  deriving DecidableEq, Repr

def Subject.rows (db : LoginDatabase) : Subject → List Ban
  | .account id => db.account_banned id
  | .ip address => db.ip_banned address

def Subject.statement (banTime : Nat) : Subject → Statement
  | .account id => .banAccount id banTime
  | .ip address => .banIp address banTime

/-- A challenge asked for the bans on a subject and was told of none. -/
def Subject.passed : Subject → AuthEvent
  | .account id => ⟨.selectAccountBanned id,none⟩
  | .ip address => ⟨.selectIpBanned address,none⟩

section
variable {ω : Type} {db : LoginDatabase} {ban : Ban} {subject : Subject}

theorem Subject.rows_execute (h : ban ∈ subject.rows db) (statement : Statement) :
    ban ∈ subject.rows (db.execute statement) := by
  cases statement with
  | banAccount id banTime =>
    cases subject with
    | ip address => exact h
    | account i =>
      simp only [rows,LoginDatabase.execute]
      split
      · exact List.mem_append_left _ h
      · exact h
  | banIp ip banTime =>
    cases subject with
    | account id => exact h
    | ip address =>
      simp only [rows,LoginDatabase.execute]
      split
      · exact List.mem_append_left _ h
      · exact h
  | _ => cases subject <;> exact h

theorem Subject.rows_work (h : ban ∈ subject.rows db) : ban ∈ subject.rows db.work := by
  unfold LoginDatabase.work
  split
  · exact h
  · rename_i statement rest hqueue
    refine rows_execute ?_ statement
    cases subject <;> exact h

theorem LoginDatabase.execute_now (db : LoginDatabase) (statement : Statement) :
    (db.execute statement).now = db.now := by
  cases statement <;> rfl

theorem LoginDatabase.work_now (db : LoginDatabase) : db.work.now = db.now := by
  unfold work
  split
  · rfl
  · exact execute_now _ _

theorem Subject.rows_statement (db : LoginDatabase) (subject : Subject) (banTime : Nat) :
    db.newBan banTime ∈ subject.rows (db.execute (subject.statement banTime)) := by
  cases subject <;> simp [rows,statement,LoginDatabase.execute]

theorem LoginDatabase.newBan_live (db : LoginDatabase) (banTime t : Nat) :
    (db.newBan banTime).live t = true ↔ banTime = 0 ∨ t < db.now+banTime := by
  simp [newBan,Ban.live,Ban.permanent]

variable {outside : AuthEnv ω} {bg : Background ω} {w : LoginDatabase × ω}

theorem databaseEnv_now (c : Call) : (databaseEnv outside c w).2.1.now = w.1.now := by
  cases c <;> simp only [databaseEnv]
  split
  · exact LoginDatabase.execute_now _ _
  · rfl

theorem databaseEnv_rows (h : ban ∈ subject.rows w.1) (c : Call) :
    ban ∈ subject.rows (databaseEnv outside c w).2.1 := by
  cases c <;> simp only [databaseEnv]
  case directPExecute statement =>
    split
    · exact Subject.rows_execute h _
    · exact h
  all_goals cases subject <;> exact h

theorem background_rows (h : ban ∈ subject.rows w.1) : ban ∈ subject.rows (bg.work w).1 := by
  have hlater : ban ∈ subject.rows { w.1 with now := w.1.now+bg.elapse w.2 } := by
    cases subject <;> exact h
  simp only [Background.work]
  split
  · exact Subject.rows_work hlater
  · exact hlater

theorem background_now : w.1.now ≤ (bg.work w).1.now := by
  simp only [Background.work]
  split
  · rw [LoginDatabase.work_now]
    exact Nat.le_add_right _ _
  · exact Nat.le_add_right _ _

theorem databaseEnv_passed (h : ban ∈ subject.rows w.1) (hactive : ban.active = true) {c : Call}
    (hpassed : (⟨c,(databaseEnv outside c w).1⟩ : AuthEvent) = subject.passed) :
    ban.live w.1.now = false := by
  cases subject with
  | account id =>
    obtain rfl : c = .selectAccountBanned id := congrArg Event.call hpassed
    have hreply := eq_of_heq (Event.mk.inj hpassed).2
    have hnone : w.1.accountBan id = none := Option.map_eq_none_iff.mp hreply
    have hdead := List.find?_eq_none.mp hnone ban h
    simpa [hactive] using hdead
  | ip address =>
    obtain rfl : c = .selectIpBanned address := congrArg Event.call hpassed
    have hreply := eq_of_heq (Event.mk.inj hpassed).2
    have hnone : w.1.ipBan address = none := Option.map_eq_none_iff.mp hreply
    simpa using List.find?_eq_none.mp hnone ban h

/-- A subject is banned, and no request from number `n` on was told otherwise while the
ban was in force. -/
structure Barred (subject : Subject) (ban : Ban) (n : Nat) (p : RequestPool ω) : Prop where
  row : ban ∈ subject.rows p.env.1
  told : ∀ entry ∈ p.log, n ≤ entry.1 → entry.2 = subject.passed →
    ban.live p.env.1.now = false

theorem Ban.dead_mono {ban : Ban} {t t' : Nat} (ht : t ≤ t') (h : ban.live t = false) :
    ban.live t' = false := by
  cases hlive : ban.live t' with
  | false => rfl
  | true => simp [Ban.live_mono ht hlive] at h

theorem Barred.step {lib : SharedLibrary} {cfg : WrongPass} {n : Nat} {p : RequestPool ω}
    (hactive : ban.active = true) (h : Barred subject ban n p) (m : Move Request) :
    Barred subject ban n
      (p.step (databaseEnv outside) (requestBody lib cfg) bg.work m) := by
  generalize hp' : p.step (databaseEnv outside) (requestBody lib cfg) bg.work m = p'
  have hspec := hp' ▸ p.step_spec (databaseEnv outside) (requestBody lib cfg) bg.work m
  cases hspec with
  | start tag => exact ⟨h.row,h.told⟩
  | idle i => exact h
  | work =>
    refine ⟨background_rows h.row,?_⟩
    intro entry hmem hn hpassed
    exact Ban.dead_mono background_now (h.told entry hmem hn hpassed)
  | @call i tag c k hth =>
    refine ⟨databaseEnv_rows h.row c,?_⟩
    intro entry hmem hn hpassed
    simp only [Pool.record] at hmem ⊢
    rw [databaseEnv_now]
    rcases List.mem_append.mp hmem with hold | hnew
    · exact h.told entry hold hn hpassed
    · obtain rfl := List.mem_singleton.mp hnew
      exact databaseEnv_passed h.row hactive hpassed

theorem challenge_told {lib : SharedLibrary} {cfg : WrongPass} {request : Request}
    {t : List AuthEvent} {r : Bool × Session} (hcmd : request.cmd = .authLogonChallenge)
    (h : (requestBody lib cfg request).Runs t r) :
    r.2.status = .closed ∨
      ⟨.selectIpBanned (lib.escapeString request.session.remote_address),none⟩ ∈ t ∧
        ∃ row, ⟨.selectAccountBanned row.id,none⟩ ∈ t ∧
          ∀ username found, ⟨.selectAccount username,found⟩ ∈ t → found = some row := by
  unfold requestBody at h
  rw [hcmd] at h
  cases logonChallenge_runs h with
  | badOs h => exact .inl rfl
  | refused ht hq => exact .inl hq.status
  | expects ht row b s₁ hgates =>
    exact .inr ⟨hgates.ipBanned,row,hgates.accountBanned,hgates.row_unique⟩

/-- The ban is on the peer of a request, or on the account it names. -/
def Subject.Concerns (lib : SharedLibrary) (request : Request) (t : List AuthEvent) :
    Subject → Prop
  | .account id => ∃ username row, ⟨.selectAccount username,some row⟩ ∈ t ∧ row.id = id
  | .ip address => lib.escapeString request.session.remote_address = address

/-- From the moment the worker applies a ban, and for as long as its seconds are not over,
or for good where there are none, every logon challenge of the banned account or peer is
turned away, whatever else the sessions do meanwhile. -/
theorem ban_keeps_out (lib : SharedLibrary) (cfg : WrongPass) (outside : AuthEnv ω)
    (bg : Background ω) (db : LoginDatabase) (o : ω) (before after : List (Move Request))
    (p₀ p : RequestPool ω)
    (h₀ : p₀ = RequestPool.run lib cfg outside bg before (Pool.start (db,o)))
    (subject : Subject) (banTime : Nat) (rest : List Statement)
    (hqueue : p₀.env.1.queue = subject.statement banTime :: rest)
    (hawake : bg.awake p₀.env.2 = true)
    (hp : p = RequestPool.run lib cfg outside bg (.work :: after) p₀)
    (htime : banTime = 0 ∨ p.env.1.now < p₀.env.1.now+bg.elapse p₀.env.2+banTime) :
    ∀ i request r, p₀.threads.length ≤ i → p.threads[i]? = some ⟨request,.ret r⟩ →
      request.cmd = .authLogonChallenge → subject.Concerns lib request (p.trace i) →
        r.2.status = .closed := by
  have htraced₀ : p₀.Traced (requestBody lib cfg) := by
    rw [h₀]
    exact (Pool.start_traced (db,o)).run before
  have htraced : p.Traced (requestBody lib cfg) := by
    rw [hp]
    exact htraced₀.run (.work :: after)
  let now := p₀.env.1.now+bg.elapse p₀.env.2
  let db₁ : LoginDatabase := { p₀.env.1 with queue := rest, now := now }
  have hdb : (bg.work p₀.env).1 = db₁.execute (subject.statement banTime) := by
    simp only [Background.work,hawake,if_true,LoginDatabase.work,hqueue]
    rfl
  have hstart : Barred subject (db₁.newBan banTime) p₀.threads.length
      { p₀ with env := bg.work p₀.env } := by
    constructor
    case row =>
      change _ ∈ subject.rows (bg.work p₀.env).1
      rw [hdb]
      exact subject.rows_statement db₁ banTime
    case told =>
      intro entry hmem hn
      exact absurd (htraced₀.known entry hmem) (Nat.not_lt.mpr hn)
  have hbarred : Barred subject (db₁.newBan banTime) p₀.threads.length p := by
    rw [hp]
    exact Pool.run_keeps _ _ _ (fun q m hq => hq.step rfl m) after hstart
  have hlive : (db₁.newBan banTime).live p.env.1.now = true :=
    (db₁.newBan_live banTime _).mpr htime
  have htold : ∀ i, p₀.threads.length ≤ i → subject.passed ∉ p.trace i := by
    intro i hi hmem
    have hdead := hbarred.told _ (Pool.mem_log_of_mem_trace hmem) hi rfl
    rw [hlive] at hdead
    contradiction
  intro i request r hi hth hcmd hconcerns
  rcases challenge_told hcmd (htraced.runs hth) with hclosed | ⟨hip,row,haccount,hrow⟩
  · exact hclosed
  · refine absurd ?_ (htold i hi)
    cases subject with
    | ip address =>
      rw [Subject.passed,← hconcerns]
      exact hip
    | account id =>
      obtain ⟨username,row',hmem,rfl⟩ := hconcerns
      obtain rfl := Option.some.inj (hrow username _ hmem)
      exact haccount

def LoginDatabase.sample : LoginDatabase where
  account username := if username = ascii "ALICE" then some ⟨sampleRow,[],3⟩ else none
  account_banned _ := []
  ip_banned _ := []
  queue := [.banAccount 7 600]
  now := 1000

def Background.steady : Background Unit := ⟨fun _ => 1,fun _ => true,id⟩

def sampleRequest : Request where
  session := World.sample.sock.toSession
  cmd := .authLogonChallenge
  frame := encodeChallenge .authLogonChallenge 5875 (ascii "niW" ++ [0]) (ascii "SUne")
    (ascii "ALICE")

theorem ban_keeps_out_sample :
    let p := RequestPool.run referenceLibrary ⟨3,600,true⟩ ({} : Replies).env .steady
      (.work :: .start sampleRequest :: List.replicate 5 (.call 0))
      (Pool.start (LoginDatabase.sample,()))
    ∃ r, p.threads[0]? = some ⟨sampleRequest,.ret r⟩ ∧ r.2.status = .closed ∧
      ∃ row, (⟨.selectAccount (ascii "ALICE"),some row⟩ : AuthEvent) ∈ p.trace 0 ∧
        row.id = 7 := by
  intro p
  have hended : (p.ended 0).map Prod.fst = some sampleRequest ∧ p.env.1.now < 1601 ∧
      (⟨.selectAccount (ascii "ALICE"),some sampleRow⟩ : AuthEvent) ∈ p.trace 0 := by
    decide +kernel
  obtain ⟨hfin,hnow,hmem⟩ := hended
  obtain ⟨_,r,hth,rfl⟩ := Pool.ended_map hfin
  have h := ban_keeps_out referenceLibrary ⟨3,600,true⟩ ({} : Replies).env .steady
    LoginDatabase.sample () [] (.start sampleRequest :: List.replicate 5 (.call 0)) _ p rfl
    (.account 7) 600 [] rfl rfl rfl (.inr hnow) 0 sampleRequest r (Nat.zero_le _) hth rfl
    ⟨ascii "ALICE",sampleRow,hmem,rfl⟩
  exact ⟨r,hth,h,sampleRow,hmem,rfl⟩

end

end Realmd
