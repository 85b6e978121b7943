import Realmd.BanEnforcement
import Realmd.ProgramLogic
import Realmd.RealmRefresh
import Realmd.StoredKey
set_option autoImplicit false

namespace Realmd
open ByteCodec Interaction

def Storing : Call → Prop
  | .pExecute _ | .directPExecute _ => True
  | _ => False

section
variable {lib : SharedLibrary} {cfg : WrongPass} {s : Session} {P : Call → Prop}
  (hP : ∀ c, ¬ Storing c → P c)
include hP

theorem refuse_stores (s : Session) (result : AuthResult) :
    (refuse s result).Meets P fun _ => True :=
  s.answer_meets (hP _ not_false) _ (hP _ not_false)

theorem logonChallenge_stores (hverifier : ∀ v s name, P (.pExecute (.updateVerifier v s name)))
    (buf : Bytes) : (logonChallenge lib s buf).Meets P fun _ => True := by
  have htake : ∀ s row, (takeVerifier lib s row).Meets P fun _ => True := by
    intro s row
    unfold takeVerifier
    split
    · exact ⟨hP _ not_false,fun _ => ⟨hverifier _ _ _,fun _ => trivial⟩⟩
    · trivial
  have haccount : ∀ s row clientLocale, (challengeAccount lib s row clientLocale).Meets P
      fun _ => True := by
    intro s row clientLocale
    refine (htake s row).bind fun s₁ _ => ⟨hP _ not_false,fun b => ⟨hP _ not_false,fun unk3 => ?_⟩⟩
    exact (Session.send_meets (hP _ not_false) _ _ (hP _ not_false)).weaken
  unfold logonChallenge
  simp only
  split
  · trivial
  refine ⟨hP _ not_false,fun banned => ?_⟩
  cases banned with
  | some _ => exact refuse_stores hP _ _
  | none =>
    refine ⟨hP _ not_false,fun found => ?_⟩
    cases found with
    | none => exact refuse_stores hP _ _
    | some row =>
      simp only [Prog.bind]
      split
      · exact refuse_stores hP _ _
      refine ⟨hP _ not_false,fun dates => ?_⟩
      cases dates with
      | some _ => exact refuse_stores hP _ _
      | none => exact (haccount _ row _).bind fun _ _ => trivial

theorem reconnectChallenge_stores (buf : Bytes) :
    (reconnectChallenge lib s buf).Meets P fun _ => True := by
  unfold reconnectChallenge
  simp only
  split
  · trivial
  refine Prog.Meets.bind (p := ask _) (Q := fun _ => True) ⟨hP _ not_false,fun _ => trivial⟩
    fun found _ => ?_
  cases found with
  | none => exact Session.fail_meets (hP _ not_false) _ _
  | some sessionkey =>
    refine Prog.Meets.bind (Q := fun _ => True) ?_ fun _ _ => trivial
    exact ⟨hP _ not_false,
      fun _ => (Session.send_meets (hP _ not_false) _ _ (hP _ not_false)).weaken⟩

theorem rejectLogon_stores (hcount : ∀ name, P (.pExecute (.countFailedLogin name)))
    (hban : ∀ s id, P (.pExecute (wrongPasswordBan lib cfg s id))) (s : Session) :
    (rejectLogon lib cfg s).Meets P fun _ => True := by
  refine (s.send_meets (hP _ not_false) _ (hP _ not_false)).bind fun s₁ _ => ?_
  split
  · refine ⟨hcount _,fun _ => ⟨hP _ not_false,fun found => ?_⟩⟩
    cases found with
    | none => trivial
    | some account =>
      simp only [Prog.bind,judgeFailures]
      split
      · exact ⟨hban _ _,fun _ => trivial⟩
      · trivial
  · trivial

/-- What a handler can store: a session key or an identity at once, a failed login or a
ban in the queue, and in a logon challenge a verifier. -/
theorem frameBody_stores (cmd : AuthCmd)
    (hverifier : cmd = .authLogonChallenge → ∀ v s name, P (.pExecute (.updateVerifier v s name)))
    (hcount : ∀ name, P (.pExecute (.countFailedLogin name)))
    (hban : ∀ s id, P (.pExecute (wrongPasswordBan lib cfg s id)))
    (hkey : ∀ s : Session, P (.directPExecute (s.publication lib)))
    (hidentity : ∀ s : Session, P (.directPExecute (s.identity lib)))
    (frame : Bytes) (s : Session) : (frameBody lib cfg cmd frame s).Meets P fun _ => True := by
  have htransfer : ∀ offset, (beginPatchStream s offset).Meets P fun _ => True := by
    intro offset
    refine Prog.meets_of_runs fun t r h ev hmem => ?_
    rcases (beginPatchStream_runs h).1 ev hmem with hc | ⟨_,_,hc⟩ | ⟨_,_,hc⟩ <;> rw [hc] <;>
      exact hP _ not_false
  cases cmd with
  | authLogonChallenge => exact logonChallenge_stores hP (hverifier rfl) _
  | authReconnectChallenge => exact reconnectChallenge_stores hP _
  | authLogonProof =>
    simp only [frameBody,logonProof]
    split
    · trivial
    split
    · exact acceptLogon_meets (hP _ not_false) _ _ _ (hP _ not_false) (hP _ not_false)
        (hP _ not_false) (fun _ => hP _ not_false) (hkey _) (hP _ not_false) (hP _ not_false)
    · exact rejectLogon_stores hP hcount hban _
  | authReconnectProof =>
    simp only [frameBody,reconnectProof]
    split
    · trivial
    split
    · exact Session.publish_meets (hP _ not_false) s.closeStatus (hidentity _) (hP _ not_false)
        (hP _ not_false)
    · exact Session.fail_meets (hP _ not_false) _ _
  | realmList =>
    exact (realmList_meets (hP _ not_false) s (hP _ not_false) (hP _ not_false) (hP _ not_false)
      (fun _ _ => hP _ not_false) fun _ => hP _ not_false).weaken
  | xferAccept => exact htransfer 0
  | xferResume => exact htransfer _
  | xferCancel => exact (s.close_meets (hP _ not_false)).bind fun _ _ => trivial
  | xferInitiate | xferData => trivial

end

def KeepsKeys : Call → Prop
  | .pExecute statement => statement.resets = false
  | _ => True

theorem frameBody_keepsKeys (lib : SharedLibrary) (cfg : WrongPass) (cmd : AuthCmd)
    (frame : Bytes) (s : Session) :
    (frameBody lib cfg cmd frame s).Meets KeepsKeys fun _ => True := by
  refine frameBody_stores ?_ cmd (fun _ _ _ _ => rfl) (fun _ => rfl) ?_ (fun _ => trivial)
    (fun _ => trivial) frame s
  · intro c hc
    cases c <;> first | trivial | exact absurd trivial hc
  · intro s id
    unfold wrongPasswordBan
    split <;> rfl

/-- One more entry of the log: a publication for the account that was stored replaces its
key. -/
def addKey (name : Bytes) (key : Option Bytes) : Nat × AuthEvent → Option Bytes
  | (_,⟨.directPExecute (.publishSession sessionkey _ _ _ _ username),stored⟩) =>
      if stored ∧ username = name then key.map fun _ => sessionkey else key
  | _ => key

def lastKey (name : Bytes) (initial : Option Bytes) (log : List (Nat × AuthEvent)) :
    Option Bytes :=
  log.foldl (addKey name) initial

def LoginDatabase.key (db : LoginDatabase) (name : Bytes) : Option Bytes :=
  (db.account name).map AccountRecord.sessionkey

def ReadsLast (name : Bytes) (initial : Option Bytes) (pre : List (Nat × AuthEvent))
    (entry : Nat × AuthEvent) : Prop :=
  ∀ found, entry.2 = ⟨.selectSessionKey name,found⟩ → found = lastKey name initial pre

section
variable {lib : SharedLibrary} {cfg : WrongPass} {ω : Type} {outside : AuthEnv ω}
  {bg : Background ω} {db : LoginDatabase} {w : LoginDatabase × ω} {name : Bytes}
  {initial : Option Bytes} {p : RequestPool ω}

theorem LoginDatabase.update_key (db : LoginDatabase) (username name : Bytes)
    {f : AccountRecord → AccountRecord} :
    (db.update username f).key name =
      if name = username then (db.account name).map fun record => (f record).sessionkey
      else db.key name := by
  simp only [key,update]
  split
  · rw [Option.map_map]
    rfl
  · rfl

theorem LoginDatabase.execute_key {statement : Statement} (h : statement.resets = false) :
    (db.execute statement).key name = db.key name := by
  cases statement with
  | publishSession => contradiction
  | updateVerifier v s username =>
    rw [execute,update_key]
    split <;> rfl
  | countFailedLogin username =>
    rw [execute,update_key]
    split <;> rfl
  | _ => rfl

theorem LoginDatabase.execute_publication (sessionkey last_ip client_locale os username : Bytes)
    (locale : Nat) :
    (db.execute (.publishSession sessionkey last_ip locale client_locale os username)).key name =
      if username = name then (db.key name).map fun _ => sessionkey else db.key name := by
  rw [execute,update_key]
  by_cases heq : username = name
  · rw [if_pos heq.symm,if_pos heq,key,Option.map_map]
    rfl
  · rw [if_neg (Ne.symm heq),if_neg heq]

theorem databaseEnv_key {c : Call} (i : Nat) :
    (databaseEnv outside c w).2.1.key name =
      addKey name (w.1.key name) (i,⟨c,(databaseEnv outside c w).1⟩) := by
  cases c <;> try rfl
  case directPExecute statement =>
    simp only [databaseEnv]
    generalize (outside (.directPExecute statement) w.2).1 = stored
    cases statement with
    | publishSession sessionkey last_ip locale client_locale os username =>
      cases stored with
      | false => simp [addKey]
      | true =>
        rw [if_pos rfl,LoginDatabase.execute_publication]
        simp [addKey]
    | _ =>
      cases stored with
      | false => rfl
      | true =>
        rw [if_pos rfl]
        simpa [addKey] using LoginDatabase.execute_key rfl

theorem databaseEnv_queue {c : Call} (hc : KeepsKeys c)
    (h : ∀ statement ∈ w.1.queue, statement.resets = false) :
    ∀ statement ∈ (databaseEnv outside c w).2.1.queue, statement.resets = false := by
  cases c <;> try exact h
  case pExecute queued =>
    intro statement hmem
    rcases List.mem_append.mp hmem with hold | hnew
    · exact h statement hold
    · rw [List.mem_singleton.mp hnew]
      exact hc
  case directPExecute statement =>
    simp only [databaseEnv]
    split
    · cases statement <;> exact h
    · exact h

theorem background_key (h : ∀ statement ∈ w.1.queue, statement.resets = false) :
    (bg.work w).1.key name = w.1.key name ∧
      ∀ statement ∈ (bg.work w).1.queue, statement.resets = false := by
  simp only [Background.work]
  split
  · unfold LoginDatabase.work
    split
    · exact ⟨rfl,h⟩
    · rename_i statement rest hqueue
      have hall : ∀ st ∈ statement :: rest, st.resets = false := by
        intro st hmem
        refine h st ?_
        rw [← hqueue] at hmem
        exact hmem
      have hrest : ∀ st ∈ rest, st.resets = false := fun st hmem => hall st (by simp [hmem])
      refine ⟨LoginDatabase.execute_key (hall statement (by simp)),?_⟩
      cases statement <;> exact hrest
  · exact ⟨rfl,h⟩

/-- The database holds the last key the log shows, every read of it was of the last key
then, and no key waits for the worker. -/
structure KeyLog (name : Bytes) (initial : Option Bytes) (p : RequestPool ω) : Prop where
  threads : ∀ th ∈ p.threads, th.prog.Meets KeepsKeys fun _ => True
  queue : ∀ statement ∈ p.env.1.queue, statement.resets = false
  key : p.env.1.key name = lastKey name initial p.log
  reads : Along (ReadsLast name initial) p.log

theorem KeyLog.step (h : KeyLog name initial p) (m : Move Request) :
    KeyLog name initial
      (p.step (databaseEnv outside) (requestBody lib cfg) bg.work m) := by
  generalize hp' : p.step (databaseEnv outside) (requestBody lib cfg) bg.work m = p'
  have hspec := hp' ▸ p.step_spec (databaseEnv outside) (requestBody lib cfg) bg.work m
  cases hspec with
  | idle i => exact h
  | start tag =>
    refine ⟨?_,h.queue,h.key,h.reads⟩
    intro th hmem
    rcases List.mem_append.mp hmem with hold | hnew
    · exact h.threads th hold
    · rw [List.mem_singleton.mp hnew]
      exact frameBody_keepsKeys _ _ _ _ _
  | work =>
    obtain ⟨hkey,hqueue⟩ : (bg.work p.env).1.key name = p.env.1.key name ∧ _ :=
      background_key h.queue
    exact ⟨h.threads,hqueue,hkey.trans h.key,h.reads⟩
  | @call i tag c k hth =>
    have hprog := h.threads _ (List.mem_of_getElem? hth)
    constructor
    case threads =>
      intro th hmem
      rcases List.mem_or_eq_of_mem_set hmem with hold | rfl
      · exact h.threads th hold
      · exact hprog.2 _
    case queue => exact databaseEnv_queue hprog.1 h.queue
    case key =>
      change (databaseEnv outside c p.env).2.1.key name = lastKey name initial (p.log ++ [_])
      rw [databaseEnv_key i,h.key,lastKey,lastKey,List.foldl_append]
      rfl
    case reads =>
      refine h.reads.snoc ?_
      intro found hfound
      obtain rfl : c = .selectSessionKey name := congrArg Event.call hfound
      rw [← h.key]
      exact (eq_of_heq (Event.mk.inj hfound).2).symm

def Unpublished (name : Bytes) (log : List (Nat × AuthEvent)) : Prop :=
  ∀ entry ∈ log, ∀ key ip locale client_locale os,
    entry.2 ≠ ⟨.directPExecute (.publishSession key ip locale client_locale os name),true⟩

theorem addKey_unchanged {key : Option Bytes} {entry : Nat × AuthEvent}
    (h : Unpublished name [entry]) : addKey name key entry = key := by
  unfold addKey
  split
  · rename_i i sessionkey last_ip locale client_locale os username stored
    rw [if_neg]
    rintro ⟨rfl,rfl⟩
    exact h _ List.mem_cons_self _ _ _ _ _ rfl
  · rfl

theorem Unpublished.append {log log' : List (Nat × AuthEvent)} (h : Unpublished name log)
    (h' : Unpublished name log') : Unpublished name (log ++ log') := by
  intro entry hmem
  rcases List.mem_append.mp hmem with hl | hr
  · exact h entry hl
  · exact h' entry hr

theorem lastKey_cases {key : Bytes} {log : List (Nat × AuthEvent)}
    (h : lastKey name initial log = some key) :
    Unpublished name log ∧ initial = some key ∨
      ∃ pre i last_ip locale client_locale os post,
        log = pre ++ (i,⟨.directPExecute
          (.publishSession key last_ip locale client_locale os name),true⟩) :: post ∧
        Unpublished name post := by
  induction log using List.reverseRecOn with
  | nil => exact .inl ⟨by simp [Unpublished],h⟩
  | append_singleton log entry ih =>
    have hstep : addKey name (lastKey name initial log) entry = some key := by
      rw [← h,lastKey,lastKey,List.foldl_append]
      rfl
    by_cases hnone : Unpublished name [entry]
    · rw [addKey_unchanged hnone] at hstep
      rcases ih hstep with ⟨hold,hinit⟩ | ⟨pre,i,last_ip,locale,client_locale,os,post,rfl,hold⟩
      · exact .inl ⟨hold.append hnone,hinit⟩
      · exact .inr ⟨pre,i,last_ip,locale,client_locale,os,post ++ [entry],by simp,
          hold.append hnone⟩
    · simp only [Unpublished,List.mem_singleton,forall_eq,not_forall,not_not] at hnone
      obtain ⟨sessionkey,last_ip,locale,client_locale,os,hentry⟩ := hnone
      obtain ⟨i,ev⟩ := entry
      simp only at hentry
      subst hentry
      simp only [addKey,and_self,if_true,Option.map_eq_some_iff] at hstep
      obtain ⟨_,-,rfl⟩ := hstep
      exact .inr ⟨log,i,last_ip,locale,client_locale,os,[],rfl,by simp [Unpublished]⟩

theorem publication_origin {request : Request} {t : List AuthEvent}
    {q : AuthProg (Bool × Session)} (h : (requestBody lib cfg request).After t q) {key : Bytes}
    {last_ip client_locale os : Bytes} {locale : Nat} {stored : Bool}
    (hmem : (⟨.directPExecute
      (.publishSession key last_ip locale client_locale os name),stored⟩ : AuthEvent) ∈ t) :
    request.cmd = .authLogonProof ∧ proofA request.frame%srpN ≠ 0 ∧
      request.session.ProofMatches lib request.frame ∧
      .publishSession key last_ip locale client_locale os name =
        (request.session.keyed lib request.frame).publication lib := by
  obtain ⟨t',r,hruns⟩ := h.completes
  have hmem' := List.mem_append_left t' hmem
  generalize t ++ t' = calls at hruns hmem'
  have hsilent : ¬ Calls Harmless calls := fun hall => hall _ hmem'
  obtain ⟨s,cmd,frame⟩ := request
  cases cmd with
  | authLogonProof =>
    have hspec := logonProof_runs hruns
    have hstatement := hspec.reports.executed hmem'
    cases hspec with
    | zeroA hA => exact absurd Calls.nil hsilent
    | rejected hA hM ht hq => exact absurd ht hsilent
    | accepted hA hM haccept =>
      exact ⟨rfl,hA,hM,hstatement⟩
  | authLogonChallenge => exact absurd (logonChallenge_runs hruns).harmless hsilent
  | authReconnectChallenge => exact absurd (reconnectChallenge_runs hruns).harmless hsilent
  | authReconnectProof =>
    cases (reconnectProof_runs hruns).reports.executed hmem'
  | realmList => exact absurd (realmList_runs hruns).2.1 hsilent
  | xferAccept | xferResume =>
    exact absurd ((beginPatchStream_runs hruns).1.mono fun _ hc => hc.harmless) hsilent
  | xferCancel =>
    obtain ⟨-,-,-,ht⟩ := xferCancel_runs hruns
    exact absurd (ht.mono fun _ hc => hc.harmless) hsilent
  | xferInitiate | xferData =>
    obtain ⟨rfl,-⟩ := hruns
    exact absurd Calls.nil hsilent

/-- What a reconnect goes on with: the key stored at first where no logon published one
before, and otherwise the key of the logon proof that published last. -/
inductive KeySource (lib : SharedLibrary) (db : LoginDatabase) (name key : Bytes)
    (p : RequestPool ω) (pre : List (Nat × AuthEvent)) : Prop where
  | first (hnone : Unpublished name pre) (hkey : db.key name = some key)
  | logon (j : Nat) (th : Thread Call Reply Request (Bool × Session))
      (hth : p.threads[j]? = some th) (hcmd : th.tag.cmd = .authLogonProof)
      (hA : proofA th.tag.frame%srpN ≠ 0)
      (hM : th.tag.session.ProofMatches lib th.tag.frame)
      (hname : name = th.tag.session.safelogin)
      (hkey : key = lib.asHexStr (th.tag.session.keyed lib th.tag.frame).K)
      (front back : List (Nat × AuthEvent))
      (hpre : pre = front ++ (j,⟨.directPExecute
        ((th.tag.session.keyed lib th.tag.frame).publication lib),true⟩) :: back)
      (hback : Unpublished name back)

theorem KeyLog.source {key : Bytes} (h : KeyLog name (db.key name) p)
    (htraced : p.Traced (requestBody lib cfg)) {i : Nat}
    (hmem : (i,⟨.selectSessionKey name,some key⟩) ∈ p.log) :
    ∃ pre post, p.log = pre ++ (i,⟨.selectSessionKey name,some key⟩) :: post ∧
      KeySource lib db name key p pre := by
  obtain ⟨pre,post,hlog⟩ := List.append_of_mem hmem
  refine ⟨pre,post,hlog,?_⟩
  have hlast := (h.reads pre _ post hlog (some key) rfl).symm
  rcases lastKey_cases hlast with ⟨hnone,hkey⟩ |
    ⟨front,j,last_ip,locale,client_locale,os,back,hpre,hback⟩
  · exact .first hnone hkey
  · have hpub : (j,⟨.directPExecute
        (.publishSession key last_ip locale client_locale os name),true⟩) ∈ p.log := by
      simp [hlog,hpre]
    have hth := List.getElem?_eq_getElem (htraced.known _ hpub)
    obtain ⟨hcmd,hA,hM,hstatement⟩ :=
      publication_origin (htraced.after j _ hth) (Pool.mem_trace_of_mem_log hpub)
    obtain ⟨hkey,-,-,-,-,hname⟩ := Statement.publishSession.inj hstatement
    rw [hstatement] at hpre
    exact .logon j _ hth hcmd hA hM hname hkey front back hpre hback

/-- However handlers of many sessions take turns with the worker, a reconnect challenge
that expects a proof has the key that the account's last published logon agreed on, or the
one stored at the start if there was none: no statement that waits brings an older one
back. -/
theorem reconnects_follow_logons (lib : SharedLibrary) (cfg : WrongPass) (outside : AuthEnv ω)
    (bg : Background ω) (db : LoginDatabase) (o : ω)
    (hqueue : ∀ statement ∈ db.queue, statement.resets = false) (moves : List (Move Request))
    (p : RequestPool ω) (hp : p = RequestPool.run lib cfg outside bg moves (Pool.start (db,o))) :
    ∀ i request r, p.threads[i]? = some ⟨request,.ret r⟩ →
      request.cmd = .authReconnectChallenge → r.2.status = .reconProof →
        ∃ key pre post, r.2.K = lib.setHexStr request.session.K key ∧
          p.log = pre ++ (i,⟨.selectSessionKey (lib.escapeString r.2.login),some key⟩) :: post ∧
          KeySource lib db (lib.escapeString r.2.login) key p pre := by
  have htraced : p.Traced (requestBody lib cfg) := by
    rw [hp]
    exact (Pool.start_traced (db,o)).run moves
  have hkeys : ∀ name, KeyLog name (db.key name) p := by
    intro name
    rw [hp]
    exact Pool.run_keeps _ _ _ (fun q m hq => hq.step m) moves
      ⟨by simp [Pool.start],hqueue,rfl,.nil⟩
  intro i request r hth hcmd hstatus
  have hruns := htraced.runs hth
  obtain ⟨s,cmd,frame⟩ := request
  obtain rfl : cmd = .authReconnectChallenge := hcmd
  generalize htrace : p.trace i = t at hruns
  cases reconnectChallenge_runs hruns with
  | badOs h => contradiction
  | unknown ht hc hq =>
    rw [hq.status] at hstatus
    contradiction
  | @expects t s' key drawn ht hq =>
    have hlogin : s'.login = (challengeFields (frame ++ [0])).login := by
      rw [hq.same]
      rfl
    have hmem : (i,⟨.selectSessionKey (lib.escapeString s'.login),some key⟩) ∈ p.log := by
      rw [hlogin]
      exact Pool.mem_log_of_mem_trace (htrace ▸ List.mem_cons_self)
    obtain ⟨pre,post,hlog,hsource⟩ := (hkeys _).source htraced hmem
    refine ⟨key,pre,post,?_,hlog,hsource⟩
    rw [hq.same]
    rfl

def LoginDatabase.verifying : LoginDatabase where
  account username :=
    if username = ascii "ALICE" then some ⟨verifierRow 3,hexText sampleKey,0⟩ else none
  account_banned _ := []
  ip_banned _ := []
  queue := []
  now := 1000

def logonRequest : Request where
  session := ((requestBody referenceLibrary ⟨0,600,false⟩ sampleRequest).exec
    (databaseEnv Replies.admitting.env) (LoginDatabase.verifying,())).value.2
  cmd := .authLogonProof
  frame := clientProof referenceLibrary (ascii "ALICE") sampleReply sampleDigest 5

def reconnectRequest : Request where
  session := World.sample.sock.toSession
  cmd := .authReconnectChallenge
  frame := encodeChallenge .authReconnectChallenge 5875 (ascii "niW" ++ [0]) (ascii "SUne")
    (ascii "ALICE")

/-- The reconnect reads the key in the middle of the logon, after it was published. -/
theorem reconnects_follow_logons_sample :
    let p := RequestPool.run referenceLibrary ⟨0,600,false⟩ Replies.admitting.env .steady
      [.start logonRequest,.start reconnectRequest,.call 0,.work,.call 1,.call 0,.call 1,.call 1,
        .call 1]
      (Pool.start (LoginDatabase.verifying,()))
    ∃ r, p.threads[1]? = some ⟨reconnectRequest,.ret r⟩ ∧ r.2.K = leNat sampleLogonKey ∧
      ∃ key pre post, r.2.K = referenceLibrary.setHexStr 0 key ∧
        p.log = pre ++ (1,⟨.selectSessionKey
          (referenceLibrary.escapeString r.2.login),some key⟩) :: post ∧
        KeySource referenceLibrary LoginDatabase.verifying
          (referenceLibrary.escapeString r.2.login) key p pre := by
  intro p
  have hended : (p.ended 1).map (fun x => (x.1,x.2.2.status,x.2.2.K)) =
      some (reconnectRequest,.reconProof,leNat sampleLogonKey) := by
    decide +kernel
  obtain ⟨tag,r,hth,hr⟩ := Pool.ended_map hended
  obtain ⟨rfl,hstatus,hK⟩ : tag = _ ∧ r.2.status = _ ∧ r.2.K = _ := by simpa using hr
  have h := reconnects_follow_logons referenceLibrary ⟨0,600,false⟩ Replies.admitting.env .steady
    LoginDatabase.verifying () nofun _ p rfl 1 reconnectRequest r hth rfl hstatus
  exact ⟨r,hth,hK,h⟩

end

end Realmd
