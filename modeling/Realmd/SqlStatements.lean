import Realmd.SqlText
set_option autoImplicit false

namespace Realmd
open ByteCodec Interaction Quoting

structure ClientClaim where
  login : Bytes
  locale : Bytes
  os : Bytes
  address : Bytes
  deriving DecidableEq, Repr

/-- What the statements rely on besides: the escape of the database client writes a
backslash before the bytes that need one, and a big number is printed in hexadecimal
digits. -/
structure WritesSql (lib : SharedLibrary) : Prop where
  escape : ∀ text, lib.escapeString text = text.flatMap escapeByte
  hex : ∀ n, ∀ c ∈ lib.asHexStr n, (hexValue c).isSome = true

section
variable (lib : SharedLibrary) (claim : ClientClaim)

/-- The texts of a statement are the claims of the client, escaped, but for the address
of the peer, and what the daemon makes itself. -/
def Statement.Written : Statement → Prop
  | .updateVerifier v s username =>
      (∃ m n, v = lib.asHexStr m ∧ s = lib.asHexStr n) ∧
        username = lib.escapeString claim.login
  | .publishSession sessionkey last_ip _ client_locale os username =>
      (∃ n, sessionkey = lib.asHexStr n) ∧ last_ip = claim.address ∧
        client_locale = lib.escapeString claim.locale ∧
        os = lib.escapeString claim.os ∧ username = lib.escapeString claim.login
  | .publishIdentity client_locale os username =>
      client_locale = lib.escapeString claim.locale ∧ os = lib.escapeString claim.os ∧
        username = lib.escapeString claim.login
  | .countFailedLogin username => username = lib.escapeString claim.login
  | .banAccount _ _ => True
  | .banIp ip _ => ip = lib.escapeString claim.address

def Written : Call → Prop
  | .selectIpBanned ip => ip = lib.escapeString claim.address
  | .selectAccount username | .selectSessionKey username | .selectFailedLogins username
  | .selectAccountId username => username = lib.escapeString claim.login
  | .pExecute statement | .directPExecute statement => statement.Written lib claim
  | _ => True

variable {lib claim}

def Statement.meant (claim : ClientClaim) : Statement → List Bytes
  | .updateVerifier v s _ => [v,s,claim.login]
  | .publishSession sessionkey _ locale _ _ _ =>
      [sessionkey,claim.address,decimal locale,claim.locale,claim.os,claim.login]
  | .publishIdentity _ _ _ => [claim.locale,claim.os,claim.login]
  | .countFailedLogin _ => [claim.login]
  | .banAccount id banTime => [decimal id.toNat,decimal banTime]
  | .banIp _ banTime => [claim.address,decimal banTime]

def meantBy (claim : ClientClaim) : Call → List Bytes
  | .selectIpBanned _ => [claim.address]
  | .selectAccount _ | .selectSessionKey _ | .selectFailedLogins _ | .selectAccountId _ =>
      [claim.login]
  | .selectAccountBanned id => [decimal id.toNat]
  | .selectNumChars realmid acctid => [signedDecimal realmid,decimal acctid.toNat]
  | .pExecute statement | .directPExecute statement => statement.meant claim
  | _ => []

theorem WritesSql.escaped (hlib : WritesSql lib) (text : Bytes) :
    Takes .quoted (lib.escapeString text,text) := by
  rw [hlib.escape]
  exact escaped_passes text

theorem WritesSql.hexed (hlib : WritesSql lib) (n : Nat) :
    Takes .quoted (lib.asHexStr n,lib.asHexStr n) :=
  Passes.self fun c hc => hexValue_plain (hlib.hex n c hc)

theorem takes_plain {text : Bytes} (h : ∀ c ∈ text, c ≠ 0 ∧ c ≠ 39 ∧ c ≠ 92) (hole : Hole) :
    Takes hole (text,text) := by
  cases hole with
  | bare => exact ⟨h,rfl⟩
  | quoted => exact Passes.self h

theorem Statement.Written.reads (hlib : WritesSql lib)
    (haddress : ∀ c ∈ claim.address, c ≠ 0 ∧ c ≠ 39 ∧ c ≠ 92) {statement : Statement}
    (h : statement.Written lib claim) : statement.query.ReadsAs (statement.meant claim) := by
  have hdec := fun n hole => takes_plain (decimal_plain n) hole
  have hadd := takes_plain haddress .quoted
  cases statement with
  | updateVerifier v s username =>
    obtain ⟨⟨m,n,rfl,rfl⟩,rfl⟩ := h
    have hholes : sqlHoles (query (.updateVerifier [] [] [])).format =
      some [.quoted,.quoted,.quoted] := by decide +kernel
    exact SqlQuery.reads hholes rfl
      (.cons (hlib.hexed m) (.cons (hlib.hexed n) (.cons (hlib.escaped _) .nil)))
  | publishSession sessionkey last_ip locale client_locale os username =>
    obtain ⟨⟨n,rfl⟩,rfl,rfl,rfl,rfl⟩ := h
    have hholes : sqlHoles (query (.publishSession [] [] 0 [] [] [])).format =
      some [.quoted,.quoted,.quoted,.quoted,.quoted,.quoted] := by decide +kernel
    exact SqlQuery.reads hholes rfl
      (.cons (hlib.hexed n) (.cons hadd (.cons (hdec _ _) (.cons (hlib.escaped _)
        (.cons (hlib.escaped _) (.cons (hlib.escaped _) .nil))))))
  | publishIdentity client_locale os username =>
    obtain ⟨rfl,rfl,rfl⟩ := h
    have hholes : sqlHoles (query (.publishIdentity [] [] [])).format =
      some [.quoted,.quoted,.quoted] := by decide +kernel
    exact SqlQuery.reads hholes rfl
      (.cons (hlib.escaped _) (.cons (hlib.escaped _) (.cons (hlib.escaped _) .nil)))
  | countFailedLogin username =>
    obtain rfl := h
    have hholes : sqlHoles (query (.countFailedLogin [])).format = some [.quoted] := by
      decide +kernel
    exact SqlQuery.reads hholes rfl (.cons (hlib.escaped _) .nil)
  | banAccount id banTime =>
    have hholes : sqlHoles (query (.banAccount 0 0)).format = some [.quoted,.quoted] := by
      decide +kernel
    exact SqlQuery.reads hholes rfl (.cons (hdec _ _) (.cons (hdec _ _) .nil))
  | banIp ip banTime =>
    obtain rfl := h
    have hholes : sqlHoles (query (.banIp [] 0)).format = some [.quoted,.quoted] := by
      decide +kernel
    exact SqlQuery.reads hholes rfl (.cons (hlib.escaped _) (.cons (hdec _ _) .nil))

def asked (call : Call) : SqlQuery := (queryOf call).getD ⟨[],[]⟩

theorem Written.reads (hlib : WritesSql lib)
    (haddress : ∀ c ∈ claim.address, c ≠ 0 ∧ c ≠ 39 ∧ c ≠ 92) {call : Call} {q : SqlQuery}
    (h : Written lib claim call) (hq : queryOf call = some q) :
    q.ReadsAs (meantBy claim call) := by
  have hasked : q = asked call := by simp [asked,hq]
  rw [hasked]
  have hdec := fun n hole => takes_plain (decimal_plain n) hole
  have hname : List.Forall₂ Takes [.quoted] [(lib.escapeString claim.login,claim.login)] :=
    .cons (hlib.escaped _) .nil
  cases call with
  | selectIpBanned ip =>
    obtain rfl := h
    have hholes : sqlHoles (asked (.selectIpBanned [])).format = some [.quoted] := by decide +kernel
    exact SqlQuery.reads hholes rfl
      (.cons (hlib.escaped _) .nil)
  | selectAccount username =>
    obtain rfl := h
    have hholes : sqlHoles (asked (.selectAccount [])).format = some [.quoted] := by decide +kernel
    exact SqlQuery.reads hholes rfl hname
  | selectAccountBanned id =>
    have hholes : sqlHoles (asked (.selectAccountBanned 0)).format = some [.bare] := by
      decide +kernel
    exact SqlQuery.reads hholes rfl (.cons (hdec _ _) .nil)
  | selectSessionKey username =>
    obtain rfl := h
    have hholes : sqlHoles (asked (.selectSessionKey [])).format = some [.quoted] := by
      decide +kernel
    exact SqlQuery.reads hholes rfl hname
  | selectFailedLogins username =>
    obtain rfl := h
    have hholes : sqlHoles (asked (.selectFailedLogins [])).format = some [.quoted] := by
      decide +kernel
    exact SqlQuery.reads hholes rfl hname
  | selectAccountId username =>
    obtain rfl := h
    have hholes : sqlHoles (asked (.selectAccountId [])).format = some [.quoted] := by
      decide +kernel
    exact SqlQuery.reads hholes rfl hname
  | selectNumChars realmid acctid =>
    have hholes : sqlHoles (asked (.selectNumChars 0 0)).format = some [.quoted,.quoted] := by
      decide +kernel
    exact SqlQuery.reads hholes rfl
      (.cons (takes_plain (signedDecimal_plain _) _) (.cons (hdec _ _) .nil))
  | pExecute statement | directPExecute statement =>
    exact Statement.Written.reads hlib haddress h
  | _ => contradiction

structure Session.Tells (lib : SharedLibrary) (claim : ClientClaim) (s : Session) : Prop where
  address : s.remote_address = claim.address
  login : s.safelogin = lib.escapeString claim.login
  identity : s.status = .logonProof ∨ s.status = .reconProof →
    s.os = claim.os ∧ s.localizationName = claim.locale

variable {cfg : WrongPass} {s s' : Session}

theorem refuse_written (s : Session) (result : AuthResult) :
    (refuse s result).Meets (Written lib claim) fun _ => True :=
  s.answer_meets trivial _ trivial

theorem challengeAccount_written (hlogin : s.safelogin = lib.escapeString claim.login)
    (row : AccountRow) (clientLocale : Option Bytes) :
    (challengeAccount lib s row clientLocale).Meets (Written lib claim) fun _ => True := by
  have htake : (takeVerifier lib s row).Meets (Written lib claim) fun _ => True := by
    unfold takeVerifier
    split
    · exact ⟨trivial,fun salt => ⟨⟨⟨_,_,rfl,rfl⟩,hlogin⟩,fun _ => trivial⟩⟩
    · trivial
  refine htake.bind fun s _ => ⟨trivial,fun b => ⟨trivial,fun unk3 => ?_⟩⟩
  exact (Session.send_meets trivial _ _ trivial).weaken

def claimed (address buf : Bytes) : ClientClaim where
  login := (challengeFields buf).login
  locale := (challengeFields buf).clientLocale.getD []
  os := (challengeFields buf).os.reverse
  address := address

theorem logonChallenge_written (s : Session) (buf : Bytes) :
    (logonChallenge lib s buf).Meets (Written lib (claimed s.remote_address buf))
      fun _ => True := by
  unfold logonChallenge
  simp only
  split
  · trivial
  refine ⟨rfl,fun banned => ?_⟩
  cases banned with
  | some _ => exact refuse_written _ _
  | none =>
    refine ⟨rfl,fun found => ?_⟩
    cases found with
    | none => exact refuse_written _ _
    | some row =>
      simp only [Prog.bind]
      split
      · exact refuse_written _ _
      refine ⟨trivial,fun dates => ?_⟩
      cases dates with
      | some _ => exact refuse_written _ _
      | none => exact (challengeAccount_written rfl row _).bind fun _ _ => trivial

theorem reconnectChallenge_written (s : Session) (buf : Bytes) :
    (reconnectChallenge lib s buf).Meets (Written lib (claimed s.remote_address buf))
      fun _ => True := by
  unfold reconnectChallenge
  simp only
  split
  · trivial
  refine Prog.Meets.bind (p := ask _) (Q := fun _ => True) ⟨rfl,fun _ => trivial⟩
    fun found _ => ?_
  cases found with
  | none => exact Session.fail_meets trivial _ _
  | some sessionkey =>
    refine Prog.Meets.bind (Q := fun _ => True) ?_ fun _ _ => trivial
    exact ⟨trivial,fun _ => (Session.send_meets trivial _ _ trivial).weaken⟩

theorem judgeFailures_written (haddress : s.remote_address = claim.address)
    (found : Option (UInt32 × UInt32)) :
    (judgeFailures lib cfg s found).Meets (Written lib claim) fun _ => True := by
  cases found with
  | none => trivial
  | some account =>
    simp only [judgeFailures]
    split
    · refine ⟨?_,fun _ => trivial⟩
      simp only [wrongPasswordBan]
      split
      · trivial
      · simp [Written,Statement.Written,haddress]
    · trivial

theorem rejectLogon_written (haddress : s.remote_address = claim.address)
    (hlogin : s.safelogin = lib.escapeString claim.login) :
    (rejectLogon lib cfg s).Meets (Written lib claim) fun _ => True := by
  refine (s.send_meets trivial _ trivial).bind fun s₁ hq => ?_
  have haddress' : s₁.remote_address = claim.address := by rw [hq.same]; exact haddress
  have hlogin' : s₁.safelogin = lib.escapeString claim.login := by rw [hq.same]; exact hlogin
  split
  · exact ⟨hlogin',fun _ => ⟨hlogin',fun found => judgeFailures_written haddress' found⟩⟩
  · trivial

theorem logonProof_written (h : s.Tells lib claim) (hs : s.status = .logonProof) (lp : Bytes) :
    (logonProof lib cfg s lp).Meets (Written lib claim) fun _ => True := by
  obtain ⟨hos,hlocale⟩ := h.identity (.inl hs)
  unfold logonProof
  simp only
  split
  · trivial
  split
  · refine acceptLogon_meets trivial _ _ _ trivial trivial trivial (fun _ => trivial) ?_ trivial
      trivial
    refine ⟨⟨_,rfl⟩,h.address,?_,?_,h.login⟩
    · exact congrArg lib.escapeString hlocale
    · exact congrArg lib.escapeString hos
  · exact rejectLogon_written h.address h.login

theorem reconnectProof_written (h : s.Tells lib claim) (hs : s.status = .reconProof)
    (lp : Bytes) :
    (reconnectProof lib s lp).Meets (Written lib claim) fun _ => True := by
  obtain ⟨hos,hlocale⟩ := h.identity (.inr hs)
  unfold reconnectProof
  simp only
  split
  · trivial
  split
  · refine Session.publish_meets trivial s.closeStatus ?_ trivial trivial
    exact ⟨congrArg lib.escapeString hlocale,congrArg lib.escapeString hos,h.login⟩
  · exact Session.fail_meets trivial _ _

def EStatus.late : EStatus → Bool
  | .challenge | .logonProof | .reconProof => false
  | _ => true

/-- The session has kept its account, and has put its proof behind it. -/
structure Session.Bound (s s' : Session) : Prop where
  safelogin : s'.safelogin = s.safelogin
  login : s'.login = s.login
  late : s'.status.late = true

theorem Session.Bound.of_quiet {s₀ : Session} (hq : s₀.Quiet s')
    (hsafe : s₀.safelogin = s.safelogin) (hlogin : s₀.login = s.login)
    (hlate : s₀.status.late = true) : s.Bound s' := by
  rw [hq.same]
  exact ⟨hsafe,hlogin,hlate⟩

theorem LogonProofSpec.bound {lp : Bytes} {t : List AuthEvent} {r : Bool × Session}
    (h : LogonProofSpec lib s lp t r) : s.Bound r.2 := by
  cases h with
  | zeroA hA => exact .of_quiet (.refl _) rfl rfl rfl
  | rejected hA hM ht hq => exact .of_quiet hq rfl rfl rfl
  | accepted hA hM h =>
    cases h with
    | noArchive hpatch ht hq => exact .of_quiet hq rfl rfl rfl
    | offered artifact hpatch ht₁ ht₂ ht₃ hq => exact .of_quiet hq rfl rfl rfl
    | unsupported hpatch hbuild ht hq => exact .of_quiet hq rfl rfl rfl
    | published hpatch hbuild ht honce hq => exact .of_quiet hq rfl rfl rfl
    | unpublished ht hc hq => exact .of_quiet hq rfl rfl rfl

theorem ReconnectProofSpec.bound {lp : Bytes} {t : List AuthEvent} {r : Bool × Session}
    (h : ReconnectProofSpec lib s lp t r) : s.Bound r.2 := by
  rcases h.origin with hq | hq <;> exact .of_quiet hq rfl rfl rfl

theorem beginPatchStream_bound {offset : UInt64} {t : List AuthEvent} {r : Bool × Session}
    (hs : s.status = .patch) (h : (beginPatchStream s offset).Runs t r) : s.Bound r.2 := by
  obtain ⟨-,-,⟨-,-,hq⟩ | hq⟩ := beginPatchStream_runs h
  · exact .of_quiet hq rfl rfl (by simp [hs,EStatus.late])
  · exact .of_quiet hq rfl rfl rfl

variable {ω : Type} {e : AuthEnv ω} {run : HandlerRun ω} {h : List (HandlerRun ω)}

theorem Ran.bound (hran : Ran lib cfg e run) (hs : run.before.sock.status ≠ .challenge) :
    run.before.sock.toSession.Bound run.after.sock.toSession := by
  cases hstatus : run.before.sock.status with
  | challenge => exact absurd hstatus hs
  | logonProof => exact (hran.at_logonProof hstatus).2.bound
  | reconProof => exact (hran.at_reconProof hstatus).2.bound
  | authed =>
    obtain ⟨-,hq,-⟩ := hran.at_authed hstatus
    exact .of_quiet hq rfl rfl (by simp [hstatus,EStatus.late])
  | closed => exact absurd hstatus hran.not_closed
  | patch =>
    have hruns := hran.runs
    rcases hran.commands hstatus with hc | hc | hc <;> rw [hc] at hruns
    · exact beginPatchStream_bound hstatus hruns
    · exact beginPatchStream_bound hstatus hruns
    · obtain ⟨-,hq,-⟩ := xferCancel_runs hruns
      exact .of_quiet hq rfl rfl (by simp [hstatus,EStatus.late])

theorem Session.Tells.quiet (ht : s.Tells lib claim) (hq : s.Quiet s') : s'.Tells lib claim := by
  rw [hq.same]
  exact ⟨ht.address,ht.login,ht.identity⟩

theorem Session.Tells.bound (ht : s.Tells lib claim) (hb : s.Bound s')
    (hsettings : s'.settings = s.settings) : s'.Tells lib claim := by
  have hlate := hb.late
  refine ⟨(congrArg (·.1) hsettings).trans ht.address,hb.safelogin.trans ht.login,?_⟩
  rintro (hs | hs) <;> simp [hs,EStatus.late] at hlate

theorem Ran.written (hran : Ran lib cfg e run) (hs : run.before.sock.status ≠ .challenge)
    (ht : run.before.sock.toSession.Tells lib claim) : Calls (Written lib claim) run.calls := by
  have hruns := hran.runs
  cases hstatus : run.before.sock.status with
  | challenge => exact absurd hstatus hs
  | closed => exact absurd hstatus hran.not_closed
  | logonProof =>
    rw [hran.commands hstatus] at hruns
    exact ((logonProof_written ht hstatus run.frame).runs hruns).1
  | reconProof =>
    rw [hran.commands hstatus] at hruns
    exact ((reconnectProof_written ht hstatus run.frame).runs hruns).1
  | authed =>
    rw [hran.commands hstatus] at hruns
    have hmeets : (realmList lib run.before.sock.toSession).Meets (Written lib claim) _ :=
      realmList_meets trivial _ ht.login trivial trivial (fun _ _ => trivial) fun _ => trivial
    exact (hmeets.runs hruns).1
  | patch =>
    obtain ⟨-,hstream,-⟩ := hran.at_patch hstatus
    refine hstream.mono fun c hc => ?_
    rcases hc with rfl | ⟨_,_,rfl⟩ | ⟨_,_,rfl⟩ <;> trivial

theorem Linked.written (hl : Linked lib cfg e s h s') (hs : s.status ≠ .challenge)
    (ht : s.Tells lib claim) : ∀ run ∈ h, Calls (Written lib claim) run.calls := by
  induction hl with
  | nil hq => simp
  | @cons s s' run rest hq hran hrest ih =>
    have hs' : run.before.sock.status ≠ .challenge := by rwa [hq.status]
    have ht' := ht.quiet hq
    have hbound := hran.bound hs'
    have hafter : run.after.sock.status ≠ .challenge := by
      intro heq
      simpa [heq,EStatus.late] using hbound.late
    intro run' hmem
    rcases List.mem_cons.mp hmem with rfl | hmem
    · exact hran.written hs' ht'
    · exact ih hafter (ht'.bound hbound hran.settings) run' hmem

theorem LogonChallenged.tells {c : HandlerRun ω} (hc : LogonChallenged lib cfg e c) :
    c.after.sock.toSession.Tells lib
      (claimed c.before.sock.remote_address (c.frame ++ [0])) := by
  obtain ⟨row,b,s₁,hgates⟩ := hc.gates
  obtain ⟨t,hv,-⟩ := hgates.verifier
  have hs₁ : s₁.remote_address = c.before.sock.remote_address ∧
      s₁.safelogin = lib.escapeString c.fields.login ∧ s₁.os = c.fields.os.reverse := by
    cases hv <;> exact ⟨rfl,rfl,rfl⟩
  rw [hgates.expects.same]
  exact ⟨hs₁.1,hs₁.2.1,fun _ => ⟨hs₁.2.2,rfl⟩⟩

theorem ReconnectChallenged.tells {c : HandlerRun ω} (hc : ReconnectChallenged lib cfg e c) :
    c.after.sock.toSession.Tells lib
      (claimed c.before.sock.remote_address (c.frame ++ [0])) := by
  obtain ⟨sessionkey,drawn,t,-,-,hq⟩ := hc.key
  rw [hq.same]
  exact ⟨rfl,rfl,fun _ => ⟨rfl,rfl⟩⟩

theorem Ran.challenge_written {c : HandlerRun ω} (hran : Ran lib cfg e c)
    (hs : c.before.sock.status = .challenge) :
    Calls (Written lib (claimed c.before.sock.remote_address (c.frame ++ [0]))) c.calls := by
  have hruns := hran.runs
  rcases hran.commands hs with hc | hc <;> rw [hc] at hruns
  · exact ((logonChallenge_written c.before.sock.toSession.closeStatus _).runs hruns).1
  · exact ((reconnectChallenge_written c.before.sock.toSession.closeStatus _).runs hruns).1

theorem Linked.claims {c : HandlerRun ω} {rest : List (HandlerRun ω)}
    (hl : Linked lib cfg e s (c :: rest) s') (hs : s.status = .challenge) :
    ∀ run ∈ c :: rest,
      Calls (Written lib (claimed s.remote_address (c.frame ++ [0]))) run.calls := by
  obtain _ | ⟨hq,hran,hrest⟩ := hl
  have hs' : c.before.sock.status = .challenge := hq.status.trans hs
  have haddress : c.before.sock.remote_address = s.remote_address :=
    congrArg (·.1) hq.settings
  rw [← haddress]
  intro run hmem
  rcases List.mem_cons.mp hmem with rfl | hmem
  · exact hran.challenge_written hs'
  · rcases (hran.challenged hs').2 with hclosed | hc | hc
    · obtain ⟨rfl,-⟩ := hrest.from_closed hclosed
      simp at hmem
    · exact hrest.written (by simp [hc.status]) hc.tells run hmem
    · exact hrest.written (by simp [hc.status]) hc.tells run hmem

end

/-- Whatever a client sends, each query of its session reads as the daemon wrote its
format: the constant text is untouched, and each argument is one quotation, or one
number, that says what was claimed in the challenge. -/
theorem statements_keep_shape (lib : SharedLibrary) (cfg : WrongPass) {ω : Type}
    (k : Connection ω) (hlib : WritesSql lib)
    (haddress : ∀ c ∈ k.remote_address, c ≠ 0 ∧ c ≠ 39 ∧ c ≠ 92) :
    ∀ c rest, (k.outcome lib cfg).1 = c :: rest → ∀ run ∈ c :: rest, ∀ ev ∈ run.calls,
      ∀ q, queryOf ev.call = some q →
        q.ReadsAs (meantBy (claimed k.remote_address (c.frame ++ [0])) ev.call) := by
  intro c rest hhistory run hmem ev hev q hq
  have hlinked := k.linked lib cfg
  rw [hhistory] at hlinked
  have hwritten : Written lib (claimed k.remote_address (c.frame ++ [0])) ev.call :=
    hlinked.claims rfl run hmem ev hev
  exact hwritten.reads hlib haddress hq

theorem referenceLibrary_writes : WritesSql referenceLibrary := by
  refine ⟨fun _ => rfl,?_⟩
  intro n c hc
  have hdigits : ∀ bs : Bytes, ∀ c ∈ hexOf bs, (hexValue c).isSome = true := by
    intro bs c hc
    obtain ⟨b,-,hb⟩ := List.mem_flatMap.mp hc
    have hlt := b.toNat_lt
    simp only [List.mem_cons,List.not_mem_nil,or_false] at hb
    rcases hb with rfl | rfl <;> rw [hexValue_hexDigit (by omega)] <;> rfl
  change c ∈ hexText n at hc
  unfold hexText at hc
  split at hc
  · rw [List.mem_singleton.mp hc]
    decide
  · exact hdigits _ c hc

def quotingConnection : Connection Unit :=
  ({} : Replies).connect [.data [] (encodeChallenge .authLogonChallenge 12340
    (ascii "niW" ++ [0]) (ascii "SUne") (ascii "A' OR 1=1 #"))]

theorem statements_keep_shape_quoting :
    ∃ c rest, (quotingConnection.outcome referenceLibrary ⟨0,600,false⟩).1 = c :: rest ∧
      ∃ ev ∈ c.calls, ev.call = .selectAccount (ascii "A\\' OR 1=1 #") ∧
        ∃ q, queryOf ev.call = some q ∧ q.ReadsAs [ascii "A' OR 1=1 #"] := by
  have hrun : (match (quotingConnection.outcome referenceLibrary ⟨0,600,false⟩).1 with
      | c :: _ => decide (c.fields.login = ascii "A' OR 1=1 #") &&
          c.calls.any fun ev => decide (ev.call = .selectAccount (ascii "A\\' OR 1=1 #"))
      | [] => false) = true := by
    decide +kernel
  split at hrun
  · rename_i c rest hhistory
    rw [Bool.and_eq_true,List.any_eq_true] at hrun
    obtain ⟨hlogin,ev,hev,hcall⟩ := hrun
    have hname := of_decide_eq_true hlogin
    have hselect := of_decide_eq_true hcall
    have hreads := statements_keep_shape referenceLibrary ⟨0,600,false⟩ quotingConnection
      referenceLibrary_writes (by decide +kernel) c rest hhistory c (by simp) ev hev
    rw [hselect] at hreads
    refine ⟨c,rest,hhistory,ev,hev,hselect,_,by rw [hselect]; rfl,?_⟩
    have hq := hreads _ rfl
    have hmeant : meantBy (claimed quotingConnection.remote_address (c.frame ++ [0]))
        (.selectAccount (ascii "A\\' OR 1=1 #")) = [c.fields.login] := rfl
    rwa [hmeant,hname] at hq
  · contradiction

end Realmd
