import Realmd.Housekeeping
set_option autoImplicit false

namespace Realmd
open ByteCodec Interaction

def Preparing : DaemonCall → Prop
  | .startServer _ _ _ _ | .hookSignals | .unhookSignals | .allowAsyncTransactions
  | .detachDaemon | .sleep | .updateServer | .flushLog | .pingDatabase | .stopEvent
  | .stopServer | .haltDelayThread => False
  | _ => True

def Configuring : DaemonCall → Prop
  | .getStringDefault _ _ | .getIntDefault _ _ | .getBoolDefault _ _ => True
  | _ => False

theorem Configuring.preparing {c : DaemonCall} (h : Configuring c) : Preparing c := by
  cases c <;> first | exact h | trivial

def cleaning : List DaemonEvent :=
  [⟨.beginTransaction,()⟩,⟨.execute .retireAccountBans,()⟩,⟨.execute .deleteIpBans,()⟩,
    ⟨.commitTransaction,()⟩]

def closing : List DaemonEvent :=
  [⟨.stopServer,()⟩,⟨.haltDelayThread,()⟩,⟨.unhookSignals,()⟩,⟨.flushLog,()⟩,⟨.stopServer,()⟩]

/-- What was done and found before a server is started under a policy: the database has
the right version and some realms, then its expired bans are cleaned up, and from there on
only settings are read. -/
inductive Ready (policy : PatchPolicy) : List DaemonEvent → Prop where
  | mk {front settings : List DaemonEvent} (hfront : ∀ ev ∈ front, Preparing ev.call)
      (hversion : ⟨.checkDatabaseVersion,true⟩ ∈ front)
      (count : UInt32) (hcount : count ≠ 0) (hrealms : ⟨.realmCount,count⟩ ∈ front)
      (hsettings : ∀ ev ∈ settings, Configuring ev.call)
      (enabled : Bool) (henabled : ⟨.getBoolDefault (ascii "Patch.Enable") true,enabled⟩ ∈ settings)
      (forcedBuilds : Bytes)
      (hforced : ⟨.getStringDefault (ascii "Patch.ForceBuilds") [],forcedBuilds⟩ ∈ settings)
      (hpolicy : PatchPolicy.parse enabled forcedBuilds = some policy) :
      Ready policy (front ++ cleaning ++ settings)

theorem Ready.preparing {policy : PatchPolicy} {t : List DaemonEvent} (h : Ready policy t) :
    ∀ ev ∈ t, Preparing ev.call := by
  cases h with
  | mk hfront _ _ _ _ hsettings =>
    intro ev hmem
    rcases List.mem_append.mp hmem with hmem | hmem
    · rcases List.mem_append.mp hmem with hmem | hmem
      · exact hfront ev hmem
      · simp only [cleaning,List.mem_cons,List.not_mem_nil,or_false] at hmem
        rcases hmem with rfl | rfl | rfl | rfl <;> trivial
    · exact (hsettings ev hmem).preparing

section
variable {σ : Type} {lib : DaemonLibrary σ} {cl : CommandLine} {t : List DaemonEvent}

theorem loadConfiguration_meets :
    (loadConfiguration lib cl).Meets Preparing fun _ => True := by
  refine ⟨trivial,fun found => ?_⟩
  cases found with
  | true => trivial
  | false => exact ⟨trivial,fun _ => trivial⟩

theorem daemonCommand_meets (mode : Option ServiceDaemonMode) :
    (daemonCommand mode).Meets Preparing fun _ => True := by
  cases mode with
  | none => trivial
  | some mode => cases mode <;> exact ⟨trivial,fun _ => trivial⟩

theorem loadScheduledExitConfig_meets :
    (loadScheduledExitConfig lib).Meets Preparing fun r =>
      r.1.enabled = true → r.1.dayOfWeek ≤ 6 := by
  have hoff : lib.schedule.enabled = true → lib.schedule.dayOfWeek ≤ 6 := by
    intro h
    rw [lib.schedule_disabled] at h
    contradiction
  refine ⟨trivial,fun enabled => ?_⟩
  cases enabled with
  | false => exact hoff
  | true =>
    refine ⟨trivial,fun dayText => ?_⟩
    simp only [Prog.bind]
    split
    · exact hoff
    · rename_i dayOfWeek hparse
      split
      · exact hoff
      · rename_i hday
        refine ⟨trivial,fun timeText => ?_⟩
        simp only [Prog.bind]
        split
        · exact hoff
        · refine ⟨trivial,fun modeText => ?_⟩
          simp only [Prog.bind]
          split
          · exact hoff
          · exact ⟨trivial,fun now _ => UInt32.not_lt.mp hday⟩

theorem writePidFile_meets : writePidFile.Meets Preparing fun _ => True := by
  refine ⟨trivial,fun pidfile => ?_⟩
  simp only [Prog.bind]
  split
  · trivial
  · exact ⟨trivial,fun _ => trivial⟩

inductive StartDBSpec : List DaemonEvent → Bool → Prop where
  | failed {t : List DaemonEvent} (ht : ∀ ev ∈ t, Preparing ev.call) : StartDBSpec t false
  | mismatch {t : List DaemonEvent} (ht : ∀ ev ∈ t, Preparing ev.call)
      (hversion : ⟨.checkDatabaseVersion,false⟩ ∈ t) :
      StartDBSpec (t ++ [⟨.haltDelayThread,()⟩]) false
  | connected {t : List DaemonEvent} (ht : ∀ ev ∈ t, Preparing ev.call)
      (hversion : ⟨.checkDatabaseVersion,true⟩ ∈ t) : StartDBSpec t true

theorem startDB_runs {r : Bool} (h : startDB.Runs t r) : StartDBSpec t r := by
  obtain ⟨dbstring,t₁,rfl,h⟩ := h
  simp only [Prog.bind] at h
  split at h
  · obtain ⟨rfl,rfl⟩ := h
    exact .failed (by simp [Preparing])
  obtain ⟨opened,t₂,rfl,h⟩ := h
  cases opened with
  | false =>
    obtain ⟨rfl,rfl⟩ := h
    exact .failed (by simp [Preparing])
  | true =>
    obtain ⟨matched,t₃,rfl,h⟩ := h
    cases matched with
    | false =>
      obtain ⟨_,t₄,rfl,rfl,rfl⟩ := h
      exact .mismatch (t := [_,_,_]) (by simp [Preparing]) (by simp)
    | true =>
      obtain ⟨rfl,rfl⟩ := h
      exact .connected (by simp [Preparing]) (by simp)

theorem loadRealms_runs {r : Bool} (h : loadRealms.Runs t r) :
    (∀ ev ∈ t, Preparing ev.call) ∧
      (r = true → ∃ count, count ≠ 0 ∧ ⟨.realmCount,count⟩ ∈ t) := by
  obtain ⟨delay,t₁,rfl,_,t₂,rfl,count,t₃,rfl,rfl,rfl⟩ := h
  refine ⟨by simp [Preparing],fun hr => ⟨count,by simpa using hr,by simp⟩⟩

theorem cleanupBans_runs {u : Unit} (h : cleanupBans.Runs t u) : t = cleaning := by
  obtain ⟨_,t₁,rfl,_,t₂,rfl,_,t₃,rfl,_,t₄,rfl,rfl,-⟩ := h
  rfl

theorem shutdown_runs {u : Unit} (h : shutdown.Runs t u) : t = closing := by
  obtain ⟨_,t₁,rfl,_,t₂,rfl,_,t₃,rfl,_,t₄,rfl,_,t₅,rfl,rfl,-⟩ := h
  rfl

inductive OpenServerSpec : List DaemonEvent → Bool → Prop where
  | invalid {t : List DaemonEvent} (ht : ∀ ev ∈ t, Configuring ev.call) : OpenServerSpec t false
  | tried {t tail : List DaemonEvent} (ht : ∀ ev ∈ t, Configuring ev.call) (enabled : Bool)
      (henabled : ⟨.getBoolDefault (ascii "Patch.Enable") true,enabled⟩ ∈ t)
      (forcedBuilds : Bytes)
      (hforced : ⟨.getStringDefault (ascii "Patch.ForceBuilds") [],forcedBuilds⟩ ∈ t)
      (policy : PatchPolicy) (hpolicy : PatchPolicy.parse enabled forcedBuilds = some policy)
      (port : UInt16) (bindIp : Bytes) (authTimeout : UInt32) (started : Bool)
      (htail : tail = if started then [] else [⟨.stopServer,()⟩]) :
      OpenServerSpec (t ++ ⟨.startServer port bindIp authTimeout policy,started⟩ :: tail) started

theorem openServer_runs {r : Bool} (h : (openServer lib).Runs t r) : OpenServerSpec t r := by
  obtain ⟨rmport,t₁,rfl,bindIp,t₂,rfl,seconds,t₃,rfl,enabled,t₄,rfl,forcedBuilds,t₅,rfl,h⟩ := h
  simp only [Prog.bind] at h
  split at h
  · obtain ⟨rfl,rfl⟩ := h
    exact .invalid (by simp [Configuring])
  · rename_i policy hpolicy
    obtain ⟨started,t₆,rfl,h⟩ := h
    have hall : ∀ ev ∈ ([
        ⟨.getIntDefault (ascii "RealmServerPort") lib.defaultRealmserverPort,rmport⟩,
        ⟨.getStringDefault (ascii "BindIP") (ascii "0.0.0.0"),bindIp⟩,
        ⟨.getIntDefault (ascii "AuthSessionTimeout") 30,seconds⟩,
        ⟨.getBoolDefault (ascii "Patch.Enable") true,enabled⟩,
        ⟨.getStringDefault (ascii "Patch.ForceBuilds") [],forcedBuilds⟩] : List DaemonEvent),
        Configuring ev.call := by
      simp [Configuring]
    cases started with
    | true =>
      obtain ⟨rfl,rfl⟩ := h
      exact .tried hall enabled (by simp) forcedBuilds (by simp) policy hpolicy _ bindIp _ true rfl
    | false =>
      obtain ⟨_,t₇,rfl,rfl,rfl⟩ := h
      exact .tried hall enabled (by simp) forcedBuilds (by simp) policy hpolicy _ bindIp _ false rfl

inductive PrepareSpec : List DaemonEvent → Option (ScheduledExitSchedule × σ) → Prop where
  | failed {t : List DaemonEvent} (ht : ∀ ev ∈ t, Preparing ev.call) : PrepareSpec t none
  | mismatch {t : List DaemonEvent} (ht : ∀ ev ∈ t, Preparing ev.call)
      (hversion : ⟨.checkDatabaseVersion,false⟩ ∈ t) :
      PrepareSpec (t ++ [⟨.haltDelayThread,()⟩]) none
  | stocked {t : List DaemonEvent} (ht : ∀ ev ∈ t, Preparing ev.call)
      (hversion : ⟨.checkDatabaseVersion,true⟩ ∈ t) (count : UInt32) (hcount : count ≠ 0)
      (hrealms : ⟨.realmCount,count⟩ ∈ t) (exit : ScheduledExitSchedule × σ)
      (hday : exit.1.enabled = true → exit.1.dayOfWeek ≤ 6) : PrepareSpec t (some exit)

theorem prepare_runs {out : Option (ScheduledExitSchedule × σ)}
    (h : (prepare lib cl).Runs t out) : PrepareSpec t out := by
  obtain ⟨t₁,u₁,found,rfl,hload,h₁⟩ := Prog.runs_bind.mp h
  have ht₁ := (loadConfiguration_meets.runs hload).1
  cases found with
  | false =>
    obtain ⟨rfl,rfl⟩ := h₁
    exact .failed (by simpa using ht₁)
  | true =>
    obtain ⟨t₂,u₂,_,rfl,hcommand,h₂⟩ := Prog.runs_bind.mp h₁
    have ht₂ := ((daemonCommand_meets _).runs hcommand).1
    obtain ⟨t₃,u₃,exit,rfl,hexit,h₃⟩ := Prog.runs_bind.mp h₂
    obtain ⟨ht₃,hday⟩ := loadScheduledExitConfig_meets.runs hexit
    obtain ⟨t₄,u₄,pid,rfl,hpid,h₄⟩ := Prog.runs_bind.mp h₃
    have ht₄ := (writePidFile_meets.runs hpid).1
    have hsetup : ∀ ev ∈ t₁ ++ (t₂ ++ (t₃ ++ t₄)), Preparing ev.call := by
      simp only [List.forall_mem_append]
      exact ⟨ht₁,ht₂,ht₃,ht₄⟩
    have hassoc : t₁ ++ (t₂ ++ (t₃ ++ (t₄ ++ u₄))) = t₁ ++ (t₂ ++ (t₃ ++ t₄)) ++ u₄ := by simp
    rw [hassoc]
    generalize t₁ ++ (t₂ ++ (t₃ ++ t₄)) = setup at hsetup
    cases pid with
    | false =>
      obtain ⟨rfl,rfl⟩ := h₄
      exact .failed (by simpa using hsetup)
    | true =>
      obtain ⟨t₅,u₅,connected,rfl,hdb,h₅⟩ := Prog.runs_bind.mp h₄
      cases startDB_runs hdb with
      | failed ht =>
        obtain ⟨rfl,rfl⟩ := h₅
        exact .failed (by simpa using List.forall_mem_append.mpr ⟨hsetup,ht⟩)
      | @mismatch t₅ ht hversion =>
        obtain ⟨rfl,rfl⟩ := h₅
        rw [List.append_nil,← List.append_assoc]
        exact .mismatch (List.forall_mem_append.mpr ⟨hsetup,ht⟩)
          (List.mem_append_right _ hversion)
      | connected ht hversion =>
        obtain ⟨t₆,u₆,stocked,rfl,hrealms,h₆⟩ := Prog.runs_bind.mp h₅
        obtain ⟨ht₆,hcount⟩ := loadRealms_runs hrealms
        have hfront : ∀ ev ∈ setup ++ (t₅ ++ t₆), Preparing ev.call := by
          simp only [List.forall_mem_append]
          exact ⟨hsetup,ht,ht₆⟩
        cases stocked with
        | false =>
          obtain ⟨rfl,rfl⟩ := h₆
          exact .failed (by simpa using hfront)
        | true =>
          obtain ⟨rfl,rfl⟩ := h₆
          obtain ⟨count,hne,hmem⟩ := hcount rfl
          rw [List.append_nil]
          exact .stocked hfront (by simp [hversion]) count hne (by simp [hmem]) exit hday

def opening (minutes : Int) : List DaemonEvent :=
  [⟨.hookSignals,()⟩,⟨.allowAsyncTransactions,()⟩,
    ⟨.getIntDefault (ascii "MaxPingTime") 30,minutes⟩,⟨.detachDaemon,()⟩]

/-- Everything the start can do: fail before there is a server, find no port, or serve. -/
inductive StartupSpec : List DaemonEvent → Option (Housekeeping σ) → Prop where
  | failed {t : List DaemonEvent} (ht : ∀ ev ∈ t, Preparing ev.call) : StartupSpec t none
  | mismatch {t : List DaemonEvent} (ht : ∀ ev ∈ t, Preparing ev.call)
      (hversion : ⟨.checkDatabaseVersion,false⟩ ∈ t) :
      StartupSpec (t ++ [⟨.haltDelayThread,()⟩]) none
  | unbound {t : List DaemonEvent} {policy : PatchPolicy} (h : Ready policy t) (port : UInt16)
      (bindIp : Bytes) (authTimeout : UInt32) :
      StartupSpec (t ++ [⟨.startServer port bindIp authTimeout policy,false⟩,⟨.stopServer,()⟩])
        none
  | serving {t : List DaemonEvent} {policy : PatchPolicy} (h : Ready policy t) (port : UInt16)
      (bindIp : Bytes) (authTimeout : UInt32) (schedule : ScheduledExitSchedule) (state : σ)
      (hday : schedule.enabled = true → schedule.dayOfWeek ≤ 6) (minutes : Int) :
      StartupSpec
        (t ++ ⟨.startServer port bindIp authTimeout policy,true⟩ :: opening minutes)
        (some ⟨false,0,schedule,state,UInt32.ofInt (minutes*600),0,0⟩)

theorem startup_runs {out : Option (Housekeeping σ)} (h : (startup lib cl).Runs t out) :
    StartupSpec t out := by
  obtain ⟨t₁,u₁,exit,rfl,hprepare,h₁⟩ := Prog.runs_bind.mp h
  cases prepare_runs hprepare with
  | failed ht =>
    obtain ⟨rfl,rfl⟩ := h₁
    exact .failed (by simpa using ht)
  | mismatch ht hversion =>
    obtain ⟨rfl,rfl⟩ := h₁
    rw [List.append_nil]
    exact .mismatch ht hversion
  | stocked ht hversion count hcount hrealms exit hday =>
    obtain ⟨t₂,u₂,_,rfl,hclean,h₂⟩ := Prog.runs_bind.mp h₁
    obtain rfl := cleanupBans_runs hclean
    obtain ⟨t₃,u₃,started,rfl,hopen,h₃⟩ := Prog.runs_bind.mp h₂
    cases openServer_runs hopen with
    | invalid hsettings =>
      obtain ⟨rfl,rfl⟩ := h₃
      refine .failed ?_
      simp only [List.append_nil,List.forall_mem_append]
      refine ⟨ht,?_,fun ev hmem => (hsettings ev hmem).preparing⟩
      simp [cleaning,Preparing]
    | @tried settings tail hsettings enabled henabled forcedBuilds hforced policy hpolicy port
        bindIp authTimeout started htail =>
      have hready : Ready policy (t₁ ++ cleaning ++ settings) :=
        .mk ht hversion count hcount hrealms hsettings enabled henabled forcedBuilds hforced hpolicy
      have hassoc : ∀ rest, t₁ ++ (cleaning ++ (settings ++ rest)) =
          t₁ ++ cleaning ++ settings ++ rest := by simp
      cases started with
      | false =>
        obtain ⟨rfl,rfl⟩ := h₃
        rw [htail,List.append_nil,hassoc]
        exact .unbound hready port bindIp authTimeout
      | true =>
        obtain ⟨_,u₄,rfl,_,u₅,rfl,minutes,u₆,rfl,_,u₇,rfl,rfl,rfl⟩ := h₃
        rw [htail,List.append_assoc settings,hassoc]
        exact .serving hready port bindIp authTimeout _ _ hday minutes

def Serving : DaemonCall → Prop
  | .hookSignals | .allowAsyncTransactions | .detachDaemon | .sleep | .updateServer
  | .flushLog | .pingDatabase | .stopEvent | .localtime | .getIntDefault _ _ => True
  | _ => False

theorem mainLoop_meets (passes : Nat) (s : Housekeeping σ) :
    (mainLoop lib passes s).Meets Serving fun _ => True := by
  have hlook : ∀ s : Housekeeping σ, s.look.Meets Serving fun _ => True :=
    fun s => ⟨trivial,fun _ => trivial⟩
  have hflush : ∀ s : Housekeeping σ, (flushIfDue s).Meets Serving fun _ => True := by
    intro s
    unfold flushIfDue
    simp only
    split
    · exact ⟨trivial,fun _ => trivial⟩
    · trivial
  have hping : ∀ s : Housekeeping σ, (pingIfDue s).Meets Serving fun _ => True := by
    intro s
    unfold pingIfDue
    simp only
    split
    · exact ⟨trivial,fun _ => trivial⟩
    · trivial
  have hcheck : ∀ s : Housekeeping σ, (checkScheduledExit lib s).Meets Serving fun _ => True := by
    intro s
    unfold checkScheduledExit
    split
    · trivial
    · refine (hlook s).bind fun s _ => ?_
      split
      · trivial
      · refine ⟨trivial,fun tm => ?_⟩
        simp only [Prog.bind]
        split <;> trivial
  induction passes generalizing s with
  | zero => trivial
  | succ n ih =>
    refine (hlook s).bind fun s _ => ?_
    split
    · trivial
    · refine Prog.Meets.bind (Q := fun _ => True) ?_ fun s _ => ih s
      refine ⟨trivial,fun _ => ⟨trivial,fun _ => ?_⟩⟩
      exact (hflush s).bind fun s _ => (hping s).bind fun s _ => hcheck s

structure Housekeeping.Fresh (s : Housekeeping σ) (minutes : Int) : Prop where
  stopEvent : s.stopEvent = false
  exitCode : s.exitCode = 0
  numLoops : s.numLoops = UInt32.ofInt (minutes*600)
  counted : Counted s 0
  day : s.s_scheduledExit.enabled = true → s.s_scheduledExit.dayOfWeek ≤ 6

inductive Serves (lib : DaemonLibrary σ) (passes : Nat) (s : Housekeeping σ)
    (loop : List DaemonEvent) : Option UInt8 → List DaemonEvent → Prop where
  | goesOn (hloop : LoopSpec lib s 0 passes loop none) : Serves lib passes s loop none []
  | stopped {s' : Housekeeping σ} {m : Nat} (hm : m ≤ passes)
      (hloop : LoopSpec lib s 0 m loop (some s')) :
      Serves lib passes s loop (some s'.exitCode) closing

/-- The calls up to the loop are those of a start that has come to this state. -/
structure StartsIn (lib : DaemonLibrary σ) (args : List Bytes) (front : List DaemonEvent)
    (minutes : Int) (s : Housekeeping σ) : Prop where
  startup : ∃ cl, parseArgs ⟨lib.realmdConfigLocation,none⟩ args = .ok cl ∧
    (startup lib cl).Runs front (some s)
  fresh : s.Fresh minutes

inductive MainSpec (lib : DaemonLibrary σ) (passes : Nat) (args : List Bytes) :
    List DaemonEvent → Option UInt8 → Prop where
  | failed {t : List DaemonEvent} {code : UInt8} (ht : ∀ ev ∈ t, Preparing ev.call)
      (hcode : code = 0 ∨ code = 1) : MainSpec lib passes args t (some code)
  | mismatch {t : List DaemonEvent} (ht : ∀ ev ∈ t, Preparing ev.call)
      (hversion : ⟨.checkDatabaseVersion,false⟩ ∈ t) :
      MainSpec lib passes args (t ++ [⟨.haltDelayThread,()⟩]) (some 1)
  | unbound {t : List DaemonEvent} {policy : PatchPolicy} (h : Ready policy t) (port : UInt16)
      (bindIp : Bytes) (authTimeout : UInt32) :
      MainSpec lib passes args
        (t ++ [⟨.startServer port bindIp authTimeout policy,false⟩,⟨.stopServer,()⟩]) (some 1)
  | serves {t loop tail : List DaemonEvent} {out : Option UInt8} {policy : PatchPolicy}
      (h : Ready policy t) (port : UInt16) (bindIp : Bytes) (authTimeout : UInt32)
      {minutes : Int} {s : Housekeeping σ}
      (hstart : StartsIn lib args
        (t ++ ⟨.startServer port bindIp authTimeout policy,true⟩ :: opening minutes) minutes s)
      (hloop : ∀ ev ∈ loop, Serving ev.call) (hserves : Serves lib passes s loop out tail) :
      MainSpec lib passes args
        (t ++ ⟨.startServer port bindIp authTimeout policy,true⟩ ::
          (opening minutes ++ loop ++ tail)) out

theorem main_runs {passes : Nat} {args : List Bytes} {out : Option UInt8}
    (h : (main lib passes args).Runs t out) : MainSpec lib passes args t out := by
  unfold main at h
  split at h
  · rename_i code hparse
    obtain ⟨rfl,rfl⟩ := h
    refine .failed (by simp) ?_
    have htold := parseArgs_told ⟨lib.realmdConfigLocation,none⟩ args
    rw [hparse] at htold
    cases htold with
    | version => exact .inl rfl
    | bad => exact .inr rfl
  · rename_i cl hparse
    obtain ⟨t₁,u₁,start,rfl,hstart,h₁⟩ := Prog.runs_bind.mp h
    cases startup_runs hstart with
    | failed ht =>
      obtain ⟨rfl,rfl⟩ := h₁
      exact .failed (by simpa using ht) (.inr rfl)
    | mismatch ht hversion =>
      obtain ⟨rfl,rfl⟩ := h₁
      rw [List.append_nil]
      exact .mismatch ht hversion
    | unbound hready port bindIp authTimeout =>
      obtain ⟨rfl,rfl⟩ := h₁
      rw [List.append_nil]
      exact .unbound hready port bindIp authTimeout
    | @serving ready policy hready port bindIp authTimeout schedule state hday minutes =>
      obtain ⟨t₂,u₂,last,rfl,hloop,h₂⟩ := Prog.runs_bind.mp h₁
      have hcalls := ((mainLoop_meets passes _).runs hloop).1
      have hfresh : (⟨false,0,schedule,state,UInt32.ofInt (minutes*600),0,0⟩ :
          Housekeeping σ).Fresh minutes :=
        ⟨rfl,rfl,rfl,⟨rfl,(Nat.zero_mod _).symm⟩,hday⟩
      have hstarts := StartsIn.mk ⟨cl,hparse,hstart⟩ hfresh
      obtain ⟨m,hm,hnone,hspec⟩ := mainLoop_runs hloop rfl hfresh.counted
      have hassoc : ∀ rest, ready ++ ⟨.startServer port bindIp authTimeout policy,true⟩ ::
          opening minutes ++ (t₂ ++ rest) =
          ready ++ ⟨.startServer port bindIp authTimeout policy,true⟩ ::
            (opening minutes ++ t₂ ++ rest) := by simp
      cases last with
      | none =>
        obtain ⟨rfl,rfl⟩ := h₂
        obtain rfl := hnone rfl
        rw [hassoc]
        exact .serves hready port bindIp authTimeout hstarts hcalls (.goesOn hspec)
      | some s' =>
        obtain ⟨t₃,t₄,_,rfl,hshut,rfl,rfl⟩ := Prog.runs_bind.mp h₂
        obtain rfl := shutdown_runs hshut
        rw [List.append_nil,hassoc]
        exact .serves hready port bindIp authTimeout hstarts hcalls (.stopped hm hspec)

def Started (t : List DaemonEvent) : Prop :=
  ∃ port bindIp authTimeout policy, ⟨.startServer port bindIp authTimeout policy,true⟩ ∈ t

def DaemonCall.OfService : DaemonCall → Prop
  | .hookSignals | .allowAsyncTransactions | .detachDaemon | .sleep | .updateServer
  | .pingDatabase | .stopEvent => True
  | _ => False

structure Lifecycle (t : List DaemonEvent) (out : Option UInt8) : Prop where
  opened : ∀ pre port bindIp authTimeout policy started post,
    t = pre ++ ⟨.startServer port bindIp authTimeout policy,started⟩ :: post → Ready policy pre
  served : ∀ pre ev post, t = pre ++ ev :: post → ev.call.OfService →
    Started pre ∧ ∀ ev' ∈ pre, ev'.call ≠ .stopServer
  halted : ∀ pre u post, t = pre ++ ⟨.haltDelayThread,u⟩ :: post →
    ⟨.checkDatabaseVersion,false⟩ ∈ pre ∨ Started pre ∧ ⟨.stopServer,()⟩ ∈ pre
  closed : ∀ code, out = some code → Started t → (code = 0 ∨ code = 2) ∧
    ∃ front, t = front ++ closing ∧ ∀ ev ∈ front, ev.call ≠ .stopServer
  failed : ∀ code, out = some code → ¬ Started t → code = 0 ∨ code = 1
  running : out = none → Started t ∧ ∀ ev ∈ t, ev.call ≠ .stopServer

theorem split_unique (p : DaemonEvent → Prop) {l r pre post : List DaemonEvent}
    {x y : DaemonEvent} (hl : ∀ ev ∈ l, ¬ p ev) (hr : ∀ ev ∈ r, ¬ p ev) (hy : p y)
    (h : l ++ x :: r = pre ++ y :: post) : pre = l ∧ y = x := by
  rcases append_split h with ⟨c,rfl⟩ | ⟨c,rfl,hc⟩
  · exact absurd hy (hl y (by simp))
  · cases c with
    | nil => exact ⟨List.append_nil l,((List.cons.inj hc).1).symm⟩
    | cons z c =>
      obtain ⟨-,rfl⟩ := List.cons.inj hc
      exact absurd hy (hr y (by simp))

def DaemonCall.Starts : DaemonCall → Prop
  | .startServer _ _ _ _ => True
  | _ => False

theorem Preparing.others {c : DaemonCall} (h : Preparing c) :
    ¬ c.Starts ∧ ¬ c.OfService ∧ c ≠ .stopServer ∧ c ≠ .haltDelayThread := by
  cases c <;> simp [Preparing] at h <;> simp [DaemonCall.Starts,DaemonCall.OfService]

theorem Preparing.isChore {c : DaemonCall} (h : Preparing c) : c.isChore = false := by
  cases c <;> first | rfl | contradiction

theorem Serving.others {c : DaemonCall} (h : Serving c) :
    ¬ c.Starts ∧ c ≠ .stopServer ∧ c ≠ .haltDelayThread := by
  cases c <;> simp [Serving] at h <;> simp [DaemonCall.Starts]

theorem opening_serving (minutes : Int) {loop : List DaemonEvent}
    (h : ∀ ev ∈ loop, Serving ev.call) : ∀ ev ∈ opening minutes ++ loop, Serving ev.call := by
  refine List.forall_mem_append.mpr ⟨?_,h⟩
  simp [opening,Serving]

section
variable {passes : Nat} {args : List Bytes} {loop tail : List DaemonEvent} {out : Option UInt8}
  {s : Housekeeping σ}

theorem Serves.tail_cases (h : Serves lib passes s loop out tail) :
    out = none ∧ tail = [] ∨ ∃ code, out = some code ∧ tail = closing := by
  cases h with
  | goesOn => exact .inl ⟨rfl,rfl⟩
  | @stopped s' => exact .inr ⟨s'.exitCode,rfl,rfl⟩

theorem Serves.ended (h : Serves lib passes s loop out tail) {code : UInt8}
    (hcode : out = some code) : Ended lib s loop code := by
  cases h with
  | goesOn => contradiction
  | @stopped s' m hm hloop =>
    obtain rfl := Option.some.inj hcode
    exact hloop.ended s' rfl

theorem Ended.code {code : UInt8} (h : Ended lib s loop code) (hs : s.exitCode = 0) :
    code = 0 ∨ code = 2 := by
  cases h with
  | fired =>
    split
    · exact .inr rfl
    · exact .inl rfl
  | signalled => exact .inl hs

theorem Serves.tail_calls (h : Serves lib passes s loop out tail) :
    ∀ ev ∈ tail, ¬ ev.call.Starts ∧ ¬ ev.call.OfService := by
  rcases h.tail_cases with ⟨-,rfl⟩ | ⟨code,-,rfl⟩
  · simp
  · simp [closing,DaemonCall.Starts,DaemonCall.OfService]

theorem MainSpec.opened (h : MainSpec lib passes args t out)
    {pre post : List DaemonEvent} {port : UInt16} {bindIp : Bytes} {authTimeout : UInt32}
    {policy : PatchPolicy} {started : Bool}
    (hsplit : t = pre ++ ⟨.startServer port bindIp authTimeout policy,started⟩ :: post) :
    Ready policy pre := by
  have hnever : ∀ {l : List DaemonEvent}, (∀ ev ∈ l, Preparing ev.call) →
      ∀ ev ∈ l, ¬ ev.call.Starts := fun hl ev hmem => (hl ev hmem).others.1
  have hmem : ⟨.startServer port bindIp authTimeout policy,started⟩ ∈ t := by simp [hsplit]
  have hstarts : (DaemonCall.startServer port bindIp authTimeout policy).Starts := trivial
  cases h with
  | failed ht => exact absurd hstarts (hnever ht _ hmem)
  | @mismatch t ht hversion =>
    rcases List.mem_append.mp hmem with hmem | hlast
    · exact absurd hstarts (hnever ht _ hmem)
    · simp at hlast
  | unbound hready =>
    obtain ⟨rfl,hev⟩ := split_unique (fun ev => ev.call.Starts)
      (hnever hready.preparing) (by simp [DaemonCall.Starts]) hstarts hsplit
    cases hev
    exact hready
  | @serves _ loop tail out policy' hready _ _ _ minutes s _ hloop hserves =>
    have hbody := opening_serving minutes hloop
    have hrest := List.forall_mem_append.mpr
      ⟨fun ev hmem => (hbody ev hmem).others.1,fun ev hmem => (hserves.tail_calls ev hmem).1⟩
    obtain ⟨rfl,hev⟩ := split_unique (fun ev => ev.call.Starts)
      (hnever hready.preparing) hrest hstarts hsplit
    cases hev
    exact hready

theorem serves_split {ready rest pre post : List DaemonEvent} {start ev : DaemonEvent}
    (hready : ev ∉ ready) (hev : ev ≠ start) (h : ready ++ start :: rest = pre ++ ev :: post) :
    ∃ c, pre = ready ++ start :: c ∧ rest = c ++ ev :: post := by
  rcases append_split h with ⟨c,rfl⟩ | ⟨c,rfl,hc⟩
  · simp at hready
  · cases c with
    | nil => exact absurd ((List.cons.inj hc).1).symm hev
    | cons first c =>
      obtain ⟨rfl,hrest⟩ := List.cons.inj hc
      exact ⟨c,rfl,hrest⟩

theorem MainSpec.served (h : MainSpec lib passes args t out) {pre post : List DaemonEvent}
    {ev : DaemonEvent} (hsplit : t = pre ++ ev :: post) (hev : ev.call.OfService) :
    Started pre ∧ ∀ ev' ∈ pre, ev'.call ≠ .stopServer := by
  have hnever : ∀ {l : List DaemonEvent}, (∀ ev ∈ l, Preparing ev.call) → ev ∉ l :=
    fun hl hmem => (hl ev hmem).others.2.1 hev
  have hmem : ev ∈ t := by simp [hsplit]
  cases h with
  | failed ht => exact absurd hmem (hnever ht)
  | mismatch ht hversion =>
    rcases List.mem_append.mp hmem with hmem | hlast
    · exact absurd hmem (hnever ht)
    · rw [List.mem_singleton.mp hlast] at hev
      contradiction
  | unbound hready =>
    rcases List.mem_append.mp hmem with hmem | hlast
    · exact absurd hmem (hnever hready.preparing)
    · simp only [List.mem_cons,List.not_mem_nil,or_false] at hlast
      rcases hlast with rfl | rfl <;> contradiction
  | @serves ready loop tail out policy hready port bindIp authTimeout minutes s hstart hloop
      hserves =>
    have hbody := opening_serving minutes hloop
    have hne : ev ≠ ⟨.startServer port bindIp authTimeout policy,true⟩ := by
      rintro rfl
      contradiction
    obtain ⟨c,rfl,hc⟩ := serves_split (hnever hready.preparing) hne hsplit
    have hin : ∀ ev' ∈ c, ev' ∈ opening minutes ++ loop := by
      rcases append_split hc with ⟨d,hd⟩ | ⟨d,-,htail⟩
      · rw [hd]
        exact fun ev' hmem => List.mem_append_left _ hmem
      · exact absurd hev (hserves.tail_calls ev (by simp [htail])).2
    refine ⟨⟨port,bindIp,authTimeout,policy,by simp⟩,?_⟩
    intro ev' hmem
    rcases List.mem_append.mp hmem with hfront | hlater
    · exact (hready.preparing ev' hfront).others.2.2.1
    · rcases List.mem_cons.mp hlater with rfl | hlater
      · simp
      · exact (hbody ev' (hin ev' hlater)).others.2.1

theorem MainSpec.halted (h : MainSpec lib passes args t out) {pre post : List DaemonEvent}
    {u : Unit} (hsplit : t = pre ++ ⟨.haltDelayThread,u⟩ :: post) :
    ⟨.checkDatabaseVersion,false⟩ ∈ pre ∨ Started pre ∧ ⟨.stopServer,()⟩ ∈ pre := by
  have hnever : ∀ {l : List DaemonEvent}, (∀ ev ∈ l, Preparing ev.call) →
      ⟨.haltDelayThread,u⟩ ∉ l := fun hl hmem => (hl _ hmem).others.2.2.2 rfl
  have hmem : ⟨.haltDelayThread,u⟩ ∈ t := by simp [hsplit]
  cases h with
  | failed ht => exact absurd hmem (hnever ht)
  | mismatch ht hversion =>
    obtain ⟨rfl,-⟩ := split_unique (fun ev => ev.call = .haltDelayThread)
      (fun ev hmem => (ht ev hmem).others.2.2.2) (by simp) rfl hsplit
    exact .inl hversion
  | unbound hready =>
    rcases List.mem_append.mp hmem with hmem | hlast
    · exact absurd hmem (hnever hready.preparing)
    · simp at hlast
  | @serves ready loop tail out policy hready port bindIp authTimeout minutes s hstart hloop
      hserves =>
    have hbody := opening_serving minutes hloop
    obtain ⟨c,rfl,hc⟩ := serves_split (hnever hready.preparing) (by simp) hsplit
    rcases append_split hc with ⟨d,hd⟩ | ⟨d,rfl,htail⟩
    · have hmem : (⟨.haltDelayThread,u⟩ : DaemonEvent) ∈ opening minutes ++ loop := by simp [hd]
      exact absurd rfl (hbody _ hmem).others.2.2
    · rcases hserves.tail_cases with ⟨-,rfl⟩ | ⟨code,-,rfl⟩
      · simp at htail
      · have hclosing : closing = [⟨.stopServer,()⟩] ++ ⟨.haltDelayThread,()⟩ ::
            [⟨.unhookSignals,()⟩,⟨.flushLog,()⟩,⟨.stopServer,()⟩] := rfl
        rw [hclosing] at htail
        obtain ⟨rfl,-⟩ := split_unique (fun ev => ev.call = .haltDelayThread)
          (by simp) (by simp) rfl htail
        exact .inr ⟨⟨port,bindIp,authTimeout,policy,by simp⟩,by simp⟩

theorem chores_nil {t : List DaemonEvent} (h : ∀ ev ∈ t, ev.call.isChore = false) :
    chores t = [] := by
  rw [chores,List.filter_eq_nil_iff]
  intro c hmem
  obtain ⟨ev,hev,rfl⟩ := List.mem_map.mp hmem
  simp [h ev hev]

theorem MainSpec.started (h : MainSpec lib passes args t out) (hstarted : Started t) :
    ∃ front loop tail minutes s, t = front ++ loop ++ tail ∧
      StartsIn lib args front minutes s ∧
      ⟨.getIntDefault (ascii "MaxPingTime") 30,minutes⟩ ∈ front ∧ chores front = [] ∧
      (∀ ev ∈ front ++ loop, ev.call ≠ .stopServer) ∧ Serves lib passes s loop out tail := by
  obtain ⟨port,bindIp,authTimeout,policy,hmem⟩ := hstarted
  have hnever : ∀ {l : List DaemonEvent}, (∀ ev ∈ l, Preparing ev.call) →
      ⟨.startServer port bindIp authTimeout policy,true⟩ ∉ l :=
    fun hl hmem => (hl _ hmem).others.1 trivial
  cases h with
  | failed ht => exact absurd hmem (hnever ht)
  | mismatch ht =>
    rcases List.mem_append.mp hmem with hmem | hlast
    · exact absurd hmem (hnever ht)
    · simp at hlast
  | unbound hready =>
    rcases List.mem_append.mp hmem with hmem | hlast
    · exact absurd hmem (hnever hready.preparing)
    · simp at hlast
  | @serves ready loop tail out policy' hready port' bindIp' authTimeout' minutes s hstart hloop
      hserves =>
    refine ⟨_,loop,tail,minutes,s,by simp,hstart,by simp [opening],chores_nil ?_,?_,hserves⟩
    · simp only [List.forall_mem_append,List.forall_mem_cons]
      exact ⟨fun ev hmem => (hready.preparing ev hmem).isChore,rfl,
        by simp [opening,DaemonCall.isChore]⟩
    · have hbody : ∀ ev ∈ opening minutes ++ loop, ev.call ≠ .stopServer :=
        fun ev hmem => (opening_serving minutes hloop ev hmem).others.2.1
      rw [List.append_assoc,List.cons_append]
      refine List.forall_mem_append.mpr
        ⟨fun ev hmem => (hready.preparing ev hmem).others.2.2.1,?_⟩
      exact List.forall_mem_cons.mpr ⟨by simp,hbody⟩

end

/-- The life of the daemon: a server is only opened on a checked database with realms and
with the expired bans cleaned up, nothing of the service happens before it is open or after
it is stopped, the database worker ends after the server, and the exit code tells a daemon
that served from one that did not. -/
theorem main_lifecycle (passes : Nat) (args : List Bytes) (t : List DaemonEvent)
    (out : Option UInt8) (h : (main lib passes args).Runs t out) : Lifecycle t out := by
  have hspec := main_runs h
  constructor
  case opened => exact fun _ _ _ _ _ _ _ hsplit => hspec.opened hsplit
  case served => exact fun _ _ _ hsplit hev => hspec.served hsplit hev
  case halted => exact fun _ _ _ hsplit => hspec.halted hsplit
  case closed =>
    intro code hcode hstarted
    obtain ⟨front,loop,tail,minutes,s,rfl,hstart,-,-,hfront,hserves⟩ := hspec.started hstarted
    refine ⟨(hserves.ended hcode).code hstart.fresh.exitCode,front ++ loop,?_,hfront⟩
    rcases hserves.tail_cases with ⟨hnone,-⟩ | ⟨_,-,rfl⟩
    · rw [hnone] at hcode
      contradiction
    · rfl
  case failed =>
    intro code hcode hnever
    cases hspec with
    | failed ht hfailed =>
      obtain rfl := Option.some.inj hcode
      exact hfailed
    | mismatch | unbound => exact .inr (Option.some.inj hcode).symm
    | @serves ready loop tail out policy hready port bindIp authTimeout =>
      exact absurd ⟨port,bindIp,authTimeout,policy,by simp⟩ hnever
  case running =>
    intro hnone
    have hstarted : Started t := by
      cases hspec with
      | failed | mismatch | unbound => contradiction
      | @serves ready loop tail out policy hready port bindIp authTimeout =>
        exact ⟨port,bindIp,authTimeout,policy,by simp⟩
    refine ⟨hstarted,?_⟩
    obtain ⟨front,loop,tail,minutes,s,rfl,-,-,-,hfront,hserves⟩ := hspec.started hstarted
    rcases hserves.tail_cases with ⟨-,rfl⟩ | ⟨code,hsome,-⟩
    · rw [List.append_nil]
      exact hfront
    · rw [hsome] at hnone
      contradiction

/-- The housekeeping of a daemon that serves keeps its timetable, for however many passes
the loop takes from the state its start has come to: every pass updates the server, every
tenth one flushes the log and each one whose number the ping period divides pings the
database. It takes passes until it is told to stop and asks for nothing afterwards, and the
exit code is that of the schedule it was started with if this fired, and otherwise zero. -/
theorem housekeeping_timetable (passes : Nat) (args : List Bytes) (t : List DaemonEvent)
    (out : Option UInt8) (h : (main lib passes args).Runs t out) (hstarted : Started t) :
    ∃ cl front loop tail minutes m, ∃ s : Housekeeping σ, t = front ++ loop ++ tail ∧
      parseArgs ⟨lib.realmdConfigLocation,none⟩ args = .ok cl ∧
      (startup lib cl).Runs front (some s) ∧
      ⟨.getIntDefault (ascii "MaxPingTime") 30,minutes⟩ ∈ front ∧
      s.numLoops = UInt32.ofInt (minutes*600) ∧ chores front = [] ∧
      chores loop = (List.range m).flatMap (fun j => passChores s.numLoops (j+1)) ∧
      Prompt loop ∧ m ≤ passes ∧ (out = none → m = passes ∧ tail = []) ∧
      ∀ code, out = some code → tail = closing ∧
        if s.fires lib loop then code = if s.s_scheduledExit.mode = .restart then 2 else 0
        else code = 0 ∧ ⟨.stopEvent,true⟩ ∈ loop := by
  obtain ⟨front,loop,tail,minutes,s,rfl,hstart,hminutes,hquiet,-,hserves⟩ :=
    (main_runs h).started hstarted
  obtain ⟨cl,hargs,hruns⟩ := hstart.startup
  have hcode : ∀ code, out = some code →
      if s.fires lib loop then code = if s.s_scheduledExit.mode = .restart then 2 else 0
      else code = 0 ∧ ⟨.stopEvent,true⟩ ∈ loop := by
    intro code hcode
    cases hserves.ended hcode with
    | fired hfires => rw [if_pos hfires]
    | signalled hfires hmem =>
      rw [if_neg (by simp [hfires])]
      exact ⟨hstart.fresh.exitCode,hmem⟩
  have hchores : ∀ {m last}, LoopSpec lib s 0 m loop last →
      chores loop = (List.range m).flatMap (fun j => passChores s.numLoops (j+1)) := by
    intro m last hloop
    rw [hloop.chores]
    simp only [Nat.zero_add]
  cases hserves with
  | goesOn hloop =>
    exact ⟨cl,front,loop,[],minutes,passes,s,rfl,hargs,hruns,hminutes,hstart.fresh.numLoops,
      hquiet,hchores hloop,hloop.prompt,Nat.le_refl _,fun _ => ⟨rfl,rfl⟩,by simp⟩
  | @stopped s' m hm hloop =>
    exact ⟨cl,front,loop,closing,minutes,m,s,rfl,hargs,hruns,hminutes,hstart.fresh.numLoops,
      hquiet,hchores hloop,hloop.prompt,hm,by simp,fun code hc => ⟨rfl,hcode code hc⟩⟩

def DaemonLibrary.sample : DaemonLibrary Unit where
  schedule := ⟨false,0,0,0,.shutdown⟩
  schedule_disabled := rfl
  scheduleState := ()
  parseScheduledExitUInt32 _ := some 3
  parseScheduledExitTime _ := some (5,20)
  parseScheduledExitMode _ := some .restart
  markScheduledExitHandledIfMatching _ _ _ := (false,())
  checkAndMarkScheduledExit schedule tm _ := (decide (tm.tm_min = schedule.minute.toNat),())
  realmdConfigLocation := ascii "/etc/realmd.conf"
  realmdConfigName := ascii "realmd.conf"
  defaultRealmserverPort := 3724

def sampleDaemonEnv : Env DaemonCall DaemonReply Nat := fun c minute =>
  match c with
  | .setSource _ | .initializeDatabase _ | .checkDatabaseVersion
  | .startServer _ _ _ _ => (true,minute)
  | .getStringDefault name value =>
      (if name = ascii "LoginDatabaseInfo" then ascii "db" else value,minute)
  | .getIntDefault _ value => (value,minute)
  | .getBoolDefault _ _ => (true,minute)
  | .createPIDFile _ | .realmCount => ((1 : UInt32),minute)
  | .localtime => (⟨0,minute,5,0,0,0,3,0,0⟩,minute+1)
  | .stopEvent => (false,minute)
  | .startDaemon | .stopDaemon | .haltDelayThread | .initializeRealms _ | .beginTransaction
  | .execute _ | .commitTransaction | .hookSignals | .unhookSignals | .allowAsyncTransactions
  | .detachDaemon | .sleep | .updateServer | .flushLog | .pingDatabase
  | .stopServer => ((),minute)

theorem main_lifecycle_restart :
    let out := (main DaemonLibrary.sample 25 []).exec sampleDaemonEnv 0
    out.value = some 2 ∧ Lifecycle out.calls out.value := by
  refine ⟨by decide +kernel,?_⟩
  exact main_lifecycle 25 [] _ _ (Prog.exec_runs _ _ _)

theorem housekeeping_timetable_restart :
    let out := (main DaemonLibrary.sample 25 []).exec sampleDaemonEnv 0
    out.value = some 2 ∧ ∃ front loop m, ∃ s : Housekeeping Unit,
      out.calls = front ++ loop ++ closing ∧
      (startup DaemonLibrary.sample ⟨ascii "/etc/realmd.conf",none⟩).Runs front (some s) ∧
      pingPeriod s.numLoops = 18000 ∧ m ≤ 25 ∧
      chores loop = (List.range m).flatMap (fun j => passChores s.numLoops (j+1)) ∧
      s.fires DaemonLibrary.sample loop = true ∧ s.s_scheduledExit.mode = .restart := by
  intro out
  have hcode : out.value = some 2 := by decide +kernel
  have hstarted : Started out.calls := by
    have hmem : ⟨.startServer 3724 (ascii "0.0.0.0") 30 ⟨true,[]⟩,true⟩ ∈ out.calls := by
      decide +kernel
    exact ⟨_,_,_,_,hmem⟩
  obtain ⟨cl,front,loop,tail,minutes,m,s,hcalls,hargs,hruns,hminutes,hloops,-,hchores,-,hm,-,
    hend⟩ := housekeeping_timetable 25 [] out.calls out.value (Prog.exec_runs _ _ _) hstarted
  obtain rfl : ⟨ascii "/etc/realmd.conf",none⟩ = cl := Except.ok.inj hargs
  obtain ⟨rfl,hexit⟩ := hend 2 hcode
  -- the setting is answered with its default
  have hmem : ⟨.getIntDefault (ascii "MaxPingTime") 30,minutes⟩ ∈ out.calls := by
    rw [hcalls]
    simp [hminutes]
  obtain ⟨w,-,hdefault⟩ := Prog.exec_answered _ _ _ hmem
  obtain rfl : 30 = minutes := hdefault
  have hperiod : pingPeriod s.numLoops = 18000 := by
    rw [hloops]
    decide
  split at hexit
  · rename_i hfires
    refine ⟨hcode,front,loop,m,s,hcalls,hruns,hperiod,hm,hchores,hfires,?_⟩
    by_contra hmode
    rw [if_neg hmode] at hexit
    contradiction
  · exact absurd hexit.1 (by decide)

end

end Realmd
