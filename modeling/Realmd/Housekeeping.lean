import Realmd.Daemon
set_option autoImplicit false

namespace Realmd
open ByteCodec Interaction

def DaemonCall.isChore : DaemonCall → Bool
  | .sleep | .updateServer | .flushLog | .pingDatabase => true
  | _ => false

def chores (t : List DaemonEvent) : List DaemonCall :=
  (t.map Event.call).filter DaemonCall.isChore

/-- The passes from one ping to the next. A setting of zero never meets the counter
before it wraps around. -/
def pingPeriod (numLoops : UInt32) : Nat := if numLoops = 0 then 2^32 else numLoops.toNat

def passChores (numLoops : UInt32) (number : Nat) : List DaemonCall :=
  [.sleep,.updateServer] ++ (if 10 ∣ number then [.flushLog] else []) ++
    if pingPeriod numLoops ∣ number then [.pingDatabase] else []

def localTimes (t : List DaemonEvent) : List Tm :=
  t.filterMap fun
    | ⟨.localtime,tm⟩ => some tm
    | _ => none

section
variable {σ : Type} {lib : DaemonLibrary σ} {s s' : Housekeeping σ} {k : Nat}
  {t : List DaemonEvent}

/-- The schedule is watched until it fires: whether it did, and its state. -/
def watch (lib : DaemonLibrary σ) (schedule : ScheduledExitSchedule) :
    σ → List Tm → Bool × σ
  | state, [] => (false,state)
  | state, tm :: tms =>
      match lib.checkAndMarkScheduledExit schedule tm state with
      | (true,state) => (true,state)
      | (false,state) => watch lib schedule state tms

structure Counted (s : Housekeeping σ) (k : Nat) : Prop where
  flush : s.logFlushCounter.toNat = k%10
  ping : s.loopCounter.toNat = k%pingPeriod s.numLoops

theorem pingPeriod_pos (numLoops : UInt32) : 0 < pingPeriod numLoops := by
  unfold pingPeriod
  split
  · decide
  · rename_i hne
    exact Nat.pos_of_ne_zero fun h => hne (UInt32.toNat_inj.mp h)

theorem pingPeriod_le (numLoops : UInt32) : pingPeriod numLoops ≤ 2^32 := by
  unfold pingPeriod
  split
  · exact Nat.le_refl _
  · exact Nat.le_of_lt numLoops.toNat_lt

theorem succ_mod_cases (k : Nat) {period : Nat} (hpos : 0 < period) :
    k%period+1 = period ∧ period ∣ k+1 ∧ (k+1)%period = 0 ∨
      k%period+1 < period ∧ ¬ period ∣ k+1 ∧ (k+1)%period = k%period+1 := by
  have hlt := Nat.mod_lt k hpos
  have hmod : (k+1)%period = (k%period+1)%period := (Nat.mod_add_mod k period 1).symm
  by_cases heq : k%period+1 = period
  · have hzero : (k+1)%period = 0 := by rw [hmod,heq,Nat.mod_self]
    exact .inl ⟨heq,Nat.dvd_of_mod_eq_zero hzero,hzero⟩
  · have hless : k%period+1 < period := by omega
    rw [Nat.mod_eq_of_lt hless] at hmod
    refine .inr ⟨hless,fun hdvd => ?_,hmod⟩
    have hzero := Nat.mod_eq_zero_of_dvd hdvd
    omega

theorem flushIfDue_runs (h : (flushIfDue s).Runs t s') (hk : Counted s k) :
    s'.logFlushCounter.toNat = (k+1)%10 ∧
      s' = { s with logFlushCounter := s'.logFlushCounter } ∧
      t.map Event.call = if 10 ∣ k+1 then [.flushLog] else [] := by
  have hnext : (s.logFlushCounter+1).toNat = k%10+1 := by
    rw [UInt32.toNat_add,hk.flush]
    have hlt := Nat.mod_lt k (show 0 < 10 by decide)
    exact Nat.mod_eq_of_lt (by simp; omega)
  unfold flushIfDue at h
  simp only [ge_iff_le,UInt32.le_iff_toNat_le,hnext] at h
  rcases succ_mod_cases k (show 0 < 10 by decide) with ⟨heq,hdvd,hzero⟩ | ⟨hlt,hdvd,hsucc⟩
  · rw [if_pos (by simp; omega)] at h
    obtain ⟨_,t',rfl,rfl,rfl⟩ := h
    rw [if_pos hdvd]
    exact ⟨hzero.symm,rfl,rfl⟩
  · rw [if_neg (by simp; omega)] at h
    obtain ⟨rfl,rfl⟩ := h
    rw [if_neg hdvd]
    exact ⟨hnext.trans hsucc.symm,rfl,rfl⟩

theorem pingIfDue_runs (h : (pingIfDue s).Runs t s')
    (hk : s.loopCounter.toNat = k%pingPeriod s.numLoops) :
    s'.loopCounter.toNat = (k+1)%pingPeriod s.numLoops ∧
      s' = { s with loopCounter := s'.loopCounter } ∧
      t.map Event.call = if pingPeriod s.numLoops ∣ k+1 then [.pingDatabase] else [] := by
  have hle := pingPeriod_le s.numLoops
  have hnext : (s.loopCounter+1).toNat = (k%pingPeriod s.numLoops+1)%2^32 := by
    rw [UInt32.toNat_add,hk]
    rfl
  unfold pingIfDue at h
  rcases succ_mod_cases k (pingPeriod_pos s.numLoops) with ⟨heq,hdvd,hzero⟩ | ⟨hlt,hdvd,hsucc⟩
  · have hmeet : s.loopCounter+1 = s.numLoops := by
      rw [← UInt32.toNat_inj,hnext,heq]
      unfold pingPeriod
      split
      · rename_i hz
        rw [hz]
        rfl
      · exact Nat.mod_eq_of_lt s.numLoops.toNat_lt
    simp only [hmeet,if_true] at h
    obtain ⟨_,t',rfl,rfl,rfl⟩ := h
    rw [if_pos hdvd]
    exact ⟨hzero.symm,rfl,rfl⟩
  · have hsmall : (s.loopCounter+1).toNat = k%pingPeriod s.numLoops+1 := by
      rw [hnext]
      exact Nat.mod_eq_of_lt (by omega)
    have hmiss : s.loopCounter+1 ≠ s.numLoops := by
      intro hmeet
      rw [hmeet] at hsmall
      unfold pingPeriod at hsmall hlt
      split at hsmall
      · rename_i hz
        rw [hz] at hsmall
        simp at hsmall
      · rename_i hz
        rw [if_neg hz] at hlt
        omega
    simp only [if_neg hmiss] at h
    obtain ⟨rfl,rfl⟩ := h
    rw [if_neg hdvd]
    exact ⟨hsmall.trans hsucc.symm,rfl,rfl⟩

inductive CheckSpec (lib : DaemonLibrary σ) (s : Housekeeping σ) :
    List DaemonEvent → Housekeeping σ → Prop where
  | disabled (h : s.s_scheduledExit.enabled = false) : CheckSpec lib s [] s
  | told (h : s.s_scheduledExit.enabled = true) :
      CheckSpec lib s [⟨.stopEvent,true⟩] { s with stopEvent := true }
  | waits (h : s.s_scheduledExit.enabled = true) (tm : Tm) (state : σ)
      (hcheck : lib.checkAndMarkScheduledExit s.s_scheduledExit tm s.s_scheduledExitState =
        (false,state)) :
      CheckSpec lib s [⟨.stopEvent,false⟩,⟨.localtime,tm⟩] { s with s_scheduledExitState := state }
  | fires (h : s.s_scheduledExit.enabled = true) (tm : Tm) (state : σ)
      (hcheck : lib.checkAndMarkScheduledExit s.s_scheduledExit tm s.s_scheduledExitState =
        (true,state)) :
      CheckSpec lib s [⟨.stopEvent,false⟩,⟨.localtime,tm⟩]
        { s with
          s_scheduledExitState := state
          exitCode := if s.s_scheduledExit.mode = .restart then 2 else 0
          stopEvent := true }

theorem checkScheduledExit_runs (h : (checkScheduledExit lib s).Runs t s')
    (hs : s.stopEvent = false) : CheckSpec lib s t s' := by
  unfold checkScheduledExit at h
  split at h
  · rename_i hdisabled
    obtain ⟨rfl,rfl⟩ := h
    exact .disabled (by simpa using hdisabled)
  · rename_i henabled
    have henabled : s.s_scheduledExit.enabled = true := by simpa using henabled
    obtain ⟨stop,t',rfl,h⟩ := h
    simp only [Prog.bind,hs,Bool.false_or] at h
    cases stop with
    | true =>
      obtain ⟨rfl,rfl⟩ := h
      exact .told henabled
    | false =>
      obtain ⟨tm,t'',rfl,h⟩ := h
      simp only [Prog.bind] at h
      split at h
      · rename_i state hcheck
        obtain ⟨rfl,rfl⟩ := h
        simpa only [hs] using CheckSpec.waits henabled tm state hcheck
      · rename_i state hcheck
        obtain ⟨rfl,rfl⟩ := h
        exact .fires henabled tm state hcheck

theorem CheckSpec.chores (h : CheckSpec lib s t s') : chores t = [] := by
  cases h <;> rfl

theorem housekeepingPass_runs (h : (housekeepingPass lib s).Runs t s')
    (hs : s.stopEvent = false) (hk : Counted s k) :
    ∃ t₁ t₂ s₁, t = t₁ ++ t₂ ∧ CheckSpec lib s₁ t₂ s' ∧
      t₁.map Event.call = passChores s.numLoops (k+1) ∧ Counted s₁ (k+1) ∧
      s₁ = { s with logFlushCounter := s₁.logFlushCounter, loopCounter := s₁.loopCounter } := by
  obtain ⟨_,ta,rfl,_,tb,rfl,h⟩ := h
  have hrest : (flushIfDue s >>= fun s => pingIfDue s >>= checkScheduledExit lib :
    DaemonProg (Housekeeping σ)).Runs tb s' := h
  obtain ⟨tc,td,s₁,rfl,hflush,h⟩ := Prog.runs_bind.mp hrest
  obtain ⟨te,tf,s₂,rfl,hping,hcheck⟩ := Prog.runs_bind.mp h
  obtain ⟨hcount₁,hs₁,hc⟩ := flushIfDue_runs hflush hk
  have hloop : s₁.loopCounter.toNat = k%pingPeriod s₁.numLoops := by
    rw [hs₁]
    exact hk.ping
  have hnum : s₁.numLoops = s.numLoops := by rw [hs₁]
  obtain ⟨hcount₂,hs₂,he⟩ := pingIfDue_runs hping hloop
  rw [hnum] at he
  have hsame : s₂ = { s with
      logFlushCounter := s₁.logFlushCounter
      loopCounter := s₂.loopCounter } := by
    rw [hs₂,hs₁]
  have hflush₂ : s₂.logFlushCounter = s₁.logFlushCounter := by rw [hs₂]
  have hs₂' : s₂.stopEvent = false := by
    rw [hsame]
    exact hs
  refine ⟨⟨.sleep,()⟩ :: ⟨.updateServer,()⟩ :: tc ++ te,tf,s₂,by simp,
    checkScheduledExit_runs hcheck hs₂',?_,⟨?_,?_⟩,?_⟩
  · simp [hc,he,passChores]
  · rw [hflush₂]
    exact hcount₁
  · rw [hcount₂,hs₂]
  · rw [hflush₂]
    exact hsame

def Housekeeping.fires (lib : DaemonLibrary σ) (s : Housekeeping σ) (t : List DaemonEvent) : Bool :=
  (watch lib s.s_scheduledExit s.s_scheduledExitState (localTimes t)).1

inductive Ended (lib : DaemonLibrary σ) (s : Housekeeping σ) (t : List DaemonEvent) :
    UInt8 → Prop where
  | fired (h : s.fires lib t = true) :
      Ended lib s t (if s.s_scheduledExit.mode = .restart then 2 else 0)
  | signalled (h : s.fires lib t = false) (hmem : ⟨.stopEvent,true⟩ ∈ t) :
      Ended lib s t s.exitCode

/-- Once `stopEvent` was seen, nothing is asked but whether it is set. -/
def Prompt (t : List DaemonEvent) : Prop :=
  ∀ pre post, t = pre ++ ⟨.stopEvent,true⟩ :: post → ∀ ev ∈ post, ev.call = .stopEvent

/-- What `m` passes of the loop do, after `k` passes before. -/
structure LoopSpec (lib : DaemonLibrary σ) (s : Housekeeping σ) (k m : Nat)
    (t : List DaemonEvent) (out : Option (Housekeeping σ)) : Prop where
  chores : chores t = (List.range m).flatMap fun j => passChores s.numLoops (k+j+1)
  prompt : Prompt t
  ended : ∀ s', out = some s' → Ended lib s t s'.exitCode

theorem Prompt.append {t t' : List DaemonEvent} (h : ⟨.stopEvent,true⟩ ∉ t) (h' : Prompt t') :
    Prompt (t ++ t') := by
  intro pre post hsplit
  rcases append_split hsplit with ⟨rest,rfl⟩ | ⟨rest,-,htail⟩
  · simp at h
  · exact h' rest post htail

theorem Prompt.looks (h : ∀ ev ∈ t, ev.call = .stopEvent) : Prompt t := by
  intro pre post hsplit ev hmem
  refine h ev ?_
  rw [hsplit]
  simp [hmem]

theorem passChores_isChore {numLoops : UInt32} {number : Nat} {c : DaemonCall}
    (h : c ∈ passChores numLoops number) : c.isChore = true := by
  simp only [passChores,List.mem_append,List.mem_cons,List.not_mem_nil,or_false] at h
  rcases h with ((rfl | rfl) | h) | h
  · rfl
  · rfl
  · split at h
    · rw [List.mem_singleton.mp h]
      rfl
    · simp at h
  · split at h
    · rw [List.mem_singleton.mp h]
      rfl
    · simp at h

theorem chores_append (t t' : List DaemonEvent) : Realmd.chores (t ++ t') =
    Realmd.chores t ++ Realmd.chores t' := by
  simp [Realmd.chores]

theorem localTimes_append (t t' : List DaemonEvent) :
    localTimes (t ++ t') = localTimes t ++ localTimes t' := by
  simp [localTimes]

theorem localTimes_chores {t : List DaemonEvent} (h : ∀ ev ∈ t, ev.call.isChore = true) :
    localTimes t = [] := by
  rw [localTimes,List.filterMap_eq_nil_iff]
  rintro ⟨c,r⟩ hmem
  have hc := h _ hmem
  cases c <;> simp [DaemonCall.isChore] at hc ⊢

theorem Housekeeping.look_runs (h : s.look.Runs t s') :
    ∃ stop, t = [⟨.stopEvent,stop⟩] ∧ s' = { s with stopEvent := s.stopEvent || stop } := by
  obtain ⟨stop,t',rfl,rfl,rfl⟩ := h
  exact ⟨stop,rfl,rfl⟩

theorem mainLoop_stops {n : Nat} {out : Option (Housekeeping σ)}
    (h : (mainLoop lib n s).Runs t out) (hs : s.stopEvent = true) :
    n = 0 ∧ t = [] ∧ out = none ∨ ∃ stop, t = [⟨.stopEvent,stop⟩] ∧ out = some s := by
  cases n with
  | zero =>
    obtain ⟨rfl,rfl⟩ := h
    exact .inl ⟨rfl,rfl,rfl⟩
  | succ n =>
    obtain ⟨t₁,t₂,s₁,rfl,hlook,h⟩ := Prog.runs_bind.mp h
    obtain ⟨stop,rfl,rfl⟩ := Housekeeping.look_runs hlook
    have hsame : ({ s with stopEvent := s.stopEvent || stop } : Housekeeping σ) = s := by
      rw [hs,Bool.true_or,← hs]
    rw [hsame,if_pos hs] at h
    obtain ⟨rfl,rfl⟩ := h
    exact .inr ⟨stop,rfl,rfl⟩

theorem Ended.before {s₁ : Housekeeping σ} {front : List DaemonEvent} {code : UInt8}
    (hfires : s.fires lib (front ++ t) = s₁.fires lib t)
    (hschedule : s₁.s_scheduledExit = s.s_scheduledExit) (hcode : s₁.exitCode = s.exitCode)
    (h : Ended lib s₁ t code) : Ended lib s (front ++ t) code := by
  cases h with
  | fired h =>
    rw [hschedule]
    exact .fired (hfires.trans h)
  | signalled h hmem =>
    rw [hcode]
    exact .signalled (hfires.trans h) (List.mem_append_right _ hmem)

theorem LoopSpec.cons {s₁ : Housekeeping σ} {m : Nat} {out : Option (Housekeeping σ)}
    {front : List DaemonEvent} (h : LoopSpec lib s₁ (k+1) m t out)
    (hchores : Realmd.chores front = passChores s.numLoops (k+1))
    (hfront : ⟨.stopEvent,true⟩ ∉ front) (hnum : s₁.numLoops = s.numLoops)
    (hended : ∀ code, Ended lib s₁ t code → Ended lib s (front ++ t) code) :
    LoopSpec lib s k (m+1) (front ++ t) out := by
  constructor
  case chores =>
    rw [chores_append,hchores,h.chores,hnum,List.range_succ_eq_map,List.flatMap_cons,
      List.flatMap_map]
    have hshift : ∀ j, k+1+j+1 = k+(j+1)+1 := by omega
    simp only [hshift,Nat.add_zero]
  case prompt => exact h.prompt.append hfront
  case ended => exact fun s' hs' => hended _ (h.ended s' hs')

theorem LoopSpec.stop {s₁ : Housekeeping σ} {out : Option (Housekeeping σ)}
    {front : List DaemonEvent}
    (hlast : t = [] ∧ out = none ∨ ∃ stop, t = [⟨.stopEvent,stop⟩] ∧ out = some s₁)
    (hchores : Realmd.chores front = passChores s.numLoops (k+1))
    (hprompt : ∀ t', (∀ ev ∈ t', ev.call = .stopEvent) → Prompt (front ++ t'))
    (hended : ∀ stop, Ended lib s (front ++ [⟨.stopEvent,stop⟩]) s₁.exitCode) :
    LoopSpec lib s k 1 (front ++ t) out := by
  have hlooks : Realmd.chores t = [] ∧ ∀ ev ∈ t, ev.call = .stopEvent := by
    rcases hlast with ⟨rfl,-⟩ | ⟨stop,rfl,-⟩
    · exact ⟨rfl,by simp⟩
    · exact ⟨rfl,by simp⟩
  constructor
  case chores =>
    rw [chores_append,hchores,hlooks.1]
    simp
  case prompt => exact hprompt t hlooks.2
  case ended =>
    intro s' hs'
    rcases hlast with ⟨-,hnone⟩ | ⟨stop,rfl,hsome⟩
    · rw [hnone] at hs'
      contradiction
    · obtain rfl := Option.some.inj (hsome.symm.trans hs')
      exact hended stop

theorem passChores_only {numLoops : UInt32} {number : Nat}
    (h : t.map Event.call = passChores numLoops number) :
    Realmd.chores t = passChores numLoops number ∧ localTimes t = [] ∧
      ∀ stop, ⟨.stopEvent,stop⟩ ∉ t := by
  have hall : ∀ ev ∈ t, ev.call.isChore = true := by
    intro ev hmem
    have hcall : ev.call ∈ passChores numLoops number := by
      rw [← h]
      exact List.mem_map_of_mem hmem
    exact passChores_isChore hcall
  refine ⟨?_,localTimes_chores hall,fun stop hmem => ?_⟩
  · rw [Realmd.chores,h,List.filter_eq_self]
    exact fun c hc => passChores_isChore hc
  · have hstop := hall _ hmem
    simp [DaemonCall.isChore] at hstop

theorem mainLoop_runs {n : Nat} {out : Option (Housekeeping σ)}
    (h : (mainLoop lib n s).Runs t out) (hs : s.stopEvent = false) (hk : Counted s k) :
    ∃ m ≤ n, (out = none → m = n) ∧ LoopSpec lib s k m t out := by
  induction n generalizing s k t with
  | zero =>
    obtain ⟨rfl,rfl⟩ := h
    exact ⟨0,Nat.le_refl 0,fun _ => rfl,rfl,by simp [Prompt],by simp⟩
  | succ n ih =>
    obtain ⟨t₁,t',s₁,rfl,hlook,h⟩ := Prog.runs_bind.mp h
    obtain ⟨stop,rfl,rfl⟩ := Housekeeping.look_runs hlook
    rw [hs,Bool.false_or] at h
    cases stop with
    | true =>
      obtain ⟨rfl,rfl⟩ := h
      refine ⟨0,Nat.zero_le _,nofun,rfl,.looks (by simp),?_⟩
      rintro s' hs'
      obtain rfl := Option.some.inj hs'
      exact .signalled rfl (by simp)
    | false =>
      rw [← hs,if_neg (by simp [hs])] at h
      obtain ⟨tp,t₂,s₁,rfl,hpass,hloop⟩ := Prog.runs_bind.mp h
      obtain ⟨ta,tb,s₂,rfl,hcheck,hcalls,hcount,hsame⟩ := housekeepingPass_runs hpass hs hk
      obtain ⟨hchores,htimes,hnever⟩ := passChores_only hcalls
      have hschedule : s₂.s_scheduledExit = s.s_scheduledExit := by rw [hsame]
      have hstate : s₂.s_scheduledExitState = s.s_scheduledExitState := by rw [hsame]
      have hcode : s₂.exitCode = s.exitCode := by rw [hsame]
      have hnum : s₂.numLoops = s.numLoops := by rw [hsame]
      have hs₂ : s₂.stopEvent = false := by
        rw [hsame]
        exact hs
      have hpassed : Realmd.chores ([⟨.stopEvent,false⟩] ++ (ta ++ tb)) =
          passChores s.numLoops (k+1) := by
        rw [chores_append,chores_append,hchores,hcheck.chores,List.append_nil]
        rfl
      -- of a pass only the check looks at the clock
      have hfires : ∀ rest, s.fires lib ([⟨.stopEvent,false⟩] ++ (ta ++ tb) ++ rest) =
          (watch lib s₂.s_scheduledExit s₂.s_scheduledExitState
            (localTimes tb ++ localTimes rest)).1 := by
        intro rest
        rw [Housekeeping.fires,localTimes_append,localTimes_append,localTimes_append,htimes,
          hschedule,hstate]
        rfl
      rw [← List.append_assoc]
      cases hcheck with
      | disabled hd =>
        obtain ⟨m,hm,hnone,hspec⟩ := ih hloop hs₂ hcount
        refine ⟨m+1,by omega,fun hout => by rw [hnone hout],
          hspec.cons hpassed (by simp [hnever]) hnum fun code => .before ?_ hschedule hcode⟩
        exact hfires t₂
      | waits he tm state hc =>
        obtain ⟨m,hm,hnone,hspec⟩ := ih hloop hs₂ ⟨hcount.flush,hcount.ping⟩
        refine ⟨m+1,by omega,fun hout => by rw [hnone hout],
          hspec.cons hpassed (by simp [hnever]) hnum fun code => .before ?_ hschedule hcode⟩
        rw [hfires t₂]
        simp [Housekeeping.fires,localTimes,watch,hc]
      | told he =>
        have hlast := mainLoop_stops hloop rfl
        refine ⟨1,by omega,fun hout => by simp [hout] at hlast; omega,
          .stop (hlast.imp_left And.right) hpassed ?_ fun stop => ?_⟩
        · intro t' ht'
          rw [← List.append_assoc,List.append_assoc]
          refine .append (by simp [hnever]) (.looks fun ev hmem => ?_)
          rcases List.mem_append.mp hmem with htold | hlater
          · rw [List.mem_singleton.mp htold]
          · exact ht' ev hlater
        · have hquiet : s.fires lib ([⟨.stopEvent,false⟩] ++ (ta ++ [⟨.stopEvent,true⟩]) ++
              [⟨.stopEvent,stop⟩]) = false := hfires _
          have hend := Ended.signalled hquiet (by simp)
          rwa [← hcode] at hend
      | fires he tm state hc =>
        have hlast := mainLoop_stops hloop rfl
        refine ⟨1,by omega,fun hout => by simp [hout] at hlast; omega,
          .stop (hlast.imp_left And.right) hpassed ?_ fun stop => ?_⟩
        · exact fun t' ht' => .append (by simp [hnever]) (.looks ht')
        · have hnow : s.fires lib ([⟨.stopEvent,false⟩] ++
              (ta ++ [⟨.stopEvent,false⟩,⟨.localtime,tm⟩]) ++ [⟨.stopEvent,stop⟩]) = true := by
            rw [hfires]
            simp [localTimes,watch,hc]
          have hend := Ended.fired hnow
          rwa [← hschedule] at hend

end

end Realmd
