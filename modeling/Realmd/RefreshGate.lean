import Realmd.FailedRefresh
import Realmd.Protocols
set_option autoImplicit false

namespace Realmd
open ByteCodec Interaction

def Building : RealmCall → Bool
  | .query | .getaddrinfo _ => true
  | _ => false

/-- How far a thread that holds the lock has come. -/
inductive GatePhase where
  | entered
  | found (now : Int)
  | refreshing (now : Int) (build : List RealmEvent)
  | leaving

/-- The gate as a refresh sees it: who is inside, when the next refresh is due, and what is
published. -/
structure Gate where
  holder : Option (Nat × GatePhase)
  nextUpdate : Int
  snapshot : RealmSnapshot

def Gate.phase (g : Gate) (i : Nat) : Option GatePhase :=
  match g.holder with
  | some (j,phase) => if j = i then some phase else none
  | none => none

abbrev RealmEntry := Nat × RealmEvent

section
variable (lib : RealmLibrary) (interval : UInt32)

/-- The steps of the gate: at most one thread is inside, and it takes them in order. -/
inductive GateStep : Gate → RealmEntry → Gate → Prop where
  | time {g : Gate} (i : Nat) (now : Int) : GateStep g (i,⟨.time,now⟩) g
  | refused {g : Gate} (i : Nat) : GateStep g (i,⟨.tryLock,false⟩) g
  | enter {g : Gate} (i : Nat) (hfree : g.holder = none) :
      GateStep g (i,⟨.tryLock,true⟩) { g with holder := some (i,.entered) }
  | notDue {g : Gate} {i : Nat} (now : Int) (hin : g.holder = some (i,.entered))
      (h : ¬ (interval ≠ 0 ∧ g.nextUpdate ≤ now)) :
      GateStep g (i,⟨.due now,false⟩) { g with holder := some (i,.leaving) }
  | isDue {g : Gate} {i : Nat} (now : Int) (hin : g.holder = some (i,.entered))
      (h : interval ≠ 0 ∧ g.nextUpdate ≤ now) :
      GateStep g (i,⟨.due now,true⟩) { g with holder := some (i,.found now) }
  | start {g : Gate} {i : Nat} {now : Int} (hin : g.holder = some (i,.found now)) :
      GateStep g (i,⟨.setNextUpdate now,()⟩)
        { g with holder := some (i,.refreshing now []), nextUpdate := now+interval.toNat }
  | build {g : Gate} {i : Nat} {now : Int} {build : List RealmEvent}
      (hin : g.holder = some (i,.refreshing now build)) (ev : RealmEvent)
      (hev : Building ev.call = true) :
      GateStep g (i,ev) { g with holder := some (i,.refreshing now (build ++ [ev])) }
  | publish {g : Gate} {i : Nat} {now : Int} {build : List RealmEvent}
      {snapshot : RealmSnapshot} (hin : g.holder = some (i,.refreshing now build))
      (hbuild : (buildSnapshot lib).Runs build snapshot) :
      GateStep g (i,⟨.publish snapshot,()⟩)
        { g with holder := some (i,.leaving), snapshot := snapshot }
  | leave {g : Gate} {i : Nat} (hin : g.holder = some (i,.leaving)) :
      GateStep g (i,⟨.unlock,()⟩) { g with holder := none }
  | load {g : Gate} (i : Nat) : GateStep g (i,⟨.load,g.snapshot⟩) g

def Allowed : Option GatePhase → RealmCall → Prop
  | none, .time | none, .tryLock | none, .load => True
  | some .entered, .due _ => True
  | some (.found now), .setNextUpdate now' => now' = now
  | some (.refreshing _ _), .query | some (.refreshing _ _), .getaddrinfo _ => True
  | some (.refreshing _ build), .publish snapshot => (buildSnapshot lib).Runs build snapshot
  | some .leaving, .unlock => True
  | _, _ => False

end

def GatePhase.next : Option GatePhase → RealmEvent → Option GatePhase
  | none, ⟨.tryLock,locked⟩ => bif locked then some .entered else none
  | some .entered, ⟨.due now,isDue⟩ => some (bif isDue then .found now else .leaving)
  | some (.found now), ⟨.setNextUpdate _,_⟩ => some (.refreshing now [])
  | some (.refreshing _ _), ⟨.publish _,_⟩ => some .leaving
  | some (.refreshing now build), ev => some (.refreshing now (build ++ [ev]))
  | some .leaving, ⟨.unlock,_⟩ => none
  | phase, _ => phase

/-- The gate of the source is in the state of the machine. -/
structure Gate.Agrees (g : Gate) (interval : UInt32) (realms : RealmList) : Prop where
  mutex : realms.m_mutex = g.holder.isSome
  interval : realms.m_interval = interval
  nextUpdate : realms.m_nextUpdate = g.nextUpdate
  snapshot : realms.m_snapshot = g.snapshot

section
variable {lib : RealmLibrary} {interval : UInt32} {g : Gate} {i : Nat} {δ : Type}
  {outside : Env RealmCall RealmReply δ}

theorem Gate.phase_eq_some {phase : GatePhase} :
    g.phase i = some phase ↔ g.holder = some (i,phase) := by
  unfold Gate.phase
  split
  · rename_i j inside hholder
    rw [hholder]
    by_cases hij : j = i <;> simp [hij]
  · rename_i hholder
    simp [hholder]

theorem Gate.phase_self {phase : GatePhase} (h : g.holder = some (i,phase)) :
    g.phase i = some phase :=
  Gate.phase_eq_some.mpr h

theorem Gate.phase_other {phase : GatePhase} {j : Nat} (h : g.holder = some (i,phase))
    (hj : j ≠ i) : g.phase j = none := by
  unfold Gate.phase
  rw [h]
  exact if_neg (Ne.symm hj)

theorem Gate.phase_free (h : g.holder = none) (j : Nat) : g.phase j = none := by
  unfold Gate.phase
  rw [h]

theorem Gate.phase_inside {g' : Gate} {phase phase' : GatePhase} (h : g.holder = some (i,phase))
    (h' : g'.holder = some (i,phase')) {j : Nat} (hj : j ≠ i) : g'.phase j = g.phase j := by
  rw [Gate.phase_other h hj,Gate.phase_other h' hj]

theorem realmEnv_refines {w : RealmList × δ} {c : RealmCall}
    (hagrees : g.Agrees interval w.1) (hok : Allowed lib (g.phase i) c) :
    ∃ g', GateStep lib interval g (i,⟨c,(realmEnv outside c w).1⟩) g' ∧
      g'.Agrees interval (realmEnv outside c w).2.1 ∧
      g'.phase i = GatePhase.next (g.phase i) ⟨c,(realmEnv outside c w).1⟩ ∧
      ∀ j, j ≠ i → g'.phase j = g.phase j := by
  obtain ⟨realms,d⟩ := w
  obtain ⟨hmutex,hinterval,hnext,hsnapshot⟩ := hagrees
  simp only at hmutex hinterval hnext hsnapshot
  cases hphase : g.phase i with
  | none =>
    rw [hphase] at hok
    cases c <;> try exact hok.elim
    case time => exact ⟨g,.time i _,⟨hmutex,hinterval,hnext,hsnapshot⟩,hphase,fun _ _ => rfl⟩
    case load =>
      have hreply : (realmEnv outside .load (realms,d)).1 = g.snapshot := hsnapshot
      rw [hreply]
      exact ⟨g,.load i,⟨hmutex,hinterval,hnext,hsnapshot⟩,hphase,fun _ _ => rfl⟩
    case tryLock =>
      cases hholder : g.holder with
      | some inside =>
        have hheld : realms.m_mutex = true := by rw [hmutex,hholder]; rfl
        simp only [realmEnv,hheld,if_true]
        exact ⟨g,.refused i,⟨hmutex,hinterval,hnext,hsnapshot⟩,hphase,fun _ _ => rfl⟩
      | none =>
        have hfree : realms.m_mutex = false := by rw [hmutex,hholder]; rfl
        simp only [realmEnv,hfree]
        cases (outside .tryLock d).1 with
        | false =>
          refine ⟨g,.refused i,⟨?_,hinterval,hnext,hsnapshot⟩,hphase,fun _ _ => rfl⟩
          rw [hholder]
          rfl
        | true =>
          refine ⟨_,.enter i hholder,⟨rfl,hinterval,hnext,hsnapshot⟩,Gate.phase_self rfl,?_⟩
          intro j hj
          rw [Gate.phase_free hholder j]
          exact Gate.phase_other rfl hj
  | some phase =>
    have hin := Gate.phase_eq_some.mp hphase
    have hheld : realms.m_mutex = true := by rw [hmutex,hin]; rfl
    rw [hphase] at hok
    cases phase <;> cases c <;> try exact hok.elim
    case entered.due now =>
      have hreply : (realmEnv outside (.due now) (realms,d)).1 =
          decide (interval ≠ 0 ∧ g.nextUpdate ≤ now) := by
        rw [← hinterval,← hnext]
        rfl
      rw [hreply]
      by_cases hdue : interval ≠ 0 ∧ g.nextUpdate ≤ now
      · rw [decide_eq_true hdue]
        exact ⟨_,.isDue now hin hdue,⟨hheld,hinterval,hnext,hsnapshot⟩,Gate.phase_self rfl,
          fun j hj => Gate.phase_inside hin rfl hj⟩
      · rw [decide_eq_false hdue]
        exact ⟨_,.notDue now hin hdue,⟨hheld,hinterval,hnext,hsnapshot⟩,Gate.phase_self rfl,
          fun j hj => Gate.phase_inside hin rfl hj⟩
    case found.setNextUpdate now now' =>
      obtain rfl : now' = now := hok
      refine ⟨_,.start hin,⟨hheld,hinterval,?_,hsnapshot⟩,Gate.phase_self rfl,
        fun j hj => Gate.phase_inside hin rfl hj⟩
      simp [realmEnv,hinterval]
    case refreshing.query now build =>
      exact ⟨_,.build hin _ rfl,⟨hheld,hinterval,hnext,hsnapshot⟩,Gate.phase_self rfl,
        fun j hj => Gate.phase_inside hin rfl hj⟩
    case refreshing.getaddrinfo now build host =>
      exact ⟨_,.build hin _ rfl,⟨hheld,hinterval,hnext,hsnapshot⟩,Gate.phase_self rfl,
        fun j hj => Gate.phase_inside hin rfl hj⟩
    case refreshing.publish now build snapshot =>
      exact ⟨_,.publish hin hok,⟨hheld,hinterval,hnext,rfl⟩,Gate.phase_self rfl,
        fun j hj => Gate.phase_inside hin rfl hj⟩
    case leaving.unlock =>
      refine ⟨_,.leave hin,⟨rfl,hinterval,hnext,hsnapshot⟩,Gate.phase_free rfl i,?_⟩
      intro j hj
      rw [Gate.phase_other hin hj]
      exact Gate.phase_free rfl j

end

def starts (log : List RealmEntry) : List (Nat × Int) :=
  log.filterMap fun entry =>
    match entry with
    | (i,⟨.setNextUpdate now,_⟩) => some (i,now)
    | _ => none

def published (log : List RealmEntry) : List (Nat × RealmSnapshot) :=
  log.filterMap fun entry =>
    match entry with
    | (i,⟨.publish snapshot,_⟩) => some (i,snapshot)
    | _ => none

def buildCalls (i : Nat) (log : List RealmEntry) : List RealmEvent :=
  log.filterMap fun entry =>
    if entry.1 = i ∧ Building entry.2.call = true then some entry.2 else none

structure Undisturbed (i : Nat) (build : List RealmEvent) (later : List RealmEntry) : Prop where
  starts : starts later = []
  published : published later = []
  build : buildCalls i later = build

def Finished (i : Nat) (later : List RealmEntry) : Prop :=
  ∃ l₁ snapshot l₂ l₃,
    later = l₁ ++ (i,⟨.publish snapshot,()⟩) :: (l₂ ++ (i,⟨.unlock,()⟩) :: l₃)

/-- Where a refresh that was started is now. -/
inductive Since (g : Gate) (i : Nat) (now : Int) (later : List RealmEntry) : Prop where
  | refreshing {build : List RealmEvent} (hin : g.holder = some (i,.refreshing now build))
      (h : Undisturbed i build later)
  | leaving {l₁ l₂ : List RealmEntry} {snapshot : RealmSnapshot}
      (hin : g.holder = some (i,.leaving))
      (hl : later = l₁ ++ (i,⟨.publish snapshot,()⟩) :: l₂)
  | finished (h : Finished i later)

section
variable {lib : RealmLibrary} {interval : UInt32} {g g' first : Gate} {i : Nat} {now : Int}
  {later log : List RealmEntry} {entry : RealmEntry} {build : List RealmEvent}

theorem starts_append (l l' : List RealmEntry) :
    starts (l ++ l') = starts l ++ starts l' := by
  simp [starts]

theorem published_append (l l' : List RealmEntry) :
    published (l ++ l') = published l ++ published l' := by
  simp [published]

theorem buildCalls_append (l l' : List RealmEntry) :
    buildCalls i (l ++ l') = buildCalls i l ++ buildCalls i l' := by
  simp [buildCalls]

theorem building_entry (i : Nat) {ev : RealmEvent} (hev : Building ev.call = true) :
    starts [(i,ev)] = [] ∧ published [(i,ev)] = [] := by
  obtain ⟨call,reply⟩ := ev
  cases call <;> simp only [Building,Bool.false_eq_true] at hev <;> exact ⟨rfl,rfl⟩

theorem Undisturbed.snoc (h : Undisturbed i build later) (hs : Realmd.starts [entry] = [])
    (hp : Realmd.published [entry] = []) :
    Undisturbed i (build ++ buildCalls i [entry]) (later ++ [entry]) := by
  obtain ⟨hstarts,hpublished,hbuild⟩ := h
  constructor
  · rw [starts_append,hstarts,hs]
    rfl
  · rw [published_append,hpublished,hp]
    rfl
  · rw [buildCalls_append,hbuild]

theorem Undisturbed.pass (h : Undisturbed i build later) (hs : Realmd.starts [entry] = [])
    (hp : Realmd.published [entry] = []) (hb : buildCalls i [entry] = []) :
    Undisturbed i build (later ++ [entry]) := by
  have hnext := h.snoc hs hp
  rwa [hb,List.append_nil] at hnext

theorem Undisturbed.building (h : Undisturbed i build later) {ev : RealmEvent}
    (hev : Building ev.call = true) : Undisturbed i (build ++ [ev]) (later ++ [(i,ev)]) := by
  have hb : buildCalls i [(i,ev)] = [ev] := by simp [buildCalls,hev]
  obtain ⟨hs,hp⟩ := building_entry i hev
  rw [← hb]
  exact h.snoc hs hp

theorem Finished.append (h : Finished i later) (more : List RealmEntry) :
    Finished i (later ++ more) := by
  obtain ⟨l₁,snapshot,l₂,l₃,rfl⟩ := h
  exact ⟨l₁,snapshot,l₂,l₃ ++ more,by simp⟩

theorem Since.step (h : Since g i now later) (hs : GateStep lib interval g entry g') :
    Since g' i now (later ++ [entry]) := by
  cases h with
  | finished h => exact .finished (h.append _)
  | @leaving l₁ l₂ snapshot hin hl =>
    have hl' : later ++ [entry] = l₁ ++ (i,⟨.publish snapshot,()⟩) :: (l₂ ++ [entry]) := by
      simp [hl]
    cases hs with
    | time j now' => exact .leaving hin hl'
    | refused j => exact .leaving hin hl'
    | load j => exact .leaving hin hl'
    | enter j hfree => simp [hin] at hfree
    | notDue now' hin' hdue => simp [hin] at hin'
    | isDue now' hin' hdue => simp [hin] at hin'
    | start hin' => simp [hin] at hin'
    | build hin' ev hev => simp [hin] at hin'
    | publish hin' hbuild => simp [hin] at hin'
    | leave hin' =>
      simp only [hin,Option.some.injEq,Prod.mk.injEq,and_true] at hin'
      subst hin'
      exact .finished ⟨l₁,snapshot,l₂,[],hl'⟩
  | @refreshing build hin h =>
    cases hs with
    | time j now' => exact .refreshing hin (h.pass rfl rfl (by simp [buildCalls,Building]))
    | refused j => exact .refreshing hin (h.pass rfl rfl (by simp [buildCalls,Building]))
    | load j => exact .refreshing hin (h.pass rfl rfl (by simp [buildCalls,Building]))
    | enter j hfree => simp [hin] at hfree
    | notDue now' hin' hdue => simp [hin] at hin'
    | isDue now' hin' hdue => simp [hin] at hin'
    | start hin' => simp [hin] at hin'
    | leave hin' => simp [hin] at hin'
    | build hin' ev hev =>
      simp only [hin,Option.some.injEq,Prod.mk.injEq,GatePhase.refreshing.injEq] at hin'
      obtain ⟨rfl,rfl,rfl⟩ := hin'
      exact .refreshing rfl (h.building hev)
    | publish hin' hbuild =>
      simp only [hin,Option.some.injEq,Prod.mk.injEq,GatePhase.refreshing.injEq] at hin'
      obtain ⟨rfl,rfl,rfl⟩ := hin'
      exact .leaving rfl rfl

def Gate.underway (g : Gate) : List Nat :=
  match g.holder with
  | some (i,.refreshing _ _) => [i]
  | _ => []

section
variable (hfirst : first.holder = none)
include hfirst

theorem found_due (h : Path (GateStep lib interval) first log g)
    (hin : g.holder = some (i,.found now)) : interval ≠ 0 ∧ g.nextUpdate ≤ now := by
  induction h with
  | nil => simp [hfirst] at hin
  | snoc h hstep ih =>
    cases hstep with
    | time j now' => exact ih hin
    | refused j => exact ih hin
    | load j => exact ih hin
    | enter j hfree => simp at hin
    | notDue now' hin' hdue => simp at hin
    | isDue now' hin' hdue =>
      simp only [Option.some.injEq,Prod.mk.injEq,GatePhase.found.injEq] at hin
      rw [← hin.2]
      exact hdue
    | start hin' => simp at hin
    | build hin' ev hev => simp at hin
    | publish hin' hbuild => simp at hin
    | leave hin' => simp at hin

/-- Every refresh that was started put the next one off by the interval, and is where
`Since` says. -/
theorem started_since (h : Path (GateStep lib interval) first log g) {l₁ : List RealmEntry}
    (hsplit : log = l₁ ++ (i,⟨.setNextUpdate now,()⟩) :: later) :
    interval ≠ 0 ∧ now+interval.toNat ≤ g.nextUpdate ∧ Since g i now later := by
  induction h generalizing later with
  | nil => simp at hsplit
  | @snoc log g g' entry h hstep ih =>
    rcases snoc_split hsplit with ⟨rfl,rfl,rfl⟩ | ⟨later',rfl,hold⟩
    · cases hstep with
      | start hin =>
        exact ⟨(found_due hfirst h hin).1,le_refl _,.refreshing rfl ⟨rfl,rfl,rfl⟩⟩
      | build hin ev hev => cases hev
    · obtain ⟨hinterval,hnext,hsince⟩ := ih hold
      refine ⟨hinterval,?_,hsince.step hstep⟩
      -- the next refresh is only ever put off
      cases hstep with
      | start hin =>
        have hdue := (found_due hfirst h hin).2
        simp only
        omega
      | _ => exact hnext

theorem refreshing_started (h : Path (GateStep lib interval) first log g)
    (hin : g.holder = some (i,.refreshing now build)) :
    ∃ l₁ l₂, log = l₁ ++ (i,⟨.setNextUpdate now,()⟩) :: l₂ ∧ Undisturbed i build l₂ := by
  induction h generalizing build with
  | nil => simp [hfirst] at hin
  | @snoc log g g' entry h hstep ih =>
    have hpass : Realmd.starts [entry] = [] → Realmd.published [entry] = [] →
        buildCalls i [entry] = [] → g.holder = some (i,.refreshing now build) →
        ∃ l₁ l₂, log ++ [entry] = l₁ ++ (i,⟨.setNextUpdate now,()⟩) :: l₂ ∧
          Undisturbed i build l₂ := by
      intro hs hp hb hin
      obtain ⟨l₁,l₂,rfl,hund⟩ := ih hin
      exact ⟨l₁,l₂ ++ [entry],by simp,hund.pass hs hp hb⟩
    cases hstep with
    | time j now' => exact hpass rfl rfl (by simp [buildCalls,Building]) hin
    | refused j => exact hpass rfl rfl (by simp [buildCalls,Building]) hin
    | load j => exact hpass rfl rfl (by simp [buildCalls,Building]) hin
    | enter j hfree => simp at hin
    | notDue now' hin' hdue => simp at hin
    | isDue now' hin' hdue => simp at hin
    | start hin' =>
      simp only [Option.some.injEq,Prod.mk.injEq,GatePhase.refreshing.injEq] at hin
      obtain ⟨rfl,rfl,rfl⟩ := hin
      exact ⟨log,[],rfl,rfl,rfl,rfl⟩
    | build hin' ev hev =>
      simp only [Option.some.injEq,Prod.mk.injEq,GatePhase.refreshing.injEq] at hin
      obtain ⟨rfl,rfl,rfl⟩ := hin
      obtain ⟨l₁,l₂,rfl,hund⟩ := ih hin'
      exact ⟨l₁,l₂ ++ [_],by simp,hund.building hev⟩
    | publish hin' hbuild => simp at hin
    | leave hin' => simp at hin

theorem starts_published (h : Path (GateStep lib interval) first log g) :
    (starts log).map Prod.fst = (published log).map Prod.fst ++ g.underway := by
  induction h with
  | nil => simp [starts,published,Gate.underway,hfirst]
  | @snoc log g g' entry h hstep ih =>
    rw [starts_append,published_append,List.map_append,List.map_append,ih]
    cases hstep with
    | time j now' => simp [starts,published]
    | refused j => simp [starts,published]
    | load j => simp [starts,published]
    | enter j hfree => simp [starts,published,Gate.underway,hfree]
    | notDue now' hin hdue => simp [starts,published,Gate.underway,hin]
    | isDue now' hin hdue => simp [starts,published,Gate.underway,hin]
    | start hin => simp [starts,published,Gate.underway,hin]
    | @build j now' calls hin ev hev =>
      obtain ⟨hs,hp⟩ := building_entry j hev
      simp [hs,hp,Gate.underway,hin]
    | publish hin hbuild => simp [starts,published,Gate.underway,hin]
    | leave hin => simp [starts,published,Gate.underway,hin]

end

theorem snapshot_latest (h : Path (GateStep lib interval) first log g) :
    g.snapshot = latest first.snapshot (log.map Prod.snd) := by
  induction h with
  | nil => rfl
  | @snoc log g g' entry h hstep ih =>
    rw [List.map_append,latest_append,← ih]
    cases hstep with
    | build hin ev hev =>
      obtain ⟨call,reply⟩ := ev
      cases call <;> simp only [Building,Bool.false_eq_true] at hev <;> rfl
    | _ => rfl

theorem publications_map (l : List RealmEntry) :
    publications (l.map Prod.snd) = (published l).map Prod.snd := by
  induction l with
  | nil => rfl
  | cons entry l ih =>
    obtain ⟨i,call,reply⟩ := entry
    cases call <;> simpa [publications,published] using ih

def generations (first : RealmSnapshot) (log : List RealmEntry) : List RealmSnapshot :=
  first :: (published log).map Prod.snd

theorem generations_latest (first : RealmSnapshot) (l l' : List RealmEntry) :
    (generations first (l ++ l'))[(published l).length]? =
      some (latest first (l.map Prod.snd)) := by
  have hlen : (published l).length = (publications (l.map Prod.snd)).length := by
    rw [publications_map,List.length_map]
  have hlast : ∀ (x : RealmSnapshot) (xs : List RealmSnapshot),
      (x :: xs)[xs.length]? = some (xs.getLast?.getD x) := by
    intro x xs
    rcases List.eq_nil_or_concat' xs with rfl | ⟨ys,y,rfl⟩
    · rfl
    · simp
  rw [generations,published_append,List.map_append,← publications_map l,← List.cons_append,
    List.getElem?_append_left (by simp [hlen]),hlen]
  exact hlast first _

section
variable {l₁ l₂ l₃ : List RealmEntry} {j : Nat} {now' : Int} {snapshot : RealmSnapshot}

theorem starts_apart (hfirst : first.holder = none)
    (h : Path (GateStep lib interval) first log g)
    (hsplit : log = l₁ ++ (i,⟨.setNextUpdate now,()⟩) ::
      (l₂ ++ (j,⟨.setNextUpdate now',()⟩) :: l₃)) :
    Finished i l₂ ∧ now+interval.toNat ≤ now' := by
  rw [hsplit,← List.cons_append,← List.append_assoc] at h
  obtain ⟨g₁,g₂,hpath,hstep⟩ := h.split
  obtain ⟨-,hnext,hsince⟩ := started_since hfirst hpath rfl
  cases hstep with
  | build hin ev hev => cases hev
  | start hin =>
    have hdue := (found_due hfirst hpath hin).2
    refine ⟨?_,by omega⟩
    cases hsince with
    | refreshing hin' hund => simp [hin] at hin'
    | leaving hin' hl => simp [hin] at hin'
    | finished hfinished => exact hfinished

theorem published_built (hfirst : first.holder = none)
    (h : Path (GateStep lib interval) first log g)
    (hsplit : log = l₁ ++ (i,⟨.publish snapshot,()⟩) :: l₂) :
    ∃ l₃ now l₄ build, l₁ = l₃ ++ (i,⟨.setNextUpdate now,()⟩) :: l₄ ∧
      Undisturbed i build l₄ ∧ (buildSnapshot lib).Runs build snapshot := by
  rw [hsplit] at h
  obtain ⟨g₁,g₂,hpath,hstep⟩ := h.split
  cases hstep with
  | build hin ev hev => cases hev
  | publish hin hbuild =>
    obtain ⟨l₃,l₄,hl,hund⟩ := refreshing_started hfirst hpath hin
    exact ⟨l₃,_,l₄,_,hl,hund,hbuild⟩

theorem loaded_latest (h : Path (GateStep lib interval) first log g)
    (hsplit : log = l₁ ++ (i,⟨.load,snapshot⟩) :: l₂) :
    snapshot = latest first.snapshot (l₁.map Prod.snd) := by
  rw [hsplit] at h
  obtain ⟨g₁,g₂,hpath,hstep⟩ := h.split
  cases hstep with
  | build hin ev hev => cases hev
  | load j => exact snapshot_latest hpath

end

end

end Realmd
