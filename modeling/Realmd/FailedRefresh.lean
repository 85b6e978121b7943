import Realmd.RealmList
import Realmd.ReferenceLibrary
set_option autoImplicit false

namespace Realmd
open ByteCodec Interaction

def publications (calls : List RealmEvent) : List RealmSnapshot :=
  calls.filterMap fun ev =>
    match ev with
    | ⟨.publish snapshot,_⟩ => some snapshot
    | _ => none

def queries (calls : List RealmEvent) : List RealmResult :=
  calls.filterMap fun ev =>
    match ev with
    | ⟨.query,result⟩ => some result
    | _ => none

def latest (first : RealmSnapshot) (calls : List RealmEvent) : RealmSnapshot :=
  (publications calls).getLast?.getD first

/-- The realm list from the start of the server on: it is loaded, and requests find it
due for a refresh or not. -/
inductive RealmInput where
  | startup (updateInterval : UInt32)
  | request

def RealmInput.body (lib : RealmLibrary) : RealmInput → RealmProg Unit
  | .startup updateInterval => initializeRealms lib updateInterval
  | .request => do
      let _ ← updateIfNeed lib
      return ()

structure RealmRun where
  before : RealmList
  calls : List RealmEvent
  after : RealmList

def RealmRun.failed (run : RealmRun) : Prop := .failed ∈ queries run.calls

instance (run : RealmRun) : Decidable run.failed :=
  inferInstanceAs (Decidable (_ ∈ _))

def runRealmInputs {δ : Type} (lib : RealmLibrary) (outside : Env RealmCall RealmReply δ) :
    List RealmInput → RealmList × δ → List RealmRun × (RealmList × δ)
  | [], w => ([],w)
  | input :: inputs, w =>
      let o := (input.body lib).exec (realmEnv outside) w
      let later := runRealmInputs lib outside inputs o.env
      (⟨w.1,o.calls,o.env.1⟩ :: later.1,later.2)

/-- The snapshot of the last query that did not fail, of all runs. -/
def lastBuilt (good : RealmSnapshot) (runs : List RealmRun) : RealmSnapshot :=
  runs.foldl (fun good run => if run.failed then good else latest good run.calls) good

section
variable {lib : RealmLibrary} {δ : Type} {outside : Env RealmCall RealmReply δ}
  {t : List RealmEvent}

theorem publications_append (t t' : List RealmEvent) :
    publications (t ++ t') = publications t ++ publications t' := by
  simp [publications]

theorem queries_append (t t' : List RealmEvent) :
    queries (t ++ t') = queries t ++ queries t' := by
  simp [queries]

theorem realmEnv_snapshot (c : RealmCall) (w : RealmList × δ) :
    (realmEnv outside c w).2.1.m_snapshot =
      latest w.1.m_snapshot [⟨c,(realmEnv outside c w).1⟩] := by
  obtain ⟨realms,d⟩ := w
  cases c with
  | tryLock =>
    cases hm : realms.m_mutex <;> simp [realmEnv,hm,latest,publications]
  | _ => rfl

theorem latest_append (first : RealmSnapshot) (t t' : List RealmEvent) :
    latest first (t ++ t') = latest (latest first t) t' := by
  unfold latest
  rw [publications_append,List.getLast?_append]
  cases (publications t').getLast? <;> rfl

theorem exec_snapshot {α : Type} (p : RealmProg α) (w : RealmList × δ) :
    (p.exec (realmEnv outside) w).env.1.m_snapshot =
      latest w.1.m_snapshot (p.exec (realmEnv outside) w).calls := by
  induction p generalizing w with
  | ret a => rfl
  | ask c k ih =>
    simp only [Prog.exec]
    rw [ih,realmEnv_snapshot,← latest_append]
    rfl

theorem resolveRealmAddress_meets (host : Bytes) (port : UInt16) :
    (resolveRealmAddress lib host port).Meets (∃ host, · = .getaddrinfo host)
      fun _ => True := by
  unfold resolveRealmAddress
  split
  · trivial
  · exact ⟨⟨host,rfl⟩,fun _ => trivial⟩

theorem buildRows_meets (snapshot : RealmSnapshot) (rows : List RealmRow) :
    (buildRows lib snapshot rows).Meets (∃ host, · = .getaddrinfo host) fun _ => True := by
  induction rows generalizing snapshot with
  | nil => trivial
  | cons row rows ih =>
    refine (resolveRealmAddress_meets _ _).bind fun externalAddr _ => ?_
    refine (resolveRealmAddress_meets _ _).bind fun localAddr _ => ?_
    refine (resolveRealmAddress_meets _ _).bind fun submask _ => ?_
    exact ih _

/-- Everything some calls of the realm list can do to its snapshot: nothing, or one query
and the publication of what was built from its rows. -/
inductive RefreshSpec (lib : RealmLibrary) (t : List RealmEvent) : Prop where
  | idle (hq : queries t = []) (hp : publications t = [])
  | refreshed (result : RealmResult) (build : List RealmEvent) (snapshot : RealmSnapshot)
      (hq : queries t = [result]) (hp : publications t = [snapshot])
      (hbuild : (buildRows lib .empty result.rows).Runs build snapshot)

theorem buildRows_silent {snapshot snapshot' : RealmSnapshot} {rows : List RealmRow}
    (h : (buildRows lib snapshot rows).Runs t snapshot') :
    queries t = [] ∧ publications t = [] := by
  have hcalls := ((buildRows_meets snapshot rows).runs h).1
  constructor
  · rw [queries,List.filterMap_eq_nil_iff]
    rintro ⟨call,reply⟩ hmem
    obtain ⟨host,hc⟩ := hcalls _ hmem
    cases hc
    rfl
  · rw [publications,List.filterMap_eq_nil_iff]
    rintro ⟨call,reply⟩ hmem
    obtain ⟨host,hc⟩ := hcalls _ hmem
    cases hc
    rfl

theorem refreshSnapshot_runs {u : Unit} (h : (refreshSnapshot lib).Runs t u) :
    ∃ (result : RealmResult) (build : List RealmEvent) (snapshot : RealmSnapshot),
      t = ⟨.query,result⟩ :: (build ++ [⟨.publish snapshot,()⟩]) ∧
      (buildRows lib .empty result.rows).Runs build snapshot := by
  obtain ⟨result,t₁,rfl,h⟩ := h
  obtain ⟨build,t₂,snapshot,rfl,hbuild,_,t₃,rfl,rfl,-⟩ :=
    (Prog.runs_bind (p := buildRows lib .empty result.rows)).mp h
  exact ⟨result,build,snapshot,rfl,hbuild⟩

theorem RefreshSpec.surrounded {u : Unit} (pre : List RealmEvent) {post : List RealmEvent}
    (h : (refreshSnapshot lib).Runs t u) (hpre : queries pre = [] ∧ publications pre = [])
    (hpost : queries post = [] ∧ publications post = []) :
    RefreshSpec lib (pre ++ (t ++ post)) := by
  obtain ⟨result,build,snapshot,rfl,hbuild⟩ := refreshSnapshot_runs h
  obtain ⟨hq,hp⟩ := buildRows_silent hbuild
  refine .refreshed result build snapshot ?_ ?_ hbuild
  · rw [queries_append,queries_append,hpre.1,hpost.1]
    change [result] ++ queries (build ++ [⟨.publish snapshot,()⟩]) ++ [] = [result]
    rw [queries_append,hq]
    rfl
  · rw [publications_append,publications_append,hpre.2,hpost.2]
    change publications (build ++ [⟨.publish snapshot,()⟩]) ++ [] = [snapshot]
    rw [publications_append,hp]
    rfl

theorem RealmInput.body_runs {input : RealmInput} {u : Unit}
    (h : (input.body lib).Runs t u) : RefreshSpec lib t := by
  cases input with
  | startup updateInterval =>
    obtain ⟨t₁,t₂,_,rfl,hrefresh,now,t₃,rfl,_,t₄,rfl,rfl,-⟩ :=
      (Prog.runs_bind (p := refreshSnapshot lib)).mp h
    exact RefreshSpec.surrounded [] hrefresh ⟨rfl,rfl⟩ ⟨rfl,rfl⟩
  | request =>
    obtain ⟨t₁,t₂,_,rfl,hupdate,rfl,-⟩ := (Prog.runs_bind (p := updateIfNeed lib)).mp h
    rw [List.append_nil]
    obtain ⟨now,t₃,rfl,locked,t₄,rfl,hupdate⟩ := hupdate
    cases locked with
    | false =>
      obtain ⟨rfl,-⟩ := hupdate
      exact .idle rfl rfl
    | true =>
      obtain ⟨isDue,t₅,rfl,hupdate⟩ := hupdate
      cases isDue with
      | false =>
        obtain ⟨_,t₆,rfl,rfl,-⟩ := hupdate
        exact .idle rfl rfl
      | true =>
        obtain ⟨_,t₆,rfl,hupdate⟩ := hupdate
        obtain ⟨t₇,t₈,_,rfl,hrefresh,_,t₉,rfl,rfl,-⟩ :=
          (Prog.runs_bind (p := refreshSnapshot lib)).mp hupdate
        exact RefreshSpec.surrounded
          [⟨.time,now⟩,⟨.tryLock,true⟩,⟨.due now,true⟩,⟨.setNextUpdate now,()⟩]
          hrefresh ⟨rfl,rfl⟩ ⟨rfl,rfl⟩

theorem RealmInput.exec_spec (lib : RealmLibrary) (outside : Env RealmCall RealmReply δ)
    (input : RealmInput) (w : RealmList × δ) :
    RefreshSpec lib ((input.body lib).exec (realmEnv outside) w).calls ∧
      ((input.body lib).exec (realmEnv outside) w).env.1.m_snapshot =
        latest w.1.m_snapshot ((input.body lib).exec (realmEnv outside) w).calls :=
  ⟨RealmInput.body_runs (Prog.exec_runs _ _ _),exec_snapshot _ w⟩

theorem RefreshSpec.latest_failed (h : RefreshSpec lib t) (hfailed : .failed ∈ queries t)
    (first : RealmSnapshot) : latest first t = .empty := by
  cases h with
  | idle hq hp => simp [hq] at hfailed
  | refreshed result build snapshot hq hp hbuild =>
    rw [hq,List.mem_singleton] at hfailed
    subst hfailed
    obtain ⟨-,rfl⟩ := hbuild
    rw [latest,hp]
    rfl

theorem runRealmInputs_ran (inputs : List RealmInput) (w : RealmList × δ) :
    ∀ run ∈ (runRealmInputs lib outside inputs w).1,
      RefreshSpec lib run.calls ∧
        run.after.m_snapshot = latest run.before.m_snapshot run.calls := by
  induction inputs generalizing w with
  | nil => simp [runRealmInputs]
  | cons input inputs ih =>
    intro run hmem
    rcases List.mem_cons.mp hmem with rfl | hlater
    · exact input.exec_spec lib outside w
    · exact ih _ run hlater

/-- The published snapshot stays like that of the last query that did not fail, if
every query that fails finds a snapshot that is as good as an empty one. -/
theorem runRealmInputs_like {E : RealmSnapshot → RealmSnapshot → Prop} (hrefl : ∀ s, E s s)
    (inputs : List RealmInput) {w : RealmList × δ} {good : RealmSnapshot}
    (hstart : E w.1.m_snapshot good)
    (hfailed : ∀ run ∈ (runRealmInputs lib outside inputs w).1, run.failed →
      ∀ good, E run.before.m_snapshot good → E .empty good) :
    E (runRealmInputs lib outside inputs w).2.1.m_snapshot
      (lastBuilt good (runRealmInputs lib outside inputs w).1) := by
  induction inputs generalizing w good with
  | nil => exact hstart
  | cons input inputs ih =>
    obtain ⟨hspec,hafter⟩ := input.exec_spec lib outside w
    refine ih ?_ fun run hmem => hfailed run (List.mem_cons_of_mem _ hmem)
    have hhead := hfailed _ List.mem_cons_self
    rw [hafter]
    beta_reduce
    split
    · rename_i hf
      rw [hspec.latest_failed hf]
      exact hhead hf good hstart
    · cases hspec with
      | idle hq hp => simpa [latest,hp] using hstart
      | refreshed result build snapshot hq hp hbuild =>
        simp only [latest,hp]
        exact hrefl _

end

/-- A refresh whose query fails leaves the realms of every build as they are exactly if
no build had any. In a run in which every failing query finds the list so, every build
keeps the realms of the last query that succeeded, and the published snapshot is the one
built from it if those that fail find an empty one. -/
theorem failed_refresh_keeps_iff {δ : Type} (lib : RealmLibrary)
    (outside : Env RealmCall RealmReply δ) (inputs : List RealmInput) (d : δ) :
    let out := runRealmInputs lib outside inputs (.fresh,d)
    (∀ run ∈ out.1, run.failed →
      ((∀ build, run.after.realmsForBuild build = run.before.realmsForBuild build) ↔
        ∀ build, run.before.realmsForBuild build = [])) ∧
    ((∀ run ∈ out.1, run.failed → ∀ build, run.before.realmsForBuild build = []) →
      ∀ build, out.2.1.realmsForBuild build =
        (lastBuilt .empty out.1).view (belongsToVersion build)) ∧
    ((∀ run ∈ out.1, run.failed → run.before.m_snapshot = .empty) →
      out.2.1.m_snapshot = lastBuilt .empty out.1) := by
  intro out
  refine ⟨?_,?_,?_⟩
  · intro run hmem hf
    obtain ⟨hspec,hafter⟩ := runRealmInputs_ran inputs _ run hmem
    have hnone : ∀ build, run.after.realmsForBuild build = [] := by
      intro build
      rw [RealmList.realmsForBuild,hafter,hspec.latest_failed hf]
      rfl
    constructor
    · intro hsame build
      rw [← hsame,hnone]
    · intro hempty build
      rw [hempty,hnone]
  · intro hcond
    refine runRealmInputs_like (E := fun s good => ∀ build,
      s.view (belongsToVersion build) = good.view (belongsToVersion build)) (fun _ _ => rfl)
      inputs (fun _ => rfl) ?_
    intro run hmem hf good hlike build
    rw [← hlike]
    exact (hcond run hmem hf build).symm
  · intro hcond
    refine runRealmInputs_like (fun _ => rfl) inputs rfl ?_
    rintro run hmem hf good rfl
    exact (hcond run hmem hf).symm

def listedRow : RealmRow :=
  ⟨1,ascii "Sample",ascii "10.0.0.5",ascii "192.168.0.5",ascii "255.255.255.0",8085,1,0,2,0,0,
    ascii "6141"⟩

def failingDatabase : Env RealmCall RealmReply Nat
  | .time, n => ((0 : Int),n)
  | .tryLock, n => (true,n)
  | .due _, n => (true,n)
  | .setNextUpdate _, n => ((),n)
  | .unlock, n => ((),n)
  | .reset _ _, n => ((),n)
  | .query, 0 => (RealmResult.fetched [listedRow],1)
  | .query, n => (RealmResult.failed,n)
  | .getaddrinfo _, n => ((none : Option UInt32),n)
  | .publish _, n => ((),n)
  | .load, n => (RealmSnapshot.empty,n)

def referenceRealmLibrary : RealmLibrary :=
  { referenceLibrary with
    strSplit := fun text => (text.splitOn 32).filter (· ≠ []) }

/-- The refresh after the start empties the list. -/
theorem failed_refresh_empties :
    ¬ ∀ run ∈ (runRealmInputs referenceRealmLibrary failingDatabase
        [.startup 20,.request] (.fresh,0)).1,
      run.failed →
        ∀ build, run.after.realmsForBuild build = run.before.realmsForBuild build := by
  intro hkeeps
  have hlast : ((runRealmInputs referenceRealmLibrary failingDatabase
      [.startup 20,.request] (.fresh,0)).1[1]?.map fun run => (decide run.failed,
        (run.before.realmsForBuild 6141).length,(run.after.realmsForBuild 6141).length)) =
      some (true,1,0) := by decide +kernel
  obtain ⟨run,hrun,heq⟩ := Option.map_eq_some_iff.mp hlast
  simp only [Prod.mk.injEq,decide_eq_true_eq] at heq
  have hsame := hkeeps run (List.mem_of_getElem? hrun) heq.1 6141
  rw [hsame,heq.2.1] at heq
  omega

end Realmd
