import Realmd.ProgramLogic
import Realmd.RealmFamily
import Realmd.RealmRefresh
set_option autoImplicit false

namespace Realmd
open ByteCodec Interaction

/-- What the realm list has of its table: the rows it read last, and those it shows. -/
structure TableReads where
  read : List RealmRow
  shown : List RealmRow

/-- A query reads, and a publication shows what was read. -/
def TableReads.next (table : TableReads) : RealmEvent → TableReads
  | ⟨.query,result⟩ => { table with read := RealmResult.rows result }
  | ⟨.publish _,_⟩ => { table with shown := table.read }
  | _ => table

def tableReads (steps : List RealmEvent) : TableReads := steps.foldl TableReads.next ⟨[],[]⟩

section
variable (lib : RealmLibrary)

def RealmRow.numbers (row : RealmRow) : List Nat :=
  (lib.strSplit row.realmbuilds).map fun token => strtoul token%2^32

def RealmRow.firstNumber (row : RealmRow) : Nat := (row.numbers lib).min?.getD 0

def RealmRow.buildInfoFor (row : RealmRow) (build : UInt16) : RealmBuildInfo :=
  (if build.toNat ∈ row.numbers lib then findBuildInfo build else none).getD
    ((findBuildInfo (UInt16.ofNat (row.firstNumber lib))).getD
      ⟨row.firstNumber lib%65536,0,0,0,32⟩)

/-- The rows a client of some build is to see. -/
def rowsFor (rows : List RealmRow) (build : UInt16) : List RealmRow :=
  rows.filter fun row => smallestFamily (row.numbers lib) = some (belongsToVersion build.toNat)

def Resolves (steps : List RealmEvent) (host : Bytes) (port : UInt16) (address : RealmAddress) :
    Prop :=
  ∃ t ⊆ steps, (resolveRealmAddress lib host port).Runs t address

/-- What a client is to see of a row, with an address that was found before, and the number
of characters its own session was told since. -/
structure ShowsRow (s : Session) (account : UInt32) (steps : List RealmEvent) (i : Nat)
    (since : List (Nat × ListEvent)) (row : RealmRow) (shown : ShownRealm) : Prop where
  icon : shown.icon = row.icon.toNat
  name : shown.name = row.name ++
    if isPreTbc s.build = true ∧ row.realmflags &&& realmFlagSpecifyBuild ≠ 0 then
      versionSuffix (row.buildInfoFor lib s.build)
    else []
  address : ∃ realm : Realm,
    Resolves lib steps row.address row.port.toUInt16 realm.externalAddress ∧
    Resolves lib steps row.localAddress row.port.toUInt16 realm.localAddress ∧
    Resolves lib steps row.localSubnetMask 0 realm.localSubnetMask ∧
    shown.address = lib.getAddressString (getAddressForClient lib.toSharedLibrary realm
      (parseClientIPv4 lib.toSharedLibrary s.remote_address)).ip row.port.toUInt16
  populationLevel : shown.populationLevel = row.population.toNat
  amountOfCharacters : ∃ numchars : Option UInt8,
    (i,⟨.auth (.selectNumChars row.id account),numchars⟩) ∈ since ∧
      shown.amountOfCharacters = numchars.getD 0
  timezone : shown.timezone = row.timezone
  offline : shown.flags &&& realmFlagOffline ≠ 0 ↔
    row.realmflags &&& realmFlagOffline ≠ 0 ∨ s.build.toNat ∉ row.numbers lib ∨
      isPreTbc s.build = true ∧
        clampSecurity lib.toSharedLibrary row.allowedSecurityLevel > s.accountSecurityLevel
  flags : shown.flags ||| realmFlagOffline =
    row.realmflags &&& realmFlagMask ||| realmFlagOffline
  lock : shown.lock = if isPreTbc s.build then none else
    some (if clampSecurity lib.toSharedLibrary row.allowedSecurityLevel > s.accountSecurityLevel
      then 1 else 0)
  version : shown.version =
    if isPreTbc s.build = false ∧ row.realmflags &&& realmFlagSpecifyBuild ≠ 0 then
      let info := row.buildInfoFor lib s.build
      some (UInt8.ofNat info.major_version,UInt8.ofNat info.minor_version,
        UInt8.ofNat info.bugfix_version,s.build.toNat)
    else none

/-- What is published was built of the rows shown, and what a refresh is building it builds
of the rows read. -/
structure TableKnown (steps : List RealmEvent) (g : Gate) : Prop where
  built : ∃ build ⊆ steps, (buildRows lib .empty (tableReads steps).shown).Runs build g.snapshot
  read : ∀ {i now build}, g.holder = some (i,.refreshing now build) → build ⊆ steps ∧
    ∀ {result}, (queries build).getLast? = some result → (tableReads steps).read = result.rows

end

section
variable {lib : RealmLibrary} {interval : UInt32} {steps : List RealmEvent}

theorem tableReads_snoc (steps : List RealmEvent) (ev : RealmEvent) :
    tableReads (steps ++ [ev]) = (tableReads steps).next ev := by
  simp [tableReads]

theorem buildSnapshot_runs {build : List RealmEvent} {snapshot : RealmSnapshot}
    (h : (buildSnapshot lib).Runs build snapshot) :
    ∃ result rest, build = ⟨.query,result⟩ :: rest ∧ queries build = [result] ∧
      (buildRows lib .empty result.rows).Runs rest snapshot := by
  obtain ⟨result,rest,rfl,hrows⟩ := h
  refine ⟨result,rest,rfl,?_,hrows⟩
  change result :: queries rest = [result]
  rw [(buildRows_silent hrows).1]

theorem TableKnown.pass {g g' : Gate} {ev : RealmEvent} (h : TableKnown lib steps g)
    (hev : ∀ table : TableReads, table.next ev = table) (hsnapshot : g'.snapshot = g.snapshot)
    (hholder : ∀ {i now build}, g'.holder = some (i,.refreshing now build) →
      g.holder = some (i,.refreshing now build)) :
    TableKnown lib (steps ++ [ev]) g' := by
  have htable : tableReads (steps ++ [ev]) = tableReads steps := by
    rw [tableReads_snoc,hev]
  constructor
  · obtain ⟨build,hsub,hbuild⟩ := h.built
    refine ⟨build,List.subset_append_of_subset_left _ hsub,?_⟩
    rwa [htable,hsnapshot]
  · intro i now build hin
    obtain ⟨hsub,hread⟩ := h.read (hholder hin)
    refine ⟨List.subset_append_of_subset_left _ hsub,?_⟩
    rwa [htable]

theorem TableKnown.step {g g' : Gate} {entry : RealmEntry} (h : TableKnown lib steps g)
    (hstep : GateStep lib interval g entry g') : TableKnown lib (steps ++ [entry.2]) g' := by
  cases hstep with
  | time i now => exact h.pass (fun _ => rfl) rfl id
  | refused i => exact h.pass (fun _ => rfl) rfl id
  | load i => exact h.pass (fun _ => rfl) rfl id
  | enter i hfree => exact h.pass (fun _ => rfl) rfl (by simp)
  | notDue now hin hdue => exact h.pass (fun _ => rfl) rfl (by simp)
  | isDue now hin hdue => exact h.pass (fun _ => rfl) rfl (by simp)
  | leave hin => exact h.pass (fun _ => rfl) rfl (by simp)
  | @start i now hin =>
    obtain ⟨build,hsub,hbuild⟩ := h.built
    have htable : tableReads (steps ++ [⟨.setNextUpdate now,()⟩]) = tableReads steps :=
      tableReads_snoc steps _
    refine ⟨⟨build,List.subset_append_of_subset_left _ hsub,by rwa [htable]⟩,?_⟩
    intro j now' build' hin'
    simp only [Option.some.injEq,Prod.mk.injEq,GatePhase.refreshing.injEq] at hin'
    obtain ⟨rfl,rfl,rfl⟩ := hin'
    exact ⟨List.nil_subset _,by simp [queries]⟩
  | @build i now calls hin ev hev =>
    obtain ⟨hcalls,hread⟩ := h.read hin
    have hshown : (tableReads (steps ++ [ev])).shown = (tableReads steps).shown := by
      obtain ⟨call,reply⟩ := ev
      rw [tableReads_snoc]
      cases call <;> first | rfl | cases hev
    obtain ⟨build,hsub,hbuild⟩ := h.built
    refine ⟨⟨build,List.subset_append_of_subset_left _ hsub,by rwa [hshown]⟩,?_⟩
    intro j now' build' hin'
    simp only [Option.some.injEq,Prod.mk.injEq,GatePhase.refreshing.injEq] at hin'
    obtain ⟨rfl,rfl,rfl⟩ := hin'
    refine ⟨List.append_subset.mpr ⟨List.subset_append_of_subset_left _ hcalls,
      List.subset_append_right _ _⟩,?_⟩
    intro result hlast
    rw [queries_append] at hlast
    rw [tableReads_snoc]
    obtain ⟨call,reply⟩ := ev
    cases call with
    | query =>
      have hresult : some reply = some result := by simpa [queries] using hlast
      rw [← Option.some.inj hresult]
      rfl
    | getaddrinfo host => exact hread (by simpa [queries] using hlast)
    | _ => cases hev
  | @publish i now calls snapshot hin hbuild =>
    obtain ⟨hcalls,hread⟩ := h.read hin
    obtain ⟨result,rest,rfl,hquery,hrows⟩ := buildSnapshot_runs hbuild
    have hshown : (tableReads (steps ++ [⟨.publish snapshot,()⟩])).shown = result.rows := by
      rw [tableReads_snoc]
      exact hread (by simp [hquery])
    refine ⟨⟨rest,?_,by rwa [hshown]⟩,by simp⟩
    exact List.subset_append_of_subset_left _ (List.subset_of_cons_subset hcalls)

theorem TableKnown.path {first g : Gate} {log : List RealmEntry}
    (h : TableKnown lib steps first) (hpath : Path (GateStep lib interval) first log g) :
    TableKnown lib (steps ++ log.map Prod.snd) g := by
  induction hpath with
  | nil => simpa using h
  | snoc hpath hstep ih =>
    rw [List.map_append,← List.append_assoc]
    exact ih.step hstep

section
variable {δ : Type} {outside : Env RealmCall RealmReply δ}

theorem exec_mutex {α : Type} {p : RealmProg α} {Q : α → Prop}
    (h : p.Meets (fun c => c ≠ .tryLock ∧ c ≠ .unlock) Q) (w : RealmList × δ) :
    (p.exec (realmEnv outside) w).env.1.m_mutex = w.1.m_mutex := by
  induction p generalizing w with
  | ret a => rfl
  | ask c k ih =>
    obtain ⟨⟨htry,hunlock⟩,hk⟩ := h
    simp only [Prog.exec]
    rw [ih _ (hk _)]
    cases c <;> first | rfl | contradiction

theorem tableReads_resolving {t : List RealmEvent}
    (h : ∀ ev ∈ t, ∃ host, ev.call = .getaddrinfo host) (table : TableReads) :
    t.foldl TableReads.next table = table := by
  induction t with
  | nil => rfl
  | cons ev t ih =>
    obtain ⟨host,hhost⟩ := h ev List.mem_cons_self
    obtain ⟨call,reply⟩ := ev
    subst hhost
    exact ih fun ev hmem => h ev (List.mem_cons_of_mem _ hmem)

def Refreshing : RealmCall → Bool
  | .publish _ => true
  | c => Building c

theorem refreshSnapshot_meets :
    (refreshSnapshot lib).Meets (Refreshing · = true) fun _ => True := by
  refine (buildSnapshot_meets.mono ?_ fun _ => id).bind fun _ _ => ⟨rfl,fun _ => trivial⟩
  intro c hc
  cases c <;> first | rfl | exact hc

theorem initializeRealms_meets (updateInterval : UInt32) :
    (initializeRealms lib updateInterval).Meets (fun c => c ≠ .tryLock ∧ c ≠ .unlock)
      fun _ => True := by
  refine (refreshSnapshot_meets.mono ?_ fun _ => id).bind fun _ _ =>
    ⟨by simp,fun _ => ⟨by simp,fun _ => trivial⟩⟩
  rintro c hc
  constructor <;> rintro rfl <;> cases hc

variable (lib outside) in
theorem initializeRealms_known (updateInterval : UInt32) (d : δ) :
    let o := (initializeRealms lib updateInterval).exec (realmEnv outside) (.fresh,d)
    o.env.1.m_mutex = false ∧ o.env.1.m_interval = updateInterval ∧
      TableKnown lib o.calls ⟨none,o.env.1.m_nextUpdate,o.env.1.m_snapshot⟩ := by
  intro o
  refine ⟨exec_mutex (initializeRealms_meets updateInterval) _,?_,?_,by simp⟩
  · simp only [o,initializeRealms,Prog.exec_bind]
    rfl
  have hruns : (initializeRealms lib updateInterval).Runs o.calls o.value :=
    Prog.exec_runs _ _ _
  have hsnapshot : o.env.1.m_snapshot = latest .empty o.calls := exec_snapshot _ _
  obtain ⟨t₁,t₂,_,hcalls,hrefresh,now,_,rfl,_,_,rfl,rfl,-⟩ := Prog.runs_bind.mp hruns
  obtain ⟨result,build,snapshot,rfl,hbuild⟩ := refreshSnapshot_runs hrefresh
  have hresolving := ((buildRows_meets _ _).runs hbuild).1
  have hshown : (tableReads o.calls).shown = result.rows := by
    rw [hcalls]
    simp [tableReads,tableReads_resolving hresolving,TableReads.next]
  have hlatest : o.env.1.m_snapshot = snapshot := by
    rw [hsnapshot,hcalls]
    simp [latest,publications]
  refine ⟨build,?_,by rw [hshown,hlatest]; exact hbuild⟩
  rw [hcalls]
  exact fun ev hmem => by simp [hmem]

end

section
variable {s : Session} {t t₁ t₂ : List AuthEvent} {r : Bool × Session} {reply : Bytes}

theorem mem_numCharsAsked {realmid acctid : UInt32} {numchars : Option UInt8} :
    (realmid,acctid,numchars) ∈ numCharsAsked t ↔
      ⟨.selectNumChars realmid acctid,numchars⟩ ∈ t := by
  rw [numCharsAsked,List.mem_filterMap]
  constructor
  · rintro ⟨⟨call,answer⟩,hmem,hev⟩
    cases call with
    | selectNumChars a b =>
      simp only [Option.some.injEq,Prod.mk.injEq] at hev
      obtain ⟨rfl,rfl,rfl⟩ := hev
      exact hmem
    | _ => cases hev
  · intro hmem
    exact ⟨_,hmem,rfl⟩

theorem realmList_request (h : (realmList lib.toSharedLibrary s).Runs t r)
    (hsplit : t = t₁ ++ ⟨.sender reply,()⟩ :: t₂) :
    ∃ (account : UInt32 × Bytes) (counts : List (Realm × Option UInt8)) (asked : List AuthEvent),
      t₁ = ⟨.selectAccountId s.safelogin,some account⟩ :: ⟨.updateRealmsIfNeed,()⟩ ::
        ⟨.getRealmsForBuild s.build.toNat,counts.map Prod.fst⟩ :: asked ∧
      realmsAsked asked = [] ∧
      numCharsAsked asked = counts.map (fun c => (c.1.m_ID,account.1,c.2)) ∧
      reply = realmListReply lib.toSharedLibrary s counts := by
  obtain ⟨found,t₃,rfl,h⟩ := h
  cases found with
  | none =>
    obtain ⟨-,-,-,ht⟩ := Session.close_runs h
    have hmem : ⟨.sender reply,()⟩ ∈ (⟨.selectAccountId s.safelogin,none⟩ : AuthEvent) :: t₃ := by
      simp [hsplit]
    rcases List.mem_cons.mp hmem with heq | hmem
    · cases heq
    · cases ht _ hmem
  | some account =>
    have hlast : (do
      let _ ← ask .updateRealmsIfNeed
      let pkt ← loadRealmlist lib.toSharedLibrary s account.1
      let s ← s.send ([AuthCmd.realmList.code] ++ leBytes 2 pkt.length ++ pkt)
      return (true,s) : AuthProg (Bool × Session)).Runs t₃ r := h
    obtain ⟨_,t₄,rfl,hnext⟩ := hlast
    obtain ⟨t₅,t₆,pkt,rfl,hload,hanswer⟩ :=
      (Prog.runs_bind (p := loadRealmlist lib.toSharedLibrary s account.1)).mp hnext
    obtain ⟨-,-,ht₆⟩ := Session.answer_runs hanswer
    obtain ⟨counts,hrealms,hchars,rfl⟩ := loadRealmlist_body hload
    have hquiet : (loadRealmlist lib.toSharedLibrary s account.1).Meets
        (fun c => ∀ bytes, c ≠ .sender bytes) fun _ => True :=
      loadRealmlist_meets s account.1 (by simp) (by simp)
    have hsilent := (hquiet.runs hload).1
    obtain ⟨realms,t₇,rfl,-⟩ := hload
    obtain ⟨hgiven,hnone⟩ := List.cons.inj hrealms
    obtain rfl : realms = counts.map Prod.fst := (Prod.mk.inj hgiven).2
    rw [← List.cons_append,← List.cons_append] at hsplit
    rcases append_split hsplit with ⟨x,hx⟩ | ⟨x,rfl,rfl⟩
    · have hmem : (⟨.sender reply,()⟩ : AuthEvent) ∈ t₁ ++ ⟨.sender reply,()⟩ :: x := by simp
      rw [← hx] at hmem
      simp only [List.mem_cons] at hmem
      rcases hmem with heq | heq | hmem
      · cases heq
      · cases heq
      · exact absurd rfl (hsilent _ (List.mem_cons.mpr hmem) reply)
    · obtain ⟨hrealms',hchars'⟩ := asked_sending (t := x) fun ev hmem =>
        ht₆ ev (List.mem_append_left _ hmem)
      refine ⟨account,counts,t₇ ++ x,rfl,?_,?_,?_⟩
      · rw [realmsAsked_append,hrealms']
        exact (List.append_nil _).trans hnone
      · rw [numCharsAsked_append,hchars',List.append_nil]
        exact hchars
      · rcases ht₆ ⟨.sender reply,()⟩ (by simp) with hc | hc <;> cases hc
        rfl

theorem serveRealmLists_request {n : Nat} (h : (serveRealmLists lib n s).Runs t r)
    (hsplit : t = t₁ ++ ⟨.sender reply,()⟩ :: t₂) :
    ∃ (s' : Session) (account : UInt32 × Bytes) (counts : List (Realm × Option UInt8))
      (before asked : List AuthEvent), s.Quiet s' ∧
      t₁ = before ++ ⟨.getRealmsForBuild s'.build.toNat,counts.map Prod.fst⟩ :: asked ∧
      ⟨.selectAccountId s'.safelogin,some account⟩ ∈ before ∧ realmsAsked asked = [] ∧
      numCharsAsked asked = counts.map (fun c => (c.1.m_ID,account.1,c.2)) ∧
      reply = realmListReply lib.toSharedLibrary s' counts := by
  induction n generalizing s t t₁ with
  | zero =>
    obtain ⟨rfl,-⟩ := h
    simp at hsplit
  | succ n ih =>
    obtain ⟨a,b,⟨ok,s₁⟩,rfl,hlist,hrest⟩ := Prog.runs_bind.mp h
    obtain ⟨hq,-,-⟩ := realmList_runs hlist
    rcases append_split hsplit with ⟨x,hx⟩ | ⟨x,rfl,hx⟩
    · obtain ⟨account,counts,asked,rfl,hnone,hchars,hreply⟩ := realmList_request hlist hx
      exact ⟨s,account,counts,[_,_],asked,.refl s,rfl,List.mem_cons_self,hnone,hchars,hreply⟩
    · cases ok with
      | false =>
        obtain ⟨rfl,-⟩ := hrest
        simp at hx
      | true =>
        obtain ⟨s',account,counts,before,asked,hq',rfl,haccount,hnone,hchars,hreply⟩ :=
          ih hrest hx
        exact ⟨s',account,counts,a ++ before,asked,hq.trans hq',(List.append_assoc ..).symm,
          List.mem_append_right _ haccount,hnone,hchars,hreply⟩

end

theorem updateIfNeed_loads : (updateIfNeed lib).Meets (· ≠ .load) fun _ => True := by
  refine ⟨by simp,fun now => ⟨by simp,fun locked => ?_⟩⟩
  cases locked with
  | false => trivial
  | true =>
    refine ⟨by simp,fun isDue => ?_⟩
    cases isDue with
    | false => exact ⟨by simp,fun _ => trivial⟩
    | true =>
      have hrefresh : (do
          refreshSnapshot lib
          let _ ← realmAsk .unlock
          return true : RealmProg Bool).Meets (· ≠ .load) fun _ => True := by
        refine (refreshSnapshot_meets.mono ?_ fun _ => id).bind fun _ _ =>
          ⟨by simp,fun _ => trivial⟩
        rintro c hc rfl
        cases hc
      exact ⟨by simp,fun _ => hrefresh⟩

theorem perform_loads {c : Call} (hc : ∀ build, c ≠ .getRealmsForBuild build) :
    (perform lib c).Meets (· ≠ .realm .load) fun _ => True := by
  cases c with
  | updateRealmsIfNeed =>
    have hupdate : ((updateIfNeed lib).expand realmStep).Meets (· ≠ .realm .load)
        fun _ => True :=
      updateIfNeed_loads.expand fun c hload => ⟨by simpa using hload,fun _ => trivial⟩
    exact hupdate.bind fun _ _ => trivial
  | getRealmsForBuild build => exact absurd rfl (hc build)
  | _ => exact ⟨by simp,fun _ => trivial⟩

theorem sessionBody_request {tag : Nat × Session} {r : Bool × Session} {reply : Bytes}
    {u₁ u₂ : List ListEvent}
    (h : (sessionBody lib tag).Runs (u₁ ++ ⟨.auth (.sender reply),()⟩ :: u₂) r) :
    ∃ (s : Session) (snapshot : RealmSnapshot) (account : UInt32 × Bytes)
      (counts : List (Realm × Option UInt8)) (before own : List ListEvent), tag.2.Quiet s ∧
      u₁ = before ++ ⟨.realm .load,snapshot⟩ :: own ∧ (∀ ev ∈ own, ev.call ≠ .realm .load) ∧
      ⟨.auth (.selectAccountId s.safelogin),some account⟩ ∈ before ∧
      counts.map Prod.fst = snapshot.view (belongsToVersion s.build.toNat) ∧
      (∀ c ∈ counts, ⟨.auth (.selectNumChars c.1.m_ID account.1),c.2⟩ ∈ own) ∧
      reply = realmListReply lib.toSharedLibrary s counts := by
  obtain ⟨t,hserve,hexpands⟩ := Prog.expand_runs h
  obtain ⟨t₁,t₂,rfl,hsplit⟩ := hexpands.split (fun c r v => perform_sends) rfl
  obtain ⟨s,account,counts,t₃,asked,hq,rfl,haccount,hnone,hchars,hreply⟩ :=
    serveRealmLists_request hserve rfl
  obtain ⟨before,rest,rfl,hbefore,hrest⟩ := hsplit.append_split
  cases hrest with
  | @cons c r t v own hload hown =>
    obtain ⟨snapshot,v',rfl,rfl,hrealms⟩ := hload
    refine ⟨s,snapshot,account,counts,before,own,hq,rfl,?_,?_,hrealms.symm,?_,hreply⟩
    · refine hown.meets fun ev hmem => perform_loads ?_
      rintro build hcall
      obtain ⟨call,realms⟩ := ev
      obtain rfl : call = .getRealmsForBuild build := hcall
      have hgiven : (build,realms) ∈ realmsAsked asked := List.mem_filterMap.mpr ⟨_,hmem,rfl⟩
      simp [hnone] at hgiven
    · obtain ⟨v,hruns,hsub⟩ := hbefore.mem haccount
      obtain ⟨_,_,rfl,rfl,rfl⟩ := hruns
      exact hsub List.mem_cons_self
    · intro c hc
      have hasked : ⟨.selectNumChars c.1.m_ID account.1,c.2⟩ ∈ asked := by
        rw [← mem_numCharsAsked,hchars]
        exact List.mem_map_of_mem hc
      obtain ⟨v,hruns,hsub⟩ := hown.mem hasked
      obtain ⟨_,_,rfl,rfl,rfl⟩ := hruns
      exact hsub List.mem_cons_self

structure RowMade (lib : RealmLibrary) (steps : List RealmEvent) (row : RealmRow)
    (realm : Realm) : Prop where
  updated : realm.Updated lib [] row realm.externalAddress realm.localAddress
    realm.localSubnetMask (row.realmflags &&& realmFlagMask)
    (clampSecurity lib.toSharedLibrary row.allowedSecurityLevel)
  external : Resolves lib steps row.address row.port.toUInt16 realm.externalAddress
  localAddress : Resolves lib steps row.localAddress row.port.toUInt16 realm.localAddress
  submask : Resolves lib steps row.localSubnetMask 0 realm.localSubnetMask

theorem RowsBuilt.made {rows : List RealmRow} {build : List RealmEvent} {realms : List Realm}
    (h : RowsBuilt lib rows build realms) (hsub : build ⊆ steps) :
    List.Forall₂ (RowMade lib steps) rows realms := by
  induction h with
  | nil => exact .nil
  | cons hexternal hlocal hmask hrealm hrows ih =>
    obtain ⟨h₁,hsub⟩ := List.append_subset.mp hsub
    obtain ⟨h₂,hsub⟩ := List.append_subset.mp hsub
    obtain ⟨h₃,hsub⟩ := List.append_subset.mp hsub
    exact .cons ⟨hrealm,⟨_,h₁,hexternal⟩,⟨_,h₂,hlocal⟩,⟨_,h₃,hmask⟩⟩ (ih hsub)

theorem resolveRealmAddress_port {host : Bytes} {port : UInt16} {t : List RealmEvent}
    {address : RealmAddress} (h : (resolveRealmAddress lib host port).Runs t address) :
    address.port = port := by
  unfold resolveRealmAddress at h
  split at h
  · obtain ⟨-,rfl⟩ := h
    rfl
  · obtain ⟨_,_,-,-,rfl⟩ := h
    rfl

theorem maskedFlags_kept (flags : UInt8) :
    flags &&& realmFlagMask &&& realmFlagOffline = flags &&& realmFlagOffline ∧
      flags &&& realmFlagMask &&& realmFlagSpecifyBuild = flags &&& realmFlagSpecifyBuild := by
  obtain ⟨bits⟩ := flags
  revert bits
  decide +kernel

namespace RowMade

variable {row : RealmRow} {realm : Realm} {s : Session}

theorem mem_builds (h : RowMade lib steps row realm) (build : Nat) :
    build ∈ realm.realmbuilds ↔ build ∈ row.numbers lib := by
  rw [h.updated.realmbuilds]
  simp [RealmRow.numbers]

theorem firstBuild_eq (h : RowMade lib steps row realm) :
    realm.firstBuild = row.firstNumber lib :=
  Realm.firstBuild_eq h.updated.ascending h.mem_builds

theorem listedIn_iff (h : RowMade lib steps row realm) (version : RealmVersion) :
    realm.ListedIn version ↔ smallestFamily (row.numbers lib) = some version :=
  Realm.listedIn_iff h.firstBuild_eq

theorem shownBuildInfo_eq (h : RowMade lib steps row realm) (build : UInt16) :
    shownBuildInfo realm build = row.buildInfoFor lib build := by
  have hok : okBuild realm build = true ↔ build.toNat ∈ row.numbers lib := by
    rw [okBuild,List.contains_iff_mem,h.mem_builds]
  unfold shownBuildInfo RealmRow.buildInfoFor
  rw [h.updated.realmBuildInfo,h.firstBuild_eq]
  simp only [hok]

theorem shows (h : RowMade lib steps row realm) {account : UInt32} {numchars : Option UInt8}
    {i : Nat} {since : List (Nat × ListEvent)} {shown : ShownRealm}
    (hshows : Shows lib.toSharedLibrary s realm (numchars.getD 0) shown)
    (hchars : (i,⟨.auth (.selectNumChars realm.m_ID account),numchars⟩) ∈ since) :
    ShowsRow lib s account steps i since row shown := by
  obtain ⟨hoffline,hspecify⟩ := maskedFlags_kept row.realmflags
  have hbuild := h.shownBuildInfo_eq s.build
  have hupdated := h.updated
  constructor
  case icon => rw [hshows.icon,hupdated.icon]
  case name => rw [hshows.name,hupdated.name,hupdated.realmflags,hspecify,hbuild]
  case address =>
    obtain ⟨t,hsub,hruns⟩ := h.external
    refine ⟨realm,h.external,h.localAddress,h.submask,?_⟩
    rw [hshows.address,resolveRealmAddress_port hruns]
  case populationLevel => rw [hshows.populationLevel,hupdated.populationLevel]
  case amountOfCharacters =>
    rw [hupdated.m_ID] at hchars
    exact ⟨numchars,hchars,hshows.amountOfCharacters⟩
  case timezone => rw [hshows.timezone,hupdated.timezone]
  case offline =>
    rw [hshows.offline,hupdated.realmflags,hoffline,h.mem_builds,hupdated.allowedSecurityLevel]
  case flags => rw [hshows.flags,hupdated.realmflags]
  case lock => rw [hshows.lock,hupdated.allowedSecurityLevel]
  case version => rw [hshows.version,hupdated.realmflags,hspecify,hbuild]

end RowMade

theorem realmListReply_decodes {lib : SharedLibrary} {s : Session}
    {counts : List (Realm × Option UInt8)} (hnames : ∀ c ∈ counts, 0 ∉ c.1.name)
    (haddress : ∀ ip port, 0 ∉ lib.getAddressString ip port)
    (hcount : counts.length < if isPreTbc s.build then 256 else 65536)
    (hbody : (realmListReply lib s counts).length ≤ 3+65535) :
    ∃ entries, (decodeRealmReply (isPreTbc s.build)).whole (realmListReply lib s counts) =
        some entries ∧
      List.Forall₂ (fun c shown => Shows lib s c.1 (c.2.getD 0) shown) counts entries := by
  obtain ⟨entries,hreads,hshows⟩ := realmListBody_reads hnames haddress hcount
  have hsize : (realmListBody lib s counts).length < 256^2 := by
    simp only [realmListReply,List.length_append,List.length_singleton,leBytes_length] at hbody
    omega
  refine ⟨entries,?_,hshows⟩
  rw [realmListReply,List.append_assoc]
  refine Decoder.Reads.whole (.bind (.byte _) ?_)
  rw [if_pos rfl]
  exact decodeRealmFrame_reads hsize hreads

/-- What a table is kept to: no two realms have one name, no name has a zero, and the oldest
layout can count its rows. -/
structure TableKept (rows : List RealmRow) : Prop where
  names : (rows.map RealmRow.name).Nodup
  nonzero : ∀ row ∈ rows, 0 ∉ row.name
  few : rows.length < 256

theorem TableKept.nil : TableKept [] := ⟨.nil,by simp,by decide⟩

theorem tableReads_kept {P : List RealmRow → Prop} {table : TableReads}
    (h : ∀ result : RealmResult, ⟨.query,result⟩ ∈ steps → P result.rows)
    (htable : P table.read ∧ P table.shown) :
    P (steps.foldl TableReads.next table).read ∧
      P (steps.foldl TableReads.next table).shown := by
  induction steps generalizing table with
  | nil => exact htable
  | cons ev steps ih =>
    refine ih (fun result hmem => h result (List.mem_cons_of_mem _ hmem)) ?_
    obtain ⟨call,reply⟩ := ev
    cases call with
    | query => exact ⟨h reply List.mem_cons_self,htable.2⟩
    | publish snapshot => exact ⟨htable.1,htable.1⟩
    | _ => exact htable

theorem TableKnown.view {g : Gate} (h : TableKnown lib steps g)
    (hkept : TableKept (tableReads steps).shown) (build : UInt16) :
    List.Forall₂ (RowMade lib steps) (rowsFor lib (tableReads steps).shown build)
      (g.snapshot.view (belongsToVersion build.toNat)) := by
  obtain ⟨calls,hsub,hruns⟩ := h.built
  obtain ⟨realms,hbuilt,hholds⟩ :=
    buildRows_holds RealmSnapshot.empty_holds (by simp) hkept.names hruns
  have hnames : (realms.map Realm.name).Nodup := by
    rw [hbuilt.names]
    exact hkept.names
  rw [hholds.view_eq hnames]
  refine List.rel_filter ?_ (hbuilt.made hsub)
  intro row realm hmade
  simp only [decide_eq_true_eq,hmade.listedIn_iff]

theorem forall₂_source {α β : Type} {R : α → β → Prop} {as : List α} {bs : List β}
    (h : List.Forall₂ R as bs) : ∀ b ∈ bs, ∃ a ∈ as, R a b := by
  induction h with
  | nil => simp
  | cons hab h ih =>
    intro b hmem
    rcases List.mem_cons.mp hmem with rfl | hrest
    · exact ⟨_,List.mem_cons_self,hab⟩
    · obtain ⟨a,ha,hr⟩ := ih b hrest
      exact ⟨a,List.mem_cons_of_mem _ ha,hr⟩

theorem forall₂_through {α β γ : Type} {R : α → β → Prop} {S : β → γ → Prop}
    {T : α → γ → Prop} {as : List α} {bs : List β} {cs : List γ} (h : List.Forall₂ R as bs)
    (h' : List.Forall₂ S bs cs) (hT : ∀ b ∈ bs, ∀ a c, R a b → S b c → T a c) :
    List.Forall₂ T as cs := by
  induction h generalizing cs with
  | nil =>
    cases h'
    exact .nil
  | cons hab h ih =>
    cases h' with
    | cons hbc h' =>
      exact .cons (hT _ List.mem_cons_self _ _ hab hbc)
        (ih h' fun b hmem => hT b (List.mem_cons_of_mem _ hmem))

theorem TableKnown.shows {g : Gate} (h : TableKnown lib steps g)
    (haddress : ∀ ip port, 0 ∉ lib.getAddressString ip port)
    (hkept : TableKept (tableReads steps).shown) {s : Session} {account : UInt32}
    {counts : List (Realm × Option UInt8)} {i : Nat} {since : List (Nat × ListEvent)}
    (hview : counts.map Prod.fst = g.snapshot.view (belongsToVersion s.build.toNat))
    (hchars : ∀ c ∈ counts, (i,⟨.auth (.selectNumChars c.1.m_ID account),c.2⟩) ∈ since)
    (hbody : (realmListReply lib.toSharedLibrary s counts).length ≤ 3+65535) :
    ∃ entries, (decodeRealmReply (isPreTbc s.build)).whole
        (realmListReply lib.toSharedLibrary s counts) = some entries ∧
      List.Forall₂ (ShowsRow lib s account steps i since)
        (rowsFor lib (tableReads steps).shown s.build) entries := by
  have hmade := h.view hkept s.build
  rw [← hview,List.forall₂_map_right_iff] at hmade
  have hnames : ∀ c ∈ counts, 0 ∉ c.1.name := by
    intro c hc
    obtain ⟨row,hrow,hrealm⟩ := forall₂_source hmade c hc
    rw [hrealm.updated.name]
    exact hkept.nonzero row (List.mem_filter.mp hrow).1
  have hcount : counts.length < if isPreTbc s.build then 256 else 65536 := by
    have hle : counts.length ≤ (tableReads steps).shown.length := by
      rw [← hmade.length_eq]
      exact List.length_filter_le _ _
    have hfew := hkept.few
    split <;> omega
  obtain ⟨entries,hdecoded,hshows⟩ := realmListReply_decodes hnames haddress hcount hbody
  refine ⟨entries,hdecoded,forall₂_through hmade hshows ?_⟩
  intro c hc row shown hrow hshown
  exact hrow.shows hshown (hchars c hc)

end

/-- A reply shows the table as the realm list had it when its session loaded last: the rows
for the client's build, each as one entry, in their order. -/
def ShowsTable (lib : RealmLibrary) (startup : List RealmEvent) (log : List (Nat × ListEvent))
    (i : Nat) (s : Session) (reply : Bytes) : Prop :=
  ∃ (before since : List (Nat × ListEvent)) (snapshot : RealmSnapshot)
    (account : UInt32 × Bytes) (entries : List ShownRealm),
    log = before ++ (i,⟨.realm .load,snapshot⟩) :: since ∧
    (∀ ev, (i,ev) ∈ since → ev.call ≠ .realm .load) ∧
    (i,⟨.auth (.selectAccountId s.safelogin),some account⟩) ∈ before ∧
    let steps := startup ++ (realmLog before).map Prod.snd
    (decodeRealmReply (isPreTbc s.build)).whole reply = some entries ∧
      List.Forall₂ (ShowsRow lib s account.1 steps i since)
        (rowsFor lib (tableReads steps).shown s.build) entries

theorem mem_realmLog {log : List (Nat × ListEvent)} {i : Nat} {c : RealmCall}
    {reply : RealmReply c} (h : (i,⟨c,reply⟩) ∈ realmLog log) : (i,⟨.realm c,reply⟩) ∈ log := by
  obtain ⟨⟨j,call,answer⟩,hmem,hentry⟩ := List.mem_filterMap.mp h
  cases call with
  | realm c' =>
    obtain ⟨rfl,hev⟩ := Prod.mk.inj (Option.some.inj hentry)
    cases hev
    exact hmem
  | auth c' => cases hentry

/-- From the table to the client: in any number of sessions, whatever order they take their
steps in and whenever refreshes are due, every reply to a request for the realm list is read
back as one entry for each row that is for the client's build, in the order of the table,
and no other. The rows are those of the last refresh that was published before the session
loaded its list. -/
theorem realm_lists_show_table {δ : Type} (lib : RealmLibrary)
    (haddress : ∀ ip port, 0 ∉ lib.getAddressString ip port)
    (outside : Env ListCall ListReply δ)
    (htable : ∀ d, TableKept (RealmResult.rows (outside (.realm .query) d).1))
    (work : δ → δ) (updateInterval : UInt32) (d : δ) (moves : List (Move (Nat × Session))) :
    let o := (initializeRealms lib updateInterval).exec
      (realmEnv fun c d => outside (.realm c) d) (.fresh,d)
    let p := (Pool.start o.env).run (listEnv outside) (sessionBody lib)
      (fun w => (w.1,work w.2)) moves
    ∀ l₁ l₂ i reply, p.log = l₁ ++ (i,⟨.auth (.sender reply),()⟩) :: l₂ →
      reply.length ≤ 3+65535 →
      ∃ (th : Thread ListCall ListReply (Nat × Session) (Bool × Session)) (s : Session),
        p.threads[i]? = some th ∧ th.tag.2.Quiet s ∧ ShowsTable lib o.calls l₁ i s reply := by
  intro o p l₁ l₂ i reply hsplit hbody
  obtain ⟨hmutex,hinterval,hknown⟩ :=
    initializeRealms_known lib (fun c d => outside (.realm c) d) updateInterval d
  let first : Gate := ⟨none,o.env.1.m_nextUpdate,o.env.1.m_snapshot⟩
  have hstart : Serial lib updateInterval first (Pool.start o.env) first :=
    ⟨.nil,⟨hmutex,hinterval,rfl,rfl⟩,by simp [Pool.start],by simp [first,Gate.phase]⟩
  obtain ⟨g,hserial⟩ := hstart.run work moves
  have htraced : p.Traced (sessionBody lib) := (Pool.start_traced _).run moves
  obtain ⟨th,later,r,hth,hruns⟩ := htraced.passes hsplit
  obtain ⟨s,snapshot,account,counts,before,own,hq,hown,hload,haccount,hview,hchars,hreply⟩ :=
    sessionBody_request hruns
  obtain ⟨l₃,since,rfl,rfl,rfl⟩ := callsOf_split hown
  refine ⟨th,s,hth,hq,?_⟩
  -- the gate as it was when the session loaded
  have hlog : realmLog p.log = realmLog l₃ ++ (i,⟨.load,snapshot⟩) ::
      realmLog (since ++ (i,⟨.auth (.sender reply),()⟩) :: l₂) := by
    rw [hsplit,List.append_assoc,realmLog_append]
    rfl
  have hpath := hserial.path
  rw [hlog] at hpath
  obtain ⟨g₁,g₂,hpath₁,hstep⟩ := hpath.split
  obtain rfl : snapshot = g₁.snapshot := by
    cases hstep with
    | build hin ev hev => cases hev
    | load j => rfl
  have hatLoad := hknown.path hpath₁
  have hread : ∀ result : RealmResult,
      ⟨.query,result⟩ ∈ o.calls ++ (realmLog l₃).map Prod.snd → TableKept result.rows := by
    intro result hmem
    rcases List.mem_append.mp hmem with hstartup | hlogged
    · obtain ⟨w,-,rfl⟩ := Prog.exec_answered _ _ _ hstartup
      exact htable w.2
    · obtain ⟨⟨j,ev⟩,hentry,rfl⟩ := List.mem_map.mp hlogged
      have hentry' : (j,⟨.realm .query,result⟩) ∈ p.log := by
        rw [hsplit]
        exact List.mem_append_left _ (List.mem_append_left _ (mem_realmLog hentry))
      obtain ⟨w,hw⟩ := Pool.run_answered moves (by simp [Pool.start]) _ hentry'
      obtain rfl : result = (outside (.realm .query) w.2).1 := hw
      exact htable w.2
  have hkept : TableKept (tableReads (o.calls ++ (realmLog l₃).map Prod.snd)).shown :=
    (tableReads_kept hread ⟨TableKept.nil,TableKept.nil⟩).2
  subst hreply
  obtain ⟨entries,hdecoded,hshows⟩ := hatLoad.shows haddress hkept hview
    (fun c hc => mem_callsOf.mp (hchars c hc)) hbody
  exact ⟨l₃,since,g₁.snapshot,account,entries,rfl,
    fun ev hmem => hload ev (mem_callsOf.mpr hmem),mem_callsOf.mp haccount,hdecoded,hshows⟩

def tableOutside : Env ListCall ListReply Nat
  | .realm c, n => twoRows c n
  | .auth c, n => listingOutside (.auth c) n

def ListCall.sends : ListCall → Option Bytes
  | .auth (.sender bytes) => some bytes
  | _ => none

theorem ListCall.sends_some {c : ListCall} {bytes : Bytes} (h : c.sends = some bytes) :
    c = .auth (.sender bytes) := by
  unfold sends at h
  split at h
  · rw [Option.some.inj h]
  · contradiction

theorem realm_lists_show_table_sample :
    let s : Session := { listingSession with build := 6141 }
    let o := (initializeRealms splittingLibrary 20).exec
      (realmEnv fun c d => tableOutside (.realm c) d) (.fresh,0)
    let p := (Pool.start o.env).run (listEnv tableOutside) (sessionBody splittingLibrary)
      (fun w => (w.1,id w.2)) ([.start (1,s),.start (1,s)] ++
        List.replicate 5 (.call 0) ++ List.replicate 20 (.call 1) ++ List.replicate 20 (.call 0))
    ∃ l₁ l₂ reply s', p.log = l₁ ++ (1,⟨.auth (.sender reply),()⟩) :: l₂ ∧
      ShowsTable splittingLibrary o.calls l₁ 1 s' reply := by
  intro s o p
  have htable : TableKept [listedRow,laterRow] := ⟨by decide,by decide,by decide⟩
  have hsent : (p.log.filterMap fun entry => entry.2.call.sends.map fun bytes =>
      (entry.1,decide (bytes.length ≤ 3+65535))).head? = some (1,true) := by decide +kernel
  obtain ⟨⟨i,call,answer⟩,hmem,hentry⟩ := List.mem_filterMap.mp (List.mem_of_head? hsent)
  obtain ⟨reply,hreply,heq⟩ := Option.map_eq_some_iff.mp hentry
  simp only [Prod.mk.injEq,decide_eq_true_eq] at heq
  obtain ⟨rfl,hbody⟩ := heq
  obtain rfl : call = .auth (.sender reply) := ListCall.sends_some hreply
  obtain ⟨l₁,l₂,hsplit⟩ := List.append_of_mem hmem
  obtain ⟨th,s',-,-,hshows⟩ := realm_lists_show_table splittingLibrary
    referenceLibrary_address tableOutside (fun _ => htable) id 20 0 _ l₁ l₂ 1 reply hsplit hbody
  exact ⟨l₁,l₂,reply,s',hsplit,hshows⟩

end Realmd
