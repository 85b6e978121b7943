import Realmd.FailedRefresh
set_option autoImplicit false

namespace Realmd
open ByteCodec Interaction

def Ascending (builds : List Nat) : Prop := builds.Pairwise (· < ·)

theorem mem_insertBuild {builds : List Nat} {build b : Nat} :
    b ∈ insertBuild builds build ↔ b = build ∨ b ∈ builds := by
  unfold insertBuild
  split
  · rename_i hmem
    refine ⟨.inr,?_⟩
    rintro (rfl | hb)
    · exact hmem
    · exact hb
  · rw [List.mem_orderedInsert]

theorem insertBuild_ascending {builds : List Nat} (h : Ascending builds) (build : Nat) :
    Ascending (insertBuild builds build) := by
  unfold insertBuild
  split
  · exact h
  rename_i hnew
  have hle : (builds.orderedInsert (· ≤ ·) build).Pairwise (· ≤ ·) :=
    (h.imp Nat.le_of_lt).orderedInsert build builds
  have hnodup : (builds.orderedInsert (· ≤ ·) build).Nodup := by
    rw [(List.perm_orderedInsert (· ≤ ·) build builds).nodup_iff,List.nodup_cons]
    exact ⟨hnew,h.imp Nat.ne_of_lt⟩
  exact (hle.and hnodup).imp fun ⟨hab,hne⟩ => Nat.lt_of_le_of_ne hab hne

theorem foldl_insertBuild (tokens : List Bytes) {held : List Nat} (h : Ascending held) :
    let builds := tokens.foldl
      (fun builds token => insertBuild builds (strtoul token%2^32)) held
    Ascending builds ∧
      ∀ build, build ∈ builds ↔ build ∈ held ∨ ∃ token ∈ tokens, strtoul token%2^32 = build := by
  induction tokens generalizing held with
  | nil => simpa using h
  | cons token tokens ih =>
    obtain ⟨hascending,hmem⟩ := ih (insertBuild_ascending h (strtoul token%2^32))
    refine ⟨hascending,fun build => ?_⟩
    rw [List.foldl_cons,hmem,mem_insertBuild,List.exists_mem_cons_iff,eq_comm (a := build)]
    tauto

namespace Realm

def firstBuild (realm : Realm) : Nat := realm.realmbuilds.headD 0

/-- A realm is listed for the version of its smallest build, unless 16 bits of that build
are all zero. -/
def ListedIn (realm : Realm) (version : RealmVersion) : Prop :=
  realm.firstBuild%65536 ≠ 0 ∧ belongsToVersion realm.firstBuild = version

instance (realm : Realm) (version : RealmVersion) : Decidable (realm.ListedIn version) :=
  inferInstanceAs (Decidable (_ ∧ _))

/-- The realm that `UpdateRealm` makes of a row, for a name with some builds already. -/
structure Updated (lib : RealmLibrary) (held : List Nat) (row : RealmRow)
    (address localAddr localSubmask : RealmAddress) (realmflags allowedSecurityLevel : UInt8)
    (realm : Realm) : Prop where
  m_ID : realm.m_ID = row.id
  name : realm.name = row.name
  icon : realm.icon = row.icon
  realmflags : realm.realmflags = realmflags
  timezone : realm.timezone = row.timezone
  allowedSecurityLevel : realm.allowedSecurityLevel = allowedSecurityLevel
  populationLevel : realm.populationLevel = row.population
  ascending : Ascending realm.realmbuilds
  realmbuilds : ∀ build, build ∈ realm.realmbuilds ↔
    build ∈ held ∨ ∃ token ∈ lib.strSplit row.realmbuilds, strtoul token%2^32 = build
  realmBuildInfo : realm.realmBuildInfo =
    (findBuildInfo (UInt16.ofNat realm.firstBuild)).getD ⟨realm.firstBuild%65536,0,0,0,32⟩
  externalAddress : realm.externalAddress = address
  localAddress : realm.localAddress = localAddr
  localSubnetMask : realm.localSubnetMask = localSubmask

theorem firstBuild_mem {realm : Realm} (h : realm.realmbuilds ≠ []) :
    realm.firstBuild ∈ realm.realmbuilds := by
  unfold firstBuild
  cases hb : realm.realmbuilds with
  | nil => exact absurd hb h
  | cons build builds => simp

theorem firstBuild_le {realm : Realm} (h : Ascending realm.realmbuilds) :
    ∀ build ∈ realm.realmbuilds, realm.firstBuild ≤ build := by
  unfold firstBuild
  cases hb : realm.realmbuilds with
  | nil => simp
  | cons first builds =>
    rw [hb,Ascending,List.pairwise_cons] at h
    intro build hbuild
    rcases List.mem_cons.mp hbuild with rfl | hbuild
    · exact Nat.le_refl _
    · exact Nat.le_of_lt (h.1 build hbuild)

end Realm

theorem firstBuildInfo_eq (first_build : UInt16) : firstBuildInfo first_build =
    (findBuildInfo first_build).getD ⟨first_build.toNat,0,0,0,32⟩ := by
  unfold firstBuildInfo
  simp only
  cases hfound : findBuildInfo first_build with
  | none => simp
  | some bInfo =>
    obtain ⟨policy,hpolicy,rfl⟩ := Option.map_eq_some_iff.mp hfound
    have hbuild : policy.buildInfo.build = first_build.toNat := by
      simpa using List.find?_some hpolicy
    have hne : first_build ≠ 0 := by
      rintro rfl
      simp [findBuildInfo,findClientBuildPolicy,supportedClientBuilds] at hfound
    simp [hbuild,hne]

/-- A snapshot that holds some realms, in the order of their rows: each once in the map,
under its name, and each that is listed once in the list of its version. -/
structure RealmSnapshot.Holds (snapshot : RealmSnapshot) (realms : List Realm) : Prop where
  keys : snapshot.realms.keys.length = realms.length
  lookup : ∀ name, snapshot.realms.lookup name = realms.find? (·.name = name)
  lists : ∀ version, snapshot.realmsByVersion version =
    (realms.filter fun realm => realm.ListedIn version).map Realm.name

section
variable {lib : RealmLibrary} {snapshot : RealmSnapshot}

def RealmSnapshot.heldBuilds (snapshot : RealmSnapshot) (name : Bytes) : List Nat :=
  ((snapshot.realms.lookup name).getD .initial).realmbuilds

theorem addRealmToBuildList_lists (realm : Realm) (hfirst : realm.firstBuild%65536 ≠ 0)
    (version : RealmVersion) :
    (addRealmToBuildList snapshot realm).realmsByVersion version =
      snapshot.realmsByVersion version ++
        if realm.ListedIn version then [realm.name] else [] := by
  by_cases hversion : version = belongsToVersion realm.firstBuild
  · subst hversion
    rw [if_pos ⟨hfirst,rfl⟩]
    exact Function.update_self ..
  · rw [if_neg fun h => hversion h.2.symm,List.append_nil]
    exact Function.update_of_ne hversion ..

variable (lib snapshot) in
theorem updateRealm_spec (row : RealmRow) (address localAddr localSubmask : RealmAddress)
    (realmflags allowedSecurityLevel : UInt8)
    (hheld : Ascending (snapshot.heldBuilds row.name)) :
    ∃ realm : Realm, realm.Updated lib (snapshot.heldBuilds row.name) row address localAddr
        localSubmask realmflags allowedSecurityLevel ∧
      let snapshot' := updateRealm lib snapshot row address localAddr localSubmask realmflags
        allowedSecurityLevel
      snapshot'.realms = snapshot.realms.insert row.name realm ∧
      ∀ version, snapshot'.realmsByVersion version = snapshot.realmsByVersion version ++
        if realm.ListedIn version then [row.name] else [] := by
  obtain ⟨hascending,hbuilds⟩ := foldl_insertBuild (lib.strSplit row.realmbuilds) hheld
  generalize hfold : (lib.strSplit row.realmbuilds).foldl
    (fun builds token => insertBuild builds (strtoul token%2^32))
    (snapshot.heldBuilds row.name) = builds at hascending hbuilds
  let realm : Realm := ⟨row.name,address,localAddr,localSubmask,row.icon,realmflags,row.timezone,
    row.id,allowedSecurityLevel,row.population,builds,
    firstBuildInfo (UInt16.ofNat (builds.headD 0))⟩
  have hupdate : updateRealm lib snapshot row address localAddr localSubmask realmflags
      allowedSecurityLevel =
      let snapshot₁ := { snapshot with realms := snapshot.realms.insert row.name realm }
      if UInt16.ofNat (builds.headD 0) ≠ 0 then addRealmToBuildList snapshot₁ realm
      else snapshot₁ := by
    simp only [realm,← hfold]
    rfl
  have hzero : UInt16.ofNat (builds.headD 0) ≠ 0 ↔ realm.firstBuild%65536 ≠ 0 := by
    rw [ne_eq,← UInt16.toNat_inj,UInt16.toNat_ofNat']
    rfl
  refine ⟨realm,⟨rfl,rfl,rfl,rfl,rfl,rfl,rfl,hascending,hbuilds,?_,rfl,rfl,rfl⟩,?_⟩
  · change firstBuildInfo _ = _
    rw [firstBuildInfo_eq,UInt16.toNat_ofNat']
    rfl
  rw [hupdate]
  simp only
  split
  · rename_i hlisted
    exact ⟨rfl,addRealmToBuildList_lists realm (hzero.mp hlisted)⟩
  · rename_i hunlisted
    refine ⟨rfl,fun version => ?_⟩
    rw [if_neg fun h => hunlisted (hzero.mpr h.1),List.append_nil]

theorem RealmSnapshot.Holds.heldBuilds {realms : List Realm} (h : snapshot.Holds realms)
    {name : Bytes} (hnew : name ∉ realms.map Realm.name) : snapshot.heldBuilds name = [] := by
  have hnone : realms.find? (·.name = name) = none := by
    rw [List.find?_eq_none]
    intro realm hmem
    simp only [decide_eq_true_eq]
    exact fun heq => hnew (List.mem_map.mpr ⟨realm,hmem,heq⟩)
  rw [RealmSnapshot.heldBuilds,h.lookup,hnone]
  rfl

variable (lib) in
theorem updateRealm_holds {realms : List Realm} (h : snapshot.Holds realms) {row : RealmRow}
    (hnew : row.name ∉ realms.map Realm.name) (address localAddr localSubmask : RealmAddress)
    (realmflags allowedSecurityLevel : UInt8) :
    ∃ realm : Realm,
      realm.Updated lib [] row address localAddr localSubmask realmflags allowedSecurityLevel ∧
      (updateRealm lib snapshot row address localAddr localSubmask realmflags
        allowedSecurityLevel).Holds (realms ++ [realm]) := by
  have hheld := h.heldBuilds hnew
  have hascending : Ascending (snapshot.heldBuilds row.name) := by
    rw [hheld]
    exact .nil
  obtain ⟨realm,hupdated,hrealms,hlists⟩ := updateRealm_spec lib snapshot row address localAddr
    localSubmask realmflags allowedSecurityLevel hascending
  rw [hheld] at hupdated
  have habsent : row.name ∉ snapshot.realms := by
    rw [← AList.lookup_eq_none,h.lookup,List.find?_eq_none]
    intro other hmem
    simp only [decide_eq_true_eq]
    exact fun heq => hnew (List.mem_map.mpr ⟨other,hmem,heq⟩)
  refine ⟨realm,hupdated,?_,?_,?_⟩
  · rw [hrealms,AList.keys,AList.entries_insert_of_notMem habsent,List.keys_cons,
      List.length_cons,List.length_append,List.length_singleton,← h.keys]
    rfl
  · intro name
    rw [hrealms,List.find?_append,List.find?_singleton,hupdated.name]
    by_cases heq : name = row.name
    · subst heq
      rw [AList.lookup_insert,← h.lookup,AList.lookup_eq_none.mpr habsent]
      simp
    · rw [AList.lookup_insert_ne heq,h.lookup]
      simp [Ne.symm heq]
  · intro version
    rw [hlists,h.lists,List.filter_append,List.map_append]
    by_cases hlisted : realm.ListedIn version
    · simp [hlisted,hupdated.name]
    · simp [hlisted]

inductive RowsBuilt (lib : RealmLibrary) :
    List RealmRow → List RealmEvent → List Realm → Prop where
  | nil : RowsBuilt lib [] [] []
  | cons {row : RealmRow} {rows : List RealmRow} {t₁ t₂ t₃ t : List RealmEvent} {realm : Realm}
      {realms : List Realm}
      (hexternal : (resolveRealmAddress lib row.address row.port.toUInt16).Runs t₁
        realm.externalAddress)
      (hlocal : (resolveRealmAddress lib row.localAddress row.port.toUInt16).Runs t₂
        realm.localAddress)
      (hmask : (resolveRealmAddress lib row.localSubnetMask 0).Runs t₃ realm.localSubnetMask)
      (hrealm : realm.Updated lib [] row realm.externalAddress realm.localAddress
        realm.localSubnetMask (row.realmflags &&& realmFlagMask)
        (clampSecurity lib.toSharedLibrary row.allowedSecurityLevel))
      (hrows : RowsBuilt lib rows t realms) :
      RowsBuilt lib (row :: rows) (t₁ ++ (t₂ ++ (t₃ ++ t))) (realm :: realms)

theorem RowsBuilt.names {rows : List RealmRow} {t : List RealmEvent} {realms : List Realm}
    (h : RowsBuilt lib rows t realms) : realms.map Realm.name = rows.map RealmRow.name := by
  induction h with
  | nil => rfl
  | cons _ _ _ hrealm _ ih => rw [List.map_cons,List.map_cons,hrealm.name,ih]

theorem maskedFlags (flags : UInt8) : (if flags &&& ~~~realmFlagMask ≠ 0 then
    flags &&& realmFlagMask else flags) = flags &&& realmFlagMask := by
  obtain ⟨bits⟩ := flags
  revert bits
  decide +kernel

theorem buildRows_holds {rows : List RealmRow} {t : List RealmEvent} {snapshot' : RealmSnapshot}
    {done : List Realm} (h : snapshot.Holds done)
    (hnew : ∀ row ∈ rows, row.name ∉ done.map Realm.name)
    (hnames : (rows.map RealmRow.name).Nodup)
    (hruns : (buildRows lib snapshot rows).Runs t snapshot') :
    ∃ realms, RowsBuilt lib rows t realms ∧ snapshot'.Holds (done ++ realms) := by
  induction rows generalizing snapshot done t with
  | nil =>
    obtain ⟨rfl,rfl⟩ := hruns
    exact ⟨[],.nil,by simpa using h⟩
  | cons row rows ih =>
    obtain ⟨t₁,t',external,rfl,hexternal,hruns⟩ := Prog.runs_bind.mp hruns
    obtain ⟨t₂,t'',localAddr,rfl,hlocal,hruns⟩ := Prog.runs_bind.mp hruns
    obtain ⟨t₃,t₄,submask,rfl,hmask,hruns⟩ := Prog.runs_bind.mp hruns
    rw [maskedFlags] at hruns
    obtain ⟨realm,hupdated,hholds⟩ := updateRealm_holds lib h
      (hnew row List.mem_cons_self) external localAddr submask (row.realmflags &&& realmFlagMask)
      (clampSecurity lib.toSharedLibrary row.allowedSecurityLevel)
    rw [List.map_cons,List.nodup_cons] at hnames
    have hnew' : ∀ other ∈ rows, other.name ∉ (done ++ [realm]).map Realm.name := by
      intro other hother
      rw [List.map_append,List.mem_append,List.map_singleton,List.mem_singleton,hupdated.name]
      rintro (hdone | heq)
      · exact hnew other (List.mem_cons_of_mem _ hother) hdone
      · exact hnames.1 (heq ▸ List.mem_map_of_mem hother)
    obtain ⟨realms,hbuilt,hall⟩ := ih hholds hnew' hnames.2 hruns
    obtain rfl := hupdated.externalAddress
    obtain rfl := hupdated.localAddress
    obtain rfl := hupdated.localSubnetMask
    exact ⟨realm :: realms,.cons hexternal hlocal hmask hupdated hbuilt,by simpa using hall⟩

theorem RealmSnapshot.empty_holds : RealmSnapshot.empty.Holds [] where
  keys := rfl
  lookup := fun _ => rfl
  lists := fun _ => rfl

theorem find_name_iff {realms : List Realm} (hnames : (realms.map Realm.name).Nodup)
    {name : Bytes} {realm : Realm} :
    realms.find? (·.name = name) = some realm ↔ realm ∈ realms ∧ realm.name = name := by
  constructor
  · intro h
    exact ⟨List.mem_of_find?_eq_some h,by simpa using List.find?_some h⟩
  · rintro ⟨hmem,rfl⟩
    have hfound : (realms.find? (·.name = realm.name)).isSome := by
      rw [List.find?_isSome]
      exact ⟨realm,hmem,by simp⟩
    obtain ⟨other,hother⟩ := Option.isSome_iff_exists.mp hfound
    have hname : other.name = realm.name := by simpa using List.find?_some hother
    rw [hother,List.inj_on_of_nodup_map hnames (List.mem_of_find?_eq_some hother) hmem hname]

namespace RealmSnapshot.Holds

variable {realms : List Realm}

theorem view_eq (h : snapshot.Holds realms) (hnames : (realms.map Realm.name).Nodup)
    (version : RealmVersion) :
    snapshot.view version = realms.filter fun realm => realm.ListedIn version := by
  rw [view,h.lists,List.filterMap_map]
  have hself : ∀ realm ∈ realms.filter (fun realm => realm.ListedIn version),
      (snapshot.realms.lookup ∘ Realm.name) realm = some realm := by
    intro realm hmem
    rw [Function.comp_apply,h.lookup,find_name_iff hnames]
    exact ⟨(List.mem_filter.mp hmem).1,rfl⟩
  rw [List.filterMap_congr hself,List.filterMap_some]

end RealmSnapshot.Holds

end

def laterRow : RealmRow :=
  { listedRow with id := 2, name := ascii "Other", realmbuilds := ascii "12340 8606" }

def twoRows : Env RealmCall RealmReply Nat
  | .query, n => (RealmResult.fetched [listedRow,laterRow],n+1)
  | c, n => failingDatabase c n

end Realmd
