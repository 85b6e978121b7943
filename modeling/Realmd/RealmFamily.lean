import Realmd.ForcedBuilds
import Realmd.SnapshotRows
set_option autoImplicit false

namespace Realmd
open ByteCodec Interaction Words

def listedBuilds (text : Bytes) : List Nat :=
  ((words (· == 32) text).filter fun token => BuildToken token).map readDecimal

/-- The family the administrator asked for: that of the first build listed. -/
def firstListed (text : Bytes) : Option RealmVersion :=
  (listedBuilds text).head?.map belongsToVersion

/-- An update that puts its realm in the list of the first build alone, and in none if no
build is listed. -/
def FollowsFirst (before after : RealmSnapshot) (row : RealmRow) : Prop :=
  ∀ version, after.realmsByVersion version = before.realmsByVersion version ++
    if firstListed row.realmbuilds = some version then [row.name] else []

section
variable {lib : RealmLibrary} {snapshot : RealmSnapshot} {row : RealmRow}

/-- The numbers in the set of a realm after its row was read: what the name had before and
what `strtoul` makes of each token. -/
def numbersHeld (lib : RealmLibrary) (snapshot : RealmSnapshot) (row : RealmRow) : List Nat :=
  snapshot.heldBuilds row.name ++
    (lib.strSplit row.realmbuilds).map fun token => strtoul token%2^32

def smallestFamily (numbers : List Nat) : Option RealmVersion :=
  (numbers.min?.filter fun build => build%65536 ≠ 0).map belongsToVersion

theorem Realm.firstBuild_eq {realm : Realm} {numbers : List Nat}
    (h : Ascending realm.realmbuilds)
    (hmem : ∀ build, build ∈ realm.realmbuilds ↔ build ∈ numbers) :
    realm.firstBuild = numbers.min?.getD 0 := by
  cases hmin : numbers.min? with
  | none =>
    have hnil : realm.realmbuilds = [] := by
      rw [List.min?_eq_none_iff] at hmin
      rw [List.eq_nil_iff_forall_not_mem]
      simp [hmem,hmin]
    simp [firstBuild,hnil]
  | some least =>
    obtain ⟨hleast,hle⟩ := List.min?_eq_some_iff.mp hmin
    have hne : realm.realmbuilds ≠ [] := List.ne_nil_of_mem ((hmem least).mpr hleast)
    have hfirst := hle _ ((hmem _).mp (firstBuild_mem hne))
    have hleast' := firstBuild_le h least ((hmem least).mpr hleast)
    rw [Option.getD_some]
    omega

theorem Realm.listedIn_iff {realm : Realm} {numbers : List Nat} {version : RealmVersion}
    (h : realm.firstBuild = numbers.min?.getD 0) :
    realm.ListedIn version ↔ smallestFamily numbers = some version := by
  rw [Realm.ListedIn,h,smallestFamily]
  cases numbers.min? with
  | none => simp
  | some least =>
    by_cases hzero : least%65536 = 0
    · simp [Option.filter,hzero]
    · simp [Option.filter,hzero]

variable (lib row) in
theorem updateRealm_lists (address localAddr localSubmask : RealmAddress)
    (realmflags allowedSecurityLevel : UInt8)
    (hheld : Ascending (snapshot.heldBuilds row.name)) (version : RealmVersion) :
    (updateRealm lib snapshot row address localAddr localSubmask realmflags
      allowedSecurityLevel).realmsByVersion version = snapshot.realmsByVersion version ++
        if smallestFamily (numbersHeld lib snapshot row) = some version then [row.name]
        else [] := by
  obtain ⟨realm,hupdated,-,hlists⟩ := updateRealm_spec lib snapshot row address localAddr
    localSubmask realmflags allowedSecurityLevel hheld
  have hmem : ∀ build, build ∈ realm.realmbuilds ↔ build ∈ numbersHeld lib snapshot row := by
    intro build
    rw [hupdated.realmbuilds,numbersHeld,List.mem_append,List.mem_map]
  rw [hlists]
  simp only [Realm.listedIn_iff (Realm.firstBuild_eq hupdated.ascending hmem)]

theorem updateRealm_held (h : ∀ name, Ascending (snapshot.heldBuilds name))
    (address localAddr localSubmask : RealmAddress) (realmflags allowedSecurityLevel : UInt8)
    (name : Bytes) :
    Ascending ((updateRealm lib snapshot row address localAddr localSubmask realmflags
      allowedSecurityLevel).heldBuilds name) := by
  obtain ⟨realm,hupdated,hrealms,-⟩ := updateRealm_spec lib snapshot row address localAddr
    localSubmask realmflags allowedSecurityLevel (h row.name)
  rw [RealmSnapshot.heldBuilds,hrealms]
  by_cases heq : name = row.name
  · subst heq
    rw [AList.lookup_insert]
    exact hupdated.ascending
  · rw [AList.lookup_insert_ne heq]
    exact h name

theorem buildRows_held {rows : List RealmRow} {t : List RealmEvent} {snapshot' : RealmSnapshot}
    (h : ∀ name, Ascending (snapshot.heldBuilds name))
    (hruns : (buildRows lib snapshot rows).Runs t snapshot') (name : Bytes) :
    Ascending (snapshot'.heldBuilds name) := by
  induction rows generalizing snapshot t with
  | nil =>
    obtain ⟨-,rfl⟩ := hruns
    exact h name
  | cons row rows ih =>
    obtain ⟨t₁,t',external,-,-,hruns⟩ := Prog.runs_bind.mp hruns
    obtain ⟨t₂,t'',localAddr,-,-,hruns⟩ := Prog.runs_bind.mp hruns
    obtain ⟨t₃,t₄,submask,-,-,hruns⟩ := Prog.runs_bind.mp hruns
    exact ih (updateRealm_held h external localAddr submask _ _) hruns

theorem singleton_if_eq {p q : Prop} [Decidable p] [Decidable q] {name : Bytes} :
    ((if p then [name] else []) = if q then [name] else []) ↔ (p ↔ q) := by
  by_cases hp : p <;> by_cases hq : q <;> simp [hp,hq]

end

/-- For every row and every snapshot the rows before it have built: the realm is put in the
list of the first build that its row lists, and in none if it lists no build, exactly if
the smallest of the numbers in its set is of the same family. -/
theorem realm_follows_first_iff (lib : RealmLibrary)
    (hsplit : ∀ text, lib.strSplit text = words (· == 32) text) (rows : List RealmRow)
    (t : List RealmEvent) (snapshot : RealmSnapshot)
    (hruns : (buildRows lib .empty rows).Runs t snapshot) (row : RealmRow)
    (address localAddr localSubmask : RealmAddress) (realmflags allowedSecurityLevel : UInt8) :
    FollowsFirst snapshot (updateRealm lib snapshot row address localAddr localSubmask realmflags
      allowedSecurityLevel) row ↔
      smallestFamily (snapshot.heldBuilds row.name ++
        (words (· == 32) row.realmbuilds).map fun token => strtoul token%2^32) =
        firstListed row.realmbuilds := by
  have hempty : ∀ name, Ascending (RealmSnapshot.empty.heldBuilds name) := fun _ => .nil
  have hheld := buildRows_held hempty hruns row.name
  have hlists := updateRealm_lists lib row address localAddr localSubmask
    realmflags allowedSecurityLevel hheld
  rw [numbersHeld,hsplit] at hlists
  constructor
  · intro hfollows
    refine Option.ext fun version => ?_
    have heq := (hlists version).symm.trans (hfollows version)
    rw [List.append_cancel_left_eq,singleton_if_eq] at heq
    exact heq
  · intro hsame version
    rw [hlists,hsame]

def splittingLibrary : RealmLibrary :=
  { referenceRealmLibrary with strSplit := words (· == 32) }

def tbcFirstRow : RealmRow := { listedRow with realmbuilds := ascii "8606 6141" }

def updateAlone (row : RealmRow) : RealmSnapshot :=
  updateRealm splittingLibrary .empty row ⟨0,0,false⟩ ⟨0,0,false⟩ ⟨0,0,false⟩ 0 0

theorem realm_follows_first_iff_sample :
    let row := { listedRow with realmbuilds := ascii "6141 8606" }
    FollowsFirst .empty (updateAlone row) row :=
  (realm_follows_first_iff splittingLibrary (fun _ => rfl) [] [] .empty ⟨rfl,rfl⟩ _ _ _ _ _
    _).mpr (by decide +kernel)

/-- The realm of `8606 6141` is given to the older clients only. -/
theorem later_build_first_listed_vanilla :
    firstListed tbcFirstRow.realmbuilds = some .tbc ∧
      (updateAlone tbcFirstRow).realmsByVersion .tbc = [] ∧
      (updateAlone tbcFirstRow).realmsByVersion .vanilla = [tbcFirstRow.name] ∧
      ¬ FollowsFirst .empty (updateAlone tbcFirstRow) tbcFirstRow := by
  have htbc : (updateAlone tbcFirstRow).realmsByVersion .tbc = [] := by decide +kernel
  have hfirst : firstListed tbcFirstRow.realmbuilds = some .tbc := by decide +kernel
  refine ⟨hfirst,htbc,by decide +kernel,fun hfollows => ?_⟩
  have hlist := hfollows .tbc
  rw [htbc,if_pos hfirst] at hlist
  simp at hlist

end Realmd
