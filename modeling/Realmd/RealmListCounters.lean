import Realmd.RealmListDecode
import Realmd.RealmListLevels
import Realmd.SnapshotRows
set_option autoImplicit false

namespace Realmd
open ByteCodec Interaction

def countWidth (build : UInt16) : Nat := if isPreTbc build then 1 else 2

def listEntry (lib : SharedLibrary) (s : Session) (realm : Realm) (amountOfCharacters : UInt8) :
    Bytes :=
  let clientIp := parseClientIPv4 lib s.remote_address
  if isPreTbc s.build then
    realmEntryVanilla lib s.build s.accountSecurityLevel clientIp realm amountOfCharacters
  else realmEntry lib s.build s.accountSecurityLevel clientIp realm amountOfCharacters

/-- The bytes of an entry: the texts of the realm and what is fixed. -/
def entrySize (lib : SharedLibrary) (s : Session) (realm : Realm) : Nat :=
  let address := realmAddressText lib realm (parseClientIPv4 lib s.remote_address)
  let flagged := realm.realmflags &&& realmFlagSpecifyBuild ≠ 0
  if isPreTbc s.build then
    14+realm.name.length+address.length+
      if flagged then (versionSuffix (shownBuildInfo realm s.build)).length else 0
  else 12+realm.name.length+address.length+if flagged then 5 else 0

/-- The length in the header is that of what follows it, and the count field shows how
many entries there are. -/
structure CountersHold (build : UInt16) (reply : Bytes) (entries : List Bytes) : Prop where
  length : leNat (slice reply 1 2) = (reply.drop 3).length
  count : leNat (slice reply 7 (countWidth build)) = entries.length

section
variable {lib : SharedLibrary} {s : Session}

theorem listEntry_length (realm : Realm) (amountOfCharacters : UInt8) :
    (listEntry lib s realm amountOfCharacters).length = entrySize lib s realm := by
  unfold listEntry entrySize
  cases isPreTbc s.build with
  | true =>
    simp only [if_true,realmEntryVanilla,packString,List.length_append,leBytes_length,
      List.length_cons,List.length_nil]
    by_cases hflag : realm.realmflags &&& realmFlagSpecifyBuild ≠ 0
    · rw [if_pos hflag,if_pos hflag,List.length_append]
      omega
    · rw [if_neg hflag,if_neg hflag]
      omega
  | false =>
    -- a realm shown offline keeps its build flag
    generalize hflags : (if !okBuild realm s.build then
      realm.realmflags ||| realmFlagOffline else realm.realmflags) = flags
    obtain ⟨-,-,hspecify⟩ := markedOffline hflags
    simp only [Bool.false_eq_true,if_false,realmEntry,hflags,hspecify,packString,
      List.length_append,leBytes_length,List.length_cons,List.length_nil]
    by_cases hflag : realm.realmflags &&& realmFlagSpecifyBuild ≠ 0
    · rw [if_pos hflag,if_pos hflag,List.length_append,leBytes_length,List.length_cons,
        List.length_cons,List.length_cons,List.length_nil]
      omega
    · rw [if_neg hflag,if_neg hflag,List.length_nil]
      omega

variable (lib s) in
theorem realmListBody_counted (counts : List (Realm × Option UInt8)) :
    ∃ ending, ending.length = 2 ∧ realmListBody lib s counts =
      leBytes 4 0 ++ (leBytes (countWidth s.build) counts.length ++
        ((counts.map fun c => listEntry lib s c.1 (c.2.getD 0)).flatten ++ ending)) := by
  unfold realmListBody countWidth listEntry
  cases isPreTbc s.build with
  | true => exact ⟨leBytes 2 2,rfl,by simp [List.append_assoc]⟩
  | false => exact ⟨leBytes 2 16,rfl,by simp [List.append_assoc]⟩

theorem realmListBody_size (counts : List (Realm × Option UInt8)) :
    (realmListBody lib s counts).length =
      6+countWidth s.build+((counts.map Prod.fst).map (entrySize lib s)).sum := by
  obtain ⟨ending,hending,hbody⟩ := realmListBody_counted lib s counts
  have hentries : (counts.map fun c => listEntry lib s c.1 (c.2.getD 0)).flatten.length =
      ((counts.map Prod.fst).map (entrySize lib s)).sum := by
    simp [List.length_flatten,Function.comp_def,listEntry_length]
  rw [hbody,List.length_append,List.length_append,List.length_append,leBytes_length,
    leBytes_length,hentries,hending]
  omega

theorem realmListReply_body (counts : List (Realm × Option UInt8)) :
    (realmListReply lib s counts).drop 3 = realmListBody lib s counts := by
  simp [realmListReply]

theorem realmListReply_entries (counts : List (Realm × Option UInt8)) :
    ∃ ending : Bytes, ending.length = 2 ∧
      (realmListReply lib s counts).drop (7+countWidth s.build) =
        (counts.map fun c => listEntry lib s c.1 (c.2.getD 0)).flatten ++ ending := by
  obtain ⟨ending,hending,hbody⟩ := realmListBody_counted lib s counts
  refine ⟨ending,hending,?_⟩
  rw [show 7+countWidth s.build = 3+(4+countWidth s.build) by omega,← List.drop_drop,
    realmListReply_body,hbody,← List.append_assoc,List.drop_left' (by simp)]

theorem realmListReply_count (counts : List (Realm × Option UInt8)) :
    slice (realmListReply lib s counts) 7 (countWidth s.build) =
      leBytes (countWidth s.build) counts.length := by
  obtain ⟨ending,-,hbody⟩ := realmListBody_counted lib s counts
  rw [slice,show 7 = 3+4 from rfl,← List.drop_drop,realmListReply_body,hbody]
  simp

theorem countersHold_iff (counts : List (Realm × Option UInt8)) :
    CountersHold s.build (realmListReply lib s counts)
        (counts.map fun c => listEntry lib s c.1 (c.2.getD 0)) ↔
      counts.length < 256^countWidth s.build ∧ (realmListBody lib s counts).length < 65536 := by
  have hlength : slice (realmListReply lib s counts) 1 2 =
      leBytes 2 (realmListBody lib s counts).length := by
    simp [realmListReply,slice]
  constructor
  · intro h
    have hl := h.length
    have hc := h.count
    rw [hlength,realmListReply_body,leNat_leBytes_iff] at hl
    rw [realmListReply_count,List.length_map,leNat_leBytes_iff] at hc
    exact ⟨hc,hl⟩
  · rintro ⟨hc,hl⟩
    constructor
    case length => rw [hlength,realmListReply_body,leNat_leBytes_iff.mpr hl]
    case count => rw [realmListReply_count,List.length_map,leNat_leBytes_iff.mpr hc]

end

/-- In the reply to a realm list request, for every list of realms, account, level,
address and build: the two fields tell the truth exactly if the count field can hold the
number of realms and the header the size of their entries. -/
theorem realm_list_counters_iff (lib : SharedLibrary) (s : Session) (t : List AuthEvent)
    (r : Bool × Session) (realms : List Realm) (reply : Bytes)
    (hruns : (realmList lib s).Runs t r)
    (hrealms : ⟨.getRealmsForBuild s.build.toNat,realms⟩ ∈ t)
    (hreply : ⟨.sender reply,()⟩ ∈ t) :
    ∃ counts : List (Realm × Option UInt8), counts.map Prod.fst = realms ∧
      let entries := counts.map fun c => listEntry lib s c.1 (c.2.getD 0)
      (∃ ending : Bytes, ending.length = 2 ∧
        reply.drop (7+countWidth s.build) = entries.flatten ++ ending) ∧
      (CountersHold s.build reply entries ↔
        realms.length < 256^countWidth s.build ∧
          6+countWidth s.build+(realms.map (entrySize lib s)).sum < 65536) := by
  obtain ⟨account,counts,-,hasked,-,rfl⟩ := realmList_reply hruns hreply
  have hgiven : (s.build.toNat,realms) ∈ realmsAsked t :=
    List.mem_filterMap.mpr ⟨_,hrealms,rfl⟩
  rw [hasked,List.mem_singleton] at hgiven
  obtain rfl : realms = counts.map Prod.fst := (Prod.mk.inj hgiven).2
  refine ⟨counts,rfl,realmListReply_entries counts,?_⟩
  rw [countersHold_iff,realmListBody_size,List.length_map]

theorem realm_list_counters_iff_sample :
    let replies : Replies := { accountId := some (7,[]), realms := [listedRealm,offlineRealm] }
    let t := ((realmList referenceLibrary listingSession).exec replies.env ()).calls
    let reply := (sentBytes t).headD []
    ∃ counts : List (Realm × Option UInt8), counts.map Prod.fst = [listedRealm,offlineRealm] ∧
      CountersHold 12340 reply (counts.map fun c =>
        listEntry referenceLibrary listingSession c.1 (c.2.getD 0)) := by
  intro replies t reply
  have hreply : ⟨.sender reply,()⟩ ∈ t := by decide +kernel
  have hrealms :
      ⟨.getRealmsForBuild listingSession.build.toNat,[listedRealm,offlineRealm]⟩ ∈ t := by
    decide +kernel
  have hruns : (realmList referenceLibrary listingSession).Runs t _ :=
    Prog.exec_runs replies.env (realmList referenceLibrary listingSession) ()
  obtain ⟨counts,hfst,-,hiff⟩ := realm_list_counters_iff referenceLibrary listingSession t _
    [listedRealm,offlineRealm] reply hruns hrealms hreply
  exact ⟨counts,hfst,hiff.mpr (by decide +kernel)⟩

theorem RowsBuilt.listed {rows : List RealmRow} {t : List RealmEvent} {realms : List Realm}
    (h : RowsBuilt referenceRealmLibrary rows t realms)
    (hbuilds : ∀ row ∈ rows, row.realmbuilds = ascii "6141") :
    ∀ realm ∈ realms, realm.ListedIn (belongsToVersion 6141) := by
  induction h with
  | nil => simp
  | @cons row _ _ _ _ _ realm _ _ _ _ hrealm _ ih =>
    intro other hother
    rcases List.mem_cons.mp hother with rfl | hother
    · have hmem : ∀ build, build ∈ other.realmbuilds ↔ build = 6141 := by
        intro build
        have hsplit : referenceRealmLibrary.strSplit row.realmbuilds = [ascii "6141"] := by
          rw [hbuilds row List.mem_cons_self]
          decide
        have hread : strtoul (ascii "6141")%2^32 = 6141 := by decide
        simp only [hrealm.realmbuilds,hsplit,List.not_mem_nil,false_or,List.mem_singleton,
          exists_eq_left,hread]
        exact eq_comm
      have hne : other.realmbuilds ≠ [] := List.ne_nil_of_mem ((hmem 6141).mpr rfl)
      have hfirst := (hmem _).mp (Realm.firstBuild_mem hne)
      rw [Realm.ListedIn,hfirst]
      decide
    · exact ih (fun row hrow => hbuilds row (List.mem_cons_of_mem _ hrow)) other hother

theorem view_length_of_listed {rows : List RealmRow}
    (hnames : (rows.map RealmRow.name).Nodup)
    (hbuilds : ∀ row ∈ rows, row.realmbuilds = ascii "6141") :
    (((buildRows referenceRealmLibrary .empty rows).exec failingDatabase 0).value.view
      (belongsToVersion 6141)).length = rows.length := by
  have hruns := Prog.exec_runs failingDatabase (buildRows referenceRealmLibrary .empty rows) 0
  obtain ⟨realms,hbuilt,hholds⟩ := buildRows_holds RealmSnapshot.empty_holds (by simp) hnames hruns
  have hlisted := hbuilt.listed hbuilds
  rw [List.nil_append] at hholds
  rw [← hbuilt.names] at hnames
  rw [hholds.view_eq hnames,
    List.filter_eq_self.mpr fun realm hmem => decide_eq_true (hlisted realm hmem)]
  simpa using congrArg List.length hbuilt.names

/-- One row more than the vanilla reply can count. -/
def crowdedRows : List RealmRow :=
  (List.range 256).map fun i => { listedRow with name := decimal i }

def crowdedRealms : List Realm :=
  ((buildRows referenceRealmLibrary .empty crowdedRows).exec failingDatabase 0).value.view
    (belongsToVersion 6141)

theorem crowdedRealms_length : crowdedRealms.length = 256 := by
  have hnames : (crowdedRows.map RealmRow.name).Nodup := by
    have heq : crowdedRows.map RealmRow.name = (List.range 256).map decimal := by
      simp [crowdedRows,Function.comp_def]
    rw [heq]
    exact List.nodup_range.map fun _ _ => decimal_injective
  have hbuilds : ∀ row ∈ crowdedRows, row.realmbuilds = ascii "6141" := by
    intro row hrow
    obtain ⟨i,-,rfl⟩ := List.mem_map.mp hrow
    rfl
  have hlength : crowdedRows.length = 256 := by rw [crowdedRows,List.length_map,List.length_range]
  exact (view_length_of_listed hnames hbuilds).trans hlength

/-- A snapshot of 256 realms is sent with a count field of zero. -/
theorem crowded_list_counts_none :
    let s := { listingSession with build := 6141 }
    let replies : Replies := { accountId := some (7,[]), realms := crowdedRealms }
    crowdedRealms.length = 256 ∧
      ∃ reply, sentBytes ((realmList referenceLibrary s).exec replies.env ()).calls = [reply] ∧
        leNat (slice reply 7 (countWidth 6141)) = 0 := by
  intro s replies
  refine ⟨crowdedRealms_length,[0x10] ++ leBytes 2 (realmPacket referenceLibrary replies s).length
    ++ realmPacket referenceLibrary replies s,?_,?_⟩
  · have hsent : listReply referenceLibrary replies s = _ := listReply_eq rfl rfl
    exact hsent
  · have hbuild : s.build = 5875 ∨ s.build = 6005 ∨ s.build = 6141 := .inr (.inr rfl)
    rw [realmPacket,if_pos hbuild,crowdedRealms_length]
    rfl

end Realmd
