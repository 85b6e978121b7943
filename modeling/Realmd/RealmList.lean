import Mathlib.Data.List.AList
import Mathlib.Data.List.Sort
import Realmd.Decimal
import Realmd.Handlers
import Realmd.RealmListReply
set_option autoImplicit false

namespace Realmd
open ByteCodec Interaction

structure RealmLibrary extends SharedLibrary where
  strSplit : Bytes → List Bytes

structure RealmRow where
  id : UInt32
  name : Bytes
  address : Bytes
  localAddress : Bytes
  localSubnetMask : Bytes
  port : UInt32
  icon : UInt8
  realmflags : UInt8
  timezone : UInt8
  allowedSecurityLevel : UInt8
  population : UInt32
  realmbuilds : Bytes
  deriving DecidableEq, Repr

inductive RealmResult where
  | failed
  | fetched (rows : List RealmRow)
  deriving DecidableEq, Repr

/-- The rows the loop goes through. The database client returns null both for a query
that failed and for one without rows, and then the loop is not entered. -/
def RealmResult.rows : RealmResult → List RealmRow
  | .failed => []
  | .fetched rows => rows

/-- The realms by name. A list of a version points into the map, whose entries stay where
they are: it holds their keys. -/
structure RealmSnapshot where
  realms : AList fun _ : Bytes => Realm
  realmsByVersion : RealmVersion → List Bytes

def RealmSnapshot.empty : RealmSnapshot := ⟨∅,fun _ => []⟩

def RealmSnapshot.view (snapshot : RealmSnapshot) (version : RealmVersion) : List Realm :=
  (snapshot.realmsByVersion version).filterMap snapshot.realms.lookup

def belongsToVersion (build : Nat) : RealmVersion :=
  match findClientBuildPolicy build with
  | some policy => policy.realmVersion
  | none => .vanilla

/-- `strtoul` to the base ten: blanks, a sign, then digits up to the first other byte, and
the largest value if they are too many. -/
def strtoul (text : Bytes) : Nat :=
  let text := text.dropWhile isSpace
  let negative := text.head? == some 45
  let digits := (if negative || text.head? == some 43 then text.drop 1 else text).takeWhile isDigit
  let value := digits.foldl (fun n c => 10*n+(c.toNat-48)) 0
  if value ≥ 2^64 then 2^64-1
  else if negative then (2^64-value)%2^64
  else value

def insertBuild (builds : List Nat) (build : Nat) : List Nat :=
  if build ∈ builds then builds else builds.orderedInsert (· ≤ ·) build

def Realm.initial : Realm :=
  ⟨[],⟨0,0,false⟩,⟨0,0,false⟩,⟨0,0,false⟩,0,0,0,0,0,0,[],⟨0,0,0,0,0⟩⟩

def firstBuildInfo (first_build : UInt16) : RealmBuildInfo :=
  let unknown : RealmBuildInfo := ⟨first_build.toNat,0,0,0,32⟩
  if first_build ≠ 0 then
    match findBuildInfo first_build with
    | some bInfo => if bInfo.build = first_build.toNat then bInfo else unknown
    | none => unknown
  else unknown

/-- The build that decides is the smallest, at its full width. -/
def addRealmToBuildList (snapshot : RealmSnapshot) (realm : Realm) : RealmSnapshot :=
  let version := belongsToVersion (realm.realmbuilds.headD 0)
  { snapshot with
    realmsByVersion := Function.update snapshot.realmsByVersion version
      (snapshot.realmsByVersion version ++ [realm.name]) }

section
variable (lib : RealmLibrary)

/-- Everything of the realm is set anew, but its builds come to those it has. -/
def updateRealm (snapshot : RealmSnapshot) (row : RealmRow)
    (address localAddr localSubmask : RealmAddress) (realmflags allowedSecurityLevel : UInt8) :
    RealmSnapshot :=
  let old := (snapshot.realms.lookup row.name).getD .initial
  let realmbuilds := (lib.strSplit row.realmbuilds).foldl
    (fun builds token => insertBuild builds (strtoul token%2^32)) old.realmbuilds
  let first_build := UInt16.ofNat (realmbuilds.headD 0)
  let realm : Realm :=
    { name := row.name
      externalAddress := address
      localAddress := localAddr
      localSubnetMask := localSubmask
      icon := row.icon
      realmflags := realmflags
      timezone := row.timezone
      m_ID := row.id
      allowedSecurityLevel := allowedSecurityLevel
      populationLevel := row.population
      realmbuilds := realmbuilds
      realmBuildInfo := firstBuildInfo first_build }
  let snapshot := { snapshot with realms := snapshot.realms.insert row.name realm }
  if first_build ≠ 0 then addRealmToBuildList snapshot realm else snapshot

/-- What the realm list asks of the clock, the database and the resolver, and the steps
it takes on its gate and its store. -/
inductive RealmCall where
  | time
  | tryLock
  | due (now : Int)
  | setNextUpdate (now : Int)
  | unlock
  | reset (interval : UInt32) (nextUpdate : Int)
  | query
  | getaddrinfo (host : Bytes)
  | publish (snapshot : RealmSnapshot)
  | load

abbrev RealmReply : RealmCall → Type
  | .time => Int
  | .tryLock | .due _ => Bool
  | .setNextUpdate _ | .unlock | .reset .. | .publish _ => Unit
  | .query => RealmResult
  | .getaddrinfo _ => Option UInt32
  | .load => RealmSnapshot

abbrev RealmProg := Prog RealmCall RealmReply
abbrev RealmEvent := Event RealmCall RealmReply

def realmAsk (c : RealmCall) : RealmProg (RealmReply c) := Interaction.call c

def resolveRealmAddress (host : Bytes) (port : UInt16) : RealmProg RealmAddress :=
  match lib.inetPton host with
  | some ip => .ret ⟨ip,port,ip >>> 24 = 127⟩
  | none => do
      let res : Option UInt32 ← realmAsk (.getaddrinfo host)
      let ip := res.getD 0
      return ⟨ip,port,ip >>> 24 = 127⟩

def realmFlagNewPlayers : UInt8 := 0x20
def realmFlagRecommended : UInt8 := 0x40

def realmFlagMask : UInt8 :=
  realmFlagOffline ||| realmFlagNewPlayers ||| realmFlagRecommended ||| realmFlagSpecifyBuild

def buildRows (snapshot : RealmSnapshot) : List RealmRow → RealmProg RealmSnapshot
  | [] => .ret snapshot
  | row :: rows => do
      let externalAddr ← resolveRealmAddress lib row.address row.port.toUInt16
      let localAddr ← resolveRealmAddress lib row.localAddress row.port.toUInt16
      let submask ← resolveRealmAddress lib row.localSubnetMask 0
      let realmflags := if row.realmflags &&& ~~~realmFlagMask ≠ 0 then
        row.realmflags &&& realmFlagMask else row.realmflags
      buildRows (updateRealm lib snapshot row externalAddr localAddr submask realmflags
        (clampSecurity lib.toSharedLibrary row.allowedSecurityLevel)) rows

def buildSnapshot : RealmProg RealmSnapshot := do
  let result : RealmResult ← realmAsk .query
  buildRows lib .empty result.rows

def runIfDue (now : Int) (refresh : RealmProg Unit) : RealmProg Bool := do
  let locked : Bool ← realmAsk .tryLock
  if locked then
    let isDue : Bool ← realmAsk (.due now)
    if isDue then
      let _ ← realmAsk (.setNextUpdate now)
      refresh
      let _ ← realmAsk .unlock
      return true
    else
      let _ ← realmAsk .unlock
      return false
  else return false

def refreshSnapshot : RealmProg Unit := do
  let snapshot ← buildSnapshot lib
  let _ ← realmAsk (.publish snapshot)
  return ()

def updateIfNeed : RealmProg Bool := do
  let now : Int ← realmAsk .time
  runIfDue now (refreshSnapshot lib)

def initializeRealms (updateInterval : UInt32) : RealmProg Unit := do
  refreshSnapshot lib
  let now : Int ← realmAsk .time
  let _ ← realmAsk (.reset updateInterval now)
  return ()

def getRealmsForBuild (build : Nat) : RealmProg (List Realm) := do
  let snapshot : RealmSnapshot ← realmAsk .load
  return snapshot.view (belongsToVersion build)

end

structure RealmList where
  m_snapshot : RealmSnapshot
  m_mutex : Bool
  m_interval : UInt32
  m_nextUpdate : Int

def RealmList.fresh : RealmList := ⟨.empty,false,0,0⟩

def RealmList.realmsForBuild (realms : RealmList) (build : Nat) : List Realm :=
  realms.m_snapshot.view (belongsToVersion build)

/-- The gate and the store answer for themselves, and everything else is answered from
outside. A free lock may still refuse. -/
def realmEnv {δ : Type} (outside : Env RealmCall RealmReply δ) :
    Env RealmCall RealmReply (RealmList × δ)
  | .tryLock, (realms,d) =>
      if realms.m_mutex then (false,(realms,d))
      else
        let locked : Bool := (outside .tryLock d).1
        (locked,({ realms with m_mutex := locked },(outside .tryLock d).2))
  | .due now, (realms,d) =>
      (decide (realms.m_interval ≠ 0 ∧ realms.m_nextUpdate ≤ now),(realms,d))
  | .setNextUpdate now, (realms,d) =>
      ((),({ realms with m_nextUpdate := now+realms.m_interval.toNat },d))
  | .unlock, (realms,d) => ((),({ realms with m_mutex := false },d))
  | .reset interval nextUpdate, (realms,d) =>
      ((),({ realms with m_interval := interval, m_nextUpdate := nextUpdate },d))
  | .publish snapshot, (realms,d) => ((),({ realms with m_snapshot := snapshot },d))
  | .load, (realms,d) => (realms.m_snapshot,(realms,d))
  | .time, (realms,d) => ((outside .time d).1,(realms,(outside .time d).2))
  | .query, (realms,d) => ((outside .query d).1,(realms,(outside .query d).2))
  | .getaddrinfo host, (realms,d) =>
      ((outside (.getaddrinfo host) d).1,(realms,(outside (.getaddrinfo host) d).2))

end Realmd
