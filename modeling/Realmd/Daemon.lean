import Realmd.CommandLine
import Realmd.ForcedBuilds
import Realmd.Protocols
set_option autoImplicit false

namespace Realmd
open ByteCodec Interaction

structure Tm where
  tm_sec : Int
  tm_min : Int
  tm_hour : Int
  tm_mday : Int
  tm_mon : Int
  tm_year : Int
  tm_wday : Int
  tm_yday : Int
  tm_isdst : Int
  deriving DecidableEq, Repr

inductive ScheduledExitMode where
  | shutdown
  | restart
  deriving DecidableEq, Repr

structure ScheduledExitSchedule where
  enabled : Bool
  dayOfWeek : UInt32
  hour : UInt32
  minute : UInt32
  mode : ScheduledExitMode
  deriving DecidableEq, Repr

/-- What the daemon uses of the shared core besides: the scheduled exit, whose state is
its own, and the constants of the build. -/
structure DaemonLibrary (σ : Type) where
  /-- `ScheduledExitSchedule()`. -/
  schedule : ScheduledExitSchedule
  schedule_disabled : schedule.enabled = false
  /-- `ScheduledExitState()`. -/
  scheduleState : σ
  parseScheduledExitUInt32 : Bytes → Option UInt32
  parseScheduledExitTime : Bytes → Option (UInt32 × UInt32)
  parseScheduledExitMode : Bytes → Option ScheduledExitMode
  markScheduledExitHandledIfMatching : ScheduledExitSchedule → Tm → σ → Bool × σ
  checkAndMarkScheduledExit : ScheduledExitSchedule → Tm → σ → Bool × σ
  realmdConfigLocation : Bytes
  realmdConfigName : Bytes
  defaultRealmserverPort : Int

inductive Cleanup where
  | retireAccountBans
  | deleteIpBans
  deriving DecidableEq, Repr

/-- What `main` asks of its surroundings. `stopEvent` is the global that the handler of
the signals sets. -/
inductive DaemonCall where
  | setSource (file : Bytes)
  | startDaemon
  | stopDaemon
  | getStringDefault (name value : Bytes)
  | getIntDefault (name : Bytes) (value : Int)
  | getBoolDefault (name : Bytes) (value : Bool)
  | createPIDFile (file : Bytes)
  | initializeDatabase (dbstring : Bytes)
  | checkDatabaseVersion
  | haltDelayThread
  | initializeRealms (updateInterval : UInt32)
  | realmCount
  | beginTransaction
  | execute (statement : Cleanup)
  | commitTransaction
  | startServer (port : UInt16) (bindIp : Bytes) (authTimeout : UInt32) (policy : PatchPolicy)
  | hookSignals
  | unhookSignals
  | allowAsyncTransactions
  | detachDaemon
  | sleep
  | updateServer
  | flushLog
  | pingDatabase
  | localtime
  | stopEvent
  | stopServer
  deriving DecidableEq, Repr

abbrev DaemonReply : DaemonCall → Type
  | .getStringDefault _ _ => Bytes
  | .getIntDefault _ _ => Int
  | .createPIDFile _ | .realmCount => UInt32
  | .localtime => Tm
  | .setSource _ | .getBoolDefault _ _ | .initializeDatabase _ | .checkDatabaseVersion
  | .startServer _ _ _ _ | .stopEvent => Bool
  | _ => Unit

instance : (c : DaemonCall) → DecidableEq (DaemonReply c)
  | .getStringDefault _ _ => inferInstanceAs (DecidableEq (List UInt8))
  | .getIntDefault _ _ => inferInstanceAs (DecidableEq Int)
  | .createPIDFile _ | .realmCount => inferInstanceAs (DecidableEq UInt32)
  | .localtime => inferInstanceAs (DecidableEq Tm)
  | .setSource _ | .getBoolDefault _ _ | .initializeDatabase _ | .checkDatabaseVersion
  | .startServer _ _ _ _ | .stopEvent => inferInstanceAs (DecidableEq Bool)
  | .startDaemon | .stopDaemon | .haltDelayThread | .initializeRealms _ | .beginTransaction
  | .execute _ | .commitTransaction | .hookSignals | .unhookSignals | .allowAsyncTransactions
  | .detachDaemon | .sleep | .updateServer | .flushLog | .pingDatabase | .stopServer =>
      inferInstanceAs (DecidableEq Unit)

abbrev DaemonEvent := Event DaemonCall DaemonReply
abbrev DaemonProg (α : Type) := Prog DaemonCall DaemonReply α

def daemonAsk (c : DaemonCall) : DaemonProg (DaemonReply c) := .ask c .ret

section
variable {σ : Type} (lib : DaemonLibrary σ)

def loadScheduledExitConfig : DaemonProg (ScheduledExitSchedule × σ) := do
  if !(← daemonAsk (.getBoolDefault (ascii "ScheduledExit.Enable") false)) then
    return (lib.schedule,lib.scheduleState)
  let dayText : Bytes ←
    daemonAsk (.getStringDefault (ascii "ScheduledExit.DayOfWeek") (ascii "3"))
  match lib.parseScheduledExitUInt32 dayText with
  | none => return (lib.schedule,lib.scheduleState)
  | some dayOfWeek =>
    if dayOfWeek > 6 then return (lib.schedule,lib.scheduleState)
    let timeText : Bytes ←
      daemonAsk (.getStringDefault (ascii "ScheduledExit.Time") (ascii "05:00"))
    match lib.parseScheduledExitTime timeText with
    | none => return (lib.schedule,lib.scheduleState)
    | some (hour,minute) =>
      let modeText : Bytes ←
        daemonAsk (.getStringDefault (ascii "ScheduledExit.Mode") (ascii "restart"))
      match lib.parseScheduledExitMode modeText with
      | none => return (lib.schedule,lib.scheduleState)
      | some mode =>
        let schedule : ScheduledExitSchedule := ⟨true,dayOfWeek,hour,minute,mode⟩
        let now : Tm ← daemonAsk .localtime
        return (schedule,
          (lib.markScheduledExitHandledIfMatching schedule now lib.scheduleState).2)

def startDB : DaemonProg Bool := do
  let dbstring : Bytes ← daemonAsk (.getStringDefault (ascii "LoginDatabaseInfo") [])
  if dbstring = [] then return false
  if !(← daemonAsk (.initializeDatabase dbstring)) then return false
  if !(← daemonAsk .checkDatabaseVersion) then
    let _ ← daemonAsk .haltDelayThread
    return false
  return true

structure Housekeeping (σ : Type) where
  stopEvent : Bool
  exitCode : UInt8
  s_scheduledExit : ScheduledExitSchedule
  s_scheduledExitState : σ
  numLoops : UInt32
  loopCounter : UInt32
  logFlushCounter : UInt32

/-- A look at `stopEvent`: it stays set once it was. -/
def Housekeeping.look (s : Housekeeping σ) : DaemonProg (Housekeeping σ) := do
  return { s with stopEvent := s.stopEvent || (← daemonAsk .stopEvent) }

def checkScheduledExit (s : Housekeeping σ) : DaemonProg (Housekeeping σ) := do
  if !s.s_scheduledExit.enabled then return s
  let s ← s.look
  if s.stopEvent then return s
  let localTime : Tm ← daemonAsk .localtime
  match lib.checkAndMarkScheduledExit s.s_scheduledExit localTime s.s_scheduledExitState with
  | (false,state) => return { s with s_scheduledExitState := state }
  | (true,state) =>
    return { s with
      s_scheduledExitState := state
      exitCode := if s.s_scheduledExit.mode = .restart then 2 else 0
      stopEvent := true }

def flushIfDue (s : Housekeeping σ) : DaemonProg (Housekeeping σ) := do
  let s := { s with logFlushCounter := s.logFlushCounter+1 }
  if s.logFlushCounter ≥ 10 then
    let s := { s with logFlushCounter := 0 }
    let _ ← daemonAsk .flushLog
    return s
  return s

def pingIfDue (s : Housekeeping σ) : DaemonProg (Housekeeping σ) := do
  let s := { s with loopCounter := s.loopCounter+1 }
  if s.loopCounter = s.numLoops then
    let s := { s with loopCounter := 0 }
    let _ ← daemonAsk .pingDatabase
    return s
  return s

def housekeepingPass (s : Housekeeping σ) : DaemonProg (Housekeeping σ) := do
  let _ ← daemonAsk .sleep
  let _ ← daemonAsk .updateServer
  let s ← flushIfDue s
  let s ← pingIfDue s
  checkScheduledExit lib s

/-- The loop of `main`, for some number of passes at most. -/
def mainLoop : Nat → Housekeeping σ → DaemonProg (Option (Housekeeping σ))
  | 0, _ => .ret none
  | n+1, s => do
    let s ← s.look
    if s.stopEvent then return some s
    mainLoop n (← housekeepingPass lib s)

def configuredAuthTimeout (seconds : Int) : UInt32 :=
  if seconds < 0 then 30 else UInt32.ofInt seconds

def cleanupBans : DaemonProg Unit := do
  let _ ← daemonAsk .beginTransaction
  let _ ← daemonAsk (.execute .retireAccountBans)
  let _ ← daemonAsk (.execute .deleteIpBans)
  let _ ← daemonAsk .commitTransaction
  return ()

def openServer : DaemonProg Bool := do
  let rmport : Int ←
    daemonAsk (.getIntDefault (ascii "RealmServerPort") lib.defaultRealmserverPort)
  let bindIp : Bytes ← daemonAsk (.getStringDefault (ascii "BindIP") (ascii "0.0.0.0"))
  let seconds : Int ← daemonAsk (.getIntDefault (ascii "AuthSessionTimeout") 30)
  let patchEnabled : Bool ← daemonAsk (.getBoolDefault (ascii "Patch.Enable") true)
  let forcedBuilds : Bytes ← daemonAsk (.getStringDefault (ascii "Patch.ForceBuilds") [])
  match PatchPolicy.parse patchEnabled forcedBuilds with
  | none => return false
  | some patchPolicy =>
    if ← daemonAsk (.startServer (UInt16.ofInt rmport) bindIp (configuredAuthTimeout seconds)
        patchPolicy) then return true
    -- `~AuthServer`
    let _ ← daemonAsk .stopServer
    return false

def loadConfiguration (cl : CommandLine) : DaemonProg Bool := do
  if ← daemonAsk (.setSource cl.cfg_file) then return true
  daemonAsk (.setSource lib.realmdConfigName)

def daemonCommand : Option ServiceDaemonMode → DaemonProg Unit
  | none => .ret ()
  | some .run => .ask .startDaemon fun _ => .ret ()
  | some .stop => .ask .stopDaemon fun _ => .ret ()

def writePidFile : DaemonProg Bool := do
  let pidfile : Bytes ← daemonAsk (.getStringDefault (ascii "PidFile") [])
  if pidfile = [] then return true
  return (← daemonAsk (.createPIDFile pidfile)) ≠ 0

def loadRealms : DaemonProg Bool := do
  let delay : Int ← daemonAsk (.getIntDefault (ascii "RealmsStateUpdateDelay") 20)
  let _ ← daemonAsk (.initializeRealms (UInt32.ofInt delay))
  return (← daemonAsk .realmCount) ≠ 0

def prepare (cl : CommandLine) : DaemonProg (Option (ScheduledExitSchedule × σ)) := do
  if !(← loadConfiguration lib cl) then return none
  daemonCommand cl.serviceDaemonMode
  let exit ← loadScheduledExitConfig lib
  if !(← writePidFile) then return none
  if !(← startDB) then return none
  if !(← loadRealms) then return none
  return some exit

/-- What has to go right before the loop: the state it starts in, or nothing. -/
def startup (cl : CommandLine) : DaemonProg (Option (Housekeeping σ)) := do
  match ← prepare lib cl with
  | none => return none
  | some (schedule,state) =>
    cleanupBans
    if !(← openServer lib) then return none
    let _ ← daemonAsk .hookSignals
    let _ ← daemonAsk .allowAsyncTransactions
    let minutes : Int ← daemonAsk (.getIntDefault (ascii "MaxPingTime") 30)
    let _ ← daemonAsk .detachDaemon
    return some ⟨false,0,schedule,state,UInt32.ofInt (minutes*600),0,0⟩

def shutdown : DaemonProg Unit := do
  let _ ← daemonAsk .stopServer
  let _ ← daemonAsk .haltDelayThread
  let _ ← daemonAsk .unhookSignals
  let _ ← daemonAsk .flushLog
  -- `~AuthServer`
  let _ ← daemonAsk .stopServer
  return ()

def main (passes : Nat) (args : List Bytes) : DaemonProg (Option UInt8) := do
  match parseArgs ⟨lib.realmdConfigLocation,none⟩ args with
  | .error code => return some code
  | .ok cl =>
    match ← startup lib cl with
    | none => return some 1
    | some s =>
      match ← mainLoop lib passes s with
      | none => return none
      | some s =>
        shutdown
        return some s.exitCode

end

end Realmd
