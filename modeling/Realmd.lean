import Realmd.ByteCodec
import Realmd.Decimal
import Realmd.Words
import Realmd.Quoting
import Realmd.Interaction
import Realmd.Interleaving
import Realmd.Framing
import Realmd.AuthProtocolGuard
import Realmd.FrameGrammar
import Realmd.ClientPolicy
import Realmd.ForcedBuilds
import Realmd.SharedLibrary
import Realmd.ReferenceLibrary
import Realmd.Session
import Realmd.Srp6
import Realmd.Client
import Realmd.Handlers
import Realmd.RealmListReply
import Realmd.Dispatch
import Realmd.FrameBody
import Realmd.GuardAgreement
import Realmd.Runs
import Realmd.Fragmentation
import Realmd.HandlerSpecs
import Realmd.ChallengeDecoding
import Realmd.History
import Realmd.Authentication
import Realmd.Publication
import Realmd.KeyDerivation
import Realmd.Gates
import Realmd.SrpCompleteness
import Realmd.VerifierReuse
import Realmd.RealmListLevels
import Realmd.StoredKey
import Realmd.Lockout
import Realmd.PendingInput
import Realmd.PatchTransfer
import Realmd.PatchDelivery
import Realmd.PatchCursor
import Realmd.PatchLifecycle
import Realmd.PatchPaths
import Realmd.AuthServer
import Realmd.AuthDeadline
import Realmd.AuthCounters
import Realmd.Decoder
import Realmd.RealmListDecode
import Realmd.ReplyLayout
import Realmd.RealmList
import Realmd.FailedRefresh
import Realmd.SnapshotRows
import Realmd.RealmFamily
import Realmd.RealmListCounters
import Realmd.Protocols
import Realmd.ProgramLogic
import Realmd.RefreshGate
import Realmd.RealmRefresh
import Realmd.SqlText
import Realmd.SqlStatements
import Realmd.PatchResume
import Realmd.PatchBacklog
import Realmd.ClientView
import Realmd.LoginDatabase
import Realmd.BanEnforcement
import Realmd.SessionKeys
import Realmd.CommandLine
import Realmd.Daemon
import Realmd.Housekeeping
import Realmd.Lifecycle
import Realmd.ProofBinding
import Realmd.VerifierRows
import Realmd.SessionBudget
import Realmd.DaemonSessions
import Realmd.RealmTable
