import ScreenGoblin.Json
import ScreenGoblin.Async
import ScreenGoblin.PlayerManifest
import ScreenGoblin.PlayerStore
import ScreenGoblin.ManifestManager
import ScreenGoblin.ManagerMoves
import ScreenGoblin.ManagerSections
import ScreenGoblin.ManagerCalls
import ScreenGoblin.ManagerStages
import ScreenGoblin.SlotLaws
import ScreenGoblin.AssetRetention
import ScreenGoblin.Schedule
import ScreenGoblin.Collections
import ScreenGoblin.ServerRecords
import ScreenGoblin.MediaPolicy
import ScreenGoblin.ReleaseCanonical
import ScreenGoblin.ReleaseCommands
import ScreenGoblin.StoreOperations
import ScreenGoblin.ReleaseSteps
import ScreenGoblin.FourEyes
import ScreenGoblin.ContentReferences
import ScreenGoblin.DeliveryLaws
import ScreenGoblin.ReleaseLaws
import ScreenGoblin.ReleaseReplay
import ScreenGoblin.ScopedAuthorization
import ScreenGoblin.ScopedEvidence
import ScreenGoblin.Emergencies
import ScreenGoblin.Scripts
import ScreenGoblin.AuditTrail
import ScreenGoblin.AccountOperations
import ScreenGoblin.OwnerContinuity
import ScreenGoblin.AuditedUsers
import ScreenGoblin.DeviceEnrollment
import ScreenGoblin.DevicePairing
import ScreenGoblin.DeviceProof
import ScreenGoblin.JsonText
import ScreenGoblin.SignedEnvelope
import ScreenGoblin.HeartbeatScheduler
import ScreenGoblin.HeartbeatLaws
import ScreenGoblin.HeartbeatFloor
import ScreenGoblin.SessionSteps
import ScreenGoblin.SessionRevocation
import ScreenGoblin.JournalLaws
import ScreenGoblin.PrismaRows
import ScreenGoblin.PrismaSelection
import ScreenGoblin.PrismaCommands
import ScreenGoblin.PrismaSnapshots
import ScreenGoblin.PrismaRuns
import ScreenGoblin.PrismaDigests
import ScreenGoblin.PrismaReplays
import ScreenGoblin.PrismaDecommission
import ScreenGoblin.CompatibilityGrants
import ScreenGoblin.CompatibilityLaws
import ScreenGoblin.WallClock
import ScreenGoblin.WallCaches
import ScreenGoblin.Base64Url
import ScreenGoblin.MediaTokens
import ScreenGoblin.Streams
import ScreenGoblin.ByteLength
import ScreenGoblin.ThreeValued
import ScreenGoblin.CandidateTable
import ScreenGoblin.JournalCodec
import ScreenGoblin.DailyWindow
import ScreenGoblin.PlaybackBoundary
import ScreenGoblin.RollbackLaws
import ScreenGoblin.CanonicalForms
import ScreenGoblin.SnapshotForms
import ScreenGoblin.SnapshotDigests
import ScreenGoblin.JsValues
import ScreenGoblin.CanonicalJson
import ScreenGoblin.BodyDigests
import ScreenGoblin.Der
import ScreenGoblin.EcdsaDer
import ScreenGoblin.SignedDeadline
import ScreenGoblin.PrefetchWorkers
import ScreenGoblin.MediaCacheFiles
import ScreenGoblin.MediaCacheStore
import ScreenGoblin.MediaReservations
import ScreenGoblin.AuditMetadata
import ScreenGoblin.AuditMetadataLaws
import ScreenGoblin.PairingRecovery
import ScreenGoblin.PairingSession
import ScreenGoblin.PairingLaws
import ScreenGoblin.PairingRuns
import ScreenGoblin.AssetDownloads
import ScreenGoblin.AssetDownloadLaws
import ScreenGoblin.AssetDownloadRuns
import ScreenGoblin.Lineages
import ScreenGoblin.DeviceCalls
import ScreenGoblin.DeviceSteps
import ScreenGoblin.DeviceSpecs
import ScreenGoblin.DeviceLineages
import ScreenGoblin.DeviceProofRuns
import ScreenGoblin.EnrollmentLaws
import ScreenGoblin.EnrollmentSteps
import ScreenGoblin.EnrollmentRuns
import ScreenGoblin.ManifestContents
import ScreenGoblin.ManifestAgreement
import ScreenGoblin.FixedWindows
import ScreenGoblin.RateLimits
import ScreenGoblin.LoginRoutes
import ScreenGoblin.LoginGuesses
