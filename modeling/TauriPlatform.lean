import TauriPlatform.ConflictRegistrations
import TauriPlatform.ConflictAgreement
import TauriPlatform.NativeBridge
import TauriPlatform.SqlGuard
import TauriPlatform.InboxFaults
import TauriPlatform.AdministrationDurable
import TauriPlatform.TaskQueueDurable
import TauriPlatform.HandshakeInput
import TauriPlatform.MembershipDecisions
import TauriPlatform.TrustedSession
import TauriPlatform.DeviceLifecycle
import TauriPlatform.WidgetAdmission
import TauriPlatform.DeferredTransactions
import TauriPlatform.NativeHlcClock
import TauriPlatform.SignedContent
import TauriPlatform.RunnerOrder
import TauriPlatform.TaskDedupe
import TauriPlatform.TaskWorkerDispatch
import TauriPlatform.BackgroundLifecycle
import TauriPlatform.MemoryConnectionRuns
import TauriPlatform.NativeDeviceIdentity
import TauriPlatform.LoginLockout
import TauriPlatform.EnvelopeStorage
import TauriPlatform.SessionTransitions
import TauriPlatform.ConnectionTracking
import TauriPlatform.TransportAgreement
import TauriPlatform.ConflictMerging
import TauriPlatform.SyncWakeUps
import TauriPlatform.TaskSchedule
import TauriPlatform.TaskRetryDelays
import TauriPlatform.AuthorizationDecisions
import TauriPlatform.FeatureResolution
import TauriPlatform.BaseRepository
import TauriPlatform.TaskAlertRuns
import TauriPlatform.SqlScriptSplitting
import TauriPlatform.RetentionPruning
import TauriPlatform.AuditRetention
import TauriPlatform.FeatureRegistration
import TauriPlatform.HlcOrder
import TauriPlatform.NativeBase64
import TauriPlatform.NativeCalendar
import TauriPlatform.KeyboardWedgeScanner
import TauriPlatform.ConsoleLogger
import TauriPlatform.NotesOrder
import TauriPlatform.ImportRuns
import TauriPlatform.ExportTables
