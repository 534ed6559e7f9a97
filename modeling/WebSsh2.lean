import WebSsh2.Auth.Isolation
import WebSsh2.Page.Injection
import WebSsh2.Socket.EnvironmentForwarding
import WebSsh2.Socket.PolicyCoverage
import WebSsh2.Sftp.DownloadCancel
import WebSsh2.Sftp.DownloadOrder
import WebSsh2.Sftp.DownloadContent
import WebSsh2.Sftp.DownloadRelease
import WebSsh2.Sftp.ShellDownloadOutcome
import WebSsh2.Sftp.UploadHandles
import WebSsh2.Sftp.UploadCompletion
import WebSsh2.Sftp.UploadNonInterference
import WebSsh2.HostKey.Flags
import WebSsh2.Logging.AuditRecords
import WebSsh2.Telnet.OptionTable
import WebSsh2.Telnet.LoginOutput
import WebSsh2.Sftp.ListingAgreement
import WebSsh2.Sftp.SftpSessions
import WebSsh2.Socket.DataFlowPauses
import WebSsh2.HostKey.Pinning
import WebSsh2.Prompt.Cancel
import WebSsh2.Prompt.Rounds
import WebSsh2.Ssh.SubnetMatching
import WebSsh2.Ssh.LateEvents
import WebSsh2.Auth.LiveSessions
import WebSsh2.Socket.Lifetime
import WebSsh2.Http.EphemeralSessionStore
import WebSsh2.Config.Precedence
import WebSsh2.Sftp.SlidingWindow
import WebSsh2.Sftp.BlockedExtensions
import WebSsh2.Socket.Backpressure
import WebSsh2.Prompt.Accounting
import WebSsh2.Sftp.UploadRollback
import WebSsh2.Sftp.JoinPath
import WebSsh2.State.Listeners
import WebSsh2.Security.RateLimiter
import WebSsh2.Logging.TokenBucket
import WebSsh2.Logging.SyslogConnections
import WebSsh2.State.TerminalCopies
import WebSsh2.Ssh.ExecOutput
import WebSsh2.Socket.ErrorTypes
import WebSsh2.Security.ContentSecurityPolicy
import WebSsh2.Http.PortSoundness
import WebSsh2.Validation.EnvironmentText
import WebSsh2.Validation.EnvironmentFilters
import WebSsh2.Socket.KeyboardRounds
import WebSsh2.Ssh.AlgorithmAnalyzer
import WebSsh2.HostKey.HostsFile
import WebSsh2.Theming.ThemeLoader
import WebSsh2.Release.HashDirectory
import WebSsh2.Services.Container
import WebSsh2.Config.Disclosure
import WebSsh2.Page.HeaderBackground
import WebSsh2.Logging.StructuredLogger
import WebSsh2.Socket.ClientMessages
import WebSsh2.Sftp.OperationResults
import WebSsh2.Telnet.ServiceTraffic
import WebSsh2.Release.BundleVerification
