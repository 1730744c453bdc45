import ControlRoom.Foundation.Pool
import ControlRoom.Foundation.LinkedTable
import ControlRoom.Store.Statements
import ControlRoom.Auth.Primitives
import ControlRoom.Auth.RateLimit
import ControlRoom.Auth.Sessions
import ControlRoom.Auth.RotationChain
import ControlRoom.Auth.RotateFaults
import ControlRoom.Auth.RotateSafety
import ControlRoom.Api.Requests
import ControlRoom.Server.Calls
import ControlRoom.Server.Transitions
import ControlRoom.Server.Effects
import ControlRoom.Server.SingleUse
import ControlRoom.Server.Revocation
import ControlRoom.Server.Backoff
import ControlRoom.Server.Wizard
import ControlRoom.Server.PasswordChange
import ControlRoom.Browser.Custody
import ControlRoom.Browser.HonestTabs
import ControlRoom.Api.Handlers
import ControlRoom.Api.AuthSoundness
import ControlRoom.Api.SetupOwner
import ControlRoom.Server.Solo
import ControlRoom.Foundation.Channel
import ControlRoom.Jobs.Job
import ControlRoom.Jobs.Parties
import ControlRoom.Jobs.Listeners
import ControlRoom.Jobs.Streams
import ControlRoom.Store.Audit
import ControlRoom.Jobs.Runner
import ControlRoom.Browser.JobView
import ControlRoom.Foundation.Versioned
import ControlRoom.K8s.Requests
import ControlRoom.K8s.ConfigMaps
import ControlRoom.Browser.ConfigMapDrawer
import ControlRoom.K8s.Manifest
import ControlRoom.Foundation.JsonTree
import ControlRoom.Foundation.Rounding
import ControlRoom.K8s.RoundTrip
import ControlRoom.Foundation.Exclusive
import ControlRoom.Interactive.Sockets
import ControlRoom.Interactive.OneWriter
import ControlRoom.Interactive.Audited
import ControlRoom.Foundation.TokenBucket
import ControlRoom.Auth.LoginRate
import ControlRoom.Auth.BackoffSchedule
import ControlRoom.Api.LoginRuns
import ControlRoom.Api.RetryAfter
import ControlRoom.Api.UsernameSecrecy
import ControlRoom.Foundation.Lines
import ControlRoom.Docker.Logs
import ControlRoom.Foundation.Positions
import ControlRoom.Network.Firewall
import ControlRoom.Api.LogoutScope
import ControlRoom.Api.Faults
import ControlRoom.Api.PasswordScope
import ControlRoom.Trail.Operations
import ControlRoom.Trail.Records
import ControlRoom.Trail.Accounts
import ControlRoom.Trail.Completeness
import ControlRoom.Foundation.Scanner
import ControlRoom.Docker.TtyLogs
import ControlRoom.Text.Strconv
import ControlRoom.Logs.Journal
import ControlRoom.Logs.Readers
import ControlRoom.Foundation.Pattern
import ControlRoom.Foundation.Words
import ControlRoom.Text.Strings
import ControlRoom.Network.UfwStatus
import ControlRoom.Network.RuleArgs
import ControlRoom.Updates.Apt
import ControlRoom.Foundation.Lookup
import ControlRoom.Collectors.CpuStat
import ControlRoom.Collectors.CpuUsage
import ControlRoom.Collectors.Disks
import ControlRoom.Store.Migrations
import ControlRoom.Text.Pem
import ControlRoom.Server.FirstBoot
import ControlRoom.Foundation.Slices
import ControlRoom.Foundation.GrowBuffer
import ControlRoom.Jobs.RingMemory
import ControlRoom.Foundation.Traces
import ControlRoom.Foundation.Utf8
import ControlRoom.Jobs.StreamText
import ControlRoom.Jobs.Lifecycle
import ControlRoom.K8s.Names
import ControlRoom.Browser.PublicAddress
import ControlRoom.Browser.UnsavedEdits
import ControlRoom.Browser.ManifestEditor
import ControlRoom.Browser.EditorVersions
import ControlRoom.Foundation.Reader
import ControlRoom.Foundation.Options
import ControlRoom.Logs.Query
import ControlRoom.Logs.Relays
import ControlRoom.Logs.RelayDelivery
import ControlRoom.Foundation.Settling
import ControlRoom.Logs.RelayTeardown
import ControlRoom.Foundation.Routes
import ControlRoom.Api.Routes
import ControlRoom.Foundation.EventRuns
import ControlRoom.Foundation.PageSockets
import ControlRoom.Foundation.MergePatch
import ControlRoom.Browser.StatsFeed
import ControlRoom.Browser.LogViews
import ControlRoom.Browser.ShellViews
import ControlRoom.K8s.Workloads
import ControlRoom.Collectors.NetRates
import ControlRoom.Collectors.MemInfo
import ControlRoom.Interactive.Teardown
import ControlRoom.Interactive.Traffic
import ControlRoom.Server.SecondFactor
import ControlRoom.Browser.PageQueries
