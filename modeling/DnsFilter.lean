import DnsFilter.Rules.RuleSet
import DnsFilter.Log.Metrics
import DnsFilter.Log.Ring
import DnsFilter.Net.SocketAddress
import DnsFilter.Digest.Sha256
import DnsFilter.Settings.File
import DnsFilter.Log.Writer
import DnsFilter.Filter.Service
import DnsFilter.Query
import DnsFilter.Web
import DnsFilter.CommandLine.Run
import DnsFilter.Main
import DnsFilter.Proofs.Rules.Suffixes
import DnsFilter.Proofs.Rules.Search
import DnsFilter.Proofs.Rules.Scan
import DnsFilter.Proofs.Log.Ring
import DnsFilter.Proofs.Log.Conservation
import DnsFilter.Proofs.Log.Accounting
import DnsFilter.Proofs.Log.Closing
import DnsFilter.Proofs.Filter.Refresh
import DnsFilter.Proofs.Filter.Progress
import DnsFilter.Proofs.Filter.Failing
import DnsFilter.Proofs.Filter.Session
import DnsFilter.Proofs.Filter.Skipping
import DnsFilter.Proofs.Log.Line
import DnsFilter.Proofs.Log.Record
import DnsFilter.Proofs.Filter.Verdicts
import DnsFilter.Proofs.Filter.Content
import DnsFilter.Proofs.Storage.Copies
import DnsFilter.Proofs.Filter.Course
import DnsFilter.Proofs.Filter.Waiting
import DnsFilter.Proofs.Filter.Cache
import DnsFilter.Proofs.Filter.Accounts
import DnsFilter.Proofs.Filter.Outcome
import DnsFilter.Proofs.Filter.Mirror
import DnsFilter.Proofs.Filter.Restart
import DnsFilter.Proofs.Log.Scheduling
import DnsFilter.Proofs.Filter.Closing
import DnsFilter.Proofs.Filter.Reports
import DnsFilter.Proofs.Rules.Ties
import DnsFilter.Proofs.Log.Clearing
import DnsFilter.Proofs.Log.Suppression
import DnsFilter.Proofs.Rules.Written
import DnsFilter.Proofs.Rules.SuffixMatching
import DnsFilter.Proofs.Log.RingRuns
import DnsFilter.Proofs.Log.Retention
import DnsFilter.Proofs.Dns.NormalForm
import DnsFilter.Proofs.Log.Queries
import DnsFilter.Proofs.Log.FailedRotation
import DnsFilter.Proofs.Log.DueRotation
import DnsFilter.Proofs.Rules.Numbering
import DnsFilter.Proofs.Clients.Owner
import DnsFilter.Proofs.Log.Counting
import DnsFilter.Proofs.Settings.Saving
import DnsFilter.Proofs.RefreshJob
import DnsFilter.Proofs.Log.NewArchive
