import HmsClient.RingScan
import HmsClient.Cluster
import HmsClient.ClusterProofs
import HmsClient.StickyEndpoint
import HmsClient.Interleaving
import HmsClient.PoolLimits
import HmsClient.CauseTree
import HmsClient.Errors
import HmsClient.RetryProofs
import HmsClient.DialErrors
import HmsClient.NilSlice
import HmsClient.ConvertProofs
import HmsClient.Interner
import HmsClient.ColumnIntern
import HmsClient.Statistics
import HmsClient.PeerScript
import HmsClient.PeerPlay
import HmsClient.Requests
import HmsClient.Operations
import HmsClient.ConnectionHygiene
import HmsClient.NotificationLog
import HmsClient.QualifiedName
import HmsClient.CatalogRouting
import HmsClient.Attempts
import HmsClient.EndpointHealth
import HmsClient.CallDeadline
import HmsClient.LastAttempt
import HmsClient.SessionRelease
import HmsClient.KerberosSession
import HmsClient.SaslHandshake
import HmsClient.ErrorWrapping
import HmsClient.NewClient
import HmsClient.PercentCoding
import HmsClient.PartitionNames
import HmsClient.LegacyForms
import HmsClient.Batching
import HmsClient.BackingArray
import HmsClient.PartitionServer
import HmsClient.DropByNames
import HmsClient.FormsAgree
import HmsClient.ByteReader
import HmsClient.SaslFraming
import HmsClient.ReplyBudget
import HmsClient.DeadlineCallbacks
import HmsClient.ChunkStream
import HmsClient.StreamingReads
import HmsClient.StatisticsOrder
import HmsClient.SliceMemory
import HmsClient.WrapToken
import HmsClient.GssToken
import HmsClient.CreateCodec
import HmsClient.LockTable
import HmsClient.GoStrings
import HmsClient.PartitionFilter
import HmsClient.FakeMetastore
import HmsClient.FailedRequests
import HmsClient.TablePartitions
import HmsClient.NetUrl
import HmsClient.UrlPasswords
import HmsClient.Endpoints
import HmsClient.EndpointErrors
import HmsClient.LockScopes
import HmsClient.NameAgreement
import HmsClient.StreamParser
import HmsClient.ReadAhead
import HmsClient.CallRecorder
import HmsClient.TruncatedMessages
import HmsClient.TestServer
import HmsClient.ServerShutdown
import HmsClient.StopReturns
import HmsClient.ExclusiveLocks
import HmsClient.KeyedMap
import HmsClient.Namespace
import HmsClient.NamespaceRuns
import HmsClient.FakeServer
import HmsClient.ClientNamespace
import HmsClient.ClientRuns
import HmsClient.Transactions
import HmsClient.ClientOptions
import HmsClient.ConnectionSetup
import HmsClient.Credentials
import HmsClient.RequestHeaders
import HmsClient.LogCursor
import HmsClient.EventFeed
import HmsClient.CreatedTables
import HmsClient.TableFormats
import HmsClient.IcebergCommits
import HmsClient.RepeatedAdds
import HmsClient.GssMechanism
import HmsClient.GssHandshake
