import HNodeMgmt.Lib.Machine
import HNodeMgmt.Lib.Reader
import HNodeMgmt.Lib.Upsert
import HNodeMgmt.RefPlatform
import HNodeMgmt.Arbiter.Ownership
import HNodeMgmt.Arbiter.Indexes
import HNodeMgmt.Arbiter.Commands
import HNodeMgmt.Arbiter.Isolation
import HNodeMgmt.Arbiter.Addresses
import HNodeMgmt.Arbiter.Comeback
import HNodeMgmt.Arbiter.OwnRecord
import HNodeMgmt.Arbiter.HealthSource
import HNodeMgmt.Arbiter.Entitled
import HNodeMgmt.Arbiter.LockDiscipline
import HNodeMgmt.Arbiter.RecordMutex
import HNodeMgmt.Arbiter.DiscoveryOrder
import HNodeMgmt.Arbiter.SrvEdits
import HNodeMgmt.Arbiter.CommandBody
import HNodeMgmt.Arbiter.MappingPush
import HNodeMgmt.Arbiter.Rebuild
import HNodeMgmt.Arbiter.ServiceURI
import HNodeMgmt.Arbiter.Rediscovery
import HNodeMgmt.Arbiter.Fairness
import HNodeMgmt.Arbiter.Settles
import HNodeMgmt.Arbiter.Managed
import HNodeMgmt.Arbiter.Reports
import HNodeMgmt.Scgi.Decode
import HNodeMgmt.Scgi.SlowClient
import HNodeMgmt.Scgi.Answered
import HNodeMgmt.Scgi.Netstring
import HNodeMgmt.Scgi.Ready
import HNodeMgmt.Scgi.Transfer
import HNodeMgmt.Scgi.Descriptors
import HNodeMgmt.Scgi.ProxyPath
import HNodeMgmt.Scgi.ResponseHeaders
import HNodeMgmt.Scgi.ContentLength
import HNodeMgmt.Scgi.HeaderBuffer
import HNodeMgmt.Scgi.Ticket
import HNodeMgmt.Scgi.LocalRequest
import HNodeMgmt.Scgi.LocalReply
import HNodeMgmt.Scgi.Exchange
import HNodeMgmt.Scgi.Integrity
import HNodeMgmt.Scgi.Ledger
import HNodeMgmt.Scgi.Drained
import HNodeMgmt.Daemon.Served
import HNodeMgmt.Daemon.Api
import HNodeMgmt.Daemon.Devices
