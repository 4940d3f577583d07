import Diego.GoMap
import Diego.Delta
import Diego.KeyedFold
import Diego.Ledger
import Diego.Machine
import Diego.Mutex
import Diego.Numeral
import Diego.Fallible
import Diego.LexicalPath
import Diego.Process
import Diego.Duplex
import Diego.FileTree
import Diego.Utf8
import Diego.Overlay
import Diego.Models.LRP
import Diego.Models.Scheduling
import Diego.RouteEmitter.Endpoint
import Diego.RouteEmitter.RoutingTable
import Diego.RouteEmitter.Diff
import Diego.RouteEmitter.Entries
import Diego.RouteEmitter.Cells
import Diego.RouteEmitter.Handler
import Diego.RouteEmitter.Pairings
import Diego.RouteEmitter.DesiredInstances
import Diego.RouteEmitter.RouterIdentity
import Diego.RouteEmitter.Watcher
import Diego.RouteEmitter.Replay
import Diego.RouteEmitter.Freshness
import Diego.RouteEmitter.Announcements
import Diego.RouteEmitter.Unregistration
import Diego.RouteEmitter.Sender
import Diego.RouteEmitter.Emissions
import Diego.RouteEmitter.Selection
import Diego.Auction.Types
import Diego.Auction.Cell
import Diego.Auction.Scheduler
import Diego.Auction.Placement
import Diego.Auction.Conservation
import Diego.Auction.Capacity
import Diego.Auction.Runner
import Diego.Auction.Priority
import Diego.Auction.Balance
import Diego.CachedDownloader.FileCache
import Diego.CachedDownloader.Holders
import Diego.CachedDownloader.Lifetime
import Diego.CachedDownloader.Limiter
import Diego.CachedDownloader.Contents
import Diego.CachedDownloader.CurrentEntries
import Diego.CachedDownloader.Served
import Diego.CachedDownloader.LastAdded
import Diego.CachedDownloader.Refinement
import Diego.CachedDownloader.Downloader
import Diego.CachedDownloader.UseCounts
import Diego.CachedDownloader.References
import Diego.CachedDownloader.Checksums
import Diego.CachedDownloader.Recovery
import Diego.Executor.Container
import Diego.Executor.StoreNode
import Diego.Executor.NodeSteps
import Diego.Executor.ContainerStore
import Diego.Executor.Destruction
import Diego.Executor.Lifecycle
import Diego.Executor.Completions
import Diego.Executor.Updates
import Diego.Executor.Dependencies
import Diego.Executor.Volumes
import Diego.Executor.Metrics
import Diego.Executor.RunStep
import Diego.Executor.TimeoutStep
import Diego.Executor.HealthCheck
import Diego.Executor.Ifrit
import Diego.Executor.SerialStep
import Diego.Executor.Depot
import Diego.Executor.LogStreamer
import Diego.Executor.Ports
import Diego.Executor.AssignedPorts
import Diego.Executor.ReadinessStep
import Diego.Executor.Routable
import Diego.Rep.AuctionCellRep
import Diego.Rep.TaskProcessor
import Diego.OperationQ.Queue
import Diego.Buildpack.Launch
import Diego.Buildpack.Runner
import Diego.SSH.PermissionsBuilder
import Diego.SSH.CFAuthenticator
import Diego.SSH.SessionChannelHandler
import Diego.SCP.Session
import Diego.SCP.Copy
import Diego.SCP.Host
import Diego.SCP.Containment
import Diego.SCP.Messages
import Diego.SCP.Exchange
import Diego.SCP.Transfer
import Diego.Auction.Failures
import Diego.Auction.Inflight
import Diego.Executor.GardenHealth
import Diego.LocalDriver
import Diego.WorkPool
