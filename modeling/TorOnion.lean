import TorOnion.Library.CString
import TorOnion.Address.InAddr
import TorOnion.Address.Ipv6Text
import TorOnion.Address.DottedQuad
import TorOnion.Address.Pton
import TorOnion.Address.Ntop
import TorOnion.Address.MappedQuad
import TorOnion.Address.Ntoa
import TorOnion.Address.Pipe
import TorOnion.Library.Comparator
import TorOnion.Version.Parse
import TorOnion.Version.Order
import TorOnion.Version.ProtoverSummary
import TorOnion.Version.Obsolete
import TorOnion.Library.SortedMap
import TorOnion.MountPoints.FilePath
import TorOnion.MountPoints.Registry
import TorOnion.MountPoints.Maps
import TorOnion.Library.Runs
import TorOnion.MountPoints.Overlap
import TorOnion.MountPoints.VirtualPath
import TorOnion.MountPoints.Crack
import TorOnion.MountPoints.Urls
import TorOnion.VulkanFence.Helper
import TorOnion.VulkanFence.Moves
import TorOnion.VulkanFence.Steps
import TorOnion.VulkanFence.Accounting
import TorOnion.VulkanFence.Fences
import TorOnion.VulkanFence.Retirement
import TorOnion.VulkanFence.Lifetimes
import TorOnion.HttpThread.Scheduler
import TorOnion.HttpThread.Requests
import TorOnion.HttpThread.SslContexts
import TorOnion.HttpThread.Eviction
import TorOnion.HttpThread.ConnectPaths
import TorOnion.HttpThread.ContextCache
import TorOnion.HttpThread.MessageQueues
import TorOnion.HttpThread.WakeUps
import TorOnion.HttpThread.BodyBuffers
import TorOnion.ProxyTunnel.WriteBuffer
import TorOnion.ProxyTunnel.Pool
import TorOnion.ErrorPage.AutoReloader
import TorOnion.ErrorPage.ReloadTimer
import TorOnion.ErrorPage.FinishOrder
import TorOnion.ErrorPage.Tab
import TorOnion.ErrorPage.Retries
import TorOnion.MessageDispatcher.Dispatcher
import TorOnion.MessageDispatcher.Exchange
import TorOnion.MessageDispatcher.Replies
import TorOnion.Library.Promise
import TorOnion.MessageDispatcher.AndroidTransport
import TorOnion.Library.Base64
import TorOnion.AsyncHttp.ProxyAuthorization
import TorOnion.Hosts.IpAddr
import TorOnion.Library.Containers
import TorOnion.Hosts.HostTable
import TorOnion.Library.Wire
import TorOnion.Glyph.Serialize
import TorOnion.Glyph.RoundTrip
import TorOnion.Address.Canonical
import TorOnion.Version.NumericOrder
import TorOnion.Version.Platform
import TorOnion.Version.Upgrades
import TorOnion.Glyph.Intercepts
import TorOnion.Glyph.Images
import TorOnion.Library.BitField
import TorOnion.Glyph.Digest
import TorOnion.WebSocket.Header
import TorOnion.Library.Arithmetic
import TorOnion.SimplePrime.IsPrime
import TorOnion.SimplePrime.Overflow
import TorOnion.Library.Found
import TorOnion.Paint.Painters
import TorOnion.Paint.Registry
import TorOnion.Paint.Messages
import TorOnion.Paint.FrameReady
import TorOnion.Paint.Replies
import TorOnion.AlertSockets.Kernel
import TorOnion.AlertSockets.AlertSock
import TorOnion.AlertSockets.Backends
import TorOnion.AlertSockets.WakeUps
import TorOnion.AlertSockets.Touches
import TorOnion.AlertSockets.Descriptors
import TorOnion.AlertSockets.Processes
import TorOnion.BucketHost.Host
import TorOnion.BucketHost.NullBucket
import TorOnion.BucketHost.Callbacks
