import XoaProxy.Foundation.Machine
import XoaProxy.Foundation.Ownership
import XoaProxy.Foundation.ByteReader
import XoaProxy.Foundation.OnlineDecoder
import XoaProxy.Service.Exchange
import XoaProxy.Streaming.GuardedStream
import XoaProxy.Streaming.StoredGzip
import XoaProxy.Streaming.Delivery
import XoaProxy.Service.Handler
import XoaProxy.Service.Outcomes
import XoaProxy.Service.GunzipBridge
import XoaProxy.Lifecycle.Activity
import XoaProxy.Lifecycle.IdleWindow
import XoaProxy.Service.Proxy
import XoaProxy.Service.ImportLock
import XoaProxy.Service.Coverage
import XoaProxy.Service.Admission
import XoaProxy.Foundation.LineFields
import XoaProxy.Lifecycle.Shutdown
import XoaProxy.Site.BuildSite
import XoaProxy.Site.Channels
import XoaProxy.Service.Interleaving
import XoaProxy.Foundation.Decimal
import XoaProxy.Lifecycle.Config
import XoaProxy.Lifecycle.Deadline
import XoaProxy.Lifecycle.Activation
import XoaProxy.Foundation.Markup
import XoaProxy.Foundation.Pattern
import XoaProxy.Site.Updateinfo
import XoaProxy.Site.Advisories
import XoaProxy.Foundation.Elements
import XoaProxy.Site.ReadBack
import XoaProxy.Lifecycle.Generations
import XoaProxy.Foundation.Interference
import XoaProxy.Packaging.Scriptlets
import XoaProxy.Packaging.Transactions
import XoaProxy.Service.Conversations
import XoaProxy.Service.Progress
import XoaProxy.Site.Publication
import XoaProxy.Site.Agreement
import XoaProxy.Packaging.BuildNames
import XoaProxy.Site.Acceptance
import XoaProxy.Service.Serving
import XoaProxy.Service.Completion
import XoaProxy.Service.Drain
