import Shuttle.Mesh.Handshake
import Shuttle.Mesh.KeyAgreement
import Shuttle.Mesh.SignalClient
import Shuttle.Mesh.Packets
import Shuttle.Mesh.ICEPairs
import Shuttle.Mesh.ICEAgent
import Shuttle.Mesh.TURN
import Shuttle.Mesh.MDNS
import Shuttle.Mesh.SplitRoutes
import Shuttle.Mesh.Upkeep
import Shuttle.Reality.Server
import Shuttle.Router.Conflict
import Shuttle.Router.Spelling
import Shuttle.Provider.RuleSet
import Shuttle.Server.MeshStream
import Shuttle.Server.SafeHTTP
import Shuttle.Server.TrafficRuns
import Shuttle.Server.BanCleanup
import Shuttle.Transport.H3
import Shuttle.Transport.H3Auth
import Shuttle.Transport.GRPC
import Shuttle.Transport.Headers
import Shuttle.Transport.Dialing
import Shuttle.Transport.Multipath
import Shuttle.Transport.Resilient
import Shuttle.Transport.Migrated
import Shuttle.Congestion.BBR
import Shuttle.Relay.Splice
import Shuttle.Relay.HalfClose
import Shuttle.Proxy.TUNPackets
import Shuttle.Proxy.TUNTable
import Shuttle.Plugins.Lifecycle
import Shuttle.Stats.Storage
import Shuttle.QoS.Classifier
import Shuttle.Stream.Tracker
import Shuttle.Pool.Buffers
import Shuttle.Subscription.Outbound
import Shuttle.Config.Encrypt
import Shuttle.Config.Export
import Shuttle.Engine.Circuit
import Shuttle.Engine.Reload
import Shuttle.Engine.FakeDial
import Shuttle.Engine.Groups
import Shuttle.Engine.Starting
import Shuttle.Engine.URLTest
