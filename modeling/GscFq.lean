import GscFq.AllowGate
import GscFq.AllowListMatch
import GscFq.AuthWiring
import GscFq.BindFidelity
import GscFq.CachedData
import GscFq.CleanupTask
import GscFq.ClientBudget
import GscFq.ClientCredentials
import GscFq.ClientShutdown
import GscFq.ConnectionCounters
import GscFq.FlushedCopies
import GscFq.ForwardConnectionRuns
import GscFq.ForwardRefinement
import GscFq.FrameSequences
import GscFq.HandshakeGate
import GscFq.HealthProbes
import GscFq.MonitoringSystem
import GscFq.NonceSequence
import GscFq.OversizedMessages
import GscFq.PortPromises
import GscFq.Processes
import GscFq.RateLimit
import GscFq.RemoteAddresses
import GscFq.ResilientCalls
import GscFq.RuntimeOutcome
import GscFq.SanitizedLines
import GscFq.ServerShutdown
import GscFq.SessionExpiry
import GscFq.SharedForwarder
import GscFq.SlotRelease
import GscFq.SpliceExits
import GscFq.TotpCodes
import GscFq.TunnelRelayProgress
import GscFq.UdpDrain
import GscFq.UdpExchangeIsolation
import GscFq.UdpSlots
import GscFq.UnflushedData
import GscFq.UserSpaceSessions
import GscFq.WeightedSelection
