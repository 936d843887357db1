import Wscd.Lib.Map
import Wscd.Lib.ForLoop
import Wscd.Lib.Run
import Wscd.LevelCleanup
import Wscd.Rebinding
import Wscd.Routing
import Wscd.Restore
import Wscd.Ownership
import Wscd.Revival
import Wscd.Lib.Pool
import Wscd.LifecycleRaces
import Wscd.Lib.Traced
import Wscd.Callbacks
import Wscd.ClientPin
import Wscd.Factors
import Wscd.PreviewSign.Requests
import Wscd.CborWire
import Wscd.PreviewSign.Responses
import Wscd.PreviewSign.Registration
import Wscd.PreviewSign.Ceremonies
import Wscd.Uvm
import Wscd.Plugins.Fido2Sign
import Wscd.Plugins.R2ps
import Wscd.FactorSoundness
import Wscd.SessionRaces
import Wscd.KeystoreAliases
import Wscd.CeremonyTraces
import Wscd.Authenticator
import Wscd.ArkgPrivate
import Wscd.RecordOrigins
import Wscd.CoordinateWidths
import Wscd.StateRoundTrip
import Wscd.InferredAlgorithm
import Wscd.AuthenticatorInfo
import Wscd.Lib.PrefixCode
import Wscd.Plugins.Thumbprint
import Wscd.UvmFormat
import Wscd.JsonWire
import Wscd.Plugins.SoftkeyContainer
import Wscd.Lib.Slice
import Wscd.ParserBounds
import Wscd.Plugins.R2psLifecycle
import Wscd.RegisteredFactors
import Wscd.Backends
import Wscd.Deletion
import Wscd.Bridges
import Wscd.Cancellation
import Wscd.FactorVerdict
import Wscd.Lib.WalkOrder
import Wscd.ExportOrder
import Wscd.CanonicalCommands
import Wscd.HashToField
import Wscd.BrowserTransport
import Wscd.AttestationEvidence
import Wscd.AuthenticatorSignatures
import Wscd.FactorCapability
import Wscd.SecurityKey
import Wscd.Restart
import Wscd.EnclaveRaces
import Wscd.KeystoreCalls
import Wscd.KeystoreRaces
