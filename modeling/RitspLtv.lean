import RitspLtv.Trust.AnchorMonotonicity
import RitspLtv.Trust.AnchorLoading
import RitspLtv.Ltv.CrlVerdict
import RitspLtv.Ltv.OcspVerdict
import RitspLtv.Tsp.TokenSoundness
import RitspLtv.Ltv.RevocationSoundness
import RitspLtv.ParserWalks
import RitspLtv.Ltv.SignedBytes
import RitspLtv.IntegerBodies
import RitspLtv.TimeFormats
import RitspLtv.Ltv.NonceFormats
import RitspLtv.Trust.CaProfiles
import RitspLtv.Ltv.CrlCache
import RitspLtv.Tsp.ExtraCerts
import RitspLtv.Ltv.ResponderHints
import RitspLtv.Tsp.Extract
import RitspLtv.Foundation.GreedyWalk
import RitspLtv.Trust.ChainBuild
import RitspLtv.Trust.ChainBuildOrder
import RitspLtv.TlvElements
import RitspLtv.Foundation.GreedyPairing
import RitspLtv.Ltv.DirectoryNames
import RitspLtv.Ltv.CrlFetch
import RitspLtv.Crypto.Provider
import RitspLtv.Tsp.SignatureBinding
import RitspLtv.Tsp.StrictDer
import RitspLtv.Tsp.InfoGrammar
import RitspLtv.Tsp.StrictReference
import RitspLtv.Tsp.Response
import RitspLtv.Tsp.ResponseGrammar
import RitspLtv.TimeOrder
import RitspLtv.Tsp.GenTime
import RitspLtv.Ltv.OcspCompleteness
import RitspLtv.Ltv.CrlCompleteness
import RitspLtv.IntegerCodec
import RitspLtv.BasicConstraints
import RitspLtv.Foundation.Labels
import RitspLtv.Ltv.HostMatching
import RitspLtv.Net
import RitspLtv.EmbeddedAddresses
import RitspLtv.Ltv.FreshnessRange
import RitspLtv.Ltv.CertIds
import RitspLtv.Crypto.WeakDigests
import RitspLtv.Ltv.OcspPathPolicy
import RitspLtv.Foundation.Conversation
import RitspLtv.Foundation.BoundedRead
import RitspLtv.Foundation.Sessions
import RitspLtv.FetchGuard
import RitspLtv.Tsp.Request
import RitspLtv.Http
import RitspLtv.Tsp.ResponseValidation
import RitspLtv.Tsp.Client
import RitspLtv.Tsp.ClientProtocol
import RitspLtv.Ltv.OcspRequest
import RitspLtv.Ltv.OcspFetch
import RitspLtv.Ltv.OcspProtocol
import RitspLtv.Foundation.Climb
import RitspLtv.Ltv.ChainDiscovery
import RitspLtv.Ltv.CrlDownload
import RitspLtv.Egress
import RitspLtv.Foundation.Executions
import RitspLtv.Ltv.CrlSharing
import RitspLtv.Trust.ChainCompleteness
import RitspLtv.Trust.RoleSeparation
import RitspLtv.Ltv.UrlGrammar
import RitspLtv.Trust.DirectoryLoading
import RitspLtv.Foundation.Masks
import RitspLtv.Ltv.NameSpaces
import RitspLtv.Ltv.CrlCodec
import RitspLtv.Ltv.OcspCodec
import RitspLtv.Ltv.OcspDirect
import RitspLtv.Ltv.CrlDirect
