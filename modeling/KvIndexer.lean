import KvIndexer.Lib.GoMap
import KvIndexer.Lib.Run
import KvIndexer.Residency.Hit
import KvIndexer.Residency.History
import KvIndexer.Residency.Refinement
import KvIndexer.Residency.Isolation
import KvIndexer.Residency.Reclamation
import KvIndexer.KvEvents.Decode
import KvIndexer.KvEvents.Ingest
import KvIndexer.KvEvents.Listener
import KvIndexer.KvEvents.Agreement
import KvIndexer.KvEvents.Gaps
import KvIndexer.Residency.Settled
import KvIndexer.KvEvents.Groups
import KvIndexer.KvEvents.Redelivery
import KvIndexer.Config.Model
import KvIndexer.Config.Store
import KvIndexer.Config.Freshness
import KvIndexer.HttpApi.Service
import KvIndexer.HttpApi.Delivery
import KvIndexer.HttpApi.Resolution
import KvIndexer.Admission.Rules
import KvIndexer.Residency.Prefix
import KvIndexer.Admission.Evaluate
import KvIndexer.Admission.Determinism
import KvIndexer.Admission.Uncertainty
import KvIndexer.Lib.Keyed
import KvIndexer.Config.Tables
import KvIndexer.Config.Persistence
import KvIndexer.HttpApi.Route
import KvIndexer.HttpApi.Usable
import KvIndexer.Gateway.Connection
import KvIndexer.Gateway.VirtualConfig
import KvIndexer.Gateway.LostUpdate
import KvIndexer.Gateway.AssetIntegrity
import KvIndexer.Config.Bootstrap
import KvIndexer.Gateway.LocalTokenizer
import KvIndexer.Gateway.Registry
import KvIndexer.Gateway.Target
import KvIndexer.Gateway.TokenizerIsolation
import KvIndexer.Gateway.Forwarding
import KvIndexer.Residency.Ranks
import KvIndexer.Residency.Bridging
import KvIndexer.KvEvents.Coercion
import KvIndexer.KvEvents.Context
import KvIndexer.KvEvents.AuditLog
import KvIndexer.Admission.FirstMatch
import KvIndexer.Residency.Monotone
import KvIndexer.Admission.Exact
import KvIndexer.Admission.Range
import KvIndexer.Admission.Identifiers
import KvIndexer.Config.Scoping
import KvIndexer.Admission.Status
import KvIndexer.Gateway.TokenOnly
import KvIndexer.Gateway.Aliases
import KvIndexer.Gateway.Eligibility
import KvIndexer.HttpApi.Query
import KvIndexer.Admission.Readings
import KvIndexer.Gateway.Preview
import KvIndexer.HttpApi.Transparency
import KvIndexer.Config.Seeding
import KvIndexer.HttpApi.Listeners
import KvIndexer.Gateway.MemoryStore
import KvIndexer.Gateway.RegistrySeeding
import KvIndexer.Gateway.VirtualLink
import KvIndexer.Gateway.SingleTarget
import KvIndexer.Gateway.ProxiedPath
import KvIndexer.Gateway.ConnectionEdit
import KvIndexer.Gateway.Timeline
import KvIndexer.HttpApi.RecentEvents
import KvIndexer.Gateway.ProfileUpsert
import KvIndexer.Residency.TierClear
import KvIndexer.Lib.EncodingJson
import KvIndexer.Normalize.Request
import KvIndexer.Normalize.OpenAI
import KvIndexer.Normalize.Anthropic
import KvIndexer.Normalize.PrefixStable
import KvIndexer.Normalize.Blocks
import KvIndexer.Normalize.CallIDs
import KvIndexer.Normalize.Linearization
import KvIndexer.Normalize.Multimodal
import KvIndexer.Normalize.ContentLoss
import KvIndexer.Lib.JsonEdits
import KvIndexer.Normalize.NullFields
import KvIndexer.Normalize.NullItems
import KvIndexer.Normalize.NullBlocks
import KvIndexer.Normalize.NullRequests
import KvIndexer.Lib.FileTree
import KvIndexer.Lib.Pathlib
import KvIndexer.Sidecar.Storage
import KvIndexer.Sidecar.Server
import KvIndexer.Lib.Effects
import KvIndexer.Sidecar.UploadDir
import KvIndexer.Config.Namespaces
import KvIndexer.KvEvents.Omitted
import KvIndexer.Residency.Chunks
import KvIndexer.Sidecar.Containment
import KvIndexer.Sidecar.Registration
import KvIndexer.Sidecar.Served
import KvIndexer.Sidecar.FailedUploads
import KvIndexer.Web.EditedPolicies
import KvIndexer.KvEvents.Mirror
import KvIndexer.Lib.Interleave
import KvIndexer.Lib.Guarded
import KvIndexer.KvEvents.Pipeline
import KvIndexer.Lib.Channel
import KvIndexer.Lib.Recent
import KvIndexer.HttpApi.Subscribers
import KvIndexer.HttpApi.EventWriter
import KvIndexer.Lib.Durable
import KvIndexer.Config.Durability
import KvIndexer.Config.SQLitePersister
import KvIndexer.HttpApi.Mirrored
import KvIndexer.Lib.Gather
import KvIndexer.Lib.Grouped
import KvIndexer.Gateway.Fanout
import KvIndexer.Gateway.Decisions
import KvIndexer.Lib.JsonWriting
import KvIndexer.Normalize.Conversation
import KvIndexer.HttpApi.Protocols
import KvIndexer.KvEvents.Changes
import KvIndexer.HttpApi.Fleet
