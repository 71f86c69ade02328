import Glassbeetle.JsText
import Glassbeetle.UriDecoding
import Glassbeetle.PosixPath
import Glassbeetle.Identifiers
import Glassbeetle.StoragePaths
import Glassbeetle.StorageContainment
import Glassbeetle.StorageReferences
import Glassbeetle.SuffixFitting
import Glassbeetle.ContextConstruction
import Glassbeetle.ContextAccounting
import Glassbeetle.Runs
import Glassbeetle.AdapterTypes
import Glassbeetle.Database
import Glassbeetle.ChatCompaction
import Glassbeetle.CompactionRetention
import Glassbeetle.CivilCalendar
import Glassbeetle.PeriodWindow
import Glassbeetle.WindowTiling
import Glassbeetle.JsValue
import Glassbeetle.Pagination
import Glassbeetle.ModelDiscovery
import Glassbeetle.DiscoveryRetention
import Glassbeetle.LineStream
import Glassbeetle.TextDecoder
import Glassbeetle.AdapterStreams
import Glassbeetle.AnthropicStream
import Glassbeetle.OpenAiStream
import Glassbeetle.GoogleStream
import Glassbeetle.OllamaStream
import Glassbeetle.StreamChunking
import Glassbeetle.AsyncGenerator
import Glassbeetle.ExecutionChain
import Glassbeetle.Inference
import Glassbeetle.SingleAgentChat
import Glassbeetle.MemberTurns
import Glassbeetle.TeamChat
import Glassbeetle.Completions
import Glassbeetle.StreamFinalisation
import Glassbeetle.StreamRecord
import Glassbeetle.StreamProtocol
import Glassbeetle.TeamMembers
import Glassbeetle.RosterPositions
import Glassbeetle.Providers
import Glassbeetle.ProviderUpdates
import Glassbeetle.ProviderLocality
import Glassbeetle.Utf8Text
import Glassbeetle.IdealCipher
import Glassbeetle.Encryption
import Glassbeetle.Credentials
import Glassbeetle.CredentialBinding
import Glassbeetle.Transactions
import Glassbeetle.MessageWrites
import Glassbeetle.MessageSequences
import Glassbeetle.FileTree
import Glassbeetle.StorageLinks
import Glassbeetle.Transcripts
import Glassbeetle.ContextInspection
import Glassbeetle.ShownContext
import Glassbeetle.Schedules
import Glassbeetle.TeamSchedules
import Glassbeetle.QuietRuns
import Glassbeetle.QuietTurns
import Glassbeetle.BroadcastIsolation
import Glassbeetle.ScheduleBounds
import Glassbeetle.TeamParity
import Glassbeetle.CompletionParity
import Glassbeetle.TeamFailures
import Glassbeetle.Artifacts
import Glassbeetle.ArtifactRules
import Glassbeetle.ArtifactFiles
import Glassbeetle.DiscoveryLaws
import Glassbeetle.MasterKey
import Glassbeetle.KeyAgreement
import Glassbeetle.ChatDetail
import Glassbeetle.TranscriptDisplay
import Glassbeetle.ChatRecency
import Glassbeetle.Pictures
import Glassbeetle.PictureFiles
import Glassbeetle.JsonText
import Glassbeetle.CanonicalLists
import Glassbeetle.MemoryTags
import Glassbeetle.TagLaws
import Glassbeetle.TerminalEvents
import Glassbeetle.AnthropicBlocks
import Glassbeetle.StreamTurns
import Glassbeetle.TokenLedger
import Glassbeetle.MaximalRuns
import Glassbeetle.TurnTranslation
import Glassbeetle.ObjectFields
import Glassbeetle.WirePayloads
import Glassbeetle.OverridePrecedence
import Glassbeetle.UpstreamFetch
import Glassbeetle.Checkpoints
import Glassbeetle.ReplyOutcomes
import Glassbeetle.CheckpointLaw
import Glassbeetle.FailureReports
import Glassbeetle.PreferredChoice
import Glassbeetle.HandoffTargets
import Glassbeetle.RecentTurns
import Glassbeetle.OllamaLastLine
import Glassbeetle.FinalBlankLine
import Glassbeetle.LikePatterns
import Glassbeetle.SearchTerms
import Glassbeetle.JsonStringify
import Glassbeetle.EventFrames
import Glassbeetle.SseBodies
import Glassbeetle.AdapterReplies
import Glassbeetle.GeminiReplies
import Glassbeetle.OpenAiReplies
import Glassbeetle.AnthropicReplies
import Glassbeetle.OllamaReplies
import Glassbeetle.StreamingParity
import Glassbeetle.OlderControl
import Glassbeetle.SortedPages
import Glassbeetle.ListPagination
import Glassbeetle.MessagePaging
import Glassbeetle.TwoRuns
import Glassbeetle.AgentMemories
import Glassbeetle.MemoryScopes
import Glassbeetle.ListState
import Glassbeetle.TeamDetail
import Glassbeetle.MaskedKeys
import Glassbeetle.ListOrder
import Glassbeetle.IdentifierOrder
import Glassbeetle.PartialUpdates
import Glassbeetle.UpdateMappers
import Glassbeetle.ContentTypes
import Glassbeetle.FileWrites
import Glassbeetle.TextPatterns
import Glassbeetle.Redaction
import Glassbeetle.LedgeredSteps
import Glassbeetle.SqlTables
import Glassbeetle.SchemaGrowth
import Glassbeetle.DataSchema
import Glassbeetle.SchemaMigrations
import Glassbeetle.SchemaUpgrades
import Glassbeetle.ForeignKeys
import Glassbeetle.RecordLifecycle
import Glassbeetle.RecordIntegrity
import Glassbeetle.ProviderErrors
import Glassbeetle.EventTransport
import Glassbeetle.FrameCuts
import Glassbeetle.ApiStatus
import Glassbeetle.CrashRecovery
import Glassbeetle.AtomicFiles
import Glassbeetle.StorageRuns
import Glassbeetle.LogRedaction
import Glassbeetle.SearchPalette
import Glassbeetle.PrefixMerging
import Glassbeetle.ActivityFeed
import Glassbeetle.PictureCaching
