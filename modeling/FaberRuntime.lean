import FaberRuntime.ExecutionTransaction.Budget
import FaberRuntime.ExecutionTransaction.Dispatch
import FaberRuntime.ExecutionTransaction.Publication
import FaberRuntime.Foundation.Run
import FaberRuntime.ExecutionTransaction.Attachment
import FaberRuntime.ExecutionTransaction.AtomicPublication
import FaberRuntime.Sessions
import FaberRuntime.ExecutionTransaction.Teardown
import FaberRuntime.ExecutionTransaction.MirrorBytes
import FaberRuntime.Policy.Evaluate
import FaberRuntime.Policy.Memory
import FaberRuntime.TransportAccounting
import FaberRuntime.Foundation.Layout
import FaberRuntime.Gguf.Admission
import FaberRuntime.SequenceState
import FaberRuntime.Gguf.InFile
import FaberRuntime.Foundation.Heap
import FaberRuntime.Foundation.Text
import FaberRuntime.Tokenizer.Bpe
import FaberRuntime.Foundation.PairMerge
import FaberRuntime.Tokenizer.BpeChain
import FaberRuntime.Tokenizer.BpeQueue
import FaberRuntime.Tokenizer.BpeRefinement
import FaberRuntime.Tokenizer.BpeWord
import FaberRuntime.Frame.Status
import FaberRuntime.Valor
import FaberRuntime.Frame.LeaseCalls
import FaberRuntime.Frame.LeaseEffect
import FaberRuntime.Frame.LeaseSenders
import FaberRuntime.Frame.LeaseSoundness
import FaberRuntime.Frame.Conversation
import FaberRuntime.Frame.ConversationEffect
import FaberRuntime.Foundation.Feed
import FaberRuntime.Frame.Delivery
import FaberRuntime.Frame.Wakeups
import FaberRuntime.Frame.Materialize
import FaberRuntime.Frame.MaterializeReference
import FaberRuntime.Frame.LockReentry
import FaberRuntime.Foundation.Scan
import FaberRuntime.Foundation.ScanRules
import FaberRuntime.Json.Render
import FaberRuntime.Json.Parser
import FaberRuntime.Json.Grammar
import FaberRuntime.Json.Numbers
import FaberRuntime.Json.Soundness
import FaberRuntime.Json.Completeness
import FaberRuntime.Json.Document
import FaberRuntime.Json.Acceptance
import FaberRuntime.Json.RoundTrip
import FaberRuntime.Arena
import FaberRuntime.ArenaGenerations
import FaberRuntime.ArenaRefinement
import FaberRuntime.Foundation.Signed
import FaberRuntime.Instans.Instant
import FaberRuntime.Instans.Order
import FaberRuntime.Foundation.Calendar
import FaberRuntime.Foundation.Decimal
import FaberRuntime.Instans.Wire
import FaberRuntime.Instans.Civil
import FaberRuntime.Instans.RoundTrip
import FaberRuntime.Foundation.RowMajor
import FaberRuntime.Tensor.Dense
import FaberRuntime.Tensor.Window
import FaberRuntime.Tensor.Views
import FaberRuntime.Tensor.Coordinates
import FaberRuntime.Tensor.SparsaDense
import FaberRuntime.Tensor.SparsaSimulation
import FaberRuntime.Foundation.Occurrences
import FaberRuntime.Tokenizer.Fragments
import FaberRuntime.Sha256
import FaberRuntime.Bind
import FaberRuntime.Foundation.Collections
import FaberRuntime.BindExact
import FaberRuntime.Ordinals
import FaberRuntime.Foundation.Ranking
import FaberRuntime.Policy.Order
import FaberRuntime.ExecutionTransaction.UniqueOutputs
import FaberRuntime.ExecutionTransaction.Staging
import FaberRuntime.ExecutionTransaction.Coverage
import FaberRuntime.Gguf.TensorView
import FaberRuntime.Gguf.ViewAgreement
import FaberRuntime.Cli.Descriptor
import FaberRuntime.Cli.DescriptorRoundTrip
import FaberRuntime.Foundation.OrderedMap
import FaberRuntime.Host.Context
import FaberRuntime.Host.CollectionMap
import FaberRuntime.Host.CollectionRefinement
import FaberRuntime.Host.CollectionSteps
import FaberRuntime.Host.SetSteps
import FaberRuntime.Host.CollectionRuns
import FaberRuntime.TransportLimits
import FaberRuntime.Foundation.SizedInteger
import FaberRuntime.Intervallum
import FaberRuntime.KvCacheLayout
import FaberRuntime.IntervallumWalks
import FaberRuntime.Foundation.Blocks
import FaberRuntime.Foundation.SecureHash
import FaberRuntime.Sha256Exact
import FaberRuntime.Sha256Stream
import FaberRuntime.Foundation.Tiling
import FaberRuntime.Gguf.Coverage
import FaberRuntime.Gguf.Dequant
import FaberRuntime.Gguf.Receipts
import FaberRuntime.Foundation.BitFields
import FaberRuntime.Gguf.BlockParts
import FaberRuntime.Gguf.SuperBlockParts
import FaberRuntime.Gguf.ViewConsistency
import FaberRuntime.IntervallumSets
import FaberRuntime.IntervallumSetLaws
import FaberRuntime.IntervallumUnion
import FaberRuntime.Instans.Truncation
import FaberRuntime.Instans.Grammar
import FaberRuntime.Instans.Acceptance
import FaberRuntime.Foundation.Axes
import FaberRuntime.Tensor.Kernels
import FaberRuntime.Tensor.AxisLaws
import FaberRuntime.Tensor.Broadcast
import FaberRuntime.Tensor.Elementwise
import FaberRuntime.Tensor.Softmax
import FaberRuntime.Tensor.KernelsTotal
import FaberRuntime.Host.Array
import FaberRuntime.Host.Option
import FaberRuntime.Host.Snapshots
import FaberRuntime.Host.Handles
import FaberRuntime.Host.Octeti
import FaberRuntime.Host.ValorGenus
import FaberRuntime.Host.GenusAtomicity
import FaberRuntime.Cli.Parse
import FaberRuntime.Cli.Dispatch
import FaberRuntime.Foundation.Meanings
import FaberRuntime.Cli.Meaning
import FaberRuntime.Cli.MeaningSound
import FaberRuntime.Cli.ScanSound
import FaberRuntime.Cli.Line
import FaberRuntime.Cli.Commutation
import FaberRuntime.Cli.Typing
import FaberRuntime.Cli.TypedTable
import FaberRuntime.Foundation.FloatFormat
import FaberRuntime.DeviceHandle
import FaberRuntime.Foundation.Extended
import FaberRuntime.Oracle.Attention
import FaberRuntime.Oracle.NumericContract
import FaberRuntime.Oracle.Verdicts
import FaberRuntime.Oracle.Decoding
import FaberRuntime.Oracle.Incremental
import FaberRuntime.Oracle.GreedyRun
import FaberRuntime.Oracle.HalfRounding
import FaberRuntime.Host.TensorConvert
import FaberRuntime.Foundation.Pattern
import FaberRuntime.Tokenizer.Pretoken
import FaberRuntime.Tokenizer.PretokenRegex
import FaberRuntime.Tokenizer.Encode
import FaberRuntime.Tokenizer.Lossless


