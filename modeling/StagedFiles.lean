import StagedFiles.Adapter
import StagedFiles.Bytes
import StagedFiles.CommandLine
import StagedFiles.Copy
import StagedFiles.Descriptor
import StagedFiles.Errno
import StagedFiles.Extent
import StagedFiles.Failure
import StagedFiles.File
import StagedFiles.File.Raw
import StagedFiles.File.Staged
import StagedFiles.Front
import StagedFiles.Grouping
import StagedFiles.InFlight
import StagedFiles.Main
import StagedFiles.ObjectStore
import StagedFiles.Offset
import StagedFiles.Program
import StagedFiles.Proofs.AdapterTwins
import StagedFiles.Proofs.Auditor
import StagedFiles.Proofs.BufferImage
import StagedFiles.Proofs.Callbacks
import StagedFiles.Proofs.CalmObject
import StagedFiles.Proofs.Cell
import StagedFiles.Proofs.Chronicle
import StagedFiles.Proofs.Client
import StagedFiles.Proofs.Closing
import StagedFiles.Proofs.Coherence
import StagedFiles.Proofs.DeferredRuns
import StagedFiles.Proofs.DenseGroups
import StagedFiles.Proofs.Descriptors
import StagedFiles.Proofs.DirectoryFile
import StagedFiles.Proofs.EndedRequests
import StagedFiles.Proofs.ExactComparison
import StagedFiles.Proofs.ExactCopy
import StagedFiles.Proofs.FailedFills
import StagedFiles.Proofs.FailedFlushes
import StagedFiles.Proofs.FailedWrites
import StagedFiles.Proofs.FileDeeds
import StagedFiles.Proofs.FileLikeness
import StagedFiles.Proofs.FileResemblance
import StagedFiles.Proofs.FileSession
import StagedFiles.Proofs.FilesApart
import StagedFiles.Proofs.FlatFile
import StagedFiles.Proofs.FlatObjects
import StagedFiles.Proofs.FlatStage
import StagedFiles.Proofs.Fleet
import StagedFiles.Proofs.GreedyWrites
import StagedFiles.Proofs.GroupCalls
import StagedFiles.Proofs.GroupCosts
import StagedFiles.Proofs.GroupCuts
import StagedFiles.Proofs.GuardedClients
import StagedFiles.Proofs.GuardedStages
import StagedFiles.Proofs.GuardedSteps
import StagedFiles.Proofs.GuardedVectors
import StagedFiles.Proofs.ImageCopies
import StagedFiles.Proofs.Interchange
import StagedFiles.Proofs.Keeper
import StagedFiles.Proofs.KeptObject
import StagedFiles.Proofs.KeptRequests
import StagedFiles.Proofs.KeptTransfers
import StagedFiles.Proofs.Ledger
import StagedFiles.Proofs.Likeness
import StagedFiles.Proofs.LoopTurns
import StagedFiles.Proofs.MatchingStores
import StagedFiles.Proofs.MemoryKeeper
import StagedFiles.Proofs.MemoryShelf
import StagedFiles.Proofs.ObjectPasts
import StagedFiles.Proofs.ObjectPaths
import StagedFiles.Proofs.Overlay
import StagedFiles.Proofs.OwedRequests
import StagedFiles.Proofs.OwedSessions
import StagedFiles.Proofs.OwedTransfers
import StagedFiles.Proofs.PatientCallers
import StagedFiles.Proofs.RawTransfers
import StagedFiles.Proofs.ReachedClient
import StagedFiles.Proofs.ReadOnlyCalls
import StagedFiles.Proofs.ReadOnlyFile
import StagedFiles.Proofs.ReadOnlyObjects
import StagedFiles.Proofs.ReadsInPlace
import StagedFiles.Proofs.RecordedCalls
import StagedFiles.Proofs.RefusedRequests
import StagedFiles.Proofs.SavedImages
import StagedFiles.Proofs.ScratchedStore
import StagedFiles.Proofs.SeatCalls
import StagedFiles.Proofs.SeatLikeness
import StagedFiles.Proofs.Seats
import StagedFiles.Proofs.SeenTruncation
import StagedFiles.Proofs.SequentialReads
import StagedFiles.Proofs.SessionBooks
import StagedFiles.Proofs.SessionSummary
import StagedFiles.Proofs.SessionTally
import StagedFiles.Proofs.ShortReads
import StagedFiles.Proofs.StageFrame
import StagedFiles.Proofs.StageRequests
import StagedFiles.Proofs.StageTwins
import StagedFiles.Proofs.StageView
import StagedFiles.Proofs.StagedFlushes
import StagedFiles.Proofs.StagedService
import StagedFiles.Proofs.SteadyObject
import StagedFiles.Proofs.StoreActs
import StagedFiles.Proofs.Transparency
import StagedFiles.Proofs.TreeWalk
import StagedFiles.Proofs.UnawareStores
import StagedFiles.Proofs.VectoredReads
import StagedFiles.Proofs.WatchedStore
import StagedFiles.Proofs.WholeTransfers
import StagedFiles.Proofs.WriteLog
import StagedFiles.Proofs.WriteOnlyFile
import StagedFiles.Proofs.WriteOnlyObjects
import StagedFiles.Report
import StagedFiles.Script.Backing
import StagedFiles.Script.Run
import StagedFiles.Script.State
import StagedFiles.Script.Step
import StagedFiles.Settings
import StagedFiles.Settings.Document
import StagedFiles.Shown
import StagedFiles.SparseBytes
import StagedFiles.Stage.Async
import StagedFiles.Stage.Basic
import StagedFiles.Stage.Transfer
import StagedFiles.StagingBuffer
import StagedFiles.Store.Directory
import StagedFiles.Store.FileTree
import StagedFiles.Store.FullTransfer
import StagedFiles.Store.Memory
import StagedFiles.Store.ObjectPath
import StagedFiles.Store.Throttled
import StagedFiles.Table
import StagedFiles.Text.CaseTable
import StagedFiles.Text.Decimal
import StagedFiles.Text.Json
import StagedFiles.Text.Letter
import StagedFiles.Text.PrintTable
import StagedFiles.Text.Record
import StagedFiles.Traffic
import StagedFiles.Yaml.Content
import StagedFiles.Yaml.Cursor
import StagedFiles.Yaml.Mark
import StagedFiles.Yaml.Node
import StagedFiles.Yaml.Reading
import StagedFiles.Yaml.ScalarText
import StagedFiles.Yaml.Token
import StagedFiles.Yaml.Tokens
import StagedFiles.Yaml.Word
