import ALife.Activity.Policy
import ALife.Activity.PortableCheckpoint
import ALife.Activity.Pressure
import ALife.Activity.ResidentActivity
import ALife.Activity.Throttle
import ALife.Activity.WorkReceipt
import ALife.Archive.BundleCodec
import ALife.Archive.BundleRoundTrip
import ALife.Backend.Admission
import ALife.Backend.AdmissionTotals
import ALife.Backend.ClassBuckets
import ALife.Backend.CuratedCutover
import ALife.Backend.CuratedReplacement
import ALife.Backend.CuratedResidency
import ALife.Backend.CutoverCommit
import ALife.Backend.CutoverOutcome
import ALife.Backend.CutoverStaging
import ALife.Backend.ResidentRows
import ALife.Backend.SealedOutcome
import ALife.Backend.TimestampPeriod
import ALife.Biology.Biochemistry
import ALife.Biology.BiochemistryRuns
import ALife.Biology.Body
import ALife.Biology.Expression
import ALife.Biology.Phenotype
import ALife.Biology.Upkeep
import ALife.Checkpoint.AssetDigest
import ALife.Checkpoint.AssetManifest
import ALife.Checkpoint.Authority
import ALife.Checkpoint.JournalPublication
import ALife.Checkpoint.JournalReach
import ALife.Checkpoint.Manifest
import ALife.Checkpoint.ManifestCommits
import ALife.Checkpoint.ManifestReads
import ALife.Checkpoint.ManifestWrites
import ALife.Checkpoint.Publication
import ALife.Checkpoint.PublicationRuns
import ALife.Checkpoint.QuietPublication
import ALife.Checkpoint.SessionAuthority
import ALife.Checkpoint.SleepJournal
import ALife.Cognition.Attention
import ALife.Cognition.Context
import ALife.Cognition.ContextDigest
import ALife.Cognition.FactorizedSelection
import ALife.Cognition.FocalRuns
import ALife.Cognition.FocalSelection
import ALife.Cognition.GroundingLedger
import ALife.Cognition.Motor
import ALife.Cognition.Predictive
import ALife.Cognition.WorkReceipt
import ALife.Cognition.Writes
import ALife.Core.Blake3
import ALife.Core.CanonicalDigest
import ALife.Core.Chemistry
import ALife.Core.DigestCalls
import ALife.Core.DigestMixing
import ALife.Core.Error
import ALife.Core.Perception
import ALife.Core.Units
import ALife.Foundation.Asset
import ALife.Foundation.AssetCodec
import ALife.Foundation.AssetIdentity
import ALife.Logging.PackedLog
import ALife.Logging.PackedRecord
import ALife.Machine.Accumulation
import ALife.Machine.Apportionment
import ALife.Machine.Binary32
import ALife.Machine.Binary32Value
import ALife.Machine.Binary64
import ALife.Machine.BinarySearch
import ALife.Machine.CheckedInt
import ALife.Machine.CheckedNat
import ALife.Machine.Checks
import ALife.Machine.Choices
import ALife.Machine.CoprimeWalk
import ALife.Machine.CountingTable
import ALife.Machine.Directory
import ALife.Machine.Disk
import ALife.Machine.Faulted
import ALife.Machine.FaultedSteps
import ALife.Machine.FixedPoint
import ALife.Machine.FloatOps
import ALife.Machine.Incumbent
import ALife.Machine.Integers
import ALife.Machine.Kinks
import ALife.Machine.Mixing
import ALife.Machine.Mutation
import ALife.Machine.OrderedMap
import ALife.Machine.Outcome
import ALife.Machine.PathTree
import ALife.Machine.Potential
import ALife.Machine.Reader
import ALife.Machine.ReverseSweep
import ALife.Machine.Ring
import ALife.Machine.Runs
import ALife.Machine.SelfDelimiting
import ALife.Machine.SortedNames
import ALife.Machine.Spans
import ALife.Machine.StoppingLoop
import ALife.Machine.TreeMaps
import ALife.Machine.UnixPath
import ALife.Machine.WordRanges
import ALife.Machine.Words
import ALife.Phenotype.ActiveTiles
import ALife.Phenotype.AddressNaming
import ALife.Phenotype.AddressNumbering
import ALife.Phenotype.AddressRepacking
import ALife.Phenotype.AddressTables
import ALife.Phenotype.Compiled
import ALife.Phenotype.LayoutCompile
import ALife.Phenotype.PersistentAddress
import ALife.Phenotype.RecurrentRoutes
import ALife.Phenotype.Routing
import ALife.Phenotype.TilePairs
import ALife.Plasticity.CausalRuns
import ALife.Plasticity.CausalState
import ALife.Plasticity.OutcomeCredit
import ALife.Plasticity.SparseSpans
import ALife.Plasticity.Structural
import ALife.Plasticity.StructuralContract
import ALife.Plasticity.StructuralPhase
import ALife.Plasticity.StructuralRuns
import ALife.Replay.Codec
import ALife.Replay.Journal
import ALife.Replay.RoundTrip
import ALife.Replay.Rows
import ALife.Sleep.Contracts
import ALife.Sleep.Controller
import ALife.Sleep.ControllerRuns
import ALife.Sleep.Edges
import ALife.Sleep.ReplayBatches
import ALife.Sleep.ReplayCapture
import ALife.Sleep.ReplayPushes
import ALife.Sleep.Scheduler
import ALife.Sleep.SchedulerRuns
import ALife.Storage.BudgetInvariant
import ALife.Storage.BudgetRuns
import ALife.Storage.OutputBudget
import ALife.Training.CadenceRows
import ALife.Training.CheckpointSeeds
import ALife.Training.CohortTraining
import ALife.Training.CohortWindows
import ALife.Training.CollectorShard
import ALife.Training.CooperativeRound
import ALife.Training.ExactObjective
import ALife.Training.ExactPolicy
import ALife.Training.FloatReplay
import ALife.Training.FoundationTrainer
import ALife.Training.FounderAsset
import ALife.Training.ImitationPolicy
import ALife.Training.JointAction
import ALife.Training.JointCommands
import ALife.Training.JointExecution
import ALife.Training.JointPolicy
import ALife.Training.JointSampling
import ALife.Training.LearningRows
import ALife.Training.PolicyGradient
import ALife.Training.PpoBatch
import ALife.Training.PpoObjective
import ALife.Training.ReplayBackward
import ALife.Training.ReplayGradient
import ALife.Training.ReplayObjective
import ALife.Training.ReplayRuns
import ALife.Training.ReplaySeeds
import ALife.Training.ReplaySequence
import ALife.Training.ReplaySpeech
import ALife.Training.ReplaySweep
import ALife.Training.ReplayTangents
import ALife.Training.ReplayTape
import ALife.Training.RoundContracts
import ALife.Training.RoundEffects
import ALife.Training.RoundHistory
import ALife.Training.RoundInspection
import ALife.Training.RoundOnce
import ALife.Training.RoundOutput
import ALife.Training.RoundRecovery
import ALife.Training.RoundStranding
import ALife.Training.SampledPolicy
import ALife.Training.ShardOrder
import ALife.Training.SparseGraph
import ALife.Training.SpeechSweep
import ALife.Training.TrainerRestart
import ALife.Training.TrainerRuns
import ALife.Training.UpdateReceipts
import ALife.Training.WindowSlices
import ALife.World.ContentPlaces
import ALife.World.ContentRuns
import ALife.World.Habitat
import ALife.World.HabitatLedger
import ALife.World.HabitatRuns
import ALife.World.HabitatSteps
import ALife.World.LocalSteering
import ALife.World.ProceduralChunks
import ALife.World.ProceduralContent
import ALife.World.ProceduralTerrain
import ALife.World.TrackedObjectIdentity
import ALife.World.TrackedObjectRestore
import ALife.World.TrackedObjectRuns
import ALife.World.TrackedObjects
