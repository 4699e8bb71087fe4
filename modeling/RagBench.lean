import RagBench.Transition
import RagBench.Program
import RagBench.Core.Money
import RagBench.Decimal
import RagBench.Core.Ledger
import RagBench.Providers.Pricing
import RagBench.Providers.Gateway
import RagBench.Providers.BudgetProtocol
import RagBench.Providers.BudgetCap
import RagBench.Providers.ReservationLeak
import RagBench.Benchmark.Generation
import RagBench.Benchmark.Validation
import RagBench.Benchmark.Grounding
import RagBench.Benchmark.Campaign
import RagBench.Benchmark.CampaignCost
import RagBench.Experiments.Planning
import RagBench.Ingestion.ParsePlanning
import RagBench.Providers.ApprovedCost
import RagBench.Experiments.Repository
import RagBench.Experiments.Runner
import RagBench.Experiments.Reachable
import RagBench.Experiments.Bookkeeping
import RagBench.Experiments.CircuitBreaker
import RagBench.Experiments.CrashResume
import RagBench.Core.JsonText
import RagBench.Core.Hashing
import RagBench.Providers.CacheKeys
import RagBench.Core.BudgetDatabase
import RagBench.Providers.Singleflight
import RagBench.Providers.Coalescing
import RagBench.Chunking.Tokenizer
import RagBench.Related
import RagBench.Chunking.Records
import RagBench.Chunking.Fixed
import RagBench.Chunking.FixedCoverage
import RagBench.Chunking.Heading
import RagBench.Chunking.HeadingCoverage
import RagBench.JoinedText
import RagBench.Providers.HtmlIds
import RagBench.Ingestion.ChunkContent
import RagBench.Execution
import RagBench.Ingestion.ParseCheckpoint
import RagBench.Ingestion.ParseCorpus
import RagBench.Ingestion.ParseTrace
import RagBench.Ingestion.PaidEvidence
import RagBench.Benchmark.DuplicateGroups
import RagBench.Benchmark.AcceptedLimits
import RagBench.Benchmark.RoundStability
import RagBench.Benchmark.PlanLimits
import RagBench.Ingestion.ChunkPageCounts
import RagBench.Ingestion.CheckpointIntegrity
import RagBench.Ingestion.CorpusRounds
import RagBench.Ingestion.PaidOnce
import RagBench.Ingestion.CorpusAccounting
import RagBench.Benchmark.Splits
import RagBench.Grouping
import RagBench.Benchmark.SplitLeakage
import RagBench.Core.JsonLines
import RagBench.Core.JsonReader
import RagBench.Benchmark.SealedGold
import RagBench.Benchmark.GoldRoundTrip
import RagBench.Evaluation.Gold
import RagBench.Evaluation.GoldRunner
import RagBench.Evaluation.GoldRecords
import RagBench.Evaluation.GoldRun
import RagBench.Experiments.Shortlist
import RagBench.CappedSelection
import RagBench.Experiments.RetrievalGrid
import RagBench.Experiments.ShortlistExists
import RagBench.Analysis.CostBalance
import RagBench.Evaluation.Bootstrap
import RagBench.Evaluation.GoldAggregate
import RagBench.Evaluation.GoldReport
import RagBench.Evaluation.GoldAggregation
import RagBench.Evaluation.GoldCohort
import RagBench.Evaluation.ForeignCohort
import RagBench.Evaluation.GoldHistory
import RagBench.Evaluation.GoldLineage
import RagBench.Core.MarkupEscape
import RagBench.Rag.Context
import RagBench.Core.JsonDumps
import RagBench.Ingestion.Normalizer
import RagBench.Ingestion.BlockSources
import RagBench.Ingestion.NormalizedElements
import RagBench.Ingestion.SectionPaths
import RagBench.Chunking.WindowSizes
import RagBench.Evaluation.AnswerMatch
import RagBench.Experiments.ErrorWindow
import RagBench.Embeddings.Repository
import RagBench.Core.TextLines
import RagBench.Embeddings.BuildPlan
import RagBench.Embeddings.BuildResume
import RagBench.Embeddings.Resumption
import RagBench.Providers.HtmlIdPlaces
import RagBench.Providers.ChunkMerge
import RagBench.Core.JsonLayout
import RagBench.Ingestion.HandOffs
import RagBench.Rag.ContextText
import RagBench.Benchmark.PlanCapacity
import RagBench.Rag.Prompts
import RagBench.Rag.ContextPacking
import RagBench.Rag.ContextOrder
import RagBench.Experiments.TopThree
import RagBench.Retrieval.Fusion
import RagBench.Retrieval.Bm25
import RagBench.Retrieval.Hybrid
import RagBench.RoundRobin
import RagBench.Analysis.FailureSample
import RagBench.Analysis.SampleFairness
import RagBench.Analysis.ParetoTables
import RagBench.Experiments.PersistedHits
import RagBench.Embeddings.BatchAtomicity
import RagBench.Evaluation.ExactBootstrap
import RagBench.Experiments.RunHistory
import RagBench.Evaluation.Retrieval
import RagBench.Evaluation.RetrievalConsistency
import RagBench.Shuffle
import RagBench.Benchmark.ReviewSample
import RagBench.Benchmark.ReviewAgreement
import RagBench.Evaluation.Calibration
import RagBench.Evaluation.CalibrationSample
import RagBench.Evaluation.CalibrationComplete
import RagBench.Evaluation.Judge
import RagBench.Evaluation.JudgeProvenance
import RagBench.Providers.RetryLoop
import RagBench.AsyncioLock
import RagBench.Providers.SingleflightEntries
import RagBench.Providers.Flights
import RagBench.AverageRank
import RagBench.WhileLoop
import RagBench.Evaluation.JudgeRanks
import RagBench.Rag.Config
import RagBench.Rag.Citations
import RagBench.Rag.Service
import RagBench.Chunking.SpecialTokens
import RagBench.Rag.PromptTokens
import RagBench.Benchmark.PromptTexts
import RagBench.Evaluation.JudgePrompt
import RagBench.Core.JsonFields
import RagBench.Experiments.Screening
import RagBench.Sessions
import RagBench.Experiments.ScreeningCheckpoint
import RagBench.Experiments.ScreeningProgress
import RagBench.Experiments.ScreeningResume
import RagBench.Evaluation.RetrievalLatency
import RagBench.Experiments.ScreeningEvaluation
import RagBench.Experiments.ScreeningRecovery
import RagBench.Benchmark.BatchRecords
import RagBench.Benchmark.BatchStore
import RagBench.Benchmark.BatchAgreement
import RagBench.Benchmark.BatchResume
