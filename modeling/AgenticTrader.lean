import AgenticTrader.Library.Transition
import AgenticTrader.Library.Processes
import AgenticTrader.Library.Table
import AgenticTrader.Library.WireNumber
import AgenticTrader.Library.Replay
import AgenticTrader.Library.Projections
import AgenticTrader.Library.Sweep
import AgenticTrader.Library.Lookback
import AgenticTrader.Library.DecimalContext
import AgenticTrader.Library.Checks
import AgenticTrader.Library.Coverage
import AgenticTrader.Library.LocalTime
import AgenticTrader.Library.Apportion
import AgenticTrader.Durable
import AgenticTrader.Diagnostics.Incidents
import AgenticTrader.Storage.Operations
import AgenticTrader.IncidentNotices
import AgenticTrader.Storage.Db
import AgenticTrader.Storage.Workflow
import AgenticTrader.Storage.Outbox
import AgenticTrader.Storage.Cards
import AgenticTrader.Storage.Orders
import AgenticTrader.Storage.Lifetimes
import AgenticTrader.Storage.Closing
import AgenticTrader.Storage.Positions
import AgenticTrader.Storage.Digest
import AgenticTrader.Risk.Rules
import AgenticTrader.Risk.Rounding
import AgenticTrader.Risk.DownwardClosed
import AgenticTrader.Execution.Capacity
import AgenticTrader.Execution.CapacitySoundness
import AgenticTrader.Research.Labels
import AgenticTrader.Research.LabelLaws
import AgenticTrader.Execution.LifetimePolicy
import AgenticTrader.Execution.HoldingDeadline
import AgenticTrader.Execution.LifetimeAssessment
import AgenticTrader.Execution.ReleaseExit
import AgenticTrader.Execution.Slicer
import AgenticTrader.Execution.SliceConservation
import AgenticTrader.Broker.Paper
import AgenticTrader.Alpha.Strategy
import AgenticTrader.Execution.Trailing
import AgenticTrader.System
import AgenticTrader.Effects
import AgenticTrader.EntrySubmission
import AgenticTrader.HaltFlag
import AgenticTrader.SignalLifecycle
import AgenticTrader.EntryCancellation
import AgenticTrader.OrderViews
import AgenticTrader.OrderConvergence
import AgenticTrader.Broker.OrderReads
import AgenticTrader.ParentLinks
import AgenticTrader.CardDeparture
import AgenticTrader.CloseExclusion
import AgenticTrader.OutboxDelivery
import AgenticTrader.ReservedBook
import AgenticTrader.DigestFolding
import AgenticTrader.Accounting.Ledger
import AgenticTrader.Accounting.Risk
import AgenticTrader.Accounting.Conservation
import AgenticTrader.Accounting.Turns
import AgenticTrader.Accounting.ActivityOrder
import AgenticTrader.Accounting.RiskDocument
import AgenticTrader.Accounting.LedgerStore
import AgenticTrader.Accounting.LedgerReplay
import AgenticTrader.Accounting.RiskHistory
import AgenticTrader.Accounting.RiskReader
import AgenticTrader.Accounting.CashFlows
import AgenticTrader.Accounting.Transfers
import AgenticTrader.Alpha.Records
import AgenticTrader.Alpha.Registry
import AgenticTrader.Alpha.RegistryConsistency
import AgenticTrader.Alpha.RegistryMoves
import AgenticTrader.Alpha.ProbeKill
import AgenticTrader.Alpha.Research
import AgenticTrader.Alpha.HoldoutSpending
import AgenticTrader.Alpha.PooledLane
import AgenticTrader.Alpha.PooledAccounting
import AgenticTrader.Alpha.Sessions
import AgenticTrader.Alpha.DecisionWindows
import AgenticTrader.Alpha.Operators
import AgenticTrader.Alpha.Language
import AgenticTrader.Alpha.Causality
import AgenticTrader.Alpha.Scaling
import AgenticTrader.Alpha.Dimensions
import AgenticTrader.Alpha.DailyCampaigns
import AgenticTrader.Alpha.DailyLineage
import AgenticTrader.Alpha.Simulation
import AgenticTrader.Alpha.SimulationCapital
import AgenticTrader.Execution.InitialRisk
import AgenticTrader.Risk.BookVol
import AgenticTrader.Execution.Freshness
import AgenticTrader.Execution.CardExpiry
import AgenticTrader.Execution.Repricing
import AgenticTrader.Broker.OrderJournal
import AgenticTrader.Broker.PositionClose
import AgenticTrader.Broker.CloseSafety
import AgenticTrader.Agent.PositionSizing
import AgenticTrader.Agent.Evaluation
import AgenticTrader.Agent.SizingAdmission
import AgenticTrader.Agent.Levels
import AgenticTrader.Agent.EvaluationReturns
import AgenticTrader.Agent.LlmRestricts
import AgenticTrader.Library.Thinning
import AgenticTrader.Storage.Maintenance
import AgenticTrader.Library.Ranking
import AgenticTrader.Research.Cube
import AgenticTrader.Research.Picks
import AgenticTrader.Alpha.PersistentBook
import AgenticTrader.Research.PairTrading
import AgenticTrader.Backtest.Engine
import AgenticTrader.Backtest.EquityCurve
import AgenticTrader.Library.Ascending
import AgenticTrader.Market.SessionBars
import AgenticTrader.Market.BarConstruction
import AgenticTrader.Market.BarExactness
import AgenticTrader.Research.ScoreReads
import AgenticTrader.Research.LabelSpan
import AgenticTrader.Research.CubeBuild
import AgenticTrader.Research.PurgedWindows
import AgenticTrader.Market.Pacing
import AgenticTrader.Backtest.ExitPrices
import AgenticTrader.Library.Gregorian
import AgenticTrader.Market.FuturesSession
import AgenticTrader.Market.Reopening
import AgenticTrader.Agent.MacroCalendar
import AgenticTrader.Agent.MacroLockout
import AgenticTrader.Broker.Tradovate
import AgenticTrader.Broker.ExitEvidence
import AgenticTrader.Alpha.Optimizer
import AgenticTrader.Alpha.ShadowPortfolio
import AgenticTrader.Alpha.TargetPolicy
import AgenticTrader.Library.Coroutine
import AgenticTrader.Broker.Redundant
import AgenticTrader.Broker.Failover
import AgenticTrader.Alpha.Promotion
import AgenticTrader.Alpha.Qualification
import AgenticTrader.Alpha.ProbeFitness
import AgenticTrader.Library.Binary64
import AgenticTrader.Accounting.LedgerRounding
import AgenticTrader.Execution.SlicedEngine
import AgenticTrader.Alpha.Assessment
