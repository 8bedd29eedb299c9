import JdHoldings.Application.AllocationTargets
import JdHoldings.Application.AllocationTradingService
import JdHoldings.Application.Approvals
import JdHoldings.Application.Broker
import JdHoldings.Application.Database
import JdHoldings.Application.IdleCash
import JdHoldings.Application.InitialOnboarding
import JdHoldings.Application.JhAutoGuard
import JdHoldings.Application.ManagedAccount
import JdHoldings.Application.OperationalSafety
import JdHoldings.Application.OrderManager
import JdHoldings.Application.OrderMonitor
import JdHoldings.Application.PortfolioService
import JdHoldings.Application.PositionManager
import JdHoldings.Application.Reconciliation
import JdHoldings.Application.Runtime
import JdHoldings.Application.Signals
import JdHoldings.Application.TradingService
import JdHoldings.Automation.AttemptLimits
import JdHoldings.Automation.CapitalWork
import JdHoldings.Automation.ExecuteOne
import JdHoldings.Automation.LiveStart
import JdHoldings.Automation.Quarantine
import JdHoldings.Automation.Service
import JdHoldings.Backtest.Bookkeeping
import JdHoldings.Backtest.Engine
import JdHoldings.Backtest.Histories
import JdHoldings.Backtest.Holdings
import JdHoldings.Backtest.Indicators
import JdHoldings.Backtest.LiveSession
import JdHoldings.Backtest.NoPeeking
import JdHoldings.Backtest.Overlay
import JdHoldings.Backtest.Parity
import JdHoldings.Backtest.PortfolioEngine
import JdHoldings.Backtest.PortfolioReport
import JdHoldings.Backtest.Rebalance
import JdHoldings.Backtest.ReportBooks
import JdHoldings.Backtest.ReportLength
import JdHoldings.Backtest.ReportOnline
import JdHoldings.Backtest.VirtualStrategy
import JdHoldings.Capital.Atomic
import JdHoldings.Capital.Contract
import JdHoldings.Capital.Hwm75
import JdHoldings.Capital.Observation
import JdHoldings.Capital.Ramp
import JdHoldings.Capital.Reduction
import JdHoldings.Capital.Refinement
import JdHoldings.Capital.Returns
import JdHoldings.Capital.SameLedger
import JdHoldings.Console.ReviewedChanges
import JdHoldings.Core.Allocation
import JdHoldings.Core.Execution
import JdHoldings.Core.InitialOnboarding
import JdHoldings.Core.Models
import JdHoldings.Core.Replay
import JdHoldings.Core.Targets
import JdHoldings.Core.TwinCore
import JdHoldings.DryRun.Books
import JdHoldings.Infrastructure.Candles
import JdHoldings.Infrastructure.DualMarketData
import JdHoldings.Infrastructure.JhAutoTelegram
import JdHoldings.Infrastructure.MarketClock
import JdHoldings.Infrastructure.MarketData
import JdHoldings.Infrastructure.SharedTossToken
import JdHoldings.Infrastructure.TossClient
import JdHoldings.Ledger.AccountRun
import JdHoldings.Ledger.Accounting
import JdHoldings.Ledger.Batching
import JdHoldings.Ledger.CostBasis
import JdHoldings.Ledger.IdleCashFills
import JdHoldings.Ledger.Operations
import JdHoldings.Ledger.Positions
import JdHoldings.Ledger.RiskCeiling
import JdHoldings.Ledger.Solvency
import JdHoldings.Ledger.TargetCeiling
import JdHoldings.Library.Amortized
import JdHoldings.Library.Attempt
import JdHoldings.Library.Calendar
import JdHoldings.Library.Clamp
import JdHoldings.Library.Dict
import JdHoldings.Library.Loop
import JdHoldings.Library.Optimistic
import JdHoldings.Library.Pool
import JdHoldings.Library.Proc
import JdHoldings.Library.Prog
import JdHoldings.Library.Quantize
import JdHoldings.Library.Raise
import JdHoldings.Library.Runs
import JdHoldings.Library.Series
import JdHoldings.Library.Table
import JdHoldings.Library.Work
import JdHoldings.Monitor.Booking
import JdHoldings.Onboarding.ExposureCap
import JdHoldings.Onboarding.Stages
import JdHoldings.Orders.BuyBoundary
import JdHoldings.Orders.Discipline
import JdHoldings.Orders.LiveProcess
import JdHoldings.Orders.PostOnce
import JdHoldings.Orders.RowLaw
import JdHoldings.Orders.RowRuns
import JdHoldings.Orders.Steps
import JdHoldings.Orders.Submit
import JdHoldings.Orders.SubmitReads
import JdHoldings.Orders.UnknownRows
import JdHoldings.Orders.UnsentRows
import JdHoldings.Reconciliation.Broker
import JdHoldings.Reconciliation.Envelope
import JdHoldings.Reconciliation.IdleCash
import JdHoldings.Reconciliation.Refresh
import JdHoldings.Reconciliation.Report
import JdHoldings.Safety.Alarms
import JdHoldings.Safety.ApprovalRuns
import JdHoldings.Safety.ExpiredApprovals
import JdHoldings.Safety.Latch
import JdHoldings.Safety.LatchCalls
import JdHoldings.Safety.LatchStart
import JdHoldings.Safety.LatchSteps
import JdHoldings.Safety.OperatorLatch
import JdHoldings.Safety.SafeMode
import JdHoldings.Safety.TransientRecovery
import JdHoldings.Tokens.OneToken
import JdHoldings.Trading.ApprovedOrders
import JdHoldings.Trading.InHand
