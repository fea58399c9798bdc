import Restock.Decimal.Scientific
import Restock.Parameters.Build
import Restock.Scalar.Machine
import Restock.Session
import Restock.Wording
import Restock.Proofs.Network.Index
import Restock.Proofs.Network.PairScan
import Restock.Proofs.Network.Coverage
import Restock.Proofs.Planning.Pool
import Restock.Proofs.Arithmetic.Exact
import Restock.Proofs.Normal.Quantile
import Restock.Proofs.Planning.Outcomes
import Restock.Proofs.Demand.DailySums
import Restock.Proofs.Demand.Gaps
import Restock.Proofs.Demand.Lookback
import Restock.Proofs.Demand.Dense
import Restock.Proofs.Season.Indices
import Restock.Proofs.Season.Profile
import Restock.Proofs.Source.Tables
import Restock.Proofs.Source.Batches
import Restock.Proofs.Source.Loads
import Restock.Proofs.Source.DemandRows
import Restock.Proofs.Source.StockEntries
import Restock.Proofs.Source.Agreement
import Restock.Proofs.Risk.Analysis
import Restock.Proofs.Risk.FirstPassage
import Restock.Proofs.Arithmetic.Statistics
import Restock.Proofs.Arithmetic.TrailingMeans
import Restock.Proofs.Arithmetic.Smoothing
import Restock.Proofs.Arithmetic.Constant
import Restock.Proofs.Forecast.Basis
import Restock.Proofs.Forecast.Horizon
import Restock.Proofs.Forecast.Feasible
import Restock.Proofs.Forecast.Recomputed
import Restock.Proofs.Forecast.Multipliers
import Restock.Proofs.Forecast.InSample
import Restock.Proofs.Units.Forecast
import Restock.Proofs.Units.Risk
import Restock.Proofs.Stocking.Plan
import Restock.Proofs.Forecast.Steady
import Restock.Proofs.Stocking.Consistency
import Restock.Proofs.Stocking.LotSize
import Restock.Proofs.Stocking.Buffers
import Restock.Proofs.Stocking.Cover
import Restock.Proofs.Units.Plans
import Restock.Proofs.Network.Shipments
import Restock.Proofs.Network.Summary
import Restock.Proofs.Network.Relisting
import Restock.Proofs.Parameters.Reading
import Restock.Proofs.Parameters.Reporting
import Restock.Proofs.Arithmetic.Floats
import Restock.Proofs.Parameters.Domains
import Restock.Proofs.Source.Contents
import Restock.Proofs.Source.Requests
import Restock.Proofs.Source.Answers
import Restock.Proofs.Settings.Overrides
import Restock.Proofs.Risk.Comparison
import Restock.Proofs.Parameters.FieldByField
import Restock.Proofs.Stocking.WholeUnits
import Restock.Proofs.Turnover.Reductions
import Restock.Proofs.Arithmetic.FloatUnits
import Restock.Proofs.Planning.Orders
import Restock.Proofs.Season.Levels
import Restock.Proofs.Normal.Loss
import Restock.Proofs.Stocking.Shortage
import Restock.Proofs.Arithmetic.FloatOrder
import Restock.Proofs.Planning.Limits
import Restock.Proofs.Source.Window
import Restock.Proofs.Arithmetic.NotANumber
import Restock.Proofs.Planning.Arguments
import Restock.Proofs.Arithmetic.LeastSquares
import Restock.Proofs.Arithmetic.Pairs
import Restock.Proofs.Planning.Roots
import Restock.Proofs.Season.Contrast
