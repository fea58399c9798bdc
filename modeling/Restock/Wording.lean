import Restock.Calendar.Instant
import Restock.Decimal.Fixed
import Restock.Forecast
import Restock.Report
import Restock.Risk
import Restock.Seasonality
import Restock.Text.Quoted
import Restock.Turnover

/-!
How errors, findings and recommendations are worded.
-/
namespace Restock
open Decimal

/-- The rule that a rejected value breaks. -/
def Rejection.text : Rejection → String
  | .notANumber => "Input should be a valid number"
  | .unreadableNumber => "Input should be a valid number, unable to parse string as a number"
  | .notBelowOne => "Input should be less than 1"
  | .notAboveZero => "Input should be greater than 0"
  | .belowZero => "Input should be greater than or equal to 0"
  | .notAMapping => "Input should be a valid dictionary"
  | .factorCount n => "Value error, expected 12 monthly factors, got " ++ toString n
  | .negativeFactor => "Value error, seasonality factors must be non-negative"
  | .unreadableFactor s => "Value error, could not convert string to float: " ++ Text.quoted s
  | .negativeCapacity location =>
    "Value error, negative storage capacity for location " ++ location

/-- Where a rejected value was given: the field, and the entry after a point. -/
def rejectedAt (field : String) : Option String → String
  | none => field
  | some entry => field ++ "." ++ entry

/-- The argument that a fault is about. -/
def ParameterFault.field {α : Type} : ParameterFault α → String
  | .lotSize .. => "parameters"
  | .serviceLevel => "service_level"
  | .negativeLeadTime _ => "lead_time_days"
  | .horizon _ => "forecast_horizon_days"
  | .negativeStock _ => "current_stock"
  | .analysisPeriod _ => "analysis_period_months"
  | .negativeBaseStock _ => "base_stock_level"
  | .reviewPeriod _ => "review_period_days"
  | .turnoverTarget _ => "target_turnover_ratio"
  | .rejected field entry _ => rejectedAt field entry

/-- What is wrong with an argument. -/
def ParameterFault.message : ParameterFault Float → String
  | .lotSize demand ordering holding =>
    "Invalid parameters for EOQ calculation: annual_demand=" ++ shortestText demand
      ++ ", ordering_cost=" ++ shortestText ordering
      ++ ", holding_cost_rate=" ++ shortestText holding
  | .serviceLevel => "Service level must be between 0 and 1"
  | .negativeLeadTime days => "Lead time cannot be negative, got " ++ shortestText days
  | .horizon days => "Forecast horizon must be at least 1 day, got " ++ toString days
  | .negativeStock units => "Current stock cannot be negative, got " ++ shortestText units
  | .analysisPeriod months => "Analysis period must be at least 1 month, got " ++ toString months
  | .negativeBaseStock units => "Base stock level cannot be negative, got " ++ shortestText units
  | .reviewPeriod days => "Review period must be at least 1 day, got " ++ toString days
  | .turnoverTarget ratio => "Target turnover ratio must be positive, got " ++ shortestText ratio
  | .rejected field entry reason => rejectedAt field entry ++ ": " ++ reason.text

def Purpose.message : Purpose → String
  | .stocking => "No historical demand data found"
  | .forecast => "No historical data for forecasting"
  | .seasonality => "No historical data for seasonal analysis"

def Read.text : Read → String
  | .stock product location => "stock of " ++ product ++ "@" ++ location
  | .history product location => "demand history of " ++ product ++ "@" ++ location
  | .products location => "products at " ++ location
  | .stockLevels location => "stock levels at " ++ location

/-- The message of an error; errors of arithmetic, shape and calendar have none. -/
def PlanError.message? : PlanError Float → Option String
  | .invalidParameter fault => some fault.message
  | .invalidDemand quantity day =>
    some ("Invalid demand " ++ shortestText quantity ++ " on " ++ day.text)
  | .insufficientData purpose _ _ => some purpose.message
  | .sourceFailure read => some ("Failed to load " ++ read.text)
  | _ => none

def BaselineMethod.label : BaselineMethod → String
  | .exponentialSmoothing => "Exponential Smoothing with Trend and Seasonality"
  | .movingAverage => "Moving Average with Trend and Seasonality"

def RiskLevel.label : RiskLevel → String
  | .critical => "Critical"
  | .high => "High"
  | .medium => "Medium"
  | .low => "Low"

def RiskLevel.actions : RiskLevel → List String
  | .critical =>
    ["Place emergency order immediately",
     "Contact suppliers for expedited delivery",
     "Consider temporary product substitution"]
  | .high =>
    ["Place replenishment order within 24 hours",
     "Monitor stock levels daily",
     "Prepare contingency suppliers"]
  | .medium =>
    ["Schedule replenishment order",
     "Review demand forecast accuracy"]
  | .low => ["Continue normal monitoring"]

def TrendReading.text : TrendReading Float → String
  | .rising slope => "Rising demand trend (+" ++ fixedText 2 slope ++ " units/day)"
  | .declining slope => "Declining demand trend (" ++ fixedText 2 slope ++ " units/day)"
  | .stable => "Stable demand trend"

def DemandReading.texts : DemandReading Float → List String
  | .expected volatile variation coverDays =>
    [(if volatile then "High historical demand variability (CV="
      else "Historical demand variability (CV=") ++ fixedText 2 variation ++ ")",
     "Stock covers " ++ fixedText 1 coverDays ++ " days of forecast demand"]
  | .none => ["No demand forecast within the horizon"]

/-- What a risk analysis rests on. -/
def RiskAnalysis.factors (a : RiskAnalysis Float) : List String :=
  ("Current stock level: " ++ fixedText 0 a.stock ++ " units") :: a.trend.text :: a.demand.texts

/-- Why a deficit is to be procured. -/
def Procurement.assessment : String :=
  "No surplus location in the network can cover this deficit"

def TrendDirection.label : TrendDirection → String
  | .increasing => "Increasing"
  | .decreasing => "Decreasing"
  | .stable => "Stable"

/-- Why a month's stock is recommended. -/
def SeasonLevel.reason : SeasonLevel → String
  | .highDemand => "High demand season - increase stock"
  | .lowDemand => "Low demand season - reduce stock"
  | .normalDemand => "Normal demand - maintain average stock"

/-- The strategy for a seasonal profile. -/
def SeasonalProfile.strategy {α : Type} (p : SeasonalProfile α) : String :=
  if p.isSeasonal then "Implement dynamic safety stock based on seasonal patterns"
  else "Maintain level stocking; no pronounced seasonality"

def Priority.label : Priority → String
  | .high => "High"
  | .medium => "Medium"

def Reduction.action : String := "Reduce inventory level"

def Violation.text : Violation Float → String
  | .investment recommended limit =>
    "Recommended investment " ++ fixedText 2 recommended ++ " exceeds maximum " ++ fixedText 2 limit
  | .storage location required capacity =>
    "Storage capacity at " ++ location ++ " exceeded: " ++ fixedText 0 required
      ++ " units required, " ++ fixedText 0 capacity ++ " available"

def Advice.text : Advice → String
  | .automateReordering => "Implement automated reorder point calculations"
  | .scheduleReviews => "Set up regular inventory optimization reviews"
  | .classifyProducts => "Consider implementing ABC analysis for prioritization"
  | .reviewMovements n =>
    "Review movement data for " ++ toString n ++ " products without usable demand history"
  | .adjustTargets => "Adjust service levels or constraints before applying these parameters"

end Restock
