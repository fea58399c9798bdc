import Restock.Forecast
import Restock.Scalar.Checked

/-!
The risk of running out: a forecast is walked day by day against the stock on hand.

Stock runs out on the first day on which the demand so far exceeds it. The probability at a
checkpoint is either a flag for that, or that of a normal distribution with the demand so far as
its mean and the daily variance as often as there were days.
-/
namespace Restock
variable {α : Type}

inductive RiskLevel where
  | critical
  | high
  | medium
  | low
deriving DecidableEq

/-- How the trend of demand reads. -/
inductive TrendReading (α : Type) where
  | rising (slope : α)
  | declining (slope : α)
  | stable

/-- How demand and its spread read. -/
inductive DemandReading (α : Type) where
  /-- The coefficient of variation, whether it is high, and the days that stock lasts. -/
  | expected (volatile : Bool) (variation coverDays : α)
  | none

/-- The stockout outlook of one product at one location. -/
structure RiskAnalysis (α : Type) where
  product : String
  location : String
  analyzedAt : Instant
  stock : α
  probabilities : α × α × α
  daysUntilStockout : Option Nat
  level : RiskLevel
  trend : TrendReading α
  demand : DemandReading α

/-- The level for the days until stock runs out; low when it does not. -/
def RiskPolicy.classify [Scalar α] (policy : RiskPolicy α) : Option Int → RiskLevel
  | none => .low
  | some d =>
    if d ≤ policy.criticalDays then .critical
    else if d ≤ policy.highDays then .high
    else if d ≤ policy.mediumDays then .medium
    else .low

section
variable [Scalar α]

/-- The running sums after `total`. -/
def runningFrom (total : α) : List α → List α
  | [] => []
  | x :: xs => (total + x) :: runningFrom (total + x) xs

theorem getElem?_runningFrom (total : α) (xs : List α) (i : Nat) :
    (runningFrom total xs)[i]? =
      if i < xs.length then some ((xs.take (i + 1)).foldl (· + ·) total) else none := by
  induction xs generalizing total i with
  | nil => simp [runningFrom]
  | cons x xs ih => cases i <;> simp [runningFrom, ih]

@[simp] theorem length_runningFrom (total : α) (xs : List α) :
    (runningFrom total xs).length = xs.length := by
  induction xs generalizing total with
  | nil => rfl
  | cons x xs ih => simp [runningFrom, ih]

/-- The demand so far at the end of each day. -/
def cumulative (daily : List α) : List α := runningFrom 0 daily

theorem getElem?_cumulative (daily : List α) (i : Nat) :
    (cumulative daily)[i]? =
      if i < daily.length then some (Scalar.sum (daily.take (i + 1))) else none :=
  getElem?_runningFrom 0 daily i

@[simp] theorem length_cumulative (daily : List α) : (cumulative daily).length = daily.length :=
  length_runningFrom 0 daily

/-- The first day, counted from 1, at whose end a running sum exceeds the stock. -/
def firstAbove (stock : α) (sums : List α) : Option Nat :=
  (sums.findIdx? fun total => decide (stock < total)).map (· + 1)

/-- The day on which stock runs out. -/
def stockoutDay (stock : α) (daily : List α) : Option Nat := firstAbove stock (cumulative daily)

/-- The element of a list at a position; positions below zero count from its end. -/
def fromEitherEnd? (xs : List α) (i : Int) : Planned α α :=
  let j := if i < 0 then i + xs.length else i
  match (if 0 ≤ j then xs[j.toNat]? else none) with
  | some x => .ok x
  | none => .error (.shape .position)

/-- Whether stock has run out by a checkpoint, as one or zero. -/
def stockoutFlag (day : Option Nat) (checkpoint : Int) : α :=
  match day with
  | some d => if (d : Int) ≤ checkpoint then 1 else 0
  | none => 0

/-- How the trend of a forecast reads: slopes within a hundredth of a unit a day are stable. -/
def TrendReading.of (slope : α) : TrendReading α :=
  if Scalar.fraction 1 2 < slope then .rising slope
  else if slope < -Scalar.fraction 1 2 then .declining slope
  else .stable

/-- The mean demand of a day of the horizon; zero for a horizon of no days. -/
def Outlook.meanDemand (outlook : Outlook α) : α :=
  if outlook.horizonDays = 0 then 0
  else Scalar.sum outlook.daily / Scalar.ofInt outlook.horizonDays

/-- How demand reads over the horizon. -/
def DemandReading.of (policy : RiskPolicy α) (stock : α) (outlook : Outlook α) :
    Planned α (DemandReading α) :=
  let mean := outlook.meanDemand
  if 0 < mean then do
    let variation := (← Scalar.root? outlook.variance) / mean
    return .expected (decide (policy.volatileCV < variation)) variation (stock / mean)
  else .ok .none

end

variable [Gaussian α]

/-- The probability that the demand so far at a checkpoint exceeds the stock, under a normal
approximation. A horizon shorter than the checkpoint is taken as a whole. -/
def normalProbability (stock variance : α) (sums : List α) (checkpoint : Int) : Planned α α := do
  let days := min checkpoint sums.length
  let mean ← fromEitherEnd? sums (days - 1)
  let deviation ← Scalar.root? (Scalar.ofInt days * variance)
  if 0 < deviation then return Gaussian.tail ((stock - mean) / deviation)
  else return if stock < mean then 1 else 0

/-- The probability of having run out at a checkpoint. -/
def checkpointProbability (mode : ProbabilityMode) (stock variance : α) (sums : List α)
    (day : Option Nat) (checkpoint : Int) : Planned α α :=
  match mode with
  | .normal =>
    if sums.isEmpty then .ok (stockoutFlag day checkpoint)
    else normalProbability stock variance sums checkpoint
  | .binary => .ok (stockoutFlag day checkpoint)

/-- The stockout outlook of the stock on hand against a forecast. -/
def Outlook.risk (outlook : Outlook α) (stock : α) (policy : RiskPolicy α) (now : Instant) :
    Planned α (RiskAnalysis α) :=
  if stock < 0 then .error (.invalidParameter (.negativeStock stock))
  else do
    let sums := cumulative outlook.daily
    let day := firstAbove stock sums
    let probability :=
      checkpointProbability policy.probabilityMode stock outlook.variance sums day
    let first ← probability policy.checkpoints.first
    let second ← probability policy.checkpoints.second
    let third ← probability policy.checkpoints.third
    return {
      product := outlook.product
      location := outlook.location
      analyzedAt := now
      stock
      probabilities := (first, second, third)
      daysUntilStockout := day
      level := policy.classify (day.map Int.ofNat)
      trend := TrendReading.of outlook.trend
      demand := ← DemandReading.of policy stock outlook }

end Restock
