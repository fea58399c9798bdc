import Restock.Policy
import Restock.Scalar.Read

/-!
The settings of a deployment and how named texts override them. A text that does not read as its
setting's type leaves the default, and so does an empty one.
-/
namespace Restock

/-- Everything the planning needs besides its data. -/
structure Settings (α : Type) [Scalar α] where
  databaseUrl : String := "sqlite:///stock_optimization.db"
  poolSize : Int := 10
  maxOverflow : Int := 0
  poolTimeoutSeconds : α := Scalar.ofNat 30
  workers : Option Int := none
  forecast : ForecastPolicy α := {}
  optimizer : OptimizerPolicy α := {}
  risk : RiskPolicy α := {}
  rebalancing : RebalancingPolicy α := {}
  turnover : TurnoverPolicy α := {}

variable {α : Type} [Scalar α]

/-- How many products are worked on at a time: as many as there are connections, unless workers are
given; at least one. -/
def Settings.workerCount (s : Settings α) : Int :=
  max 1 (match s.workers with
    | some 0 => s.poolSize
    | some n => n
    | none => s.poolSize)

def BaselineMethod.name : BaselineMethod → String
  | .exponentialSmoothing => "exponential_smoothing"
  | .movingAverage => "moving_average"

/-- The method that a word names. -/
def BaselineMethod.ofName? (s : String) : Option BaselineMethod :=
  [.exponentialSmoothing, .movingAverage].find? fun m => m.name = s

def ProbabilityMode.name : ProbabilityMode → String
  | .binary => "binary"
  | .normal => "normal"

/-- The mode that a word names. -/
def ProbabilityMode.ofName? (s : String) : Option ProbabilityMode :=
  [.binary, .normal].find? fun m => m.name = s

/-- The settings that a named text can override. -/
inductive Variable where
  | databaseUrl
  | poolSize
  | maxOverflow
  | poolTimeout
  | workers
  | smoothingAlpha
  | historyDays
  | forecastBaseline
  | probabilityMode
deriving DecidableEq

/-- The name under which a setting's text is looked up. -/
def Variable.name : Variable → String
  | databaseUrl => "STOCKOPT_DATABASE_URL"
  | poolSize => "STOCKOPT_POOL_SIZE"
  | maxOverflow => "STOCKOPT_MAX_OVERFLOW"
  | poolTimeout => "STOCKOPT_POOL_TIMEOUT"
  | workers => "STOCKOPT_WORKERS"
  | smoothingAlpha => "STOCKOPT_SMOOTHING_ALPHA"
  | historyDays => "STOCKOPT_HISTORY_DAYS"
  | forecastBaseline => "STOCKOPT_FORECAST_BASELINE"
  | probabilityMode => "STOCKOPT_RISK_PROBABILITY_MODE"

/-- Named texts; the first one of a name counts. -/
abbrev Environment := List (String × String)

namespace Environment

/-- The text of a setting, unless it is missing or empty. -/
def text? (env : Environment) (v : Variable) : Option String :=
  (env.lookup v.name).filter (· ≠ "")

/-- The setting that a text reads as, else its default. -/
def read {β : Type} (env : Environment) (v : Variable) (reader : String → Option β) (default : β) :
    β :=
  ((env.text? v).bind reader).getD default

end Environment

/-- A smoothing constant, unless it is outside the range above zero up to one. -/
def usableAlpha (alpha default : α) : α := if 0 < alpha ∧ alpha ≤ 1 then alpha else default

def Settings.ofEnvironment (env : Environment) : Settings α :=
  let d : Settings α := {}
  let number (s : String) : Option α := (Numeral.ofSetting? s).bind Scalar.ofNumeral?
  let alpha := env.read .smoothingAlpha number d.forecast.smoothingAlpha
  { d with
    databaseUrl := env.read .databaseUrl some d.databaseUrl
    poolSize := env.read .poolSize Numeral.integerOfSetting? d.poolSize
    maxOverflow := env.read .maxOverflow Numeral.integerOfSetting? d.maxOverflow
    poolTimeoutSeconds := env.read .poolTimeout number d.poolTimeoutSeconds
    workers := env.read .workers (fun s => (Numeral.integerOfSetting? s).map some) d.workers
    forecast := { d.forecast with
      smoothingAlpha := usableAlpha alpha d.forecast.smoothingAlpha
      baselineMethod := env.read .forecastBaseline
        (fun s => BaselineMethod.ofName? s.toLower) d.forecast.baselineMethod }
    optimizer := { d.optimizer with
      historyDays := env.read .historyDays Numeral.integerOfSetting? d.optimizer.historyDays }
    risk := { d.risk with
      probabilityMode := env.read .probabilityMode
        (fun s => ProbabilityMode.ofName? s.toLower) d.risk.probabilityMode } }

end Restock
