import Restock.Error
import Restock.Parameters.Basic
import Restock.Parameters.Raw
import Restock.Scalar.Read

/-!
What each field of the parameters accepts. `Field.all` lists the fields in the order in which they
are checked; a field's verdict depends on its own value alone.
-/
namespace Restock

inductive Field where
  | targetServiceLevel
  | holdingCostRate
  | orderingCost
  | stockoutCost
  | leadTimeVariability
  | demandVariability
  | seasonalityFactors
  | trendFactor
  | maxInventoryInvestment
  | storageConstraints
  | leadTimeDays
deriving DecidableEq

namespace Field

/-- The fields in the order in which they are checked. -/
def all : List Field :=
  [targetServiceLevel, holdingCostRate, orderingCost, stockoutCost, leadTimeVariability,
   demandVariability, seasonalityFactors, trendFactor, maxInventoryInvestment, storageConstraints,
   leadTimeDays]

/-- The key under which a field is given. -/
def key : Field → String
  | targetServiceLevel => "target_service_level"
  | holdingCostRate => "holding_cost_rate"
  | orderingCost => "ordering_cost"
  | stockoutCost => "stockout_cost"
  | leadTimeVariability => "lead_time_variability"
  | demandVariability => "demand_variability"
  | seasonalityFactors => "seasonality_factors"
  | trendFactor => "trend_factor"
  | maxInventoryInvestment => "max_inventory_investment"
  | storageConstraints => "storage_constraints"
  | leadTimeDays => "lead_time_days"

end Field

/-- Which numbers a field admits. -/
inductive Domain where
  | any
  | nonnegative
  | positive
  | probability

variable {α : Type} [Scalar α]

/-- Why a value is not taken: it is rejected, as a whole or at an entry, or the reading itself
fails. -/
inductive Refusal (α : Type) where
  | rejected (entry : Option String) (reason : Rejection)
  | failed (error : PlanError α)

/-- Checks that a number lies in a domain; the upper bound is checked first. -/
def Domain.check (x : α) : Domain → Except Rejection α
  | .any => .ok x
  | .nonnegative => if 0 ≤ x then .ok x else .error .belowZero
  | .positive => if 0 < x then .ok x else .error .notAboveZero
  | .probability =>
    if x < 1 then (if 0 < x then .ok x else .error .notAboveZero) else .error .notBelowOne

namespace Raw

/-- Reads a number: a truth value counts as one or zero, and a text is read. -/
def number? : Raw α → Except Rejection α
  | .truth holds => .ok (if holds then 1 else 0)
  | .integer n =>
    let x : α := Scalar.ofInt n
    if Scalar.isFinite x then .ok x else .error .notANumber
  | .number x => .ok x
  | .text s =>
    match (Numeral.ofParameter? s).bind Scalar.ofNumeral? with
    | some x => .ok x
    | none => .error .unreadableNumber
  | .null | .list _ | .mapping _ => .error .notANumber

/-- Reads a number of a domain. -/
def numberIn? (domain : Domain) (r : Raw α) : Except Rejection α := do domain.check (← r.number?)

/-- Reads a number of a domain, or nothing. -/
def optionalIn? (domain : Domain) : Raw α → Except Rejection (Option α)
  | .null => .ok none
  | r => (r.numberIn? domain).map some

/-- The items of a list, the characters of a text or the keys of a mapping. -/
def items? : Raw α → Except (Refusal α) (List (Raw α))
  | .list items => .ok items
  | .text s => .ok (s.toList.map fun c => .text (String.singleton c))
  | .mapping entries => .ok (entries.map fun e => .text e.1)
  | _ => .error (.failed .kind)

def factor? : Raw α → Except (Refusal α) α
  | .truth holds => .ok (if holds then 1 else 0)
  | .integer n =>
    let x : α := Scalar.ofInt n
    if Scalar.isFinite x then .ok x else .error (.failed .integerTooLarge)
  | .number x => .ok x
  | .text s =>
    match (Numeral.ofSetting? s).bind Scalar.ofNumeral? with
    | some x => .ok x
    | none => .error (.rejected none (.unreadableFactor s))
  | .null | .list _ | .mapping _ => .error (.failed .kind)

/-- Reads twelve factors, none of them negative. -/
def factors? (r : Raw α) : Except (Refusal α) (Vector α 12) := do
  let xs ← (← r.items?).mapM factor?
  if h : xs.length = 12 then
    if xs.any (· < 0) then throw (.rejected none .negativeFactor)
    else return ⟨xs.toArray, by simpa using h⟩
  else throw (.rejected none (.factorCount xs.length))

/-- Reads a number for each location, none of them negative. -/
def capacities? : Raw α → Except (Refusal α) (Table String α)
  | .mapping entries => do
    let capacities ← entries.mapM fun (location, r) =>
      match r.number? with
      | .ok x => Except.ok (location, x)
      | .error reason => .error (.rejected (some location) reason)
    match capacities.find? fun e => e.2 < 0 with
    | some e => throw (.rejected none (.negativeCapacity e.1))
    | none => return .ofList capacities
  | _ => .error (.rejected none .notAMapping)

end Raw
end Restock
