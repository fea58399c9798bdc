import Restock.Parameters.Field

/-!
Parameters from what a caller hands in: named values of any kind, in any order. Unknown names are
ignored, missing fields keep their defaults, and of several rejected fields the first one in the
order of `Field.all` is reported.
-/
namespace Restock
variable {α : Type} [Scalar α]

/-- The error for a value that was not taken. -/
def Refusal.error (field : Field) : Refusal α → PlanError α
  | .rejected entry reason => .invalidParameter (.rejected field.key entry reason)
  | .failed e => e

/-- Reads a field with its reader; a missing one keeps its default. -/
def readField {β : Type} (given : List (String × Raw α)) (field : Field)
    (read : Raw α → Except (Refusal α) β) (default : β) : Planned α β :=
  match given.lookup field.key with
  | none => .ok default
  | some r => (read r).mapError (Refusal.error field)

/-- Lets a reader reject a value as a whole. -/
def rejecting {β : Type} (read : Raw α → Except Rejection β) (r : Raw α) :
    Except (Refusal α) β :=
  (read r).mapError (.rejected none)

/-- The failure of the factors' conversion, if it is more than a rejection. It stops the run before
any rejection is reported. -/
def factorFailure? (given : List (String × Raw α)) : Option (PlanError α) :=
  match (given.lookup Field.seasonalityFactors.key).map Raw.factors? with
  | some (.error (.failed e)) => some e
  | _ => none

def Parameters.build (given : List (String × Raw α)) : Planned α (Parameters α) := do
  if let some e := factorFailure? given then throw e
  let d : Parameters α := .default
  let number (field : Field) (domain : Domain) (default : α) : Planned α α :=
    readField given field (rejecting (Raw.numberIn? domain)) default
  let targetServiceLevel ← number .targetServiceLevel .probability d.targetServiceLevel
  let holdingCostRate ← number .holdingCostRate .positive d.holdingCostRate
  let orderingCost ← number .orderingCost .positive d.orderingCost
  let stockoutCost ← number .stockoutCost .nonnegative d.stockoutCost
  let leadTimeVariability ← number .leadTimeVariability .nonnegative d.leadTimeVariability
  let demandVariability ← number .demandVariability .nonnegative d.demandVariability
  let seasonalityFactors ← readField given .seasonalityFactors Raw.factors? d.seasonalityFactors
  let trendFactor ← number .trendFactor .any d.trendFactor
  let maxInventoryInvestment ← readField given .maxInventoryInvestment
    (rejecting (Raw.optionalIn? .nonnegative)) d.maxInventoryInvestment
  let storageConstraints ← readField given .storageConstraints Raw.capacities? d.storageConstraints
  let leadTimeDays ← number .leadTimeDays .positive d.leadTimeDays
  return { targetServiceLevel, holdingCostRate, orderingCost, stockoutCost, leadTimeVariability,
           demandVariability, seasonalityFactors, trendFactor, maxInventoryInvestment,
           storageConstraints, leadTimeDays }

end Restock
