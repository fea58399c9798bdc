import Restock.Proofs.Parameters.Reading

/-!
# Field by field

The fields of parameters hold values of different kinds and are read in different ways. `Field.read` is
the reader of a field, `Parameters.value` what parameters hold in it, and `readValue` reads it from what
is given. Parameters are built exactly when every field can be read so (`Parameters.readFrom_iff`); when
some cannot, building them fails as the first of these does (`Parameters.build_eq_error_iff`).
-/

namespace Restock

variable {α β : Type}

/-! ## Values and readers -/

namespace Field

/-- What a field holds. -/
def Value (α : Type) : Field → Type
  | seasonalityFactors => Vector α 12
  | maxInventoryInvestment => Option α
  | storageConstraints => Table String α
  | _ => α

/-- The reader of a field. -/
def read [Scalar α] : (field : Field) → Raw α → Except (Refusal α) (field.Value α)
  | targetServiceLevel => rejecting (Raw.numberIn? .probability)
  | holdingCostRate => rejecting (Raw.numberIn? .positive)
  | orderingCost => rejecting (Raw.numberIn? .positive)
  | stockoutCost => rejecting (Raw.numberIn? .nonnegative)
  | leadTimeVariability => rejecting (Raw.numberIn? .nonnegative)
  | demandVariability => rejecting (Raw.numberIn? .nonnegative)
  | seasonalityFactors => Raw.factors?
  | trendFactor => rejecting (Raw.numberIn? .any)
  | maxInventoryInvestment => rejecting (Raw.optionalIn? .nonnegative)
  | storageConstraints => Raw.capacities?
  | leadTimeDays => rejecting (Raw.numberIn? .positive)

theorem key_injective : Function.Injective key := by
  intro field field' h
  cases field <;> cases field' <;> first | rfl | exact absurd h (by decide)

theorem mem_all (field : Field) : field ∈ all := by cases field <;> decide

end Field

namespace Parameters

/-- What parameters hold in a field. -/
def value (p : Parameters α) : (field : Field) → field.Value α
  | .targetServiceLevel => p.targetServiceLevel
  | .holdingCostRate => p.holdingCostRate
  | .orderingCost => p.orderingCost
  | .stockoutCost => p.stockoutCost
  | .leadTimeVariability => p.leadTimeVariability
  | .demandVariability => p.demandVariability
  | .seasonalityFactors => p.seasonalityFactors
  | .trendFactor => p.trendFactor
  | .maxInventoryInvestment => p.maxInventoryInvestment
  | .storageConstraints => p.storageConstraints
  | .leadTimeDays => p.leadTimeDays

end Parameters

variable [Scalar α]

/-- Reads a field from what is given; a missing one keeps its default. -/
def readValue (given : List (String × Raw α)) (field : Field) : Planned α (field.Value α) :=
  readField given field field.read (Parameters.default.value field)

variable {given : List (String × Raw α)} {field : Field}

theorem readValue_congr {given' : List (String × Raw α)}
    (h : given'.lookup field.key = given.lookup field.key) :
    readValue given' field = readValue given field := by
  rw [readValue, readValue, readField, readField, h]

theorem Parameters.readFrom_iff {p : Parameters α} :
    ReadFrom given p ↔ ∀ field, readValue given field = .ok (p.value field) := by
  constructor
  · intro h field
    cases field with
    | targetServiceLevel => exact h.targetServiceLevel
    | holdingCostRate => exact h.holdingCostRate
    | orderingCost => exact h.orderingCost
    | stockoutCost => exact h.stockoutCost
    | leadTimeVariability => exact h.leadTimeVariability
    | demandVariability => exact h.demandVariability
    | seasonalityFactors => exact h.seasonalityFactors
    | trendFactor => exact h.trendFactor
    | maxInventoryInvestment => exact h.maxInventoryInvestment
    | storageConstraints => exact h.storageConstraints
    | leadTimeDays => exact h.leadTimeDays
  · intro h
    exact
      { targetServiceLevel := h .targetServiceLevel
        holdingCostRate := h .holdingCostRate
        orderingCost := h .orderingCost
        stockoutCost := h .stockoutCost
        leadTimeVariability := h .leadTimeVariability
        demandVariability := h .demandVariability
        seasonalityFactors := h .seasonalityFactors
        trendFactor := h .trendFactor
        maxInventoryInvestment := h .maxInventoryInvestment
        storageConstraints := h .storageConstraints
        leadTimeDays := h .leadTimeDays }

/-! ## The first field that cannot be read -/

/-- Reads a field only to see whether it can be read. -/
def checkField (given : List (String × Raw α)) (field : Field) : Planned α Unit :=
  (readValue given field).map fun _ => ()

theorem checkField_eq_error_iff {e : PlanError α} :
    checkField given field = .error e ↔ readValue given field = .error e := by
  unfold checkField
  cases readValue given field <;> simp [Except.map]

theorem exists_checkField_iff :
    (∃ u, checkField given field = .ok u) ↔ ∃ v, readValue given field = .ok v := by
  unfold checkField
  cases readValue given field <;> simp [Except.map]

/-- A step that fails as checking some fields one after the other does. -/
def Checks (given : List (String × Raw α)) (fields : List Field) (x : Planned α β) : Prop :=
  ∀ e, x = .error e ↔ fields.mapM (checkField given) = .error e

theorem Checks.ok (b : β) : Checks given [] (.ok b : Planned α β) := by
  intro e
  constructor <;> intro h <;> cases h

theorem Checks.bind (field : Field) {fields : List Field} {f : field.Value α → Planned α β}
    (hf : ∀ v, Checks given fields (f v)) :
    Checks given (field :: fields) (readValue given field >>= f) := by
  intro e
  rw [List.mapM_cons, checkField]
  cases readValue given field with
  | error e' => simp [Except.map]
  | ok v =>
      simp only [Planned.ok_bind, Except.map]
      rw [hf v e]
      cases fields.mapM (checkField given) <;> simp

namespace Parameters

/-- Once the factors have been converted, building parameters checks the fields in their order. -/
theorem checks_build (h : factorFailure? given = none) : Checks given Field.all (build given) := by
  simp only [build, h, Field.all]
  refine .bind .targetServiceLevel fun _ => ?_
  refine .bind .holdingCostRate fun _ => ?_
  refine .bind .orderingCost fun _ => ?_
  refine .bind .stockoutCost fun _ => ?_
  refine .bind .leadTimeVariability fun _ => ?_
  refine .bind .demandVariability fun _ => ?_
  refine .bind .seasonalityFactors fun _ => ?_
  refine .bind .trendFactor fun _ => ?_
  refine .bind .maxInventoryInvestment fun _ => ?_
  refine .bind .storageConstraints fun _ => ?_
  refine .bind .leadTimeDays fun _ => ?_
  exact .ok _

theorem build_eq_error_iff (h : factorFailure? given = none) {e : PlanError α} :
    build given = .error e ↔ ∃ before field after, Field.all = before ++ field :: after
      ∧ (∀ earlier ∈ before, ∃ v, readValue given earlier = .ok v)
      ∧ readValue given field = .error e := by
  rw [checks_build h e, mapM_eq_error_iff]
  simp only [exists_checkField_iff, checkField_eq_error_iff]

end Parameters

end Restock
