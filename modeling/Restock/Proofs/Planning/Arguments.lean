import Restock.Proofs.Arithmetic.NotANumber
import Restock.Proofs.Planning.Outcomes
import Restock.Proofs.Risk.Analysis
import Restock.Proofs.Stocking.Buffers
import Restock.Seasonality
import Restock.Turnover

/-!
# What operations make of their arguments

Each operation first turns down what lies outside the domain of an argument. The test is for being outside,
which the value that is not a number never is: so an argument passes when it is in its domain or is that
value (`Domain.Passes`), and an operation is refused exactly where some argument does not pass.

What comes of that value then depends on what the operation does with it. Where it is computed with, the
results are that value too. Where it is compared or clamped, it turns into an answer like any other: no
buffer, and no stockout.
-/

namespace Restock

/-! ## Refusals -/

section
variable {α β γ : Type}

/-- An operation turns an argument down. -/
def Refused (x : Planned α β) : Prop := ∃ fault, x = .error (.invalidParameter fault)

theorem Refused.error (fault : ParameterFault α) :
    Refused (.error (.invalidParameter fault) : Planned α β) := ⟨fault, rfl⟩

theorem not_refused_ok (b : β) : ¬ Refused (.ok b : Planned α β) := by
  rintro ⟨fault, h⟩
  cases h

/-- Arguments are turned down in a way that a run over many products could go on with. -/
theorem EndsRun.not_refused {x : Planned α β} (h : EndsRun x) : ¬ Refused x := by
  rintro ⟨fault, hx⟩
  cases h _ hx

theorem refused_bind_iff {x : Planned α β} {f : β → Planned α γ} :
    Refused (x >>= f) ↔ Refused x ∨ ∃ b, x = .ok b ∧ Refused (f b) := by
  cases x with
  | error e => simp [Refused]
  | ok b => simp [not_refused_ok]

end

/-! ## Checks, in any number system -/

theorem endsRun_fromEitherEnd? {α : Type} (xs : List α) (i : Int) : EndsRun (fromEitherEnd? xs i) := by
  intro e h
  unfold fromEitherEnd? at h
  dsimp only at h
  generalize (if i < 0 then i + xs.length else i) = j at h
  cases hx : (if 0 ≤ j then xs[j.toNat]? else none) with
  | none =>
      rw [hx] at h
      cases h
      rfl
  | some x =>
      rw [hx] at h
      cases h

section
variable {α : Type} [Scalar α]

theorem refused_checkCover_iff {serviceLevel leadTimeDays : α} :
    Refused (checkCover serviceLevel leadTimeDays)
      ↔ (serviceLevel ≤ 0 ∨ 1 ≤ serviceLevel) ∨ leadTimeDays < 0 := by
  unfold checkCover
  by_cases hs : serviceLevel ≤ 0 ∨ 1 ≤ serviceLevel
  · rw [if_pos hs]
    exact iff_of_true (.error _) (.inl hs)
  · rw [if_neg hs]
    by_cases hl : leadTimeDays < 0
    · rw [if_pos hl]
      exact iff_of_true (.error _) (.inr hl)
    · rw [if_neg hl]
      exact iff_of_false (not_refused_ok _) (not_or.2 ⟨hs, hl⟩)

theorem endsRun_square? (x : α) : EndsRun (Scalar.square? x) := by
  intro e h
  unfold Scalar.square? at h
  dsimp only at h
  split at h
  · cases h
    rfl
  · cases h

theorem endsRun_root? (x : α) : EndsRun (Scalar.root? x) := by
  intro e h
  unfold Scalar.root? at h
  split at h
  · cases h
    rfl
  · cases h

theorem endsRun_demandVariance (quantities : List α) (variability : α) :
    EndsRun (demandVariance quantities variability) := by
  unfold demandVariance
  split
  · exact .ok _
  · exact endsRun_square? _

theorem refused_safetyStock_iff {history : List (Observation α)}
    {serviceLevel leadTimeDays variability : α} :
    Refused (safetyStock history serviceLevel leadTimeDays variability)
      ↔ (serviceLevel ≤ 0 ∨ 1 ≤ serviceLevel) ∨ leadTimeDays < 0 := by
  rw [← refused_checkCover_iff]
  unfold safetyStock
  rw [refused_bind_iff]
  refine or_iff_left ?_
  rintro ⟨_, -, h⟩
  exact ((endsRun_demandVariance _ _).bind fun _ => .ok _).not_refused h

theorem refused_economicOrderQuantity_iff {annual orderingCost holdingRate : α} :
    Refused (economicOrderQuantity annual orderingCost holdingRate)
      ↔ annual ≤ 0 ∨ orderingCost ≤ 0 ∨ holdingRate ≤ 0 := by
  unfold economicOrderQuantity
  split
  · next h => exact iff_of_true (.error _) h
  · next h => exact iff_of_false (not_refused_ok _) h

theorem refused_ofPositions_iff {policy : TurnoverPolicy α} {location : String}
    {positions : List (Position α)} {target carryingCostRate : α} {now : Instant} :
    Refused (TurnoverPlan.ofPositions policy location positions target carryingCostRate now)
      ↔ target ≤ 0 := by
  unfold TurnoverPlan.ofPositions
  split
  · next h => exact iff_of_true (.error _) h
  · next h => exact iff_of_false (not_refused_ok _) h

theorem refused_seasonalProfile_iff {history : List (Observation α)} {periodMonths : Int} {base : α}
    {product location : String} :
    Refused (SeasonalProfile.ofHistory history periodMonths base product location)
      ↔ periodMonths < 1 ∨ base < 0 := by
  unfold SeasonalProfile.ofHistory checkSeasonalScope
  by_cases hp : periodMonths < 1
  · rw [if_pos hp]
    exact iff_of_true (.error _) (.inl hp)
  · rw [if_neg hp]
    by_cases hb : base < 0
    · rw [if_pos hb]
      exact iff_of_true (.error _) (.inr hb)
    · rw [if_neg hb]
      refine iff_of_false ?_ (not_or.2 ⟨hp, hb⟩)
      -- without observations there is a failure of another kind
      cases history with
      | nil =>
          rintro ⟨fault, h⟩
          cases h
      | cons o history => exact not_refused_ok _

end

section
variable {α : Type} [Gaussian α]

theorem endsRun_normalProbability (stock variance : α) (sums : List α) (checkpoint : Int) :
    EndsRun (normalProbability stock variance sums checkpoint) := by
  unfold normalProbability
  refine (endsRun_fromEitherEnd? _ _).bind fun mean => (endsRun_root? _).bind fun deviation => ?_
  split
  · exact .ok _
  · exact .ok _

theorem endsRun_checkpointProbability (mode : ProbabilityMode) (stock variance : α) (sums : List α)
    (day : Option Nat) (checkpoint : Int) :
    EndsRun (checkpointProbability mode stock variance sums day checkpoint) := by
  unfold checkpointProbability
  cases mode with
  | binary => exact .ok _
  | normal =>
      dsimp only
      split
      · exact .ok _
      · exact endsRun_normalProbability _ _ _ _

theorem endsRun_demandReading (policy : RiskPolicy α) (stock : α) (outlook : Outlook α) :
    EndsRun (DemandReading.of policy stock outlook) := by
  unfold DemandReading.of
  dsimp only
  split
  · exact (endsRun_root? _).bind fun _ => .ok _
  · exact .ok _

theorem refused_risk_iff {outlook : Outlook α} {stock : α} {policy : RiskPolicy α} {now : Instant} :
    Refused (outlook.risk stock policy now) ↔ stock < 0 := by
  unfold Outlook.risk
  split
  · next h => exact iff_of_true (.error _) h
  · next h =>
      refine iff_of_false (EndsRun.not_refused ?_) h
      exact (endsRun_checkpointProbability _ _ _ _ _ _).bind fun _ =>
        (endsRun_checkpointProbability _ _ _ _ _ _).bind fun _ =>
          (endsRun_checkpointProbability _ _ _ _ _ _).bind fun _ =>
            (endsRun_demandReading _ _ _).bind fun _ => .ok _

end

/-! ## Floats -/

/-- A float passes for a number of a domain: it is one, or no number at all. -/
def Domain.Passes (domain : Domain) (x : Float) : Prop := domain.Admits x ∨ Scalar.isNaN x = true

namespace Domain
variable {x : Float}

/-- What passes and is a number is in the domain. -/
theorem Passes.admits {domain : Domain} (h : domain.Passes x) (hx : Scalar.isNaN x = false) :
    domain.Admits x := h.resolve_right fun hn => by cases hx.symm.trans hn

/-- In a domain with a bound there is no value that is not a number. -/
theorem isNaN_of_admits {domain : Domain} (hd : domain ≠ any) (h : domain.Admits x) :
    Scalar.isNaN x = false := by
  cases domain with
  | any => exact absurd rfl hd
  | nonnegative => exact Scalar.isNaN_of_nonneg_float h
  | positive => exact Scalar.isNaN_of_pos_float h
  | probability => exact Scalar.isNaN_of_pos_float h.1

theorem passes_nonnegative_iff : nonnegative.Passes x ↔ ¬ x < 0 := by
  constructor
  · rintro (h | h)
    · exact (Scalar.nonneg_float_iff.1 h).1
    · exact Scalar.not_lt_of_isNaN_left h
  · exact Scalar.nonneg_or_isNaN

theorem passes_positive_iff : positive.Passes x ↔ ¬ x ≤ 0 := by
  rw [Scalar.not_le_float_iff, Scalar.isNaN_zero]
  simp [Passes, Admits]

theorem passes_probability_iff : probability.Passes x ↔ ¬ (x ≤ 0 ∨ 1 ≤ x) := by
  have hone : Scalar.isNaN (1 : Float) = false := rfl
  rw [not_or, Scalar.not_le_float_iff, Scalar.not_le_float_iff, Scalar.isNaN_zero, hone]
  cases hx : Scalar.isNaN x <;> simp [Passes, Admits, hx]

end Domain

/-- How an operation takes those of its arguments that have a domain. -/
structure Checked {β : Type} (outcome : Planned Float β) (arguments : List (Domain × Float)) : Prop where
  refused_iff : Refused outcome ↔ ¬ ∀ a ∈ arguments, a.1.Passes a.2
  /-- So it keeps to the domains, unless all arguments pass and one of them is no number. -/
  keeps_iff : (Refused outcome ↔ ¬ ∀ a ∈ arguments, a.1.Admits a.2)
    ↔ ((∀ a ∈ arguments, a.1.Passes a.2) → ∀ a ∈ arguments, Scalar.isNaN a.2 = false)

theorem Checked.of_refused_iff {β : Type} {outcome : Planned Float β}
    {arguments : List (Domain × Float)} (hd : ∀ a ∈ arguments, a.1 ≠ .any)
    (h : Refused outcome ↔ ¬ ∀ a ∈ arguments, a.1.Passes a.2) : Checked outcome arguments where
  refused_iff := h
  keeps_iff := by
    rw [h, not_iff_not]
    constructor
    · intro hkeeps hpass a ha
      exact Domain.isNaN_of_admits (hd a ha) (hkeeps.1 hpass a ha)
    · intro hnumbers
      constructor
      · intro hpass a ha
        exact (hpass a ha).admits (hnumbers hpass a ha)
      · intro hadmits a ha
        exact .inl (hadmits a ha)

/-! ## What comes of a value that is not a number -/

theorem isNaN_economicOrderQuantity {annual orderingCost holdingRate quantity : Float}
    (h : economicOrderQuantity annual orderingCost holdingRate = .ok quantity)
    (hn : Scalar.isNaN annual = true ∨ Scalar.isNaN orderingCost = true
      ∨ Scalar.isNaN holdingRate = true) : Scalar.isNaN quantity = true := by
  obtain ⟨_, rfl⟩ := economicOrderQuantity_eq_ok_iff.1 h
  refine Scalar.isNaN_sqrt ?_
  rcases hn with hn | hn | hn
  · exact Scalar.isNaN_div_left (Scalar.isNaN_mul_left (Scalar.isNaN_mul_right _ hn) _) _
  · exact Scalar.isNaN_div_left (Scalar.isNaN_mul_right _ hn) _
  · exact Scalar.isNaN_div_right _ hn

theorem exists_bufferFor {history : List (Observation Float)}
    {serviceLevel leadTimeDays variability buffer : Float}
    (h : safetyStock history serviceLevel leadTimeDays variability = .ok buffer) :
    ∃ variance, buffer = bufferFor serviceLevel leadTimeDays variance := by
  obtain ⟨_, _, h⟩ := Planned.bind_eq_ok.1 h
  obtain ⟨variance, _, h⟩ := Planned.bind_eq_ok.1 h
  exact ⟨variance, (Except.ok.inj h).symm⟩

/-- Two observations have a buffer for anything that is not turned down. -/
theorem exists_safetyStock {history : List (Observation Float)} (hn : 2 ≤ history.length)
    {serviceLevel leadTimeDays : Float} (hs : ¬ (serviceLevel ≤ 0 ∨ 1 ≤ serviceLevel))
    (hl : ¬ leadTimeDays < 0) (variability : Float) :
    ∃ buffer, safetyStock history serviceLevel leadTimeDays variability = .ok buffer := by
  have hcover : checkCover serviceLevel leadTimeDays = .ok () := by
    rw [checkCover, if_neg hs, if_neg hl]
  rw [safetyStock_of_checkCover hcover, demandVariance_of_two_le hn]
  exact ⟨_, rfl⟩

/-- Whatever it is asked for, a buffer is a number that is not negative. -/
theorem safetyStock_nonneg {history : List (Observation Float)}
    {serviceLevel leadTimeDays variability buffer : Float}
    (h : safetyStock history serviceLevel leadTimeDays variability = .ok buffer) : 0 ≤ buffer := by
  obtain ⟨variance, rfl⟩ := exists_bufferFor h
  exact Scalar.max_zero_nonneg _

theorem safetyStock_of_isNaN {history : List (Observation Float)}
    {serviceLevel leadTimeDays variability buffer : Float}
    (h : safetyStock history serviceLevel leadTimeDays variability = .ok buffer)
    (hn : Scalar.isNaN leadTimeDays = true) : buffer = 0 := by
  obtain ⟨variance, rfl⟩ := exists_bufferFor h
  exact Scalar.max_zero_of_isNaN (Scalar.isNaN_mul_right _ (Scalar.isNaN_sqrt hn))

theorem firstAbove_of_isNaN {stock : Float} (hn : Scalar.isNaN stock = true) (sums : List Float) :
    firstAbove stock sums = none := by
  unfold firstAbove
  rw [Option.map_eq_none_iff, List.findIdx?_eq_none_iff]
  intro total _
  exact decide_eq_false (Scalar.not_lt_of_isNaN_left hn)

/-- An outlook that sees no stockout. -/
structure RiskAnalysis.Unalarmed (r : RiskAnalysis Float) (mode : ProbabilityMode) : Prop where
  daysUntilStockout : r.daysUntilStockout = none
  level : r.level = .low
  probability : mode = .binary → ∀ i, r.probability i = 0

theorem unalarmed_of_isNaN {outlook : Outlook Float} {stock : Float} {policy : RiskPolicy Float}
    {now : Instant} {r : RiskAnalysis Float} (h : outlook.risk stock policy now = .ok r)
    (hn : Scalar.isNaN stock = true) : r.Unalarmed policy.probabilityMode := by
  have hr := (Outlook.risk_eq_ok_iff.1 h).2
  have hday : stockoutDay stock outlook.daily = none := firstAbove_of_isNaN hn _
  refine ⟨hr.daysUntilStockout.trans hday, ?_, ?_⟩
  · rw [hr.level, hr.daysUntilStockout, hday]
    rfl
  · intro hmode i
    have hp := hr.probability i
    rw [hmode, Outlook.probabilityBy, hday] at hp
    exact (Except.ok.inj hp).symm

/-- A reduction by an amount that is not a number. -/
structure Reduction.Undefined (r : Reduction Float) (p : Position Float) : Prop where
  product : r.product = p.product
  adjustment : Scalar.isNaN r.adjustment = true
  impact : Scalar.isNaN r.impact = true
  priority : r.priority = .medium

theorem exists_reduction_of_isNaN (policy : TurnoverPolicy Float) {target : Float}
    (hn : Scalar.isNaN target = true) (p : Position Float) :
    ∃ r, p.reduction? policy target = some r ∧ r.Undefined p := by
  have hexcess : Scalar.isNaN (p.excess target) = true :=
    Scalar.isNaN_sub_right _ (Scalar.isNaN_div_right _ hn)
  unfold Position.reduction?
  dsimp only
  rw [if_neg (Scalar.not_le_of_isNaN_left hn), if_neg (Scalar.not_le_of_isNaN_left hexcess)]
  exact ⟨_, rfl, rfl, Scalar.isNaN_neg hexcess, Scalar.isNaN_mul_left hexcess _,
    if_neg (Scalar.not_lt_of_isNaN_right hexcess)⟩

theorem forall₂_undefined (policy : TurnoverPolicy Float) {target : Float}
    (hn : Scalar.isNaN target = true) (positions : List (Position Float)) :
    List.Forall₂ Reduction.Undefined (positions.filterMap (Position.reduction? policy target))
      positions := by
  induction positions with
  | nil => exact .nil
  | cons p positions ih =>
      obtain ⟨r, hr, hu⟩ := exists_reduction_of_isNaN policy hn p
      rw [List.filterMap_cons, hr]
      exact .cons hu ih

theorem reductions_of_isNaN {policy : TurnoverPolicy Float} {location : String}
    {positions : List (Position Float)} {target carryingCostRate : Float} {now : Instant}
    {plan : TurnoverPlan Float}
    (h : TurnoverPlan.ofPositions policy location positions target carryingCostRate now = .ok plan)
    (hn : Scalar.isNaN target = true) :
    List.Forall₂ Reduction.Undefined plan.reductions positions := by
  unfold TurnoverPlan.ofPositions at h
  rw [if_neg (Scalar.not_le_of_isNaN_left hn)] at h
  cases h
  exact forall₂_undefined policy hn positions

theorem stockLevel_of_isNaN {history : List (Observation Float)} {periodMonths : Int} {base : Float}
    {product location : String} {profile : SeasonalProfile Float}
    (h : SeasonalProfile.ofHistory history periodMonths base product location = .ok profile)
    (hn : Scalar.isNaN base = true) :
    ∀ a ∈ profile.adjustments, Scalar.isNaN a.stockLevel = true := by
  obtain ⟨_, _, h⟩ := Planned.bind_eq_ok.1 h
  cases history with
  | nil => cases h
  | cons o history =>
      cases h
      intro a ha
      obtain ⟨m, _, rfl⟩ := List.mem_map.1 ha
      exact Scalar.isNaN_mul_left hn _

/-! ## All operations -/

/-- **An argument is turned down exactly if it is a number outside its domain.** One that is not a number
passes, and gives a quantity, reductions or stock levels that are none either, no buffer for a lead time,
and no stockout for a stock. -/
theorem checked_arguments (history : List (Observation Float))
    (serviceLevel leadTimeDays variability annual orderingCost holdingRate stock target
      carryingCostRate base : Float) (outlook : Outlook Float) (riskPolicy : RiskPolicy Float)
    (turnoverPolicy : TurnoverPolicy Float) (positions : List (Position Float))
    {periodMonths : Int} (hp : 1 ≤ periodMonths) (product location : String) (now : Instant) :
    Checked (safetyStock history serviceLevel leadTimeDays variability)
      [(.probability, serviceLevel), (.nonnegative, leadTimeDays)]
    ∧ Checked (economicOrderQuantity annual orderingCost holdingRate)
      [(.positive, annual), (.positive, orderingCost), (.positive, holdingRate)]
    ∧ Checked (outlook.risk stock riskPolicy now) [(.nonnegative, stock)]
    ∧ Checked (TurnoverPlan.ofPositions turnoverPolicy location positions target carryingCostRate now)
      [(.positive, target)]
    ∧ Checked (SeasonalProfile.ofHistory history periodMonths base product location)
      [(.nonnegative, base)]
    ∧ (∀ buffer, safetyStock history serviceLevel leadTimeDays variability = .ok buffer →
        0 ≤ buffer ∧ (Scalar.isNaN leadTimeDays = true → buffer = 0))
    ∧ (∀ quantity, economicOrderQuantity annual orderingCost holdingRate = .ok quantity →
        Scalar.isNaN annual = true ∨ Scalar.isNaN orderingCost = true
          ∨ Scalar.isNaN holdingRate = true → Scalar.isNaN quantity = true)
    ∧ (∀ r, outlook.risk stock riskPolicy now = .ok r → Scalar.isNaN stock = true →
        r.Unalarmed riskPolicy.probabilityMode)
    ∧ (∀ plan, TurnoverPlan.ofPositions turnoverPolicy location positions target carryingCostRate now
          = .ok plan → Scalar.isNaN target = true →
        List.Forall₂ Reduction.Undefined plan.reductions positions)
    ∧ ∀ profile, SeasonalProfile.ofHistory history periodMonths base product location = .ok profile →
        Scalar.isNaN base = true → ∀ a ∈ profile.adjustments, Scalar.isNaN a.stockLevel = true := by
  refine ⟨?_, ?_, ?_, ?_, ?_, fun buffer h => ⟨safetyStock_nonneg h, safetyStock_of_isNaN h⟩,
    fun quantity h => isNaN_economicOrderQuantity h, fun r => unalarmed_of_isNaN,
    fun plan => reductions_of_isNaN, fun profile h => stockLevel_of_isNaN h⟩
  · refine .of_refused_iff (by simp) ?_
    rw [refused_safetyStock_iff, List.forall_mem_cons, List.forall_mem_singleton,
      Domain.passes_probability_iff, Domain.passes_nonnegative_iff, not_and_or, not_not, not_not]
  · refine .of_refused_iff (by simp) ?_
    rw [refused_economicOrderQuantity_iff, List.forall_mem_cons, List.forall_mem_cons,
      List.forall_mem_singleton, Domain.passes_positive_iff, Domain.passes_positive_iff,
      Domain.passes_positive_iff, ← not_or, ← not_or, not_not]
  · refine .of_refused_iff (by simp) ?_
    rw [refused_risk_iff, List.forall_mem_singleton, Domain.passes_nonnegative_iff, not_not]
  · refine .of_refused_iff (by simp) ?_
    rw [refused_ofPositions_iff, List.forall_mem_singleton, Domain.passes_positive_iff, not_not]
  · have hperiod : ¬ periodMonths < 1 := by omega
    refine .of_refused_iff (by simp) ?_
    rw [refused_seasonalProfile_iff, List.forall_mem_singleton, Domain.passes_nonnegative_iff, not_not,
      or_iff_right hperiod]

/-- Two sales have no buffer for a lead time that is not a number, and a yearly demand of that kind is not
turned down. -/
theorem checked_undefined :
    Scalar.isNaN (0 / 0 : Float) = true ∧ (1 : Int) ≤ 12
      ∧ safetyStock StockingPlan.twoSales (Scalar.fraction 95 2) (0 / 0) 0 = .ok 0
      ∧ ¬ Refused (economicOrderQuantity (0 / 0 : Float) 1 1) := by
  have hn : Scalar.isNaN (0 / 0 : Float) = true := by decide
  have hp : (1 : Int) ≤ 12 := by decide
  obtain ⟨-, hlot, -, -, -, hsafety, -⟩ := checked_arguments StockingPlan.twoSales
    (Scalar.fraction 95 2) (0 / 0) 0 (0 / 0) 1 1 0 1 1 1 (Outlook.mk "bolt" "depot" 0 [] 0 0) {} {} [] hp
    "bolt" "depot" boltDepot.now
  obtain ⟨buffer, h⟩ := exists_safetyStock (by decide : 2 ≤ StockingPlan.twoSales.length)
    (by decide : ¬ ((Scalar.fraction 95 2 : Float) ≤ 0 ∨ 1 ≤ (Scalar.fraction 95 2 : Float)))
    (Scalar.not_lt_of_isNaN_left hn) 0
  refine ⟨hn, hp, ?_, ?_⟩
  · rw [h, (hsafety buffer h).2 hn]
  · have hone : Domain.positive.Passes 1 := .inl (by decide : (0 : Float) < 1)
    rw [hlot.refused_iff, not_not, List.forall_mem_cons, List.forall_mem_cons, List.forall_mem_singleton]
    exact ⟨.inr hn, hone, hone⟩

/-- **A service level that is not a number passes**, although it does not lie between zero and one: two
sales have a buffer for it. -/
theorem safetyStock_undefined_level :
    (∃ buffer, safetyStock StockingPlan.twoSales (0 / 0) (Scalar.ofNat 7) 0 = .ok buffer)
      ∧ ¬ Domain.probability.Admits (0 / 0 : Float) := by
  have hn : Scalar.isNaN (0 / 0 : Float) = true := by decide
  refine ⟨exists_safetyStock (by decide) ?_ (by decide) 0, ?_⟩
  · exact Domain.passes_probability_iff.1 (.inr hn)
  · exact fun h => Scalar.not_lt_of_isNaN_right hn h.1

end Restock
