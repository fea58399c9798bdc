import Restock.Proofs.Risk.FirstPassage

/-!
# Comparing risks

Less stock, or more demand on some days and no less on any, never makes a risk look smaller. The day on
which stock runs out is no later, the level is at least as severe whatever the thresholds are, and the
probability at every checkpoint is at least as large, as a flag or under the normal approximation
(`Outlook.risk_asGraveAs`). Nothing is asked of the sign of the demand, so the demand by a day may well
fall again.
-/

namespace Restock

/-! ## Days and levels -/

/-- A day on which stock runs out is no later than another one; stock that never runs out does so later
than on any day. -/
def NoLater (day other : Option Nat) : Prop := ∀ d, other = some d → ∃ e ≤ d, day = some e

/-- The place of a level among low, medium, high and critical. -/
def RiskLevel.severity : RiskLevel → Nat
  | .low => 0
  | .medium => 1
  | .high => 2
  | .critical => 3

theorem RiskPolicy.severity_classify (policy : RiskPolicy ℝ) (d : Int) :
    (policy.classify (some d)).severity =
      if d ≤ policy.criticalDays then 3
      else if d ≤ policy.highDays then 2
      else if d ≤ policy.mediumDays then 1
      else 0 := by
  unfold classify
  dsimp only
  split_ifs <;> rfl

theorem NoLater.severity_le {day other : Option Nat} (h : NoLater day other)
    (policy : RiskPolicy ℝ) :
    (policy.classify (other.map Int.ofNat)).severity
      ≤ (policy.classify (day.map Int.ofNat)).severity := by
  cases other with
  | none => exact Nat.zero_le _
  | some d =>
      obtain ⟨e, hle, rfl⟩ := h d rfl
      -- in whatever order the thresholds stand, the earlier day meets each that the later one meets
      simp only [Option.map_some, Int.ofNat_eq_natCast, RiskPolicy.severity_classify]
      split_ifs <;> omega

theorem stockoutFlag_mem_Icc (day : Option Nat) (checkpoint : Int) :
    (stockoutFlag day checkpoint : ℝ) ∈ Set.Icc 0 1 := by
  unfold stockoutFlag
  split
  · split <;> norm_num
  · norm_num

theorem NoLater.stockoutFlag_le {day other : Option Nat} (h : NoLater day other)
    (checkpoint : Int) :
    (stockoutFlag other checkpoint : ℝ) ≤ stockoutFlag day checkpoint := by
  cases other with
  | none => exact (stockoutFlag_mem_Icc day checkpoint).1
  | some d =>
      obtain ⟨e, hle, rfl⟩ := h d rfl
      by_cases hd : (d : Int) ≤ checkpoint
      · have he : (e : Int) ≤ checkpoint := by omega
        simp only [stockoutFlag, if_pos hd, if_pos he, le_refl]
      · rw [stockoutFlag, if_neg hd]
        exact (stockoutFlag_mem_Icc _ checkpoint).1

variable {less more : List ℝ} {stock stock' : ℝ}

theorem demandBy_le (h : List.Forall₂ (· ≤ ·) less more) (days : Nat) :
    demandBy less days ≤ demandBy more days :=
  (List.forall₂_take days h).sum_le_sum

/-- A demand that exceeds the greater stock on some day exceeds the smaller one by then, and so does a
greater demand. -/
theorem noLater_stockoutDay (h : List.Forall₂ (· ≤ ·) less more) (hs : 0 ≤ stock)
    (hle : stock ≤ stock') : NoLater (stockoutDay stock more) (stockoutDay stock' less) := by
  intro d hd
  have hlt : stock' < demandBy less d := ((stockoutDay_eq_some_iff (hs.trans hle)).1 hd).1
  exact exists_stockoutDay hs (hle.trans_lt (hlt.trans_le (demandBy_le h d)))

/-! ## Probabilities -/

/-- The probability that a demand exceeds the stock: it is normally distributed, or certain when it
does not deviate. -/
noncomputable def exceedance (stock mean deviation : ℝ) : ℝ :=
  if 0 < deviation then Gaussian.tail ((stock - mean) / deviation)
  else if stock < mean then 1 else 0

theorem exceedance_le {mean mean' : ℝ} (hs : stock ≤ stock') (hm : mean' ≤ mean) (deviation : ℝ) :
    exceedance stock' mean' deviation ≤ exceedance stock mean deviation := by
  unfold exceedance
  by_cases hd : 0 < deviation
  · rw [if_pos hd, if_pos hd]
    apply Gaussian.tail_antitone
    gcongr
  · rw [if_neg hd, if_neg hd]
    by_cases h : stock' < mean'
    · rw [if_pos h, if_pos (hs.trans_lt (h.trans_le hm))]
    · rw [if_neg h]
      split <;> norm_num

theorem normalProbability_of_nonneg {daily : List ℝ} {variance : ℝ} (hv : 0 ≤ variance) {day : Int}
    (hday : 1 ≤ day) (hne : daily ≠ []) :
    normalProbability stock variance (cumulative daily) day =
      .ok (exceedance stock (demandBy daily (min day daily.length).toNat)
        (Real.sqrt ((min day daily.length).toNat * variance))) := by
  have hroot : Scalar.root? (((min day daily.length).toNat : ℝ) * variance)
      = .ok (Real.sqrt ((min day daily.length).toNat * variance)) :=
    if_neg (not_lt.2 (mul_nonneg (Nat.cast_nonneg _) hv))
  rw [normalProbability_eq variance hday hne]
  simp only [hroot, Planned.ok_bind, Planned.pure_eq_ok, exceedance]
  split
  · rfl
  · rfl

namespace Outlook

/-- The probability of having run out by a day, where the variance has a root. -/
noncomputable def chanceBy (outlook : Outlook ℝ) (stock : ℝ) (mode : ProbabilityMode) (day : Int) :
    ℝ :=
  let days := (min day outlook.daily.length).toNat
  if mode = .normal ∧ outlook.daily ≠ [] then
    exceedance stock (demandBy outlook.daily days) (Real.sqrt (days * outlook.variance))
  else stockoutFlag (stockoutDay stock outlook.daily) day

theorem probabilityBy_eq {outlook : Outlook ℝ} (hv : 0 ≤ outlook.variance) {day : Int}
    (hday : 1 ≤ day) (stock : ℝ) (mode : ProbabilityMode) :
    outlook.probabilityBy stock mode day = .ok (outlook.chanceBy stock mode day) := by
  unfold probabilityBy checkpointProbability chanceBy
  cases mode with
  | binary => simp
  | normal =>
      by_cases hne : outlook.daily = []
      · simp [hne, cumulative, runningFrom]
      · have hsums : (cumulative outlook.daily).isEmpty = false := by
          rw [← Bool.not_eq_true, List.isEmpty_iff_length_eq_zero, length_cumulative]
          simpa using hne
        simp [hne, hsums, normalProbability_of_nonneg hv hday hne]

variable {graver milder : Outlook ℝ}

theorem chanceBy_le (hd : List.Forall₂ (· ≤ ·) milder.daily graver.daily)
    (hv : graver.variance = milder.variance) (hs : 0 ≤ stock) (hle : stock ≤ stock')
    (mode : ProbabilityMode) (day : Int) :
    milder.chanceBy stock' mode day ≤ graver.chanceBy stock mode day := by
  have hlength : milder.daily.length = graver.daily.length := hd.length_eq
  have hempty : milder.daily = [] ↔ graver.daily = [] := by
    rw [← List.length_eq_zero_iff, ← List.length_eq_zero_iff, hlength]
  -- both count the same days, and take the same of the two probabilities
  simp only [chanceBy, ne_eq, hempty, hlength, hv]
  split
  · exact exceedance_le hle (demandBy_le hd _) _
  · exact (noLater_stockoutDay hd hs hle).stockoutFlag_le day

end Outlook

/-! ## Analyses -/

/-- An analysis that is at least as grave as another one. -/
structure RiskAnalysis.AsGraveAs (r r' : RiskAnalysis ℝ) : Prop where
  day : NoLater r.daysUntilStockout r'.daysUntilStockout
  level : r'.level.severity ≤ r.level.severity
  probability : ∀ i, r'.probability i ≤ r.probability i

namespace Outlook

variable {outlook : Outlook ℝ}

theorem exists_probabilityBy_of_nonneg (hv : 0 ≤ outlook.variance) {day : Int} (hday : 0 ≤ day)
    (stock : ℝ) (mode : ProbabilityMode) : ∃ q, outlook.probabilityBy stock mode day = .ok q := by
  cases mode with
  | binary => exact ⟨_, rfl⟩
  | normal =>
      by_cases hempty : outlook.daily = []
      · exact ⟨stockoutFlag (stockoutDay stock outlook.daily) day, by
          simp [probabilityBy, checkpointProbability, hempty, cumulative, runningFrom]⟩
      · have hpos : 1 ≤ outlook.daily.length := List.length_pos_iff.2 hempty
        have hdays : 0 ≤ min day outlook.daily.length := by omega
        rw [exists_normal_probabilityBy_iff hpos, Scalar.ofInt_real, not_lt]
        exact ⟨by omega, mul_nonneg (Int.cast_nonneg hdays) hv⟩

/-- There is an analysis as long as no checkpoint counts its days backwards. -/
theorem exists_risk_of_variance_nonneg (hv : 0 ≤ outlook.variance) {policy : RiskPolicy ℝ}
    (hc : ∀ i, 0 ≤ policy.checkpoints.day i) {stock : ℝ} (hs : 0 ≤ stock) (now : Instant) :
    ∃ r, outlook.risk stock policy now = .ok r :=
  exists_risk_iff.2 ⟨not_lt.2 hs, fun i => exists_probabilityBy_of_nonneg hv (hc i) stock _,
    exists_demandReading_iff.2 fun _ => not_lt.2 hv⟩

theorem exists_risk_of_nonneg (hv : 0 ≤ outlook.variance) {policy : RiskPolicy ℝ}
    (hc : ∀ i, 1 ≤ policy.checkpoints.day i) {stock : ℝ} (hs : 0 ≤ stock) (now : Instant) :
    ∃ r, outlook.risk stock policy now = .ok r :=
  exists_risk_of_variance_nonneg hv (fun i => Int.le_trans (by decide) (hc i)) hs now

end Outlook

/-- **Less stock and more demand are never safer.** Against the same outlook less stock is at least as
grave, and so is, for the same stock, an outlook of the same variance with no less demand on any day. -/
theorem Outlook.risk_asGraveAs (policy : RiskPolicy ℝ) (hc : ∀ i, 1 ≤ policy.checkpoints.day i)
    {graver milder : Outlook ℝ} (hd : List.Forall₂ (· ≤ ·) milder.daily graver.daily)
    (hv : 0 ≤ milder.variance) (he : graver.variance = milder.variance) {stock stock' : ℝ}
    (hs : 0 ≤ stock) (hle : stock ≤ stock') (now now' : Instant) :
    ∃ r r', graver.risk stock policy now = .ok r ∧ milder.risk stock' policy now' = .ok r'
      ∧ r.AsGraveAs r' := by
  have hv' : 0 ≤ graver.variance := he ▸ hv
  obtain ⟨r, hr⟩ := exists_risk_of_nonneg hv' hc hs now
  obtain ⟨r', hr'⟩ := exists_risk_of_nonneg hv hc (hs.trans hle) now'
  obtain ⟨_, ha⟩ := risk_eq_ok_iff.1 hr
  obtain ⟨_, ha'⟩ := risk_eq_ok_iff.1 hr'
  have hday : NoLater r.daysUntilStockout r'.daysUntilStockout := by
    rw [ha.daysUntilStockout, ha'.daysUntilStockout]
    exact noLater_stockoutDay hd hs hle
  refine ⟨r, r', hr, hr', hday, ?_, ?_⟩
  · rw [ha.level, ha'.level]
    exact hday.severity_le policy
  · intro i
    have hq := (probabilityBy_eq hv' (hc i) stock _).symm.trans (ha.probability i)
    have hq' := (probabilityBy_eq hv (hc i) stock' _).symm.trans (ha'.probability i)
    rw [← Except.ok.inj hq, ← Except.ok.inj hq']
    exact chanceBy_le hd he hs hle _ _

/-- One unit asked for on each of three days, give or take two. -/
noncomputable def unevenUnits : Outlook ℝ := { unitADay with variance := 4 }

/-- The same with four units on the first day. -/
noncomputable def unevenRush : Outlook ℝ := { unevenUnits with daily := [4, 1, 1] }

theorem unevenRush_asGraveAs :
    ∃ r r', unevenRush.risk 1 { threeDayPolicy with probabilityMode := .normal } firstMidnight
        = .ok r
      ∧ unevenUnits.risk 2 { threeDayPolicy with probabilityMode := .normal } firstMidnight
        = .ok r'
      ∧ r.AsGraveAs r' := by
  apply Outlook.risk_asGraveAs
  · decide
  · norm_num [unevenRush, unevenUnits, unitADay]
  · norm_num [unevenUnits]
  · rfl
  · norm_num
  · norm_num

end Restock
