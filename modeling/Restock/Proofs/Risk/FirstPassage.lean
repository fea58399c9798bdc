import Mathlib.Order.Bounds.Basic
import Restock.Proofs.Arithmetic.Exact
import Restock.Proofs.Risk.Analysis

/-!
# The day on which stock runs out

In exact arithmetic stock runs out on the first day by which the demand exceeds it
(`stockoutDay_eq_some_iff`). Where no demand is negative, the demand by a day never falls again, so
the day on which stock runs out already tells, for any later day, whether it has run out by then
(`stockoutFlag_eq`). That is also what the normal distribution says when it has no spread
(`normalProbability_of_variance_eq_zero`).
-/

namespace Restock

/-- The demand of the first so many days. -/
noncomputable def demandBy (daily : List ℝ) (days : Nat) : ℝ := (daily.take days).sum

section
variable {daily : List ℝ}

@[simp] theorem demandBy_zero (daily : List ℝ) : demandBy daily 0 = 0 := by simp [demandBy]

theorem demandBy_of_length_le {days : Nat} (h : daily.length ≤ days) :
    demandBy daily days = daily.sum := by
  rw [demandBy, List.take_of_length_le h]

theorem demandBy_mono (hd : ∀ x ∈ daily, 0 ≤ x) : Monotone (demandBy daily) := by
  intro m n hmn
  refine (List.take_sublist_take_left hmn).sum_le_sum ?_
  intro x hx
  exact hd x (List.mem_of_mem_take hx)

theorem getElem_cumulative {i : Nat} (h : i < (cumulative daily).length) :
    (cumulative daily)[i] = demandBy daily (i + 1) := by
  have hl : i < daily.length := by rwa [length_cumulative] at h
  have hi := getElem?_cumulative daily i
  rw [if_pos hl, List.getElem?_eq_getElem h, Scalar.sum_real] at hi
  exact Option.some.inj hi

/-! ## The first passage -/

variable {stock : ℝ}

/-- **Stock runs out on the least day by which the demand exceeds it.** -/
theorem stockoutDay_eq_some_iff (hs : 0 ≤ stock) {d : Nat} :
    stockoutDay stock daily = some d ↔ IsLeast {n | stock < demandBy daily n} d := by
  simp only [stockoutDay, firstAbove, Option.map_eq_some_iff, List.findIdx?_eq_some_iff_getElem,
    decide_eq_true_eq, getElem_cumulative, length_cumulative]
  constructor
  · rintro ⟨i, ⟨_, hi, hlt⟩, rfl⟩
    refine ⟨hi, ?_⟩
    intro n (hn : stock < demandBy daily n)
    by_contra hni
    match n with
    | 0 => exact absurd (demandBy_zero daily ▸ hn) (not_lt.2 hs)
    | j + 1 => exact hlt j (by omega) hn
  · rintro ⟨(hd : stock < demandBy daily d), hleast⟩
    match d with
    | 0 => exact absurd (demandBy_zero daily ▸ hd) (not_lt.2 hs)
    | i + 1 =>
        refine ⟨i, ⟨?_, hd, ?_⟩, rfl⟩
        · -- past the last day nothing is added, so the last day would do as well
          by_contra hi
          rw [demandBy_of_length_le (by omega)] at hd
          have hm : stock < demandBy daily i := by rwa [demandBy_of_length_le (by omega)]
          have := hleast hm
          omega
        · intro j hj hm
          have := hleast hm
          omega

/-- Stock runs out if the demand of some number of days exceeds it. -/
theorem exists_stockoutDay (hs : 0 ≤ stock) {n : Nat} (hn : stock < demandBy daily n) :
    ∃ d ≤ n, stockoutDay stock daily = some d := by
  classical
  have h : ∃ m, stock < demandBy daily m := ⟨n, hn⟩
  refine ⟨Nat.find h, Nat.find_min' h hn, (stockoutDay_eq_some_iff hs).2 ⟨Nat.find_spec h, ?_⟩⟩
  intro m hm
  exact Nat.find_min' h hm

/-- Stock lasts exactly when it covers all the demand. -/
theorem stockoutDay_eq_none_iff (hd : ∀ x ∈ daily, 0 ≤ x) (hs : 0 ≤ stock) :
    stockoutDay stock daily = none ↔ daily.sum ≤ stock := by
  rw [← demandBy_of_length_le (Nat.le_refl daily.length)]
  constructor
  · intro h
    by_contra hlt
    obtain ⟨d, _, hsome⟩ := exists_stockoutDay hs (not_le.1 hlt)
    rw [h] at hsome
    cases hsome
  · intro h
    cases hday : stockoutDay stock daily with
    | none => rfl
    | some d =>
        have hlt : stock < demandBy daily d := ((stockoutDay_eq_some_iff hs).1 hday).1
        have hle : demandBy daily d ≤ demandBy daily daily.length := by
          rcases Nat.le_total d daily.length with hd' | hd'
          · exact demandBy_mono hd hd'
          · rw [demandBy_of_length_le hd', demandBy_of_length_le (Nat.le_refl _)]
        exact absurd (hlt.trans_le (hle.trans h)) (lt_irrefl stock)

/-! ## The probability at a checkpoint -/

theorem demandBy_min (daily : List ℝ) (day : Int) :
    demandBy daily (min day daily.length).toNat = demandBy daily day.toNat := by
  rcases le_total day daily.length with h | h
  · rw [min_eq_left h]
  · rw [min_eq_right h, demandBy_of_length_le (by omega), demandBy_of_length_le (by omega)]

/-- **Running out by a day** is told by the day of running out as it is by the demand of that day. -/
theorem stockoutFlag_eq (hd : ∀ x ∈ daily, 0 ≤ x) (hs : 0 ≤ stock) (day : Int) :
    (stockoutFlag (stockoutDay stock daily) day : ℝ)
      = if stock < demandBy daily (min day daily.length).toNat then 1 else 0 := by
  rw [demandBy_min]
  by_cases h : stock < demandBy daily day.toNat
  · obtain ⟨d, hle, hday⟩ := exists_stockoutDay hs h
    have hpos : 0 < day.toNat := by
      by_contra hz
      rw [Nat.eq_zero_of_not_pos hz, demandBy_zero] at h
      exact absurd h (not_lt.2 hs)
    have hle' : (d : Int) ≤ day := by omega
    rw [hday, if_pos h]
    exact if_pos hle'
  · rw [if_neg h]
    cases hday : stockoutDay stock daily with
    | none => rfl
    | some d =>
        have hlt : stock < demandBy daily d := ((stockoutDay_eq_some_iff hs).1 hday).1
        have hle' : ¬ (d : Int) ≤ day := by
          intro hle
          exact h (hlt.trans_le (demandBy_mono hd (by omega)))
        exact if_neg hle'

/-- Under the normal approximation the demand of the days counted, the whole horizon at most, is
compared with the stock through its spread, or as it is when it has none. -/
theorem normalProbability_eq (variance : ℝ) {day : Int} (hday : 1 ≤ day) (hne : daily ≠ []) :
    normalProbability stock variance (cumulative daily) day = (do
      let days := (min day daily.length).toNat
      let deviation ← Scalar.root? ((days : ℝ) * variance)
      if 0 < deviation then return Gaussian.tail ((stock - demandBy daily days) / deviation)
      else return if stock < demandBy daily days then 1 else 0) := by
  have hlen : 0 < daily.length := List.length_pos_iff.2 hne
  obtain ⟨n, hn⟩ : ∃ n : Nat, min day daily.length = (n : Int) + 1 :=
    ⟨(min day daily.length).toNat - 1, by omega⟩
  have hlt : n < (cumulative daily).length := by
    rw [length_cumulative]
    omega
  have hmean : fromEitherEnd? (cumulative daily) ((n : Int) + 1 - 1)
      = .ok (demandBy daily (n + 1)) := by
    rw [Int.add_sub_cancel, fromEitherEnd?_natCast hlt, getElem_cumulative]
  unfold normalProbability
  simp only [length_cumulative, hn, hmean, Planned.ok_bind, Scalar.ofInt_real]
  norm_cast

/-- **A normal distribution without spread** says of each day what the day of running out says. -/
theorem normalProbability_of_variance_eq_zero (hd : ∀ x ∈ daily, 0 ≤ x) (hs : 0 ≤ stock)
    {day : Int} (hday : 1 ≤ day) (hne : daily ≠ []) :
    normalProbability stock 0 (cumulative daily) day
      = .ok (stockoutFlag (stockoutDay stock daily) day) := by
  rw [normalProbability_eq 0 hday hne, stockoutFlag_eq hd hs]
  simp [Scalar.root?, Scalar.sqrt]

end

/-! ## Analyses -/

namespace Outlook

variable {outlook : Outlook ℝ} {stock : ℝ}

/-- The probability by a day is to be had unless a normal distribution of negative variance is asked
for. -/
theorem exists_probabilityBy_iff {mode : ProbabilityMode} {day : Int} (hday : 1 ≤ day) :
    (∃ q, outlook.probabilityBy stock mode day = .ok q) ↔
      0 ≤ outlook.variance ∨ mode = .binary ∨ outlook.daily = [] := by
  cases mode with
  | binary => simp [probabilityBy, checkpointProbability]
  | normal =>
      by_cases hne : outlook.daily = []
      · simp [probabilityBy, checkpointProbability, hne, cumulative, runningFrom]
      · have hlen : 1 ≤ outlook.daily.length := List.length_pos_iff.2 hne
        have hdays : (0 : ℝ) < (min day outlook.daily.length : Int) := by
          exact_mod_cast (show 0 < min day (outlook.daily.length : Int) by omega)
        have hfirst : 1 - (outlook.daily.length : Int) ≤ min day outlook.daily.length := by omega
        rw [exists_normal_probabilityBy_iff hlen, Scalar.ofInt_real, not_lt,
          mul_nonneg_iff_of_pos_left hdays]
        simp [hfirst, hne]

/-- Without variance both modes give the same probability. -/
theorem probabilityBy_of_variance_eq_zero (hd : ∀ x ∈ outlook.daily, 0 ≤ x) (hs : 0 ≤ stock)
    (hv : outlook.variance = 0) {day : Int} (hday : 1 ≤ day) (mode : ProbabilityMode) :
    outlook.probabilityBy stock mode day
      = .ok (stockoutFlag (stockoutDay stock outlook.daily) day) := by
  cases mode with
  | binary => rfl
  | normal =>
      unfold probabilityBy checkpointProbability
      dsimp only
      split
      · rfl
      · next hsums =>
          have hne : outlook.daily ≠ [] := by
            rintro h
            exact hsums (by rw [h]; rfl)
          rw [hv, normalProbability_of_variance_eq_zero hd hs hday hne]

/-- What an analysis says of the day on which stock runs out. -/
structure TellsFirstPassage (outlook : Outlook ℝ) (stock : ℝ) (policy : RiskPolicy ℝ)
    (r : RiskAnalysis ℝ) : Prop where
  /-- It is the least day by which the demand exceeds the stock. -/
  day : ∀ d, r.daysUntilStockout = some d ↔ IsLeast {n | stock < demandBy outlook.daily n} d
  /-- There is none exactly when the stock covers all the demand. -/
  never : r.daysUntilStockout = none ↔ outlook.daily.sum ≤ stock
  /-- As a flag, the probability at a checkpoint compares the demand by then with the stock. -/
  flag : policy.probabilityMode = .binary → ∀ i, r.probability i
    = if stock < demandBy outlook.daily (min (policy.checkpoints.day i) outlook.daily.length).toNat
      then 1 else 0

/-- **Running out of stock is a first passage.** An outlook without negative demand can be analysed
unless a root of a negative variance is asked for; an analysis names the first day by which the
demand exceeds the stock; and without variance the two modes agree. -/
theorem firstPassage (outlook : Outlook ℝ) (hd : ∀ x ∈ outlook.daily, 0 ≤ x) {stock : ℝ}
    (hs : 0 ≤ stock) (policy : RiskPolicy ℝ) (hc : ∀ i, 1 ≤ policy.checkpoints.day i)
    (now : Instant) :
    ((∃ r, outlook.risk stock policy now = .ok r) ↔
      0 ≤ outlook.variance
      ∨ outlook.meanDemand ≤ 0 ∧ (policy.probabilityMode = .binary ∨ outlook.daily = []))
    ∧ (∀ r, outlook.risk stock policy now = .ok r → outlook.TellsFirstPassage stock policy r)
    ∧ (outlook.variance = 0 → ∃ r,
        outlook.risk stock { policy with probabilityMode := .normal } now = .ok r
        ∧ outlook.risk stock { policy with probabilityMode := .binary } now = .ok r) := by
  refine ⟨?_, ?_, ?_⟩
  · rw [exists_risk_iff, exists_demandReading_iff]
    simp only [exists_probabilityBy_iff (hc _), forall_const, not_lt, hs, true_and]
    constructor
    · rintro ⟨hv | hp, hm⟩
      · exact .inl hv
      · by_cases hv : 0 ≤ outlook.variance
        · exact .inl hv
        · exact .inr ⟨not_lt.1 fun hpos => hv (hm hpos), hp⟩
    · rintro (hv | ⟨hm, hp⟩)
      · exact ⟨.inl hv, fun _ => hv⟩
      · exact ⟨.inr hp, fun hpos => absurd hpos (not_lt.2 hm)⟩
  · intro r hr
    obtain ⟨_, h⟩ := risk_eq_ok_iff.1 hr
    refine ⟨?_, ?_, ?_⟩
    · intro d
      rw [h.daysUntilStockout]
      exact stockoutDay_eq_some_iff hs
    · rw [h.daysUntilStockout]
      exact stockoutDay_eq_none_iff hd hs
    · intro hmode i
      have hq := h.probability i
      rw [hmode] at hq
      rw [← stockoutFlag_eq hd hs]
      exact (Except.ok.inj hq).symm
  · intro hv
    obtain ⟨r, hr⟩ : ∃ r, outlook.risk stock { policy with probabilityMode := .normal } now
        = .ok r := by
      refine exists_risk_iff.2 ⟨not_lt.2 hs, fun i => ?_, ?_⟩
      · exact (exists_probabilityBy_iff (hc i)).2 (.inl hv.ge)
      · exact exists_demandReading_iff.2 fun _ => not_lt.2 hv.ge
    obtain ⟨_, h⟩ := risk_eq_ok_iff.1 hr
    refine ⟨r, hr, risk_eq_ok_iff.2 ⟨not_lt.2 hs, { h with probability := ?_ }⟩⟩
    intro i
    rw [← h.probability i]
    exact (probabilityBy_of_variance_eq_zero hd hs hv (hc i) .binary).trans
      (probabilityBy_of_variance_eq_zero hd hs hv (hc i) .normal).symm

end Outlook

/-- One unit is asked for on each of three days. -/
noncomputable def unitADay : Outlook ℝ := ⟨"bolt", "depot", 3, [1, 1, 1], 0, 0⟩

/-- Checkpoints before the last day, on it and after it. -/
noncomputable def threeDayPolicy : RiskPolicy ℝ := { checkpoints := ⟨2, 3, 30⟩ }

/-- Midnight of the first day of the calendar. -/
def firstMidnight : Instant := ⟨⟨1, by omega, by omega⟩, 0, 0, 0, 0, 0⟩

/-- Two units last for two days of the three. -/
theorem unitADay_firstPassage :
    ∃ r, unitADay.risk 2 threeDayPolicy firstMidnight = .ok r ∧ r.daysUntilStockout = some 3
      ∧ r.probability 0 = 0 ∧ r.probability 1 = 1 ∧ r.probability 2 = 1 := by
  have hd : ∀ x ∈ unitADay.daily, 0 ≤ x := by simp [unitADay]
  have hc : ∀ i, 1 ≤ threeDayPolicy.checkpoints.day i := by decide
  obtain ⟨hexists, htells, _⟩ :=
    unitADay.firstPassage hd zero_le_two threeDayPolicy hc firstMidnight
  obtain ⟨r, hr⟩ := hexists.2 (.inl (le_refl 0))
  have h := htells r hr
  have hsum (n : Nat) (hn : n ≤ 3) : demandBy unitADay.daily n = n := by
    interval_cases n <;> norm_num [demandBy, unitADay]
  have hflag (i : Fin 3) (n : Nat) (hn : n ≤ 3)
      (hi : (min (threeDayPolicy.checkpoints.day i) 3).toNat = n) :
      r.probability i = if (2 : ℝ) < n then 1 else 0 := by
    rw [← hsum n hn, ← hi]
    exact h.flag rfl i
  refine ⟨r, hr, (h.day 3).2 ⟨?_, ?_⟩, ?_, ?_, ?_⟩
  · show (2 : ℝ) < demandBy unitADay.daily 3
    rw [hsum 3 (Nat.le_refl 3)]
    norm_num
  · intro n (hn : (2 : ℝ) < demandBy unitADay.daily n)
    by_contra hlt
    rw [hsum n (by omega)] at hn
    exact hlt (by exact_mod_cast hn)
  · rw [hflag 0 2 (by decide) rfl]
    norm_num
  · rw [hflag 1 3 (by decide) rfl]
    norm_num
  · rw [hflag 2 3 (by decide) rfl]
    norm_num

end Restock
