import Mathlib.Algebra.BigOperators.Group.List.Basic
import Restock.Demand.Daily
import Restock.Proofs.Arithmetic.Statistics

/-!
# Daily sums

A history may hold a day several times and leave other days out. A series is the daily sums of a
history over some days (`DailySums`) when it has each of these days once, in order, with the sum of
what the history holds for it. There is one such series at most (`DailySums.unique`), and when no
day of the history is left out, both have the same total (`DailySums.total`).
-/

namespace Restock

/-! ## What a history holds -/

namespace Observation

/-- The sum of what a history holds for a day; zero where it holds nothing. -/
noncomputable def demandOn (history : List (Observation ℝ)) (day : Day) : ℝ :=
  (quantities (history.filter fun o => o.day = day)).sum

/-- The sum of all that a history holds. -/
noncomputable def totalDemand (history : List (Observation ℝ)) : ℝ := (quantities history).sum

theorem quantity_nonneg (o : Observation ℝ) : 0 ≤ o.quantity := not_lt.1 o.nonneg

theorem nonneg_of_mem_quantities {history : List (Observation ℝ)} {q : ℝ}
    (h : q ∈ quantities history) : 0 ≤ q := by
  obtain ⟨o, _, rfl⟩ := List.mem_map.1 h
  exact o.quantity_nonneg

theorem demandOn_cons (o : Observation ℝ) (history : List (Observation ℝ)) (day : Day) :
    demandOn (o :: history) day
      = (if o.day = day then o.quantity else 0) + demandOn history day := by
  by_cases h : o.day = day <;> simp [demandOn, quantities, h]

theorem demandOn_perm {xs ys : List (Observation ℝ)} (h : xs.Perm ys) (day : Day) :
    demandOn xs day = demandOn ys day :=
  ((h.filter _).map quantity).sum_eq

theorem demandOn_nonneg (history : List (Observation ℝ)) (day : Day) :
    0 ≤ demandOn history day :=
  List.sum_nonneg fun _ => nonneg_of_mem_quantities

theorem demandOn_of_not_mem {history : List (Observation ℝ)} {day : Day}
    (h : day ∉ history.map Observation.day) : demandOn history day = 0 := by
  induction history with
  | nil => rfl
  | cons o history ih =>
      rw [List.map_cons, List.mem_cons, not_or] at h
      rw [demandOn_cons, if_neg (Ne.symm h.1), ih h.2, add_zero]

/-- Where no day is repeated, an observation holds all the demand of its day. -/
theorem quantity_eq_demandOn {history : List (Observation ℝ)}
    (hn : (history.map Observation.day).Nodup) {o : Observation ℝ} (ho : o ∈ history) :
    o.quantity = demandOn history o.day := by
  induction history with
  | nil => exact absurd ho (List.not_mem_nil)
  | cons x history ih =>
      rw [List.map_cons, List.nodup_cons] at hn
      rw [demandOn_cons]
      rcases List.mem_cons.1 ho with rfl | ho
      · rw [if_pos rfl, demandOn_of_not_mem hn.1, add_zero]
      · have hne : x.day ≠ o.day := by
          intro h
          exact hn.1 (h ▸ List.mem_map_of_mem ho)
        rw [if_neg hne, zero_add]
        exact ih hn.2 ho

/-- Over a list of days that has each day of a history once, the demand of the days sums up to that
of the history. -/
theorem sum_demandOn {days : List Day} (hn : days.Nodup) {history : List (Observation ℝ)}
    (hd : ∀ o ∈ history, o.day ∈ days) :
    (days.map (demandOn history)).sum = totalDemand history :=
  Statistics.sum_sum_filter hn Observation.day quantity hd

/-- There is demand unless every quantity is zero. -/
theorem exists_demand_iff {history : List (Observation ℝ)} :
    (∃ o ∈ history, 0 < o.quantity) ↔ ¬ ∀ o ∈ history, o.quantity = 0 := by
  constructor
  · rintro ⟨o, ho, hpos⟩ hidle
    exact hpos.ne' (hidle o ho)
  · intro hidle
    by_contra hno
    exact hidle fun o ho => le_antisymm (not_lt.1 fun hpos => hno ⟨o, ho, hpos⟩) o.quantity_nonneg

theorem mean_quantities_of_idle {history : List (Observation ℝ)}
    (hidle : ∀ o ∈ history, o.quantity = 0) : Scalar.mean (quantities history) = 0 := by
  have hsum : (quantities history).sum = 0 := by
    refine List.sum_eq_zero fun q hq => ?_
    obtain ⟨o, ho, rfl⟩ := List.mem_map.1 hq
    exact hidle o ho
  rw [Scalar.mean_real, hsum, zero_div]

/-- There is demand on average exactly when there is any. -/
theorem mean_quantities_pos_iff {history : List (Observation ℝ)} :
    0 < Scalar.mean (quantities history) ↔ ∃ o ∈ history, 0 < o.quantity := by
  constructor
  · intro h
    rw [exists_demand_iff]
    exact fun hidle => h.ne' (mean_quantities_of_idle hidle)
  · rintro ⟨o, ho, hpos⟩
    rw [Scalar.mean_real]
    have hmem : o.quantity ∈ quantities history := List.mem_map_of_mem ho
    have hle : o.quantity ≤ (quantities history).sum :=
      List.single_le_sum (fun _ => nonneg_of_mem_quantities) _ hmem
    exact div_pos (hpos.trans_le hle) (Nat.cast_pos.2 (List.length_pos_of_mem hmem))

theorem mean_quantities_nonpos_iff {history : List (Observation ℝ)} :
    Scalar.mean (quantities history) ≤ 0 ↔ ∀ o ∈ history, o.quantity = 0 := by
  rw [← not_lt, mean_quantities_pos_iff, exists_demand_iff, not_not]

end Observation

/-! ## The series of the sums -/

open Observation

/-- A series with certain days, each once and in order, and for each of them the sum of what a
history holds for it. -/
structure DailySums (days : Day → Prop) (history series : List (Observation ℝ)) : Prop where
  ascending : (series.map Observation.day).Pairwise (· < ·)
  mem_days : ∀ day, day ∈ series.map Observation.day ↔ days day
  quantity : ∀ o ∈ series, o.quantity = demandOn history o.day

namespace DailySums

variable {days : Day → Prop} {history series : List (Observation ℝ)}

theorem nodup (h : DailySums days history series) : (series.map Observation.day).Nodup :=
  Day.nodup_of_pairwise h.ascending

theorem ne_nil (h : DailySums days history series) {day : Day} (hday : days day) : series ≠ [] := by
  obtain ⟨o, ho, _⟩ := List.mem_map.1 ((h.mem_days day).2 hday)
  exact List.ne_nil_of_mem ho

theorem rows_eq (h : DailySums days history series) :
    rows series = (series.map Observation.day).map fun day => (day, demandOn history day) := by
  rw [rows, List.map_map]
  apply List.map_congr_left
  intro o ho
  rw [h.quantity o ho]
  rfl

theorem ofRows {ds : List Day} (hp : ds.Pairwise (· < ·))
    (h : rows series = ds.map fun day => (day, demandOn history day)) :
    DailySums (· ∈ ds) history series := by
  have hd : series.map Observation.day = ds := by
    have := congrArg (List.map Prod.fst) h
    simpa [rows, Function.comp_def] using this
  constructor
  · rw [hd]
    exact hp
  · intro day
    rw [hd]
  · intro o ho
    have hm : (o.day, o.quantity) ∈ rows series := List.mem_map_of_mem ho
    rw [h] at hm
    obtain ⟨day, _, he⟩ := List.mem_map.1 hm
    obtain ⟨rfl, hq⟩ := Prod.mk.inj he
    exact hq.symm

theorem congr {days' : Day → Prop} (h : DailySums days history series)
    (hd : ∀ day, days day ↔ days' day) : DailySums days' history series :=
  ⟨h.ascending, fun day => (h.mem_days day).trans (hd day), h.quantity⟩

theorem perm {history' : List (Observation ℝ)} (h : DailySums days history series)
    (hp : history.Perm history') : DailySums days history' series :=
  ⟨h.ascending, h.mem_days, fun o ho => (h.quantity o ho).trans (demandOn_perm hp o.day)⟩

/-- **No demand is lost** as long as no day of the history is left out. -/
theorem total (h : DailySums days history series) (hd : ∀ o ∈ history, days o.day) :
    totalDemand series = totalDemand history := by
  have hq : quantities series = (series.map Observation.day).map (demandOn history) := by
    rw [quantities, List.map_map]
    exact List.map_congr_left h.quantity
  rw [totalDemand, hq]
  exact sum_demandOn h.nodup fun o ho => (h.mem_days o.day).2 (hd o ho)

/-- **The daily sums are determined** by the history and the days. -/
theorem unique {series' : List (Observation ℝ)} (h : DailySums days history series)
    (h' : DailySums days history series') : series = series' := by
  have hd : series.map Observation.day = series'.map Observation.day :=
    Day.eq_of_mem_iff h.ascending h'.ascending fun day =>
      (h.mem_days day).trans (h'.mem_days day).symm
  have hr : rows series = rows series' := by rw [h.rows_eq, h'.rows_eq, hd]
  exact List.map_injective_iff.2 pair_injective hr

/-- A history that never repeats a day, in the order of its days, is the daily sums of itself. -/
theorem self (h : (history.map Observation.day).Pairwise (· < ·)) :
    DailySums (· ∈ history.map Observation.day) history history where
  ascending := h
  mem_days _ := Iff.rfl
  quantity _ ho := quantity_eq_demandOn (Day.nodup_of_pairwise h) ho

end DailySums

/-! ## Observing the sums -/

theorem Observation.exists_ofPairs? {pairs : List (Day × ℝ)} (h : ∀ pair ∈ pairs, 0 ≤ pair.2) :
    ∃ series, ofPairs? pairs = .ok series := by
  induction pairs with
  | nil => exact ⟨[], rfl⟩
  | cons pair pairs ih =>
      obtain ⟨series, hs⟩ := ih fun x hx => h x (List.mem_cons_of_mem _ hx)
      have hq : ¬ pair.2 < 0 := not_lt.2 (h pair List.mem_cons_self)
      refine ⟨⟨pair.1, pair.2, rfl, hq⟩ :: series, ?_⟩
      rw [ofPairs?, List.mapM_cons, ← ofPairs?, hs]
      simp [of?, hq]

/-- Over days in order, what a history holds can be observed, and gives its daily sums. -/
theorem DailySums.exists_ofPairs? (history : List (Observation ℝ)) {ds : List Day}
    (hp : ds.Pairwise (· < ·)) :
    ∃ series, ofPairs? (ds.map fun day => (day, demandOn history day)) = .ok series
      ∧ DailySums (· ∈ ds) history series := by
  have hq : ∀ pair ∈ ds.map fun day => (day, demandOn history day), 0 ≤ pair.2 := by
    intro pair hm
    obtain ⟨day, _, rfl⟩ := List.mem_map.1 hm
    exact demandOn_nonneg history day
  obtain ⟨series, hs⟩ := Observation.exists_ofPairs? hq
  exact ⟨series, hs, .ofRows hp (rows_ofPairs? hs)⟩

theorem sum_valuesOn (history : List (Observation ℝ)) (day : Day) :
    (valuesOn (rows history) day).sum = demandOn history day := by
  rw [valuesOn, rows, List.filter_map, List.map_map]
  rfl

/-- The totals by day are the demand of the days that occur, however a day is added up. -/
theorem dailyTotals_rows {total : List ℝ → ℝ} (ht : ∀ xs, total xs = xs.sum)
    (history : List (Observation ℝ)) :
    dailyTotals total (rows history)
      = (ascending (history.map Observation.day)).map fun day => (day, demandOn history day) := by
  have hd : (rows history).map Prod.fst = history.map Observation.day := by
    simp [rows, Function.comp_def]
  rw [dailyTotals, hd]
  apply List.map_congr_left
  intro day _
  rw [ht, sum_valuesOn]

/-- **Totalling rows by day** gives the daily sums of any history with the same rows. -/
theorem DailySums.exists_dailyTotals {total : List ℝ → ℝ} (ht : ∀ xs, total xs = xs.sum)
    {pairs : List (Day × ℝ)} {history : List (Observation ℝ)} (hp : pairs.Perm (rows history)) :
    ∃ series, ofPairs? (dailyTotals total pairs) = .ok series
      ∧ DailySums (· ∈ history.map Observation.day) history series := by
  have hq : ∀ pair ∈ pairs, 0 ≤ pair.2 := by
    intro pair hm
    obtain ⟨o, _, rfl⟩ := List.mem_map.1 (hp.mem_iff.1 hm)
    exact o.quantity_nonneg
  obtain ⟨observed, ho⟩ := Observation.exists_ofPairs? hq
  obtain rfl := rows_ofPairs? ho
  have hperm : observed.Perm history := (List.map_perm_map_iff pair_injective).1 hp
  obtain ⟨series, hs, hsums⟩ := exists_ofPairs? observed
    (pairwise_ascending (observed.map Observation.day))
  rw [dailyTotals_rows ht]
  refine ⟨series, hs, (hsums.perm hperm).congr fun day => ?_⟩
  rw [mem_ascending]
  exact (hperm.map Observation.day).mem_iff

end Restock
