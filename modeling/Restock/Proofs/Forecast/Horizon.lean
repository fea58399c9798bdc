import Restock.Proofs.Arithmetic.FloatSigns
import Restock.Proofs.Arithmetic.Statistics
import Restock.Proofs.Demand.Lookback
import Restock.Proofs.Forecast.Basis
import Restock.Proofs.Risk.Analysis

/-!
# Longer horizons

A forecast over more days goes on where one over fewer days stops.

* The days ahead of a shorter horizon are the first ones of a longer (`daysAhead?_take`), and nothing
  else of a forecast looks at its horizon (`Forecast.ofHistory_firstDays`).
* The running sums of the first days are the first running sums, so the day on which stock runs out
  is found by both or comes after the shorter horizon (`stockoutDay_take`).
* Hence an analysis of more days continues one of fewer (`Outlook.FirstDays.continues`).

Nothing is assumed of the numbers, not even that they add up exactly, but that variances have roots:
an analysis under the normal approximation takes one for each checkpoint.
-/

namespace Restock

/-! ## The days ahead -/

namespace Day

theorem run_prefix (first : Day) {m n : Nat} (h : m ≤ n) : first.run m <+: first.run n := by
  obtain ⟨k, rfl⟩ := Nat.exists_eq_add_of_le h
  rw [run, run, List.range_add, List.filterMap_append]
  exact List.prefix_append _ _

theorem exists_shift?_of_le {today last : Day} {m n : Nat} (hmn : m ≤ n)
    (h : today.shift? n = some last) : ∃ earlier, today.shift? m = some earlier := by
  have hl := ordinal_of_shift? h
  have h₁ := today.one_le
  have h₂ := last.le_last
  exact ⟨⟨today.ordinal + m, by omega, by omega⟩, shift?_eq_some_iff.2 rfl⟩

theorem map_some_run {first last : Day} {n : Nat} (h : first.shift? n = some last) :
    (first.run (n + 1)).map some = (List.range (n + 1)).map fun (k : Nat) => first.shift? k := by
  rw [run, List.map_filterMap_some_eq_filter_map_isSome, List.filter_eq_self]
  intro day? hday
  obtain ⟨k, hk, rfl⟩ := List.mem_map.1 hday
  have hkn : k ≤ n := Nat.le_of_lt_succ (List.mem_range.1 hk)
  obtain ⟨day, hday⟩ := exists_shift?_of_le hkn h
  rw [hday]
  rfl

theorem length_run {first last : Day} {n : Nat} (h : first.shift? n = some last) :
    (first.run (n + 1)).length = n + 1 := by
  simpa using congrArg List.length (map_some_run h)

end Day

theorem daysAhead?_eq_some_iff {today : Day} {n : Nat} {days : List Day} :
    daysAhead? today n = some days ↔
      (∃ last, today.shift? n = some last) ∧ days = (today.run (n + 1)).drop 1 := by
  unfold daysAhead?
  cases h : today.shift? n with
  | none => simp
  | some last =>
      have hl := Day.ordinal_of_shift? h
      have hcount : (last.ordinal - today.ordinal + 1).toNat = n + 1 := by omega
      simp only [Day.span, hcount, Option.some.injEq, exists_eq', true_and, eq_comm]

theorem length_daysAhead? {today : Day} {n : Nat} {days : List Day}
    (h : daysAhead? today n = some days) : days.length = n := by
  obtain ⟨⟨last, hl⟩, rfl⟩ := daysAhead?_eq_some_iff.1 h
  rw [List.length_drop, Day.length_run hl, Nat.add_sub_cancel]

/-- The days ahead come one after the other, the first of them tomorrow. -/
theorem getElem?_daysAhead? {today : Day} {n : Nat} {days : List Day}
    (h : daysAhead? today n = some days) {i : Nat} (hi : i < n) :
    days[i]? = today.shift? (i + 1 : Nat) := by
  obtain ⟨⟨last, hl⟩, rfl⟩ := daysAhead?_eq_some_iff.1 h
  have hplace := congrArg (·[1 + i]?) (Day.map_some_run hl)
  simp only [List.getElem?_map] at hplace
  rw [List.getElem?_drop]
  have hrange : (List.range (n + 1))[1 + i]? = some (i + 1) := by
    rw [List.getElem?_range (by omega), Nat.add_comm]
  rw [hrange, Option.map_some] at hplace
  cases hday : (today.run (n + 1))[1 + i]? with
  | none =>
      rw [hday] at hplace
      cases hplace
  | some day =>
      rw [hday, Option.map_some] at hplace
      exact Option.some.inj hplace

/-- **The days ahead** of a shorter horizon are the first ones of a longer. -/
theorem daysAhead?_take {today : Day} {m n : Nat} (hmn : m ≤ n) {days : List Day}
    (h : daysAhead? today n = some days) : daysAhead? today m = some (days.take m) := by
  obtain ⟨⟨last, hl⟩, rfl⟩ := daysAhead?_eq_some_iff.1 h
  obtain ⟨earlier, he⟩ := Day.exists_shift?_of_le hmn hl
  refine daysAhead?_eq_some_iff.2 ⟨⟨earlier, he⟩, ?_⟩
  -- today itself heads both runs, and is dropped from both
  have hp : today.run (m + 1) = (today.run (n + 1)).take (m + 1) := by
    have h := List.prefix_iff_eq_take.1 (today.run_prefix (Nat.add_le_add_right hmn 1))
    rwa [Day.length_run he] at h
  rw [hp, List.drop_take, Nat.add_sub_cancel]

variable {α : Type}

theorem mapIdx_take {β γ : Type} (f : Nat → β → γ) (xs : List β) (n : Nat) :
    (xs.take n).mapIdx f = (xs.mapIdx f).take n := by
  refine List.ext_getElem? ?_
  intro i
  simp only [List.getElem?_mapIdx, List.getElem?_take]
  split <;> rfl

/-- The lookback does not depend on the horizon. -/
theorem quietWindow_eq {today : Day} {near far : Int} (hn : 1 ≤ near) (hf : 1 ≤ far)
    (historyDays : Option Int) :
    (quietWindow today near historyDays : Planned α _) = quietWindow today far historyDays := by
  have hn' : ¬ near < 1 := by omega
  have hf' : ¬ far < 1 := by omega
  simp only [quietWindow, if_neg hn', if_neg hf']

section
variable [Scalar α]

/-! ## Forecasts -/

namespace Forecast

/-- The same forecast over its first days only. -/
def firstDays (n : Nat) (f : Forecast α) : Forecast α := { f with days := f.days.take n }

theorem ofSeries_firstDays (policy : ForecastPolicy α) (now : Instant)
    (series : List (Observation α)) {m n : Nat} (hmn : m ≤ n) {days : List Day}
    (h : daysAhead? now.day n = some days) (product location : String)
    (p : Option (Parameters α)) :
    ofSeries policy now series m product location p
      = (ofSeries policy now series n product location p).map (firstDays m) := by
  have hm := daysAhead?_take hmn h
  simp only [ofSeries, h, hm, inCalendar, Planned.ok_bind, mapIdx_take]
  cases policy.fit (Observation.quantities series) with
  | error e => rfl
  | ok fitted =>
      simp only [Planned.ok_bind]
      cases Statistics.fitError ((Observation.quantities series).drop 1) fitted.dropLast with
      | error e => rfl
      | ok fit => rfl

/-- **Forecasting fewer days** gives the first days of forecasting more, and the same otherwise. -/
theorem ofHistory_firstDays (policy : ForecastPolicy α) (now : Instant)
    (history : List (Observation α)) {near far : Int} (hnear : 1 ≤ near) (hfar : near ≤ far)
    {last : Day} (hlast : now.day.shift? far = some last) (product location : String)
    (p : Option (Parameters α)) (historyDays : Option Int) :
    ofHistory policy now history near product location p historyDays
      = (ofHistory policy now history far product location p historyDays).map
          (firstDays near.toNat) := by
  have hcast : ((far.toNat : Nat) : Int) = far := Int.toNat_of_nonneg (by omega)
  have hdays : daysAhead? now.day far.toNat = some ((now.day.run (far.toNat + 1)).drop 1) := by
    refine daysAhead?_eq_some_iff.2 ⟨⟨last, ?_⟩, rfl⟩
    rw [hcast]
    exact hlast
  unfold ofHistory
  rw [quietWindow_eq hnear (Int.le_trans hnear hfar)]
  cases quietWindow now.day far historyDays with
  | error e => rfl
  | ok window =>
      simp only [Planned.ok_bind]
      cases densify history policy.fillGaps window with
      | error e => rfl
      | ok series =>
          simp only [Planned.ok_bind]
          split
          · rfl
          · exact ofSeries_firstDays policy now series (Int.toNat_le_toNat hfar) hdays
              product location p

/-- A forecast has as many days as were asked for, and the variance of the series it is made from. -/
theorem of_ofHistory {policy : ForecastPolicy α} {now : Instant} {history : List (Observation α)}
    {horizon : Int} {product location : String} {p : Option (Parameters α)}
    {historyDays : Option Int} {f : Forecast α}
    (h : ofHistory policy now history horizon product location p historyDays = .ok f) :
    f.days.length = horizon.toNat ∧ ∃ xs, f.variance = Statistics.variance xs := by
  obtain ⟨b, hb, rfl⟩ := ofHistory_eq_ok_iff.1 h
  exact ⟨(List.length_mapIdx).trans (length_daysAhead? hb.ahead), _, rfl⟩

end Forecast

/-! ## Running sums -/

theorem runningFrom_take (total : α) (xs : List α) (n : Nat) :
    runningFrom total (xs.take n) = (runningFrom total xs).take n := by
  induction xs generalizing total n with
  | nil => simp [runningFrom]
  | cons x xs ih =>
      cases n with
      | zero => rfl
      | succ n => simp only [List.take_succ_cons, runningFrom, ih]

theorem firstAbove_take (stock : α) (sums : List α) (n : Nat) :
    firstAbove stock (sums.take n) = (firstAbove stock sums).filter fun d => decide (d ≤ n) := by
  rw [firstAbove, firstAbove, List.findIdx?_take]
  cases sums.findIdx? fun total => decide (stock < total) with
  | none => rfl
  | some i =>
      by_cases h : i < n
      · have hs : i + 1 ≤ n := h
        simp [h, hs, Option.filter]
      · have hs : ¬ i + 1 ≤ n := h
        simp [h, hs, Option.filter]

/-- **The day of running out** over fewer days is the one over more days, if it comes in time. -/
theorem stockoutDay_take (stock : α) (daily : List α) (n : Nat) :
    stockoutDay stock (daily.take n)
      = (stockoutDay stock daily).filter fun d => decide (d ≤ n) := by
  rw [stockoutDay, cumulative, runningFrom_take, firstAbove_take]
  rfl

theorem stockoutFlag_filter (day : Option Nat) {n : Nat} {checkpoint : Int} (h : checkpoint ≤ n) :
    (stockoutFlag (day.filter fun d => decide (d ≤ n)) checkpoint : α)
      = stockoutFlag day checkpoint := by
  cases day with
  | none => rfl
  | some d =>
      by_cases hd : d ≤ n
      · simp [Option.filter, hd]
      · -- a day cut off is past the checkpoint, so it raised no flag before
        have hc : ¬ (d : Int) ≤ checkpoint := by omega
        simp [Option.filter, hd, stockoutFlag, hc]

end

/-! ## Analyses -/

namespace Outlook

/-- One outlook is the first `n` days of another. -/
structure FirstDays (n : Nat) (near far : Outlook α) : Prop where
  pos : 1 ≤ n
  le_length : n ≤ far.daily.length
  daily : near.daily = far.daily.take n
  variance : near.variance = far.variance

theorem FirstDays.length_near {n : Nat} {near far : Outlook α} (h : FirstDays n near far) :
    near.daily.length = n := by
  rw [h.daily, List.length_take, Nat.min_eq_left h.le_length]

theorem FirstDays.stockoutDay_eq [Scalar α] {n : Nat} {near far : Outlook α}
    (h : FirstDays n near far) (stock : α) :
    stockoutDay stock near.daily
      = (stockoutDay stock far.daily).filter fun d => decide (d ≤ n) := by
  rw [h.daily, stockoutDay_take]

end Outlook

/-- The outlook of the first days of a forecast is the first days of its outlook. -/
theorem Forecast.outlook_firstDays {f : Forecast α} {n : Nat} (hn : 1 ≤ n)
    (hl : n ≤ f.days.length) : Outlook.FirstDays n (f.firstDays n).outlook f.outlook where
  pos := hn
  le_length := by rwa [outlook, daily, List.length_map]
  daily := List.map_take
  variance := rfl

/-- A number system in which no variance is negative, nor a multiple of one, so that the variance of
any number of days has a root. -/
class NonnegVariance (α : Type) [Scalar α] : Prop where
  not_neg (xs : List α) : ¬ Statistics.variance xs < 0
  multiple_not_neg (n : Nat) (xs : List α) : ¬ Scalar.ofInt n * Statistics.variance xs < 0

instance : NonnegVariance ℝ where
  not_neg xs := not_lt.2 (Statistics.variance_nonneg xs)
  multiple_not_neg n xs := by
    rw [Scalar.ofInt_real]
    exact not_lt.2 (mul_nonneg (by exact_mod_cast Nat.zero_le n) (Statistics.variance_nonneg xs))

instance : NonnegVariance Float where
  not_neg xs := (Scalar.unsigned_variance xs).not_neg
  multiple_not_neg n xs := ((Scalar.unsigned_ofInt n).mul (Scalar.unsigned_variance xs)).not_neg

variable [Gaussian α]

/-- How an analysis of more days continues one of the first `n` of them. -/
structure RiskAnalysis.Continues (n : Nat) (policy : RiskPolicy α) (near far : RiskAnalysis α) :
    Prop where
  /-- A day of running out that is found stays the same, and so does the level. -/
  found : ∀ d, near.daysUntilStockout = some d →
    far.daysUntilStockout = some d ∧ far.level = near.level
  /-- Where none is found, there is none or a later one. -/
  notFound : near.daysUntilStockout = none → ∀ d, far.daysUntilStockout = some d → n < d
  /-- Flags at checkpoints within the first days stay the same. -/
  flag : policy.probabilityMode = .binary →
    ∀ i, policy.checkpoints.day i ≤ n → far.probability i = near.probability i

namespace Outlook

variable {n : Nat} {near far : Outlook α} {stock : α} {policy : RiskPolicy α} {now : Instant}

/-- What is to be had for the first days is to be had for all of them. -/
theorem FirstDays.exists_probabilityBy (h : FirstDays n near far)
    (hroot : ∀ k : Nat, ¬ Scalar.ofInt k * far.variance < 0) {mode : ProbabilityMode} {day : Int}
    (hq : ∃ q, near.probabilityBy stock mode day = .ok q) :
    ∃ q, far.probabilityBy stock mode day = .ok q := by
  have hn := h.pos
  have hle := h.le_length
  have hnear := h.length_near
  cases mode with
  | binary => exact ⟨_, rfl⟩
  | normal =>
      by_cases hday : 1 ≤ day
      · exact Outlook.exists_probabilityBy (by omega) hroot (.inr hday)
      · -- days counted from the end are the same ones, however long the horizon
        have hsame : min day far.daily.length = min day n := by omega
        rw [exists_normal_probabilityBy_iff (by omega), h.variance, hnear] at hq
        rw [exists_normal_probabilityBy_iff (by omega), hsame]
        exact ⟨by omega, hq.2⟩

theorem FirstDays.exists_risk (h : FirstDays n near far) (hvar : ¬ far.variance < 0)
    (hroot : ∀ k : Nat, ¬ Scalar.ofInt k * far.variance < 0)
    (hr : ∃ r, near.risk stock policy now = .ok r) :
    ∃ r, far.risk stock policy now = .ok r := by
  obtain ⟨hs, hq, _⟩ := exists_risk_iff.1 hr
  refine exists_risk_iff.2 ⟨hs, fun i => h.exists_probabilityBy hroot (hq i), ?_⟩
  exact exists_demandReading_iff.2 fun _ => hvar

theorem FirstDays.continues (h : FirstDays n near far) {r r' : RiskAnalysis α}
    (hr : near.risk stock policy now = .ok r) (hr' : far.risk stock policy now = .ok r') :
    r.Continues n policy r' := by
  obtain ⟨_, hr⟩ := risk_eq_ok_iff.1 hr
  obtain ⟨_, hr'⟩ := risk_eq_ok_iff.1 hr'
  have hday : r.daysUntilStockout = r'.daysUntilStockout.filter fun d => decide (d ≤ n) := by
    rw [hr.daysUntilStockout, hr'.daysUntilStockout, h.stockoutDay_eq]
  refine ⟨?_, ?_, ?_⟩
  · intro d hd
    have hd' : r'.daysUntilStockout = some d := by
      rw [hday, Option.filter_eq_some_iff] at hd
      exact hd.1
    refine ⟨hd', ?_⟩
    rw [hr.level, hr'.level, hd, hd']
  · intro hd d hd'
    rw [hday, hd', Option.filter_eq_none_iff] at hd
    simpa using hd d rfl
  · intro hmode i hi
    have hq := hr.probability i
    have hq' := hr'.probability i
    rw [hmode] at hq hq'
    have hflag := stockoutFlag_filter (α := α) (stockoutDay stock far.daily) hi
    rw [← h.stockoutDay_eq] at hflag
    rw [← Except.ok.inj hq, ← Except.ok.inj hq']
    exact hflag.symm

end Outlook

/-- **A longer horizon never rewrites the near future.** The forecast over fewer days is the first
days of the one over more, the same in all else, and it fails when that one does. Whatever an analysis
finds within the first days, an analysis of more days finds as well. -/
theorem Forecast.ofHistory_horizon [NonnegVariance α] (policy : ForecastPolicy α) (now : Instant)
    (history : List (Observation α)) {near far : Int} (hnear : 1 ≤ near) (hfar : near ≤ far)
    {last : Day} (hlast : now.day.shift? far = some last) (product location : String)
    (p : Option (Parameters α)) (historyDays : Option Int) :
    ofHistory policy now history near product location p historyDays
      = (ofHistory policy now history far product location p historyDays).map
          (firstDays near.toNat)
    ∧ ∀ f, ofHistory policy now history far product location p historyDays = .ok f →
      f.days.length = far.toNat
      ∧ ∀ (stock : α) (riskPolicy : RiskPolicy α) (moment : Instant),
        (riskPolicy.probabilityMode = .binary ∨ (∀ i, 1 ≤ riskPolicy.checkpoints.day i) →
          ¬ stock < 0 → ∃ r, (f.firstDays near.toNat).outlook.risk stock riskPolicy moment = .ok r)
        ∧ ∀ r, (f.firstDays near.toNat).outlook.risk stock riskPolicy moment = .ok r →
          ∃ r', f.outlook.risk stock riskPolicy moment = .ok r'
            ∧ r.Continues near.toNat riskPolicy r' := by
  refine ⟨ofHistory_firstDays policy now history hnear hfar hlast product location p historyDays,
    ?_⟩
  intro f hf
  obtain ⟨hlength, xs, hvariance⟩ := of_ofHistory hf
  have hstart : Outlook.FirstDays near.toNat (f.firstDays near.toNat).outlook f.outlook :=
    outlook_firstDays (by omega) (by omega)
  have hvar : ¬ f.variance < 0 := by
    rw [hvariance]
    exact NonnegVariance.not_neg xs
  have hroot (k : Nat) : ¬ Scalar.ofInt k * f.variance < 0 := by
    rw [hvariance]
    exact NonnegVariance.multiple_not_neg k xs
  refine ⟨hlength, fun stock riskPolicy moment => ⟨?_, ?_⟩⟩
  · intro hday hs
    refine Outlook.exists_risk_iff.2 ⟨hs, fun i => ?_, ?_⟩
    · exact Outlook.exists_probabilityBy (by rw [hstart.length_near]; exact hstart.pos) hroot
        (hday.imp_right fun h => h i)
    · exact exists_demandReading_iff.2 fun _ => hvar
  · intro r hr
    obtain ⟨r', hr'⟩ := hstart.exists_risk hvar hroot ⟨r, hr⟩
    exact ⟨r', hr', hstart.continues hr hr'⟩

/-- Three bolts were sold on a day, in floats. -/
noncomputable def threeBolts : Observation Float := ⟨boltSale.day, 3, by decide, by decide⟩

/-- The first of two days is forecast as if it were the only one. Five bolts in stock last for that day,
and run out on the other. -/
theorem threeBolts_horizon :
    ∃ f, Forecast.ofHistory {} boltDepot.now [threeBolts] 2 "bolt" "depot" none none = .ok f
      ∧ Forecast.ofHistory {} boltDepot.now [threeBolts] 1 "bolt" "depot" none none
        = .ok (f.firstDays 1)
      ∧ ∃ r r', (f.firstDays 1).outlook.risk 5 {} boltDepot.now = .ok r
        ∧ f.outlook.risk 5 {} boltDepot.now = .ok r' ∧ r.Continues 1 {} r'
        ∧ r.daysUntilStockout = none ∧ r'.daysUntilStockout = some 2 := by
  obtain ⟨f, hf, hfirst, hboth⟩ :
      ∃ f, Forecast.ofHistory {} boltDepot.now [threeBolts] 2 "bolt" "depot" none none = .ok f
        ∧ stockoutDay 5 (f.firstDays 1).daily = none ∧ stockoutDay 5 f.daily = some 2 :=
    ⟨_, rfl, by decide +kernel, by decide +kernel⟩
  have hlast : boltDepot.now.day.shift? 2 = some (january 11) := rfl
  have hnear : (1 : Int) ≤ 1 := by decide
  have hfar : (1 : Int) ≤ 2 := by decide
  obtain ⟨hdays, hrisk⟩ := Forecast.ofHistory_horizon {} boltDepot.now [threeBolts] hnear hfar hlast
    "bolt" "depot" none none
  obtain ⟨_, hrisk⟩ := hrisk f hf
  obtain ⟨hexists, hcontinues⟩ := hrisk 5 {} boltDepot.now
  obtain ⟨r, hr⟩ := hexists (.inl rfl) (by decide)
  obtain ⟨r', hr', hc⟩ := hcontinues r hr
  rw [hf] at hdays
  have hnone := (Outlook.risk_eq_ok_iff.1 hr).2.daysUntilStockout
  have hsome := (Outlook.risk_eq_ok_iff.1 hr').2.daysUntilStockout
  exact ⟨f, hf, hdays, r, r', hr, hr', hc, hnone.trans hfirst, hsome.trans hboth⟩

end Restock
