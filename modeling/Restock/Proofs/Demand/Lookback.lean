import Restock.Proofs.Demand.Gaps
import Restock.Proofs.Source.Fetch

/-!
# One lookback

A history of so many days and the lookback of as many days are computed apart, one from today and
one from yesterday. They agree: both start on the same day (`lookback?_of_historyStart?`), so that no
fetched day lies before the lookback, and a lookback without days adds nothing to a history. Hence
everything that is planned from a history with its gaps filled is planned from the same series, the
daily sums of what was fetched (`Session.lookbackAgrees`).
-/

namespace Restock

open Observation

/-! ## The window -/

/-- The first day of a history is that of the lookback, and yesterday is not before it. -/
theorem lookback?_of_historyStart? {today first : Day} {d : Int} (hd : 1 ≤ d)
    (h : historyStart? today d = some first) :
    ∃ yesterday, today.shift? (-1) = some yesterday
      ∧ lookback? today d = some ⟨first, yesterday⟩ ∧ first ≤ yesterday := by
  have hf : first.ordinal = today.ordinal - d := Day.ordinal_of_shift? h
  have h1 := first.one_le
  have h2 := today.le_last
  let yesterday : Day := ⟨today.ordinal - 1, by omega, by omega⟩
  have hy : today.shift? (-1) = some yesterday := Day.shift?_eq_some_iff.2 rfl
  have hs : yesterday.shift? (1 - max 0 d) = some first := by
    rw [Day.shift?_eq_some_iff, hf]
    show today.ordinal - d = today.ordinal - 1 + (1 - max 0 d)
    omega
  refine ⟨yesterday, hy, ?_, ?_⟩
  · rw [lookback?, hy, Option.bind_eq_bind, Option.bind_some, hs]
    rfl
  · rw [Day.le_iff, hf]
    show today.ordinal - d ≤ today.ordinal - 1
    omega

/-- A count below one looks back at no day. -/
theorem days_of_lookback? {today : Day} {d : Int} {w : Window} (hd : d ≤ 0)
    (h : lookback? today d = some w) : w.days = [] := by
  unfold lookback? at h
  simp only [Option.bind_eq_bind, Option.bind_eq_some_iff, Option.some.injEq] at h
  obtain ⟨last, _, first, hf, rfl⟩ := h
  have ho := Day.ordinal_of_shift? hf
  apply List.eq_nil_iff_forall_not_mem.2
  intro day hm
  have hm' := Day.mem_span.1 hm
  simp only [Day.le_iff] at hm'
  omega

/-! ## The analysed series -/

/-- A lookback that starts no later than what was fetched spans the days from its first one to
yesterday or the last fetched one. -/
theorem spanned_lookback {first yesterday : Day} (h : first ≤ yesterday)
    {fetched : List (Observation ℝ)} (hf : ∀ o ∈ fetched, first ≤ o.day) (day : Day) :
    Spanned (quietDays (some ⟨first, yesterday⟩) ++ fetched.map Observation.day) day
      ↔ first ≤ day ∧ (day ≤ yesterday ∨ ∃ o ∈ fetched, day ≤ o.day) := by
  have hm (x : Day) : x ∈ quietDays (some ⟨first, yesterday⟩) ++ fetched.map Observation.day
      ↔ (first ≤ x ∧ x ≤ yesterday) ∨ ∃ o ∈ fetched, o.day = x := by
    rw [List.mem_append, List.mem_map]
    exact or_congr_left Day.mem_span
  constructor
  · rintro ⟨⟨a, ha, had⟩, ⟨b, hb, hdb⟩⟩
    constructor
    · rcases (hm a).1 ha with ⟨hfa, _⟩ | ⟨o, ho, rfl⟩
      · exact Day.le_trans hfa had
      · exact Day.le_trans (hf o ho) had
    · rcases (hm b).1 hb with ⟨_, hby⟩ | ⟨o, ho, rfl⟩
      · exact .inl (Day.le_trans hdb hby)
      · exact .inr ⟨o, ho, hdb⟩
  · rintro ⟨hfd, hd⟩
    refine ⟨⟨first, (hm first).2 (.inl ⟨Day.le_refl first, h⟩), hfd⟩, ?_⟩
    rcases hd with hy | ⟨o, ho, hdo⟩
    · exact ⟨yesterday, (hm yesterday).2 (.inl ⟨h, Day.le_refl yesterday⟩), hy⟩
    · exact ⟨o.day, (hm o.day).2 (.inr ⟨o, ho, rfl⟩), hdo⟩

section
variable {α : Type} [Scalar α] {product location : String}

theorem Planner.history_eq {e : Planner α} {d : Int} {fetched : List (Observation α)} {w : Window}
    (hf : e.source.fetchHistory product location d = .ok fetched)
    (hw : lookback? e.now.day d = some w) :
    e.history product location d = densify fetched e.settings.forecast.fillGaps (some w) := by
  show (e.source.fetchHistory product location d >>= fun history => _) = _
  rw [hf]
  show (inCalendar (lookback? e.now.day d) >>= fun window => _) = _
  rw [hw]
  rfl

/-- A lookback without days adds nothing to a history. -/
theorem densify_of_noDays {w : Window} (hw : w.days = []) (history : List (Observation α))
    (filled : Bool) : densify history filled none = densify history filled (some w) := by
  have h (totals : List (Day × α)) : fillGaps none totals = fillGaps (some w) totals := by
    simp [fillGaps, hw]
  cases history with
  | nil => rfl
  | cons o history =>
      simp only [densify, dailySeries, h]

theorem densify_quietWindow {today : Day} {horizon d : Int} {w : Window} (hh : 1 ≤ horizon)
    (hw : lookback? today d = some w) (history : List (Observation α)) (filled : Bool) :
    (quietWindow today horizon (some d) >>= fun window => densify history filled window)
      = densify history filled (some w) := by
  have hh' : ¬ horizon < 1 := by omega
  by_cases hd : d = 0
  · -- no window is taken here, which is the same as one without days
    subst hd
    rw [quietWindow, if_neg hh']
    exact densify_of_noDays (days_of_lookback? (Int.le_refl 0) hw) history filled
  · have hq : (quietWindow today horizon (some d) : Planned α _) = .ok (some w) := by
      unfold quietWindow
      rw [if_neg hh']
      match d with
      | .ofNat 0 => exact absurd rfl hd
      | .ofNat (n + 1) =>
          show (inCalendar (lookback? today (Int.ofNat (n + 1)))).map some = _
          rw [hw]
          rfl
      | .negSucc n =>
          show (inCalendar (lookback? today (Int.negSucc n))).map some = _
          rw [hw]
          rfl
    rw [hq]
    rfl

/-- A forecast is made from the history as all plans see it, although it takes no window when it
looks back at no day. -/
theorem Planner.forecast_eq (e : Planner α) {horizon : Int} {w : Window} (hh : 1 ≤ horizon)
    (hw : lookback? e.now.day e.settings.optimizer.historyDays = some w)
    (p : Option (Parameters α)) :
    e.forecast product location horizon p = (do
      let series ← e.history product location e.settings.optimizer.historyDays
      if series.isEmpty then throw (.insufficientData .forecast product location)
      else Forecast.ofSeries e.settings.forecast e.now series horizon.toNat product location p) := by
  let days := e.settings.optimizer.historyDays
  show (e.source.fetchHistory product location days >>= fun history =>
    Forecast.ofHistory e.settings.forecast e.now history horizon product location p (some days)) = _
  cases hf : e.source.fetchHistory product location days with
  | error error =>
      unfold Planner.history DemandSource.denseHistory
      rw [hf]
      rfl
  | ok fetched =>
      rw [Planned.ok_bind, Planner.history_eq hf hw]
      rw [← densify_quietWindow hh hw fetched, bind_assoc]
      refine bind_congr fun window => bind_congr fun series => ?_
      split <;> rfl

end

/-! ## All plans -/

/-- The plans of a session agree on what a lookback is. -/
structure Session.LookbackAgrees (s : Session ℝ) : Prop where
  /-- The lookback runs from the first day of the history to yesterday. -/
  window : ∀ d first, 1 ≤ d → historyStart? s.now.day d = some first →
    ∃ yesterday, s.now.day.shift? (-1) = some yesterday
      ∧ lookback? s.now.day d = some ⟨first, yesterday⟩
  /-- Fetched are the days of demand from the first day of the history on, and no day before it. -/
  fetched : ∀ product location d first fetched, historyStart? s.now.day d = some first →
    s.planner.source.fetchHistory product location d = .ok fetched →
    ∀ day, day ∈ fetched.map Observation.day
      ↔ day ∈ s.store.demandDays product location ∧ first ≤ day
  /-- With its gaps filled, what was fetched is analysed day by day, from the first day of the history
  to yesterday or the last fetched day, whichever is later: each of these days once and in order, with
  the sum of what was fetched for it, so that nothing is lost. -/
  analysed : ∀ product location d first yesterday fetched, 1 ≤ d →
    historyStart? s.now.day d = some first → s.now.day.shift? (-1) = some yesterday →
    s.planner.source.fetchHistory product location d = .ok fetched → fetched ≠ [] →
    s.settings.forecast.fillGaps = true →
    ∃ analysed, s.planner.history product location d = .ok analysed
      ∧ DailySums (fun day => first ≤ day ∧ (day ≤ yesterday ∨ ∃ o ∈ fetched, day ≤ o.day))
          fetched analysed
      ∧ totalDemand analysed = totalDemand fetched
  /-- A forecast analyses the history as it is seen by the planner, however many days it looks back,
  none or less than none included. -/
  forecast : ∀ product location horizon p w, 1 ≤ horizon →
    lookback? s.now.day s.settings.optimizer.historyDays = some w →
    s.planner.forecast product location horizon p = (do
      let series ← s.planner.history product location s.settings.optimizer.historyDays
      if series.isEmpty then throw (.insufficientData .forecast product location)
      else Forecast.ofSeries s.settings.forecast s.now series horizon.toNat product location p)
  /-- A stocking plan analyses the same series. -/
  stockingPlan : ∀ product location p,
    s.planner.stockingPlan product location p = (do
      let series ← s.planner.history product location s.settings.optimizer.historyDays
      StockingPlan.ofHistory series p s.settings.optimizer product location s.now)
  /-- So does a safety stock, over the days that it looks back. -/
  safetyStock : ∀ product location serviceLevel leadTimeDays variability,
    s.planner.safetyStock product location serviceLevel leadTimeDays variability = (do
      let series ← s.planner.history product location s.settings.optimizer.safetyStockHistoryDays
      Restock.safetyStock series serviceLevel leadTimeDays variability)
  /-- And a seasonal profile, over thirty days for each of its months. -/
  seasonalProfile : ∀ product location months base,
    s.planner.seasonalProfile product location months base = (do
      let series ← s.planner.history product location (max 0 months * 30)
      let level ← match base with
        | some units => .ok units
        | none => s.planner.source.currentStock product location
      SeasonalProfile.ofHistory series months level product location)
  /-- So does the plan of a product in a run over many. -/
  planOrSkip : ∀ product location p,
    s.planner.source.planOrSkip s.settings s.now location p product = (do
      let series ← s.planner.history product location s.settings.optimizer.historyDays
      skipping (StockingPlan.ofHistory series p s.settings.optimizer product location s.now))

/-- **There is one lookback**: where histories start, where gaps are filled and what each plan
analyses agree, for a store in memory and in a database, at any moment and under any settings. -/
theorem Session.lookbackAgrees (s : Session ℝ) : s.LookbackAgrees where
  window := by
    intro d first hd hs
    obtain ⟨yesterday, hy, hw, _⟩ := lookback?_of_historyStart? hd hs
    exact ⟨yesterday, hy, hw⟩
  fetched _ _ _ _ _ hs hf _ := Store.mem_days_fetchHistory hs hf
  analysed := by
    intro product location d first yesterday fetched hd hs hy hf hne hfill
    obtain ⟨yesterday', hy', hw, hle⟩ := lookback?_of_historyStart? hd hs
    obtain rfl : yesterday' = yesterday := Option.some.inj (hy'.symm.trans hy)
    have hfirst : ∀ o ∈ fetched, first ≤ o.day := by
      intro o ho
      exact ((Store.mem_days_fetchHistory hs hf).1 (List.mem_map_of_mem ho)).2
    obtain ⟨analysed, ha, hsums⟩ := exists_densify hne (some ⟨first, yesterday'⟩)
    refine ⟨analysed, ?_, hsums.congr (spanned_lookback hle hfirst), ?_⟩
    · rw [Planner.history_eq hf hw]
      show densify fetched s.settings.forecast.fillGaps (some ⟨first, yesterday'⟩) = _
      rw [hfill]
      exact ha
    · apply hsums.total
      intro o ho
      exact (spanned_lookback hle hfirst o.day).2 ⟨hfirst o ho, .inr ⟨o, ho, Day.le_refl o.day⟩⟩
  forecast _ _ _ p _ hh hw := s.planner.forecast_eq hh hw p
  stockingPlan _ _ _ := rfl
  safetyStock _ _ _ _ _ := rfl
  seasonalProfile _ _ _ base := by cases base <;> rfl
  planOrSkip _ _ _ := rfl

/-- The days of the first January of the calendar, counted from zero. -/
def january (n : Fin 31) : Day := ⟨n.val + 1, by omega, by omega⟩

/-- The sale of a bolt. -/
noncomputable def boltSale : Observation ℝ := ⟨january 7, 1, rfl, not_lt.2 zero_le_one⟩

/-- A depot that sold nothing but a bolt, two days ago. -/
noncomputable def boltDepot : Session ℝ where
  store := .memory ⟨⟨[(("bolt", "depot"), [boltSale])], List.nodup_singleton _⟩, .empty⟩
  settings := { forecast := { fillGaps := true } }
  now := ⟨january 9, 0, 0, 0, 0, 0⟩

/-- Three days back, the sale is seen between two quiet days. -/
theorem boltDepot_analysed :
    ∃ analysed, boltDepot.planner.history "bolt" "depot" 3 = .ok analysed
      ∧ DailySums (fun day => january 6 ≤ day ∧ (day ≤ january 8 ∨ ∃ o ∈ [boltSale], day ≤ o.day))
          [boltSale] analysed
      ∧ totalDemand analysed = totalDemand [boltSale] := by
  have hs : historyStart? boltDepot.now.day 3 = some (january 6) := rfl
  have hf : boltDepot.planner.source.fetchHistory "bolt" "depot" 3 = .ok [boltSale] := by
    refine (MemoryStore.fetchHistory_eq _ hs).trans ?_
    simp [MemoryStore.since, MemoryStore.history, Table.get?, boltSale, january, Day.le_iff]
  exact boltDepot.lookbackAgrees.analysed "bolt" "depot" 3 _ (january 8) [boltSale] (by omega) hs
    rfl hf (List.cons_ne_nil _ _) rfl

end Restock
