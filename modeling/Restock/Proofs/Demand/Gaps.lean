import Restock.Proofs.Demand.DailySums
import Restock.Table

/-!
# Gaps filled

Filling the gaps of a history gives its daily sums over a whole span of days: from the first to the
last day that occurs in the history or in the lookback window (`exists_densify`).
-/

namespace Restock

open Observation

/-- A day between two days of a list, or on one of them. -/
def Spanned (days : List Day) (day : Day) : Prop := (∃ a ∈ days, a ≤ day) ∧ ∃ b ∈ days, day ≤ b

theorem Spanned.of_mem {days : List Day} {day : Day} (h : day ∈ days) : Spanned days day :=
  ⟨⟨day, h, Day.le_refl day⟩, day, h, Day.le_refl day⟩

theorem Spanned.congr {xs ys : List Day} (h : ∀ day, day ∈ xs ↔ day ∈ ys) (day : Day) :
    Spanned xs day ↔ Spanned ys day := by
  simp only [Spanned, h]

theorem Window.mem_cover_days {d : Day} {ds : List Day} {day : Day} :
    day ∈ (cover d ds).days ↔ Spanned (d :: ds) day := by
  rw [days, Day.mem_span]
  constructor
  · rintro ⟨hf, hl⟩
    exact ⟨⟨_, cover_first_mem d ds, hf⟩, ⟨_, cover_last_mem d ds, hl⟩⟩
  · rintro ⟨⟨a, ha, had⟩, ⟨b, hb, hdb⟩⟩
    exact ⟨Day.le_trans (cover_first_le ha) had, Day.le_trans hdb (le_cover_last hb)⟩

/-- The days that a lookback adds to those of a history. -/
def quietDays (window : Option Window) : List Day := (window.map Window.days).getD []

theorem spanned_observed (window : Option Window) {history : List (Observation ℝ)}
    {o : Observation ℝ} (h : o ∈ history) :
    Spanned (quietDays window ++ history.map Observation.day) o.day :=
  .of_mem (List.mem_append_right _ (List.mem_map_of_mem h))

/-- Filling gaps extends a function given on some days, and zero elsewhere, to the span of these days
and of the lookback. -/
theorem fillGaps_graph {f : Day → ℝ} {ds : List Day} (hf : ∀ day ∉ ds, f day = 0)
    {window : Option Window} {d : Day} {rest : List Day}
    (h : quietDays window ++ ds = d :: rest) :
    fillGaps window (ds.map fun day => (day, f day))
      = (Window.cover d rest).days.map fun day => (day, f day) := by
  have hd : (ds.map fun day => (day, f day)).map Prod.fst = ds := by
    simp [Function.comp_def]
  change (window.map Window.days).getD [] ++ ds = d :: rest at h
  unfold fillGaps
  rw [hd]
  dsimp only
  rw [h]
  apply List.map_congr_left
  intro day _
  rw [lookup_graph]
  split
  · rfl
  · -- a quiet day has no total, and is filled in with zero
    next hm =>
      rw [hf day hm]
      rfl

/-- **A history with its gaps filled is its daily sums** over the days between the first and the last
one that it or the lookback has. -/
theorem exists_densify {history : List (Observation ℝ)} (h : history ≠ [])
    (window : Option Window) :
    ∃ series, densify history true window = .ok series
      ∧ DailySums (Spanned (quietDays window ++ history.map Observation.day)) history series := by
  let ds := ascending (history.map Observation.day)
  have hne : ds ≠ [] := by
    obtain ⟨o, ho⟩ := List.exists_mem_of_ne_nil history h
    exact List.ne_nil_of_mem (mem_ascending.2 (List.mem_map_of_mem ho))
  obtain ⟨d, rest, hd⟩ : ∃ d rest, quietDays window ++ ds = d :: rest :=
    List.exists_cons_of_ne_nil (List.append_ne_nil_of_right_ne_nil _ hne)
  have hr : dailySeries history true window
      = (Window.cover d rest).days.map fun day => (day, demandOn history day) := by
    obtain ⟨o, tail, rfl⟩ := List.exists_cons_of_ne_nil h
    show fillGaps window (dailyTotals Scalar.compensatedSum (rows (o :: tail))) = _
    rw [dailyTotals_rows Scalar.compensatedSum_real]
    apply fillGaps_graph _ hd
    intro day hm
    exact demandOn_of_not_mem fun hc => hm (mem_ascending.2 hc)
  obtain ⟨series, hs, hp⟩ := DailySums.exists_ofPairs? history
    (Day.pairwise_span (Window.cover d rest).first (Window.cover d rest).last)
  refine ⟨series, ?_, hp.congr fun day => ?_⟩
  · show ofPairs? (dailySeries history true window) = .ok series
    rw [hr]
    exact hs
  · -- putting the days in order changes neither the first nor the last
    have hm (x : Day) : x ∈ d :: rest ↔ x ∈ quietDays window ++ history.map Observation.day := by
      rw [← hd, List.mem_append, List.mem_append, mem_ascending]
    exact Window.mem_cover_days.trans (Spanned.congr hm day)

end Restock
