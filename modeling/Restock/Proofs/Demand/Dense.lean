import Mathlib.Order.Bounds.Defs
import Restock.Proofs.Demand.Lookback

/-!
# Dense histories

A history with its gaps filled has every day from the first to the last one that it or the lookback touches
(`Filled`), and is determined by that, so neither the order of the observations counts nor whether gaps
are filled once or again: the days that are filled in lie between days that were there before
(`spanned_append_iff`). Main statement: `densify_filled`.
-/

namespace Restock

open Observation

theorem Day.le_antisymm {a b : Day} (hab : a ≤ b) (hba : b ≤ a) : a = b :=
  Classical.byContradiction fun hne =>
    absurd (Day.lt_of_le_of_ne hba (Ne.symm hne)) (Int.not_lt.2 hab)

/-- A day of the lookback, or one on which something was observed. -/
def touched (window : Option Window) (history : List (Observation ℝ)) : Set Day :=
  {day | (∃ w, window = some w ∧ w.first ≤ day ∧ day ≤ w.last) ∨ ∃ o ∈ history, o.day = day}

/-- A history with its gaps filled. -/
structure Filled (window : Option Window) (history series : List (Observation ℝ)) : Prop where
  /-- It has the days from the first to the last touched one, each once and in order. -/
  days : ∃ first last, IsLeast (touched window history) first
    ∧ IsGreatest (touched window history) last
    ∧ series.map Observation.day = first.span last
  quantity : ∀ o ∈ series, o.quantity = demandOn history o.day
  /-- A day without observations has no demand, be it in the lookback or in a gap. -/
  quiet : ∀ o ∈ series, (∀ x ∈ history, x.day ≠ o.day) → o.quantity = 0
  total : totalDemand series = totalDemand history

variable {window : Option Window} {history series : List (Observation ℝ)}

theorem mem_quietDays {day : Day} :
    day ∈ quietDays window ↔ ∃ w, window = some w ∧ w.first ≤ day ∧ day ≤ w.last := by
  cases window with
  | none => simp [quietDays]
  | some w => simp [quietDays, Window.days]

theorem mem_touched {day : Day} :
    day ∈ touched window history ↔ day ∈ quietDays window ++ history.map Observation.day := by
  rw [List.mem_append, mem_quietDays, List.mem_map]
  rfl

/-- Days that are spanned already span no more. -/
theorem spanned_append_iff {xs ys zs : List Day} (h : ∀ day, day ∈ zs ↔ Spanned (xs ++ ys) day)
    (day : Day) : Spanned (xs ++ zs) day ↔ Spanned (xs ++ ys) day := by
  have hin {d : Day} (hd : d ∈ xs ++ zs) : Spanned (xs ++ ys) d := by
    rcases List.mem_append.1 hd with hx | hz
    · exact .of_mem (List.mem_append_left ys hx)
    · exact (h d).1 hz
  have hout {d : Day} (hd : d ∈ xs ++ ys) : d ∈ xs ++ zs :=
    List.mem_append_right xs ((h d).2 (.of_mem hd))
  constructor
  · rintro ⟨⟨a, ha, had⟩, b, hb, hdb⟩
    obtain ⟨⟨a', ha', haa⟩, _⟩ := hin ha
    obtain ⟨_, b', hb', hbb⟩ := hin hb
    exact ⟨⟨a', ha', Day.le_trans haa had⟩, b', hb', Day.le_trans hdb hbb⟩
  · rintro ⟨⟨a, ha, had⟩, b, hb, hdb⟩
    exact ⟨⟨a, hout ha, had⟩, b, hout hb, hdb⟩

/-- The sums of a history over the days that it and the lookback span. -/
abbrev SpannedSums (window : Option Window) (history series : List (Observation ℝ)) : Prop :=
  DailySums (Spanned (quietDays window ++ history.map Observation.day)) history series

theorem SpannedSums.filled (h : SpannedSums window history series) (hne : history ≠ []) :
    Filled window history series where
  days := by
    obtain ⟨d, rest, hd⟩ : ∃ d rest, quietDays window ++ history.map Observation.day = d :: rest :=
      List.exists_cons_of_ne_nil
        (List.append_ne_nil_of_right_ne_nil _ (mt List.map_eq_nil_iff.1 hne))
    have hmem (day : Day) : day ∈ touched window history ↔ day ∈ d :: rest := by
      rw [mem_touched, hd]
    refine ⟨(Window.cover d rest).first, (Window.cover d rest).last, ⟨?_, ?_⟩, ⟨?_, ?_⟩, ?_⟩
    · exact (hmem _).2 (Window.cover_first_mem d rest)
    · exact fun day hday => Window.cover_first_le ((hmem day).1 hday)
    · exact (hmem _).2 (Window.cover_last_mem d rest)
    · exact fun day hday => Window.le_cover_last ((hmem day).1 hday)
    · refine Day.eq_of_mem_iff h.ascending (Day.pairwise_span _ _) fun day => ?_
      rw [h.mem_days, hd]
      exact Window.mem_cover_days.symm
  quantity := h.quantity
  quiet o ho hquiet := by
    rw [h.quantity o ho]
    refine demandOn_of_not_mem fun hday => ?_
    obtain ⟨x, hx, hxo⟩ := List.mem_map.1 hday
    exact hquiet x hx hxo
  total := h.total fun _ => spanned_observed window

/-- Histories of the same observations are filled alike. -/
theorem SpannedSums.densify_perm (h : SpannedSums window history series) (hne : history ≠ [])
    {other : List (Observation ℝ)} (hp : other.Perm history) :
    densify other true window = .ok series := by
  have hne' : other ≠ [] := fun hnil => hne (List.nil_perm.1 (hnil ▸ hp))
  obtain ⟨series', hs', hsums'⟩ := exists_densify hne' window
  have hdays (day : Day) : Spanned (quietDays window ++ other.map Observation.day) day
      ↔ Spanned (quietDays window ++ history.map Observation.day) day :=
    Spanned.congr (fun day => ((hp.map _).append_left _).mem_iff) day
  rw [hs', ((hsums'.perm hp).congr hdays).unique h]

/-- A filled history has no gaps left. -/
theorem SpannedSums.densify_self (h : SpannedSums window history series) (hne : series ≠ []) :
    densify series true window = .ok series := by
  obtain ⟨series', hs', hsums'⟩ := exists_densify hne window
  have hself : DailySums (Spanned (quietDays window ++ history.map Observation.day)) series series :=
    (DailySums.self h.ascending).congr h.mem_days
  rw [hs', (hsums'.congr (spanned_append_iff h.mem_days)).unique hself]

/-- **Filling gaps** makes a history dense: it has each day from the first to the last one that is touched,
with what was observed on it and nothing else, whatever the order of the observations, and filling the
gaps again changes nothing. There is nothing to fill without observations, and no gap is filled unless
that is asked. -/
theorem densify_filled (window : Option Window) :
    densify ([] : List (Observation ℝ)) true window = .ok []
    ∧ (∀ history : List (Observation ℝ), history ≠ [] →
        ∃ series, densify history true window = .ok series
          ∧ Filled window history series
          ∧ (∀ other, other.Perm history → densify other true window = .ok series)
          ∧ densify series true window = .ok series)
    ∧ ∀ history : List (Observation ℝ), densify history false window = .ok history := by
  refine ⟨rfl, fun history hne => ?_, fun _ => rfl⟩
  obtain ⟨series, hs, hsums⟩ := exists_densify hne window
  have hsums : SpannedSums window history series := hsums
  have hfilled := hsums.filled hne
  have hne' : series ≠ [] := by
    obtain ⟨o, ho⟩ := List.exists_mem_of_ne_nil history hne
    exact hsums.ne_nil (spanned_observed window ho)
  exact ⟨series, hs, hfilled, fun other hp => hsums.densify_perm hne hp, hsums.densify_self hne'⟩

/-- A sale and then two of another day. -/
noncomputable def scatteredSales (day : Day) : List (Observation ℝ) :=
  [boltSale, { boltSale with day := day }, { boltSale with day := day }]

/-- A lookback that ended before the first sale is filled up to the last one, and the other order of
the sales gives the same days. -/
theorem scatteredSales_filled :
    ∃ series, densify (scatteredSales (january 4)) true (some ⟨january 1, january 2⟩) = .ok series
      ∧ densify (scatteredSales (january 4)).reverse true (some ⟨january 1, january 2⟩) = .ok series
      ∧ densify series true (some ⟨january 1, january 2⟩) = .ok series
      ∧ series.map Observation.day = (january 1).span (january 7)
      ∧ totalDemand series = 3 := by
  obtain ⟨_, hfills, _⟩ := densify_filled (some ⟨january 1, january 2⟩)
  obtain ⟨series, hs, hfilled, hperm, hself⟩ :=
    hfills (scatteredSales (january 4)) (List.cons_ne_nil _ _)
  obtain ⟨first, last, hfirst, hlast, hdays⟩ := hfilled.days
  have htouched (day : Day) :
      day ∈ touched (some ⟨january 1, january 2⟩) (scatteredSales (january 4))
        ↔ (january 1 ≤ day ∧ day ≤ january 2) ∨ day = january 7 ∨ day = january 4 := by
    simp [touched, scatteredSales, boltSale, eq_comm]
  have hone : first = january 1 := by
    refine Day.le_antisymm (hfirst.2 ((htouched _).2 (.inl (by decide)))) ?_
    rcases (htouched first).1 hfirst.1 with h | rfl | rfl
    · exact h.1
    · decide
    · decide
  have hseven : last = january 7 := by
    refine Day.le_antisymm ?_ (hlast.2 ((htouched _).2 (.inr (.inl rfl))))
    rcases (htouched last).1 hlast.1 with h | rfl | rfl
    · exact Day.le_trans h.2 (by decide)
    · decide
    · decide
  refine ⟨series, hs, hperm _ (List.reverse_perm _), hself, by rw [hdays, hone, hseven], ?_⟩
  rw [hfilled.total]
  show ((1 : ℝ) + (1 + (1 + 0))) = 3
  norm_num

end Restock
