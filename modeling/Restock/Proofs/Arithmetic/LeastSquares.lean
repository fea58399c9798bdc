import Restock.Proofs.Arithmetic.Constant
import Restock.Statistics.Trend

/-!
# The line of least squares

The slope of a series is that of the one line which misses its values by least, all squared distances
taken together (`bestLine_trendLine`). How far any line misses them depends on the line and on three sums
over the values (`squaredError_eq`), and a line other than the best one misses them by more
(`squaredError_eq_add`). What moves all lines along with the values moves the best one with them
(`BestLine.map`): adding a line to a series adds its slope, and reading a series backwards turns its slope
around.
-/

namespace Restock.Statistics

open Scalar

/-! ## Lines -/

/-- A straight line over the positions of a series. -/
@[ext]
structure Line where
  /-- The value at the first position. -/
  intercept : ℝ
  /-- What is gained from one position to the next. -/
  slope : ℝ

namespace Line

noncomputable def value (l : Line) (i : Nat) : ℝ := l.intercept + l.slope * i

/-- The values of a line at the first positions. -/
noncomputable def series (l : Line) (n : Nat) : List ℝ := (List.range n).map l.value

/-- A series with the value of a line added at each position. -/
noncomputable def raise (l : Line) (ys : List ℝ) : List ℝ := ys.mapIdx fun i y => y + l.value i

/-- The line through the values of two lines taken together. -/
noncomputable def add (l m : Line) : Line := ⟨l.intercept + m.intercept, l.slope + m.slope⟩

/-- The line that takes the values of another one at the first positions in reverse. -/
noncomputable def reversed (l : Line) (n : Nat) : Line := ⟨l.intercept + l.slope * (n - 1), -l.slope⟩

end Line

/-- The sum of the squared distances of a series from a line. -/
noncomputable def squaredError (l : Line) (ys : List ℝ) : ℝ :=
  (ys.mapIdx fun i y => (y - l.value i) ^ 2).sum

/-- No line misses a series by less, and none but this one by as little. -/
def BestLine (ys : List ℝ) (l : Line) : Prop :=
  ∀ m : Line, squaredError l ys ≤ squaredError m ys
    ∧ (squaredError m ys = squaredError l ys → m = l)

/-- The line with the slope of a series that has the mean of its values at the mean of its positions. -/
noncomputable def trendLine (ys : List ℝ) : Line :=
  ⟨mean ys - slope ys * mean (positions ys.length), slope ys⟩

variable {ys : List ℝ} {l m : Line}

@[simp] theorem slope_trendLine (ys : List ℝ) : (trendLine ys).slope = slope ys := rfl

/-! ## Sums over positions -/

theorem positions_succ (n : Nat) : (positions (n + 1) : List ℝ) = positions n ++ [(n : ℝ)] := by
  simp [positions, List.range_succ]

theorem sum_positions (n : Nat) : (positions n : List ℝ).sum = n * (n - 1) / 2 := by
  induction n with
  | zero => simp [positions]
  | succ n ih =>
      rw [positions_succ, List.sum_append, ih, List.sum_singleton, Nat.cast_succ]
      ring

theorem mean_positions {n : Nat} (hn : n ≠ 0) : mean (positions n : List ℝ) = (n - 1) / 2 := by
  have hn : (n : ℝ) ≠ 0 := Nat.cast_ne_zero.2 hn
  rw [mean_real, sum_positions, length_positions, mul_div_assoc, mul_div_cancel_left₀ _ hn]

theorem dot_append_singleton {xs : List ℝ} (h : xs.length = ys.length) (x y : ℝ) :
    dot (xs ++ [x]) (ys ++ [y]) = dot xs ys + x * y := by
  simp only [dot, sum_real, List.zipWith_append h, List.zipWith_cons_cons, List.zipWith_nil_left,
    List.sum_append, List.sum_singleton]

theorem dot_positions (n : Nat) :
    dot (positions n) (positions n : List ℝ) = n * (n - 1) * (2 * n - 1) / 6 := by
  induction n with
  | zero => simp [positions, dot]
  | succ n ih =>
      rw [positions_succ, dot_append_singleton rfl, ih, Nat.cast_succ]
      ring

/-! ## The slope -/

/-- The denominator of the slope in closed form. -/
theorem slopeDenominator_real (n : Nat) :
    (slopeDenominator n : ℝ) = n ^ 2 * (n ^ 2 - 1) / 12 := by
  have hpow (x : ℝ) : Scalar.pow x 2 = x ^ 2 := rfl
  simp only [slopeDenominator, ofNat_real, blockSum_real, dot_positions, sum_positions, hpow]
  ring

theorem epsilon_real : (epsilon : ℝ) = (1 / 2) ^ 52 := by
  show (1 / Scalar.ofNat 2 : ℝ) ^ 52 = (1 / 2) ^ 52
  rw [ofNat_real, Nat.cast_ofNat]

theorem one_le_slopeDenominator {n : Nat} (hn : 2 ≤ n) : (1 : ℝ) ≤ slopeDenominator n := by
  have hn : (2 : ℝ) ≤ n := by exact_mod_cast hn
  have hsq : (4 : ℝ) ≤ n ^ 2 := by nlinarith
  rw [slopeDenominator_real]
  nlinarith

/-- From two positions on the denominator is far from counting as zero. -/
theorem epsilon_le_slopeDenominator {n : Nat} (hn : 2 ≤ n) :
    (epsilon : ℝ) ≤ Scalar.abs (slopeDenominator n) := by
  have hone := one_le_slopeDenominator hn
  calc (epsilon : ℝ) ≤ 1 := by
        rw [epsilon_real]
        norm_num
    _ ≤ slopeDenominator n := hone
    _ ≤ Scalar.abs (slopeDenominator n) := by
        rw [abs_real]
        exact le_abs_self _

theorem slope_of_length_lt (h : ys.length < 2) : slope ys = 0 := if_pos h

/-- The slope solves a linear equation, and below two positions zero does. -/
theorem slope_mul (ys : List ℝ) :
    slope ys * (ys.length * (ys.length ^ 2 - 1) / 12)
      = dot (positions ys.length) ys - (ys.length - 1) / 2 * ys.sum := by
  match ys with
  | [] => simp [positions, dot]
  | [y] => simp [positions, dot, slope]
  | y :: y' :: ys =>
    generalize hys : y :: y' :: ys = zs
    have hn : 2 ≤ zs.length := by simp [← hys]
    have hone := one_le_slopeDenominator hn
    have hlength : (zs.length : ℝ) ≠ 0 := Nat.cast_ne_zero.2 (by omega)
    have hslope : slope zs = (zs.length * dot (positions zs.length) zs
        - zs.length * (zs.length - 1) / 2 * zs.sum) / slopeDenominator zs.length := by
      simp only [slope, if_neg (not_lt.2 hn), if_neg (not_lt.2 (epsilon_le_slopeDenominator hn)),
        ofNat_real, blockSum_real, sum_positions]
    have hmul := (eq_div_iff (zero_lt_one.trans_le hone).ne').1 hslope
    rw [slopeDenominator_real] at hmul
    -- a factor of the length is on both sides
    refine mul_left_cancel₀ hlength ?_
    linear_combination hmul

theorem length_mul_intercept (ys : List ℝ) :
    ys.length * (trendLine ys).intercept
      = ys.sum - slope ys * (ys.length * (ys.length - 1) / 2) := by
  have hmean := length_mul_mean ys
  have hpositions := length_mul_mean (positions ys.length)
  rw [length_positions, sum_positions] at hpositions
  rw [trendLine]
  linear_combination hmean - slope ys * hpositions

/-! ## How far a line misses a series -/

theorem squaredError_concat (l : Line) (ys : List ℝ) (y : ℝ) :
    squaredError l (ys ++ [y]) = squaredError l ys + (y - l.value ys.length) ^ 2 := by
  simp only [squaredError, List.mapIdx_concat, List.sum_append, List.sum_singleton]

theorem dot_positions_concat (ys : List ℝ) (y : ℝ) :
    dot (positions (ys ++ [y]).length) (ys ++ [y])
      = dot (positions ys.length) ys + ys.length * y := by
  rw [List.length_append, List.length_singleton, positions_succ,
    dot_append_singleton (length_positions _)]

/-- **How far a line misses a series**, through the sums of its values, of their squares and of their
products with the positions. -/
theorem squaredError_eq (l : Line) (ys : List ℝ) :
    squaredError l ys = (ys.map (· ^ 2)).sum - 2 * l.intercept * ys.sum
      - 2 * l.slope * dot (positions ys.length) ys + l.intercept ^ 2 * ys.length
      + l.intercept * l.slope * (ys.length * (ys.length - 1))
      + l.slope ^ 2 * (ys.length * (ys.length - 1) * (2 * ys.length - 1) / 6) := by
  induction ys using List.reverseRecOn with
  | nil => simp [squaredError, positions, dot]
  | append_singleton ys y ih =>
      rw [squaredError_concat, ih, dot_positions_concat, List.map_append, List.sum_append,
        List.sum_append, List.length_append, List.map_singleton, List.sum_singleton,
        List.sum_singleton, List.length_singleton, Nat.cast_add, Nat.cast_one, Line.value]
      ring

/-- Any line misses a series by what the trend line does, and by how far the two lines are apart. -/
theorem squaredError_eq_add (l : Line) (ys : List ℝ) :
    squaredError l ys = squaredError (trendLine ys) ys
      + ys.length * (l.intercept - (trendLine ys).intercept
          + (l.slope - (trendLine ys).slope) * (ys.length - 1) / 2) ^ 2
      + (l.slope - (trendLine ys).slope) ^ 2 * (ys.length * (ys.length ^ 2 - 1) / 12) := by
  have hintercept := length_mul_intercept ys
  have hslope := slope_mul ys
  rw [squaredError_eq, squaredError_eq, slope_trendLine]
  -- what is linear in the distance of the two lines vanishes, by the two equations of the trend line
  linear_combination (2 * (l.intercept - (trendLine ys).intercept)
    + (ys.length - 1) * (l.slope - slope ys)) * hintercept + 2 * (l.slope - slope ys) * hslope

/-! ## The best line -/

theorem BestLine.unique (hl : BestLine ys l) (hm : BestLine ys m) : m = l :=
  (hl m).2 (le_antisymm (hm l).1 (hl m).1)

/-- **The trend line is the best one** through two values or more. -/
theorem bestLine_trendLine (h : 2 ≤ ys.length) : BestLine ys (trendLine ys) := by
  intro m
  have hn : (2 : ℝ) ≤ ys.length := by exact_mod_cast h
  have hspread : 0 < (ys.length : ℝ) * (ys.length ^ 2 - 1) / 12 := by nlinarith
  have herror := squaredError_eq_add m ys
  generalize hgain : m.slope - (trendLine ys).slope = gain at herror
  generalize hrise : m.intercept - (trendLine ys).intercept + gain * (ys.length - 1) / 2 = rise
    at herror
  have hrise_sq : 0 ≤ ys.length * rise ^ 2 := mul_nonneg (Nat.cast_nonneg _) (sq_nonneg rise)
  have hgain_sq := mul_nonneg (sq_nonneg gain) hspread.le
  refine ⟨by linarith, fun heq => ?_⟩
  -- as neither of the two distances adds to the error, the lines are not apart
  have hzero : ys.length * rise ^ 2 = 0 ∧ gain ^ 2 * (ys.length * (ys.length ^ 2 - 1) / 12) = 0 :=
    (add_eq_zero_iff_of_nonneg hrise_sq hgain_sq).1 (by linarith)
  obtain rfl : gain = 0 := pow_eq_zero_iff two_ne_zero |>.1
    ((mul_eq_zero.1 hzero.2).resolve_right hspread.ne')
  obtain rfl : rise = 0 := pow_eq_zero_iff two_ne_zero |>.1
    ((mul_eq_zero.1 hzero.1).resolve_left (by linarith))
  exact Line.ext (by linarith) (by linarith)

/-- What moves lines without changing how far they miss, moves the best line. -/
theorem BestLine.map {zs : List ℝ} {move : Line → Line} (hmove : move.Surjective)
    (herror : ∀ m, squaredError (move m) zs = squaredError m ys) (h : BestLine ys l) :
    BestLine zs (move l) := by
  intro m'
  obtain ⟨m, rfl⟩ := hmove m'
  rw [herror, herror]
  exact ⟨(h m).1, fun heq => congrArg move ((h m).2 heq)⟩

theorem slope_of_bestLine (hn : 2 ≤ ys.length) (h : BestLine ys l) : slope ys = l.slope :=
  congrArg Line.slope (h.unique (bestLine_trendLine hn))

/-! ## Series that are moved -/

theorem squaredError_raise (l m : Line) (ys : List ℝ) :
    squaredError (l.add m) (l.raise ys) = squaredError m ys := by
  rw [squaredError, Line.raise, List.mapIdx_mapIdx, squaredError]
  congr 2
  funext i y
  simp only [Function.comp_apply, Line.value, Line.add]
  ring

theorem Line.add_surjective (l : Line) : l.add.Surjective := fun m =>
  ⟨⟨m.intercept - l.intercept, m.slope - l.slope⟩,
    Line.ext (add_sub_cancel _ _) (add_sub_cancel _ _)⟩

/-- Adding a line to a series adds its slope. -/
theorem slope_raise (l : Line) (hn : 2 ≤ ys.length) : slope (l.raise ys) = slope ys + l.slope := by
  have hlength : 2 ≤ (l.raise ys).length := by rwa [Line.raise, List.length_mapIdx]
  have hbest := (bestLine_trendLine hn).map l.add_surjective fun m => squaredError_raise l m ys
  rw [slope_of_bestLine hlength hbest]
  exact add_comm _ _

theorem Line.reversed_reversed (l : Line) (n : Nat) : (l.reversed n).reversed n = l := by
  refine Line.ext ?_ (neg_neg _)
  simp only [Line.reversed]
  ring

theorem squaredError_reverse (l : Line) (ys : List ℝ) :
    squaredError (l.reversed ys.length) ys.reverse = squaredError l ys := by
  rw [squaredError, List.mapIdx_reverse, List.sum_reverse, squaredError]
  congr 1
  refine List.ext_getElem (by simp) fun i hi _ => ?_
  have hi : i < ys.length := by rwa [List.length_mapIdx] at hi
  have hlast : ((ys.length - 1 - i : Nat) : ℝ) = ys.length - 1 - i := by
    rw [Nat.cast_sub (by omega), Nat.cast_sub (by omega), Nat.cast_one]
  simp only [List.getElem_mapIdx, Line.value, Line.reversed, hlast]
  ring

/-- Reading a series backwards turns its slope around. -/
theorem slope_reverse (ys : List ℝ) : slope ys.reverse = -slope ys := by
  have hlength := ys.length_reverse
  by_cases hn : 2 ≤ ys.length
  · have hsurjective : Function.Surjective (Line.reversed · ys.length) := fun m =>
      ⟨m.reversed ys.length, m.reversed_reversed ys.length⟩
    have hbest := (bestLine_trendLine hn).map hsurjective fun m => squaredError_reverse m ys
    exact slope_of_bestLine (hlength.symm ▸ hn) hbest
  · rw [slope_of_length_lt (by omega), slope_of_length_lt (by omega), neg_zero]

theorem slope_series (l : Line) {n : Nat} (hn : 2 ≤ n) : slope (l.series n) = l.slope := by
  have hseries : l.series n = l.raise (List.replicate n 0) := by
    refine List.ext_getElem (by simp [Line.series, Line.raise]) fun i _ _ => ?_
    simp [Line.series, Line.raise]
  have hlength : 2 ≤ (List.replicate n (0 : ℝ)).length := by rwa [List.length_replicate]
  rw [hseries, slope_raise l hlength, slope_replicate, zero_add]

/-- What the slope of a series has to do with lines. -/
structure LeastSquares (ys : List ℝ) : Prop where
  denominator : (slopeDenominator ys.length : ℝ) = ys.length ^ 2 * (ys.length ^ 2 - 1) / 12
  /-- The denominator does not count as zero. -/
  regular : ¬ Scalar.abs (slopeDenominator ys.length : ℝ) < epsilon
  best : BestLine ys ⟨mean ys - slope ys * (ys.length - 1) / 2, slope ys⟩
  raised : ∀ l : Line, slope (l.raise ys) = slope ys + l.slope
  reversed : slope ys.reverse = -slope ys

/-- **The slope of a series** of two values or more is that of the line of least squares, and so the slope
of the line itself where the values lie on one. -/
theorem slope_leastSquares :
    (∀ ys : List ℝ, 2 ≤ ys.length → LeastSquares ys)
    ∧ ∀ (intercept gain : ℝ) (n : Nat), 2 ≤ n →
      slope ((List.range n).map fun i : Nat => intercept + gain * i) = gain := by
  refine ⟨fun ys hn => ?_, fun intercept gain n hn => slope_series ⟨intercept, gain⟩ hn⟩
  have hline : trendLine ys = ⟨mean ys - slope ys * (ys.length - 1) / 2, slope ys⟩ := by
    rw [trendLine, mean_positions (by omega), mul_div_assoc]
  exact
    { denominator := slopeDenominator_real ys.length
      regular := not_lt.2 (epsilon_le_slopeDenominator hn)
      best := hline ▸ bestLine_trendLine hn
      raised := fun l => slope_raise l hn
      reversed := slope_reverse ys }

theorem slope_leastSquares_oddNumbers :
    LeastSquares [1, 3, 5] ∧ slope ((List.range 3).map fun i : Nat => (1 : ℝ) + 2 * i) = 2 := by
  obtain ⟨hsquares, hline⟩ := slope_leastSquares
  exact ⟨hsquares [1, 3, 5] (by decide), hline 1 2 3 (by decide)⟩

end Restock.Statistics
