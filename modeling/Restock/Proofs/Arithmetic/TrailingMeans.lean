import Mathlib.Data.List.DropRight
import Restock.Proofs.Arithmetic.Exact
import Restock.Statistics.Smoothing

/-!
# Trailing means in exact arithmetic

The window of a trailing mean runs along a series with counts and sums only; it never sees its values
again. `Trailing.Holds` says which values they are counts and sums of, oldest first. A value that
enters comes last (`Holds.add`), the one that leaves was first (`Holds.take`), and the mean is that of
the values held, whichever way it is taken (`Holds.mean`). So the means along a series are those of a
window that slides over it (`trailingMean_eq_ok_iff`).
-/

namespace Restock.Statistics

open Scalar

theorem hasMinus_iff {x : ℝ} : hasMinus x = true ↔ x < 0 := by
  simp [hasMinus, one_div]

namespace Trailing

/-- The values that a window holds, oldest first. -/
structure Holds (w : Trailing ℝ) (held : List ℝ) : Prop where
  count : w.count = held.length
  negatives : w.negatives = held.countP hasMinus
  total : w.total = held.sum
  addError : w.addError = 0
  takeError : w.takeError = 0
  /-- The last values are the same, as often as the last one came in a row. -/
  run : ∀ x ∈ held.rtake w.repeats, w.last = some x

theorem holds_empty : empty.Holds [] :=
  ⟨rfl, rfl, rfl, rfl, rfl, by simp⟩

section
variable {w : Trailing ℝ} {held : List ℝ}

theorem Holds.add (h : w.Holds held) (x : ℝ) : (w.add (some x)).Holds (held ++ [x]) where
  count := by simp [Trailing.add, h.count]
  negatives := by
    simp only [Trailing.add, h.negatives, List.countP_append, List.countP_singleton]
    split <;> rfl
  total := by simp [Trailing.add, Running.push, h.total, h.addError]
  addError := by simp [Trailing.add, Running.push, h.addError]
  takeError := h.takeError
  run y hy := by
    show some x = some y
    cases hlast : w.last with
    | none =>
        simp only [Trailing.add, hlast, List.rtake_concat_succ, List.rtake_zero, List.nil_append,
          List.mem_singleton] at hy
        rw [hy]
    | some z =>
        simp only [Trailing.add, hlast] at hy
        split at hy
        · next hxz =>
          -- one more of the same
          rw [List.rtake_concat_succ, List.mem_append, List.mem_singleton] at hy
          rcases hy with hy | rfl
          · rw [eq_of_beq hxz, ← hlast, h.run y hy]
          · rfl
        · rw [List.rtake_concat_succ, List.rtake_zero, List.nil_append, List.mem_singleton] at hy
          rw [hy]

theorem Holds.take {x : ℝ} (h : w.Holds (x :: held)) : (w.take (some x)).Holds held where
  count := by simp [Trailing.take, h.count]
  negatives := by
    simp only [Trailing.take, h.negatives, List.countP_cons]
    split <;> simp
  total := by simp [Trailing.take, Running.push, h.total, h.takeError]
  addError := h.addError
  takeError := by simp [Trailing.take, Running.push, h.takeError]
  run y hy := by
    refine h.run y ?_
    have hsuffix : held.rtake w.repeats <:+ (x :: held).rtake w.repeats := by
      simp only [List.rtake_eq_reverse_take_reverse, List.reverse_suffix, List.reverse_cons]
      exact (List.prefix_append _ _).take _
    exact hsuffix.mem hy

/-- **The mean of a window** is that of the values it holds. -/
theorem Holds.mean (h : w.Holds held) (hne : held ≠ []) : w.mean = Scalar.mean held := by
  have hlength : (0 : ℝ) < held.length := Nat.cast_pos.2 (List.length_pos_iff.2 hne)
  have hcount : ¬ w.count = 0 := by
    rw [h.count]
    exact (List.length_pos_iff.2 hne).ne'
  have hm : w.total / Scalar.ofNat w.count = Scalar.mean held := by
    rw [mean_real, h.total, h.count, ofNat_real]
  simp only [Trailing.mean, if_neg hcount, hm]
  split
  · -- all values are the last one
    next hrun =>
    have hall : ∀ x ∈ held, w.last = some x := by
      have hwhole : held.rtake w.repeats = held := by
        rw [List.rtake, ← h.count, Nat.sub_eq_zero_of_le hrun, List.drop_zero]
      exact fun x hx => h.run x (hwhole.symm ▸ hx)
    obtain ⟨x, hx⟩ := List.exists_mem_of_ne_nil held hne
    have hsame : ∀ y ∈ held, y = x := fun y hy =>
      Option.some.inj ((hall y hy).symm.trans (hall x hx))
    rw [hall x hx, Option.getD_some, mean_real, List.sum_eq_card_nsmul held x hsame, nsmul_eq_mul,
      mul_div_cancel_left₀ x hlength.ne']
  split
  · -- without a negative value the mean is not negative
    next hsign =>
    have hnonneg : ∀ x ∈ held, 0 ≤ x := by
      intro x hx
      have hno := List.countP_eq_zero.1 (h.negatives.symm.trans hsign.1) x hx
      exact not_lt.1 (mt hasMinus_iff.2 hno)
    rw [mean_real] at hsign
    exact absurd (div_nonneg (List.sum_nonneg hnonneg) hlength.le) (not_le.2 hsign.2)
  split
  · -- with negative values only it is not positive
    next hsign =>
    have hneg : ∀ x ∈ held, x ≤ 0 := by
      intro x hx
      have hall := List.countP_eq_length.1 (h.negatives.symm.trans (hsign.1.trans h.count)) x hx
      exact (hasMinus_iff.1 hall).le
    have hsum : held.sum ≤ 0 := (List.sum_le_card_nsmul held 0 hneg).trans_eq (nsmul_zero _)
    rw [mean_real] at hsign
    exact absurd (div_nonpos_of_nonpos_of_nonneg hsum hlength.le) (not_le.2 hsign.2)
  · rfl

end

end Trailing

/-! ## Sliding windows -/

theorem length_rtake {α : Type} (size : Nat) (xs : List α) :
    (xs.rtake size).length = min size xs.length := by
  rw [List.rtake_eq_reverse_take_reverse, List.length_reverse, List.length_take,
    List.length_reverse]

/-- The means of a window of at most `size` values that slides over a list and holds some values
before. -/
def slidingMeans {α : Type} [Scalar α] (size : Nat) (held : List α) : List α → List α
  | [] => []
  | x :: xs =>
    let held := (held ++ [x]).rtake size
    Scalar.mean held :: slidingMeans size held xs

@[simp] theorem length_slidingMeans {α : Type} [Scalar α] (size : Nat) (held xs : List α) :
    (slidingMeans size held xs).length = xs.length := by
  induction xs generalizing held with
  | nil => rfl
  | cons x xs ih => simp [slidingMeans, ih]

/-- What is yet to leave a window: nothing until it is full, then what it holds and what enters. -/
def yetToLeave (size : Nat) (held xs : List ℝ) : List (Option ℝ) :=
  List.replicate (size - held.length) none ++ (held ++ xs).map some

/-- One step of a window: it goes on to hold the last values that fit. -/
theorem Trailing.Holds.step {size : Nat} (hsize : 1 ≤ size) {w : Trailing ℝ} {held : List ℝ}
    (h : w.Holds held) (hfit : held.length ≤ size) (x : ℝ) (xs : List ℝ) :
    ∃ out, yetToLeave size held (x :: xs) = out :: yetToLeave size ((held ++ [x]).rtake size) xs
      ∧ ((w.take out).add (some x)).Holds ((held ++ [x]).rtake size) := by
  have hlength : (held ++ [x]).length = held.length + 1 := by simp
  rcases hfit.lt_or_eq with hroom | hfull
  · -- there is room for one more
    have hheld : (held ++ [x]).rtake size = held ++ [x] := by
      rw [List.rtake, hlength, Nat.sub_eq_zero_of_le hroom, List.drop_zero]
    have hfree : size - held.length = size - (held ++ [x]).length + 1 := by omega
    refine ⟨none, ?_, ?_⟩
    · rw [hheld, yetToLeave, hfree, List.replicate_succ, List.cons_append, yetToLeave,
        List.append_cons held x xs]
    · rw [hheld]
      exact h.add x
  · -- the oldest value makes room
    obtain ⟨y, rest, rfl⟩ := List.exists_cons_of_length_pos (hsize.trans hfull.ge)
    have hheld : (y :: rest ++ [x]).rtake size = rest ++ [x] := by
      rw [List.rtake, hlength, hfull, Nat.add_sub_cancel_left]
      rfl
    have hfree : size - (rest ++ [x]).length = 0 := by
      rw [← hfull]
      simp
    refine ⟨some y, ?_, ?_⟩
    · rw [hheld, yetToLeave, hfull, Nat.sub_self, yetToLeave, hfree, List.append_cons (y :: rest) x xs]
      rfl
    · rw [hheld]
      exact h.take.add x

theorem Trailing.Holds.means_eq {size : Nat} (hsize : 1 ≤ size) {w : Trailing ℝ} {held : List ℝ}
    (h : w.Holds held) (hfit : held.length ≤ size) (xs : List ℝ) :
    w.means (yetToLeave size held xs) (xs.map some) = slidingMeans size held xs := by
  induction xs generalizing w held with
  | nil => simp [Trailing.means, slidingMeans]
  | cons x xs ih =>
      obtain ⟨out, hleave, hnext⟩ := h.step hsize hfit x xs
      have hlength : ((held ++ [x]).rtake size).length = min size (held.length + 1) := by
        rw [length_rtake, List.length_append, List.length_singleton]
      have hne : (held ++ [x]).rtake size ≠ [] := by
        rw [← List.length_pos_iff, hlength]
        omega
      have hfit' : ((held ++ [x]).rtake size).length ≤ size := by
        rw [hlength]
        exact min_le_left _ _
      rw [hleave, List.map_cons, Trailing.means, hnext.mean hne, ih hnext hfit', slidingMeans]

/-- **The trailing means** of a series are those of a window that slides over it, or the series itself
where it is shorter than the window. -/
theorem trailingMean_eq_ok_iff {xs ys : List ℝ} {window : Int} :
    trailingMean xs window = .ok ys ↔
      1 ≤ window ∧ ys = if xs.length < window then xs else slidingMeans window.toNat [] xs := by
  unfold trailingMean
  by_cases hshort : xs.length < window
  · have hone : 1 ≤ window := by omega
    simp [hshort, hone, eq_comm]
  · by_cases hwindow : window < 1
    · simp [hshort, hwindow]
    · have hsize : 1 ≤ window.toNat := by omega
      have hone : 1 ≤ window := by omega
      have hmeans := Trailing.holds_empty.means_eq hsize (Nat.zero_le _) xs
      simp only [yetToLeave, List.length_nil, Nat.sub_zero, List.nil_append] at hmeans
      simp [hshort, hwindow, hone, hmeans, eq_comm]

end Restock.Statistics
