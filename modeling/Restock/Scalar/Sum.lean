import Restock.Scalar

/-!
Three ways to add up a list of numbers. In exact arithmetic they agree; on rounded numbers they
differ in the last digits, so each rule of the library says which one it uses.

* `Scalar.sum` adds from left to right.
* `Scalar.blockSum` adds long lists by halves and short ones in eight lanes.
* `Scalar.compensatedSum` carries the rounding error of each step into the next.
-/
namespace Restock.Scalar
variable {α : Type} [Scalar α]

def sum (xs : List α) : α := xs.foldl (· + ·) 0

/-- Adds a list to eight running sums, eight values at a time, then joins the sums in pairs and
adds what is left over. -/
def laneSum (r₀ r₁ r₂ r₃ r₄ r₅ r₆ r₇ : α) : List α → α
  | x₀ :: x₁ :: x₂ :: x₃ :: x₄ :: x₅ :: x₆ :: x₇ :: rest =>
    laneSum (r₀ + x₀) (r₁ + x₁) (r₂ + x₂) (r₃ + x₃) (r₄ + x₄) (r₅ + x₅) (r₆ + x₆) (r₇ + x₇) rest
  | rest => rest.foldl (· + ·) (((r₀ + r₁) + (r₂ + r₃)) + ((r₄ + r₅) + (r₆ + r₇)))

/-- The sum of one block: in eight lanes when there are eight values, else from left to right. -/
def shortSum : List α → α
  | x₀ :: x₁ :: x₂ :: x₃ :: x₄ :: x₅ :: x₆ :: x₇ :: rest => laneSum x₀ x₁ x₂ x₃ x₄ x₅ x₆ x₇ rest
  | xs => sum xs

/-- The longest list that is summed as one block. -/
def blockSize : Nat := 128

/-- The sum by halves: a list longer than a block is cut near its middle, at a multiple of
eight. -/
def blockSum (xs : List α) : α :=
  if xs.length ≤ blockSize then shortSum xs
  else
    let half := xs.length / 2 - xs.length / 2 % 8
    blockSum (xs.take half) + blockSum (xs.drop half)
termination_by xs.length
decreasing_by
  all_goals simp only [blockSize, List.length_take, List.length_drop] at *
  all_goals omega

section
variable {P : α → Prop} (hadd : ∀ {x y}, P x → P y → P (x + y))
include hadd

theorem foldl_add_induction {xs : List α} (h : ∀ x ∈ xs, P x) {total : α} (ht : P total) :
    P (xs.foldl (· + ·) total) := by
  induction xs generalizing total with
  | nil => exact ht
  | cons x xs ih =>
      rw [List.forall_mem_cons] at h
      exact ih h.2 (hadd ht h.1)

theorem laneSum_induction {r₀ r₁ r₂ r₃ r₄ r₅ r₆ r₇ : α} {xs : List α}
    (h : ∀ x ∈ r₀ :: r₁ :: r₂ :: r₃ :: r₄ :: r₅ :: r₆ :: r₇ :: xs, P x) :
    P (laneSum r₀ r₁ r₂ r₃ r₄ r₅ r₆ r₇ xs) := by
  fun_induction laneSum r₀ r₁ r₂ r₃ r₄ r₅ r₆ r₇ xs with
  | case1 r₀ r₁ r₂ r₃ r₄ r₅ r₆ r₇ x₀ x₁ x₂ x₃ x₄ x₅ x₆ x₇ rest ih =>
      simp only [List.forall_mem_cons] at h ih
      obtain ⟨h₀, h₁, h₂, h₃, h₄, h₅, h₆, h₇, k₀, k₁, k₂, k₃, k₄, k₅, k₆, k₇, hrest⟩ := h
      exact ih ⟨hadd h₀ k₀, hadd h₁ k₁, hadd h₂ k₂, hadd h₃ k₃, hadd h₄ k₄, hadd h₅ k₅,
        hadd h₆ k₆, hadd h₇ k₇, hrest⟩
  | case2 r₀ r₁ r₂ r₃ r₄ r₅ r₆ r₇ rest =>
      simp only [List.forall_mem_cons] at h
      obtain ⟨h₀, h₁, h₂, h₃, h₄, h₅, h₆, h₇, hrest⟩ := h
      refine foldl_add_induction hadd hrest ?_
      exact hadd (hadd (hadd h₀ h₁) (hadd h₂ h₃)) (hadd (hadd h₄ h₅) (hadd h₆ h₇))

/-- **What addition keeps, a sum by halves keeps**: it is the same additions, however they are put
together. -/
theorem blockSum_induction (hzero : P 0) {xs : List α} (h : ∀ x ∈ xs, P x) : P (blockSum xs) := by
  fun_induction blockSum xs with
  | case1 xs _ =>
      unfold shortSum
      split
      · exact laneSum_induction hadd h
      · exact foldl_add_induction hadd h hzero
  | case2 xs _ half ih₁ ih₂ =>
      exact hadd (ih₁ fun x hx => h x (List.mem_of_mem_take hx))
        (ih₂ fun x hx => h x (List.mem_of_mem_drop hx))

end

/-- A running sum with the rounding error of its last step. -/
structure Running (α : Type) where
  total : α
  error : α

/-- Adds a number, less the error of the step before. -/
def Running.push (r : Running α) (x : α) : Running α :=
  let y := x - r.error
  let t := r.total + y
  ⟨t, t - r.total - y⟩

/-- An error that is no number is forgotten: it stems from an infinite total. -/
def Running.settle (r : Running α) : Running α :=
  if isNaN r.error then ⟨r.total, 0⟩ else r

/-- The sum that carries each rounding error into the next step. -/
def compensatedSum (xs : List α) : α :=
  let start : Running α := ⟨0, 0⟩
  (xs.foldl (fun r x => (r.push x).settle) start).total

def mean (xs : List α) : α := blockSum xs / ofNat xs.length

end Restock.Scalar
