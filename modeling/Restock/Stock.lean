import Restock.Scalar
import Restock.Table

/-!
The stock of a network: units by location and product.

`distinct` and `sortStrings` give the two orders in which ids are listed, that of first occurrence
and that of their code points; neither adds, drops or repeats an id.
-/
namespace Restock

/-- A list without repetitions, in the order of first occurrence. -/
def distinct {κ : Type} [BEq κ] (xs : List κ) : List κ := xs.eraseDups

theorem distinct_cons {κ : Type} [BEq κ] (a : κ) (xs : List κ) :
    distinct (a :: xs) = a :: distinct (xs.filter fun b => !b == a) :=
  List.eraseDups_cons

section
variable {κ : Type} [BEq κ] [LawfulBEq κ]

@[simp] theorem mem_distinct {a : κ} {xs : List κ} : a ∈ distinct xs ↔ a ∈ xs :=
  List.mem_eraseDups

theorem nodup_distinct (xs : List κ) : (distinct xs).Nodup := by
  cases xs with
  | nil => simp [distinct]
  | cons a xs =>
    rw [distinct_cons, List.nodup_cons]
    exact ⟨by simp, nodup_distinct _⟩
termination_by xs.length
decreasing_by
  have := List.length_filter_le (fun b => !b == a) xs
  simp only [List.length_cons]
  omega

/-- The distinct members of a list are determined by its members, up to their order. -/
theorem distinct_perm {xs ys : List κ} (h : ∀ a, a ∈ xs ↔ a ∈ ys) :
    (distinct xs).Perm (distinct ys) := by
  refine (List.perm_ext_iff_of_nodup (nodup_distinct xs) (nodup_distinct ys)).2 fun a => ?_
  rw [mem_distinct, mem_distinct, h]

end

/-- Strings in the order of their code points. -/
def sortStrings (xs : List String) : List String := xs.mergeSort fun a b => decide (a ≤ b)

theorem sortStrings_perm (xs : List String) : (sortStrings xs).Perm xs := List.mergeSort_perm _ _

@[simp] theorem mem_sortStrings {a : String} {xs : List String} : a ∈ sortStrings xs ↔ a ∈ xs :=
  (sortStrings_perm xs).mem_iff

theorem sortStrings_sorted (xs : List String) : (sortStrings xs).Pairwise (· ≤ ·) := by
  have h : (sortStrings xs).Pairwise fun a b => decide (a ≤ b) = true :=
    List.pairwise_mergeSort
      (fun a b c hab hbc => by
        simpa using String.le_trans (of_decide_eq_true hab) (of_decide_eq_true hbc))
      (fun a b => by simpa using String.le_total a b) xs
  exact h.imp of_decide_eq_true

theorem pairwise_lt_sortStrings {xs : List String} (hn : xs.Nodup) :
    (sortStrings xs).Pairwise (· < ·) := by
  have hn' : (sortStrings xs).Pairwise (· ≠ ·) := (sortStrings_perm xs).nodup_iff.2 hn
  refine ((sortStrings_sorted xs).and hn').imp ?_
  rintro a b ⟨hle, hne⟩
  exact String.not_le.1 fun hba => hne (String.le_antisymm hle hba)

/-- Sorting the distinct members of a list repeats none of them. -/
theorem nodup_sortStrings_distinct (xs : List String) : (sortStrings (distinct xs)).Nodup :=
  (sortStrings_perm _).nodup_iff.2 (nodup_distinct xs)

/-- Sorted, the distinct members of a list are determined by its members. -/
theorem sortStrings_distinct_eq {xs ys : List String} (h : ∀ a, a ∈ xs ↔ a ∈ ys) :
    sortStrings (distinct xs) = sortStrings (distinct ys) := by
  refine List.Perm.eq_of_pairwise (fun _ _ _ _ => String.le_antisymm) (sortStrings_sorted _)
    (sortStrings_sorted _) ?_
  exact (sortStrings_perm _).trans ((distinct_perm h).trans (sortStrings_perm _).symm)

/-- The units of each product at one location. -/
abbrev StockLevels (α : Type) := Table String α

/-- The stock levels of each location. -/
abbrev StockMap (α : Type) := Table String (StockLevels α)

namespace StockMap
variable {α : Type}

/-- The stock levels of a location; none when it has no record. -/
def levels (stock : StockMap α) (location : String) : StockLevels α :=
  (stock.get? location).getD .empty

/-- The recorded stock of a product at a location. -/
def recorded? (stock : StockMap α) (location product : String) : Option α :=
  (stock.levels location).get? product

/-- The stock of a product at a location; zero when none is recorded. -/
def units [Scalar α] (stock : StockMap α) (location product : String) : α :=
  (stock.recorded? location product).getD 0

/-- The products recorded at some location, in order. -/
def products (stock : StockMap α) (locations : List String) : List String :=
  sortStrings (distinct (locations.flatMap fun l => (stock.levels l).keys))

/-- The recorded stocks of all listed locations. -/
def positions (stock : StockMap α) (locations : List String) : List α :=
  locations.flatMap fun l => (stock.levels l).values

theorem mem_products {stock : StockMap α} {locations : List String} {product : String} :
    product ∈ stock.products locations ↔ ∃ l ∈ locations, product ∈ (stock.levels l).keys := by
  simp [products]

theorem nodup_products (stock : StockMap α) (locations : List String) :
    (stock.products locations).Nodup :=
  nodup_sortStrings_distinct _

end StockMap
end Restock
