import Restock.Calendar.Lookback

/-!
Lists of days in order: the distinct days of a list, and the window that holds them all.
-/
namespace Restock

/-- A list with each run of equal values cut to one of them. -/
def dropRepeats {κ : Type} [DecidableEq κ] : List κ → List κ
  | a :: b :: rest => if a = b then dropRepeats (b :: rest) else a :: dropRepeats (b :: rest)
  | xs => xs

@[simp] theorem mem_dropRepeats {κ : Type} [DecidableEq κ] {a : κ} {xs : List κ} :
    a ∈ dropRepeats xs ↔ a ∈ xs := by
  fun_induction dropRepeats xs with
  | case1 b rest ih => simp [ih]
  | case2 b c rest h ih => simp [ih]
  | case3 xs => rfl

theorem pairwise_dropRepeats {days : List Day} (h : days.Pairwise (· ≤ ·)) :
    (dropRepeats days).Pairwise (· < ·) := by
  fun_induction dropRepeats days with
  | case1 b rest ih => exact ih h.of_cons
  | case2 a b rest hne ih =>
    refine List.pairwise_cons.2 ⟨fun c hc => ?_, ih h.of_cons⟩
    rw [mem_dropRepeats] at hc
    have hab : a < b := Day.lt_of_le_of_ne (List.rel_of_pairwise_cons h (by simp)) hne
    rcases List.mem_cons.1 hc with rfl | hc
    · exact hab
    · have hbc : b ≤ c := List.rel_of_pairwise_cons h.of_cons hc
      exact Int.lt_of_lt_of_le hab hbc
  | case3 days hd =>
    match days, hd with
    | [], _ => simp
    | [a], _ => simp
    | a :: b :: rest, hd => exact absurd rfl (hd a b rest)

/-- Days in order; equal ones stay side by side. -/
def sortDays (days : List Day) : List Day := days.mergeSort fun a b => decide (a ≤ b)

theorem pairwise_sortDays (days : List Day) : (sortDays days).Pairwise (· ≤ ·) := by
  have h : (sortDays days).Pairwise fun a b => decide (a ≤ b) = true :=
    List.pairwise_mergeSort
      (fun a b c hab hbc => by
        simp only [decide_eq_true_eq, Day.le_iff] at *
        omega)
      (fun a b => by
        simp only [Bool.or_eq_true, decide_eq_true_eq, Day.le_iff]
        omega) days
  exact h.imp of_decide_eq_true

/-- The distinct days of a list, in order. -/
def ascending (days : List Day) : List Day := dropRepeats (sortDays days)

@[simp] theorem mem_ascending {days : List Day} {day : Day} : day ∈ ascending days ↔ day ∈ days := by
  simp [ascending, sortDays]

theorem pairwise_ascending (days : List Day) : (ascending days).Pairwise (· < ·) :=
  pairwise_dropRepeats (pairwise_sortDays days)

theorem foldl_rel {κ : Type} {R : κ → κ → Prop} {pick : κ → κ → κ} (refl : ∀ a, R a a)
    (trans : ∀ {a b c}, R a b → R b c → R a c) (left : ∀ a b, R (pick a b) a)
    (right : ∀ a b, R (pick a b) b) {a b : κ} {xs : List κ} (hb : b ∈ a :: xs) :
    R (xs.foldl pick a) b := by
  induction xs generalizing a b with
  | nil => exact List.mem_singleton.1 hb ▸ refl a
  | cons x xs ih =>
    have h : R (xs.foldl pick (pick a x)) (pick a x) := ih List.mem_cons_self
    rcases List.mem_cons.1 hb with rfl | hb
    · exact trans h (left _ _)
    · rcases List.mem_cons.1 hb with rfl | hb
      · exact trans h (right _ _)
      · exact ih (List.mem_cons_of_mem _ hb)

theorem foldl_mem {κ : Type} {pick : κ → κ → κ} (either : ∀ a b, pick a b = a ∨ pick a b = b)
    (a : κ) (xs : List κ) : xs.foldl pick a ∈ a :: xs := by
  induction xs generalizing a with
  | nil => simp
  | cons x xs ih =>
    rw [List.foldl_cons]
    rcases List.mem_cons.1 (ih (pick a x)) with h | h
    · rw [h]
      rcases either a x with h | h <;> simp [h]
    · simp [h]

namespace Day

/-- Days in order are determined by which of them there are. -/
theorem eq_of_mem_iff {xs ys : List Day} (hx : xs.Pairwise (· < ·)) (hy : ys.Pairwise (· < ·))
    (h : ∀ day, day ∈ xs ↔ day ∈ ys) : xs = ys := by
  have hp : xs.Perm ys :=
    (List.perm_ext_iff_of_nodup (nodup_of_pairwise hx) (nodup_of_pairwise hy)).2 h
  exact hp.eq_of_pairwise (fun a b _ _ hab hba => absurd hba (lt_asymm hab)) hx hy

def earlier (a b : Day) : Day := if a ≤ b then a else b

def later (a b : Day) : Day := if a ≤ b then b else a

theorem earlier_le_left (a b : Day) : a.earlier b ≤ a := by grind [earlier, le_iff]

theorem earlier_le_right (a b : Day) : a.earlier b ≤ b := by grind [earlier, le_iff]

theorem le_later_left (a b : Day) : a ≤ a.later b := by grind [later, le_iff]

theorem le_later_right (a b : Day) : b ≤ a.later b := by grind [later, le_iff]

end Day

namespace Window

/-- The smallest window that holds a day and all days of a list. -/
def cover (first : Day) (days : List Day) : Window where
  first := days.foldl Day.earlier first
  last := days.foldl Day.later first

theorem cover_first_le {d e : Day} {days : List Day} (h : e ∈ d :: days) :
    (cover d days).first ≤ e :=
  foldl_rel Day.le_refl Day.le_trans Day.earlier_le_left Day.earlier_le_right h

theorem le_cover_last {d e : Day} {days : List Day} (h : e ∈ d :: days) :
    e ≤ (cover d days).last :=
  @foldl_rel Day (fun a b => b ≤ a) Day.later Day.le_refl (fun hab hbc => Day.le_trans hbc hab)
    Day.le_later_left Day.le_later_right d e days h

theorem cover_first_mem (d : Day) (days : List Day) : (cover d days).first ∈ d :: days :=
  foldl_mem (fun a b => by unfold Day.earlier; split <;> simp) d days

theorem cover_last_mem (d : Day) (days : List Day) : (cover d days).last ∈ d :: days :=
  foldl_mem (fun a b => by unfold Day.later; split <;> simp) d days

end Window
end Restock
