import Restock.Error

/-!
Observed demand: so many units on a day. Every observation of the library holds a finite quantity
that is not negative. Observing the rows of a history gives that history back (`ofPairs?_rows`), and
what was observed has the rows that it was observed from (`rows_ofPairs?`).
-/
namespace Restock

/-- The demand of one product at one location on one day. -/
structure Observation (α : Type) [Scalar α] where
  day : Day
  quantity : α
  finite : Scalar.isFinite quantity = true
  nonneg : ¬ quantity < 0

namespace Observation
variable {α : Type} [Scalar α]

/-- Observes a quantity on a day, unless it is negative or not finite. -/
def of? (day : Day) (quantity : α) : Planned α (Observation α) :=
  if h : Scalar.isFinite quantity = true ∧ ¬ quantity < 0 then .ok ⟨day, quantity, h.1, h.2⟩
  else .error (.invalidDemand quantity day)

/-- Observes a list of quantities on their days; the first bad one is reported. -/
def ofPairs? (rows : List (Day × α)) : Planned α (List (Observation α)) :=
  rows.mapM fun (day, quantity) => of? day quantity

theorem day_of? {day : Day} {q : α} {o : Observation α} (h : of? day q = .ok o) : o.day = day := by
  unfold of? at h
  split at h
  · cases h
    rfl
  · cases h

theorem quantity_of? {day : Day} {q : α} {o : Observation α} (h : of? day q = .ok o) :
    o.quantity = q := by
  unfold of? at h
  split at h
  · cases h
    rfl
  · cases h

@[simp] theorem of?_self (o : Observation α) : of? o.day o.quantity = .ok o := by
  simp [of?, o.finite, o.nonneg]

/-- The days and quantities of a history. -/
def rows (history : List (Observation α)) : List (Day × α) :=
  history.map fun o => (o.day, o.quantity)

theorem pair_injective : Function.Injective fun o : Observation α => (o.day, o.quantity) := by
  rintro ⟨day, quantity, _, _⟩ ⟨day', quantity', _, _⟩ h
  obtain ⟨rfl, rfl⟩ := Prod.mk.inj h
  rfl

@[simp] theorem ofPairs?_rows (history : List (Observation α)) :
    ofPairs? (rows history) = .ok history := by
  induction history with
  | nil => rfl
  | cons o history ih =>
    simp only [rows, ofPairs?, List.map_cons, List.mapM_cons, of?_self] at *
    rw [ih]
    rfl

theorem rows_ofPairs? {pairs : List (Day × α)} {history : List (Observation α)}
    (h : ofPairs? pairs = .ok history) : rows history = pairs := by
  induction pairs generalizing history with
  | nil =>
    cases h
    rfl
  | cons pair pairs ih =>
    obtain ⟨day, q⟩ := pair
    rw [ofPairs?, List.mapM_cons] at h
    obtain ⟨o, ho, h⟩ := Planned.bind_eq_ok.1 h
    obtain ⟨rest, hr, h⟩ := Planned.bind_eq_ok.1 h
    cases h
    rw [← day_of? ho, ← quantity_of? ho, ← ih hr]
    rfl

def quantities (history : List (Observation α)) : List α := history.map quantity

end Observation
end Restock
