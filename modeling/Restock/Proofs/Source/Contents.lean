import Mathlib.Algebra.BigOperators.Group.List.Basic
import Restock.Proofs.Source.Loads

/-!
# What is read of the tables

No read shows an id, and none the order of the rows: in exact arithmetic tables whose rows are the same
up to ids and order answer every read alike (`Ledger.SameContents.source_eq`). Tables that hold the same
rows and the same stock entries, however those came in, are such tables (`Ledger.Holds.sameContents`).
-/

namespace Restock

/-! ## Lists in order -/

section
variable {α : Type}

/-- A movement without its id. -/
def Movement.unnumbered (m : Movement α) : Movement α := { m with id := 0 }

/-- A record without its id. -/
def StockRecord.unnumbered (r : StockRecord α) : StockRecord α := { r with id := 0 }

/-- Tables with the same rows, up to ids and order. -/
structure Ledger.SameContents (l l' : Ledger α) : Prop where
  movements : (l.movements.map Movement.unnumbered).Perm (l'.movements.map Movement.unnumbered)
  records : (l.records.map StockRecord.unnumbered).Perm (l'.records.map StockRecord.unnumbered)

/-- Tables with the same contents that also have their movements' ids in common, in order. -/
structure Ledger.Alike (l l' : Ledger α) : Prop where
  ids : l.movements.map Movement.id = l'.movements.map Movement.id
  contents : l.SameContents l'

theorem Ledger.Alike.symm {l l' : Ledger α} (h : l.Alike l') : l'.Alike l :=
  ⟨h.ids.symm, h.contents.movements.symm, h.contents.records.symm⟩

variable [Scalar α]

theorem map_unnumbered_of_storedAs {rows : List (MovementRow α)} {movements : List (Movement α)}
    (h : List.Forall₂ MovementRow.StoredAs rows movements) :
    (movements.map Movement.unnumbered).map some = rows.map (Ledger.movement? 0) := by
  induction h with
  | nil => rfl
  | cons first _ ih =>
      rw [List.map_cons, List.map_cons, List.map_cons, ih, Ledger.movement?_of_storedAs first]
      rfl

theorem map_unnumbered_of_ofEntry {entries : List (String × String × Option α)}
    {records : List (StockRecord α)} (h : List.Forall₂ StockRecord.OfEntry entries records) :
    records.map StockRecord.unnumbered
      = entries.map fun entry => ⟨0, entry.2.1, entry.1, Ledger.stored? entry.2.2⟩ := by
  induction h with
  | nil => rfl
  | cons first _ ih =>
      rw [List.map_cons, List.map_cons, ih, StockRecord.unnumbered, first.product, first.location,
        first.units]

end

/-! ## Reads -/

/-- What is read of rows without looking at their ids does not depend on the ids or on the order. -/
theorem map_filter_perm {β γ : Type} {erase : β → β} {p : β → Bool} {f : β → γ} {xs ys : List β}
    (h : (xs.map erase).Perm (ys.map erase)) (hp : ∀ x, p (erase x) = p x)
    (hf : ∀ x, f (erase x) = f x) : ((xs.filter p).map f).Perm ((ys.filter p).map f) := by
  have hp' : p ∘ erase = p := funext hp
  have hf' : f ∘ erase = f := funext hf
  have he (zs : List β) : ((zs.map erase).filter p).map f = (zs.filter p).map f := by
    rw [List.filter_map, List.map_map, hp', hf']
  rw [← he xs, ← he ys]
  exact (h.filter p).map f

namespace Ledger

section
variable {α : Type} {l l' : Ledger α}

theorem SameContents.unitsOf (h : l.SameContents l') (product location : String) :
    (l.unitsOf product location).Perm (l'.unitsOf product location) := by
  have hu (l : Ledger α) : l.unitsOf product location
      = ((l.records.filter fun r => r.product = product && r.location = location).map
          StockRecord.units).filterMap id := by
    rw [List.filterMap_map]
    rfl
  rw [hu, hu]
  exact (map_filter_perm h.records (fun _ => rfl) fun _ => rfl).filterMap id

theorem SameContents.stocked (h : l.SameContents l') (location : String) :
    (l.stocked location).Perm (l'.stocked location) :=
  map_filter_perm h.records (fun _ => rfl) fun _ => rfl

theorem SameContents.moved (h : l.SameContents l') (location : String) :
    (l.moved location).Perm (l'.moved location) :=
  map_filter_perm h.movements (fun _ => rfl) fun _ => rfl

theorem SameContents.demandRows [Scalar α] (h : l.SameContents l') (product location : String)
    (start : Day) :
    (l.demandRows product location start).Perm (l'.demandRows product location start) :=
  map_filter_perm h.movements (fun _ => rfl) fun _ => rfl

end

variable {l l' : Ledger ℝ}

theorem total_perm {xs ys : List ℝ} (h : xs.Perm ys) : total xs = total ys := by
  rw [total_real, total_real, h.sum_eq]

theorem SameContents.levels (h : l.SameContents l') (location : String) :
    l.levels location = l'.levels location := by
  rw [Ledger.levels, Ledger.levels,
    sortStrings_distinct_eq fun product => (h.stocked location).mem_iff]
  congr 1
  apply List.map_congr_left
  intro product _
  rw [total_perm (h.unitsOf product location)]

end Ledger

section
variable {α : Type} [Scalar α]

/-! ## Tables that cannot be told apart -/

namespace Ledger

theorem map_unnumbered_addRecords (records : List (StockRecord α))
    (entries : List (String × String × Option α)) :
    (addRecords records entries).map StockRecord.unnumbered
      = records.map StockRecord.unnumbered
        ++ entries.map fun entry => ⟨0, entry.2.1, entry.1, stored? entry.2.2⟩ := by
  obtain ⟨added, he, hf⟩ := exists_addRecords records entries
  rw [he, List.map_append, map_unnumbered_of_ofEntry hf]

theorem Alike.plus {l l' : Ledger α} (h : l.Alike l') (added : List (Movement α))
    (entries : List (String × String × Option α)) :
    (l.plus added entries).Alike (l'.plus added entries) := by
  refine ⟨?_, ?_, ?_⟩
  · rw [Ledger.plus, Ledger.plus, List.map_append, List.map_append, h.ids]
  · rw [Ledger.plus, Ledger.plus, List.map_append, List.map_append]
    exact h.contents.movements.append_right _
  · rw [Ledger.plus, Ledger.plus, map_unnumbered_addRecords, map_unnumbered_addRecords]
    exact h.contents.records.append_right _

/-- Alike tables take the same loads, and stay alike. -/
theorem Alike.adds {l l' next : Ledger α} (h : l.Alike l') {rows : List (MovementRow α)}
    {entries : List (String × String × Option α)} (ha : l.Adds rows entries next) :
    ∃ next', l'.Adds rows entries next' ∧ next.Alike next' := by
  obtain ⟨hu, added, ht, rfl⟩ := ha
  rw [h.ids] at ht
  exact ⟨l'.plus added entries, ⟨hu, added, ht, rfl⟩, h.plus added entries⟩

/-- Rows that bring no ids can be added in any order. -/
theorem Adds.reordered {l next : Ledger α} {rows rows' : List (MovementRow α)}
    {entries entries' : List (String × String × Option α)} (ha : l.Adds rows entries next)
    (hn : (l.movements.map Movement.id).Nodup) (hids : ∀ row ∈ rows, row.id = none)
    (hr : rows.Perm rows') (he : entries.Perm entries') :
    ∃ next', l.Adds rows' entries' next' ∧ next.Alike next' := by
  obtain ⟨hu, added, ht, rfl⟩ := ha
  have hids' : ∀ row ∈ rows', row.id = none := fun row h => hids row (hr.mem_iff.2 h)
  have htaken := takenIds_eq (l.movements.map Movement.id) hids hids' hr.length_eq
  obtain ⟨hc, hf, hd⟩ := (exists_takes_iff hn).1 ⟨added, ht⟩
  rw [htaken] at hf hd
  obtain ⟨added', ht'⟩ := (exists_takes_iff hn).2
    ⟨fun row h => hc row (hr.mem_iff.2 h), hf, hd⟩
  refine ⟨l.plus added' entries', ⟨fun row h => hu row (hr.mem_iff.2 h), added', ht', rfl⟩, ?_, ?_, ?_⟩
  · rw [plus, plus, List.map_append, List.map_append, ht.map_id, ht'.map_id, htaken]
  · rw [plus, plus, List.map_append, List.map_append, List.perm_append_left_iff,
      ← List.map_perm_map_iff (Option.some_injective _), map_unnumbered_of_storedAs ht.columns,
      map_unnumbered_of_storedAs ht'.columns]
    exact hr.map _
  · rw [plus, plus, map_unnumbered_addRecords, map_unnumbered_addRecords]
    exact (he.map _).append_left _

end Ledger

end

end Restock
