import Restock.Proofs.Source.Tables

/-!
# Batches

The rows of a batch take their ids one after the other (`Ledger.takenIds`). A batch is stored exactly
when no row has a column that movements have not, every row has those that movements need, and the ids
are in range and new to the table (`Ledger.exists_loadMovements_iff`). One bad row is enough, wherever
it stands, to have the whole batch refused (`Ledger.Faulty.refused`).
-/

namespace Restock

variable {α : Type}

/-! ## The ids that rows take -/

theorem nodup_append_singleton {id : Int} {ids : List Int} :
    (ids ++ [id]).Nodup ↔ id ∉ ids ∧ ids.Nodup := by
  rw [← List.concat_eq_append, List.nodup_concat]

namespace Ledger

/-- The ids that rows take one after the other, in a table with certain ids. -/
def takenIds (ids : List Int) : List (MovementRow α) → List Int
  | [] => []
  | row :: rows =>
      let id := row.id.getD (nextId ids)
      id :: takenIds (ids ++ [id]) rows

/-- Rows that bring no ids take ids by their number alone. -/
theorem takenIds_eq (ids : List Int) {rows rows' : List (MovementRow α)}
    (h : ∀ row ∈ rows, row.id = none) (h' : ∀ row ∈ rows', row.id = none)
    (hl : rows.length = rows'.length) : takenIds ids rows = takenIds ids rows' := by
  induction rows generalizing ids rows' with
  | nil =>
      rw [List.eq_nil_of_length_eq_zero hl.symm]
  | cons row rows ih =>
      cases rows' with
      | nil => cases hl
      | cons row' rows' =>
          rw [List.forall_mem_cons] at h h'
          rw [List.length_cons, List.length_cons, Nat.add_right_cancel_iff] at hl
          simp only [takenIds, h.1, h'.1]
          rw [ih _ h.2 h'.2 hl]

theorem nextId_bounds {ids : List Int} (h : ∀ id ∈ ids, 1 ≤ id ∧ id ≤ ids.length)
    (hl : (ids.length : Int) < lastId) : 1 ≤ nextId ids ∧ nextId ids ≤ ids.length + 1 := by
  rcases nextId_eq ids with he | ⟨id, hm, he⟩ | ⟨id, hm, he⟩
  · omega
  · have := h id hm
    omega
  · have := h id hm
    omega

/-- In a table that numbers its rows from 1, rows that bring no ids go on with the numbers. -/
theorem takenIds_of_numbered {ids : List Int} (h : ∀ id ∈ ids, 1 ≤ id ∧ id ≤ ids.length)
    (hn : ids.Nodup) {rows : List (MovementRow α)} (hr : ∀ row ∈ rows, row.id = none)
    (hl : (ids.length + rows.length : Int) ≤ lastId) :
    (∀ id ∈ takenIds ids rows, idFits id = true) ∧ (ids ++ takenIds ids rows).Nodup := by
  induction rows generalizing ids with
  | nil =>
      rw [takenIds, List.append_nil]
      exact ⟨fun _ h => absurd h List.not_mem_nil, hn⟩
  | cons row rows ih =>
      rw [List.forall_mem_cons] at hr
      rw [List.length_cons] at hl
      have hb := nextId_bounds h (by omega)
      have hnext : ∀ id ∈ ids ++ [nextId ids], 1 ≤ id ∧ id ≤ (ids ++ [nextId ids]).length := by
        intro id hid
        rw [List.length_append, List.length_singleton]
        rcases List.mem_append.1 hid with hid | hid
        · have := h id hid
          omega
        · rw [List.mem_singleton.1 hid]
          exact ⟨hb.1, by simpa using hb.2⟩
      have hfits : idFits (nextId ids) = true := by
        rw [idFits, decide_eq_true_eq]
        simp only [lastId] at *
        omega
      obtain ⟨hf, hd⟩ := ih hnext (nodup_append_singleton.2 ⟨nextId_not_mem ids, hn⟩) hr.2
        (by rw [List.length_append, List.length_singleton]; omega)
      simp only [takenIds, hr.1, Option.getD_none]
      rw [List.append_assoc, List.singleton_append] at hd
      exact ⟨List.forall_mem_cons.2 ⟨hfits, hf⟩, hd⟩

/-- Ids that rows bring are among those that they take. -/
theorem filterMap_id_sublist (ids : List Int) (rows : List (MovementRow α)) :
    (rows.filterMap MovementRow.id).Sublist (takenIds ids rows) := by
  induction rows generalizing ids with
  | nil => exact .slnil
  | cons row rows ih =>
      cases hid : row.id with
      | none =>
          rw [List.filterMap_cons_none hid]
          exact (ih _).cons _
      | some id =>
          rw [List.filterMap_cons_some hid]
          simp only [takenIds, hid, Option.getD_some]
          exact (ih _).cons_cons id

end Ledger

variable [Scalar α]

/-! ## Storing a batch -/

namespace Ledger

/-- A movement that a row becomes in a table with certain ids. -/
structure TakesRow (ids : List Int) (row : MovementRow α) (m : Movement α) : Prop where
  columns : row.StoredAs m
  id : m.id = row.id.getD (nextId ids)
  fits : idFits m.id = true
  new : m.id ∉ ids

/-- Movements that rows become one after the other, in a table with certain ids. -/
inductive Takes : List Int → List (MovementRow α) → List (Movement α) → Prop where
  | nil (ids : List Int) : Takes ids [] []
  | cons {ids : List Int} {row : MovementRow α} {m : Movement α} {rows : List (MovementRow α)}
      {added : List (Movement α)} (first : TakesRow ids row m)
      (rest : Takes (ids ++ [m.id]) rows added) : Takes ids (row :: rows) (m :: added)

theorem addMovement_eq_ok_iff {movements movements' : List (Movement α)} {row : MovementRow α} :
    addMovement movements row = .ok movements' ↔
      ∃ m, movements' = movements ++ [m] ∧ TakesRow (movements.map Movement.id) row m := by
  simp only [addMovement]
  constructor
  · intro h
    split at h
    · cases h
    · next hfits =>
        split at h
        · cases h
        · next m hm =>
            split at h
            · cases h
            · next hnew =>
                cases h
                have hid : ∀ i, row.id = some i
                    → row.id.getD (nextId (movements.map Movement.id)) = i := by
                  intro i hi
                  rw [hi]
                  rfl
                refine ⟨m, rfl, storedAs_of_movement? hid hm, id_of_movement? hm, ?_, ?_⟩
                · rw [id_of_movement? hm]
                  simpa using hfits
                · rw [id_of_movement? hm]
                  simpa using hnew
  · rintro ⟨m, rfl, h⟩
    have hnew : ((movements.map Movement.id).contains m.id) = false := by
      rw [Bool.eq_false_iff, ne_eq, List.contains_iff_mem]
      exact h.new
    rw [← h.id, h.fits, movement?_of_storedAs h.columns, hnew]
    rfl

/-- A batch becomes the movements that its rows become in turn. -/
theorem foldlM_addMovement_eq_ok_iff {rows : List (MovementRow α)}
    {movements movements' : List (Movement α)} :
    rows.foldlM addMovement movements = .ok movements' ↔
      ∃ added, movements' = movements ++ added ∧ Takes (movements.map Movement.id) rows added := by
  induction rows generalizing movements with
  | nil =>
      constructor
      · intro h
        cases h
        exact ⟨[], (List.append_nil _).symm, .nil _⟩
      · rintro ⟨added, rfl, h⟩
        cases h
        rw [List.append_nil]
        rfl
  | cons row rows ih =>
      rw [List.foldlM_cons, Planned.bind_eq_ok]
      constructor
      · rintro ⟨next, ha, h⟩
        obtain ⟨m, rfl, hm⟩ := addMovement_eq_ok_iff.1 ha
        obtain ⟨added, rfl, hr⟩ := ih.1 h
        rw [List.map_append] at hr
        refine ⟨m :: added, ?_, .cons hm hr⟩
        rw [List.append_assoc, List.singleton_append]
      · rintro ⟨added, rfl, h⟩
        cases h with
        | @cons _ _ m _ added first rest =>
            refine ⟨movements ++ [m], addMovement_eq_ok_iff.2 ⟨m, rfl, first⟩, ih.2 ⟨added, ?_, ?_⟩⟩
            · rw [List.append_assoc, List.singleton_append]
            · rw [List.map_append]
              exact rest

namespace Takes

variable {ids : List Int} {rows : List (MovementRow α)} {added : List (Movement α)}

theorem columns (h : Takes ids rows added) : List.Forall₂ MovementRow.StoredAs rows added := by
  induction h with
  | nil => exact .nil
  | cons first _ ih => exact .cons first.columns ih

theorem exists_columns (h : Takes ids rows added) : ∀ row ∈ rows, ∃ m, row.StoredAs m := by
  induction h with
  | nil => exact fun _ h => absurd h List.not_mem_nil
  | cons first _ ih => exact List.forall_mem_cons.2 ⟨⟨_, first.columns⟩, ih⟩

theorem map_id (h : Takes ids rows added) : added.map Movement.id = takenIds ids rows := by
  induction h with
  | nil => rfl
  | cons first _ ih =>
      rw [List.map_cons, ih]
      simp only [takenIds, first.id]

theorem fits (h : Takes ids rows added) : ∀ id ∈ added.map Movement.id, idFits id = true := by
  induction h with
  | nil => exact fun _ h => absurd h List.not_mem_nil
  | cons first _ ih =>
      rw [List.map_cons]
      exact List.forall_mem_cons.2 ⟨first.fits, ih⟩

/-- The ids that are taken are distinct, and new to the table. -/
theorem fresh (h : Takes ids rows added) :
    (added.map Movement.id).Nodup ∧ ∀ id ∈ added.map Movement.id, id ∉ ids := by
  induction h with
  | nil => exact ⟨List.nodup_nil, fun _ h => absurd h List.not_mem_nil⟩
  | cons first _ ih =>
      obtain ⟨hn, hnew⟩ := ih
      rw [List.map_cons, List.nodup_cons, List.forall_mem_cons]
      refine ⟨⟨fun hm => ?_, hn⟩, first.new, fun id hid hm => ?_⟩
      · exact hnew _ hm (List.mem_append_right _ (List.mem_singleton_self _))
      · exact hnew id hid (List.mem_append_left _ hm)

theorem nodup (h : Takes ids rows added) (hn : ids.Nodup) :
    (ids ++ added.map Movement.id).Nodup := by
  rw [List.nodup_append]
  refine ⟨hn, h.fresh.1, fun a ha b hb he => ?_⟩
  exact h.fresh.2 b hb (he ▸ ha)

end Takes

/-- Rows can be stored one after the other when all have their columns and the ids that they take are
in range and distinct from each other and from those of the table. -/
theorem exists_takes_iff {ids : List Int} (hn : ids.Nodup) {rows : List (MovementRow α)} :
    (∃ added, Takes ids rows added) ↔
      (∀ row ∈ rows, ∃ m, row.StoredAs m) ∧ (∀ id ∈ takenIds ids rows, idFits id = true)
        ∧ (ids ++ takenIds ids rows).Nodup := by
  constructor
  · rintro ⟨added, h⟩
    rw [← h.map_id]
    exact ⟨h.exists_columns, h.fits, h.nodup hn⟩
  · induction rows generalizing ids with
    | nil => exact fun _ => ⟨[], .nil ids⟩
    | cons row rows ih =>
        rintro ⟨hc, hf, hd⟩
        simp only [takenIds] at hf hd
        rw [List.forall_mem_cons] at hc hf
        rw [← List.singleton_append, ← List.append_assoc] at hd
        have hfirst := (List.nodup_append.1 hd).1
        obtain ⟨m, hm⟩ := hc.1
        obtain ⟨added, ha⟩ := ih hfirst ⟨hc.2, hf.2, hd⟩
        let id := row.id.getD (nextId ids)
        have hid : ∀ i, row.id = some i → id = i := by
          intro i hi
          simp only [id, hi, Option.getD_some]
        refine ⟨{ m with id } :: added, .cons ⟨?_, rfl, hf.1, ?_⟩ ha⟩
        · exact { hm with id := hid }
        · exact (nodup_append_singleton.1 hfirst).1

theorem loadMovements_eq_ok_iff {l l' : Ledger α} {rows : List (MovementRow α)} :
    l.loadMovements rows = .ok l' ↔
      (∀ row ∈ rows, row.hasUnknownColumn = false)
        ∧ ∃ added, Takes (l.movements.map Movement.id) rows added
          ∧ l' = { l with movements := l.movements ++ added } := by
  have hu : rows.any MovementRow.hasUnknownColumn = false
      ↔ ∀ row ∈ rows, row.hasUnknownColumn = false := by simp
  rw [← hu]
  cases hr : rows.any MovementRow.hasUnknownColumn with
  | true =>
      rw [loadMovements, if_pos hr]
      constructor
      · intro h
        cases h
      · rintro ⟨h, _⟩
        cases h
  | false =>
      rw [loadMovements, if_neg (Bool.eq_false_iff.1 hr), Planned.bind_eq_ok]
      constructor
      · rintro ⟨movements, hf, h⟩
        cases h
        obtain ⟨added, rfl, ha⟩ := foldlM_addMovement_eq_ok_iff.1 hf
        exact ⟨rfl, added, ha, rfl⟩
      · rintro ⟨_, added, ha, rfl⟩
        exact ⟨_, foldlM_addMovement_eq_ok_iff.2 ⟨added, rfl, ha⟩, rfl⟩

/-- A batch that brings a column no movement has, a row without a column that movements need, an id
that the table has, or an id twice. -/
inductive Faulty (ids : List Int) (rows : List (MovementRow α)) : Prop where
  | unknownColumn {row : MovementRow α} (mem : row ∈ rows) (unknown : row.hasUnknownColumn = true)
  | missingColumn {row : MovementRow α} (mem : row ∈ rows) (lacks : row.LacksColumn)
  | storedId {id : Int} (mem : id ∈ rows.filterMap MovementRow.id) (stored : id ∈ ids)
  | repeatedId (repeated : ¬ (rows.filterMap MovementRow.id).Nodup)

/-- Nothing of a faulty batch is stored. -/
theorem Faulty.refused {l : Ledger α} {rows : List (MovementRow α)}
    (h : Faulty (l.movements.map Movement.id) rows) : ∃ e, l.loadMovements rows = .error e := by
  cases hl : l.loadMovements rows with
  | error e => exact ⟨e, rfl⟩
  | ok l' =>
      obtain ⟨hu, added, ha, _⟩ := loadMovements_eq_ok_iff.1 hl
      have hids := ha.map_id ▸ filterMap_id_sublist (l.movements.map Movement.id) rows
      exfalso
      cases h with
      | unknownColumn mem unknown => cases (hu _ mem).symm.trans unknown
      | missingColumn mem lacks =>
          obtain ⟨m, hm⟩ := ha.exists_columns _ mem
          exact hm.not_lacksColumn lacks
      | storedId mem stored => exact ha.fresh.2 _ (hids.subset mem) stored
      | repeatedId repeated => exact repeated (ha.fresh.1.sublist hids)

end Ledger

end Restock
