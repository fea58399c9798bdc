import Restock.Proofs.Demand.DailySums
import Restock.Proofs.Source.Loads
import Restock.Source.Memory

/-!
# Demand, row by row

The demand that is handed to a store, whatever its kind: so many units of a product at a location on
a day. A database takes each row as a movement, a store in memory as an entry of the history of its
product and location. Either way the rows can be read back: from the tables in the order of the
movements (`Ledger.demandRows_eq`), from memory in the order of the days
(`MemoryStore.exists_ofRows?`).
-/

namespace Restock

open Observation

/-- Demand that is yet to be stored. -/
structure DemandRow where
  product : String
  location : String
  day : Day
  quantity : ℝ

namespace DemandRow

/-- The days and quantities of a product at a location. -/
def pairsOf (rows : List DemandRow) (product location : String) : List (Day × ℝ) :=
  (rows.filter fun r => r.product = product && r.location = location).map fun r =>
    (r.day, r.quantity)

/-- A movement that takes the demand of a row away: of any kind that counts as demand, and with the
quantity counted either way. -/
structure MovedBy (r : DemandRow) (row : MovementRow ℝ) : Prop where
  product : row.product = some r.product
  location : row.location = some r.location
  kind : ∃ kind, row.kind = some kind ∧ kind.isDemand = true
  quantity : row.quantity = some r.quantity ∨ row.quantity = some (-r.quantity)
  day : row.day = some r.day

/-- Histories that hold certain rows and no others, each under its product and location. -/
def HeldBy (rows : List DemandRow) (histories : Table (String × String) (List (Day × ℝ))) : Prop :=
  ∀ product location,
    ((histories.get? (product, location)).getD []).Perm (pairsOf rows product location)

theorem pairsOf_perm {xs ys : List DemandRow} (h : xs.Perm ys) (product location : String) :
    (pairsOf xs product location).Perm (pairsOf ys product location) :=
  (h.filter _).map _

theorem nonneg_of_mem_pairsOf {rows : List DemandRow} (hq : ∀ r ∈ rows, 0 ≤ r.quantity)
    {product location : String} {pair : Day × ℝ} (h : pair ∈ pairsOf rows product location) :
    0 ≤ pair.2 := by
  obtain ⟨r, hr, rfl⟩ := List.mem_map.1 h
  exact hq r (List.mem_filter.1 hr).1

/-- Rows without a repetition of product, location and day give each product and location a history
without repeated days. -/
theorem nodup_days_pairsOf {rows : List DemandRow}
    (h : (rows.map fun r => (r.product, r.location, r.day)).Nodup) (product location : String) :
    ((pairsOf rows product location).map Prod.fst).Nodup := by
  have hs := ((List.filter_sublist (l := rows)
    (p := fun r => r.product = product && r.location = location)).map
      fun r => (r.product, r.location, r.day)).nodup h
  -- among the rows of one product and location only the days can differ
  have he : (rows.filter fun r => r.product = product && r.location = location).map
        (fun r => (r.product, r.location, r.day))
      = ((pairsOf rows product location).map Prod.fst).map fun day => (product, location, day) := by
    rw [pairsOf, List.map_map, List.map_map]
    apply List.map_congr_left
    intro r hr
    have hk := (List.mem_filter.1 hr).2
    rw [Bool.and_eq_true, decide_eq_true_eq, decide_eq_true_eq] at hk
    simp [hk.1, hk.2]
  rw [he] at hs
  exact hs.of_map _

end DemandRow

/-! ## From the tables -/

/-- Whether a row is of a kind that counts as demand. -/
def MovementRow.isDemand (row : MovementRow ℝ) : Bool := row.kind.any MovementKind.isDemand

/-- The demand of a movement. -/
noncomputable def Movement.demand (m : Movement ℝ) : DemandRow :=
  ⟨m.product, m.location, m.day, |m.quantity|⟩

theorem Movement.demand_eq {r : DemandRow} {row : MovementRow ℝ} {m : Movement ℝ}
    (hq : 0 ≤ r.quantity) (hm : r.MovedBy row) (hs : row.StoredAs m) : m.demand = r := by
  have hp : m.product = r.product := Option.some.inj (hs.product.symm.trans hm.product)
  have hl : m.location = r.location := Option.some.inj (hs.location.symm.trans hm.location)
  have hd : m.day = r.day := Option.some.inj (hs.day.symm.trans hm.day)
  have ha : |m.quantity| = r.quantity := by
    have hst := hs.quantity
    rw [Ledger.stored?_real] at hst
    rcases hm.quantity with h | h
    · rw [Option.some.inj (hst.symm.trans h)]
      exact abs_of_nonneg hq
    · rw [Option.some.inj (hst.symm.trans h), abs_neg]
      exact abs_of_nonneg hq
  rw [demand, hp, hl, hd, ha]

namespace Ledger

/-- The demand of the stored movements is that of the rows which are demand, in their order. -/
theorem map_demand_eq {rows : List (MovementRow ℝ)} {movements : List (Movement ℝ)}
    {moved : List DemandRow} (hq : ∀ r ∈ moved, 0 ≤ r.quantity)
    (hs : List.Forall₂ MovementRow.StoredAs rows movements)
    (hm : List.Forall₂ DemandRow.MovedBy moved (rows.filter MovementRow.isDemand)) :
    (movements.filter fun m => m.kind.isDemand).map Movement.demand = moved := by
  induction hs generalizing moved with
  | nil =>
      cases hm
      rfl
  | @cons row m rows movements hs _ ih =>
      have hk : row.isDemand = m.kind.isDemand := by
        simp [MovementRow.isDemand, hs.kind]
      rw [List.filter_cons, hk] at hm
      rw [List.filter_cons]
      -- row and movement are both demand, and the next row of demand is theirs, or neither is
      split at hm
      · next hd =>
          rw [if_pos hd]
          cases hm with
          | @cons r _ moved _ hr hm =>
              rw [List.map_cons, ih (fun x hx => hq x (List.mem_cons_of_mem _ hx)) hm,
                Movement.demand_eq (hq r List.mem_cons_self) hr hs]
      · next hd =>
          rw [if_neg hd]
          exact ih hq hm

theorem demandRows_eq {l : Ledger ℝ} {rows : List (MovementRow ℝ)}
    {entries : List (String × String × Option ℝ)} (hl : l.Holds rows entries)
    {moved : List DemandRow} (hq : ∀ r ∈ moved, 0 ≤ r.quantity)
    (hm : List.Forall₂ DemandRow.MovedBy moved (rows.filter MovementRow.isDemand))
    (product location : String) (start : Day) :
    l.demandRows product location start
      = (DemandRow.pairsOf moved product location).filter fun pair => start ≤ pair.1 := by
  rw [← map_demand_eq hq hl.movements hm]
  simp only [demandRows, DemandRow.pairsOf, List.filter_map, List.filter_filter, List.map_map]
  refine (congrArg (List.map _) (List.filter_congr ?_)).trans (List.map_congr_left ?_)
  · intro m _
    exact Bool.and_comm _ _
  · intro m _
    show (m.day, Scalar.abs m.quantity) = (m.day, |m.quantity|)
    rw [Scalar.abs_real]

end Ledger

/-! ## From memory -/

namespace MemoryStore

section
variable {α : Type} [Scalar α]

theorem rows_sortByDay_perm (history : List (Observation α)) :
    (rows (sortByDay history)).Perm (rows history) :=
  (List.mergeSort_perm history _).map _

theorem not_after_trans (a b c : Observation α) (hab : decide (a.day ≤ b.day) = true)
    (hbc : decide (b.day ≤ c.day) = true) : decide (a.day ≤ c.day) = true := by
  rw [decide_eq_true_eq] at *
  exact Day.le_trans hab hbc

theorem not_after_total (a b : Observation α) :
    (decide (a.day ≤ b.day) || decide (b.day ≤ a.day)) = true := by
  simp only [Bool.or_eq_true, decide_eq_true_eq, Day.le_iff]
  omega

theorem pairwise_sortByDay (history : List (Observation α)) :
    ((sortByDay history).map Observation.day).Pairwise (· ≤ ·) := by
  have h : (sortByDay history).Pairwise fun a b => decide (a.day ≤ b.day) = true :=
    List.pairwise_mergeSort not_after_trans not_after_total history
  exact List.pairwise_map.2 (h.imp of_decide_eq_true)

theorem rows_since (first : Day) (history : List (Observation α)) :
    rows (since first history) = (rows history).filter fun pair => first ≤ pair.1 := by
  simp [rows, since, List.filter_map, Function.comp_def]

/-- Observing keeps the keys and the rows. -/
theorem rows_observeAll {entries : List ((String × String) × List (Day × α))}
    {observed : List ((String × String) × List (Observation α))}
    (h : observeAll entries = .ok observed) :
    observed.map (fun entry => (entry.1, rows entry.2)) = entries := by
  induction entries generalizing observed with
  | nil =>
      cases h
      rfl
  | cons entry entries ih =>
      rw [observeAll, List.mapM_cons] at h
      obtain ⟨first, hf, h⟩ := Planned.bind_eq_ok.1 h
      obtain ⟨rest, hr, h⟩ := Planned.bind_eq_ok.1 h
      obtain ⟨history, hh, hf⟩ := Planned.bind_eq_ok.1 hf
      cases h
      cases hf
      rw [List.map_cons, ih hr, rows_ofPairs? hh]

/-- A store keeps the rows of each product and location as they were given, but for their order. -/
theorem history_of_ofRows? {histories : Table (String × String) (List (Day × α))}
    {stock : StockMap α} {memory : MemoryStore α} (h : ofRows? histories stock = .ok memory)
    (product location : String) :
    ∃ given, rows given = (histories.get? (product, location)).getD []
      ∧ memory.history product location = sortByDay given := by
  obtain ⟨observed, ho, h⟩ := Planned.bind_eq_ok.1 h
  cases h
  have he := rows_observeAll ho
  have hn : (observed.map Prod.fst).Nodup := by
    have := histories.nodup
    rw [← he, List.map_map] at this
    exact this
  -- observing keeps keys and rows, so the histories are those of a table of observations
  let t : Table (String × String) (List (Observation α)) := ⟨observed, hn⟩
  have ht : histories = t.mapValues rows := by
    obtain ⟨entries, _⟩ := histories
    subst he
    rfl
  refine ⟨(t.get? (product, location)).getD [], ?_, ?_⟩
  · rw [ht, Table.get?_mapValues]
    cases t.get? (product, location) <;> rfl
  · show (((Table.ofList observed).mapValues sortByDay).get? (product, location)).getD [] = _
    rw [Table.get?_mapValues, Table.get?_ofList hn]
    show (Option.map sortByDay (t.get? (product, location))).getD [] = _
    cases t.get? (product, location) with
    | none => exact List.mergeSort_nil.symm
    | some history => rfl

end

theorem exists_observeAll {entries : List ((String × String) × List (Day × ℝ))}
    (hq : ∀ entry ∈ entries, ∀ pair ∈ entry.2, 0 ≤ pair.2) :
    ∃ observed, observeAll entries = .ok observed := by
  induction entries with
  | nil => exact ⟨[], rfl⟩
  | cons entry entries ih =>
      obtain ⟨observed, ho⟩ := ih fun x hx => hq x (List.mem_cons_of_mem _ hx)
      obtain ⟨history, hh⟩ := Observation.exists_ofPairs? (hq entry List.mem_cons_self)
      refine ⟨(entry.1, history) :: observed, ?_⟩
      rw [observeAll, List.mapM_cons, ← observeAll, ho]
      show (ofPairs? entry.2 >>= fun history => .ok (entry.1, history)) >>= _ = _
      rw [hh]
      rfl

/-- Histories without a negative quantity can be kept in memory, each in the order of its days. -/
theorem exists_ofRows? {histories : Table (String × String) (List (Day × ℝ))}
    (hq : ∀ entry ∈ histories.entries, ∀ pair ∈ entry.2, 0 ≤ pair.2) (stock : StockMap ℝ) :
    ∃ memory, ofRows? histories stock = .ok memory ∧ memory.stock = stock
      ∧ ∀ product location,
        (rows (memory.history product location)).Perm
            ((histories.get? (product, location)).getD [])
          ∧ ((memory.history product location).map Observation.day).Pairwise (· ≤ ·) := by
  obtain ⟨observed, ho⟩ := exists_observeAll hq
  have hmade : ofRows? histories stock = .ok (ofObservations (.ofList observed) stock) := by
    rw [ofRows?, ho]
    rfl
  refine ⟨_, hmade, rfl, ?_⟩
  intro product location
  obtain ⟨given, hg, hh⟩ := history_of_ofRows? hmade product location
  rw [← hg, hh]
  exact ⟨rows_sortByDay_perm given, pairwise_sortByDay given⟩

end MemoryStore

end Restock
