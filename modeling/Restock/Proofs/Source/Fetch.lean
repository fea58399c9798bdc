import Restock.Session

/-!
# Fetched histories

What each kind of store answers when a history is fetched, once the first day of the history is
known, and which days the answer has: those of the stored demand from that day on.
-/

namespace Restock

variable {α : Type} [Scalar α] {today first : Day} {daysBack : Int} {product location : String}

/-! ## Answers -/

theorem MemoryStore.fetchHistory_eq (s : MemoryStore α)
    (h : historyStart? today daysBack = some first) :
    (s.source today).fetchHistory product location daysBack
      = .ok (since first (s.history product location)) := by
  show (inCalendar (historyStart? today daysBack) >>= fun start => _) = _
  rw [h]
  rfl

theorem Ledger.fetchHistory_eq (l : Ledger α) (h : historyStart? today daysBack = some first) :
    (l.source today).fetchHistory product location daysBack
      = Observation.ofPairs? (dailyTotals total (l.demandRows product location first)) := by
  show (inCalendar (historyStart? today daysBack) >>= fun start => _) = _
  rw [h]
  rfl

theorem DemandSource.fetchHistory_failing (h : historyStart? today daysBack = some first) :
    (DemandSource.failing today : DemandSource α).fetchHistory product location daysBack
      = .error (.sourceFailure (.history product location)) := by
  show (inCalendar (historyStart? today daysBack) >>= fun start => _) = _
  rw [h]
  rfl

/-- Whatever the store, no history starts outside the calendar. -/
theorem Store.fetchHistory_of_none (store : Store α) (h : historyStart? today daysBack = none) :
    (store.source today).fetchHistory product location daysBack = .error .calendar := by
  -- each kind of store looks for the first day before anything else
  have hstart (read : Day → Planned α (List (Observation α))) :
      inCalendar (historyStart? today daysBack) >>= read = .error .calendar := by
    rw [h]
    rfl
  match store with
  | .memory _ => exact hstart _
  | .database ⟨some _⟩ => exact hstart _
  | .database ⟨none⟩ => exact hstart _

/-! ## Days -/

/-- The days on which the tables hold demand of a product at a location. -/
def Ledger.demandDays (l : Ledger α) (product location : String) : List Day :=
  (l.movements.filter fun m =>
    m.product = product && m.location = location && m.kind.isDemand).map Movement.day

/-- The days on which a store holds demand of a product at a location. -/
def Store.demandDays : Store α → String → String → List Day
  | .memory s, product, location => (s.history product location).map Observation.day
  | .database ⟨some l⟩, product, location => l.demandDays product location
  | .database ⟨none⟩, _, _ => []

theorem MemoryStore.mem_days_since {history : List (Observation α)} {day : Day} :
    day ∈ (since first history).map Observation.day
      ↔ day ∈ history.map Observation.day ∧ first ≤ day := by
  simp only [since, List.mem_map, List.mem_filter, decide_eq_true_eq]
  constructor
  · rintro ⟨o, ⟨ho, hs⟩, rfl⟩
    exact ⟨⟨o, ho, rfl⟩, hs⟩
  · rintro ⟨⟨o, ho, rfl⟩, hs⟩
    exact ⟨o, ⟨ho, hs⟩, rfl⟩

/-- A part of a history is in whatever order the history is. -/
theorem MemoryStore.pairwise_days_since {R : Day → Day → Prop} {history : List (Observation α)}
    (h : (history.map Observation.day).Pairwise R) (first : Day) :
    ((since first history).map Observation.day).Pairwise R :=
  h.sublist (List.filter_sublist.map Observation.day)

theorem Ledger.mem_days_demandRows {l : Ledger α} {day : Day} :
    day ∈ (l.demandRows product location first).map Prod.fst
      ↔ day ∈ l.demandDays product location ∧ first ≤ day := by
  simp only [demandRows, demandDays, List.map_map, List.mem_map, List.mem_filter, Bool.and_eq_true,
    decide_eq_true_eq, Function.comp_apply]
  constructor
  · rintro ⟨m, ⟨hm, hk, hs⟩, rfl⟩
    exact ⟨⟨m, ⟨hm, hk⟩, rfl⟩, hs⟩
  · rintro ⟨⟨m, ⟨hm, hk⟩, rfl⟩, hs⟩
    exact ⟨m, ⟨hm, hk, hs⟩, rfl⟩

/-- A history has the days of the demand that a store holds from the first day of the history on. -/
theorem Store.mem_days_fetchHistory {store : Store α} {fetched : List (Observation α)} {day : Day}
    (hs : historyStart? today daysBack = some first)
    (h : (store.source today).fetchHistory product location daysBack = .ok fetched) :
    day ∈ fetched.map Observation.day
      ↔ day ∈ store.demandDays product location ∧ first ≤ day := by
  match store with
  | .memory s =>
      have hf := (s.fetchHistory_eq hs).symm.trans h
      cases hf
      exact MemoryStore.mem_days_since
  | .database ⟨some l⟩ =>
      have hf := (l.fetchHistory_eq hs).symm.trans h
      have hd : fetched.map Observation.day
          = ascending ((l.demandRows product location first).map Prod.fst) := by
        have := congrArg (List.map Prod.fst) (Observation.rows_ofPairs? hf)
        simpa [Observation.rows, dailyTotals, Function.comp_def] using this
      rw [hd, mem_ascending]
      exact Ledger.mem_days_demandRows
  | .database ⟨none⟩ =>
      have hf := (DemandSource.fetchHistory_failing hs).symm.trans h
      cases hf

end Restock
