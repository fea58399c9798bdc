import Restock.Proofs.Source.Contents
import Restock.Session

/-!
# Loads among other requests

A session over a database answers loads and reads in any order. Whatever it was asked, its tables hold
the rows of the loads that were stored, under distinct ids; a load is stored as a whole or leaves the
session as it is, and a read always does (`Session.accountsForLoads`). What is read depends on the stored
rows alone, not on how the loads were cut up or in which order they came.
-/

namespace Restock

variable {α : Type} [Scalar α]

namespace Session

/-! ## Runs -/

/-- The load of a request, if the session stores it. -/
def storedBy (s : Session α) (request : Request α) : List (Load α) :=
  match request, (s.respond request).2 with
  | .load load, .stored _ => [load]
  | _, _ => []

/-- The loads of some requests that are stored when a session answers one request after the other. -/
def storedLoads (s : Session α) : List (Request α) → List (Load α)
  | [] => []
  | request :: requests => s.storedBy request ++ (s.respond request).1.storedLoads requests

/-- A session over tables that were just created. -/
def overNewTables (settings : Settings α) (now : Instant) : Session α :=
  ⟨.database .created, settings, now⟩

/-- A session over tables that hold the rows of certain loads, under distinct ids. -/
structure Holds (s : Session α) (loads : List (Load α)) (l : Ledger α) : Prop where
  store : s.store = .database ⟨some l⟩
  rows : l.Holds (loads.flatMap Load.rows) (loads.flatMap Load.entries)
  ids : l.DistinctIds

theorem holds_overNewTables (settings : Settings α) (now : Instant) :
    (overNewTables settings now).Holds [] .empty :=
  ⟨rfl, .empty, .empty⟩

/-! ## Loads -/

theorem load_eq (s : Session α) {d : Database α} (hs : s.store = .database d) (load : Load α) :
    s.load load = (d.load load).map fun d' => { s with store := .database d' } := by
  rw [Session.load, hs]
  cases hd : d.load load <;> simp [hd, Except.map]

/-- Stores one load after the other, as long as none fails. -/
def loadAll (s : Session α) (loads : List (Load α)) : Except LoadError (Session α) :=
  loads.foldlM load s

theorem loadAll_eq (s : Session α) {d : Database α} (hs : s.store = .database d)
    (loads : List (Load α)) :
    s.loadAll loads = (d.loadAll loads).map fun d' => { s with store := .database d' } := by
  induction loads generalizing s d with
  | nil =>
      obtain ⟨store, settings, now⟩ := s
      cases hs
      rfl
  | cons load loads ih =>
      rw [loadAll, Database.loadAll, List.foldlM_cons, List.foldlM_cons, load_eq s hs]
      cases hd : d.load load with
      | error e => rfl
      | ok d' => exact ih { s with store := .database d' } rfl

theorem load_eq_ok_iff {s next : Session α} {l : Ledger α} (hs : s.store = .database ⟨some l⟩)
    {load : Load α} : s.load load = .ok next
      ↔ ∃ l', l.Adds load.rows load.entries l' ∧ next = { s with store := .database ⟨some l'⟩ } := by
  rw [load_eq s hs, Planned.map_eq_ok]
  constructor
  · rintro ⟨d, hd, rfl⟩
    obtain ⟨l', ha, rfl⟩ := Database.load_eq_ok_iff.1 hd
    exact ⟨l', ha, rfl⟩
  · rintro ⟨l', ha, rfl⟩
    exact ⟨_, Database.load_eq_ok_iff.2 ⟨l', ha, rfl⟩, rfl⟩

theorem loadAll_eq_ok_iff {s next : Session α} {l : Ledger α} (hs : s.store = .database ⟨some l⟩)
    {loads : List (Load α)} : s.loadAll loads = .ok next
      ↔ ∃ l', l.Adds (loads.flatMap Load.rows) (loads.flatMap Load.entries) l'
          ∧ next = { s with store := .database ⟨some l'⟩ } := by
  rw [loadAll_eq s hs, Planned.map_eq_ok]
  constructor
  · rintro ⟨d, hd, rfl⟩
    obtain ⟨l', ha, rfl⟩ := Database.loadAll_eq_ok_iff.1 hd
    exact ⟨l', ha, rfl⟩
  · rintro ⟨l', ha, rfl⟩
    exact ⟨_, Database.loadAll_eq_ok_iff.2 ⟨l', ha, rfl⟩, rfl⟩

/-! ## Replies to loads -/

theorem respond_load_of_ok {s next : Session α} {load : Load α} (h : s.load load = .ok next) :
    s.respond (.load load) = (next, .stored (load.rows.length + load.entries.length)) := by
  simp only [respond, h, Load.size]

theorem respond_load_of_error {s : Session α} {load : Load α} {e : LoadError}
    (h : s.load load = .error e) : s.respond (.load load) = (s, .refused e) := by
  simp only [respond, h]

theorem storedBy_of_ok {s next : Session α} {load : Load α} (h : s.load load = .ok next) :
    s.storedBy (.load load) = [load] := by
  simp only [storedBy, respond_load_of_ok h]

theorem storedBy_of_error {s : Session α} {load : Load α} {e : LoadError}
    (h : s.load load = .error e) : s.storedBy (.load load) = [] := by
  simp only [storedBy, respond_load_of_error h]

/-! ## What a run keeps -/

variable {s : Session α} {loads : List (Load α)} {l : Ledger α}

theorem Holds.adds (h : s.Holds loads l) {load : Load α} {next : Session α}
    (hl : s.load load = .ok next) : ∃ l', next.Holds (loads ++ [load]) l' := by
  obtain ⟨l', ha, rfl⟩ := (load_eq_ok_iff h.store).1 hl
  refine ⟨l', rfl, ?_, h.ids.adds ha⟩
  rw [List.flatMap_append, List.flatMap_append, List.flatMap_singleton, List.flatMap_singleton]
  exact h.rows.adds ha

/-- One request adds the load that it stores, if any. -/
theorem Holds.respond (h : s.Holds loads l) (request : Request α) :
    ∃ l', (s.respond request).1.Holds (loads ++ s.storedBy request) l' := by
  -- a request that is no load leaves the tables alone
  have hother (hs : (s.respond request).1.store = s.store) (hn : s.storedBy request = []) :
      ∃ l', (s.respond request).1.Holds (loads ++ s.storedBy request) l' := by
    rw [hn, List.append_nil]
    exact ⟨l, hs.trans h.store, h.rows, h.ids⟩
  cases request with
  | setClock now => exact hother rfl rfl
  | read query => exact hother rfl rfl
  | load load =>
      cases hl : s.load load with
      | ok next =>
          rw [storedBy_of_ok hl, respond_load_of_ok hl]
          exact h.adds hl
      | error e =>
          rw [storedBy_of_error hl, respond_load_of_error hl, List.append_nil]
          exact ⟨l, h⟩

/-- **After any requests** the tables hold the loads that were stored. -/
theorem Holds.after (h : s.Holds loads l) (requests : List (Request α)) :
    ∃ l', (s.after requests).Holds (loads ++ s.storedLoads requests) l' := by
  induction requests generalizing s loads l with
  | nil =>
      refine ⟨l, ?_⟩
      rw [storedLoads, List.append_nil]
      exact h
  | cons request requests ih =>
      obtain ⟨l', h'⟩ := h.respond request
      rw [storedLoads, ← List.append_assoc]
      exact ih h'

/-! ## Batches -/

/-- Sessions at one moment, over tables that cannot be told apart. -/
structure Alike (s s' : Session α) : Prop where
  now : s.now = s'.now
  tables : ∃ l l', s.store = .database ⟨some l⟩ ∧ s'.store = .database ⟨some l'⟩ ∧ l.Alike l'

theorem Alike.symm {s s' : Session α} (h : s.Alike s') : s'.Alike s := by
  obtain ⟨l, l', hs, hs', hl⟩ := h.tables
  exact ⟨h.now.symm, l', l, hs', hs, hl.symm⟩

theorem Alike.load {s s' next : Session α} (h : s.Alike s') {load : Load α}
    (hl : s.load load = .ok next) : ∃ next', s'.load load = .ok next' ∧ next.Alike next' := by
  obtain ⟨l, l', hs, hs', hlike⟩ := h.tables
  obtain ⟨m, ha, rfl⟩ := (load_eq_ok_iff hs).1 hl
  obtain ⟨m', ha', hm⟩ := hlike.adds ha
  exact ⟨_, (load_eq_ok_iff hs').2 ⟨m', ha', rfl⟩, h.now, m, m', rfl, rfl, hm⟩

theorem Alike.respond {s s' : Session α} (h : s.Alike s') (request : Request α) :
    (s.respond request).1.Alike (s'.respond request).1 := by
  cases request with
  | setClock now => exact ⟨rfl, h.tables⟩
  | read query => exact h
  | load load =>
      cases hl : s.load load with
      | ok next =>
          obtain ⟨next', hl', hnext⟩ := h.load hl
          rw [respond_load_of_ok hl, respond_load_of_ok hl']
          exact hnext
      | error e =>
          cases hl' : s'.load load with
          | ok next' =>
              obtain ⟨next, hl'', _⟩ := h.symm.load hl'
              cases hl.symm.trans hl''
          | error e' =>
              rw [respond_load_of_error hl, respond_load_of_error hl']
              exact h

theorem Alike.after {s s' : Session α} (h : s.Alike s') (requests : List (Request α)) :
    (s.after requests).Alike (s'.after requests) := by
  induction requests generalizing s s' with
  | nil => exact h
  | cons request requests ih => exact ih (h.respond request)

end Session

end Restock
