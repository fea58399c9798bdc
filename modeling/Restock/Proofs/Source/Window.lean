import Restock.Proofs.Source.Agreement

/-!
# Windows of demand

Either kind of source keeps a history of each product and location in the order of its days and answers
with what lies in it from the first day asked for on (`DemandSource.Keeps`): memory the rows as they were
given (`MemoryStore.keeps`), tables a sum for each day (`Ledger.exists_keeps`). What is kept does not depend
on when or how far back one looks, and a part of it from a day on is an end of it
(`MemoryStore.since_suffix`).
-/

namespace Restock

open Observation

/-- From a day on, the values of a day are all there or all gone. -/
theorem valuesOn_filter {β : Type} (rows : List (Day × β)) (first day : Day) :
    valuesOn (rows.filter fun row => first ≤ row.1) day
      = if first ≤ day then valuesOn rows day else [] := by
  rw [valuesOn, valuesOn, List.filter_filter]
  split
  · next h =>
      congr 1
      refine List.filter_congr fun row _ => ?_
      by_cases hr : row.1 = day
      · simp [hr, h]
      · simp [hr]
  · next h =>
      rw [List.map_eq_nil_iff, List.filter_eq_nil_iff]
      intro row _ hr
      rw [Bool.and_eq_true, decide_eq_true_eq, decide_eq_true_eq] at hr
      exact h (hr.1 ▸ hr.2)

/-! ## Sources that keep a history -/

section
variable {α : Type} [Scalar α]

namespace MemoryStore

theorem since_since {first later : Day} (h : first ≤ later) (history : List (Observation α)) :
    since later (since first history) = since later history := by
  rw [since, since, List.filter_filter]
  refine List.filter_congr fun o _ => ?_
  by_cases ho : later ≤ o.day
  · simp [ho, Day.le_trans h ho]
  · simp [ho]

/-- In a history in the order of its days, what lies from a day on comes last. -/
theorem since_suffix {history : List (Observation α)}
    (h : (history.map Observation.day).Pairwise (· ≤ ·)) (first : Day) :
    since first history <:+ history := by
  induction history with
  | nil => exact List.suffix_rfl
  | cons o history ih =>
      rw [List.map_cons, List.pairwise_cons] at h
      by_cases ho : first ≤ o.day
      · have hall : since first (o :: history) = o :: history := by
          rw [since, List.filter_eq_self]
          intro x hx
          rcases List.mem_cons.1 hx with rfl | hx
          · exact decide_eq_true ho
          · exact decide_eq_true (Day.le_trans ho (h.1 _ (List.mem_map_of_mem hx)))
        rw [hall]
      · rw [since, List.filter_cons_of_neg (by simpa using ho)]
        exact (ih h.2).trans (List.suffix_cons o history)

end MemoryStore

open MemoryStore (since)

/-- A source, on whatever day it is asked, answers out of a history that it keeps in the order of the
days: with all of it from the first day that is asked for. -/
structure DemandSource.Keeps (source : Day → DemandSource α) (product location : String)
    (kept : List (Observation α)) : Prop where
  ordered : (kept.map Observation.day).Pairwise (· ≤ ·)
  fetched : ∀ {today first : Day} {daysBack : Int}, historyStart? today daysBack = some first →
    (source today).fetchHistory product location daysBack = .ok (since first kept)
  outside : ∀ {today : Day} {daysBack : Int}, historyStart? today daysBack = none →
    (source today).fetchHistory product location daysBack = .error .calendar

/-- Later by so many days, a history that goes back as many days more starts on the same day. -/
theorem historyStart?_shift {today later : Day} {k : Int} (h : today.shift? k = some later)
    (daysBack : Int) : historyStart? later (daysBack + k) = historyStart? today daysBack := by
  have hlater := Day.ordinal_of_shift? h
  show Day.ofOrdinal? (later.ordinal + -(daysBack + k)) = Day.ofOrdinal? (today.ordinal + -daysBack)
  congr 1
  omega

namespace DemandSource.Keeps
variable {source : Day → DemandSource α} {product location : String} {kept : List (Observation α)}
  (h : Keeps source product location kept)
include h

theorem eq_since {today : Day} {daysBack : Int} {fetched : List (Observation α)}
    (hf : (source today).fetchHistory product location daysBack = .ok fetched) :
    ∃ first, historyStart? today daysBack = some first ∧ fetched = since first kept := by
  cases hs : historyStart? today daysBack with
  | none => cases (h.outside hs).symm.trans hf
  | some first => exact ⟨first, rfl, (Except.ok.inj ((h.fetched hs).symm.trans hf)).symm⟩

theorem suffix {today : Day} {daysBack moreBack : Int} {fetched more : List (Observation α)}
    (hle : daysBack ≤ moreBack)
    (hf : (source today).fetchHistory product location daysBack = .ok fetched)
    (hm : (source today).fetchHistory product location moreBack = .ok more) :
    fetched <:+ more := by
  obtain ⟨later, hl, rfl⟩ := h.eq_since hf
  obtain ⟨first, hs, rfl⟩ := h.eq_since hm
  have hday : first ≤ later := by
    rw [Day.le_iff, historyStart?_eq_some_iff.1 hl, historyStart?_eq_some_iff.1 hs]
    omega
  rw [← MemoryStore.since_since hday]
  exact MemoryStore.since_suffix (MemoryStore.pairwise_days_since h.ordered first) later

theorem shifted {today later : Day} {k : Int} (hk : today.shift? k = some later) (daysBack : Int) :
    (source later).fetchHistory product location (daysBack + k)
      = (source today).fetchHistory product location daysBack := by
  have hstart := historyStart?_shift hk daysBack
  cases hs : historyStart? today daysBack with
  | none => rw [h.outside hs, h.outside (hstart.trans hs)]
  | some first => rw [h.fetched hs, h.fetched (hstart.trans hs)]

end DemandSource.Keeps

/-- A source, on whatever day it is asked for the demand of a product at a location, answers with what it
holds from the day on that is so many days before. Going back further puts days in front of an answer, and leaves the
answer where time has moved on by as much. -/
structure DemandSource.Windowed (source : Day → DemandSource α) (product location : String)
    (Holds : Day → List (Observation α) → Prop) : Prop where
  answers : ∀ {today first : Day} {daysBack : Int}, first.ordinal = today.ordinal - daysBack →
    ∃ fetched, (source today).fetchHistory product location daysBack = .ok fetched
      ∧ Holds first fetched
  suffix : ∀ {today : Day} {daysBack moreBack : Int} {fetched more : List (Observation α)},
    daysBack ≤ moreBack → (source today).fetchHistory product location daysBack = .ok fetched →
    (source today).fetchHistory product location moreBack = .ok more → fetched <:+ more
  shifted : ∀ {today later : Day} {k : Int}, later.ordinal = today.ordinal + k → ∀ daysBack,
    (source later).fetchHistory product location (daysBack + k)
      = (source today).fetchHistory product location daysBack

theorem DemandSource.Keeps.windowed {source : Day → DemandSource α} {product location : String}
    {kept : List (Observation α)} (h : Keeps source product location kept)
    {Holds : Day → List (Observation α) → Prop} (hk : ∀ first, Holds first (since first kept)) :
    Windowed source product location Holds where
  answers hs := ⟨_, h.fetched (historyStart?_eq_some_iff.2 hs), hk _⟩
  suffix := h.suffix
  shifted hlater := h.shifted (Day.shift?_eq_some_iff.2 hlater)

/-! ## In memory -/

namespace MemoryStore

/-- Observations of one day stay in the order in which they were given. -/
theorem filter_sortByDay (history : List (Observation α)) (day : Day) :
    (sortByDay history).filter (fun o => o.day = day) = history.filter fun o => o.day = day := by
  have hperm : ((sortByDay history).filter fun o => o.day = day).Perm
      (history.filter fun o => o.day = day) := (List.mergeSort_perm history _).filter _
  have hsame : (history.filter fun o => o.day = day).Pairwise
      fun a b => decide (a.day ≤ b.day) = true := by
    refine List.pairwise_of_forall_mem_list fun a ha b hb => ?_
    have ha := of_decide_eq_true (List.mem_filter.1 ha).2
    have hb := of_decide_eq_true (List.mem_filter.1 hb).2
    rw [ha, hb]
    exact decide_eq_true (Day.le_refl day)
  have hsub : (history.filter fun o => o.day = day).Sublist (sortByDay history) :=
    List.sublist_mergeSort not_after_trans not_after_total hsame List.filter_sublist
  have hsub := hsub.filter fun o => decide (o.day = day)
  rw [List.filter_filter] at hsub
  simp only [Bool.and_self] at hsub
  exact (hsub.eq_of_length hperm.length_eq.symm).symm

theorem valuesOn_since (first : Day) (history : List (Observation α)) (day : Day) :
    valuesOn (rows (since first history)) day
      = if first ≤ day then valuesOn (rows history) day else [] := by
  rw [rows_since, valuesOn_filter]

theorem valuesOn_sortByDay (history : List (Observation α)) (day : Day) :
    valuesOn (rows (sortByDay history)) day = valuesOn (rows history) day := by
  have hrows (history : List (Observation α)) :
      valuesOn (rows history) day = (history.filter fun o => o.day = day).map quantity := by
    rw [valuesOn, rows, List.filter_map, List.map_map]
    rfl
  rw [hrows, hrows, filter_sortByDay]

/-- What memory answers from a day on: the rows in the order of their days, those of a day all of them
and as they were given. -/
structure InOrderFrom (given : List (Day × α)) (first : Day) (fetched : List (Observation α)) :
    Prop where
  ascending : (fetched.map Observation.day).Pairwise (· ≤ ·)
  rows : ∀ day, valuesOn (Observation.rows fetched) day = if first ≤ day then valuesOn given day else []

theorem inOrderFrom (given : List (Observation α)) (first : Day) :
    InOrderFrom (rows given) first (since first (sortByDay given)) where
  ascending := pairwise_days_since (pairwise_sortByDay given) first
  rows day := by rw [valuesOn_since, valuesOn_sortByDay]

theorem keeps (memory : MemoryStore α) {given : List (Observation α)} {product location : String}
    (h : memory.history product location = sortByDay given) :
    DemandSource.Keeps memory.source product location (sortByDay given) where
  ordered := pairwise_sortByDay given
  fetched hs := by rw [memory.fetchHistory_eq hs, h]
  outside hs := Store.fetchHistory_of_none (.memory memory) hs

/-- What is given for one product and location is all that their history depends on. -/
theorem fetchHistory_congr {histories histories' : Table (String × String) (List (Day × α))}
    {stock stock' : StockMap α} {memory memory' : MemoryStore α}
    (h : ofRows? histories stock = .ok memory) (h' : ofRows? histories' stock' = .ok memory')
    {product location : String}
    (hg : histories'.get? (product, location) = histories.get? (product, location)) (today : Day)
    (daysBack : Int) :
    (memory'.source today).fetchHistory product location daysBack
      = (memory.source today).fetchHistory product location daysBack := by
  obtain ⟨given, hrows, hh⟩ := history_of_ofRows? h product location
  obtain ⟨given', hrows', hh'⟩ := history_of_ofRows? h' product location
  obtain rfl : given' = given :=
    List.map_injective_iff.2 pair_injective (hrows'.trans (hg ▸ hrows.symm))
  show (inCalendar (historyStart? today daysBack) >>= fun first =>
      .ok (since first (memory'.history product location)))
    = (inCalendar (historyStart? today daysBack) >>= fun first =>
      .ok (since first (memory.history product location)))
  rw [hh, hh']

end MemoryStore

end

/-! ## In tables -/

/-- The totals of the days from a day on are those of the rows from that day on. -/
theorem dailyTotals_filter {α : Type} (total : List α → α) (rows : List (Day × α)) (first : Day) :
    dailyTotals total (rows.filter fun row => first ≤ row.1)
      = (dailyTotals total rows).filter fun row => first ≤ row.1 := by
  have hdays : ascending ((rows.filter fun row => first ≤ row.1).map Prod.fst)
      = (ascending (rows.map Prod.fst)).filter fun day => first ≤ day := by
    refine Day.eq_of_mem_iff (pairwise_ascending _) ((pairwise_ascending _).filter _) fun day => ?_
    simp only [mem_ascending, List.mem_map, List.mem_filter, decide_eq_true_eq]
    constructor
    · rintro ⟨row, ⟨hr, hf⟩, rfl⟩
      exact ⟨⟨row, hr, rfl⟩, hf⟩
    · rintro ⟨⟨row, hr, rfl⟩, hf⟩
      exact ⟨row, ⟨hr, hf⟩, rfl⟩
  rw [dailyTotals, dailyTotals, hdays, List.filter_map]
  refine List.map_congr_left fun day hd => ?_
  rw [valuesOn_filter, if_pos (of_decide_eq_true (List.mem_filter.1 hd).2)]

section
variable {α : Type} [Scalar α]

theorem ofPairs?_filter {pairs : List (Day × α)} {history : List (Observation α)}
    (h : ofPairs? pairs = .ok history) (first : Day) :
    ofPairs? (pairs.filter fun pair => first ≤ pair.1) = .ok (MemoryStore.since first history) := by
  rw [← rows_ofPairs? h, ← MemoryStore.rows_since]
  exact ofPairs?_rows _

namespace Ledger

/-- The movements that are demand of a product at a location. -/
def demand (l : Ledger α) (product location : String) : List (Movement α) :=
  l.movements.filter fun m => m.product = product && m.location = location && m.kind.isDemand

/-- What movements took away, day by day. -/
def takenAway (moved : List (Movement α)) : List (Day × α) :=
  moved.map fun m => (m.day, Scalar.abs m.quantity)

theorem demandRows_eq_filter (l : Ledger α) (product location : String) (first : Day) :
    l.demandRows product location first
      = (takenAway (l.demand product location)).filter fun row => first ≤ row.1 := by
  rw [takenAway, demand, List.filter_map, List.filter_filter, demandRows]
  congr 1
  refine List.filter_congr fun m _ => ?_
  exact Bool.and_comm _ _

theorem fetchHistory_congr {l l' : Ledger α} {product location : String}
    (h : l'.demand product location = l.demand product location) (today : Day) (daysBack : Int) :
    (l'.source today).fetchHistory product location daysBack
      = (l.source today).fetchHistory product location daysBack := by
  show (inCalendar (historyStart? today daysBack) >>= fun first =>
      ofPairs? (dailyTotals total (l'.demandRows product location first)))
    = (inCalendar (historyStart? today daysBack) >>= fun first =>
      ofPairs? (dailyTotals total (l.demandRows product location first)))
  simp only [demandRows_eq_filter, h]

end Ledger

end

/-- What tables answer from a day on: each day with a movement once, in order, with the sum of what the
movements of that day took away. -/
structure SumsFrom (moved : List (Movement ℝ)) (first : Day) (fetched : List (Observation ℝ)) :
    Prop where
  ascending : (fetched.map Observation.day).Pairwise (· < ·)
  mem_days : ∀ day, day ∈ fetched.map Observation.day ↔ day ∈ moved.map Movement.day ∧ first ≤ day
  quantity : ∀ o ∈ fetched,
    o.quantity = ((moved.filter fun m => m.day = o.day).map fun m => |m.quantity|).sum

namespace Ledger

theorem nonneg_of_mem_dailyTotals {moved : List (Movement ℝ)} {pair : Day × ℝ}
    (h : pair ∈ dailyTotals total (takenAway moved)) : 0 ≤ pair.2 := by
  obtain ⟨day, -, rfl⟩ := List.mem_map.1 h
  rw [total_real]
  refine List.sum_nonneg fun x hx => ?_
  obtain ⟨row, hrow, rfl⟩ := List.mem_map.1 hx
  obtain ⟨m, -, rfl⟩ := List.mem_map.1 (List.mem_filter.1 hrow).1
  rw [Scalar.abs_real]
  exact abs_nonneg m.quantity

theorem sum_valuesOn_takenAway (moved : List (Movement ℝ)) (day : Day) :
    (valuesOn (takenAway moved) day).sum
      = ((moved.filter fun m => m.day = day).map fun m => |m.quantity|).sum := by
  rw [valuesOn, takenAway, List.filter_map, List.map_map]
  congr 1
  refine List.map_congr_left fun m _ => ?_
  exact Scalar.abs_real m.quantity

section
variable {moved : List (Movement ℝ)} {kept : List (Observation ℝ)}
  (h : rows kept = dailyTotals total (takenAway moved))
include h

theorem days_of_rows : kept.map Observation.day = ascending (moved.map Movement.day) := by
  have hdays := congrArg (List.map Prod.fst) h
  simpa [rows, dailyTotals, takenAway, Function.comp_def] using hdays

theorem sumsFrom (first : Day) : SumsFrom moved first (MemoryStore.since first kept) where
  ascending := by
    have hlt : (kept.map Observation.day).Pairwise (· < ·) := by
      rw [days_of_rows h]
      exact pairwise_ascending _
    exact MemoryStore.pairwise_days_since hlt first
  mem_days day := by
    rw [MemoryStore.mem_days_since, days_of_rows h, mem_ascending]
  quantity := by
    intro o ho
    have hmem : (o.day, o.quantity) ∈ rows kept := List.mem_map_of_mem (List.mem_filter.1 ho).1
    rw [h] at hmem
    obtain ⟨day, -, heq⟩ := List.mem_map.1 hmem
    obtain ⟨rfl, hq⟩ := Prod.mk.inj heq
    rw [← hq, total_real, sum_valuesOn_takenAway]

end

theorem exists_keeps (l : Ledger ℝ) (product location : String) :
    ∃ kept, DemandSource.Keeps l.source product location kept
      ∧ ∀ first, SumsFrom (l.demand product location) first (MemoryStore.since first kept) := by
  have hq : ∀ pair ∈ dailyTotals total (takenAway (l.demand product location)), 0 ≤ pair.2 :=
    fun _ => nonneg_of_mem_dailyTotals
  obtain ⟨kept, hk⟩ := Observation.exists_ofPairs? hq
  have hrows := rows_ofPairs? hk
  refine ⟨kept, ⟨?_, ?_, ?_⟩, sumsFrom hrows⟩
  · rw [days_of_rows hrows]
    exact (pairwise_ascending _).imp fun h => Int.le_of_lt h
  · intro today first daysBack hs
    rw [l.fetchHistory_eq hs, demandRows_eq_filter, dailyTotals_filter]
    exact ofPairs?_filter hk first
  · intro today daysBack hs
    exact Store.fetchHistory_of_none (.database ⟨some l⟩) hs

end Ledger

/-! ## Both kinds of source -/

theorem MovementKind.isDemand_ofName_iff (name : String) : (ofName name).isDemand = true
    ↔ name ∈ ["sales_shipment", "transfer_out", "production_consumption"] := by
  unfold ofName
  split
  · next h => simp [isDemand, h]
  · split
    · next h => simp [isDemand, h]
    · split
      · next h => simp [isDemand, h]
      · next h₁ h₂ h₃ => simp [isDemand, h₁, h₂, h₃]

/-- **A history is what a source holds of the demand from its first day on**: in memory the rows of the
product and location, in tables a sum for each day over their movements of the three kinds of demand.
Nothing else that is stored matters. -/
theorem histories_windowed :
    (∀ {histories : Table (String × String) (List (Day × ℝ))} {stock : StockMap ℝ}
        {memory : MemoryStore ℝ}, MemoryStore.ofRows? histories stock = .ok memory →
      ∀ product location,
        DemandSource.Windowed memory.source product location
          (MemoryStore.InOrderFrom ((histories.get? (product, location)).getD []))
        ∧ ∀ {histories' : Table (String × String) (List (Day × ℝ))} {stock' : StockMap ℝ}
            {memory' : MemoryStore ℝ}, MemoryStore.ofRows? histories' stock' = .ok memory' →
          histories'.get? (product, location) = histories.get? (product, location) →
          ∀ today daysBack, (memory'.source today).fetchHistory product location daysBack
            = (memory.source today).fetchHistory product location daysBack)
    ∧ (∀ (l : Ledger ℝ) (product location : String),
        DemandSource.Windowed l.source product location (SumsFrom (l.demand product location))
        ∧ ∀ l' : Ledger ℝ, l'.demand product location = l.demand product location →
          ∀ today daysBack, (l'.source today).fetchHistory product location daysBack
            = (l.source today).fetchHistory product location daysBack)
    ∧ ∀ name, (MovementKind.ofName name).isDemand = true
        ↔ name ∈ ["sales_shipment", "transfer_out", "production_consumption"] := by
  refine ⟨?_, ?_, MovementKind.isDemand_ofName_iff⟩
  · intro histories stock memory h product location
    obtain ⟨given, hrows, hh⟩ := MemoryStore.history_of_ofRows? h product location
    rw [← hrows]
    exact ⟨(memory.keeps hh).windowed (MemoryStore.inOrderFrom given),
      fun h' => MemoryStore.fetchHistory_congr h h'⟩
  · intro l product location
    obtain ⟨kept, hk, hsums⟩ := l.exists_keeps product location
    exact ⟨hk.windowed hsums, fun l' => Ledger.fetchHistory_congr⟩

/-- Rows of two days, the later day first and again last, and a row of another product. -/
def mixedRows : Table (String × String) (List (Day × ℝ)) :=
  ⟨[(("bolt", "depot"), [(boltDay true, 1), (boltDay false, 1), (boltDay true, 0)]),
    (("nut", "depot"), [(boltDay true, 1)])], by decide⟩

/-- A bolt shipped, one used up and one received on one day, and one shipped the day before. -/
def mixedMoves : Ledger ℝ :=
  ⟨[⟨1, "bolt", "depot", .salesShipment, 1, boltDay true⟩,
    ⟨2, "bolt", "depot", .other "purchase_receipt", 1, boltDay true⟩,
    ⟨3, "bolt", "depot", .productionConsumption, -1, boltDay true⟩,
    ⟨4, "bolt", "depot", .salesShipment, 1, boltDay false⟩], []⟩

/-- The day after. -/
def boltCount : Day := ⟨10, by omega, by omega⟩

/-- Of the day before the count memory answers with its two rows in the order given, and tables with
their sum. -/
theorem histories_windowed_mixed :
    ∃ memory, MemoryStore.ofRows? mixedRows .empty = .ok memory
      ∧ (boltDay true).ordinal = boltCount.ordinal - 1
      ∧ (∃ fetched, (memory.source boltCount).fetchHistory "bolt" "depot" 1 = .ok fetched
          ∧ valuesOn (rows fetched) (boltDay true) = [1, 0]
          ∧ valuesOn (rows fetched) (boltDay false) = [])
      ∧ ∃ fetched, (mixedMoves.source boltCount).fetchHistory "bolt" "depot" 1 = .ok fetched
          ∧ ∀ o ∈ fetched, o.day = boltDay true → o.quantity = 1 + 1 := by
  have hfirst : (boltDay true).ordinal = boltCount.ordinal - 1 := rfl
  have hq : ∀ entry ∈ mixedRows.entries, ∀ pair ∈ entry.2, 0 ≤ pair.2 := by
    simp only [mixedRows, List.forall_mem_cons]
    simp
  obtain ⟨memory, hm, -⟩ := MemoryStore.exists_ofRows? hq .empty
  obtain ⟨hmemory, htables, -⟩ := histories_windowed
  refine ⟨memory, hm, hfirst, ?_, ?_⟩
  · obtain ⟨fetched, hf, horder⟩ := (hmemory hm "bolt" "depot").1.answers hfirst
    refine ⟨fetched, hf, ?_, ?_⟩
    · rw [horder.rows]
      simp [mixedRows, Table.get?, valuesOn, boltDay, Day.le_iff]
    · rw [horder.rows]
      simp [boltDay, Day.le_iff]
  · obtain ⟨fetched, hf, hsums⟩ := (htables mixedMoves "bolt" "depot").1.answers hfirst
    refine ⟨fetched, hf, fun o ho hday => ?_⟩
    rw [hsums.quantity o ho, hday]
    simp [mixedMoves, Ledger.demand, MovementKind.isDemand, boltDay]

end Restock
