import Mathlib.Data.List.Forall2
import Restock.Proofs.Planning.Pool
import Restock.Session

/-!
# Runs over many products

A run over many products is decided by what happens to each product on its own. The outcome of one
product is that of planning it alone (`Planner.stockingPlan`); a run lists the plans and the products
without one, both in the order of the products, unless some outcome is a failure that ends it
(`Planner.batchOfOutcomes`). It works because reading and densifying a history only ever fail in
ways that end a run (`Store.endsRun_history`), so it makes no difference that a run looks for
failures to skip after that step only.
-/

namespace Restock

variable {α β γ : Type}

/-! ## Failures that end a run -/

/-- A step that ends a run over many products whenever it fails. -/
def EndsRun (x : Planned α β) : Prop := ∀ e, x = .error e → e.skippable = false

theorem EndsRun.ok (b : β) : EndsRun (.ok b : Planned α β) := by
  intro e h
  cases h

theorem EndsRun.bind {x : Planned α β} {f : β → Planned α γ} (hx : EndsRun x)
    (hf : ∀ b, EndsRun (f b)) : EndsRun (x >>= f) := by
  cases x with
  | error e =>
      intro e' h
      cases h
      exact hx e rfl
  | ok b => exact hf b

theorem EndsRun.inCalendar (o : Option β) : EndsRun (inCalendar o : Planned α β) := by
  intro e h
  cases o with
  | none =>
      cases h
      rfl
  | some b => cases h

/-- Skipping commutes with a step that is never skipped. -/
theorem skipping_bind {x : Planned α β} (hx : EndsRun x) (f : β → Planned α γ) :
    skipping (x >>= f) = x >>= fun b => skipping (f b) := by
  cases x with
  | error e =>
      show skipping (.error e) = .error e
      rw [skipping, hx e rfl]
      rfl
  | ok b => rfl

/-- The failure with which an outcome ends a run over many products: any but that of an argument
outside its domain and that of missing data. -/
def fatal? : Planned α β → Option (PlanError α)
  | .ok _ => none
  | .error (.invalidParameter _) => none
  | .error (.insufficientData ..) => none
  | .error e => some e

theorem skipping_eq (x : Planned α β) :
    skipping x = match fatal? x with
      | some e => .error e
      | none => .ok x.toOption := by
  cases x with
  | ok b => rfl
  | error e => cases e <;> rfl

theorem mapM_skipping (outcome : String → Planned α β) (products : List String) :
    products.mapM (fun product => skipping (outcome product))
      = match products.findSome? fun product => fatal? (outcome product) with
        | some e => .error e
        | none => .ok (products.map fun product => (outcome product).toOption) := by
  induction products with
  | nil => rfl
  | cons product products ih =>
      rw [List.mapM_cons, ih, skipping_eq, List.findSome?_cons]
      -- a failure here comes before those of the rest; without one, theirs decide
      cases fatal? (outcome product) with
      | some e => rfl
      | none => cases products.findSome? fun product => fatal? (outcome product) <;> rfl

/-- A step goes through a list exactly when it goes through at each member. -/
theorem mapM_eq_ok_iff {f : β → Planned α γ} {xs : List β} {ys : List γ} :
    xs.mapM f = .ok ys ↔ List.Forall₂ (fun x y => f x = .ok y) xs ys := by
  induction xs generalizing ys with
  | nil =>
      rw [List.mapM_nil, Planned.pure_eq_ok, Except.ok.injEq, List.forall₂_nil_left_iff, eq_comm]
  | cons x xs ih =>
      rw [List.mapM_cons, Planned.bind_eq_ok, List.forall₂_cons_left_iff]
      constructor
      · rintro ⟨y, hy, h⟩
        obtain ⟨ys, hys, h⟩ := Planned.bind_eq_ok.1 h
        exact ⟨y, ys, hy, ih.1 hys, (Except.ok.inj h).symm⟩
      · rintro ⟨y, ys, hy, hys, rfl⟩
        exact ⟨y, hy, Planned.bind_eq_ok.2 ⟨ys, ih.2 hys, rfl⟩⟩

theorem exists_of_mem_mapM {f : β → Planned α γ} {xs : List β} {ys : List γ}
    (h : xs.mapM f = .ok ys) {y : γ} (hy : y ∈ ys) : ∃ x ∈ xs, f x = .ok y := by
  induction mapM_eq_ok_iff.1 h with
  | nil => cases hy
  | @cons x z xs zs hx hall ih =>
      rcases List.mem_cons.1 hy with rfl | hy
      · exact ⟨x, List.mem_cons_self, hx⟩
      · obtain ⟨x, hm, hx⟩ := ih (mapM_eq_ok_iff.2 hall) hy
        exact ⟨x, List.mem_cons_of_mem _ hm, hx⟩

theorem exists_mapM_eq_ok {f : β → Planned α γ} {xs : List β} (h : ∀ x ∈ xs, ∃ y, f x = .ok y) :
    ∃ ys, xs.mapM f = .ok ys ∧ List.Forall₂ (fun x y => f x = .ok y) xs ys := by
  simp only [mapM_eq_ok_iff, and_self]
  induction xs with
  | nil => exact ⟨[], .nil⟩
  | cons x xs ih =>
      obtain ⟨y, hy⟩ := h x List.mem_cons_self
      obtain ⟨ys, hys⟩ := ih fun x hx => h x (List.mem_cons_of_mem _ hx)
      exact ⟨y :: ys, .cons hy hys⟩

theorem ofOutcomes_zip_map (outcome : String → Option (StockingPlan α)) (products : List String) :
    PlanBatch.ofOutcomes (products.zip (products.map outcome)) = {
      plans := products.filterMap outcome
      skipped := products.filter fun product => (outcome product).isNone } := by
  induction products with
  | nil => rfl
  | cons product products ih =>
      simp only [PlanBatch.ofOutcomes, PlanBatch.mk.injEq] at ih ⊢
      rw [List.map_cons, List.zip_cons_cons, List.filterMap_cons, List.filterMap_cons,
        List.filter_cons, List.filter_cons, ih.1]
      cases outcome product with
      | none => simp [ih.2]
      | some plan => simp [ih.2]

/-! ## Reading a history -/

section
variable [Scalar α]

theorem endsRun_of? (day : Day) (quantity : α) : EndsRun (Observation.of? day quantity) := by
  intro e h
  unfold Observation.of? at h
  split at h
  · cases h
  · cases h
    rfl

theorem endsRun_ofPairs? (rows : List (Day × α)) : EndsRun (Observation.ofPairs? rows) := by
  induction rows with
  | nil => exact .ok []
  | cons row rows ih =>
      rw [Observation.ofPairs?, List.mapM_cons]
      exact (endsRun_of? row.1 row.2).bind fun o => ih.bind fun os => .ok (o :: os)

theorem endsRun_densify (history : List (Observation α)) (filled : Bool)
    (lookback : Option Window) : EndsRun (densify history filled lookback) := by
  unfold densify
  split
  · exact endsRun_ofPairs? _
  · exact .ok history

theorem Database.endsRun_fetchHistory (d : Database α) (today : Day) (product location : String)
    (daysBack : Int) : EndsRun ((d.source today).fetchHistory product location daysBack) := by
  obtain ⟨tables⟩ := d
  refine match tables with
    | some l => EndsRun.bind (.inCalendar _) fun start => endsRun_ofPairs? _
    | none => EndsRun.bind (.inCalendar _) fun start => ?_
  intro e h
  cases h
  rfl

theorem Store.endsRun_fetchHistory (store : Store α) (today : Day) (product location : String)
    (daysBack : Int) : EndsRun ((store.source today).fetchHistory product location daysBack) := by
  cases store with
  | memory s => exact EndsRun.bind (.inCalendar _) fun start => .ok _
  | database d => exact d.endsRun_fetchHistory today product location daysBack

/-- The planner of a store on a given day. -/
abbrev Store.planner (store : Store α) (today : Day) (settings : Settings α) (now : Instant) :
    Planner α :=
  ⟨store.source today, settings, now⟩

theorem Store.endsRun_history (store : Store α) (today : Day) (settings : Settings α)
    (now : Instant) (product location : String) (daysBack : Int) :
    EndsRun ((store.planner today settings now).history product location daysBack) :=
  (store.endsRun_fetchHistory today product location daysBack).bind fun _ =>
    (EndsRun.inCalendar _).bind fun _ => endsRun_densify _ _ _

end

/-! ## What a run comes to -/

section
variable [Gaussian α]

/-- What a run over some products comes to, read off the outcomes that they have one by one: the
first failure in the order of the products that ends a run, or else the plans and the products
without one, both in that order. -/
def Planner.batchOfOutcomes (e : Planner α) (location : String) (p : Parameters α)
    (products : List String) : Planned α (PlanBatch α) :=
  let outcome (product : String) := e.stockingPlan product location p
  match products.findSome? fun product => fatal? (outcome product) with
  | some error => .error error
  | none => .ok {
      plans := products.filterMap fun product => (outcome product).toOption
      skipped := products.filter fun product => (outcome product).toOption.isNone }

/-- A result that a run over some products can have when a pool of the configured workers makes the
plans, in some order of events. -/
def Planner.Pooled (e : Planner α) (location : String) (p : Parameters α) (products : List String)
    (result : Planned α (PlanBatch α)) : Prop :=
  let task := e.source.planOrSkip e.settings e.now location p
  let workers := (max 1 (min e.settings.workerCount products.length)).toNat
  ∃ pool, Pool.Run task workers (.ofItems products) pool ∧ pool.Idle
    ∧ result = do return .ofOutcomes (products.zip (← pool.gathered products.length))

/-- Every number that a reorder rule is cut from is finite. -/
structure StockingPlan.IsFinite (plan : StockingPlan α) : Prop where
  reorderPoint : Scalar.isFinite plan.reorderPoint = true
  orderQuantity : Scalar.isFinite plan.orderQuantity = true
  maxStock : Scalar.isFinite plan.maxStock = true
  safetyStock : Scalar.isFinite plan.safetyStock = true
  leadTimeDays : Scalar.isFinite plan.leadTimeDays = true

/-- A plan names its product, and keeps the lead time that it was made for. -/
theorem StockingPlan.labels_of_ofHistory {history : List (Observation α)} {p : Parameters α}
    {policy : OptimizerPolicy α} {product location : String} {now : Instant} {plan : StockingPlan α}
    (h : StockingPlan.ofHistory history p policy product location now = .ok plan) :
    plan.product = product ∧ plan.leadTimeDays = p.leadTimeDays := by
  unfold StockingPlan.ofHistory at h
  split at h
  · cases h
  · obtain ⟨quantity, _, h⟩ := Planned.bind_eq_ok.1 h
    obtain ⟨cycles, _, h⟩ := Planned.bind_eq_ok.1 h
    obtain ⟨stockout, _, h⟩ := Planned.bind_eq_ok.1 h
    cases h
    exact ⟨rfl, rfl⟩

theorem Planner.labels_of_stockingPlan {e : Planner α} {product location : String}
    {p : Parameters α} {plan : StockingPlan α} (h : e.stockingPlan product location p = .ok plan) :
    plan.product = product ∧ plan.leadTimeDays = p.leadTimeDays := by
  obtain ⟨history, _, h⟩ := Planned.bind_eq_ok.1 h
  exact StockingPlan.labels_of_ofHistory h

theorem ReorderRule.exists_ofPlan {plan : StockingPlan α} {p : Parameters α} {review : Int}
    (hr : 1 ≤ review) (hf : plan.IsFinite) (hl : plan.leadTimeDays = p.leadTimeDays) :
    ∃ rule, ReorderRule.ofPlan plan p review = .ok rule := by
  have lead : (if plan.leadTimeDays == 0 then p.leadTimeDays else plan.leadTimeDays)
      = plan.leadTimeDays := by
    rw [← hl, ite_self]
  unfold ReorderRule.ofPlan
  rw [if_neg (by omega)]
  dsimp only
  rw [lead, Scalar.toInt?_of_isFinite hf.reorderPoint, Scalar.toInt?_of_isFinite hf.orderQuantity,
    Scalar.toInt?_of_isFinite hf.maxStock, Scalar.toInt?_of_isFinite hf.safetyStock,
    Scalar.toInt?_of_isFinite hf.leadTimeDays]
  exact ⟨_, rfl⟩

/-! ## Every run follows the outcomes -/

section
variable (store : Store α) (today : Day) (settings : Settings α) (now : Instant)
  (location : String) (p : Parameters α)

theorem Store.planOrSkip_eq (product : String) :
    (store.source today).planOrSkip settings now location p product
      = skipping ((store.planner today settings now).stockingPlan product location p) :=
  (skipping_bind (store.endsRun_history today settings now product location _) _).symm

theorem Store.mapM_planOrSkip (products : List String) :
    products.mapM ((store.source today).planOrSkip settings now location p)
      = products.mapM fun product => skipping
          ((store.planner today settings now).stockingPlan product location p) :=
  congrArg products.mapM (funext (store.planOrSkip_eq today settings now location p))

theorem Store.batch_of_mapM (products : List String) :
    (do return PlanBatch.ofOutcomes (products.zip
        (← products.mapM ((store.source today).planOrSkip settings now location p))))
      = (store.planner today settings now).batchOfOutcomes location p products := by
  rw [store.mapM_planOrSkip, mapM_skipping, Planner.batchOfOutcomes]
  dsimp only
  cases products.findSome? fun product => fatal?
      ((store.planner today settings now).stockingPlan product location p) with
  | some e => rfl
  | none => exact congrArg Except.ok (ofOutcomes_zip_map _ products)

theorem Store.exists_stockLevels {products : List String}
    (h : (store.source today).listProducts location = .ok products) :
    ∃ levels, (store.source today).stockLevels location = .ok levels := by
  match store with
  | .memory s => exact ⟨_, rfl⟩
  | .database ⟨some l⟩ => exact ⟨_, rfl⟩
  | .database ⟨none⟩ => cases h

end

section
variable {e : Planner α} {location : String} {p : Parameters α} {products : List String}
  {batch : PlanBatch α}

theorem Planner.eq_of_batchOfOutcomes (h : e.batchOfOutcomes location p products = .ok batch) :
    batch = {
      plans := products.filterMap fun product => (e.stockingPlan product location p).toOption
      skipped := products.filter fun product =>
        (e.stockingPlan product location p).toOption.isNone } := by
  unfold Planner.batchOfOutcomes at h
  dsimp only at h
  split at h
  · cases h
  · exact (Except.ok.inj h).symm

theorem Planner.exists_of_mem_plans (h : e.batchOfOutcomes location p products = .ok batch)
    {plan : StockingPlan α} (hp : plan ∈ batch.plans) :
    ∃ product ∈ products, e.stockingPlan product location p = .ok plan := by
  rw [Planner.eq_of_batchOfOutcomes h] at hp
  obtain ⟨product, hm, ho⟩ := List.mem_filterMap.1 hp
  refine ⟨product, hm, ?_⟩
  cases hs : e.stockingPlan product location p with
  | error error =>
      rw [hs] at ho
      cases ho
  | ok made =>
      rw [hs] at ho
      exact congrArg Except.ok (Option.some.inj ho)

theorem Planner.map_product_plans (e : Planner α) (location : String) (p : Parameters α)
    (products : List String) :
    (products.filterMap fun product => (e.stockingPlan product location p).toOption).map
        StockingPlan.product
      = products.filter fun product => (e.stockingPlan product location p).toOption.isSome := by
  induction products with
  | nil => rfl
  | cons product products ih =>
      rw [List.filterMap_cons, List.filter_cons]
      cases hs : e.stockingPlan product location p with
      | error error => exact ih
      | ok plan =>
          show plan.product :: _ = product :: _
          rw [(Planner.labels_of_stockingPlan hs).1, ih]

end

/-- The runs of a planner over many products follow the outcomes that the products have one by
one. -/
structure Planner.FollowsOutcomes (e : Planner α) (location : String) (p : Parameters α) : Prop where
  /-- The batch of a list of products is the one that their outcomes give. -/
  planAll : ∀ products, e.source.planAll e.settings e.now location products p
    = e.batchOfOutcomes location p products
  /-- A pool of workers gathers that batch and no other, however many workers the settings ask
  for. -/
  pooled : ∀ products result, e.Pooled location p products result ↔
    result = e.batchOfOutcomes location p products
  /-- Each occurrence of a product has a plan or is skipped, and not both. -/
  occurrences : ∀ products batch, e.batchOfOutcomes location p products = .ok batch →
    batch.plans.map StockingPlan.product
        = products.filter (fun product => (e.stockingPlan product location p).toOption.isSome)
      ∧ batch.skipped
        = products.filter (fun product => !(e.stockingPlan product location p).toOption.isSome)
  /-- The report on a location lists the batch of its products. -/
  report : ∀ products, e.source.listProducts location = .ok products →
    match e.batchOfOutcomes location p products with
    | .error error => e.report location p = .error error
    | .ok batch => ∃ r, e.report location p = .ok r
        ∧ r.plans = batch.plans ∧ r.skipped = batch.skipped
  /-- The reorder rules of a location are those of the plans in the batch of its products. -/
  reorderRules : ∀ products, e.source.listProducts location = .ok products →
    match e.batchOfOutcomes location p products with
    | .error error => ∀ review, e.reorderRules location p review = .error error
    | .ok batch => ∀ review, 1 ≤ review → (∀ plan ∈ batch.plans, plan.IsFinite) →
        ∃ rules, e.reorderRules location p review = .ok rules
          ∧ List.Forall₂ (fun plan rule => ReorderRule.ofPlan plan p review = .ok rule)
              batch.plans rules
  /-- Where the products cannot be listed, both fail as the listing does. -/
  unlisted : ∀ error, e.source.listProducts location = .error error →
    e.report location p = .error error
      ∧ ∀ review, e.reorderRules location p review = .error error

/-- **Every run over many products follows the outcomes**, in memory or against a database, whatever
the settings: a list of products, a pool of workers, the report on a location and its reorder
rules. -/
theorem Store.followsOutcomes (store : Store α) (today : Day) (settings : Settings α)
    (now : Instant) (location : String) (p : Parameters α) :
    (store.planner today settings now).FollowsOutcomes location p where
  planAll := store.batch_of_mapM today settings now location p
  pooled := by
    intro products result
    have hb := store.batch_of_mapM today settings now location p products
    constructor
    · rintro ⟨pool, hr, hi, rfl⟩
      rw [Pool.gathered_eq_mapM hr hi]
      exact hb
    · rintro rfl
      have hw : 0 < (max 1 (min settings.workerCount products.length)).toNat := by omega
      obtain ⟨pool, hr, hi⟩ := Pool.exists_idle
        ((store.source today).planOrSkip settings now location p) hw (.ofItems products)
      refine ⟨pool, hr, hi, ?_⟩
      rw [Pool.gathered_eq_mapM hr hi]
      exact hb.symm
  occurrences := by
    intro products batch h
    rw [Planner.eq_of_batchOfOutcomes h]
    refine ⟨Planner.map_product_plans _ location p products, ?_⟩
    simp only [Option.not_isSome]
  report := by
    intro products hl
    obtain ⟨levels, hs⟩ := store.exists_stockLevels today location hl
    have hb := store.batch_of_mapM today settings now location p products
    have hr : (store.planner today settings now).report location p
        = (store.planner today settings now).batchOfOutcomes location p products
          >>= fun batch => .ok (.ofBatch location p batch levels now) := by
      rw [← hb]
      unfold Planner.report DemandSource.report DemandSource.planAll
      rw [hl, hs]
      rfl
    split
    · next error he =>
        rw [hr, he]
        rfl
    · next batch he =>
        rw [hr, he]
        exact ⟨_, rfl, rfl, rfl⟩
  reorderRules := by
    intro products hl
    have hb := store.batch_of_mapM today settings now location p products
    have hr (review : Int) :
        (store.planner today settings now).reorderRules location p review
          = (store.planner today settings now).batchOfOutcomes location p products
            >>= fun batch => batch.plans.mapM fun plan => ReorderRule.ofPlan plan p review := by
      rw [← hb]
      unfold Planner.reorderRules DemandSource.planAll
      rw [hl]
      rfl
    split
    · next error he =>
        intro review
        rw [hr, he]
        rfl
    · next batch he =>
        intro review h1 hf
        rw [hr, he]
        refine exists_mapM_eq_ok ?_
        intro plan hp
        obtain ⟨product, _, ho⟩ := Planner.exists_of_mem_plans he hp
        exact ReorderRule.exists_ofPlan h1 (hf plan hp) (Planner.labels_of_stockingPlan ho).2
  unlisted := by
    intro error hl
    unfold Planner.report DemandSource.report Planner.reorderRules
    rw [hl]
    exact ⟨rfl, fun _ => rfl⟩

end

end Restock
