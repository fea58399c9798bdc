import Mathlib.Logic.Relation
import Restock.Error

/-!
# A bounded pool of workers

A run over many products hands them to a pool of workers. A free worker takes up the item that has
waited longest, items under way are done in any order, and the outcomes are gathered in the order of
the items once nothing is left to do. Whatever the order of events and however many workers there
are, what is gathered is what working through the list from front to back gives (`gathered_eq_mapM`);
and a pool with a worker always gets to the end of its list (`exists_idle`).
-/

namespace Restock

/-- A pool at work on a list of items, each with its place in the list. -/
structure Pool (β γ : Type) where
  waiting : List (β × Nat)
  running : List (β × Nat)
  /-- What the item of each place came to, once it is done. -/
  finished : Nat → Option γ

namespace Pool

variable {β γ : Type}

/-- The pool before any item was taken up. -/
def ofItems (items : List β) : Pool β γ := ⟨items.zipIdx, [], fun _ => none⟩

/-- One event: a free worker takes up the next item, or some item under way is done. -/
inductive Step (task : β → γ) (workers : Nat) : Pool β γ → Pool β γ → Prop where
  | start {item : β × Nat} {waiting running : List (β × Nat)} {finished : Nat → Option γ}
      (free : running.length < workers) :
      Step task workers ⟨item :: waiting, running, finished⟩ ⟨waiting, item :: running, finished⟩
  | finish {item : β} {place : Nat} {waiting before after : List (β × Nat)}
      {finished : Nat → Option γ} :
      Step task workers ⟨waiting, before ++ (item, place) :: after, finished⟩
        ⟨waiting, before ++ after, fun i => if i = place then some (task item) else finished i⟩

/-- Any number of events. -/
abbrev Run (task : β → γ) (workers : Nat) : Pool β γ → Pool β γ → Prop :=
  Relation.ReflTransGen (Step task workers)

/-- Nothing is left to do. -/
def Idle (p : Pool β γ) : Prop := p.waiting = [] ∧ p.running = []

/-- The outcomes in the order of the items, up to the first failure in that order. -/
def gathered {α : Type} (p : Pool β (Planned α γ)) (count : Nat) : Planned α (List γ) :=
  ((List.range count).filterMap p.finished).mapM id

/-! ## What every event keeps -/

/-- The state of a pool that works on a list: no more items are under way than there are workers,
every item is in its place, and every place is waiting, under way or done. -/
structure Faithful (task : β → γ) (workers : Nat) (items : List β) (p : Pool β γ) : Prop where
  bounded : p.running.length ≤ workers
  placed : ∀ item place, (item, place) ∈ p.waiting ++ p.running → items[place]? = some item
  done : ∀ place c, p.finished place = some c → items[place]?.map task = some c
  covered : ∀ place, place < items.length →
    (∃ item, (item, place) ∈ p.waiting ++ p.running) ∨ ∃ c, p.finished place = some c

variable {task : β → γ} {workers : Nat} {items : List β}

theorem Faithful.ofItems (items : List β) : Faithful task workers items (ofItems items) where
  bounded := Nat.zero_le _
  placed := by
    intro item place h
    rw [Pool.ofItems, List.append_nil] at h
    exact List.mem_zipIdx_iff_getElem?.1 h
  done := by
    intro place c h
    cases h
  covered := by
    intro place h
    rw [Pool.ofItems, List.append_nil]
    exact .inl ⟨items[place], List.mem_zipIdx_iff_getElem?.2 (List.getElem?_eq_getElem h)⟩

/-- **One event** leaves a pool faithful to its list. -/
theorem Faithful.step {p q : Pool β γ} (h : Faithful task workers items p)
    (hs : Step task workers p q) : Faithful task workers items q := by
  obtain ⟨bounded, placed, done, covered⟩ := h
  cases hs with
  | @start item waiting running finished free =>
      -- the item only changes sides
      have hm : ∀ x, x ∈ waiting ++ item :: running ↔ x ∈ item :: waiting ++ running := by
        intro x
        simp only [List.mem_append, List.mem_cons, or_left_comm, or_assoc]
      refine ⟨free, ?_, done, ?_⟩
      · intro b place hb
        exact placed b place ((hm _).1 hb)
      · intro place hp
        rcases covered place hp with ⟨b, hb⟩ | hc
        · exact .inl ⟨b, (hm _).2 hb⟩
        · exact .inr hc
  | @finish item place waiting before after finished =>
      -- the item leaves, and its place has an outcome from now on
      have hm : ∀ x, x ∈ waiting ++ (before ++ (item, place) :: after) ↔
          x = (item, place) ∨ x ∈ waiting ++ (before ++ after) := by
        intro x
        simp only [List.mem_append, List.mem_cons, or_left_comm]
      refine ⟨?_, ?_, ?_, ?_⟩
      · simp only [List.length_append, List.length_cons] at bounded ⊢
        omega
      · intro b i hb
        exact placed b i ((hm _).2 (.inr hb))
      · intro i c hc
        dsimp only at hc
        split at hc
        · next hi =>
            rw [hi, placed item place ((hm _).2 (.inl rfl))]
            exact hc
        · exact done i c hc
      · intro i hi
        by_cases hip : i = place
        · exact .inr ⟨task item, if_pos hip⟩
        · rcases covered i hi with ⟨b, hb⟩ | ⟨c, hc⟩
          · rcases (hm _).1 hb with heq | hb
            · exact absurd (congrArg Prod.snd heq) hip
            · exact .inl ⟨b, hb⟩
          · exact .inr ⟨c, (if_neg hip).trans hc⟩

theorem Faithful.run {p q : Pool β γ} (h : Faithful task workers items p)
    (hr : Run task workers p q) : Faithful task workers items q := by
  induction hr with
  | refl => exact h
  | tail _ hs ih => exact ih.step hs

/-! ## The end of a run -/

theorem Faithful.finished_eq {p : Pool β γ} (h : Faithful task workers items p) (hi : p.Idle)
    (place : Nat) : p.finished place = items[place]?.map task := by
  cases hf : p.finished place with
  | some c => exact (h.done place c hf).symm
  | none =>
      rcases Nat.lt_or_ge place items.length with hlt | hge
      · rcases h.covered place hlt with ⟨item, hm⟩ | ⟨c, hc⟩
        · rw [hi.1, hi.2] at hm
          cases hm
        · rw [hf] at hc
          cases hc
      · rw [List.getElem?_eq_none hge]
        rfl

/-- **Every complete run** gathers what working through the list from front to back gives. -/
theorem gathered_eq_mapM {α : Type} {task : β → Planned α γ} {p : Pool β (Planned α γ)}
    (hr : Run task workers (ofItems items) p) (hi : p.Idle) :
    p.gathered items.length = items.mapM task := by
  have h := (Faithful.ofItems items).run hr
  -- place by place, the outcomes are those of the items
  have hf : (List.range items.length).map p.finished = (items.map task).map some := by
    refine List.ext_getElem (by simp) ?_
    intro i hl hr
    rw [List.getElem_map, List.getElem_range, h.finished_eq hi]
    simp at hl
    simp [List.getElem?_eq_getElem hl]
  have ho : (List.range items.length).filterMap p.finished = items.map task := by
    have := congrArg (List.filterMap id) hf
    simpa [List.filterMap_map] using this
  rw [gathered, ho, List.mapM_map]
  rfl

/-- What is left to do: an item counts twice while it waits and once while it is under way. -/
def workLeft (p : Pool β γ) : Nat := 2 * p.waiting.length + p.running.length

/-- A pool with a worker is idle or has an event ahead that leaves less to do. -/
theorem idle_or_exists_step (task : β → γ) (hw : 0 < workers) (p : Pool β γ) :
    p.Idle ∨ ∃ q, Step task workers p q ∧ q.workLeft < p.workLeft := by
  match p with
  | ⟨[], [], finished⟩ => exact .inl ⟨rfl, rfl⟩
  | ⟨item :: waiting, [], finished⟩ =>
      refine .inr ⟨_, .start hw, ?_⟩
      simp only [workLeft, List.length_cons, List.length_nil]
      omega
  | ⟨waiting, (item, place) :: running, finished⟩ =>
      have hs : Step task workers ⟨waiting, [] ++ (item, place) :: running, finished⟩ _ := .finish
      refine .inr ⟨_, hs, ?_⟩
      simp only [workLeft, List.nil_append, List.length_cons]
      omega

/-- **Progress**: a pool with a worker can always be run until nothing is left to do. -/
theorem exists_idle (task : β → γ) (hw : 0 < workers) (p : Pool β γ) :
    ∃ q, Run task workers p q ∧ q.Idle := by
  rcases idle_or_exists_step task hw p with hi | ⟨q, hs, hlt⟩
  · exact ⟨p, .refl, hi⟩
  · obtain ⟨r, hr, hi⟩ := exists_idle task hw q
    exact ⟨r, .head hs hr, hi⟩
termination_by p.workLeft

end Pool

end Restock
