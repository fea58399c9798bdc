/-!
Tables: finite maps that keep the order in which their keys were first put in. `get?_put` says what
a look-up finds after a value was put in, `keys_put` what becomes of the order.
-/
namespace Restock
variable {κ β γ : Type} [DecidableEq κ]

/-- Puts a value under a key: in place of the old one, or at the end. -/
def putEntry (k : κ) (b : β) : List (κ × β) → List (κ × β)
  | [] => [(k, b)]
  | (k', b') :: rest => if k' = k then (k, b) :: rest else (k', b') :: putEntry k b rest

theorem keys_putEntry (k : κ) (b : β) (es : List (κ × β)) :
    (putEntry k b es).map Prod.fst
      = if k ∈ es.map Prod.fst then es.map Prod.fst else es.map Prod.fst ++ [k] := by
  induction es with
  | nil => simp [putEntry]
  | cons e es ih =>
    obtain ⟨k', b'⟩ := e
    by_cases h : k' = k
    · simp [putEntry, h]
    · have hk : ¬ k = k' := fun hk => h hk.symm
      by_cases hm : k ∈ es.map Prod.fst
      · simp_all [putEntry]
      · simp_all [putEntry]

theorem nodup_putEntry {k : κ} {b : β} {es : List (κ × β)} (h : (es.map Prod.fst).Nodup) :
    ((putEntry k b es).map Prod.fst).Nodup := by
  rw [keys_putEntry]
  split
  · exact h
  · next hk =>
    rw [List.nodup_append]
    refine ⟨h, by simp, ?_⟩
    intro a ha c hc
    rw [List.mem_singleton] at hc
    rintro rfl
    exact hk (hc ▸ ha)

theorem mem_putEntry {k : κ} {b : β} {es : List (κ × β)} {e : κ × β} (h : e ∈ putEntry k b es) :
    e = (k, b) ∨ e ∈ es := by
  induction es with
  | nil => exact .inl (List.mem_singleton.1 h)
  | cons e' es ih =>
    by_cases hk : e'.1 = k
    · simp only [putEntry, if_pos hk, List.mem_cons] at h
      exact h.imp_right (List.mem_cons_of_mem e')
    · simp only [putEntry, if_neg hk, List.mem_cons] at h
      obtain h | h := h
      · exact .inr (h ▸ List.mem_cons_self)
      · exact (ih h).imp_right (List.mem_cons_of_mem e')

theorem lookup_cons (k : κ) (e : κ × β) (es : List (κ × β)) :
    (e :: es).lookup k = if k = e.1 then some e.2 else es.lookup k := by
  obtain ⟨k', b⟩ := e
  rw [List.lookup_cons]
  by_cases h : k = k'
  · simp [h]
  · have hb : (k == k') = false := by simpa using h
    simp [hb, h]

theorem lookup_graph (f : κ → β) (ks : List κ) (k : κ) :
    (ks.map fun k => (k, f k)).lookup k = if k ∈ ks then some (f k) else none := by
  induction ks with
  | nil => simp
  | cons k' ks ih =>
    rw [List.map_cons, lookup_cons, ih]
    by_cases h : k = k' <;> simp [h]

theorem lookup_eq_none {k : κ} {es : List (κ × β)} (h : k ∉ es.map Prod.fst) :
    es.lookup k = none := by
  induction es with
  | nil => rfl
  | cons e es ih =>
    rw [List.map_cons, List.mem_cons, not_or] at h
    rw [lookup_cons, if_neg h.1, ih h.2]

/-- Of entries under different keys, those under one key are what is looked up there. -/
theorem filter_eq_lookup {es : List (κ × β)} (h : (es.map Prod.fst).Nodup) (k : κ) :
    es.filter (fun e => e.1 = k) = (es.lookup k).toList.map fun b => (k, b) := by
  induction es with
  | nil => rfl
  | cons e es ih =>
    obtain ⟨k', b⟩ := e
    rw [List.map_cons, List.nodup_cons] at h
    rw [lookup_cons, List.filter_cons, ih h.2]
    by_cases hk : k' = k
    · subst hk
      simp [lookup_eq_none h.1]
    · have hk' : ¬ k = k' := fun e => hk e.symm
      simp [hk, hk']

/-- Dropping entries by their keys hides what is under those keys, and nothing else. -/
theorem lookup_filter (p : κ → Bool) (es : List (κ × β)) (k : κ) :
    (es.filter fun e => p e.1).lookup k = if p k then es.lookup k else none := by
  induction es with
  | nil => simp
  | cons e es ih =>
    rw [List.filter_cons, lookup_cons]
    by_cases hk : k = e.1
    · subst hk
      by_cases hp : p e.1 <;> simp [hp, lookup_cons, ih]
    · by_cases hp : p e.1 <;> simp [hk, hp, lookup_cons, ih]

theorem lookup_mapSnd (f : β → γ) (es : List (κ × β)) (k : κ) :
    (es.map fun e => (e.1, f e.2)).lookup k = (es.lookup k).map f := by
  induction es with
  | nil => rfl
  | cons e es ih =>
    rw [List.map_cons, lookup_cons, lookup_cons, ih]
    split <;> rfl

/-- A finite map with its keys in the order of their first entry. -/
structure Table (κ β : Type) where
  entries : List (κ × β)
  nodup : (entries.map Prod.fst).Nodup

namespace Table

def empty : Table κ β := ⟨[], by simp⟩

def put (t : Table κ β) (k : κ) (b : β) : Table κ β :=
  ⟨putEntry k b t.entries, nodup_putEntry t.nodup⟩

/-- Puts in all entries of a list in order. -/
def ofList (es : List (κ × β)) : Table κ β := es.foldl (fun t e => t.put e.1 e.2) empty

def get? (t : Table κ β) (k : κ) : Option β := t.entries.lookup k

def keys (t : Table κ β) : List κ := t.entries.map Prod.fst

def values (t : Table κ β) : List β := t.entries.map Prod.snd

/-- Applies a function to every value. -/
def mapValues (f : β → γ) (t : Table κ β) : Table κ γ :=
  ⟨t.entries.map fun e => (e.1, f e.2), by simpa [Function.comp_def] using t.nodup⟩

@[simp] theorem get?_empty (k : κ) : (empty : Table κ β).get? k = none := rfl

theorem get?_put (t : Table κ β) (k k' : κ) (b : β) :
    (t.put k b).get? k' = if k' = k then some b else t.get? k' := by
  obtain ⟨es, hes⟩ := t
  show (putEntry k b es).lookup k' = if k' = k then some b else es.lookup k'
  clear hes
  induction es with
  | nil => simp [putEntry, lookup_cons]
  | cons e es ih =>
    by_cases h₀ : e.1 = k
    · by_cases h : k' = k <;> simp [putEntry, lookup_cons, h₀, h]
    · by_cases h : k' = e.1
      · simp [putEntry, lookup_cons, h, h₀]
      · simp [putEntry, lookup_cons, h, h₀, ih]

theorem get?_ofList {es : List (κ × β)} (h : (es.map Prod.fst).Nodup) (k : κ) :
    (ofList es).get? k = es.lookup k := by
  have hr (t : Table κ β) : (es.foldl (fun t e => t.put e.1 e.2) t).get? k
      = if k ∈ es.map Prod.fst then es.lookup k else t.get? k := by
    induction es generalizing t with
    | nil => rfl
    | cons e es ih =>
      rw [List.map_cons, List.nodup_cons] at h
      rw [List.foldl_cons, ih h.2, get?_put, lookup_cons]
      by_cases hk : k = e.1
      · subst hk
        simp [h.1]
      · simp only [List.map_cons, List.mem_cons, hk, false_or, if_false]
  show (es.foldl (fun t e => t.put e.1 e.2) empty).get? k = _
  rw [hr]
  split
  · rfl
  · next hk => exact (lookup_eq_none hk).symm

theorem mem_of_mem_ofList {es : List (κ × β)} {e : κ × β} :
    e ∈ (ofList es).entries → e ∈ es := by
  have hr (t : Table κ β) (h : e ∈ (es.foldl (fun t e => t.put e.1 e.2) t).entries) :
      e ∈ t.entries ∨ e ∈ es := by
    induction es generalizing t with
    | nil => exact .inl h
    | cons e' es ih =>
      obtain h | h := ih (t.put e'.1 e'.2) h
      · exact (mem_putEntry h).elim (fun he => .inr (he ▸ List.mem_cons_self)) .inl
      · exact .inr (List.mem_cons_of_mem e' h)
  exact fun h => (hr empty h).resolve_left List.not_mem_nil

theorem get?_mapValues (f : β → γ) (t : Table κ β) (k : κ) :
    (t.mapValues f).get? k = (t.get? k).map f :=
  lookup_mapSnd f t.entries k

theorem get?_of_mem {t : Table κ β} {k : κ} {b : β} (h : (k, b) ∈ t.entries) :
    t.get? k = some b := by
  have hm : (k, b) ∈ t.entries.filter fun e => e.1 = k := by simpa using h
  rw [filter_eq_lookup t.nodup] at hm
  simpa [get?] using hm

theorem mem_keys_iff {t : Table κ β} {k : κ} : k ∈ t.keys ↔ ∃ b, t.get? k = some b := by
  obtain ⟨es, hes⟩ := t
  show k ∈ es.map Prod.fst ↔ ∃ b, es.lookup k = some b
  clear hes
  induction es with
  | nil => simp
  | cons e es ih =>
    rw [List.map_cons, List.mem_cons, lookup_cons, ih]
    by_cases h : k = e.1 <;> simp [h]

theorem mem_entries_iff {t : Table κ β} {k : κ} {b : β} :
    (k, b) ∈ t.entries ↔ t.get? k = some b := by
  refine ⟨get?_of_mem, fun h => ?_⟩
  obtain ⟨⟨k', b'⟩, he, rfl⟩ := List.mem_map.1 (mem_keys_iff.2 ⟨b, h⟩)
  rw [get?_of_mem he] at h
  cases h
  exact he

theorem values_eq_map (t : Table κ β) (default : β) :
    t.values = t.keys.map fun k => (t.get? k).getD default := by
  rw [values, keys, List.map_map]
  refine List.map_congr_left fun e he => ?_
  rw [Function.comp_apply, get?_of_mem he]
  rfl

/-- Tables in which every look-up finds the same differ in the order of their entries only. -/
theorem entries_perm {t t' : Table κ β} (h : ∀ k, t.get? k = t'.get? k) :
    t.entries.Perm t'.entries := by
  have hn (t : Table κ β) : t.entries.Nodup :=
    (List.pairwise_map.1 t.nodup).imp fun hne h => hne (congrArg Prod.fst h)
  refine (List.perm_ext_iff_of_nodup (hn t) (hn t')).2 ?_
  rintro ⟨k, b⟩
  rw [mem_entries_iff, mem_entries_iff, h]

theorem keys_put (t : Table κ β) (k : κ) (b : β) :
    (t.put k b).keys = if k ∈ t.keys then t.keys else t.keys ++ [k] :=
  keys_putEntry k b t.entries

end Table
end Restock
