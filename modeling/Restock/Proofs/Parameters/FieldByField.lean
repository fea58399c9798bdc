import Restock.Proofs.Parameters.Reporting

/-!
# One field at a time

Parameters are put together from fields that do not interfere. `only` is what is given for one field.
A field is read from it as it is read among all others (`readValue_only_self`), while every other field
has its default there; so whether the whole can be built, what is reported of it and what it holds are
told by building it from one field at a time (`Parameters.build_fieldByField`).
-/

namespace Restock

variable {α : Type}

/-! ## One field alone -/

/-- What is given for a field, without anything else. -/
def only (given : List (String × Raw α)) (field : Field) : List (String × Raw α) :=
  given.filter fun entry => entry.1 = field.key

theorem lookup_only (given : List (String × Raw α)) (field field' : Field) :
    (only given field).lookup field'.key
      = if field' = field then given.lookup field.key else none := by
  rw [only, lookup_filter fun key => decide (key = field.key)]
  by_cases h : field' = field
  · simp [h]
  · have hk : field'.key ≠ field.key := fun hk => h (Field.key_injective hk)
    simp [h, hk]

variable [Scalar α] {given : List (String × Raw α)} {field : Field}

theorem readValue_only_self : readValue (only given field) field = readValue given field :=
  readValue_congr (by rw [lookup_only, if_pos rfl])

theorem readValue_only_of_ne {field' : Field} (h : field' ≠ field) :
    readValue (only given field) field' = .ok (Parameters.default.value field') := by
  rw [readValue, readField, lookup_only, if_neg h]

theorem factorFailure?_congr {given' : List (String × Raw α)}
    (h : given'.lookup Field.seasonalityFactors.key = given.lookup Field.seasonalityFactors.key) :
    factorFailure? given' = factorFailure? given := by
  rw [factorFailure?, factorFailure?, h]

theorem factorFailure?_only (h : factorFailure? given = none) (field : Field) :
    factorFailure? (only given field) = none := by
  by_cases hf : Field.seasonalityFactors = field
  · rw [← h, ← hf]
    exact factorFailure?_congr (by rw [lookup_only, if_pos rfl])
  · rw [factorFailure?, lookup_only, if_neg hf]
    rfl

theorem factorFailure?_eq_none
    (h : ∀ r, given.lookup Field.seasonalityFactors.key = some r → ∀ e, ¬ r.NoFactors e) :
    factorFailure? given = none := by
  cases hf : factorFailure? given with
  | none => rfl
  | some e =>
      obtain ⟨r, hr, he⟩ := factorFailure?_eq_some_iff.1 hf
      exact absurd (Raw.factors?_eq_failed_iff.1 he) (h r hr e)

namespace Parameters

/-- What is reported of a field alone is what keeps it from being read among others. -/
theorem build_only_eq_error_iff (h : factorFailure? given = none) {e : PlanError α} :
    build (only given field) = .error e ↔ readValue given field = .error e := by
  rw [build_eq_error_iff (factorFailure?_only h field)]
  constructor
  · rintro ⟨_, field', _, _, _, he⟩
    -- the other fields have their defaults, so none of them can be the one that fails
    by_cases hf : field' = field
    · subst hf
      rwa [readValue_only_self] at he
    · rw [readValue_only_of_ne hf] at he
      cases he
  · intro he
    obtain ⟨before, after, hall, hbefore⟩ := List.eq_append_cons_of_mem field.mem_all
    refine ⟨before, field, after, hall, ?_, readValue_only_self.trans he⟩
    intro earlier hm
    exact ⟨_, readValue_only_of_ne fun hf => hbefore (hf ▸ hm)⟩

theorem exists_build_only_iff (h : factorFailure? given = none) :
    (∃ p, build (only given field) = .ok p) ↔ ∃ v, readValue given field = .ok v := by
  have he (e : PlanError α) : build (only given field) = .error e ↔ readValue given field = .error e :=
    build_only_eq_error_iff h
  cases hb : build (only given field) with
  | ok p =>
      cases hv : readValue given field with
      | ok v => simp
      | error e => cases hb.symm.trans ((he e).2 hv)
  | error e =>
      rw [(he e).1 hb]
      simp

/-- Parameters are built alike from what has the same values under the keys of the fields. -/
theorem build_congr {given given' : List (String × Raw α)}
    (h : ∀ field : Field, given'.lookup field.key = given.lookup field.key) :
    build given' = build given := by
  unfold build
  simp only [factorFailure?, readField, h]

/-! ## The whole -/

/-- What can be relied on when parameters are built from certain values. -/
structure FieldByField (given : List (String × Raw α)) : Prop where
  /-- They cannot be built exactly when some field cannot be, alone. -/
  fails_iff : (∃ e, build given = .error e) ↔ ∃ field e, build (only given field) = .error e
  /-- Of the fields that cannot be built alone the first one is reported, with what is reported of it
  alone, under its own key. -/
  first : ∀ before field after, Field.all = before ++ field :: after →
    (∀ earlier ∈ before, ∃ p, build (only given earlier) = .ok p) →
    ∀ e, build (only given field) = .error e → build given = .error e
      ∧ ∃ entry reason, e = .invalidParameter (.rejected field.key entry reason)
  /-- Each field holds what it holds when it is given alone. -/
  alone : ∀ p, build given = .ok p →
    ∀ field, ∃ q, build (only given field) = .ok q ∧ p.value field = q.value field
  /-- A field that is not given has its default. -/
  missing : ∀ p, build given = .ok p →
    ∀ field, given.lookup field.key = none → p.value field = default.value field
  /-- Neither the order in which values are given matters, nor what is given under other keys. -/
  rearranged : ∀ given', (∀ field : Field, given'.lookup field.key = given.lookup field.key) →
    build given' = build given

/-- **Fields do not interfere**, as long as the conversion of the factors fails in no way of its
own. -/
theorem build_fieldByField (given : List (String × Raw α))
    (h : ∀ r, given.lookup Field.seasonalityFactors.key = some r → ∀ e, ¬ r.NoFactors e) :
    FieldByField given := by
  have hfactors : factorFailure? given = none := factorFailure?_eq_none h
  constructor
  case fails_iff =>
    constructor
    · rintro ⟨e, he⟩
      obtain ⟨_, field, _, _, _, he⟩ := (build_eq_error_iff hfactors).1 he
      exact ⟨field, e, (build_only_eq_error_iff hfactors).2 he⟩
    · rintro ⟨field, e, he⟩
      have he := (build_only_eq_error_iff hfactors).1 he
      cases hb : build given with
      | error e' => exact ⟨e', rfl⟩
      | ok p => cases (readFrom_iff.1 (build_eq_ok_iff.1 hb) field).symm.trans he
  case first =>
    intro before field after hall hbefore e he
    have he := (build_only_eq_error_iff hfactors).1 he
    refine ⟨(build_eq_error_iff hfactors).2 ⟨before, field, after, hall, ?_, he⟩,
      exists_rejected_of_readValue hfactors he⟩
    intro earlier hm
    exact (exists_build_only_iff hfactors).1 (hbefore earlier hm)
  case alone =>
    intro p hp field
    have hv := readFrom_iff.1 (build_eq_ok_iff.1 hp) field
    obtain ⟨q, hq⟩ := (exists_build_only_iff hfactors).2 ⟨_, hv⟩
    have hw := readFrom_iff.1 (build_eq_ok_iff.1 hq) field
    rw [readValue_only_self, hv] at hw
    exact ⟨q, hq, Except.ok.inj hw⟩
  case missing =>
    intro p hp field hm
    have hv := readFrom_iff.1 (build_eq_ok_iff.1 hp) field
    rw [readValue, readField, hm] at hv
    exact (Except.ok.inj hv).symm
  case rearranged => exact fun _ => build_congr

/-- Values for three fields and for something else, none of which can be read. -/
def threeUnreadable : List (String × Raw Float) :=
  [(Field.leadTimeDays.key, .null), ("colour", .null),
   (Field.seasonalityFactors.key, .text "many"), (Field.orderingCost.key, .list [])]

/-- Of the three the ordering cost is the one that is reported, though it was given last. -/
theorem build_threeUnreadable :
    build threeUnreadable
      = .error (.invalidParameter (.rejected "ordering_cost" none .notANumber)) := by
  have hfactors : ∀ r, threeUnreadable.lookup Field.seasonalityFactors.key = some r →
      ∀ e, ¬ r.NoFactors e := by
    intro r hr
    cases hr
    exact fun e => id
  refine ((build_fieldByField threeUnreadable hfactors).first
    [.targetServiceLevel, .holdingCostRate] .orderingCost _ rfl ?_ _ rfl).1
  intro earlier hm
  simp only [List.mem_cons, List.not_mem_nil, or_false] at hm
  rcases hm with rfl | rfl
  · exact ⟨_, rfl⟩
  · exact ⟨_, rfl⟩

end Parameters

end Restock
