import Restock.Proofs.Parameters.Fields
import Restock.Scalar.Machine
import Restock.Wording

/-!
# What a caller is told

Parameters that cannot be built are reported by the field whose value is rejected, whatever was handed
in, with one exception: the conversion of the seasonality factors. It fails in ways of its own on a
value without items, and on an item that is no number at all or an integer too large for one
(`Raw.NoFactors`). Then, and only then, the caller hears of no field
(`Parameters.build_reported_iff`).
-/

namespace Restock

variable {α β : Type}

/-! ## Steps that name a field -/

/-- An error that names the field whose value, or an entry of it, is rejected. -/
def PlanError.NamesField (e : PlanError α) : Prop :=
  ∃ (field : Field) (entry : Option String) (reason : Rejection),
    e = .invalidParameter (.rejected field.key entry reason)

/-- A step that names a field whenever it fails. -/
def NamesField (x : Planned α β) : Prop := ∀ e, x = .error e → e.NamesField

/-- The field that a rejection is about stands first in what is reported. -/
theorem exists_field_eq_append (field : Field) (entry : Option String) (reason : Rejection) :
    ∃ rest, (ParameterFault.rejected field.key entry reason : ParameterFault α).field
      = field.key ++ rest := by
  cases entry with
  | none => exact ⟨"", (String.append_empty).symm⟩
  | some entry => exact ⟨"." ++ entry, String.append_assoc⟩

/-! ## Readers -/

theorem rejecting_ne_failed (read : Raw α → Except Rejection β) (r : Raw α) (e : PlanError α) :
    rejecting read r ≠ .error (.failed e) := by
  intro h
  obtain ⟨_, _, h⟩ := mapError_eq_error_iff.1 h
  cases h

namespace Raw

/-- A value that no number can be made of, and what comes of trying: nothing, a list and a mapping are
of the wrong kind, and an integer may be too large. -/
def NoNumber [Scalar α] : Raw α → PlanError α → Prop
  | .null, e => e = .kind
  | .list _, e => e = .kind
  | .mapping _, e => e = .kind
  | .integer n, e => Scalar.isFinite (Scalar.ofInt n : α) = false ∧ e = .integerTooLarge
  | .truth _, _ => False
  | .number _, _ => False
  | .text _, _ => False

/-- A value that no factors can be read from, and what comes of trying: it has no items, or its first
item that is not read as a factor is one that no number can be made of. -/
def NoFactors [Scalar α] : Raw α → PlanError α → Prop
  | .list items, e => ∃ before item after, items = before ++ item :: after
      ∧ (∀ b ∈ before, ∃ x, b.factor? = .ok x) ∧ item.NoNumber e
  | .text _, _ => False
  | .mapping _, _ => False
  | .null, e => e = .kind
  | .truth _, e => e = .kind
  | .integer _, e => e = .kind
  | .number _, e => e = .kind

variable [Scalar α] {r : Raw α} {e : PlanError α}

theorem capacities?_ne_failed (r : Raw α) (e : PlanError α) :
    r.capacities? ≠ .error (.failed e) := by
  intro h
  cases r with
  | mapping entries =>
      rcases Planned.bind_eq_error.1 h with h | ⟨capacities, _, h⟩
      · -- an entry that is no number is rejected
        obtain ⟨_, ⟨location, r⟩, _, _, _, h⟩ := mapM_eq_error_iff.1 h
        dsimp only at h
        split at h <;> cases h
      · split at h <;> cases h
  | _ => cases h

theorem factor?_eq_failed_iff : r.factor? = .error (.failed e) ↔ r.NoNumber e := by
  cases r with
  | integer n =>
      simp only [factor?, NoNumber]
      split
      · next h => simp [h]
      · next h => simp [h, eq_comm]
  | text s =>
      simp only [factor?, NoNumber]
      split <;> simp
  | _ => simp [factor?, NoNumber, eq_comm]

/-- Reading the factors fails where making numbers of the items does. -/
theorem factors?_eq_failed_iff_items {items : List (Raw α)} (h : r.items? = .ok items) :
    r.factors? = .error (.failed e) ↔ items.mapM factor? = .error (.failed e) := by
  unfold factors?
  rw [h]
  constructor
  · intro hf
    obtain hf | ⟨items', hi, hf⟩ := Planned.bind_eq_error.1 hf
    · cases hf
    cases hi
    obtain hf | ⟨xs, _, hf⟩ := Planned.bind_eq_error.1 hf
    · exact hf
    -- a wrong number of factors, and a negative one, are rejected
    split at hf
    · split at hf <;> cases hf
    · cases hf
  · intro hf
    exact Planned.bind_eq_error.2 (.inr ⟨items, rfl, Planned.bind_eq_error.2 (.inl hf)⟩)

/-- Of texts each is read or rejected. -/
theorem mapM_factor?_text_ne_failed (texts : List String) (e : PlanError α) :
    (texts.map Raw.text).mapM factor? ≠ .error (.failed e) := by
  intro h
  obtain ⟨before, item, after, he, _, hf⟩ := mapM_eq_error_iff.1 h
  have hm : item ∈ texts.map Raw.text := by
    rw [he]
    simp
  obtain ⟨s, _, rfl⟩ := List.mem_map.1 hm
  exact factor?_eq_failed_iff.1 hf

theorem factors?_eq_failed_iff : r.factors? = .error (.failed e) ↔ r.NoFactors e := by
  cases r with
  | list items =>
      rw [factors?_eq_failed_iff_items rfl, mapM_eq_error_iff]
      simp only [factor?_eq_failed_iff]
      rfl
  | text s =>
      have ht : (text s : Raw α).items? = .ok ((s.toList.map String.singleton).map text) := by
        rw [List.map_map]
        rfl
      rw [factors?_eq_failed_iff_items ht]
      exact iff_of_false (mapM_factor?_text_ne_failed _ e) not_false
  | mapping entries =>
      have ht : (mapping entries).items? = .ok ((entries.map Prod.fst).map text) := by
        rw [List.map_map]
        rfl
      rw [factors?_eq_failed_iff_items ht]
      exact iff_of_false (mapM_factor?_text_ne_failed _ e) not_false
  | _ =>
      -- a value without items fails before anything is read
      show Except.error (Refusal.failed .kind) = .error (.failed e) ↔ e = .kind
      simp [eq_comm]

end Raw

/-! ## Parameters -/

variable [Scalar α]

variable {given : List (String × Raw α)}

/-- Once the factors have been converted, what keeps a field from being read is a rejection of its
value, or of an entry of it, under the field's key. -/
theorem exists_rejected_of_readValue (h : factorFailure? given = none) {field : Field}
    {e : PlanError α} (he : readValue given field = .error e) :
    ∃ entry reason, e = .invalidParameter (.rejected field.key entry reason) := by
  obtain ⟨r, refusal, hr, hread, rfl⟩ := readField_eq_error_iff.1 he
  cases refusal with
  | rejected entry reason => exact ⟨entry, reason, rfl⟩
  | failed e =>
      exfalso
      cases field with
      | seasonalityFactors =>
          rw [factorFailure?_eq_some_iff.2 ⟨r, hr, hread⟩] at h
          cases h
      | storageConstraints => exact Raw.capacities?_ne_failed r e hread
      | _ => exact rejecting_ne_failed _ r e hread

namespace Parameters

/-- Once the factors have been converted, each field is rejected by name or taken. -/
theorem namesField_build (h : factorFailure? given = none) : NamesField (build given) := by
  intro e he
  obtain ⟨_, field, _, _, _, hfield⟩ := (build_eq_error_iff h).1 he
  obtain ⟨entry, reason, he⟩ := exists_rejected_of_readValue h hfield
  exact ⟨field, entry, reason, he⟩

/-- Whether building parameters ends as a caller may expect: with parameters, or with a parameter at
fault, reported under the name of a field. -/
def Reported (given : List (String × Raw α)) : Prop :=
  (∃ p, build given = .ok p)
    ∨ ∃ fault, build given = .error (.invalidParameter fault)
      ∧ ∃ field ∈ Field.all, ∃ rest, fault.field = field.key ++ rest

theorem reported_of_namesField (h : NamesField (build given)) : Reported given := by
  cases hb : build given with
  | ok p => exact .inl ⟨p, hb⟩
  | error e =>
      obtain ⟨field, entry, reason, rfl⟩ := h e hb
      exact .inr ⟨_, hb, field, field.mem_all, exists_field_eq_append field entry reason⟩

/-- Factors that cannot be converted are all that is heard of, whatever else is given: the failure is
a wrong kind or an integer too large, and no parameter is said to be at fault. -/
theorem build_of_noFactors {r : Raw α} {e : PlanError α}
    (hr : given.lookup Field.seasonalityFactors.key = some r) (he : r.NoFactors e) :
    build given = .error e :=
  build_of_failure (factorFailure?_eq_some_iff.2 ⟨r, hr, Raw.factors?_eq_failed_iff.2 he⟩)

end Parameters

theorem Raw.NoNumber.ne_invalidParameter {r : Raw α} {fault : ParameterFault α} :
    ¬ r.NoNumber (.invalidParameter fault) := by
  cases r <;> simp [NoNumber]

theorem Raw.NoFactors.ne_invalidParameter {r : Raw α} {fault : ParameterFault α} :
    ¬ r.NoFactors (.invalidParameter fault) := by
  cases r with
  | list items =>
      rintro ⟨_, item, _, _, _, h⟩
      exact h.ne_invalidParameter
  | _ => simp [NoFactors]

namespace Parameters

/-- Building parameters reports what is wrong under the name of a field, for whatever is given,
exactly as long as the seasonality factors can be converted; where they cannot, the conversion's own
failure is what the caller gets. -/
theorem build_reported_iff (given : List (String × Raw α)) :
    (Reported given ↔
      ∀ r, given.lookup Field.seasonalityFactors.key = some r → ∀ e, ¬ r.NoFactors e)
    ∧ ∀ r, given.lookup Field.seasonalityFactors.key = some r →
        ∀ e, r.NoFactors e → build given = .error e := by
  refine ⟨⟨?_, ?_⟩, fun r hr e he => build_of_noFactors hr he⟩
  · intro h r hr e he
    have hb := build_of_noFactors hr he
    obtain ⟨p, hp⟩ | ⟨fault, hf, _⟩ := h
    · cases hb.symm.trans hp
    · cases hb.symm.trans hf
      exact he.ne_invalidParameter
  · intro h
    apply reported_of_namesField
    apply namesField_build
    -- a failure would come of a value that no factors can be read from
    cases hf : factorFailure? given with
    | none => rfl
    | some e =>
        obtain ⟨r, hr, he⟩ := factorFailure?_eq_some_iff.1 hf
        exact absurd (Raw.factors?_eq_failed_iff.1 he) (h r hr e)

/-- Factors given as no value at all: nothing is built, and the caller hears of a wrong kind without
being told which parameter it is about. -/
theorem not_reported_null :
    ¬ Reported [(Field.seasonalityFactors.key, (.null : Raw Float))] := by
  have hb : build [(Field.seasonalityFactors.key, (.null : Raw Float))] = .error .kind := rfl
  rintro (⟨p, hp⟩ | ⟨fault, hf, _⟩)
  · cases hb.symm.trans hp
  · cases hb.symm.trans hf

end Parameters

end Restock
