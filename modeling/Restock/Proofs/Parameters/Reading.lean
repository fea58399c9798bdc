import Restock.Parameters.Build

/-!
# Reading parameters

Parameters are built exactly when every field that is given can be read; each of their fields then is
what was read, or its default (`Parameters.build_eq_ok_iff`). A reader refuses a value in one of two
ways. Most can only reject it; the factors alone can fail in another way, and then that failure is
all that is heard of (`factorFailure?_eq_some_iff`).
-/

namespace Restock

/-! ## Lists of values -/

section
variable {ε β γ : Type} {f : β → Except ε γ}

/-- What fails in a list is its first item that fails. -/
theorem mapM_eq_error_iff {xs : List β} {e : ε} :
    xs.mapM f = .error e ↔ ∃ before x after, xs = before ++ x :: after
      ∧ (∀ b ∈ before, ∃ y, f b = .ok y) ∧ f x = .error e := by
  induction xs with
  | nil =>
      refine ⟨(fun h => by cases h), ?_⟩
      rintro ⟨before, x, after, h, _⟩
      cases before <;> cases h
  | cons x xs ih =>
      rw [List.mapM_cons]
      cases hx : f x with
      | error e' =>
          constructor
          · intro h
            cases h
            exact ⟨[], x, xs, rfl, fun _ hb => absurd hb List.not_mem_nil, hx⟩
          · rintro ⟨before, x', after, h, hb, he⟩
            cases before with
            | nil =>
                cases h
                cases hx.symm.trans he
                rfl
            | cons b before =>
                cases h
                obtain ⟨y, hy⟩ := hb x List.mem_cons_self
                cases hx.symm.trans hy
      | ok y =>
          have hr : (Except.ok y >>= fun y => xs.mapM f >>= fun ys => pure (y :: ys)) = .error e
              ↔ xs.mapM f = .error e := by
            cases xs.mapM f with
            | error e' => exact Iff.rfl
            | ok ys => constructor <;> intro h <;> cases h
          rw [hr, ih]
          constructor
          · rintro ⟨before, x', after, rfl, hb, he⟩
            refine ⟨x :: before, x', after, rfl, ?_, he⟩
            exact List.forall_mem_cons.2 ⟨⟨y, hx⟩, hb⟩
          · rintro ⟨before, x', after, h, hb, he⟩
            cases before with
            | nil =>
                cases h
                cases hx.symm.trans he
            | cons b before =>
                cases h
                exact ⟨before, x', after, rfl, (List.forall_mem_cons.1 hb).2, he⟩

theorem mapError_eq_ok_iff {x : Except ε β} {g : ε → γ} {b : β} :
    x.mapError g = .ok b ↔ x = .ok b := by
  cases x with
  | error e => constructor <;> intro h <;> cases h
  | ok b' =>
      constructor
      · intro h
        cases h
        rfl
      · intro h
        cases h
        rfl

theorem mapError_eq_error_iff {x : Except ε β} {g : ε → γ} {e : γ} :
    x.mapError g = .error e ↔ ∃ e', x = .error e' ∧ g e' = e := by
  cases x with
  | error e' =>
      constructor
      · intro h
        cases h
        exact ⟨e', rfl, rfl⟩
      · rintro ⟨_, h, rfl⟩
        cases h
        rfl
  | ok b =>
      constructor
      · intro h
        cases h
      · rintro ⟨_, h, _⟩
        cases h

end

/-! ## Fields -/

section
variable {α β : Type} {given : List (String × Raw α)} {field : Field} {default b : β}
  {read : Raw α → Except (Refusal α) β}

theorem readField_eq_ok_iff :
    readField given field read default = .ok b ↔
      (given.lookup field.key = none ∧ default = b)
        ∨ ∃ r, given.lookup field.key = some r ∧ read r = .ok b := by
  unfold readField
  cases given.lookup field.key with
  | none => simp
  | some r => simp [mapError_eq_ok_iff]

theorem readField_eq_error_iff {e : PlanError α} :
    readField given field read default = .error e ↔
      ∃ r refusal, given.lookup field.key = some r ∧ read r = .error refusal
        ∧ refusal.error field = e := by
  unfold readField
  cases given.lookup field.key with
  | none => simp
  | some r => simp [mapError_eq_error_iff]

/-- A reader that keeps to a property makes the field have it, as long as the default has it too. -/
theorem readField_keeps {P : β → Prop} (hd : P default) (hr : ∀ r b, read r = .ok b → P b)
    (h : readField given field read default = .ok b) : P b := by
  obtain ⟨_, rfl⟩ | ⟨r, _, hb⟩ := readField_eq_ok_iff.1 h
  · exact hd
  · exact hr r b hb

end

variable {α : Type} [Scalar α]

/-! ## Numbers -/

/-- Whether a number lies in a domain. -/
def Domain.Admits : Domain → α → Prop
  | .any, _ => True
  | .nonnegative, x => 0 ≤ x
  | .positive, x => 0 < x
  | .probability, x => 0 < x ∧ x < 1

theorem Domain.check_eq_ok_iff {domain : Domain} {x y : α} :
    domain.check x = .ok y ↔ domain.Admits x ∧ x = y := by
  cases domain with
  | any => simp [check, Admits]
  | nonnegative => by_cases h : 0 ≤ x <;> simp [check, Admits, h]
  | positive => by_cases h : 0 < x <;> simp [check, Admits, h]
  | probability =>
      by_cases h₁ : x < 1
      · by_cases h₀ : 0 < x <;> simp [check, Admits, h₁, h₀]
      · simp [check, Admits, h₁]

theorem factorFailure?_eq_some_iff {given : List (String × Raw α)} {e : PlanError α} :
    factorFailure? given = some e ↔
      ∃ r, given.lookup Field.seasonalityFactors.key = some r ∧ r.factors? = .error (.failed e) := by
  unfold factorFailure?
  cases given.lookup Field.seasonalityFactors.key with
  | none => simp
  | some r => cases h : r.factors? with
    | ok xs => simp [h]
    | error refusal => cases refusal <;> simp [h]

/-! ## All fields -/

/-- Reads the number of a field. -/
def readNumber (given : List (String × Raw α)) (field : Field) (domain : Domain) (default : α) :
    Planned α α :=
  readField given field (rejecting (Raw.numberIn? domain)) default

/-- A number of the domain is taken as it is. -/
theorem readNumber_of_admits {given : List (String × Raw α)} {field : Field} {domain : Domain}
    {default x : α} (hl : given.lookup field.key = some (.number x)) (hx : domain.Admits x) :
    readNumber given field domain default = .ok x := by
  refine readField_eq_ok_iff.2 (.inr ⟨.number x, hl, mapError_eq_ok_iff.2 ?_⟩)
  exact Domain.check_eq_ok_iff.2 ⟨hx, rfl⟩

namespace Parameters

/-- Parameters each field of which was read from what is given, or has its default. -/
structure ReadFrom (given : List (String × Raw α)) (p : Parameters α) : Prop where
  targetServiceLevel : readNumber given .targetServiceLevel .probability
    default.targetServiceLevel = .ok p.targetServiceLevel
  holdingCostRate : readNumber given .holdingCostRate .positive
    default.holdingCostRate = .ok p.holdingCostRate
  orderingCost : readNumber given .orderingCost .positive default.orderingCost = .ok p.orderingCost
  stockoutCost : readNumber given .stockoutCost .nonnegative
    default.stockoutCost = .ok p.stockoutCost
  leadTimeVariability : readNumber given .leadTimeVariability .nonnegative
    default.leadTimeVariability = .ok p.leadTimeVariability
  demandVariability : readNumber given .demandVariability .nonnegative
    default.demandVariability = .ok p.demandVariability
  seasonalityFactors : readField given .seasonalityFactors Raw.factors?
    default.seasonalityFactors = .ok p.seasonalityFactors
  trendFactor : readNumber given .trendFactor .any default.trendFactor = .ok p.trendFactor
  maxInventoryInvestment : readField given .maxInventoryInvestment
    (rejecting (Raw.optionalIn? .nonnegative)) default.maxInventoryInvestment
    = .ok p.maxInventoryInvestment
  storageConstraints : readField given .storageConstraints Raw.capacities?
    default.storageConstraints = .ok p.storageConstraints
  leadTimeDays : readNumber given .leadTimeDays .positive default.leadTimeDays = .ok p.leadTimeDays

theorem build_of_failure {given : List (String × Raw α)} {e : PlanError α}
    (h : factorFailure? given = some e) : build given = .error e := by
  simp only [build, h]
  rfl

theorem build_eq_ok_iff {given : List (String × Raw α)} {p : Parameters α} :
    build given = .ok p ↔ ReadFrom given p := by
  cases hf : factorFailure? given with
  | some e =>
      rw [build_of_failure hf]
      refine ⟨(fun h => by cases h), fun h => ?_⟩
      obtain ⟨r, hr, he⟩ := factorFailure?_eq_some_iff.1 hf
      obtain ⟨hn, _⟩ | ⟨r', hr', hx⟩ := readField_eq_ok_iff.1 h.seasonalityFactors
      · cases hr.symm.trans hn
      · cases hr.symm.trans hr'
        cases he.symm.trans hx
  | none =>
      simp only [build, hf]
      constructor
      · intro h
        obtain ⟨_, h₁, h⟩ := Planned.bind_eq_ok.1 h
        obtain ⟨_, h₂, h⟩ := Planned.bind_eq_ok.1 h
        obtain ⟨_, h₃, h⟩ := Planned.bind_eq_ok.1 h
        obtain ⟨_, h₄, h⟩ := Planned.bind_eq_ok.1 h
        obtain ⟨_, h₅, h⟩ := Planned.bind_eq_ok.1 h
        obtain ⟨_, h₆, h⟩ := Planned.bind_eq_ok.1 h
        obtain ⟨_, h₇, h⟩ := Planned.bind_eq_ok.1 h
        obtain ⟨_, h₈, h⟩ := Planned.bind_eq_ok.1 h
        obtain ⟨_, h₉, h⟩ := Planned.bind_eq_ok.1 h
        obtain ⟨_, h₁₀, h⟩ := Planned.bind_eq_ok.1 h
        obtain ⟨_, h₁₁, h⟩ := Planned.bind_eq_ok.1 h
        cases h
        exact ⟨h₁, h₂, h₃, h₄, h₅, h₆, h₇, h₈, h₉, h₁₀, h₁₁⟩
      · rintro ⟨h₁, h₂, h₃, h₄, h₅, h₆, h₇, h₈, h₉, h₁₀, h₁₁⟩
        simp only [readNumber] at h₁ h₂ h₃ h₄ h₅ h₆ h₈ h₁₁
        rw [h₁, h₂, h₃, h₄, h₅, h₆, h₇, h₈, h₉, h₁₀, h₁₁]
        rfl

end Parameters

end Restock
