import Restock.Scalar
import Restock.Calendar.Day

/-!
Why a plan cannot be made. Each constructor is a cause; the wording of all of them is in
`Restock.Wording`.
-/
namespace Restock

/-- Which rule a parameter's own value breaks. -/
inductive Rejection where
  | notANumber
  | unreadableNumber
  | notBelowOne
  | notAboveZero
  | belowZero
  | notAMapping
  | factorCount (count : Nat)
  | negativeFactor
  | unreadableFactor (text : String)
  | negativeCapacity (location : String)
deriving DecidableEq

/-- An argument outside the domain of the operation that it was given to. -/
inductive ParameterFault (α : Type) where
  | lotSize (annualDemand orderingCost holdingRate : α)
  | serviceLevel
  | negativeLeadTime (days : α)
  | horizon (days : Int)
  | negativeStock (units : α)
  | analysisPeriod (months : Int)
  | negativeBaseStock (units : α)
  | reviewPeriod (days : Int)
  | turnoverTarget (ratio : α)
  /-- The value given for a field, or for an entry of it, is rejected. -/
  | rejected (field : String) (entry : Option String) (reason : Rejection)

/-- What a history was wanted for when it turned out empty. -/
inductive Purpose where
  | stocking
  | forecast
  | seasonality
deriving DecidableEq

/-- What was being read from a source when it failed. -/
inductive Read where
  | stock (product location : String)
  | history (product location : String)
  | products (location : String)
  | stockLevels (location : String)
deriving DecidableEq

/-- An operation on numbers without a result. -/
inductive ArithmeticFault where
  | divisionByZero
  | powerTooLarge
  | rootOfNegative
  | integerOfNaN
  | integerOfInfinity
deriving DecidableEq

/-- Lists, windows or positions that do not fit each other. -/
inductive ShapeFault where
  | lengths
  | selection
  | window
  | position
deriving DecidableEq

/-- Why a plan cannot be made. -/
inductive PlanError (α : Type) where
  | invalidParameter (fault : ParameterFault α)
  | invalidDemand (quantity : α) (day : Day)
  | insufficientData (purpose : Purpose) (product location : String)
  | sourceFailure (read : Read)
  /-- A day before the year 1 or after the year 9999. -/
  | calendar
  | arithmetic (fault : ArithmeticFault)
  | shape (fault : ShapeFault)
  /-- A value of a kind that the operation cannot take. -/
  | kind
  /-- An integer too large for the number system. -/
  | integerTooLarge

/-- A result, or why there is none. -/
abbrev Planned (α β : Type) := Except (PlanError α) β

/-- Whether a run over many products goes on without a product that fails this way: there is nothing
to compute from, or no positive demand. -/
def PlanError.skippable {α : Type} : PlanError α → Bool
  | .invalidParameter _ => true
  | .insufficientData .. => true
  | _ => false

namespace Planned
variable {α β γ : Type}

@[simp] theorem pure_eq_ok (b : β) : (pure b : Planned α β) = .ok b := rfl

@[simp] theorem throw_eq_error (e : PlanError α) : (throw e : Planned α β) = .error e := rfl

@[simp] theorem ok_bind (b : β) (f : β → Planned α γ) : ((.ok b : Planned α β) >>= f) = f b := rfl

@[simp] theorem error_bind (e : PlanError α) (f : β → Planned α γ) :
    ((.error e : Planned α β) >>= f) = .error e := rfl

/-- A step and what follows it give a result exactly when both do, whatever the errors are. -/
theorem bind_eq_ok {ε : Type} {x : Except ε β} {f : β → Except ε γ} {c : γ} :
    x >>= f = .ok c ↔ ∃ b, x = .ok b ∧ f b = .ok c := by
  cases x with
  | error e =>
    constructor
    · intro h
      cases h
    · rintro ⟨b, hb, _⟩
      cases hb
  | ok b =>
    constructor
    · intro h
      exact ⟨b, rfl, h⟩
    · rintro ⟨b', hb, h⟩
      cases hb
      exact h

/-- A step and what follows it fail where the first of the two fails. -/
theorem bind_eq_error {ε : Type} {x : Except ε β} {f : β → Except ε γ} {e : ε} :
    x >>= f = .error e ↔ x = .error e ∨ ∃ b, x = .ok b ∧ f b = .error e := by
  cases x with
  | error e' =>
    constructor
    · intro h
      cases h
      exact .inl rfl
    · rintro (h | ⟨b, hb, _⟩)
      · cases h
        rfl
      · cases hb
  | ok b =>
    constructor
    · intro h
      exact .inr ⟨b, rfl, h⟩
    · rintro (h | ⟨b', hb, h⟩)
      · cases h
      · cases hb
        exact h

theorem map_eq_ok {ε : Type} {x : Except ε β} {f : β → γ} {c : γ} :
    x.map f = .ok c ↔ ∃ b, x = .ok b ∧ c = f b := by
  cases x <;> simp [Except.map, eq_comm]

/-- A last step that cannot fail gives a result exactly when the one before it does. -/
theorem exists_bind_ok_iff {ε : Type} {x : Except ε β} {f : β → γ} :
    (∃ c, (x >>= fun b => Except.ok (f b)) = .ok c) ↔ ∃ b, x = .ok b := by
  constructor
  · rintro ⟨c, h⟩
    obtain ⟨b, hb, _⟩ := bind_eq_ok.1 h
    exact ⟨b, hb⟩
  · rintro ⟨b, hb⟩
    exact ⟨f b, bind_eq_ok.2 ⟨b, hb, rfl⟩⟩

end Planned

/-- Fails with a calendar error where a day is missing. -/
def inCalendar {α β : Type} : Option β → Planned α β
  | some b => .ok b
  | none => .error .calendar

end Restock
