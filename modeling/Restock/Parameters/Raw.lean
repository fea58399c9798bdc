import Restock.Scalar

/-!
Values as a caller hands them in, before anything is known about their kind.
-/
namespace Restock

/-- A value of any kind. -/
inductive Raw (α : Type) where
  | null
  | truth (holds : Bool)
  | integer (n : Int)
  | number (x : α)
  | text (s : String)
  | list (items : List (Raw α))
  | mapping (entries : List (String × Raw α))

end Restock
