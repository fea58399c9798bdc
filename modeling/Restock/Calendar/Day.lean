/-!
Calendar days of the years 1 to 9999, counted from the first of them. Moving a day out of that range
fails. A span holds each day from its first to its last one once, in order (`Day.mem_span`,
`Day.pairwise_span`).
-/
namespace Restock

/-- A calendar month, January being 0. -/
abbrev Month := Fin 12

namespace Month

/-- The number of a month, from 1 to 12. -/
def number (m : Month) : Nat := m.val + 1

def all : List Month := List.finRange 12

end Month

/-- A calendar day; day 1 is the first of January of the year 1. -/
structure Day where
  ordinal : Int
  one_le : 1 ≤ ordinal
  le_last : ordinal ≤ 3652059
deriving DecidableEq

namespace Day

def lastOrdinal : Int := 3652059

/-- The day with an ordinal, if it lies in the calendar. -/
def ofOrdinal? (n : Int) : Option Day :=
  if h : 1 ≤ n ∧ n ≤ 3652059 then some ⟨n, h.1, h.2⟩ else none

/-- The day `k` days later, or earlier for a negative `k`. -/
def shift? (d : Day) (k : Int) : Option Day := ofOrdinal? (d.ordinal + k)

instance : LE Day := ⟨fun a b => a.ordinal ≤ b.ordinal⟩
instance : LT Day := ⟨fun a b => a.ordinal < b.ordinal⟩
instance (a b : Day) : Decidable (a ≤ b) := inferInstanceAs (Decidable (a.ordinal ≤ b.ordinal))
instance (a b : Day) : Decidable (a < b) := inferInstanceAs (Decidable (a.ordinal < b.ordinal))

/-- The days from `first` on, `count` of them, as far as the calendar goes. -/
def run (first : Day) (count : Nat) : List Day :=
  (List.range count).filterMap fun (k : Nat) => first.shift? k

/-- All days from `first` to `last`, both included; none when `last` comes earlier. -/
def span (first last : Day) : List Day := first.run (last.ordinal - first.ordinal + 1).toNat

@[simp] theorem ofOrdinal?_ordinal (d : Day) : ofOrdinal? d.ordinal = some d := by
  simp [ofOrdinal?, d.one_le, d.le_last]

@[simp] theorem shift?_zero (d : Day) : d.shift? 0 = some d := by
  simp [shift?]

theorem ordinal_of_shift? {d e : Day} {k : Int} (h : d.shift? k = some e) :
    e.ordinal = d.ordinal + k := by
  unfold shift? ofOrdinal? at h
  split at h
  · simp only [Option.some.injEq] at h
    simp [← h]
  · simp at h

theorem shift?_eq_some_iff {d e : Day} {k : Int} :
    d.shift? k = some e ↔ e.ordinal = d.ordinal + k := by
  constructor
  · exact ordinal_of_shift?
  · intro h
    rw [shift?, ← h, ofOrdinal?_ordinal]

theorem le_iff {a b : Day} : a ≤ b ↔ a.ordinal ≤ b.ordinal := Iff.rfl

theorem lt_iff {a b : Day} : a < b ↔ a.ordinal < b.ordinal := Iff.rfl

theorem le_refl (a : Day) : a ≤ a := Int.le_refl a.ordinal

theorem le_trans {a b c : Day} (hab : a ≤ b) (hbc : b ≤ c) : a ≤ c := Int.le_trans hab hbc

theorem lt_irrefl (a : Day) : ¬ a < a := Int.lt_irrefl a.ordinal

theorem lt_asymm {a b : Day} (h : a < b) : ¬ b < a := Int.lt_asymm h

theorem lt_of_le_of_ne {a b : Day} (h : a ≤ b) (hne : a ≠ b) : a < b := by
  have hne' : a.ordinal ≠ b.ordinal := fun he => hne (by cases a; cases b; simp_all)
  rw [le_iff] at h
  rw [lt_iff]
  omega

theorem nodup_of_pairwise {days : List Day} (h : days.Pairwise (· < ·)) : days.Nodup := by
  apply List.Pairwise.imp _ h
  rintro a _ hab rfl
  exact lt_irrefl a hab

theorem mem_run {first d : Day} {count : Nat} :
    d ∈ first.run count ↔ first ≤ d ∧ d.ordinal < first.ordinal + count := by
  simp only [run, List.mem_filterMap, List.mem_range, le_iff]
  constructor
  · rintro ⟨k, hk, h⟩
    have := ordinal_of_shift? h
    omega
  · rintro ⟨h, hd⟩
    refine ⟨(d.ordinal - first.ordinal).toNat, by omega, ?_⟩
    rw [shift?_eq_some_iff]
    omega

theorem pairwise_run (first : Day) (count : Nat) : (first.run count).Pairwise (· < ·) := by
  refine List.pairwise_filterMap.2 (List.pairwise_lt_range.imp ?_)
  intro j k hjk a ha b hb
  have := ordinal_of_shift? ha
  have := ordinal_of_shift? hb
  rw [lt_iff]
  omega

@[simp] theorem mem_span {first last d : Day} : d ∈ first.span last ↔ first ≤ d ∧ d ≤ last := by
  simp only [span, mem_run, le_iff]
  omega

theorem pairwise_span (first last : Day) : (first.span last).Pairwise (· < ·) :=
  pairwise_run _ _

end Day
end Restock
