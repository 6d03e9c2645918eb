/-!
# Tables of code points

A property of characters is given as a list of closed ranges of code points in increasing order.
Looking up a code point reads the list only as far as the first range that does not end before it,
so the order of the ranges is what makes the look-up right: `covers_iff` says that it then finds
exactly the members of the ranges.
-/

namespace Nadesiko.Text

/-- Closed ranges of code points, each given by its first and last member. -/
abbrev CodePoints := List (Nat × Nat)

/-- Whether a code point lies in a table of increasing ranges. -/
def covers : CodePoints → Nat → Bool
  | [], _ => false
  | (first, last) :: later, n => if n ≤ last then first ≤ n else covers later n

/-- The ranges start at `low` or later, none is empty, and each one ends before the next starts. -/
def increasing (low : Nat) : CodePoints → Bool
  | [] => true
  | (first, last) :: later => low ≤ first && first ≤ last && increasing (last + 1) later

theorem le_of_increasing {table : CodePoints} {low : Nat} (h : increasing low table = true)
    {r : Nat × Nat} (hr : r ∈ table) : low ≤ r.1 := by
  induction table generalizing low with
  | nil => cases hr
  | cons s later ih =>
    simp only [increasing, Bool.and_eq_true, decide_eq_true_eq] at h
    rcases List.mem_cons.1 hr with rfl | hr
    · exact h.1.1
    · have := ih h.2 hr
      omega

/-- What the look-up finds in an increasing table is membership in one of its ranges. -/
theorem covers_iff {table : CodePoints} {low : Nat} (h : increasing low table = true) {n : Nat} :
    covers table n = true ↔ ∃ r ∈ table, r.1 ≤ n ∧ n ≤ r.2 := by
  induction table generalizing low with
  | nil => simp [covers]
  | cons s later ih =>
    simp only [increasing, Bool.and_eq_true, decide_eq_true_eq] at h
    simp only [List.mem_cons, exists_eq_or_imp]
    by_cases hle : n ≤ s.2
    · simp only [covers, hle, if_true, decide_eq_true_eq]
      refine ⟨fun hge => Or.inl ⟨hge, trivial⟩, ?_⟩
      rintro (⟨hge, -⟩ | ⟨r, hr, hge, -⟩)
      · exact hge
      · have := le_of_increasing h.2 hr
        omega
    · simp [covers, hle, ih h.2]

end Nadesiko.Text
