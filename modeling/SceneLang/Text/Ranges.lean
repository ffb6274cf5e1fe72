/-
Classes of characters given as ranges of code points.

The tables of this folder list a property as increasing ranges, ends included, so that one
membership test serves them all and stops at the first range past the code point it looks for.
-/

namespace SceneLang.Text

/-- Ranges of code points, ends included, in increasing order. -/
abbrev Ranges := List (Nat × Nat)

namespace Ranges

/-- Whether a code point lies in one of the ranges. -/
def contains : Ranges → Nat → Bool
  | [], _ => false
  | (first, last) :: rest, n => if n < first then false else n ≤ last || contains rest n

@[simp] theorem contains_nil (n : Nat) : contains [] n = false := rfl

/-- Every range lies after the ones before it. -/
def Increasing (ranges : Ranges) : Prop := ranges.Pairwise fun r s => r.2 < s.1

theorem contains_iff {ranges : Ranges} (h : ranges.Increasing) (hw : ∀ r ∈ ranges, r.1 ≤ r.2)
    (n : Nat) : ranges.contains n = true ↔ ∃ r ∈ ranges, r.1 ≤ n ∧ n ≤ r.2 := by
  induction ranges with
  | nil => simp
  | cons r rest ih =>
    obtain ⟨first, last⟩ := r
    have hrest := List.pairwise_cons.1 h
    have hfl : first ≤ last := hw _ (List.mem_cons_self ..)
    have ih := ih hrest.2 fun s hs => hw s (List.mem_cons_of_mem _ hs)
    simp only [contains]
    by_cases hn : n < first
    · simp only [hn, if_true, Bool.false_eq_true, false_iff]
      rintro ⟨s, hs, h1, h2⟩
      rcases List.mem_cons.1 hs with rfl | hs
      · exact absurd h1 (Nat.not_le.2 hn)
      · have := hrest.1 s hs
        simp only at this
        omega
    · simp only [hn, if_false, Bool.or_eq_true, decide_eq_true_eq, ih, List.mem_cons,
        exists_eq_or_imp]
      have : first ≤ n := Nat.not_lt.1 hn
      simp only [this, true_and]

end Ranges

end SceneLang.Text
