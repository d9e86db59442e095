import Mathlib.Logic.Basic

/-!
# Stable sorting

Sorting a list leaves elements of equal rank in their order, so the part of a sorted list that a
test selects is the selected part of the list, sorted.  What is sorted depends on the order of the
elements of the list alone, and where no two of them have equal rank not even on where they stood.
-/

namespace ShopPayments
namespace Sorting

variable {α : Type} {le le' : α → α → Bool} {l : List α}

/-- The first element of a list is put in front of the first sorted one that it may precede. -/
theorem exists_mergeSort_cons (trans : ∀ a b c, le a b = true → le b c = true → le a c = true)
    (total : ∀ a b, (le a b || le b a) = true) (a : α) (l : List α) :
    ∃ l₁ l₂, (a :: l).mergeSort le = l₁ ++ a :: l₂ ∧ l.mergeSort le = l₁ ++ l₂ ∧
      (∀ b ∈ l₁, (!le a b) = true) ∧ ∀ b ∈ l₂, (!le a b) = false := by
  obtain ⟨l₁, l₂, hsorted, hrest, hbefore⟩ := List.mergeSort_cons trans total a l
  refine ⟨l₁, l₂, hsorted, hrest, hbefore, ?_⟩
  have hpairwise := List.pairwise_mergeSort trans total (a :: l)
  rw [hsorted, List.pairwise_append, List.pairwise_cons] at hpairwise
  intro b hb
  rw [hpairwise.2.1.1 b hb, Bool.not_true]

/-- A list whose elements pass a test up to some place and fail it from there on has one such
place. -/
theorem append_eq_append_of_test {q : α → Bool} {l₁ l₂ m₁ m₂ : List α}
    (h : l₁ ++ l₂ = m₁ ++ m₂) (hl₁ : ∀ b ∈ l₁, q b = true) (hl₂ : ∀ b ∈ l₂, q b = false)
    (hm₁ : ∀ b ∈ m₁, q b = true) (hm₂ : ∀ b ∈ m₂, q b = false) : l₁ = m₁ ∧ l₂ = m₂ := by
  have hnone : ∀ s : List α, (∀ b ∈ s, q b = false) → s.takeWhile q = [] := by
    intro s hs
    cases s with
    | nil => rfl
    | cons b rest => simp [hs b List.mem_cons_self]
  have htaken := congrArg (List.takeWhile q) h
  rw [List.takeWhile_append_of_pos hl₁, List.takeWhile_append_of_pos hm₁, hnone l₂ hl₂,
    hnone m₂ hm₂, List.append_nil, List.append_nil] at htaken
  subst htaken
  exact ⟨rfl, List.append_cancel_left h⟩

theorem filter_mergeSort (trans : ∀ a b c, le a b = true → le b c = true → le a c = true)
    (total : ∀ a b, (le a b || le b a) = true) (p : α → Bool) (l : List α) :
    (l.mergeSort le).filter p = (l.filter p).mergeSort le := by
  induction l with
  | nil => simp
  | cons a l ih =>
    obtain ⟨l₁, l₂, hsorted, hrest, hbefore, hafter⟩ := exists_mergeSort_cons trans total a l
    rw [hrest, List.filter_append] at ih
    by_cases hp : p a = true
    · obtain ⟨m₁, m₂, hsorted', hrest', hbefore', hafter'⟩ :=
        exists_mergeSort_cons trans total a (l.filter p)
      rw [hrest'] at ih
      obtain ⟨rfl, rfl⟩ := append_eq_append_of_test ih
        (fun b hb ↦ hbefore b (List.mem_filter.mp hb).1)
        (fun b hb ↦ hafter b (List.mem_filter.mp hb).1) hbefore' hafter'
      rw [hsorted, List.filter_cons_of_pos hp, hsorted', List.filter_append,
        List.filter_cons_of_pos hp]
    · rw [List.filter_cons_of_neg hp, ← ih, hsorted, List.filter_append,
        List.filter_cons_of_neg hp]

/-- Where every element of one list may precede every element of another one, they are sorted one
after the other. -/
theorem mergeSort_append (trans : ∀ a b c, le a b = true → le b c = true → le a c = true)
    (total : ∀ a b, (le a b || le b a) = true) {l l' : List α}
    (h : ∀ a ∈ l, ∀ b ∈ l', le a b = true) :
    (l ++ l').mergeSort le = l.mergeSort le ++ l'.mergeSort le := by
  induction l with
  | nil => simp
  | cons a l ih =>
    obtain ⟨l₁, l₂, hsorted, hrest, hbefore, hafter⟩ :=
      exists_mergeSort_cons trans total a (l ++ l')
    obtain ⟨m₁, m₂, hsorted', hrest', hbefore', hafter'⟩ := exists_mergeSort_cons trans total a l
    have hsplit := ih fun b hb ↦ h b (List.mem_cons_of_mem a hb)
    rw [hrest, hrest', List.append_assoc] at hsplit
    have hlater : ∀ b ∈ m₂ ++ l'.mergeSort le, (!le a b) = false := by
      intro b hb
      rcases List.mem_append.mp hb with hb | hb
      · exact hafter' b hb
      · rw [h a List.mem_cons_self b (List.mem_mergeSort.mp hb), Bool.not_true]
    obtain ⟨rfl, rfl⟩ := append_eq_append_of_test hsplit hbefore hafter hbefore' hlater
    rw [List.cons_append, hsorted, hsorted', List.append_assoc, List.cons_append]

theorem mergeSort_congr (h : ∀ a ∈ l, ∀ b ∈ l, le a b = le' a b) :
    l.mergeSort le = l.mergeSort le' := by
  have hmap := List.map_mergeSort (f := id) h
  rwa [List.map_id, List.map_id] at hmap

theorem mergeSort_eq_of_perm (trans : ∀ a b c, le a b = true → le b c = true → le a c = true)
    (total : ∀ a b, (le a b || le b a) = true) {l l' : List α} (hperm : l.Perm l')
    (hrank : ∀ a ∈ l, ∀ b ∈ l, le a b = true → le b a = true → a = b) :
    l.mergeSort le = l'.mergeSort le := by
  have hsorted := (List.mergeSort_perm l le).trans (hperm.trans (List.mergeSort_perm l' le).symm)
  refine hsorted.eq_of_pairwise ?_ (List.pairwise_mergeSort trans total l)
    (List.pairwise_mergeSort trans total l')
  intro a b ha hb
  exact hrank a (List.mem_mergeSort.mp ha) b (hperm.mem_iff.mpr (List.mem_mergeSort.mp hb))

/-! ## By a text -/

theorem textLe_trans (key : α → String) (a b c : α) (hab : decide (key a ≤ key b) = true)
    (hbc : decide (key b ≤ key c) = true) : decide (key a ≤ key c) = true :=
  decide_eq_true (String.le_trans (of_decide_eq_true hab) (of_decide_eq_true hbc))

theorem textLe_total (key : α → String) (a b : α) :
    (decide (key a ≤ key b) || decide (key b ≤ key a)) = true := by
  rw [Bool.or_eq_true, decide_eq_true_iff, decide_eq_true_iff]
  exact String.le_total (key a) (key b)

end Sorting
end ShopPayments
