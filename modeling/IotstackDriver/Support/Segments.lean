import Mathlib.Data.List.Infix
import Mathlib.Tactic.Common

/-! Texts in segments: where a word can begin in them that has, or has not, the separator. -/

namespace IotstackDriver.Support.Segments

variable {α : Type u} {separator : α} {word left : List α}

/-- A word without the separator ends before it. -/
theorem prefix_iff (absent : separator ∉ word) (left right : List α) :
    word <+: left ++ separator :: right ↔ word <+: left := by
  constructor
  · intro begins
    have short : word.length ≤ left.length := by
      by_contra longer
      have inside : left.length < word.length := by omega
      have same : word[left.length] = separator := by
        rw [begins.getElem inside]
        simp
      exact absent (same ▸ List.getElem_mem inside)
    exact List.prefix_of_prefix_length_le begins (List.prefix_append left _) short
  · intro begins
    exact begins.trans (List.prefix_append left _)

/-- Segments are compared one by one. -/
theorem prefix_cons_iff (absent : separator ∉ word) (absentLeft : separator ∉ left)
    (more right : List α) :
    word ++ separator :: more <+: left ++ separator :: right ↔ word = left ∧ more <+: right := by
  constructor
  · intro begins
    have first : word <+: left :=
      (prefix_iff absent left right).mp ((List.prefix_append word _).trans begins)
    obtain ⟨rest, rfl⟩ := first
    rw [List.append_assoc, List.prefix_append_right_inj] at begins
    cases rest with
    | nil => exact ⟨(List.append_nil word).symm, (List.cons_prefix_cons.mp begins).2⟩
    | cons head rest =>
      have same : separator = head := (List.cons_prefix_cons.mp begins).1
      exact absurd (by simp [same]) absentLeft
  · rintro ⟨rfl, begins⟩
    exact (List.prefix_append_right_inj word).mpr (List.cons_prefix_cons.mpr ⟨rfl, begins⟩)

/-- A word that begins with the separator does not begin in a segment. -/
theorem infix_iff (absent : separator ∉ left) (word right : List α) :
    separator :: word <:+: left ++ right ↔ separator :: word <:+: right := by
  induction left with
  | nil => rfl
  | cons head rest ih =>
    rw [List.mem_cons, not_or] at absent
    have other : ¬ separator :: word <+: head :: (rest ++ right) :=
      fun begins => absent.1 (List.cons_prefix_cons.mp begins).1
    rw [List.cons_append, List.infix_cons_iff, ih absent.2]
    exact or_iff_right other

end IotstackDriver.Support.Segments
