import Mathlib.Data.List.Basic

/-!
# Interleavings

An interleaving of several lists takes all their members, those of each list in order, and is free
in how it passes from one list to another.  It is a rearrangement of the lists one after another
(`Interleaving.perm`), it may be begun with the first members of one of the lists
(`Interleaving.append_head`), and it stays one when some members no longer count
(`Interleaving.filter`).
-/

namespace PlaybackRules

/-- The second list takes all members of the lists in the first, those of each in order. -/
inductive Interleaving {α : Type} : List (List α) → List α → Prop where
  | done {lists : List (List α)} (h : ∀ list ∈ lists, list = []) : Interleaving lists []
  | next {before after : List (List α)} {a : α} {rest taken : List α}
      (h : Interleaving (before ++ rest :: after) taken) :
      Interleaving (before ++ (a :: rest) :: after) (a :: taken)

namespace Interleaving

variable {α : Type} {lists before after : List (List α)} {taken : List α}

theorem perm (h : Interleaving lists taken) : taken.Perm lists.flatten := by
  induction h with
  | done h => rw [List.flatten_eq_nil_iff.2 h]
  | @next before after a rest taken h ih =>
      have hflat : (before ++ (a :: rest) :: after).flatten =
          before.flatten ++ a :: (rest ++ after.flatten) := by simp
      rw [hflat]
      refine (List.Perm.cons a ih).trans ?_
      rw [List.flatten_append, List.flatten_cons]
      exact List.perm_middle.symm

theorem append_head (head tail : List α) (h : Interleaving (before ++ tail :: after) taken) :
    Interleaving (before ++ (head ++ tail) :: after) (head ++ taken) := by
  induction head with
  | nil => exact h
  | cons a head ih => exact .next ih

theorem nil_cons (h : Interleaving lists taken) : Interleaving ([] :: lists) taken := by
  induction h with
  | done h => exact .done (by simpa using h)
  | @next before after a rest taken h ih =>
      show Interleaving (([] :: before) ++ (a :: rest) :: after) (a :: taken)
      exact .next ih

/-- What is left of the lists when only some members count is interleaved in the same way. -/
theorem filter (p : α → Bool) (h : Interleaving lists taken) :
    Interleaving (lists.map (List.filter p)) (taken.filter p) := by
  induction h with
  | done h =>
      refine .done fun list hlist => ?_
      obtain ⟨original, hmem, rfl⟩ := List.mem_map.1 hlist
      rw [h original hmem]
      rfl
  | @next before after a rest taken h ih =>
      rw [List.map_append, List.map_cons] at ih ⊢
      cases ha : p a with
      | true =>
          rw [List.filter_cons_of_pos ha, List.filter_cons_of_pos ha]
          exact .next ih
      | false =>
          rw [List.filter_cons_of_neg (ne_true_of_eq_false ha),
            List.filter_cons_of_neg (ne_true_of_eq_false ha)]
          exact ih

/-- One list after the other is an interleaving. -/
theorem flatten : ∀ lists : List (List α), Interleaving lists lists.flatten
  | [] => .done (by simp)
  | list :: lists => by
      have hrest : Interleaving ([] ++ [] :: lists) lists.flatten := (flatten lists).nil_cons
      simpa using append_head list [] hrest

end Interleaving

end PlaybackRules
