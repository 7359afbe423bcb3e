import ComputeMesh.Lib.Table

/-!
# Stacked reservations

Entries with a size and a limit, in the order in which they came: each of them fits, within its own limit, on top of those
before it that are still there.

* `Stacked` — the property, for what is already used;
* `Stacked.sublist` — taking entries away keeps it, `Stacked.append_singleton` — and so does an entry that fits;
* `Stacked.sum_le_of_getLast?` — **all entries together fit within the limit of the last.**
-/

namespace ComputeMesh

/-- Every entry, a size and a limit, fits on top of those before it. -/
def Stacked : ℕ → List (ℕ × ℕ) → Prop
  | _, [] => True
  | used, entry :: rest => used + entry.1 ≤ entry.2 ∧ Stacked (used + entry.1) rest

namespace Stacked

variable {used used' : ℕ} {l l' : List (ℕ × ℕ)} {entry : ℕ × ℕ}

theorem mono (h : Stacked used l) (hle : used' ≤ used) : Stacked used' l := by
  induction l generalizing used used' with
  | nil => trivial
  | cons e rest ih =>
    obtain ⟨hfits, hrest⟩ := h
    exact ⟨by omega, ih hrest (by omega)⟩

theorem sublist (h : Stacked used l) (hsub : l'.Sublist l) : Stacked used l' := by
  induction hsub generalizing used with
  | slnil => trivial
  | cons e _ ih => exact (ih h.2).mono (Nat.le_add_right _ _)
  | cons_cons e _ ih => exact ⟨h.1, ih h.2⟩

theorem append_singleton (h : Stacked used l) (hfits : used + (l.map Prod.fst).sum + entry.1 ≤ entry.2) :
    Stacked used (l ++ [entry]) := by
  induction l generalizing used with
  | nil => exact ⟨by simpa using hfits, trivial⟩
  | cons e rest ih =>
    rw [List.map_cons, List.sum_cons] at hfits
    exact ⟨h.1, ih h.2 (by omega)⟩

/-- **All entries together** fit within the limit of the last. -/
theorem sum_le_of_getLast? (h : Stacked used l) (hlast : l.getLast? = some entry) :
    used + (l.map Prod.fst).sum ≤ entry.2 := by
  induction l generalizing used with
  | nil => cases hlast
  | cons e rest ih =>
    rw [List.map_cons, List.sum_cons, ← Nat.add_assoc]
    cases rest with
    | nil =>
      obtain rfl := Option.some.inj hlast
      exact h.1
    | cons e' rest' =>
      rw [List.getLast?_cons_cons] at hlast
      exact ih h.2 hlast

end Stacked

end ComputeMesh
