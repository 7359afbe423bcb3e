import ComputeMesh.Lib.Dict

/-!
# Tallies

A dictionary that counts how often a key occurs.  It is raised and lowered one occurrence at a time, and a key that does
not occur has no entry.

* `tally` — the counts of a list, one occurrence after the other;
* `Tallies` — the dictionary counts the list, with `Tallies.raised`, `Tallies.lowered`, `Tallies.perm`;
* `Tallies.get?_eq` — dictionaries that count the same occurrences agree.
-/

namespace ComputeMesh

variable {κ : Type} [DecidableEq κ]

/-- `d[k] = d.get(k, 0) + 1`. -/
def Dict.raised (d : Dict κ ℕ) (k : κ) : Dict κ ℕ := d.set k (d.getD k 0 + 1)

/-- `d[k] -= 1`, and `del d[k]` when nothing is left. -/
def Dict.lowered (d : Dict κ ℕ) (k : κ) : Dict κ ℕ := if d.getD k 0 = 1 then d.erase k else d.set k (d.getD k 0 - 1)

/-- The counts of a list. -/
def tally (ks : List κ) : Dict κ ℕ := ks.foldl Dict.raised Dict.empty

/-- The dictionary counts the list. -/
def Tallies (d : Dict κ ℕ) (ks : List κ) : Prop := ∀ k, d.get? k = if ks.count k = 0 then none else some (ks.count k)

namespace Tallies

variable {d d' : Dict κ ℕ} {ks ks' : List κ} {k : κ}

theorem empty : Tallies (Dict.empty : Dict κ ℕ) [] := fun _ => rfl

theorem perm (h : Tallies d ks) (hperm : ks.Perm ks') : Tallies d ks' := by
  intro k
  rw [h k, hperm.count_eq]

theorem getD_eq (h : Tallies d ks) (k : κ) : d.getD k 0 = ks.count k := by
  rw [Dict.getD, h k]
  split
  · rename_i hzero
    rw [hzero]
    rfl
  · rfl

theorem get?_eq (h : Tallies d ks) (h' : Tallies d' ks') (hperm : ks.Perm ks') (k : κ) : d.get? k = d'.get? k := by
  rw [h.perm hperm k, h' k]

theorem raised (h : Tallies d ks) (k : κ) : Tallies (d.raised k) (k :: ks) := by
  intro x
  rw [Dict.raised, Dict.get?_set, h.getD_eq k, List.count_cons]
  by_cases hx : x = k
  · subst hx
    simp
  · rw [if_neg hx, h x]
    simp [Ne.symm hx]

theorem lowered (h : Tallies d (k :: ks)) : Tallies (d.lowered k) ks := by
  intro x
  have hcount := h.getD_eq k
  rw [List.count_cons_self] at hcount
  rw [Dict.lowered, hcount]
  by_cases hx : x = k
  · subst hx
    by_cases hzero : ks.count x = 0
    · rw [hzero, if_pos rfl, if_pos rfl, Dict.get?_erase_self]
    · rw [if_neg (by omega), if_neg hzero, Dict.get?_set_self, Nat.add_sub_cancel]
  · have hother := h x
    rw [List.count_cons_of_ne (Ne.symm hx)] at hother
    split
    · rw [Dict.get?_erase_of_ne _ hx, hother]
    · rw [Dict.get?_set_of_ne _ hx, hother]

/-- **Counting a list** one occurrence after the other. -/
theorem tally (ks : List κ) : Tallies (tally ks) ks := by
  have hfold : ∀ (ks seen : List κ) (d : Dict κ ℕ), Tallies d seen → Tallies (ks.foldl Dict.raised d) (ks.reverse ++ seen) := by
    intro ks
    induction ks with
    | nil => exact fun seen d h => h
    | cons k ks ih =>
      intro seen d h
      have hrest := ih (k :: seen) (d.raised k) (h.raised k)
      rw [List.reverse_cons, List.append_assoc]
      exact hrest
  refine (hfold ks [] Dict.empty empty).perm ?_
  rw [List.append_nil]
  exact List.reverse_perm ks

end Tallies

end ComputeMesh
