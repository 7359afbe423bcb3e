import Mathlib

/-!
# Merkle trees

A tree over a list of leaves, level by level; the last leaf of an odd level is paired with itself.

* `nextLevel_get` — what a pair of nodes becomes one level up;
* `levels_cons` — the levels above a level are the levels of the next one;
* `climb_siblings` — **the siblings of every leaf lead to the root**.
-/

namespace ComputeMesh.Merkle

open List

variable {δ : Type}

/-- The side on which the sibling of a node stands. -/
inductive Side
  | left
  | right
  deriving DecidableEq

/-- The nodes one level up. -/
def nextLevel (pair : δ → δ → δ) : List δ → List δ
  | [] => []
  | [last] => [pair last last]
  | left :: right :: rest => pair left right :: nextLevel pair rest

/-- The levels from the leaves up, of at most this many levels. -/
def build (pair : δ → δ → δ) : ℕ → List δ → List (List δ)
  | 0, level => [level]
  | fuel + 1, level => if level.length ≤ 1 then [level] else level :: build pair fuel (nextLevel pair level)

def levels (pair : δ → δ → δ) (leaves : List δ) : List (List δ) := build pair leaves.length leaves

/-- Where the sibling of a node stands in a level. -/
def siblingIndex (length i : ℕ) : ℕ :=
  if i % 2 = 1 then i - 1 else if length ≤ i + 1 then i else i + 1

/-- The siblings on the way up from a node; none where a node does not exist. -/
def siblings : List (List δ) → ℕ → Option (List (δ × Side))
  | [], _ | [_], _ => some []
  | level :: above, i =>
    match level[siblingIndex level.length i]?, siblings above (i / 2) with
    | some node, some proof => some ((node, if i % 2 = 1 then .left else .right) :: proof)
    | _, _ => none

/-- What a proof makes of a leaf. -/
def climb (pair : δ → δ → δ) (leaf : δ) : List (δ × Side) → δ
  | [] => leaf
  | (sibling, .left) :: rest => climb pair (pair sibling leaf) rest
  | (sibling, .right) :: rest => climb pair (pair leaf sibling) rest

/-- The node at the top of some levels. -/
def top : List (List δ) → Option δ
  | [] => none
  | [level] => level.head?
  | _ :: above => top above

variable (pair : δ → δ → δ)

theorem length_nextLevel (level : List δ) : (nextLevel pair level).length = (level.length + 1) / 2 := by
  induction level using nextLevel.induct with
  | case1 | case2 last => simp [nextLevel]
  | case3 left right rest ih =>
    rw [nextLevel, length_cons, ih]
    simp only [length_cons]
    omega

theorem siblingIndex_add_two (length i : ℕ) : siblingIndex (length + 2) (i + 2) = siblingIndex length i + 2 := by
  unfold siblingIndex
  split_ifs <;> omega

variable {level : List δ}

/-- **A node and its sibling one level up.** -/
theorem nextLevel_get {i : ℕ} {node : δ} (hnode : level[i]? = some node) :
    ∃ sibling, level[siblingIndex level.length i]? = some sibling ∧
      (nextLevel pair level)[i / 2]? = some (if i % 2 = 1 then pair sibling node else pair node sibling) := by
  induction level using nextLevel.induct generalizing i with
  | case1 => cases hnode
  | case2 last =>
    obtain rfl : i = 0 := by
      have hi := (List.getElem?_eq_some_iff.mp hnode).1
      exact Nat.lt_one_iff.mp hi
    cases hnode
    exact ⟨node, rfl, rfl⟩
  | case3 left right rest ih =>
    match i with
    | 0 =>
      cases hnode
      have hright : siblingIndex (node :: right :: rest).length 0 = 1 := by
        unfold siblingIndex
        simp
      exact ⟨right, by rw [hright]; rfl, rfl⟩
    | 1 =>
      cases hnode
      exact ⟨left, rfl, rfl⟩
    | i + 2 =>
      obtain ⟨sibling, hsibling, hup⟩ := ih (i := i) hnode
      refine ⟨sibling, ?_, ?_⟩
      · show (left :: right :: rest)[siblingIndex (rest.length + 2) (i + 2)]? = _
        rw [siblingIndex_add_two]
        exact hsibling
      · rw [Nat.add_div_right i (by decide), Nat.add_mod_right]
        exact hup

theorem levels_of_length_le_one (h : level.length ≤ 1) : levels pair level = [level] := by
  unfold levels
  cases hlength : level.length with
  | zero => rfl
  | succ n => rw [build, if_pos (by omega)]

theorem build_eq {fuel : ℕ} (hfuel : level.length ≤ fuel) :
    build pair fuel level = build pair level.length level := by
  induction hlength : level.length using Nat.strongRecOn generalizing fuel level with
  | ind n ih =>
    cases fuel with
    | zero => rw [Nat.le_zero.mp hfuel] at hlength; rw [← hlength]
    | succ fuel =>
      cases n with
      | zero =>
        show (if level.length ≤ 1 then [level] else _) = [level]
        rw [if_pos (by omega)]
      | succ n =>
        rw [build, build]
        by_cases hone : level.length ≤ 1
        · rw [if_pos hone, if_pos hone]
        · have hnext := length_nextLevel pair level
          have hmany : build pair fuel (nextLevel pair level) = _ := ih _ (by omega) (by omega) rfl
          have hfew : build pair n (nextLevel pair level) = _ := ih _ (by omega) (by omega) rfl
          rw [if_neg hone, if_neg hone, hmany, hfew]

/-- **The levels above a level are the levels of the next one.** -/
theorem levels_cons (h : 1 < level.length) : levels pair level = level :: levels pair (nextLevel pair level) := by
  obtain ⟨n, hn⟩ : ∃ n, level.length = n + 1 := ⟨level.length - 1, by omega⟩
  have hnext := length_nextLevel pair level
  unfold levels
  rw [hn, build, if_neg (by omega), build_eq pair (by omega)]

theorem levels_ne_nil (level : List δ) : levels pair level ≠ [] := by
  by_cases h : 1 < level.length
  · rw [levels_cons pair h]
    exact cons_ne_nil _ _
  · rw [levels_of_length_le_one pair (by omega)]
    exact cons_ne_nil _ _

/-- **The siblings of every leaf lead to the root.** -/
theorem climb_siblings {i : ℕ} {node : δ} (hnode : level[i]? = some node) :
    ∃ proof, siblings (levels pair level) i = some proof ∧ top (levels pair level) = some (climb pair node proof) := by
  induction hlength : level.length using Nat.strongRecOn generalizing level i node with
  | ind n ih =>
    by_cases hone : 1 < level.length
    · obtain ⟨sibling, hsibling, hup⟩ := nextLevel_get pair hnode
      have hnext := length_nextLevel pair level
      obtain ⟨proof, hproof, htop⟩ := ih _ (by omega) hup rfl
      obtain ⟨first, above, habove⟩ := exists_cons_of_ne_nil (levels_ne_nil pair (nextLevel pair level))
      rw [levels_cons pair hone]
      rw [habove] at hproof htop ⊢
      refine ⟨(sibling, if i % 2 = 1 then .left else .right) :: proof, ?_, ?_⟩
      · rw [siblings, hsibling, hproof]
        exact cons_ne_nil first above
      · show top (first :: above) = _
        rw [htop]
        by_cases hodd : i % 2 = 1
        · rw [if_pos hodd, if_pos hodd]
          rfl
        · rw [if_neg hodd, if_neg hodd]
          rfl
    · rw [levels_of_length_le_one pair (by omega)]
      obtain ⟨hi, hget⟩ := List.getElem?_eq_some_iff.mp hnode
      obtain rfl : i = 0 := by omega
      refine ⟨[], rfl, ?_⟩
      show level.head? = some node
      rw [head?_eq_getElem?, hnode]

end ComputeMesh.Merkle
