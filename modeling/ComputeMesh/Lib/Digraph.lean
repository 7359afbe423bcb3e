import Mathlib

/-!
# Acyclic dependencies

A directed graph given by the list of dependencies of each vertex.

* `Topological` — an order in which every vertex comes after its dependencies, newest first; a graph with such an
  order has no cycle;
* `level` — how many vertices the longest chain of dependencies that ends in a vertex has, looked for up to a number
  of steps; `level_eq` — as many steps as the order is long are enough;
* `Upstream` — from a vertex down to one it depends on, with the number of steps.

Nothing here is about any particular program.
-/

namespace ComputeMesh.Digraph

open List

variable {V : Type} (deps : V → List V)

/-- Every vertex of the list comes after its dependencies; the list is newest first. -/
def Topological : List V → Prop
  | [] => True
  | v :: vs => v ∉ vs ∧ (∀ d ∈ deps v, d ∈ vs) ∧ Topological vs

/-- How many vertices the longest chain of dependencies ending in `v` has, looked for up to `n` vertices. -/
def level : ℕ → V → ℕ
  | 0, _ => 0
  | n + 1, v => ((deps v).map (level n)).foldr max 0 + 1

/-- `k` steps lead from `v` to the vertex `f` it depends on. -/
inductive Upstream (f : V) : ℕ → V → Prop
  | refl : Upstream f 0 f
  | step {k : ℕ} {d v : V} (hdep : d ∈ deps v) (h : Upstream f k d) : Upstream f (k + 1) v

variable {deps} {v : V} {vs : List V}

theorem Topological.nodup (h : Topological deps vs) : vs.Nodup := by
  induction vs with
  | nil => exact nodup_nil
  | cons v vs ih => exact nodup_cons.mpr ⟨h.1, ih h.2.2⟩

theorem Topological.filter (h : Topological deps vs) {p : V → Bool} (hp : ∀ v, p v = true → ∀ d ∈ deps v, p d = true) :
    Topological deps (vs.filter p) := by
  induction vs with
  | nil => trivial
  | cons w vs ih =>
    by_cases hw : p w = true
    · rw [filter_cons_of_pos hw]
      refine ⟨fun hmem => h.1 (mem_filter.mp hmem).1, fun d hd => ?_, ih h.2.2⟩
      exact mem_filter.mpr ⟨h.2.1 d hd, hp w hw d hd⟩
    · rw [filter_cons_of_neg hw]
      exact ih h.2.2

/-! ### Levels -/

variable {n : ℕ}

theorem le_foldr_max {l : List ℕ} (h : n ∈ l) : n ≤ l.foldr max 0 := by
  induction l with
  | nil => cases h
  | cons m l ih =>
    rcases mem_cons.mp h with rfl | hmem
    · exact Nat.le_max_left _ _
    · exact Nat.le_trans (ih hmem) (Nat.le_max_right _ _)

theorem foldr_max_mem (l : List ℕ) : l.foldr max 0 = 0 ∨ l.foldr max 0 ∈ l := by
  induction l with
  | nil => exact .inl rfl
  | cons m l ih =>
    show max m (l.foldr max 0) = 0 ∨ max m (l.foldr max 0) ∈ m :: l
    rcases Nat.le_total (l.foldr max 0) m with hle | hle
    · rw [Nat.max_eq_left hle]
      exact .inr mem_cons_self
    · rw [Nat.max_eq_right hle]
      rcases ih with hzero | hmem
      · exact .inl hzero
      · exact .inr (mem_cons_of_mem _ hmem)

section

variable (h : Topological deps vs) (hv : v ∈ vs)
include h hv

theorem level_stable {m : ℕ} (hm : vs.length ≤ m) (hn : vs.length ≤ n) : level deps m v = level deps n v := by
  induction vs generalizing m n v with
  | nil => cases hv
  | cons w vs ih =>
    have hlength : vs.length + 1 = (w :: vs).length := rfl
    rcases mem_cons.mp hv with rfl | hmem
    · obtain ⟨m, rfl⟩ : ∃ m', m = m' + 1 := ⟨m - 1, by omega⟩
      obtain ⟨n, rfl⟩ : ∃ n', n = n' + 1 := ⟨n - 1, by omega⟩
      have hsame : (deps v).map (level deps m) = (deps v).map (level deps n) :=
        map_congr_left fun d hd => ih h.2.2 (h.2.1 d hd) (by omega) (by omega)
      rw [level, level, hsame]
    · exact ih h.2.2 hmem (by omega) (by omega)

/-- **A vertex is one level above the highest of its dependencies.** -/
theorem level_eq (hn : vs.length ≤ n) : level deps n v = ((deps v).map (level deps n)).foldr max 0 + 1 := by
  have hsucc : level deps n v = level deps (n + 1) v := level_stable h hv hn (Nat.le_succ_of_le hn)
  exact hsucc

theorem level_le_length (hn : vs.length ≤ n) : level deps n v ≤ vs.length := by
  induction vs generalizing n v with
  | nil => cases hv
  | cons w vs ih =>
    have hlength : (w :: vs).length = vs.length + 1 := rfl
    rcases mem_cons.mp hv with rfl | hmem
    · rw [level_eq h mem_cons_self hn, hlength]
      refine Nat.succ_le_succ ?_
      rcases foldr_max_mem ((deps v).map (level deps n)) with hzero | hin
      · omega
      · obtain ⟨d, hd, heq⟩ := mem_map.mp hin
        rw [← heq]
        exact ih h.2.2 (h.2.1 d hd) (Nat.le_of_succ_le hn)
    · exact Nat.le_succ_of_le (ih h.2.2 hmem (Nat.le_of_succ_le hn))

theorem level_dep_lt (hn : vs.length ≤ n) {d : V} (hd : d ∈ deps v) : level deps n d < level deps n v := by
  rw [level_eq h hv hn]
  exact Nat.lt_succ_of_le (le_foldr_max (mem_map_of_mem hd))

theorem level_pos (hn : vs.length ≤ n) : 1 ≤ level deps n v := by
  rw [level_eq h hv hn]
  exact Nat.le_add_left 1 _

/-- Above the first level some dependency is exactly one level below. -/
theorem exists_dep_level (hn : vs.length ≤ n)
    (hlevel : 1 < level deps n v) : ∃ d ∈ deps v, level deps n d + 1 = level deps n v := by
  rw [level_eq h hv hn] at hlevel ⊢
  rcases foldr_max_mem ((deps v).map (level deps n)) with hzero | hin
  · omega
  · obtain ⟨d, hd, heq⟩ := mem_map.mp hin
    exact ⟨d, hd, by rw [heq]⟩

end

end ComputeMesh.Digraph
