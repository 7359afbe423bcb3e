import ComputeMesh.Lib.Dict

/-!
# Conditional updates of a table

A table with a primary key is a dictionary of rows.  An `UPDATE … SET … WHERE key = ? AND condition` rewrites the row
under the key if there is one and it meets the condition; its row count says whether it did.

* `updateWhere`, `hits` — the statement and its row count;
* `get?_updateWhere` — **the reading rule**, `updateWhere_of_not_hits` — a statement that hits no row changes nothing;
* `updateEach` — the statement for one key after the other, `get?_updateEach` and `updateEach_of_not_hits` the same two
  rules for it;
* `select` — a query over the rows in the order of their insertion, and what an insertion or an update does to it.

Nothing here is about any particular program.
-/

namespace ComputeMesh.Dict

open List

variable {κ ν : Type} [DecidableEq κ] {d : Dict κ ν} {p : ν → Bool} {f : ν → ν}

/-- Whether the row under `k` meets the condition. -/
def hits (d : Dict κ ν) (k : κ) (p : ν → Bool) : Bool := (d.get? k).any p

/-- Rewrite the row under `k` if it meets the condition. -/
def updateWhere (d : Dict κ ν) (k : κ) (p : ν → Bool) (f : ν → ν) : Dict κ ν :=
  match d.get? k with
  | some v => if p v then d.set k (f v) else d
  | none => d

variable {k : κ}

theorem hits_iff : d.hits k p = true ↔ ∃ v, d.get? k = some v ∧ p v = true := by
  simp [hits, Option.any_eq_true]

theorem updateWhere_of_not_hits (h : d.hits k p = false) : d.updateWhere k p f = d := by
  unfold updateWhere
  unfold hits at h
  cases hget : d.get? k with
  | none => rfl
  | some v =>
    rw [hget] at h
    exact if_neg (by simpa using h)

theorem updateWhere_of_get? {v : ν} (hget : d.get? k = some v) (hp : p v = true) :
    d.updateWhere k p f = d.set k (f v) := by
  rw [updateWhere, hget]
  exact if_pos hp

/-- **The reading rule.** -/
theorem get?_updateWhere (d : Dict κ ν) (k k' : κ) (p : ν → Bool) (f : ν → ν) : (d.updateWhere k p f).get? k'
      = if k' = k then (d.get? k).map (fun v => if p v then f v else v) else d.get? k' := by
  unfold updateWhere
  cases hget : d.get? k with
  | none =>
    by_cases hk : k' = k
    · rw [if_pos hk, hk]
      exact hget
    · rw [if_neg hk]
  | some v =>
    dsimp only [Option.map_some]
    by_cases hp : p v = true
    · rw [if_pos hp, if_pos hp, get?_set]
    · rw [if_neg hp, if_neg hp]
      by_cases hk : k' = k
      · rw [if_pos hk, hk, hget]
      · rw [if_neg hk]

theorem get?_updateWhere_self (d : Dict κ ν) (k : κ) (p : ν → Bool) (f : ν → ν) :
    (d.updateWhere k p f).get? k = (d.get? k).map fun v => if p v then f v else v := by
  rw [get?_updateWhere, if_pos rfl]

theorem get?_updateWhere_of_ne {k' : κ} (h : k' ≠ k) : (d.updateWhere k p f).get? k' = d.get? k' := by
  rw [get?_updateWhere, if_neg h]

/-! ### One key after the other -/

/-- The statement for each of the keys, with the sum of the row counts. -/
def updateEach (p : ν → Bool) (f : ν → ν) : List κ → Dict κ ν → ℕ × Dict κ ν
  | [], d => (0, d)
  | k :: ks, d =>
    let rest := updateEach p f ks (d.updateWhere k p f)
    ((d.hits k p).toNat + rest.1, rest.2)

theorem get?_updateEach (hf : ∀ v, p (f v) = false) (ks : List κ) (d : Dict κ ν) (k : κ) :
    (updateEach p f ks d).2.get? k
      = if k ∈ ks then (d.get? k).map (fun v => if p v then f v else v) else d.get? k := by
  induction ks generalizing d with
  | nil => rfl
  | cons k' ks ih =>
    show (updateEach p f ks (d.updateWhere k' p f)).2.get? k = _
    rw [ih]
    by_cases hk : k = k'
    · subst hk
      rw [get?_updateWhere_self, if_pos mem_cons_self, Option.map_map]
      cases d.get? k with
      | none => simp
      | some v => by_cases hp : p v = true <;> simp [hp, hf]
    · rw [get?_updateWhere_of_ne hk]
      simp only [mem_cons, hk, false_or]

theorem updateEach_of_not_hits {ks : List κ} (h : ∀ k ∈ ks, d.hits k p = false) : updateEach p f ks d = (0, d) := by
  induction ks with
  | nil => rfl
  | cons k ks ih =>
    have hk : d.hits k p = false := h k mem_cons_self
    rw [updateEach, updateWhere_of_not_hits hk, ih fun k' hk' => h k' (mem_cons_of_mem _ hk'), hk]
    rfl

/-! ### Queries -/

section Select

variable {β : Type} {g : κ → ν → Option β}

/-- What a query picks of the rows, in the order of their insertion. -/
def select (d : Dict κ ν) (g : κ → ν → Option β) : List β := d.entries.filterMap fun e => g e.1 e.2

theorem filterMap_put_sublist {v : ν} {l : List (κ × ν)} (hsome : (find k l).isSome = true)
    (h : ∀ old, find k l = some old → g k v = none ∨ g k v = g k old) :
    ((put k v l).filterMap fun e => g e.1 e.2).Sublist (l.filterMap fun e => g e.1 e.2) := by
  induction l with
  | nil => cases hsome
  | cons e l ih =>
    obtain ⟨k', v'⟩ := e
    by_cases hk : k' = k
    · subst hk
      rw [put, if_pos rfl, filterMap_cons, filterMap_cons]
      rcases h v' (if_pos rfl) with hnone | hsame
      · rw [hnone]
        dsimp only
        split
        · exact List.Sublist.refl _
        · exact sublist_cons_self _ _
      · rw [hsame]
    · rw [find, if_neg hk] at hsome h
      rw [put, if_neg hk, filterMap_cons, filterMap_cons]
      split
      · exact ih hsome h
      · exact (ih hsome h).cons_cons _

/-- An update that leaves what the query picks, or takes the row out of it. -/
theorem select_set_sublist {v old : ν} (hget : d.get? k = some old) (h : g k v = none ∨ g k v = g k old) :
    ((d.set k v).select g).Sublist (d.select g) :=
  filterMap_put_sublist (by show (d.get? k).isSome = true; rw [hget]; rfl) fun old' hold => by
    obtain rfl := Option.some.inj (hget.symm.trans hold)
    exact h

omit [DecidableEq κ] in
theorem select_sublist {g' : κ → ν → Option β} (d : Dict κ ν) (h : ∀ k v, g' k v = none ∨ g' k v = g k v) :
    (d.select g').Sublist (d.select g) := by
  unfold select
  induction d.entries with
  | nil => exact List.Sublist.refl _
  | cons e l ih =>
    rw [filterMap_cons, filterMap_cons]
    rcases h e.1 e.2 with hnone | hsame
    · rw [hnone]
      dsimp only
      split
      · exact ih
      · exact ih.trans (sublist_cons_self _ _)
    · rw [hsame]
      split
      · exact ih
      · exact ih.cons_cons _

omit [DecidableEq κ] in
theorem select_mapValues (f : ν → ν) (d : Dict κ ν) : (d.mapValues f).select g = d.select fun k v => g k (f v) := by
  show ((d.entries.map fun e => (e.1, f e.2)).filterMap fun e => g e.1 e.2) = _
  rw [filterMap_map]
  rfl

omit [DecidableEq κ] in
theorem select_mapValues_sublist {f : ν → ν} (d : Dict κ ν) (h : ∀ k v, g k (f v) = none ∨ g k (f v) = g k v) :
    ((d.mapValues f).select g).Sublist (d.select g) := by
  rw [select_mapValues]
  exact d.select_sublist h

omit [DecidableEq κ] in
theorem map_select {γ : Type} (f : β → γ) (d : Dict κ ν) : (d.select g).map f = d.select fun k v => (g k v).map f := by
  rw [select, map_filterMap]
  rfl

theorem select_set_new (hget : d.get? k = none) (v : ν) : (d.set k v).select g = d.select g ++ (g k v).toList := by
  show ((put k v d.entries).filterMap fun e => g e.1 e.2) = _
  rw [put_of_find_none hget, filterMap_append]
  cases h : g k v <;> simp [select, h]

theorem mem_select_iff {b : β} : b ∈ d.select g ↔ ∃ k v, d.get? k = some v ∧ g k v = some b := by
  rw [select, mem_filterMap]
  constructor
  · rintro ⟨⟨k, v⟩, hmem, hb⟩
    exact ⟨k, v, (d.mem_entries_iff k v).mp hmem, hb⟩
  · rintro ⟨k, v, hget, hb⟩
    exact ⟨(k, v), (d.mem_entries_iff k v).mpr hget, hb⟩

theorem nodup_select (h : ∀ k k' v v' b, d.get? k = some v → d.get? k' = some v' → g k v = some b → g k' v' = some b → k = k') :
    (d.select g).Nodup := by
  have hkeys : d.entries.Pairwise fun e e' => e.1 ≠ e'.1 := pairwise_map.mp d.nodupKeys
  refine pairwise_filterMap.mpr (hkeys.imp_of_mem ?_)
  rintro ⟨k, v⟩ ⟨k', v'⟩ hmem hmem' hne b hb b' hb' rfl
  exact hne (h k k' v v' b ((d.mem_entries_iff k v).mp hmem) ((d.mem_entries_iff k' v').mp hmem') hb hb')

end Select

end ComputeMesh.Dict
