import Mathlib

/-!
# Insertion-ordered dictionaries

The dictionary of the scripting languages: looking a key up, storing under a key (an existing key
keeps its place, a new one goes to the end) and iterating over the values in order.  Two keys are never
equal, and the structure carries that as a field.

* `get?_set_self` / `get?_set_of_ne` — the two reading rules, and `get?_set_eq_some`, `get?_erase_eq_some` for what is
  read;
* `sumBy_set` — **the accounting rule**: storing under a key moves a sum over the values by what the
  new value contributes less what the old one did;
* `sumBy_erase` — the same for removing a key;
* `sumBy_insert`, `sumBy_replace`, `sumBy_remove` — these two where it is known what the key held;
* `sumBy_mapValues`, `sumBy_le_sumBy`, `le_sumBy` — how such sums follow a change of every value and
  compare with one another.

Nothing here is about any particular program.
-/

namespace ComputeMesh

open List

/-- A finite map that remembers the order in which its keys were first stored. -/
structure Dict (κ ν : Type) where
  entries : List (κ × ν)
  nodupKeys : (entries.map Prod.fst).Nodup

namespace Dict

variable {κ ν : Type} [DecidableEq κ]

/-! ### The underlying association lists -/

/-- The value stored under `k`. -/
def find (k : κ) : List (κ × ν) → Option ν
  | [] => none
  | (k', v) :: rest => if k' = k then some v else find k rest

/-- Store `v` under `k`: in place if `k` is there, at the end if not. -/
def put (k : κ) (v : ν) : List (κ × ν) → List (κ × ν)
  | [] => [(k, v)]
  | (k', v') :: rest => if k' = k then (k, v) :: rest else (k', v') :: put k v rest

attribute [local simp] find put

section

variable (k : κ) (v : ν) (l : List (κ × ν))

theorem mem_keys_put (x : κ) : x ∈ (put k v l).map Prod.fst ↔ x = k ∨ x ∈ l.map Prod.fst := by
  induction l with
  | nil => simp [put]
  | cons e l ih =>
    obtain ⟨k', v'⟩ := e
    by_cases h : k' = k
    · simp [put, h]
    · simp only [put, h, if_false, map_cons, mem_cons, ih]
      tauto

theorem nodup_keys_put (h : (l.map Prod.fst).Nodup) : ((put k v l).map Prod.fst).Nodup := by
  induction l with
  | nil => simp [put]
  | cons e l ih =>
    obtain ⟨k', v'⟩ := e
    rw [map_cons, nodup_cons] at h
    by_cases hk : k' = k
    · subst hk
      simpa [put] using h
    · simp only [put, hk, if_false, map_cons, nodup_cons]
      refine ⟨fun hmem => ?_, ih h.2⟩
      rcases (mem_keys_put k v l k').mp hmem with heq | hin
      · exact hk heq
      · exact h.1 hin

theorem find_put_self : find k (put k v l) = some v := by
  induction l with
  | nil => simp [put, find]
  | cons e l ih =>
    obtain ⟨k', v'⟩ := e
    by_cases h : k' = k <;> simp [put, find, h, ih]

end

variable {k : κ}

theorem find_put_of_ne {k' : κ} (h : k' ≠ k) (v : ν) (l : List (κ × ν)) : find k' (put k v l) = find k' l := by
  induction l with
  | nil => simp [put, find, h.symm]
  | cons e l ih =>
    obtain ⟨k₀, v₀⟩ := e
    by_cases h₀ : k₀ = k
    · subst h₀
      simp [put, find, h.symm]
    · simp [put, find, h₀, ih]

theorem put_put (k : κ) (v w : ν) (l : List (κ × ν)) : put k w (put k v l) = put k w l := by
  induction l with
  | nil => simp [put]
  | cons e l ih =>
    obtain ⟨k', v'⟩ := e
    by_cases hk : k' = k
    · simp [put, hk]
    · simp [put, hk, ih]

variable {v : ν} {l : List (κ × ν)}

theorem find_eq_some_of_mem (hnd : (l.map Prod.fst).Nodup) (h : (k, v) ∈ l) : find k l = some v := by
  induction l with
  | nil => simp at h
  | cons e l ih =>
    obtain ⟨k', v'⟩ := e
    rw [map_cons, nodup_cons] at hnd
    rcases mem_cons.mp h with heq | hmem
    · simp only [Prod.mk.injEq] at heq
      simp [find, heq.1, heq.2]
    · have hne : k' ≠ k := fun hk => hnd.1 (hk ▸ mem_map.mpr ⟨(k, v), hmem, rfl⟩)
      simp [find, hne, ih hnd.2 hmem]

theorem mem_of_find (h : find k l = some v) : (k, v) ∈ l := by
  induction l with
  | nil => simp [find] at h
  | cons e l ih =>
    obtain ⟨k', v'⟩ := e
    by_cases hk : k' = k
    · subst hk
      simp only [find, if_true, Option.some.injEq] at h
      simp [h]
    · simp only [find, hk, if_false] at h
      exact mem_cons_of_mem _ (ih h)

/-! ### Dictionaries -/

/-- The dictionary with nothing in it. -/
def empty : Dict κ ν := ⟨[], List.nodup_nil⟩

/-- `d.get(k)`. -/
def get? (d : Dict κ ν) (k : κ) : Option ν := find k d.entries

/-- `d.get(k, default)`. -/
def getD (d : Dict κ ν) (k : κ) (default : ν) : ν := (d.get? k).getD default

/-- `k in d`. -/
def contains (d : Dict κ ν) (k : κ) : Bool := (d.get? k).isSome

/-- `d[k] = v`. -/
def set (d : Dict κ ν) (k : κ) (v : ν) : Dict κ ν :=
  ⟨put k v d.entries, nodup_keys_put k v d.entries d.nodupKeys⟩

/-- `d.values()`. -/
def values (d : Dict κ ν) : List ν := d.entries.map Prod.snd

/-- Every value replaced by its image under `f`, each under its own key. -/
def mapValues (f : ν → ν) (d : Dict κ ν) : Dict κ ν :=
  ⟨d.entries.map fun e => (e.1, f e.2), by
    rw [List.map_map]
    exact d.nodupKeys⟩

/-- The entries that satisfy `keep`. -/
def filter (keep : κ → ν → Bool) (d : Dict κ ν) : Dict κ ν :=
  ⟨d.entries.filter fun e => keep e.1 e.2, d.nodupKeys.sublist (List.filter_sublist.map Prod.fst)⟩

/-- `d.pop(k, None)`. -/
def erase (d : Dict κ ν) (k : κ) : Dict κ ν := d.filter fun k' _ => decide (k' ≠ k)

omit [DecidableEq κ] in
theorem values_mapValues (f : ν → ν) (d : Dict κ ν) : (d.mapValues f).values = d.values.map f := by
  simp [mapValues, values]

@[simp] theorem get?_empty (k : κ) : (empty : Dict κ ν).get? k = none := rfl

@[simp] theorem get?_set_self (d : Dict κ ν) (k : κ) (v : ν) : (d.set k v).get? k = some v :=
  find_put_self k v d.entries

theorem get?_set_of_ne (d : Dict κ ν) {k' : κ} (h : k' ≠ k) (v : ν) : (d.set k v).get? k' = d.get? k' :=
  find_put_of_ne h v d.entries

@[simp] theorem set_set (d : Dict κ ν) (k : κ) (v w : ν) : (d.set k v).set k w = d.set k w := by
  simp only [set, put_put]

theorem get?_set (d : Dict κ ν) (k k' : κ) (v : ν) : (d.set k v).get? k' = if k' = k then some v else d.get? k' := by
  by_cases h : k' = k
  · subst h
    simp
  · rw [if_neg h, get?_set_of_ne d h]

theorem get?_set_eq_some {d : Dict κ ν} {k k' : κ} {v w : ν} :
    (d.set k v).get? k' = some w ↔ (k' = k ∧ v = w) ∨ (k' ≠ k ∧ d.get? k' = some w) := by
  rw [get?_set]
  split <;> simp_all

theorem getD_set (d : Dict κ ν) (k k' : κ) (v default : ν) :
    (d.set k v).getD k' default = if k' = k then v else d.getD k' default := by
  rw [getD, get?_set, getD]
  split <;> rfl

theorem get?_mapValues (f : ν → ν) (d : Dict κ ν) (k : κ) : (d.mapValues f).get? k = (d.get? k).map f := by
  show find k (d.entries.map fun e => (e.1, f e.2)) = (find k d.entries).map f
  induction d.entries with
  | nil => rfl
  | cons e l ih =>
    obtain ⟨k', v'⟩ := e
    by_cases h : k' = k <;> simp [find, h, ih]

theorem find_filter (keep : κ → ν → Bool) (k : κ) (hnd : (l.map Prod.fst).Nodup) :
    find k (l.filter fun e => keep e.1 e.2) = (find k l).filter (keep k) := by
  induction l with
  | nil => rfl
  | cons e l ih =>
    obtain ⟨k', v'⟩ := e
    rw [map_cons, nodup_cons] at hnd
    have hrest := ih hnd.2
    by_cases hk : k' = k
    · subst hk
      have hnone : find k' l = none := by
        by_contra hne
        obtain ⟨v, hv⟩ := Option.ne_none_iff_exists'.mp hne
        exact hnd.1 (mem_map.mpr ⟨(k', v), mem_of_find hv, rfl⟩)
      rw [hnone] at hrest
      by_cases hkeep : keep k' v' = true
      · simp [find, hkeep, Option.filter]
      · simp [find, hkeep, hrest, Option.filter]
    · by_cases hkeep : keep k' v' = true
      · simp [find, hk, hkeep, hrest]
      · simp [find, hk, hkeep, hrest]

theorem get?_filter (keep : κ → ν → Bool) (d : Dict κ ν) (k : κ) :
    (d.filter keep).get? k = (d.get? k).filter (keep k) := find_filter keep k d.nodupKeys

@[simp] theorem get?_erase_self (d : Dict κ ν) (k : κ) : (d.erase k).get? k = none := by
  rw [erase, get?_filter]
  cases d.get? k <;> simp

theorem get?_erase_of_ne (d : Dict κ ν) {k' : κ} (h : k' ≠ k) : (d.erase k).get? k' = d.get? k' := by
  rw [erase, get?_filter]
  cases d.get? k' <;> simp [h]

theorem get?_erase (d : Dict κ ν) (k k' : κ) : (d.erase k).get? k' = if k' = k then none else d.get? k' := by
  by_cases h : k' = k
  · subst h
    simp
  · rw [if_neg h, get?_erase_of_ne d h]

theorem get?_erase_eq_some {d : Dict κ ν} {k k' : κ} {w : ν} :
    (d.erase k).get? k' = some w ↔ k' ≠ k ∧ d.get? k' = some w := by
  rw [get?_erase]
  split <;> simp_all

theorem mem_entries_iff (d : Dict κ ν) (k : κ) (v : ν) : (k, v) ∈ d.entries ↔ d.get? k = some v :=
  ⟨find_eq_some_of_mem d.nodupKeys, mem_of_find⟩

theorem mem_values_iff (d : Dict κ ν) (v : ν) : v ∈ d.values ↔ ∃ k, d.get? k = some v := by
  constructor
  · intro h
    obtain ⟨⟨k, v'⟩, hmem, rfl⟩ := mem_map.mp h
    exact ⟨k, (d.mem_entries_iff k v').mp hmem⟩
  · rintro ⟨k, h⟩
    exact mem_map.mpr ⟨(k, v), (d.mem_entries_iff k v).mpr h, rfl⟩

variable {d : Dict κ ν}

theorem mem_values_of_get? (h : d.get? k = some v) : v ∈ d.values :=
  (mem_values_iff d v).mpr ⟨k, h⟩

theorem mem_values_set {x : ν} (h : x ∈ (d.set k v).values) : x = v ∨ x ∈ d.values := by
  obtain ⟨k', hk'⟩ := (mem_values_iff _ x).mp h
  rw [get?_set] at hk'
  split at hk'
  · exact .inl (Option.some.inj hk').symm
  · exact .inr (mem_values_of_get? hk')

theorem put_of_find_none (h : find k l = none) (v : ν) : put k v l = l ++ [(k, v)] := by
  induction l with
  | nil => rfl
  | cons e l ih =>
    obtain ⟨k', v'⟩ := e
    by_cases hk : k' = k
    · rw [find, if_pos hk] at h
      cases h
    · rw [find, if_neg hk] at h
      rw [put, if_neg hk, ih h]
      rfl

theorem values_set_of_get?_none (h : d.get? k = none) (v : ν) : (d.set k v).values = d.values ++ [v] := by
  show (put k v d.entries).map Prod.snd = _
  rw [put_of_find_none h, map_append]
  rfl

/-! ### Sums over the values -/

/-- The sum of `f` over the values. -/
def sumBy (f : ν → ℤ) (d : Dict κ ν) : ℤ := (d.values.map f).sum

omit [DecidableEq κ] in
theorem sumBy_mapValues (f : ν → ℤ) (g : ν → ν) (d : Dict κ ν) :
    (d.mapValues g).sumBy f = d.sumBy (fun v => f (g v)) := by
  rw [sumBy, values_mapValues, map_map]
  rfl

omit [DecidableEq κ] in
theorem sumBy_add (f g : ν → ℤ) (d : Dict κ ν) : d.sumBy (fun v => f v + g v) = d.sumBy f + d.sumBy g :=
  sum_map_add

theorem sum_put (f : ν → ℤ) (k : κ) (v : ν) (l : List (κ × ν)) : (((put k v l).map Prod.snd).map f).sum
      = ((l.map Prod.snd).map f).sum + f v - ((find k l).map f).getD 0 := by
  induction l with
  | nil => simp [put, find]
  | cons e l ih =>
    obtain ⟨k', v'⟩ := e
    by_cases h : k' = k
    · simp only [put, find, h, if_true, map_cons, sum_cons, Option.map_some,
        Option.getD_some]
      abel
    · simp only [put, find, h, if_false, map_cons, sum_cons, ih]
      abel

/-- **The accounting rule.**  Storing under a key moves a sum over the values by the new value's part
less the old one's. -/
theorem sumBy_set (f : ν → ℤ) (d : Dict κ ν) (k : κ) (v : ν) :
    (d.set k v).sumBy f = d.sumBy f + f v - ((d.get? k).map f).getD 0 :=
  sum_put f k v d.entries

theorem sum_erase (f : ν → ℤ) (k : κ) (hnd : (l.map Prod.fst).Nodup) :
    (((l.filter fun e => decide (e.1 ≠ k)).map Prod.snd).map f).sum
      = ((l.map Prod.snd).map f).sum - ((find k l).map f).getD 0 := by
  induction l with
  | nil => simp [find]
  | cons e l ih =>
    obtain ⟨k', v'⟩ := e
    rw [map_cons, nodup_cons] at hnd
    have hrest := ih hnd.2
    by_cases h : k' = k
    · subst h
      have hkeep : (l.filter fun e => decide (e.1 ≠ k')) = l := by
        rw [filter_eq_self]
        intro e he
        exact decide_eq_true fun hek => hnd.1 (mem_map.mpr ⟨e, he, hek⟩)
      rw [filter_cons_of_neg (by simp), hkeep]
      simp [find]
    · simp only [find, h, if_false, map_cons, sum_cons, ne_eq, not_false_eq_true, decide_true,
        filter_cons_of_pos]
      rw [hrest]
      abel

theorem sumBy_erase (f : ν → ℤ) (d : Dict κ ν) (k : κ) :
    (d.erase k).sumBy f = d.sumBy f - ((d.get? k).map f).getD 0 := sum_erase f k d.nodupKeys

section
variable {d : Dict κ ν} {k : κ} {old : ν}

theorem sumBy_insert (h : d.get? k = none) (f : ν → ℤ) (v : ν) : (d.set k v).sumBy f = d.sumBy f + f v := by
  rw [sumBy_set, h]
  exact sub_zero _

theorem sumBy_replace (h : d.get? k = some old) (f : ν → ℤ) (v : ν) :
    (d.set k v).sumBy f = d.sumBy f + f v - f old := by
  rw [sumBy_set, h]
  rfl

theorem sumBy_remove (h : d.get? k = some old) (f : ν → ℤ) : (d.erase k).sumBy f = d.sumBy f - f old := by
  rw [sumBy_erase, h]
  rfl

end

omit [DecidableEq κ] in
theorem sumBy_one (d : Dict κ ν) : d.sumBy (fun _ => 1) = d.entries.length := by
  rw [sumBy, map_const', sum_replicate, values, length_map]
  simp

variable {f : ν → ℤ}

omit [DecidableEq κ] in
/-- A part of the entries has at most the sum, when no value's part is negative. -/
theorem sumBy_filter_le (keep : κ → ν → Bool) (h : ∀ v ∈ d.values, 0 ≤ f v) :
    (d.filter keep).sumBy f ≤ d.sumBy f := by
  refine List.Sublist.sum_le_sum ((filter_sublist.map Prod.snd).map f) ?_
  intro x hx
  obtain ⟨v, hv, rfl⟩ := mem_map.mp hx
  exact h v hv

theorem sumBy_filter_eq {keep : κ → ν → Bool}
    (h : ∀ k v, d.get? k = some v → keep k v = false → f v = 0) : (d.filter keep).sumBy f = d.sumBy f := by
  have hlist : ∀ l : List (κ × ν), (∀ e ∈ l, keep e.1 e.2 = false → f e.2 = 0) →
      (((l.filter fun e => keep e.1 e.2).map Prod.snd).map f).sum = ((l.map Prod.snd).map f).sum := by
    intro l
    induction l with
    | nil => exact fun _ => rfl
    | cons e l ih =>
      intro hl
      have hrest := ih fun e' he' => hl e' (mem_cons_of_mem _ he')
      cases hkeep : keep e.1 e.2 with
      | true => simp only [filter_cons, hkeep, if_true, map_cons, sum_cons, hrest]
      | false =>
        simp only [filter_cons, hkeep, Bool.false_eq_true, if_false, map_cons, sum_cons, hrest,
          hl e mem_cons_self hkeep, zero_add]
  exact hlist d.entries fun e he => h e.1 e.2 ((d.mem_entries_iff e.1 e.2).mp he)

omit [DecidableEq κ] in
theorem sumBy_le_sumBy {g : ν → ℤ} (h : ∀ v ∈ d.values, f v ≤ g v) : d.sumBy f ≤ d.sumBy g :=
  sum_le_sum h

omit [DecidableEq κ] in
theorem sumBy_congr {g : ν → ℤ} (h : ∀ v ∈ d.values, f v = g v) : d.sumBy f = d.sumBy g := by
  rw [sumBy, map_congr_left h, sumBy]

theorem sum_le_sum_of_find {g : ν → ℤ} (hnd : (l.map Prod.fst).Nodup) (hk : find k l = some v)
    (h : ∀ e ∈ l, e.1 ≠ k → f e.2 ≤ g e.2) :
    ((l.map Prod.snd).map f).sum + g v ≤ ((l.map Prod.snd).map g).sum + f v := by
  induction l with
  | nil => simp [find] at hk
  | cons e l ih =>
    obtain ⟨k', v'⟩ := e
    rw [map_cons, nodup_cons] at hnd
    simp only [map_cons, sum_cons]
    by_cases heq : k' = k
    · simp only [find, heq, if_true, Option.some.injEq] at hk
      subst hk
      have hrest : ((l.map Prod.snd).map f).sum ≤ ((l.map Prod.snd).map g).sum := by
        rw [map_map, map_map]
        apply sum_le_sum
        intro e he
        have hne : e.1 ≠ k := fun hek =>
          hnd.1 (mem_map.mpr ⟨e, he, hek.trans heq.symm⟩)
        exact h e (mem_cons_of_mem _ he) hne
      omega
    · simp only [find, heq, if_false] at hk
      have hhead : f v' ≤ g v' := h (k', v') mem_cons_self heq
      have htail := ih hnd.2 hk fun e he => h e (mem_cons_of_mem _ he)
      omega

/-- Two sums that compare at every key but one differ by at most that key's parts. -/
theorem sumBy_le_sumBy_of_get? {g : ν → ℤ} (hk : d.get? k = some v)
    (h : ∀ k' v', d.get? k' = some v' → k' ≠ k → f v' ≤ g v') :
    d.sumBy f + g v ≤ d.sumBy g + f v :=
  sum_le_sum_of_find d.nodupKeys hk fun e he hne =>
    h e.1 e.2 (find_eq_some_of_mem d.nodupKeys he) hne

/-- Two sums that agree at every key but one differ by that key's parts. -/
theorem sumBy_eq_of_get? {g : ν → ℤ} (hk : d.get? k = some v)
    (h : ∀ k' v', d.get? k' = some v' → k' ≠ k → f v' = g v') :
    d.sumBy f + g v = d.sumBy g + f v :=
  le_antisymm (sumBy_le_sumBy_of_get? hk fun k' v' hk' hne => (h k' v' hk' hne).le)
    (sumBy_le_sumBy_of_get? hk fun k' v' hk' hne => (h k' v' hk' hne).ge)

omit [DecidableEq κ] in
theorem sumBy_nonneg (h : ∀ v ∈ d.values, 0 ≤ f v) : 0 ≤ d.sumBy f := by
  apply sum_nonneg
  intro x hx
  obtain ⟨v, hv, rfl⟩ := mem_map.mp hx
  exact h v hv

omit [DecidableEq κ] in
theorem le_sumBy (h : ∀ v ∈ d.values, 0 ≤ f v) (hv : v ∈ d.values) : f v ≤ d.sumBy f := by
  apply single_le_sum _ _ (mem_map_of_mem hv)
  intro x hx
  obtain ⟨w, hw, rfl⟩ := mem_map.mp hx
  exact h w hw

end Dict

end ComputeMesh
