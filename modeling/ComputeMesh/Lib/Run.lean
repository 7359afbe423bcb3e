import Mathlib

/-!
# Runs of a state machine

A machine is a function `next` from a state and an input to the state after it; a run is a list of inputs.
`Along` says that a condition held at every step of a run, at the state the step was taken in.

* `exec_of_forall` — what every step preserves, every run preserves;
* `exec_of_along` — **the invariant rule**: what a step preserves whenever its condition holds, a run
  along which the condition holds preserves;
* `along_of_forall`, `along_of_along`, `along_iff_along` — conditions along a run that an invariant links;
* `exec_simulates` — **the simulation rule** for two machines that take the same inputs.
-/

namespace ComputeMesh.Run

variable {σ ι : Type} {next : σ → ι → σ} {ok : σ → ι → Prop}

/-- The state a run of inputs leads to. -/
def exec (next : σ → ι → σ) (s : σ) (inputs : List ι) : σ := inputs.foldl next s

theorem exec_cons (s : σ) (i : ι) (is : List ι) : exec next s (i :: is) = exec next (next s i) is := rfl

theorem exec_append (s : σ) (is js : List ι) :
    exec next s (is ++ js) = exec next (exec next s is) js := List.foldl_append

/-- The condition `ok` holds at every step of the run. -/
def Along (next : σ → ι → σ) (ok : σ → ι → Prop) : σ → List ι → Prop
  | _, [] => True
  | s, i :: is => ok s i ∧ Along next ok (next s i) is

variable {s : σ} {is : List ι}

theorem along_append {js : List ι} :
    Along next ok s (is ++ js) ↔ Along next ok s is ∧ Along next ok (exec next s is) js := by
  induction is generalizing s with
  | nil => exact ⟨fun h => ⟨trivial, h⟩, fun h => h.2⟩
  | cons i is ih =>
    show ok s i ∧ Along next ok (next s i) (is ++ js) ↔ _
    rw [ih]
    exact and_assoc.symm

/-- Whether a decidable condition held along a run can be decided. -/
instance decidableAlong [∀ s i, Decidable (ok s i)] : ∀ (is : List ι) (s : σ), Decidable (Along next ok s is)
  | [], _ => inferInstanceAs (Decidable True)
  | i :: is, s =>
    have := decidableAlong is (next s i)
    inferInstanceAs (Decidable (_ ∧ _))

/-- **The invariant rule.** -/
theorem exec_of_along (Inv : σ → Prop) (hstep : ∀ s i, Inv s → ok s i → Inv (next s i))
    (h : Inv s) (hok : Along next ok s is) : Inv (exec next s is) := by
  induction is generalizing s with
  | nil => exact h
  | cons i is ih => exact ih (hstep s i h hok.1) hok.2

/-- What an invariant and the condition give of a step holds along the run. -/
theorem along_of_along {ok' : σ → ι → Prop} (Inv : σ → Prop)
    (hstep : ∀ s i, Inv s → ok s i → ok' s i ∧ Inv (next s i)) (h : Inv s)
    (hok : Along next ok s is) : Along next ok' s is := by
  induction is generalizing s with
  | nil => trivial
  | cons i is ih =>
    obtain ⟨hhere, hnext⟩ := hstep s i h hok.1
    exact ⟨hhere, ih hnext hok.2⟩

/-- A condition along a run, and one on its inputs, hold together along it. -/
theorem along_and_of_forall_mem {good : ι → Prop} (hok : Along next ok s is)
    (hgood : ∀ i ∈ is, good i) : Along next (fun s i => ok s i ∧ good i) s is := by
  induction is generalizing s with
  | nil => trivial
  | cons i is ih =>
    exact ⟨⟨hok.1, hgood i List.mem_cons_self⟩, ih hok.2 fun j hj => hgood j (List.mem_cons_of_mem _ hj)⟩

theorem along_of_forall (Inv : σ → Prop) (hstep : ∀ s i, Inv s → ok s i ∧ Inv (next s i)) (h : Inv s)
    (is : List ι) : Along next ok s is := by
  induction is generalizing s with
  | nil => trivial
  | cons i is ih =>
    obtain ⟨hhere, hnext⟩ := hstep s i h
    exact ⟨hhere, ih hnext⟩

/-- Two conditions that agree wherever an invariant holds, one of which keeps it, hold along the same runs. -/
theorem along_iff_along {ok ok' : σ → ι → Prop} {good : ι → Prop} (Inv : σ → Prop)
    (hstep : ∀ s i, Inv s → good i → ok' s i → Inv (next s i))
    (hiff : ∀ s i, Inv s → good i → (ok s i ↔ ok' s i)) (h : Inv s)
    (hgood : ∀ i ∈ is, good i) : Along next ok s is ↔ Along next ok' s is := by
  induction is generalizing s with
  | nil => exact Iff.rfl
  | cons i is ih =>
    have hi : good i := hgood i List.mem_cons_self
    have his : ∀ j ∈ is, good j := fun j hj => hgood j (List.mem_cons_of_mem _ hj)
    constructor
    · rintro ⟨hok, hrest⟩
      have hok' := (hiff s i h hi).mp hok
      exact ⟨hok', (ih (hstep s i h hi hok') his).mp hrest⟩
    · rintro ⟨hok', hrest⟩
      exact ⟨(hiff s i h hi).mpr hok', (ih (hstep s i h hi hok') his).mpr hrest⟩

theorem exec_of_forall_mem {ok : ι → Prop} (Inv : σ → Prop) (hstep : ∀ s i, Inv s → ok i → Inv (next s i)) (h : Inv s)
    (hok : ∀ i ∈ is, ok i) : Inv (exec next s is) := by
  induction is generalizing s with
  | nil => exact h
  | cons i is ih =>
    exact ih (hstep s i h (hok i List.mem_cons_self)) fun j hj => hok j (List.mem_cons_of_mem _ hj)

theorem exec_of_forall (Inv : σ → Prop) (hstep : ∀ s i, Inv s → Inv (next s i)) (h : Inv s)
    (is : List ι) : Inv (exec next s is) := by
  induction is generalizing s with
  | nil => exact h
  | cons i is ih => exact ih (hstep s i h)

/-- **The simulation rule**: what relates two machines and is kept by every pair of steps that satisfy the
condition relates the states their runs lead to. -/
theorem exec_simulates {τ : Type} {next' : τ → ι → τ} {ok : ι → Prop} (Rel : σ → τ → Prop)
    (hstep : ∀ s t i, Rel s t → ok i → Rel (next s i) (next' t i)) {t : τ}
    (h : Rel s t) (hok : ∀ i ∈ is, ok i) : Rel (exec next s is) (exec next' t is) := by
  induction is generalizing s t with
  | nil => exact h
  | cons i is ih =>
    exact ih (hstep s t i h (hok i List.mem_cons_self)) fun j hj => hok j (List.mem_cons_of_mem _ hj)

end ComputeMesh.Run
