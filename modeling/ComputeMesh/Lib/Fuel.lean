import Mathlib

/-!
# Computations that may not come to an end

A loop without a bound is a function of its fuel, `none` while the fuel does not reach.  `Settles f a` says that
from some fuel on it gives `a`: the loop comes to its end there, and does so with `a`.

* `Settles.bind` / `Settles.succ` — **the rules of sequence and of one more turn of a loop**;
* `settles_of_measure` — a loop whose every turn ends it or lowers a measure settles.
-/

namespace ComputeMesh

variable {α β σ : Type}

/-- The computation gives `a` from some fuel on. -/
def Settles (f : ℕ → Option α) (a : α) : Prop := ∃ enough, ∀ fuel, enough ≤ fuel → f fuel = some a

variable {f : ℕ → Option α}

theorem settles_some (a : α) : Settles (fun _ => some a) a := ⟨0, fun _ _ => rfl⟩

/-- **Sequence.** -/
theorem Settles.bind {g : ℕ → α → Option β} {a : α} {b : β} (hf : Settles f a)
    (hg : Settles (fun fuel => g fuel a) b) : Settles (fun fuel => (f fuel).bind (g fuel)) b := by
  obtain ⟨m, hm⟩ := hf
  obtain ⟨n, hn⟩ := hg
  refine ⟨max m n, fun fuel hfuel => ?_⟩
  show (f fuel).bind (g fuel) = some b
  rw [hm fuel ((le_max_left m n).trans hfuel), Option.bind_some]
  exact hn fuel ((le_max_right m n).trans hfuel)

/-- **One more turn of a loop.** -/
theorem Settles.succ {a : α} (h : Settles (fun fuel => f (fuel + 1)) a) : Settles f a := by
  obtain ⟨n, hn⟩ := h
  refine ⟨n + 1, fun fuel hfuel => ?_⟩
  obtain ⟨k, rfl⟩ : ∃ k, fuel = k + 1 := ⟨fuel - 1, by omega⟩
  exact hn k (by omega)

/-- **The rule of a loop**: where every turn either settles with a result that satisfies `post` or goes on from a
state with a smaller measure, the loop settles with such a result. -/
theorem settles_of_measure (loop : ℕ → σ → Option α) (post : σ → α → Prop) (pre : σ → Prop) (measure : σ → ℕ)
    (turn : ∀ s, pre s →
      (∃ a, Settles (fun fuel => loop (fuel + 1) s) a ∧ post s a) ∨
      ∃ s', pre s' ∧ measure s' < measure s ∧ (∀ a, post s' a → post s a) ∧
        ∀ a, Settles (fun fuel => loop fuel s') a → Settles (fun fuel => loop (fuel + 1) s) a) :
    ∀ s, pre s → ∃ a, Settles (fun fuel => loop fuel s) a ∧ post s a := by
  intro s
  induction hn : measure s using Nat.strongRecOn generalizing s with
  | ind n ih =>
    intro hs
    rcases turn s hs with ⟨a, hsettles, hpost⟩ | ⟨s', hs', hlt, hpost, hgo⟩
    · exact ⟨a, hsettles.succ, hpost⟩
    · obtain ⟨a, hsettles, ha⟩ := ih (measure s') (hn ▸ hlt) s' rfl hs'
      exact ⟨a, (hgo a hsettles).succ, hpost a ha⟩

end ComputeMesh
