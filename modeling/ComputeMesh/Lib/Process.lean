import Mathlib

/-!
# Programs of atomic steps

A process over a state `σ` either is done or takes one atomic step, and what it does next depends on the
state it found.  Between two steps it can crash, and other processes can run.

* `after` — the state a process has left when it dies after `n` steps, `run` — when nothing stops it;
* `exec` — a process that may raise, with its rule of sequence `exec_bind`;
* `Always` — a condition holds whenever the process could die: `always_bind` is its rule of composition;
* `Keeps` — every step keeps an invariant, in whatever state the others have left: `pool_keeps` carries it
  through every interleaving of a pool of processes.
-/

namespace ComputeMesh

/-- A program of atomic steps: `write` is what the step makes of the state, `next` how the program goes on
after a step taken in the given state. -/
inductive Process (σ α : Type)
  | done (a : α)
  | step (write : σ → σ) (next : σ → Process σ α)

namespace Process

variable {σ α β : Type}

/-- One atomic step that returns a value. -/
def call (f : σ → α × σ) : Process σ α := step (fun s => (f s).2) fun s => done (f s).1

/-- One process after the other. -/
def bind : Process σ α → (α → Process σ β) → Process σ β
  | done a, k => k a
  | step write next, k => step write fun s => bind (next s) k

instance : Monad (Process σ) where
  pure := done
  bind := bind

/-- One atomic step that may raise. -/
def attempt {ε : Type} (f : σ → Except ε α × σ) : ExceptT ε (Process σ) α := ExceptT.mk (call f)

/-- Run to the end. -/
def run : Process σ α → σ → α × σ
  | done a, s => (a, s)
  | step write next, s => run (next s) (write s)

/-- The state after at most `n` steps. -/
def after : ℕ → Process σ α → σ → σ
  | 0, _, s => s
  | _ + 1, done _, s => s
  | n + 1, step write next, s => after n (next s) (write s)

@[simp] theorem run_call (f : σ → α × σ) (s : σ) : (call f).run s = f s := rfl

@[simp] theorem run_pure (a : α) (s : σ) : (pure a : Process σ α).run s = (a, s) := rfl

@[simp] theorem run_bind (p : Process σ α) (k : α → Process σ β) (s : σ) :
    (p >>= k).run s = (k (p.run s).1).run (p.run s).2 := by
  induction p generalizing s with
  | done a => rfl
  | step write next ih => exact ih s (write s)

/-- Run a process that may raise to its end. -/
def exec {ε : Type} (p : ExceptT ε (Process σ) α) (s : σ) : Except ε α × σ := p.run.run s

section

variable {ε : Type}

@[simp] theorem exec_attempt (f : σ → Except ε α × σ) (s : σ) : exec (attempt f) s = f s := rfl

theorem exec_bind (p : ExceptT ε (Process σ) α) (k : α → ExceptT ε (Process σ) β) (s : σ) :
    exec (p >>= k) s = match exec p s with
      | (.ok a, s') => exec (k a) s'
      | (.error e, s') => (.error e, s') := by
  have hrun : exec (p >>= k) s = (ExceptT.bindCont k (p.run.run s).1).run (p.run.run s).2 := run_bind p.run _ s
  rw [hrun]
  unfold exec
  obtain ⟨result, s'⟩ := p.run.run s
  cases result <;> rfl

theorem exec_bind_ok {p : ExceptT ε (Process σ) α} {k : α → ExceptT ε (Process σ) β} {s s' : σ} {a : α}
    (h : exec p s = (.ok a, s')) : exec (p >>= k) s = exec (k a) s' := by
  rw [exec_bind, h]

theorem exec_bind_error {p : ExceptT ε (Process σ) α} {k : α → ExceptT ε (Process σ) β} {s s' : σ} {e : ε}
    (h : exec p s = (.error e, s')) : exec (p >>= k) s = (.error e, s') := by
  rw [exec_bind, h]

end

/-! ### Crashes -/

/-- The condition holds before and after every step of the process. -/
def Always (I : σ → Prop) : Process σ α → σ → Prop
  | done _, s => I s
  | step write next, s => I s ∧ Always I (next s) (write s)

variable {I : σ → Prop}

theorem Always.start {p : Process σ α} {s : σ} (h : p.Always I s) : I s := by
  cases p with
  | done a => exact h
  | step write next => exact h.1

variable {p : Process σ α}

theorem Always.after {s : σ} (h : p.Always I s) (n : ℕ) : I (p.after n s) := by
  induction n generalizing p s with
  | zero => exact h.start
  | succ n ih =>
    cases p with
    | done a => exact h
    | step write next => exact ih h.2

theorem Always.run {p : Process σ α} {s : σ} (h : p.Always I s) : I (p.run s).2 := by
  induction p generalizing s with
  | done a => exact h
  | step write next ih => exact ih s h.2

theorem always_call {f : σ → α × σ} {s : σ} (h : I s) (h' : I (f s).2) : (call f).Always I s := ⟨h, h'⟩

variable {k : α → Process σ β}

/-- **Composition**: the condition holds throughout the first process, and throughout the second from where
the first one ends. -/
theorem always_bind {s : σ} (h : p.Always I s)
    (hk : (k (p.run s).1).Always I (p.run s).2) : (p >>= k).Always I s := by
  induction p generalizing s with
  | done a => exact hk
  | step write next ih => exact ⟨h.1, ih s h.2 hk⟩

/-! ### Interleavings -/

/-- Every step of the process keeps the invariant, in any state that satisfies it, and what the process
returns satisfies `Q`. -/
def KeepsTo (I : σ → Prop) (Q : α → Prop) : Process σ α → Prop
  | done a => Q a
  | step write next => ∀ s, I s → I (write s) ∧ KeepsTo I Q (next s)

/-- Every step keeps the invariant. -/
def Keeps (I : σ → Prop) : Process σ α → Prop := KeepsTo I fun _ => True

variable {Q : α → Prop} {Q' : β → Prop}

theorem keeps_call {f : σ → α × σ} (h : ∀ s, I s → I (f s).2) : (call f).Keeps I :=
  fun s hs => ⟨h s hs, trivial⟩

theorem keepsTo_bind (h : p.KeepsTo I Q) (hk : ∀ a, Q a → (k a).KeepsTo I Q') : (p >>= k).KeepsTo I Q' := by
  induction p with
  | done a => exact hk a h
  | step write next ih => exact fun s hs => ⟨(h s hs).1, ih s (h s hs).2⟩

theorem keeps_bind (h : p.Keeps I) (hk : ∀ a, (k a).Keeps I) : (p >>= k).Keeps I :=
  keepsTo_bind h fun a _ => hk a

theorem keeps_attempt {ε : Type} {p : ExceptT ε (Process σ) α} {k : α → ExceptT ε (Process σ) β}
    (h : p.run.Keeps I) (hk : ∀ a, (k a).run.Keeps I) : (p >>= k).run.Keeps I := by
  refine keeps_bind h fun r => ?_
  cases r with
  | ok a => exact hk a
  | error e => trivial

theorem keeps_lift {ε : Type} {k : α → ExceptT ε (Process σ) β} (h : p.KeepsTo I Q)
    (hk : ∀ a, Q a → (k a).run.Keeps I) : ((liftM p : ExceptT ε (Process σ) α) >>= k).run.Keeps I := by
  have hlift : KeepsTo I (fun r : Except ε α => ∃ a, r = .ok a ∧ Q a)
      (liftM p : ExceptT ε (Process σ) α).run :=
    keepsTo_bind h fun a ha => ⟨a, rfl, ha⟩
  refine keepsTo_bind hlift ?_
  rintro _ ⟨a, rfl, ha⟩
  exact hk a ha

/-- A pool of processes: process `i` takes its next step, if it is there and not done. -/
def poolStep (c : σ × List (Process σ α)) (i : ℕ) : σ × List (Process σ α) :=
  match c.2[i]? with
  | some (step write next) => (write c.1, c.2.set i (next c.1))
  | _ => c

def poolRun (c : σ × List (Process σ α)) (schedule : List ℕ) : σ × List (Process σ α) :=
  schedule.foldl poolStep c

/-- **Every interleaving** of processes that keep the invariant keeps it. -/
theorem pool_keeps {c : σ × List (Process σ α)} (hs : I c.1) (hp : ∀ p ∈ c.2, p.Keeps I)
    (schedule : List ℕ) : I (poolRun c schedule).1 := by
  induction schedule generalizing c with
  | nil => exact hs
  | cons i schedule ih =>
    show I (poolRun (poolStep c i) schedule).1
    rw [poolStep]
    split
    · rename_i write next hget
      have hkeeps := hp _ (List.mem_of_getElem? hget) c.1 hs
      refine ih hkeeps.1 fun p hmem => ?_
      rcases List.mem_or_eq_of_mem_set hmem with h | rfl
      · exact hp p h
      · exact hkeeps.2
    · exact ih hs hp

end Process

end ComputeMesh
