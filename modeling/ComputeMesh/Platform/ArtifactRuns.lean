import ComputeMesh.Lib.Run
import ComputeMesh.Platform.ArtifactKeeping

/-!
# A reference keeps what was put under it

Whatever calls are under way and however their file operations and transactions interleave, a reference that has been
returned and has not expired yields its bytes and fields to its principal, and to no one else.

* `sound_next` — **the step**: the invariant goes on, and the answer is right;
* `Asked`, `assemble` — a client that fetches a reference chunk by chunk, `assemble_eq`;
* `artifacts_kept` — **every run**;
* `artifact_promises_broken` — what happens in three runs that are not careful.
-/

namespace ComputeMesh.Platform

open ComputeMesh.Run

namespace ArtifactWorld

variable {C : List UInt8 → Prop} {w : ArtifactWorld}

/-- The answer that was just given is right. -/
def Answered (w : ArtifactWorld) : Prop := ∀ answer, w.answer = some answer → w.Owes answer

theorem Answered.of_none (h : w.answer = none) : w.Answered := by
  intro answer hanswer
  rw [h] at hanswer
  cases hanswer

/-- **The step.** -/
theorem sound_next (hC : CollisionFree C) (h : w.Sound C) {step : ℚ × ArtifactStep} (hcare : w.Careful C step) :
    (w.next step).Sound C ∧ (w.next step).Answered := by
  obtain ⟨time, step⟩ := step
  have ht : (w.tick time).Sound C := h.tick time
  have hnow : time ≤ (w.tick time).horizon := le_max_right _ _
  have hsilent : (w.tick time).Answered := .of_none rfl
  cases step with
  | put call a =>
    simp only [next]
    split
    · exact ⟨ht.answered _, fun answer hanswer => by cases hanswer; trivial⟩
    · exact ⟨ht.setPut call ⟨hcare, by rintro ⟨⟩⟩, hsilent⟩
  | find call =>
    simp only [next]
    split
    case h_1 c hc =>
      split
      · exact ⟨ht.lookFor call (ht.puts call c hc), hsilent⟩
      · exact ⟨ht, hsilent⟩
    case h_2 => exact ⟨ht, hsilent⟩
  | replace call inode modified =>
    simp only [next]
    split
    case h_1 c hc =>
      split
      · exact ⟨ht.replaceFile call (ht.puts call c hc) inode modified, hsilent⟩
      · exact ⟨ht, hsilent⟩
    case h_2 => exact ⟨ht, hsilent⟩
  | record call token =>
    simp only [next]
    split
    case h_1 c hc =>
      split
      case isTrue hready =>
        exact ht.recordCall hC call token (ht.puts call c hc) hready.1 (Option.isNone_iff_eq_none.mp hready.2)
          (fun art hart => hcare c art hc hart) time
      case isFalse => exact ⟨ht, hsilent⟩
    case h_2 => exact ⟨ht, hsilent⟩
  | abandon call => exact ⟨ht.abandon call, hsilent⟩
  | read call refId principalId kind =>
    simp only [next]
    split
    case h_1 failure hfail =>
      refine ⟨ht.answered _, fun answer hanswer => ?_⟩
      cases hanswer
      exact ht.owes_refused hnow hfail
    case h_2 ref hok => exact ⟨ht.read hnow hok, hsilent⟩
  | proceed call =>
    simp only [next]
    split
    case h_1 c hc => exact ht.proceed hC rfl (ht.reads call c hc)
    case h_2 => exact ⟨ht, hsilent⟩
  | list sessionId principalId =>
    refine ⟨ht.answered _, fun answer hanswer => ?_⟩
    cases hanswer
    exact ht.owes_listed hnow sessionId principalId
  | purge timestamp =>
    simp only [next]
    split
    · have hlater : ((w.tick time).tick (timestamp.getD time)).Sound C := ht.tick _
      refine ⟨⟨hlater.store, ?_, hlater.puts, hlater.returned, hlater.reads⟩, .of_none rfl⟩
      intro p hp
      cases hp
      exact sound_beginPurge _ (le_max_right _ _)
    · exact ⟨ht, hsilent⟩
  | unlink =>
    simp only [next]
    split
    case h_1 p hp =>
      split
      case h_1 row rest hrows =>
        exact ⟨ht.unlink hp hrows (hcare p row rest hp hrows), hsilent⟩
      case h_2 => exact ⟨ht, hsilent⟩
    case h_2 => exact ⟨ht, hsilent⟩
  | commit =>
    simp only [next]
    split
    case h_1 p hp =>
      split
      · exact ⟨ht.commit hp, fun answer hanswer => by cases hanswer; trivial⟩
      · exact ⟨ht, hsilent⟩
    case h_2 => exact ⟨ht, hsilent⟩
  | rollback => exact ⟨⟨ht.store, by rintro p ⟨⟩, ht.puts, ht.returned, ht.reads⟩, hsilent⟩

end ArtifactWorld

/-! ### Fetching a reference chunk by chunk -/

section Fetching

variable {answered : ReadKind → Except ArtifactFailure Fetched → Prop} {a : PutArguments}

/-- A client that asks for chunks of some lengths, each where the one before ended, and what it was answered. -/
def Asked (answered : ReadKind → Except ArtifactFailure Fetched → Prop) :
    ℕ → List (ℤ × Except ArtifactFailure Fetched) → Prop
  | _, [] => True
  | offset, (length, result) :: rest =>
    (1 ≤ length ∧ length ≤ maxChunk) ∧ answered (.chunk offset length) result ∧
      ∀ chunk, result = .ok (.chunk chunk) → chunk.complete = false → Asked answered chunk.endOffset rest

/-- The chunks one after the other, up to the one that is complete. -/
def assemble : List (ℤ × Except ArtifactFailure Fetched) → Option (List UInt8)
  | (_, .ok (.chunk chunk)) :: rest =>
    if chunk.complete = true then some chunk.data else (assemble rest).map fun data => chunk.data ++ data
  | _ => none

/-- **The chunks are the bytes**, once there are enough of them. -/
theorem assemble_eq (hyields : ∀ kind result, answered kind result → ArtifactWorld.Yields a kind result) {offset : ℕ}
    (hinside : offset < a.data.length) {exchange : List (ℤ × Except ArtifactFailure Fetched)}
    (hasked : Asked answered offset exchange) :
    assemble exchange = some (a.data.drop offset) ∨
      (assemble exchange = none ∧ exchange.length < a.data.length - offset) := by
  induction exchange generalizing offset with
  | nil =>
    refine .inr ⟨rfl, ?_⟩
    simp only [List.length_nil]
    omega
  | cons asked rest ih =>
    obtain ⟨length, result⟩ := asked
    obtain ⟨⟨hpos, hmax⟩, hanswered, hrest⟩ := hasked
    have hstart : (offset : ℤ) < a.data.length := by exact_mod_cast hinside
    obtain ⟨ref, -, rfl⟩ := hyields _ _ hanswered (Int.natCast_nonneg _) hpos hmax hstart
    obtain ⟨k, rfl⟩ := Int.eq_ofNat_of_zero_le (show 0 ≤ length by omega)
    simp only [Int.toNat_natCast] at hrest ⊢
    have hend : ∀ chunk : ArtifactChunk, chunk = ⟨ref, offset, (a.data.drop offset).take k, a.data.length⟩ →
        chunk.endOffset = offset + min k (a.data.length - offset) ∧
          (chunk.complete = true ↔ a.data.length - offset ≤ k) := by
      rintro _ rfl
      have hlength : ((a.data.drop offset).take k).length = min k (a.data.length - offset) := by
        rw [List.length_take, List.length_drop]
      refine ⟨congrArg (offset + ·) hlength, ?_⟩
      rw [ArtifactChunk.complete, decide_eq_true_iff, ArtifactChunk.endOffset, hlength]
      dsimp only
      omega
    obtain ⟨hoffset, hcomplete⟩ := hend _ rfl
    by_cases hlast : a.data.length - offset ≤ k
    · refine .inl ?_
      rw [assemble, if_pos (hcomplete.mpr hlast)]
      rw [List.take_of_length_le (by rw [List.length_drop]; exact hlast)]
    · have hmore := mt hcomplete.mp hlast
      rw [assemble, if_neg hmore]
      have hnext := hrest _ rfl (Bool.eq_false_iff.mpr hmore)
      rw [hoffset, Nat.min_eq_left (by omega)] at hnext
      rcases ih (by omega) hnext with hsome | ⟨hnone, hshort⟩
      · refine .inl ?_
        rw [hsome, Option.map_some, ← List.drop_drop, List.take_append_drop]
      · refine .inr ⟨by rw [hnone]; rfl, ?_⟩
        rw [List.length_cons]
        omega

end Fetching

/-! ### Runs -/

/-- A store that nothing was put in. -/
def ArtifactWorld.fresh (root : String) (maxBytes : ℕ) (start : ℚ) : ArtifactWorld where
  store := ⟨root, maxBytes, .empty, .empty, .empty, .empty⟩
  purge := none
  puts := .empty
  reads := .empty
  horizon := start
  returned := []
  answer := none

namespace ArtifactWorld

variable {C : List UInt8 → Prop} {w : ArtifactWorld}

theorem sound_fresh (C : List UInt8 → Prop) (root : String) (maxBytes : ℕ) (start : ℚ) :
    (fresh root maxBytes start).Sound C := by
  refine ⟨⟨?_, ?_, ?_, ?_⟩, ?_, ?_, ?_, ?_⟩ <;>
  · intros
    contradiction

theorem Sound.honoured (h : w.Sound C) (hC : CollisionFree C) (hanswered : w.Answered) : w.Honoured :=
  ⟨hanswered, fun _ _ hmem hlive => h.live hC hmem hlive⟩

theorem honoured_exec (hC : CollisionFree C) (root : String) (maxBytes : ℕ) (start : ℚ) {steps : List (ℚ × ArtifactStep)}
    (hcare : Along next (Careful C) (fresh root maxBytes start) steps) :
    (exec next (fresh root maxBytes start) steps).Honoured := by
  have hrun : (exec next (fresh root maxBytes start) steps).Sound C ∧
      (exec next (fresh root maxBytes start) steps).Answered :=
    exec_of_along (fun w => w.Sound C ∧ w.Answered) (fun w step h hok => sound_next hC h.1 hok)
      ⟨sound_fresh C root maxBytes start, .of_none rfl⟩ hcare
  exact hrun.1.honoured hC hrun.2

/-- In the run, a reader of the principal got this result for an unexpired reference that had been returned before. -/
def Fetches (w : ArtifactWorld) (steps : List (ℚ × ArtifactStep)) (refId : String) (a : PutArguments) (kind : ReadKind)
    (result : Except ArtifactFailure Fetched) : Prop :=
  ∃ reached known, reached <+: steps ∧
    (exec next w reached).answer = some (.read refId a.principalId kind known result) ∧
    (refId, a) ∈ known ∧ UnexpiredAt (exec next w reached).horizon a.expiresAt

/-- How many steps a reader has before it at most. -/
def stepsLeft : ReadPhase → ℕ
  | .located => 4
  | .measured _ => 3
  | .hashing _ => 2
  | .verified => 1

/-- **A reader's step answers it or brings it nearer to its answer.** -/
theorem proceed_forward (w : ArtifactWorld) (call : String) (c : ReadCall) :
    (∃ result, (w.proceed call c).answer = some (.read c.refId c.principalId c.kind c.known result)) ∨
      ∃ phase, (w.proceed call c).reads.get? call = some { c with phase := phase } ∧
        stepsLeft phase < stepsLeft c.phase := by
  fun_cases proceed with
  | case2 _ hphase | case4 _ _ hphase | case5 _ _ hphase | case8 _ _ hphase =>
    exact .inr ⟨_, Dict.get?_set_self _ _ _, by simp [stepsLeft, hphase]⟩
  | _ => exact .inl ⟨_, rfl⟩

end ArtifactWorld

open ArtifactWorld

/-- **A reference keeps what was put under it**, in every state that a careful run reaches; its readers are answered, and
the chunks that its principal fetches are its bytes. -/
theorem artifacts_kept {C : List UInt8 → Prop} (hC : CollisionFree C) (root : String) (maxBytes : ℕ) (start : ℚ)
    {steps : List (ℚ × ArtifactStep)} (hcare : Along next (Careful C) (fresh root maxBytes start) steps) :
    (∀ reached, reached <+: steps → (exec next (fresh root maxBytes start) reached).Honoured ∧
        ∀ call c, (exec next (fresh root maxBytes start) reached).reads.get? call = some c →
          (∃ result, ((exec next (fresh root maxBytes start) reached).proceed call c).answer
            = some (.read c.refId c.principalId c.kind c.known result)) ∨
          ∃ phase, ((exec next (fresh root maxBytes start) reached).proceed call c).reads.get? call
              = some { c with phase := phase } ∧ stepsLeft phase < stepsLeft c.phase) ∧
      ∀ refId a exchange, a.data ≠ [] → Asked (Fetches (fresh root maxBytes start) steps refId a) 0 exchange →
        assemble exchange = some a.data ∨ (assemble exchange = none ∧ exchange.length < a.data.length) := by
  have hreached : ∀ reached, reached <+: steps → (exec next (fresh root maxBytes start) reached).Honoured := by
    rintro reached ⟨rest, rfl⟩
    exact honoured_exec hC root maxBytes start (along_append.mp hcare).1
  refine ⟨fun reached hpre => ⟨hreached reached hpre, fun call c _ => proceed_forward _ call c⟩, ?_⟩
  intro refId a exchange hdata hasked
  refine assemble_eq (fun kind result hfetched => ?_) (List.length_pos_iff.mpr hdata) hasked
  obtain ⟨reached, known, hpre, hanswer, hknown, hlive⟩ := hfetched
  exact ((hreached reached hpre).answer _ hanswer a hknown hlive).1 rfl

/-! ### One careful run, and three that are not -/

section Sample

def samplePut (data : List UInt8) (mimeType refId : String) (expiresAt : Option ℚ) : PutArguments where
  data := data
  sessionId := "s"
  turnId := "t"
  principalId := "ada"
  name := "notes"
  mimeType := mimeType
  expiresAt := expiresAt
  refId := some refId

def putSteps (a : PutArguments) : List (ℚ × ArtifactStep) :=
  [(1, .put "p" a), (1, .find "p"), (1, .replace "p" 7 1), (1, .record "p" "")]

def emptyStore : ArtifactWorld := .fresh "/srv" 16 0

theorem careful_record {C : List UInt8 → Prop} {w : ArtifactWorld} (h : w.store.artifacts.entries = []) (time : ℚ)
    (call token : String) : w.Careful C (time, .record call token) := by
  intro c art _ hart
  rw [Dict.get?, h] at hart
  cases hart

/-- A put, a reader that has found its reference, and a purge. -/
theorem artifacts_kept_sample : let steps := putSteps (samplePut [1, 2] "text/plain" "a" none) ++
      [(2, .read "r" "a" "ada" (.chunk 1 5)), (3, .purge none), (3, .commit)]
    (exec next emptyStore steps).Honoured ∧ (exec next emptyStore steps).returned.length = 1 := by
  intro steps
  have hC : CollisionFree fun data => data = [1, 2] := fun x y hx hy _ => hx.trans hy.symm
  have hcare : Along next (Careful fun data => data = [1, 2]) emptyStore steps :=
    ⟨rfl, trivial, trivial, careful_record (by decide) _ _ _, trivial, trivial, trivial, trivial⟩
  exact ⟨((artifacts_kept hC "/srv" 16 0 hcare).1 steps (List.prefix_refl _)).1, by decide +kernel⟩

/-- Three broken promises: bytes that are put again under another MIME type come back under the first one; a purge
deletes the file that a put has found before the put records its reference; an empty artifact has no first chunk. -/
theorem artifact_promises_broken :
    let typed := exec next emptyStore (putSteps (samplePut [1] "text/plain" "a" none) ++
      [(2, .put "q" (samplePut [1] "text/csv" "b" none)), (2, .find "q"), (2, .record "q" "")])
    typed.returned.head? = some ("b", samplePut [1] "text/csv" "b" none) ∧
      (typed.store.joined "b").map (fun ref => ref.mimeType) = some "text/plain" ∧
    let lost := exec next emptyStore (putSteps (samplePut [1] "text/plain" "a" (some 5)) ++
      [(9, .put "q" (samplePut [1] "text/plain" "b" none)), (9, .find "q"), (9, .purge none), (9, .unlink), (9, .commit),
        (9, .record "q" "")])
    lost.returned.head? = some ("b", samplePut [1] "text/plain" "b" none) ∧ lost.store.files.entries = [] ∧
    let empty := exec next emptyStore (putSteps (samplePut [] "text/plain" "a" none) ++
      [(2, .read "r" "a" "ada" (.chunk 0 1))])
    empty.returned = [("a", samplePut [] "text/plain" "a" none)] ∧ (match empty.answer with
        | some (.read _ _ _ _ (.error (.notFound message))) => message
        | _ => "") = "artifact chunk offset is outside the artifact" := by
  refine and_assoc.mp ⟨by decide +kernel, and_assoc.mp ⟨by decide +kernel, by decide +kernel⟩⟩

end Sample

end ComputeMesh.Platform
