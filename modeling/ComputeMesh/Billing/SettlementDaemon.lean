import ComputeMesh.Billing.OwnerSettlementSpec

/-!
# The settlement daemon

`run_batch_settlement_cycle` of `services/billing/scheduled_settlement.py`: one pass over the payout profiles
that are enabled, with a settlement for every owner whose earned bucket has reached the minimum.

The loop knows the executor only by what a call returns or raises and by what the ledger says about the next
owner, so it is written for any `SettlementExecutor`; `ownerExecutor` is the one of the owner settlements.
A call may be interrupted between any two of its durable writes, by an exception of any class.

* `cycle_complete_iff` — **when a cycle leaves nobody out**, for every executor: every owner id is one the ledger
  accepts, every call returns or raises one of the five listed classes, and every owner with a settlement in
  flight still has the minimum earned;
* `settlement_cycle_complete_iff` — the same for every state that earlier cycles, earnings and restarts reach;
* `settlement_cycle_leaves_out` — a payout to be retried is passed over, and a Stripe error ends the cycle.
-/

namespace ComputeMesh.Billing

open ComputeMesh.Text

/-! ### Exceptions and profiles -/

/-- What a settlement can raise: an exception of the billing code, or one of another class. -/
inductive Raised
  | billing (e : Exn)
  | typeError (message : String)
  | keyError (message : String)
  | runtimeError (message : String)
  | attributeError (message : String)
  | database (message : String)
  | exit

/-- `str(exc)`. -/
def Raised.text : Raised → String
  | billing e => e.text
  | typeError m | keyError m | runtimeError m | attributeError m | database m => m
  | exit => ""

/-- The handler `except (OSError, ValueError, TypeError, KeyError, RuntimeError)`.  `BillingError`,
`AccountingStoreError` and `StripeIntegrationError` derive from `Exception` directly. -/
def Raised.isHandled : Raised → Bool
  | billing (.os _) | billing (.value _) | typeError _ | keyError _ | runtimeError _ => true
  | billing _ | attributeError _ | database _ | exit => false

/-- The settlement returned, or raised what the handler takes. -/
def endsHandled {α : Type} : Except Raised α → Bool
  | .ok _ => true
  | .error e => e.isHandled

/-- The table `owner_payout_profiles`, by owner id. -/
abbrev PayoutProfiles := Dict String OwnerPayoutProfile

/-- `list_profiles(payouts_enabled_only=True)`: the owner ids, in order. -/
def listEnabledProfiles (profiles : PayoutProfiles) : List String :=
  let rows := profiles.entries.filter fun row => row.2.payoutsEnabled
  (rows.map Prod.fst).insertionSort (· ≤ ·)

/-! ### The cycle -/

/-- An executor with its ledger and its settlement records. -/
structure SettlementExecutor (σ : Type) where
  ledger : σ → Ledger
  accountStore : σ → SettlementStore
  runOwnerSettlement : σ → String → Except Raised SettlementRecord × σ

/-- One entry of the list a cycle returns. -/
inductive CycleResult
  | settled (record : SettlementRecord)
  | failed (ownerId error : String)

/-- An owner's turn: the state it finds, and how the settlement ended if one was run. -/
structure Turn (σ : Type) where
  ownerId : String
  state : σ
  answer : Option (Except Raised SettlementRecord)

/-- A cycle: the turns that came, what it returned or raised, and the state it left. -/
structure Cycle (σ : Type) where
  turns : List (Turn σ)
  outcome : Except Raised (List CycleResult)
  state : σ

namespace SettlementExecutor

variable {σ : Type} (x : SettlementExecutor σ)

/-- `ledger.get_balance(owner_bucket_account(owner_id, "earned"))`. -/
def earnedBalance (s : σ) (ownerId : String) : Except Exn ℤ :=
  match cleanOwner ownerId with
  | .error e => .error e
  | .ok owner => (x.ledger s).getBalance (ownerBucketAccount owner .earned)

/-- The loop of `run_batch_settlement_cycle`. -/
def runCycle : List String → σ → List CycleResult → Cycle σ
  | [], s, results => ⟨[], .ok results, s⟩
  | ownerId :: rest, s, results =>
    match x.earnedBalance s ownerId with
    | .error e => ⟨[], .error (.billing e), s⟩
    | .ok balance =>
      if balance < minimumPayoutMicroUnits then
        let later := runCycle rest s results
        { later with turns := ⟨ownerId, s, none⟩ :: later.turns }
      else
        match x.runOwnerSettlement s ownerId with
        | (.ok record, s') =>
          let later := runCycle rest s' (results ++ [.settled record])
          { later with turns := ⟨ownerId, s, some (.ok record)⟩ :: later.turns }
        | (.error e, s') =>
          if e.isHandled then
            let later := runCycle rest s' (results ++ [.failed ownerId e.text])
            { later with turns := ⟨ownerId, s, some (.error e)⟩ :: later.turns }
          else ⟨[⟨ownerId, s, some (.error e)⟩], .error e, s'⟩

/-- The owner has a settlement that was begun and has not ended. -/
def HasInFlight (s : σ) (ownerId : String) : Prop :=
  ∃ row ∈ Dict.values (x.accountStore s),
    row.accountKind = .owner ∧ row.accountId = ownerId ∧ row.status.inFlight = true

instance (s : σ) (ownerId : String) : Decidable (x.HasInFlight s ownerId) :=
  inferInstanceAs (Decidable (∃ row ∈ Dict.values (x.accountStore s), _))

/-- The owner's earned balance reaches the minimum. -/
def IsEligible (s : σ) (ownerId : String) : Prop :=
  ∃ balance ∈ (x.earnedBalance s ownerId).toOption, minimumPayoutMicroUnits ≤ balance

instance (s : σ) (ownerId : String) : Decidable (x.IsEligible s ownerId) :=
  inferInstanceAs (Decidable (∃ balance ∈ (x.earnedBalance s ownerId).toOption, _))

/-- **Nobody is left out**: every owner has a turn, the settlement of everyone with a payout in flight or with
the minimum earned is run, and the cycle returns a result for each, after the `before` it began with. -/
structure Complete (before : ℕ) (owners : List String) (c : Cycle σ) : Prop where
  turns : c.turns.map Turn.ownerId = owners
  inFlight : ∀ t ∈ c.turns, x.HasInFlight t.state t.ownerId → t.answer.isSome
  eligible : ∀ t ∈ c.turns, x.IsEligible t.state t.ownerId → t.answer.isSome
  returns : ∃ results, c.outcome = .ok results ∧
    results.length = before + (c.turns.filter fun t => t.answer.isSome).length

/-- **The condition**, owner by owner in the order of the cycle: the ledger accepts the id, a settlement in
flight comes with the minimum earned, and a settlement that is run ends in a way the cycle handles. -/
def Proceeds : List String → σ → Prop
  | [], _ => True
  | ownerId :: rest, s =>
    (cleanOwner ownerId).toOption.isSome ∧ (x.HasInFlight s ownerId → x.IsEligible s ownerId) ∧
      if x.IsEligible s ownerId then
        endsHandled (x.runOwnerSettlement s ownerId).1 ∧ Proceeds rest (x.runOwnerSettlement s ownerId).2
      else Proceeds rest s

instance decidableProceeds : (owners : List String) → (s : σ) → Decidable (x.Proceeds owners s)
  | [], _ => inferInstanceAs (Decidable True)
  | ownerId :: rest, s =>
    have := decidableProceeds rest (x.runOwnerSettlement s ownerId).2
    have := decidableProceeds rest s
    inferInstanceAs (Decidable (_ ∧ _ ∧ if x.IsEligible s ownerId then _ ∧ _ else _))

/-! ### When a cycle leaves nobody out -/

variable {x} {s : σ} {ownerId : String}

theorem earnedBalance_of_clean {owner : OwnerId} (h : cleanOwner ownerId = .ok owner) :
    x.earnedBalance s ownerId = .ok ((x.ledger s).bucketBalance owner .earned) := by
  have hinternal : Ledger.isInternalAccount (ownerBucketAccount owner .earned) = true := by
    have howner : startsWith (ownerBucketAccount owner .earned) "owner:" = true := by
      rw [ownerBucketAccount, String.append_assoc, String.append_assoc]
      exact startsWith_append _ _
    simp [Ledger.isInternalAccount, howner]
  simp only [earnedBalance, h, Ledger.getBalance, Ledger.gatewayGetBalance, hinternal, Bool.or_true, if_true]
  split <;> rfl

theorem complete_cons_iff {before : ℕ} {owners : List String} {t : Turn σ} {c : Cycle σ} :
    x.Complete before (t.ownerId :: owners) { c with turns := t :: c.turns } ↔
      (x.HasInFlight t.state t.ownerId → t.answer.isSome) ∧
      (x.IsEligible t.state t.ownerId → t.answer.isSome) ∧
      x.Complete (before + if t.answer.isSome then 1 else 0) owners c := by
  have hcount : ((t :: c.turns).filter fun t => t.answer.isSome).length
      = (if t.answer.isSome then 1 else 0) + (c.turns.filter fun t => t.answer.isSome).length := by
    rw [List.filter_cons]
    split
    · rw [List.length_cons, Nat.add_comm]
    · rw [Nat.zero_add]
  constructor
  · rintro ⟨hturns, hinFlight, heligible, results, hout, hlen⟩
    refine ⟨hinFlight t List.mem_cons_self, heligible t List.mem_cons_self, ⟨(List.cons.inj hturns).2,
      fun u hu => hinFlight u (List.mem_cons_of_mem _ hu),
      fun u hu => heligible u (List.mem_cons_of_mem _ hu), results, hout, ?_⟩⟩
    rw [hlen, hcount, Nat.add_assoc]
  · rintro ⟨hinFlight, heligible, hturns, hlater, hlater', results, hout, hlen⟩
    refine ⟨congrArg (t.ownerId :: ·) hturns, fun u hu => ?_, fun u hu => ?_, results, hout, ?_⟩
    · rcases List.mem_cons.mp hu with rfl | hu
      · exact hinFlight
      · exact hlater u hu
    · rcases List.mem_cons.mp hu with rfl | hu
      · exact heligible
      · exact hlater' u hu
    · rw [hlen, hcount, Nat.add_assoc]

theorem not_complete_of_error {before : ℕ} {owners : List String} {c : Cycle σ} {e : Raised}
    (h : c.outcome = .error e) : ¬x.Complete before owners c := by
  rintro ⟨-, -, -, results, hout, -⟩
  rw [h] at hout
  cases hout

/-- **When a cycle leaves nobody out**, for every executor, every list of owners and every state. -/
theorem cycle_complete_iff (owners : List String) : ∀ (s : σ) (results : List CycleResult),
    x.Complete results.length owners (x.runCycle owners s results) ↔ x.Proceeds owners s := by
  induction owners with
  | nil =>
    intro s results
    exact ⟨fun _ => trivial, fun _ => ⟨rfl, by simp [runCycle], by simp [runCycle], results, rfl, rfl⟩⟩
  | cons ownerId rest ih =>
    intro s results
    cases hclean : cleanOwner ownerId with
    | error e =>
      have hbalance : x.earnedBalance s ownerId = .error e := by simp only [earnedBalance, hclean]
      have hout : (x.runCycle (ownerId :: rest) s results).outcome = .error (.billing e) := by
        simp only [runCycle, hbalance]
      refine ⟨fun h => absurd h (not_complete_of_error hout), fun h => ?_⟩
      have hsome := h.1
      rw [hclean] at hsome
      cases hsome
    | ok owner =>
      have hbalance := earnedBalance_of_clean (x := x) (s := s) hclean
      have heligible : x.IsEligible s ownerId ↔
          minimumPayoutMicroUnits ≤ (x.ledger s).bucketBalance owner .earned := by
        simp [IsEligible, hbalance, Except.toOption]
      have hsome : (cleanOwner ownerId).toOption.isSome := by rw [hclean]; rfl
      simp only [runCycle, hbalance, Proceeds, hsome, true_and]
      by_cases hmin : minimumPayoutMicroUnits ≤ (x.ledger s).bucketBalance owner .earned
      · have hyes := heligible.mpr hmin
        rw [if_neg (not_lt.mpr hmin), if_pos hyes]
        cases hrun : x.runOwnerSettlement s ownerId with
        | mk answer s' =>
          cases answer with
          | ok record =>
            rw [complete_cons_iff (t := ⟨ownerId, s, some (.ok record)⟩)]
            have hlater := ih s' (results ++ [.settled record])
            rw [List.length_append, List.length_singleton] at hlater
            simpa [endsHandled, hyes] using hlater
          | error e =>
            cases hhandled : e.isHandled with
            | true =>
              dsimp only
              rw [hhandled, if_pos rfl, complete_cons_iff (t := ⟨ownerId, s, some (.error e)⟩)]
              have hlater := ih s' (results ++ [.failed ownerId e.text])
              rw [List.length_append, List.length_singleton] at hlater
              simpa [endsHandled, hhandled, hyes] using hlater
            | false =>
              dsimp only
              rw [hhandled, if_neg (by decide)]
              refine ⟨fun h => absurd h (not_complete_of_error rfl), fun h => ?_⟩
              have hends := h.2.1
              rw [endsHandled, hhandled] at hends
              cases hends
      · have hno := heligible.not.mpr hmin
        rw [if_pos (not_le.mp hmin), if_neg hno, complete_cons_iff (t := ⟨ownerId, s, none⟩)]
        simp [hno, ← ih s results]

end SettlementExecutor

/-! ### The executor of owner settlements, and the daemon's runs -/

/-- What one call reads from outside: before its first write, at each durable write, and the exception that
interrupts it if it has not ended with these writes. -/
structure SettlementCall where
  input : RunInput
  writes : List (Env × Option OwnerPayoutProfile × TransferOutcome)
  interrupted : Raised

namespace OwnerSettlements

/-- `run_owner_settlement(owner_id=owner_id)`, with all its writes. -/
def settle (s : OwnerSettlements) (call : SettlementCall) (ownerId : String) :
    Except Raised SettlementRecord × OwnerSettlements :=
  let s' := call.writes.foldl (fun s w => s.advance w.1 w.2.1 w.2.2)
    (s.runOwnerSettlement call.input ownerId none none)
  match s'.stage with
  | .idle (some (.ok record)) => (.ok record, s')
  | .idle (some (.error e)) => (.error (.billing e), s')
  | _ => (.error call.interrupted, { s' with stage := .idle none })

/-- The executor in a cycle, with what each owner's call reads from outside. -/
def ownerExecutor (calls : String → SettlementCall) : SettlementExecutor OwnerSettlements where
  ledger := OwnerSettlements.ledger
  accountStore := OwnerSettlements.accountStore
  runOwnerSettlement := fun s ownerId => s.settle (calls ownerId) ownerId

def runBatchSettlementCycle (s : OwnerSettlements) (profiles : PayoutProfiles)
    (calls : String → SettlementCall) : Cycle OwnerSettlements :=
  (ownerExecutor calls).runCycle (listEnabledProfiles profiles) s []

/-- What happens to the daemon's ledger and store: cycles, earnings, and restarts of the process.  A crash in
the middle of a cycle is a call that is interrupted by `exit`, then a restart. -/
inductive DaemonStep
  | cycle (profiles : PayoutProfiles) (calls : String → SettlementCall)
  | earn (env : Env) (ownerId : String) (amountMicroUnits : ℤ) (earningReference : String)
  | restart (env : Env)

def daemonNext (s : OwnerSettlements) : DaemonStep → OwnerSettlements
  | .cycle profiles calls => (s.runBatchSettlementCycle profiles calls).state
  | .earn env ownerId amount reference => s.next (.earn env ownerId amount reference)
  | .restart env => s.next (.crash env)

/-- **When the daemon leaves nobody out**: in every state that cycles, earnings and restarts reach, for every
set of profiles and everything that the calls of the cycle may meet. -/
theorem settlement_cycle_complete_iff (cls : LedgerClass) (networkFeeBps : ℤ) (wallet : String)
    (steps : List DaemonStep) (profiles : PayoutProfiles) (calls : String → SettlementCall) :
    let s := Run.exec daemonNext (start cls networkFeeBps wallet) steps
    (ownerExecutor calls).Complete 0 (listEnabledProfiles profiles)
        (s.runBatchSettlementCycle profiles calls) ↔
      (ownerExecutor calls).Proceeds (listEnabledProfiles profiles) s := by
  intro s
  exact SettlementExecutor.cycle_complete_iff (listEnabledProfiles profiles) s []

/-- A call whose transfer fails. -/
def failingCall : SettlementCall where
  input := sampleInput
  writes := List.replicate 5 (Env.atTime 2, some sampleProfile, .failed "timeout")
  interrupted := .exit

/-- A call for an owner whose account Stripe does not return. -/
def unreachableCall : SettlementCall where
  input := { sampleInput with refreshed := .error (.stripe "Stripe connected account retrieval failed") }
  writes := []
  interrupted := .exit

def sampleProfiles : PayoutProfiles := (Dict.empty.set "alice" sampleProfile).set "bob" sampleProfile

/-- **Two ways to leave owners out.**  Alice's payout is to be retried and has emptied her earned bucket, and the
next cycle passes her over; and when Stripe cannot be asked about Alice, the cycle ends before Bob. -/
theorem settlement_cycle_leaves_out :
    (¬∀ (steps : List DaemonStep) (profiles : PayoutProfiles) (calls : String → SettlementCall),
      (ownerExecutor calls).Complete 0 (listEnabledProfiles profiles)
        ((Run.exec daemonNext (start .payoutCapable 2500 "") steps).runBatchSettlementCycle profiles calls)) ∧
    let s := Run.exec daemonNext (start .payoutCapable 2500 "")
      [.earn (Env.atTime 0) "alice" 25000000 "e1", .earn (Env.atTime 0) "bob" 25000000 "e2"]
    (s.runBatchSettlementCycle sampleProfiles fun _ => unreachableCall).turns.map Turn.ownerId
      = ["alice"] := by
  refine ⟨fun h => ?_, by decide⟩
  have hproceeds := (SettlementExecutor.cycle_complete_iff _ _ []).mp
    (h [.earn (Env.atTime 0) "alice" 25000000 "e1", .cycle sampleProfiles fun _ => failingCall]
      sampleProfiles fun _ => failingCall)
  revert hproceeds
  decide

end OwnerSettlements

end ComputeMesh.Billing
