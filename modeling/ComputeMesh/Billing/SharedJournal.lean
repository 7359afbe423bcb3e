import ComputeMesh.Billing.LedgerRuns
import ComputeMesh.Billing.PostingEffects

/-!
# One journal file, two processes

The gateway and the settlement daemon open ledgers on one journal file (`scheduled_settlement.py`, `main`).
Each reads the file when it is constructed; afterwards it checks balances and processed events against its
own memory and only appends to the file.  A run interleaves operations of the two and reopenings.

* `Op.run_within` — what one operation appends when its event is new to the file and what it takes from an
  account is there, whatever the memory of the process says;
* `shared_journal_sound` — a run whose operations all meet that condition leaves a file that loads, names no
  event twice and overdraws no customer account and no account of an owner;
* `both_spend_the_same_credit` — without it both processes spend the credit each of them has read.
-/

namespace ComputeMesh.Billing

open ComputeMesh.Text Journal List

/-! ### The file and the two processes -/

/-- The processes that open the journal. -/
inductive Instance
  | gateway
  | settlementDaemon
  deriving DecidableEq

/-- The two files on disk, and the ledger object of each process. -/
structure SharedJournal where
  lines : List TransactionDict
  holdLines : List CreditHold
  ledger : Instance → Ledger

namespace SharedJournal

/-- The ledger object of a process, with the files as they are now. -/
def attach (w : SharedJournal) (p : Instance) : Ledger :=
  { w.ledger p with
    journal := { (w.ledger p).journal with storage := some ⟨w.lines, false⟩ }
    holdsFile := some w.holdLines }

/-- The files and the process after the ledger object has become `l`. -/
def store (w : SharedJournal) (p : Instance) (l : Ledger) : SharedJournal where
  lines := (l.journal.storage.map Storage.lines).getD []
  holdLines := l.holdsFile.getD []
  ledger := fun q => if q = p then l else w.ledger q

/-- One step of a run: a process runs an operation of its ledger, or is started anew. -/
inductive Move (R : Type)
  | operate (p : Instance) (env : Env) (op : Op R)
  | reopen (p : Instance) (env : Env)

variable {R : Type} [LayerRatio R]

def next (w : SharedJournal) : Move R → SharedJournal
  | .operate p env op => w.store p (op.run (w.attach p) env)
  | .reopen p env =>
    match (w.attach p).restart env with
    | .ok l => w.store p l
    | .error _ => w

/-- The two constructors, over the same files. -/
def openOn (cls : Instance → LedgerClass) (networkFeeBps : ℤ) (wallet : String)
    (lines : List TransactionDict) (holdLines : List CreditHold) (env : Env) : Except Exn SharedJournal :=
  let blank (p : Instance) : Ledger :=
    { Ledger.fresh (cls p) networkFeeBps wallet (some ⟨lines, false⟩) with holdsFile := some holdLines }
  match (blank .gateway).restart env, (blank .settlementDaemon).restart env with
  | .ok g, .ok d => .ok ⟨lines, holdLines, fun p => match p with | .gateway => g | .settlementDaemon => d⟩
  | .error e, _ => .error e
  | _, .error e => .error e

/-- The ledger a process gets by reloading the files. -/
def reload (w : SharedJournal) (env : Env) : Except Exn Ledger := (w.attach .gateway).restart env

end SharedJournal

/-- An account of a customer, or a bucket or pending account of an owner. -/
def IsProtected (a : String) : Prop :=
  Ledger.isInternalAccount a = false ∨ startsWith a "owner:" = true

instance : DecidablePred IsProtected := fun _ => inferInstanceAs (Decidable (_ ∨ _))

theorem not_isProtected_escrow : ¬IsProtected "gateway:escrow" := by decide

/-- What a ledger must show after a reload. -/
structure Ledger.Clean (l : Ledger) : Prop where
  once : (l.journal.transactions.map Transaction.eventId).Nodup
  covered : ∀ a, IsProtected a → 0 ≤ l.rawBalance a

/-! ### When an operation is safe on the shared file -/

namespace Op

variable {R : Type} [LayerRatio R]

/-- Deposits, spends, holds with captures, job executions and owner withdrawals. -/
def IsShared : Op R → Prop
  | createOperatorTreasuryPayout .. | createProviderPayout .. | reserveConfidentialCredits ..
  | releaseConfidentialReservation .. | settleConfidentialReservation .. => False
  | _ => True

instance : DecidablePred (IsShared (R := R)) := fun op => by
  apply Op.casesOn (motive := fun op => Decidable op.IsShared) op <;> intros <;> unfold IsShared <;> infer_instance

/-- The event id an operation records, if it records one. -/
def event (l : Ledger) : Op R → Option String
  | captureHold _ call | recordJobExecution call => some call.eventId
  | depositCustomerCredits customer _ ref =>
    if l.cls.isGateway && !Ledger.isDemoAccount customer then some ("owner-purchase:" ++ strip ref)
    else some ("deposit:" ++ ref)
  | depositOwnerPurchasedCredits _ _ ref => some ("owner-purchase:" ++ strip ref)
  | grantOwnerPromoCredits _ _ ref _ => some ("owner-promo:" ++ strip ref)
  | creditOwnerEarnedCredits _ _ ref _ => some ("owner-earning:" ++ strip ref)
  | spendOwnerCredits _ _ _ ref _ | captureOwnerHold _ _ _ ref _ => some ("owner-spend:" ++ strip ref)
  | reserveOwnerWithdrawal _ _ ref => some ("owner-withdrawal-reserve:" ++ strip ref)
  | finalizeOwnerWithdrawal _ _ ref => some ("owner-withdrawal-finalize:" ++ strip ref)
  | cancelOwnerWithdrawal _ _ ref => some ("owner-withdrawal-cancel:" ++ strip ref)
  | _ => none

/-- What the memory of a process offers to a spend from a bucket. -/
def offered (l : Ledger) (now : ℚ) (owner : OwnerId) (exclude : Option String) (b : Bucket) : ℤ :=
  max 0 (l.bucketBalance owner b - l.reservedByBucket now owner exclude b)

/-- The destinations on customer accounts and accounts of owners are liabilities or revenues. -/
def DestinationsRaise (ds : List CreditDestination) : Prop :=
  ∀ d ∈ ds, IsProtected d.accountId → creditIncreases d.accountType = true

instance (ds : List CreditDestination) : Decidable (DestinationsRaise ds) :=
  inferInstanceAs (Decidable (∀ d ∈ ds, _))

/-- **What the operation may take by the memory of its process is in the file**, whose balances are `file`. -/
def Covered (file : String → ℤ) (l : Ledger) (env : Env) : Op R → Prop
  | captureHold _ call | recordJobExecution call =>
    IsProtected call.customerAccountId →
      ∀ balance ∈ (l.getBalance call.customerAccountId).toOption, call.charge ≤ balance →
        call.charge ≤ file call.customerAccountId
  | spendOwnerCredits ownerId amount ds _ _ =>
    (∀ owner ∈ (cleanOwner ownerId).toOption, ∀ b ∈ spendOrder,
      min amount (offered l env.time owner none b) ≤ file (ownerBucketAccount owner b)) ∧
      DestinationsRaise ds
  | captureOwnerHold holdId actual ds _ _ =>
    (∀ hold ∈ l.ownerHolds.get? holdId, ∀ b ∈ spendOrder,
      (if actual ≤ hold.amountMicroUnits then sumAt (takeInOrder hold.allocations actual).1 b
        else min actual (offered l env.time hold.ownerId (some hold.holdId) b))
        ≤ file (ownerBucketAccount hold.ownerId b)) ∧ DestinationsRaise ds
  | reserveOwnerWithdrawal ownerId amount _ =>
    ∀ owner ∈ (cleanOwner ownerId).toOption, amount ≤ offered l env.time owner none .earned →
      amount ≤ file (ownerBucketAccount owner .earned)
  | finalizeOwnerWithdrawal ownerId amount _ =>
    amount ≤ l.rawBalance (pendingAccountOf (strip ownerId)) → amount ≤ file (pendingAccountOf (strip ownerId))
  | cancelOwnerWithdrawal ownerId amount _ => amount ≤ file (pendingAccountOf (strip ownerId))
  | _ => True

instance (file : String → ℤ) (l : Ledger) (env : Env) : DecidablePred (Covered (R := R) file l env) :=
  fun op => by
    apply Op.casesOn (motive := fun op => Decidable (op.Covered file l env)) op <;> intros <;> unfold Covered <;> infer_instance

/-! ### What one operation appends -/

/-- The postings leave every protected account of the file at zero or above. -/
def KeepsFile (file : String → ℤ) (fs : List PostingFields) : Prop :=
  ∀ a, IsProtected a → 0 ≤ file a + netChange fs a

theorem JournalStep.imp {l l' : Ledger} {P Q : String → List PostingFields → Prop}
    (h : JournalStep l l' P) (hPQ : ∀ e fs, P e fs → Q e fs) : JournalStep l l' Q := by
  rcases h with h | ⟨tx, hunseen, hP, h⟩
  · exact .inl h
  · exact .inr ⟨tx, hunseen, hPQ _ _ hP, h⟩

variable {owner : OwnerId} {amount : ℤ}

section

variable {file : String → ℤ} (hfile : ∀ a, IsProtected a → 0 ≤ file a)
include hfile

theorem keepsFile_of_nonneg {fs : List PostingFields} (h : ∀ a, IsProtected a → 0 ≤ netChange fs a) :
    KeepsFile file fs := fun a ha => by
  have := hfile a ha
  have := h a ha
  omega

theorem keepsFile_bucketCredit {source type : String} {b : Bucket}
    (htype : creditIncreases type = false) (hpos : 0 < amount) :
    KeepsFile file (Ledger.bucketCreditPostings source type owner b amount) :=
  keepsFile_of_nonneg hfile fun a _ => by
    rw [netChange_bucketCredit htype]
    split <;> split <;> omega

omit [LayerRatio R] in
theorem keepsFile_job {call : JobCall R} {fs : List PostingFields} (hfs : IsJobPostings call fs)
    (hcover : IsProtected call.customerAccountId → call.charge ≤ file call.customerAccountId) :
    KeepsFile file fs := fun a ha => by
  have hnet := hfs.netChange_ge a
  have hbal := hfile a ha
  split at hnet
  · rename_i heq
    subst heq
    have := hcover ha
    omega
  · omega

theorem keepsFile_spend {allocations : List (Bucket × ℤ)}
    {ds : List CreditDestination} (hpos : ∀ d ∈ ds, 0 < d.amountMicroUnits)
    (hds : DestinationsRaise ds)
    (hcover : ∀ b, sumAt allocations b ≤ file (ownerBucketAccount owner b)) :
    KeepsFile file (Ledger.spendPostings owner allocations ds) := fun a ha => by
  have hbal := hfile a ha
  have hcredit : 0 ≤ netChange (destinationCredits ds) a := by
    apply netChange_nonneg
    intro p hp heq
    obtain ⟨d, hd, rfl⟩ := mem_map.mp hp
    obtain rfl : d.accountId = a := heq
    have htype := hds d hd ha
    have := hpos d hd
    simp only [PostingFields.signed, htype, if_true]
    omega
  rw [netChange_spendPostings]
  by_cases hb : ∃ b, ownerBucketAccount owner b = a
  · obtain ⟨b, rfl⟩ := hb
    have htake := hcover b
    rw [sumAt_bucketMoves, if_pos rfl]
    omega
  · rw [sumAt_bucketMoves_of_ne fun b heq => hb ⟨b, heq⟩]
    omega

theorem keepsFile_withdrawalReserve (hpos : 0 < amount) (hcover : amount ≤ file (ownerBucketAccount owner .earned)) :
    KeepsFile file (Ledger.withdrawalReservePostings owner amount) := fun a ha => by
  have hbal := hfile a ha
  rw [netChange_withdrawalReserve]
  by_cases heq : ownerBucketAccount owner .earned = a
  · subst heq
    split <;> simp only [if_true] <;> omega
  · rw [if_neg heq]
    split <;> omega

theorem keepsFile_withdrawalFinalize {owner : String} (hcover : amount ≤ file (pendingAccountOf owner)) :
    KeepsFile file (Ledger.withdrawalFinalizePostings owner amount) := fun a ha => by
  have hbal := hfile a ha
  have hescrow : "gateway:escrow" ≠ a := fun heq => not_isProtected_escrow (heq ▸ ha)
  rw [netChange_withdrawalFinalize, if_neg hescrow]
  split
  · rename_i heq
    subst heq
    omega
  · omega

theorem keepsFile_withdrawalCancel (hpos : 0 < amount) (hcover : amount ≤ file (pendingAccountOf owner.val)) :
    KeepsFile file (Ledger.withdrawalCancelPostings owner amount) := fun a ha => by
  have hbal := hfile a ha
  rw [netChange_withdrawalCancel]
  by_cases heq : pendingAccountOf owner.val = a
  · subst heq
    split <;> simp only [if_true] <;> omega
  · rw [if_neg heq]
    split <;> omega

end

theorem allocation_le_min {l : Ledger} {now : ℚ} {ex : Option String}
    {allocations : List (Bucket × ℤ)} (ha : Ledger.IsAllocation l now owner ex amount allocations)
    (b : Bucket) : sumAt allocations b ≤ min amount (offered l now owner ex b) := by
  have htotal := ha.total
  have hnonneg : ∀ c, 0 ≤ sumAt allocations c := fun c => sumAt_nonneg fun e he _ => (ha.pos e he).le
  have hearned := hnonneg .earned
  have hpurchased := hnonneg .purchased
  have hpromo := hnonneg .promo
  rw [sum_eq_sumAt_buckets] at htotal
  refine le_min ?_ (ha.le_available b)
  cases b <;> omega

theorem cleanOwner_of_val {ownerId : String} (h : owner.val = strip ownerId) : cleanOwner ownerId = .ok owner := by
  have hshort := owner.short
  simp only [cleanOwner]
  rw [dif_neg (h ▸ owner.nonempty), dif_neg (by rw [← h]; omega)]
  exact congrArg Except.ok (OwnerId.ext_val h.symm)

theorem mem_toOption_of_ok {α : Type} {x : Except Exn α} {a : α} (h : x = .ok a) : a ∈ x.toOption := by
  subst h
  rfl

/-- **What one operation appends**: nothing, or one transaction under its event id whose postings keep the
file, if what the operation may take is in the file. -/
theorem run_within {l : Ledger} {env : Env} {op : Op R} (hop : op.IsShared) {file : String → ℤ}
    (hfile : ∀ a, IsProtected a → 0 ≤ file a) (hcover : op.Covered file l env) :
    JournalStep l (op.run l env) fun e fs => op.event l = some e ∧ KeepsFile file fs := by
  have hbucket : ∀ {ownerId : String} {b : Bucket} {amount : ℤ} {source type event : String},
      creditIncreases type = false → op.event l = some event → ∀ e fs,
      PostsBucketCredit ownerId b amount source type event e fs →
        op.event l = some e ∧ KeepsFile file fs := by
    rintro ownerId b amount source type event htype hevent e fs ⟨owner, -, hpos, rfl, rfl⟩
    exact ⟨hevent, keepsFile_bucketCredit hfile htype hpos⟩
  cases op with
  | captureHold holdId call =>
    rcases l.captureHold_cases env holdId call with h | ⟨_, _, _, -, -, -, h⟩
    · exact .of_eq h
    · rcases l.recordJobExecution_cases env call with ⟨_, hj⟩ | ⟨tx, htx, hnew, hj⟩
      · exact .inl (by rw [run, h, hj]; rfl)
      · obtain ⟨hevent, hfs, -, balance, hbalance, hle⟩ := Ledger.buildJobTransaction_ok htx
        refine .inr ⟨tx, .inl (hevent ▸ hnew), ⟨by rw [hevent]; rfl, ?_⟩, ?_⟩
        · exact keepsFile_job hfile hfs fun hprot =>
            hcover hprot balance (mem_toOption_of_ok hbalance) hle
        · rw [run, h, hj, Ledger.commit_snd]
          rfl
  | recordJobExecution call =>
    rcases l.recordJobExecution_cases env call with ⟨_, hj⟩ | ⟨tx, htx, hnew, hj⟩
    · exact .inl (by rw [run, hj])
    · obtain ⟨hevent, hfs, -, balance, hbalance, hle⟩ := Ledger.buildJobTransaction_ok htx
      refine .inr ⟨tx, .inl (hevent ▸ hnew), ⟨by rw [hevent]; rfl, ?_⟩, ?_⟩
      · exact keepsFile_job hfile hfs fun hprot =>
          hcover hprot balance (mem_toOption_of_ok hbalance) hle
      · rw [run, hj, Ledger.commit_snd]
        rfl
  | depositCustomerCredits customer amount ref =>
    have hplain : (depositCustomerCredits (R := R) customer amount ref).event l
        = some ("deposit:" ++ ref) → JournalStep l (l.depositCustomerCredits env customer amount ref).2
          fun e fs => (depositCustomerCredits (R := R) customer amount ref).event l = some e ∧
            KeepsFile file fs := by
      intro hevent
      rcases l.depositCustomerCredits_cases env customer amount ref with h | ⟨hpos, h⟩
      · exact .of_eq h
      · exact .of_recorded (.refl 0 l) h ⟨hevent, keepsFile_of_nonneg hfile fun a _ =>
          netChange_depositPostings_nonneg hpos a⟩
    rw [run]
    split
    · rename_i hgateway
      unfold Ledger.gatewayDepositCustomerCredits
      split
      · rename_i hdemo
        exact hplain (by simp [event, hdemo])
      · rename_i howner
        exact .of_bucketDeposit (l.depositOwnerPurchasedCredits_cases env customer amount ref)
          (hbucket (by decide) (by simp [event, hgateway, howner]))
    · rename_i hplainClass
      exact hplain (by simp [event, hplainClass])
  | depositOwnerPurchasedCredits owner amount ref =>
    exact .of_bucketDeposit (l.depositOwnerPurchasedCredits_cases env owner amount ref)
      (hbucket (by decide) rfl)
  | grantOwnerPromoCredits owner amount ref policy =>
    exact .of_bucketDeposit (l.grantOwnerPromoCredits_cases env owner amount ref policy)
      (hbucket (by decide) rfl)
  | creditOwnerEarnedCredits owner amount ref description =>
    exact .of_bucketDeposit (l.creditOwnerEarnedCredits_cases env owner amount ref description)
      (hbucket (by decide) rfl)
  | spendOwnerCredits owner amount ds ref description =>
    obtain ⟨l₁, hs, h | ⟨o, allocations, ho, ha, hds, h⟩⟩ :=
      l.spendOwnerCredits_cases env owner amount ds ref description
    · exact .of_swept hs h
    · exact .of_recorded hs h ⟨rfl, keepsFile_spend hfile hds hcover.2 fun b =>
        le_trans (allocation_le_min ha b) (hcover.1 o (mem_toOption_of_ok ho) b (mem_spendOrder b))⟩
  | captureOwnerHold holdId actual ds ref description =>
    rcases l.captureOwnerHold_outcome env holdId actual ds ref description with
      h | ⟨hold, hget, ⟨-, h⟩ | ⟨-, l₁, hs, h | ⟨l₂, selected, -, hsel, hds, hrec, hend⟩⟩⟩
    · exact .of_eq h
    · exact .inl (by rw [run, h]; rfl)
    · exact .of_swept hs h
    · have htake : ∀ b, sumAt selected b ≤ file (ownerBucketAccount hold.ownerId b) := by
        intro b
        have hb := hcover.1 hold hget b (mem_spendOrder b)
        rcases (l.captureAllocations_cases env hold actual).2 selected hsel with
          ⟨hle, rfl⟩ | ⟨hgt, ha⟩
        · rwa [if_pos hle] at hb
        · rw [if_neg (not_le.mpr hgt)] at hb
          exact le_trans (allocation_le_min ha b) hb
      have hstep : JournalStep l l₂ fun e fs =>
          (captureOwnerHold (R := R) holdId actual ds ref description).event l = some e ∧
            KeepsFile file fs :=
        .of_recorded hs hrec ⟨rfl, keepsFile_spend hfile hds hcover.2 htake⟩
      rcases hend with ⟨-, h⟩ | h
      · rw [run, h]
        exact hstep
      · rw [run, h]
        exact hstep
  | reserveOwnerWithdrawal owner amount ref =>
    obtain ⟨l₁, hs, h | ⟨o, ho, hpos, hle, h⟩⟩ := l.reserveOwnerWithdrawal_cases env owner amount ref
    · exact .of_swept hs h
    · exact .of_recorded hs h ⟨rfl, keepsFile_withdrawalReserve hfile hpos
        (hcover o (mem_toOption_of_ok (cleanOwner_of_val ho)) hle)⟩
  | finalizeOwnerWithdrawal owner amount ref =>
    rcases l.finalizeOwnerWithdrawal_cases env owner amount ref with h | ⟨-, hle, h⟩
    · exact .of_eq h
    · exact .of_recorded (.refl 0 l) h ⟨rfl, keepsFile_withdrawalFinalize hfile (hcover hle)⟩
  | cancelOwnerWithdrawal owner amount ref =>
    rcases l.cancelOwnerWithdrawal_cases env owner amount ref with h | ⟨o, ho, hpos, h⟩
    · exact .of_eq h
    · refine .of_recorded (.refl 0 l) h ⟨rfl, keepsFile_withdrawalCancel hfile hpos ?_⟩
      rw [ho]
      exact hcover
  | createHold | renewHold | releaseHold | getOwnerBalances | createOwnerHold | releaseOwnerHold =>
    exact (run_journal l env _).imp fun _ _ h => h.elim
  | createOperatorTreasuryPayout | createProviderPayout | reserveConfidentialCredits
  | releaseConfidentialReservation | settleConfidentialReservation => exact hop.elim

end Op

/-! ### Reading the file -/

def readLines : List TransactionDict → Except Exn (List Transaction)
  | [] => .ok []
  | line :: rest =>
    match Journal.loadLine line with
    | .error e => .error e
    | .ok tx =>
      match readLines rest with
      | .error e => .error e
      | .ok txs => .ok (tx :: txs)

theorem loadLines_of_readLines : ∀ {lines : List TransactionDict} {txs : List Transaction} (j : Journal),
    readLines lines = .ok txs → Journal.loadLines lines j = .ok (txs.foldl Journal.post j)
  | [], txs, j, h => by
    cases h
    rfl
  | line :: rest, txs, j, h => by
    simp only [readLines] at h
    split at h
    · cases h
    · rename_i tx htx
      split at h
      · cases h
      · rename_i more hmore
        cases h
        rw [loadLines, htx]
        exact loadLines_of_readLines (j.post tx) hmore

theorem readLines_of_loadLines : ∀ {lines : List TransactionDict} {j j' : Journal},
    Journal.loadLines lines j = .ok j' → ∃ txs, readLines lines = .ok txs
  | [], _, _, _ => ⟨[], rfl⟩
  | line :: rest, j, j', h => by
    rw [loadLines] at h
    split at h
    · cases h
    · rename_i tx htx
      obtain ⟨txs, hread⟩ := readLines_of_loadLines h
      exact ⟨tx :: txs, by rw [readLines, htx, hread]⟩

theorem readLines_append_toDict : ∀ {lines : List TransactionDict} {txs : List Transaction}
    (tx : Transaction), readLines lines = .ok txs → readLines (lines ++ [tx.toDict]) = .ok (txs ++ [tx])
  | [], txs, tx, h => by
    cases h
    rw [nil_append, readLines, loadLine_toDict]
    rfl
  | line :: rest, txs, tx, h => by
    simp only [readLines] at h
    split at h
    · cases h
    · rename_i t ht
      split at h
      · cases h
      · rename_i more hmore
        cases h
        rw [cons_append, readLines, ht, readLines_append_toDict tx hmore]
        rfl

theorem eventId_of_readLines : ∀ {lines : List TransactionDict} {txs : List Transaction},
    readLines lines = .ok txs → lines.map TransactionDict.eventId = txs.map Transaction.eventId
  | [], txs, h => by
    cases h
    rfl
  | line :: rest, txs, h => by
    simp only [readLines] at h
    split at h
    · cases h
    · rename_i tx htx
      split at h
      · cases h
      · rename_i more hmore
        cases h
        rw [map_cons, map_cons, eventId_of_readLines hmore, (newTransaction_ok htx).2.1]

variable {lines : List TransactionDict}

namespace Journal

theorem IsReplay.withStorage {j : Journal} (h : j.IsReplay) (s : Option Storage) :
    ({ j with storage := s } : Journal).IsReplay := by
  refine ⟨?_, h.events, h.nodup⟩
  show { j with storage := s } = replay s j.transactions
  rw [replay_storage s j.storage, ← h.eq_replay]

theorem transactions_replay (s : Option Storage) (txs : List Transaction) : (replay s txs).transactions = txs := by
  have hfold : ∀ (txs : List Transaction) (j : Journal), (txs.foldl post j).transactions = j.transactions ++ txs := by
    intro txs
    induction txs with
    | nil => intro j; simp
    | cons tx txs ih =>
      intro j
      rw [foldl_cons, ih]
      show (j.transactions ++ [tx]) ++ txs = _
      rw [append_assoc]
      rfl
  exact hfold txs (empty s)

theorem isReplay_replay (s : Option Storage) (txs : List Transaction) :
    (txs.map Transaction.eventId).Nodup → (replay s txs).IsReplay := by
  induction txs using reverseRecOn with
  | nil => exact fun _ => isReplay_empty s
  | append_singleton txs tx ih =>
    intro hnodup
    rw [map_append, nodup_append] at hnodup
    have hr := ih hnodup.1
    have hnew : tx.eventId ∉ (replay s txs).processedEvents := by
      rw [hr.events, transactions_replay]
      rintro ⟨t, ht, heq⟩
      exact hnodup.2.2 _ (mem_map_of_mem ht) _ (mem_map_of_mem (mem_singleton_self tx)) heq
    have hfold : replay s (txs ++ [tx]) = (replay s txs).post tx := by
      rw [replay, foldl_append]
      rfl
    obtain ⟨s', hs'⟩ := recordTransaction_snd (replay s txs) tx
    have hrec := hr.record hnew
    rw [hs'] at hrec
    have hkeep : ({ (replay s txs).post tx with storage := s } : Journal) = (replay s txs).post tx :=
      congrArg (fun st => ({ (replay s txs).post tx with storage := st } : Journal)) (replay_storage_eq s txs).symm
    rw [hfold, ← hkeep]
    exact hrec.withStorage s

theorem open_of_readLines {txs : List Transaction} (h : readLines lines = .ok txs) :
    open_ (some ⟨lines, false⟩) = .ok (replay (some ⟨lines, false⟩) txs) :=
  loadLines_of_readLines _ h

theorem recordTransaction_lines {j : Journal} (h : j.storage = some ⟨lines, false⟩) (tx : Transaction) :
    (j.recordTransaction tx).2.storage = some ⟨lines ++ [tx.toDict], false⟩ := by
  have hstorage : (j.post tx).storage = some ⟨lines, false⟩ := h
  unfold recordTransaction appendToDisk
  rw [hstorage]
  rfl

end Journal

/-! ### Runs -/

namespace SharedJournal

variable {R : Type} [LayerRatio R]

/-- The event ids in the file. -/
def events (w : SharedJournal) : List String := w.lines.map TransactionDict.eventId

/-- The balances the file adds up to. -/
def balance (w : SharedJournal) (a : String) : ℤ :=
  match readLines w.lines with
  | .error _ => 0
  | .ok txs => (Journal.computedBalances txs).getD a 0

/-- **The condition.**  A process that runs an operation knows the operation's event if it is in the file,
and what the operation may take is in the file. -/
def UpToDate (w : SharedJournal) : Move R → Prop
  | .operate p env op =>
    (∀ e ∈ op.event (w.attach p), e ∈ w.events → e ∈ (w.ledger p).journal.processedEvents) ∧
      op.Covered w.balance (w.attach p) env
  | .reopen .. => True

instance (w : SharedJournal) : DecidablePred (UpToDate (R := R) w) := fun m => by
  cases m <;> unfold UpToDate <;> infer_instance

/-- The operations of the run are deposits, spends, holds, captures, jobs and withdrawals. -/
def Move.IsShared : Move R → Prop
  | .operate _ _ op => op.IsShared
  | .reopen .. => True

instance : DecidablePred (Move.IsShared (R := R)) := fun m => by
  cases m <;> unfold Move.IsShared <;> infer_instance

/-- **The invariant**: the file can be read, names no event twice and overdraws no protected account, and
the memory of each process is the replay of the transactions it knows. -/
structure Kept (w : SharedJournal) (txs : List Transaction) : Prop where
  reads : readLines w.lines = .ok txs
  once : (txs.map Transaction.eventId).Nodup
  covered : ∀ a, IsProtected a → 0 ≤ (txs.map fun tx => netChange tx.fields a).sum
  replay : ∀ p, (w.ledger p).journal.IsReplay

variable {w : SharedJournal} {txs : List Transaction}

theorem Kept.balance_eq (h : w.Kept txs) (a : String) :
    w.balance a = (txs.map fun tx => netChange tx.fields a).sum := by
  rw [balance, h.reads]
  exact getD_computedBalances txs a

theorem Kept.mem_events (h : w.Kept txs) {tx : Transaction} (htx : tx ∈ txs) : tx.eventId ∈ w.events := by
  rw [events, eventId_of_readLines h.reads]
  exact mem_map_of_mem htx

theorem Kept.replay_attach (h : w.Kept txs) (p : Instance) : (w.attach p).journal.IsReplay :=
  (h.replay p).withStorage _

theorem Kept.replay_store (h : w.Kept txs) (p : Instance) {l : Ledger} (hl : l.journal.IsReplay)
    (q : Instance) : ((w.store p l).ledger q).journal.IsReplay := by
  show (if q = p then l else w.ledger q).journal.IsReplay
  split
  · exact hl
  · exact h.replay q

/-- **The step lemma**: a move that meets the condition keeps the file. -/
theorem Kept.next (h : w.Kept txs) {m : Move R} (hm : m.IsShared) (hok : w.UpToDate m) :
    ∃ txs', (w.next m).Kept txs' := by
  cases m with
  | reopen p env =>
    have hopen : Journal.open_ (w.attach p).journal.storage
        = .ok (Journal.replay (some ⟨w.lines, false⟩) txs) := Journal.open_of_readLines h.reads
    have hr := Journal.isReplay_replay (some ⟨w.lines, false⟩) txs h.once
    have hrestart : ∃ l, (w.attach p).restart env = .ok l ∧
        l.journal = Journal.replay (some ⟨w.lines, false⟩) txs :=
      ⟨_, by rw [Ledger.restart, hopen], rfl⟩
    obtain ⟨l, hl, hjournal⟩ := hrestart
    have hnext : w.next (.reopen (R := R) p env) = w.store p l := by rw [SharedJournal.next, hl]
    have hlines : (w.store p l).lines = w.lines := by
      rw [store, hjournal, replay_storage_eq]
      rfl
    rw [hnext]
    exact ⟨txs, by rw [hlines]; exact h.reads, h.once, h.covered, h.replay_store p (hjournal ▸ hr)⟩
  | operate p env op =>
    obtain ⟨hfresh, hcover⟩ := hok
    have hfile : ∀ a, IsProtected a → 0 ≤ w.balance a := fun a ha => by
      rw [h.balance_eq]
      exact h.covered a ha
    have hreplay := op.run_isReplay env (h.replay_attach p)
    rcases Op.run_within hm hfile hcover with heq | ⟨tx, hunseen, ⟨hevent, hkeeps⟩, heq⟩
    · have hlines : (w.next (.operate p env op)).lines = w.lines := by
        rw [SharedJournal.next, store, heq]
        rfl
      exact ⟨txs, by rw [hlines]; exact h.reads, h.once, h.covered, h.replay_store p hreplay⟩
    · have hlines : (w.next (.operate p env op)).lines = w.lines ++ [tx.toDict] := by
        rw [SharedJournal.next, store, heq, recordTransaction_lines rfl]
        rfl
      have hnew : tx.eventId ∉ txs.map Transaction.eventId := by
        intro hmem
        obtain ⟨t, ht, hid⟩ := mem_map.mp hmem
        have hin := hfresh tx.eventId hevent (hid ▸ h.mem_events ht)
        exact hunseen.not_mem (h.replay_attach p) hin
      refine ⟨txs ++ [tx], by rw [hlines]; exact readLines_append_toDict tx h.reads, ?_, fun a ha => ?_,
        h.replay_store p hreplay⟩
      · rw [map_append, map_singleton, ← concat_eq_append]
        exact List.Nodup.concat hnew h.once
      · have hbal := hkeeps a ha
        rw [h.balance_eq] at hbal
        rw [map_append, sum_append]
        simpa using hbal

theorem Kept.reload (h : w.Kept txs) (env : Env) : ∃ l, w.reload env = .ok l ∧ l.Clean := by
  have hr := Journal.isReplay_replay (some ⟨w.lines, false⟩) txs h.once
  have hopen : Journal.open_ (w.attach .gateway).journal.storage
      = .ok (Journal.replay (some ⟨w.lines, false⟩) txs) := Journal.open_of_readLines h.reads
  refine ⟨_, by rw [SharedJournal.reload, Ledger.restart, hopen], ?_, fun a ha => ?_⟩
  · show ((Journal.replay _ txs).transactions.map Transaction.eventId).Nodup
    rw [Journal.transactions_replay]
    exact h.once
  · show 0 ≤ (Journal.replay _ txs).balances.getD a 0
    rw [hr.balances_eq, Journal.transactions_replay, Journal.getD_computedBalances]
    exact h.covered a ha

theorem kept_of_openOn {cls : Instance → LedgerClass} {networkFeeBps : ℤ} {wallet : String}
    {holdLines : List CreditHold} {env : Env}
    (hopen : openOn cls networkFeeBps wallet lines holdLines env = .ok w)
    (hclean : (w.ledger .gateway).Clean) : ∃ txs, w.Kept txs := by
  have hload : ∀ {l l' : Ledger}, l.journal.storage = some ⟨lines, false⟩ → l.restart env = .ok l' →
      ∃ txs, readLines lines = .ok txs ∧ l'.journal = replay (some ⟨lines, false⟩) txs := by
    intro l l' hstorage hl
    unfold Ledger.restart at hl
    rw [hstorage] at hl
    split at hl
    · cases hl
    · rename_i j hj
      cases hl
      obtain ⟨txs, htxs⟩ := readLines_of_loadLines hj
      rw [open_of_readLines htxs] at hj
      exact ⟨txs, htxs, (Except.ok.inj hj).symm⟩
  simp only [openOn] at hopen
  split at hopen
  · rename_i g d hg hd
    cases hopen
    obtain ⟨txs, htxs, hgateway⟩ := hload rfl hg
    obtain ⟨txs', htxs', hdaemon⟩ := hload rfl hd
    obtain rfl : txs = txs' := by
      rw [htxs] at htxs'
      exact Except.ok.inj htxs'
    have honce := hclean.once
    change (g.journal.transactions.map Transaction.eventId).Nodup at honce
    rw [hgateway, transactions_replay] at honce
    have hr := isReplay_replay (some ⟨lines, false⟩) txs honce
    refine ⟨txs, htxs, honce, fun a ha => ?_, fun p => ?_⟩
    · have hbal := hclean.covered a ha
      change 0 ≤ g.journal.balances.getD a 0 at hbal
      rwa [hgateway, hr.balances_eq, transactions_replay, getD_computedBalances] at hbal
    · cases p with
      | gateway => exact hgateway ▸ hr
      | settlementDaemon => exact hdaemon ▸ hr
  · cases hopen
  · cases hopen

end SharedJournal

/-- **Sharing a journal file is sound under the condition.**  Two ledgers of any classes that are opened on
a clean file and run deposits, spends, holds, captures, jobs and withdrawals in any interleaving, each step of
which meets `UpToDate`, leave a file that reloads, names no event twice and overdraws no customer account, no
bucket and no pending account. -/
theorem shared_journal_sound {R : Type} [LayerRatio R] (cls : Instance → LedgerClass) (networkFeeBps : ℤ)
    (wallet : String) (lines : List TransactionDict) (holdLines : List CreditHold) (env : Env)
    (w : SharedJournal)
    (hopen : SharedJournal.openOn cls networkFeeBps wallet lines holdLines env = .ok w)
    (hclean : (w.ledger .gateway).Clean) (moves : List (SharedJournal.Move R))
    (hshared : ∀ m ∈ moves, m.IsShared)
    (hok : Run.Along SharedJournal.next SharedJournal.UpToDate w moves) (later : Env) :
    ∃ l, (Run.exec SharedJournal.next w moves).reload later = .ok l ∧ l.Clean := by
  have hkept : ∃ txs, (Run.exec SharedJournal.next w moves).Kept txs :=
    Run.exec_of_along (fun w : SharedJournal => ∃ txs, w.Kept txs)
      (fun _ _ ⟨_, h⟩ hm => h.next hm.2 hm.1) (SharedJournal.kept_of_openOn hopen hclean)
      (Run.along_and_of_forall_mem hok hshared)
  obtain ⟨txs, h⟩ := hkept
  exact h.reload later

/-- The two objects over a journal that does not exist yet. -/
def newJournal (cls : Instance → LedgerClass) : SharedJournal where
  lines := []
  holdLines := []
  ledger := fun p => { Ledger.fresh (cls p) 2500 "" (some ⟨[], false⟩) with holdsFile := some [] }

theorem openOn_newJournal (cls : Instance → LedgerClass) (env : Env) :
    SharedJournal.openOn cls 2500 "" [] [] env = .ok (newJournal cls) := by
  refine congrArg Except.ok (congrArg (SharedJournal.mk [] []) (funext fun p => ?_))
  cases p <;> rfl

theorem newJournal_clean (cls : Instance → LedgerClass) (p : Instance) :
    ((newJournal cls).ledger p).Clean := ⟨nodup_nil, fun _ _ => le_refl 0⟩

/-- The daemon pays out while the gateway goes on billing, and each has read what it draws on. -/
theorem shared_journal_sound_sample : let revenue : List CreditDestination := [⟨"revenue:jobs", "revenue:jobs", 7⟩]
    let moves : List (SharedJournal.Move ℚ) :=
      [.operate .gateway (Env.atTime 0) (.depositOwnerPurchasedCredits "alice" 30 "p1"),
       .operate .gateway (Env.atTime 1) (.creditOwnerEarnedCredits "bob" 20 "e1" "job"),
       .reopen .settlementDaemon (Env.atTime 2),
       .operate .settlementDaemon (Env.atTime 3) (.reserveOwnerWithdrawal "bob" 15 "w1"),
       .operate .gateway (Env.atTime 4) (.createOwnerHold "alice" 10 "job" 60 (some "h1")),
       .operate .gateway (Env.atTime 5) (.captureOwnerHold "h1" 7 revenue "s1" "job"),
       .operate .settlementDaemon (Env.atTime 6) (.finalizeOwnerWithdrawal "bob" 15 "w1")]
    ∃ l, (Run.exec SharedJournal.next (newJournal fun _ => .payoutCapable) moves).reload (Env.atTime 7)
      = .ok l ∧ l.Clean :=
  shared_journal_sound _ 2500 "" [] [] (Env.atTime 0) _ (openOn_newJournal _ (Env.atTime 0))
    (newJournal_clean _ _) _ (by decide) (by decide +kernel) _

/-- **Both processes spend the same credit.**  The daemon reads the file before the gateway spends, then
spends what it has read, under the reference the gateway has used: the event is in the file twice and the
bucket below zero. -/
theorem both_spend_the_same_credit : let revenue : List CreditDestination := [⟨"revenue:jobs", "revenue:jobs", 10⟩]
    let moves : List (SharedJournal.Move ℚ) :=
      [.operate .gateway (Env.atTime 0) (.depositOwnerPurchasedCredits "alice" 10 "p1"),
       .reopen .settlementDaemon (Env.atTime 1),
       .operate .gateway (Env.atTime 2) (.spendOwnerCredits "alice" 10 revenue "s1" "job"),
       .operate .settlementDaemon (Env.atTime 3) (.spendOwnerCredits "alice" 10 revenue "s1" "job")]
    (∀ m ∈ moves, m.IsShared) ∧
      ∃ l, (Run.exec SharedJournal.next (newJournal fun _ => .gatewayOwnerCredit) moves).reload
          (Env.atTime 9) = .ok l ∧
        ¬(l.journal.transactions.map Transaction.eventId).Nodup ∧
        l.rawBalance (ownerBucketAccount alice .purchased) < 0 := by
  intro revenue moves
  refine ⟨by decide, ?_⟩
  have hval : (((Run.exec SharedJournal.next (newJournal fun _ => .gatewayOwnerCredit) moves).reload
      (Env.atTime 9)).toOption.any fun l => decide (¬(l.journal.transactions.map Transaction.eventId).Nodup ∧
        l.rawBalance (ownerBucketAccount alice .purchased) < 0)) = true := by
    decide
  cases hl : (Run.exec SharedJournal.next (newJournal fun _ => .gatewayOwnerCredit) moves).reload (Env.atTime 9) with
  | error e =>
    rw [hl] at hval
    cases hval
  | ok l =>
    rw [hl] at hval
    exact ⟨l, rfl, of_decide_eq_true hval⟩

end ComputeMesh.Billing
