import ComputeMesh.Billing.LedgerRuns
import ComputeMesh.Billing.PostingEffects

/-!
# Does confidential escrow conserve credit?

A reservation has a life: reserved once, then settled or released, not both.  `Phase` says for one owner
and one reservation id where that life stands, which transactions the journal holds for it and what its
sub-accounts hold; `Phase.step` moves it along every operation of the ledger family.

The sub-accounts are safe as long as no operation names one of them from outside, as the bucket of an
owner, as a customer account or as a destination (`Op.LeavesAlone`).  Nothing in the code keeps an owner id
from spelling out a reservation, so this is a condition on the run and not a fact.
-/

namespace ComputeMesh.Billing

open ComputeMesh.Text Ledger

/-! ### Event ids -/

def IsEventOf (r : ReservationId) (e : String) : Prop :=
  e = reserveEvent r ∨ e = settleEvent r ∨ e = releaseEvent r

variable {e : String}

theorem head_of_isEventOf {r : ReservationId} (h : IsEventOf r e) : e.toList.head? = some 'c' := by
  rcases h with rfl | rfl | rfl
  · exact (head_append (by decide) r.val).trans (by decide)
  · exact (head_append (by decide) r.val).trans (by decide)
  · exact (head_append (by decide) r.val).trans (by decide)

theorem reserveEvent_inj {r s : ReservationId} (h : reserveEvent r = reserveEvent s) : r = s :=
  ReservationId.ext_val (append_left_cancel h)

theorem settleEvent_inj {r s : ReservationId} (h : settleEvent r = settleEvent s) : r = s :=
  ReservationId.ext_val (append_left_cancel h)

theorem releaseEvent_inj {r s : ReservationId} (h : releaseEvent r = releaseEvent s) : r = s :=
  ReservationId.ext_val (append_left_cancel h)

theorem reserveEvent_ne_settleEvent (r s : ReservationId) : reserveEvent r ≠ settleEvent s :=
  append_ne_append 16 (by decide) (by decide) (by decide) r.val s.val

theorem reserveEvent_ne_releaseEvent (r s : ReservationId) : reserveEvent r ≠ releaseEvent s :=
  append_ne_append 16 (by decide) (by decide) (by decide) r.val s.val

theorem settleEvent_ne_releaseEvent (r s : ReservationId) : settleEvent r ≠ releaseEvent s :=
  append_ne_append 16 (by decide) (by decide) (by decide) r.val s.val

/-! ### Operations that name an account -/

/-- The account is a bucket of the owner with this id. -/
def NamesBucket (ownerId a : String) : Prop := ∃ b ∈ spendOrder, "owner:" ++ strip ownerId ++ ":" ++ b.name = a

instance (ownerId a : String) : Decidable (NamesBucket ownerId a) :=
  inferInstanceAs (Decidable (∃ b ∈ spendOrder, _))

variable {owner : OwnerId}

theorem ownerBucketAccount_ne_of_not_names {ownerId a : String} (h : ¬NamesBucket ownerId a)
    (hval : owner.val = strip ownerId) (b : Bucket) : ownerBucketAccount owner b ≠ a := by
  intro heq
  refine h ⟨b, mem_spendOrder b, ?_⟩
  rw [← hval]
  exact heq

namespace Op

variable {R : Type} [LayerRatio R]

/-- The operation names the account, as a bucket, as the customer's account or as a destination. -/
def Names (l : Ledger) (a : String) : Op R → Prop
  | captureHold _ call | recordJobExecution call => call.customerAccountId = a
  | depositCustomerCredits customer _ _ => customer = a ∨ NamesBucket customer a
  | depositOwnerPurchasedCredits owner _ _ | grantOwnerPromoCredits owner _ _ _
  | creditOwnerEarnedCredits owner _ _ _ | reserveOwnerWithdrawal owner _ _
  | cancelOwnerWithdrawal owner _ _ | reserveConfidentialCredits owner _ _
  | releaseConfidentialReservation owner _ => NamesBucket owner a
  | spendOwnerCredits owner _ ds _ _ | settleConfidentialReservation owner _ _ ds =>
    NamesBucket owner a ∨ ∃ d ∈ ds, d.accountId = a
  | captureOwnerHold holdId _ ds _ _ =>
    (∃ hold ∈ l.ownerHolds.get? holdId, NamesBucket hold.ownerId.val a) ∨ ∃ d ∈ ds, d.accountId = a
  | _ => False

instance (l : Ledger) (a : String) : DecidablePred (Names (R := R) l a) := fun op => by
  cases op <;> unfold Names <;> infer_instance

/-- **The operation leaves a reservation alone**: it names none of its sub-accounts. -/
def LeavesAlone (l : Ledger) (o : OwnerId) (r : ReservationId) (op : Op R) : Prop :=
  ∀ b ∈ spendOrder, ¬op.Names l (confidentialReservationAccount o r b)

instance (l : Ledger) (o : OwnerId) (r : ReservationId) : DecidablePred (LeavesAlone (R := R) l o r) :=
  fun _ => inferInstanceAs (Decidable (∀ b ∈ spendOrder, _))

/-- What is assumed about the inputs: another reservation id has another suffix, and a settlement of the
owner does not pay into the owner's own buckets. -/
def WithinAssumptions (o : OwnerId) (r : ReservationId) : Op R → Prop
  | reserveConfidentialCredits _ ref _ | releaseConfidentialReservation _ ref =>
    reservationSuffix (strip ref) = reservationSuffix r.val → strip ref = r.val
  | settleConfidentialReservation owner ref _ ds =>
    (reservationSuffix (strip ref) = reservationSuffix r.val → strip ref = r.val) ∧
      (strip owner = o.val → ∀ d ∈ ds, ∀ b ∈ spendOrder, d.accountId ≠ ownerBucketAccount o b)
  | _ => True

instance (o : OwnerId) (r : ReservationId) : DecidablePred (WithinAssumptions (R := R) o r) :=
  fun op => by cases op <;> unfold WithinAssumptions <;> infer_instance

end Op

/-! ### The life of a reservation -/

/-- The reserve transaction of a reservation of `owner` with these allocations. -/
structure IsReservation (owner : OwnerId) (ref : ReservationId) (allocations : List (Bucket × ℤ))
    (tx : Transaction) : Prop where
  event : tx.eventId = reserveEvent ref
  fields : tx.fields = reservePostings owner ref allocations
  pos : ∀ a ∈ allocations, 0 < a.2
  sublist : (allocations.map Prod.fst).Sublist spendOrder

structure IsRelease (owner : OwnerId) (ref : ReservationId) (allocations : List (Bucket × ℤ))
    (tx : Transaction) : Prop where
  event : tx.eventId = releaseEvent ref
  fields : tx.fields = releasePostings owner ref allocations

structure IsSettlement (owner : OwnerId) (ref : ReservationId) (allocations : List (Bucket × ℤ))
    (charge : ℤ) (ds : List CreditDestination) (tx : Transaction) : Prop where
  event : tx.eventId = settleEvent ref
  fields : tx.fields = (settlePostings owner ref allocations charge).1 ++ destinationCredits ds
  pos : 0 < charge
  le : charge ≤ (allocations.map Prod.snd).sum
  total : (ds.map CreditDestination.amountMicroUnits).sum = charge

/-- A reservation that its operations find open: the reserve transaction is there, no end is, and it
reads back as `allocations`. -/
structure IsOpen (txs : List Transaction) (owner : OwnerId) (ref : ReservationId)
    (allocations : List (Bucket × ℤ)) : Prop where
  notSettled : ∀ tx ∈ txs, tx.eventId ≠ settleEvent ref
  notReleased : ∀ tx ∈ txs, tx.eventId ≠ releaseEvent ref
  reserve : ∃ tx ∈ txs, tx.eventId = reserveEvent ref ∧
    readAllocations owner ref tx.fields spendOrder = .ok allocations
  total_pos : 0 < (allocations.map Prod.snd).sum

variable {l : Ledger} {allocations : List (Bucket × ℤ)}

theorem Ledger.IsOpenReservation.isOpen {ref : ReservationId} {tx : Transaction}
    (h : l.IsOpenReservation owner ref tx allocations) :
    IsOpen l.journal.transactions owner ref allocations := by
  obtain ⟨hmem, hevent⟩ := transactionForEvent_eq_some h.reserve
  exact ⟨transactionForEvent_eq_none.mp h.notSettled,
    transactionForEvent_eq_none.mp h.notReleased, ⟨tx, hmem, hevent, h.allocations_eq⟩,
    h.total_pos⟩

/-- **Where the life of a reservation stands**, for the owner `o` and the id `r`: the transactions of `r`
in the journal and the balances of the sub-accounts of `o`. -/
inductive Phase (txs : List Transaction) (bal : String → ℤ) (o : OwnerId) (r : ReservationId) : Prop
  | unreserved (none : ∀ tx ∈ txs, ¬IsEventOf r tx.eventId)
      (empty : ∀ b, bal (confidentialReservationAccount o r b) = 0)
  | foreign (tx : Transaction) (owner : OwnerId) (allocations : List (Bucket × ℤ)) (mem : tx ∈ txs)
      (reservation : IsReservation owner r allocations tx) (ne : owner ≠ o)
      (empty : ∀ b, bal (confidentialReservationAccount o r b) = 0)
  | reserved (tx : Transaction) (allocations : List (Bucket × ℤ)) (mem : tx ∈ txs)
      (reservation : IsReservation o r allocations tx)
      (notSettled : ∀ t ∈ txs, t.eventId ≠ settleEvent r)
      (notReleased : ∀ t ∈ txs, t.eventId ≠ releaseEvent r)
      (holds : ∀ b, bal (confidentialReservationAccount o r b) = sumAt allocations b)
  | released (tx tx' : Transaction) (allocations : List (Bucket × ℤ)) (mem : tx ∈ txs)
      (reservation : IsReservation o r allocations tx) (mem' : tx' ∈ txs)
      (release : IsRelease o r allocations tx') (notSettled : ∀ t ∈ txs, t.eventId ≠ settleEvent r)
      (empty : ∀ b, bal (confidentialReservationAccount o r b) = 0)
  | settled (tx tx' : Transaction) (allocations : List (Bucket × ℤ)) (charge : ℤ)
      (ds : List CreditDestination) (mem : tx ∈ txs) (reservation : IsReservation o r allocations tx)
      (mem' : tx' ∈ txs) (settlement : IsSettlement o r allocations charge ds tx')
      (others : ∀ d ∈ ds, ∀ b, d.accountId ≠ ownerBucketAccount o b)
      (notReleased : ∀ t ∈ txs, t.eventId ≠ releaseEvent r)
      (empty : ∀ b, bal (confidentialReservationAccount o r b) = 0)

/-- What a recorded transaction is to the reservation `r` of `o`: nothing, or a move of some
reservation. -/
inductive EscrowMove (txs : List Transaction) (o : OwnerId) (r : ReservationId) (tx : Transaction) : Prop
  | outside (event : ∀ ref, ¬IsEventOf ref tx.eventId)
      (untouched : ∀ b, netChange tx.fields (confidentialReservationAccount o r b) = 0)
  | reserve (owner : OwnerId) (ref : ReservationId) (allocations : List (Bucket × ℤ))
      (reservation : IsReservation owner ref allocations tx)
      (buckets : ∀ c b, ownerBucketAccount owner c ≠ confidentialReservationAccount o r b)
      (suffix : reservationSuffix ref.val = reservationSuffix r.val → ref = r)
  | release (owner : OwnerId) (ref : ReservationId) (allocations : List (Bucket × ℤ))
      (isOpen : IsOpen txs owner ref allocations) (release : IsRelease owner ref allocations tx)
      (buckets : ∀ c b, ownerBucketAccount owner c ≠ confidentialReservationAccount o r b)
      (suffix : reservationSuffix ref.val = reservationSuffix r.val → ref = r)
  | settle (owner : OwnerId) (ref : ReservationId) (allocations : List (Bucket × ℤ)) (charge : ℤ)
      (ds : List CreditDestination) (isOpen : IsOpen txs owner ref allocations)
      (settlement : IsSettlement owner ref allocations charge ds tx)
      (buckets : ∀ c b, ownerBucketAccount owner c ≠ confidentialReservationAccount o r b)
      (suffix : reservationSuffix ref.val = reservationSuffix r.val → ref = r)
      (away : ∀ d ∈ ds, ∀ b, d.accountId ≠ confidentialReservationAccount o r b)
      (others : owner = o → ∀ d ∈ ds, ∀ b, d.accountId ≠ ownerBucketAccount o b)

theorem subAccount_ne {o : OwnerId} {r ref : ReservationId}
    (hsuffix : reservationSuffix ref.val = reservationSuffix r.val → ref = r)
    (hne : ¬(owner = o ∧ ref = r)) (c b : Bucket) :
    confidentialReservationAccount owner ref c ≠ confidentialReservationAccount o r b := by
  intro heq
  obtain ⟨ho, hs, -⟩ := reservationAccount_inj heq
  exact hne ⟨ho, hsuffix hs⟩

theorem not_isEventOf_of_ne {r ref : ReservationId} (h : IsEventOf ref e) (hne : ref ≠ r) : ¬IsEventOf r e := by
  rcases h with rfl | rfl | rfl
  · rintro (h | h | h)
    · exact hne (reserveEvent_inj h)
    · exact reserveEvent_ne_settleEvent _ _ h
    · exact reserveEvent_ne_releaseEvent _ _ h
  · rintro (h | h | h)
    · exact reserveEvent_ne_settleEvent _ _ h.symm
    · exact hne (settleEvent_inj h)
    · exact settleEvent_ne_releaseEvent _ _ h
  · rintro (h | h | h)
    · exact reserveEvent_ne_releaseEvent _ _ h.symm
    · exact settleEvent_ne_releaseEvent _ _ h.symm
    · exact hne (releaseEvent_inj h)

/-- What is found open is what was reserved, by the owner who reserved it. -/
theorem IsOpen.eq_reservation {txs : List Transaction} (hnd : (txs.map Transaction.eventId).Nodup)
    {owner₀ : OwnerId} {r : ReservationId} {allocations₀ : List (Bucket × ℤ)}
    {tx : Transaction} (hopen : IsOpen txs owner r allocations) (hmem : tx ∈ txs)
    (hres : IsReservation owner₀ r allocations₀ tx) :
    owner₀ = owner ∧ allocations₀ = allocations := by
  obtain ⟨tx', hmem', hevent', hread⟩ := hopen.reserve
  obtain rfl : tx' = tx :=
    List.inj_on_of_nodup_map hnd hmem' hmem (hevent'.trans hres.event.symm)
  rw [hres.fields, readAllocations_reservePostings hres.sublist hres.pos] at hread
  have hpos := hopen.total_pos
  by_cases ho : owner₀ = owner
  · rw [if_pos ho] at hread
    cases hread
    exact ⟨ho, rfl⟩
  · rw [if_neg ho] at hread
    cases hread
    cases hpos

section Step

variable {txs : List Transaction} {bal : String → ℤ} {o : OwnerId} {r : ReservationId}
  {tx : Transaction}

def balanceAfter (bal : String → ℤ) (tx : Transaction) (a : String) : ℤ := bal a + netChange tx.fields a

theorem forall_mem_concat {P : Transaction → Prop} (hold : ∀ t ∈ txs, P t) (hnew : P tx) :
    ∀ t ∈ txs ++ [tx], P t := by
  intro t ht
  rcases List.mem_append.mp ht with ht | ht
  · exact hold t ht
  · rw [List.mem_singleton] at ht
    rwa [ht]

theorem Phase.of_outside (h : Phase txs bal o r) (hevent : ¬IsEventOf r tx.eventId)
    (huntouched : ∀ b, netChange tx.fields (confidentialReservationAccount o r b) = 0) :
    Phase (txs ++ [tx]) (balanceAfter bal tx) o r := by
  have hbal : ∀ b, balanceAfter bal tx (confidentialReservationAccount o r b)
      = bal (confidentialReservationAccount o r b) := fun b => by
    rw [balanceAfter, huntouched, add_zero]
  have hsettle : tx.eventId ≠ settleEvent r := fun he => hevent (.inr (.inl he))
  have hrelease : tx.eventId ≠ releaseEvent r := fun he => hevent (.inr (.inr he))
  cases h with
  | unreserved hnone hempty =>
    exact .unreserved (forall_mem_concat hnone hevent) fun b => (hbal b).trans (hempty b)
  | foreign tx₀ owner al hmem hres hne hempty =>
    exact .foreign tx₀ owner al (List.mem_append_left _ hmem) hres hne fun b => (hbal b).trans (hempty b)
  | reserved tx₀ al hmem hres hns hnr hholds =>
    exact .reserved tx₀ al (List.mem_append_left _ hmem) hres (forall_mem_concat hns hsettle)
      (forall_mem_concat hnr hrelease) fun b => (hbal b).trans (hholds b)
  | released tx₀ tx₁ al hmem hres hmem₁ hrel hns hempty =>
    exact .released tx₀ tx₁ al (List.mem_append_left _ hmem) hres (List.mem_append_left _ hmem₁) hrel
      (forall_mem_concat hns hsettle) fun b => (hbal b).trans (hempty b)
  | settled tx₀ tx₁ al charge ds hmem hres hmem₁ hset hothers hnr hempty =>
    exact .settled tx₀ tx₁ al charge ds (List.mem_append_left _ hmem) hres
      (List.mem_append_left _ hmem₁) hset hothers (forall_mem_concat hnr hrelease)
      fun b => (hbal b).trans (hempty b)

theorem Phase.reserve (h : Phase txs bal o r) (hnew : ∀ t ∈ txs, t.eventId ≠ tx.eventId)
    (hres : IsReservation owner r allocations tx)
    (hbuckets : ∀ c b, ownerBucketAccount owner c ≠ confidentialReservationAccount o r b) :
    Phase (txs ++ [tx]) (balanceAfter bal tx) o r := by
  have hnet : ∀ b, netChange tx.fields (confidentialReservationAccount o r b)
      = sumAt (subMoves owner r allocations) (confidentialReservationAccount o r b) := fun b => by
    rw [hres.fields, netChange_reservePostings, sumAt_bucketMoves_of_ne (fun c => hbuckets c b)]
    omega
  have hmem : tx ∈ txs ++ [tx] := List.mem_append_right _ (List.mem_singleton_self tx)
  -- a reservation that is there already has the event of this transaction
  have habsurd : ∀ t ∈ txs, t.eventId ≠ reserveEvent r := fun t ht he =>
    hnew t ht (he.trans hres.event.symm)
  cases h with
  | unreserved hnone hempty =>
    by_cases ho : owner = o
    · subst ho
      refine .reserved tx allocations hmem hres ?_ ?_ fun b => ?_
      · exact forall_mem_concat (fun t ht he => hnone t ht (.inr (.inl he)))
          (by rw [hres.event]; exact reserveEvent_ne_settleEvent r r)
      · exact forall_mem_concat (fun t ht he => hnone t ht (.inr (.inr he)))
          (by rw [hres.event]; exact reserveEvent_ne_releaseEvent r r)
      · rw [balanceAfter, hempty, hnet, sumAt_subMoves]
        omega
    · refine .foreign tx owner allocations hmem hres ho fun b => ?_
      rw [balanceAfter, hempty, hnet,
        sumAt_subMoves_of_ne (fun c => subAccount_ne (fun _ => rfl) (fun h => ho h.1) c b)]
      omega
  | foreign tx₀ owner₀ al hmem₀ hres₀ | reserved tx₀ al hmem₀ hres₀ | released tx₀ tx₁ al hmem₀ hres₀
  | settled tx₀ tx₁ al charge ds hmem₀ hres₀ => exact absurd hres₀.event (habsurd tx₀ hmem₀)

/-- A reservation ends: the owner is the one who reserved, and `close` builds the phase after the end
from the reservation. -/
theorem Phase.finish (hnd : (txs.map Transaction.eventId).Nodup) (h : Phase txs bal o r)
    (hopen : IsOpen txs owner r allocations)
    (hforeign : owner ≠ o → ∀ b, netChange tx.fields (confidentialReservationAccount o r b) = 0)
    (close : ∀ tx₀, owner = o → tx₀ ∈ txs → IsReservation o r allocations tx₀ →
      (∀ b, bal (confidentialReservationAccount o r b) = sumAt allocations b) →
      Phase (txs ++ [tx]) (balanceAfter bal tx) o r) :
    Phase (txs ++ [tx]) (balanceAfter bal tx) o r := by
  cases h with
  | unreserved hnone hempty =>
    obtain ⟨tx₀, hmem, hevent, -⟩ := hopen.reserve
    exact absurd (.inl hevent) (hnone tx₀ hmem)
  | foreign tx₀ owner₀ al hmem hres hne hempty =>
    obtain ⟨rfl, rfl⟩ := hopen.eq_reservation hnd hmem hres
    refine .foreign tx₀ owner₀ al (List.mem_append_left _ hmem) hres hne fun b => ?_
    rw [balanceAfter, hempty, hforeign hne]
    omega
  | reserved tx₀ al hmem hres hns hnr hholds =>
    obtain ⟨rfl, rfl⟩ := hopen.eq_reservation hnd hmem hres
    exact close tx₀ rfl hmem hres hholds
  | released tx₀ tx₁ al hmem hres hmem₁ hrel => exact absurd hrel.event (hopen.notReleased tx₁ hmem₁)
  | settled tx₀ tx₁ al charge ds hmem hres hmem₁ hset =>
    exact absurd hset.event (hopen.notSettled tx₁ hmem₁)

/-- **One recorded transaction moves the life of a reservation one step on.** -/
theorem Phase.step (hnd : (txs.map Transaction.eventId).Nodup) (h : Phase txs bal o r)
    (hnew : ∀ t ∈ txs, t.eventId ≠ tx.eventId) (hmove : EscrowMove txs o r tx) :
    Phase (txs ++ [tx]) (balanceAfter bal tx) o r := by
  have hmem : tx ∈ txs ++ [tx] := List.mem_append_right _ (List.mem_singleton_self tx)
  cases hmove with
  | outside hevent huntouched => exact h.of_outside (hevent r) huntouched
  | reserve owner ref allocations hres hbuckets hsuffix =>
    by_cases href : ref = r
    · subst href
      exact h.reserve hnew hres hbuckets
    · refine h.of_outside (not_isEventOf_of_ne (.inl hres.event) href) fun b => ?_
      rw [hres.fields, netChange_reservePostings, sumAt_bucketMoves_of_ne (fun c => hbuckets c b),
        sumAt_subMoves_of_ne (fun c => subAccount_ne hsuffix (fun h => href h.2) c b)]
      omega
  | release owner ref allocations hopen hrel hbuckets hsuffix =>
    have hnet : ∀ b, netChange tx.fields (confidentialReservationAccount o r b)
        = -sumAt (subMoves owner ref allocations) (confidentialReservationAccount o r b) := fun b => by
      rw [hrel.fields, netChange_releasePostings, sumAt_bucketMoves_of_ne (fun c => hbuckets c b)]
      omega
    have hforeign : ¬(owner = o ∧ ref = r) →
        ∀ b, netChange tx.fields (confidentialReservationAccount o r b) = 0 := fun hne b => by
      rw [hnet, sumAt_subMoves_of_ne (fun c => subAccount_ne hsuffix hne c b)]
      omega
    by_cases href : ref = r
    · subst href
      refine h.finish hnd hopen (fun hne => hforeign fun hc => hne hc.1) fun tx₀ ho hmem₀ hres₀ hholds => ?_
      subst ho
      refine .released tx₀ tx allocations (List.mem_append_left _ hmem₀) hres₀ hmem hrel ?_
        fun b => ?_
      · exact forall_mem_concat hopen.notSettled
          (by rw [hrel.event]; exact (settleEvent_ne_releaseEvent ref ref).symm)
      · rw [balanceAfter, hholds, hnet, sumAt_subMoves]
        omega
    · exact h.of_outside (not_isEventOf_of_ne (.inr (.inr hrel.event)) href)
        (hforeign fun hc => href hc.2)
  | settle owner ref allocations charge ds hopen hset hbuckets hsuffix haway hothers =>
    have hnet : ∀ b, netChange tx.fields (confidentialReservationAccount o r b)
        = -sumAt (subMoves owner ref allocations) (confidentialReservationAccount o r b) := fun b => by
      rw [hset.fields, netChange_append, netChange_settlePostings,
        sumAt_bucketMoves_of_ne (fun c => hbuckets c b),
        netChange_destinationCredits_of_ne (fun d hd => haway d hd b)]
      omega
    have hforeign : ¬(owner = o ∧ ref = r) →
        ∀ b, netChange tx.fields (confidentialReservationAccount o r b) = 0 := fun hne b => by
      rw [hnet, sumAt_subMoves_of_ne (fun c => subAccount_ne hsuffix hne c b)]
      omega
    by_cases href : ref = r
    · subst href
      refine h.finish hnd hopen (fun hne => hforeign fun hc => hne hc.1) fun tx₀ ho hmem₀ hres₀ hholds => ?_
      subst ho
      refine .settled tx₀ tx allocations charge ds (List.mem_append_left _ hmem₀) hres₀ hmem hset
        (hothers rfl) ?_ fun b => ?_
      · exact forall_mem_concat hopen.notReleased
          (by rw [hset.event]; exact settleEvent_ne_releaseEvent ref ref)
      · rw [balanceAfter, hholds, hnet, sumAt_subMoves]
        omega
    · exact h.of_outside (not_isEventOf_of_ne (.inr (.inl hset.event)) href)
        (hforeign fun hc => href hc.2)

end Step

/-! ### What each operation is to a reservation -/

variable {ds : List CreditDestination}

section Operations

variable {R : Type} {o : OwnerId} {r : ReservationId} {tx : Transaction}

theorem ne_subAccount_of_head {a : String} (h : a.toList.head? ≠ some 'o') (b : Bucket) :
    a ≠ confidentialReservationAccount o r b := by
  apply ne_of_head
  rw [head_confidentialReservationAccount]
  exact h

variable {b : Bucket}

theorem netChange_bucketCredit_eq_zero {ownerId source type : String} {c : Bucket}
    {amount : ℤ} (hnames : ¬NamesBucket ownerId (confidentialReservationAccount o r b))
    (howner : cleanOwner ownerId = .ok owner) (htype : creditIncreases type = false)
    (hsource : source.toList.head? ≠ some 'o') :
    netChange (Ledger.bucketCreditPostings source type owner c amount)
      (confidentialReservationAccount o r b) = 0 := by
  rw [netChange_bucketCredit htype, if_neg (ne_subAccount_of_head hsource b),
    if_neg (ownerBucketAccount_ne_of_not_names hnames (cleanOwner_ok howner) c)]
  rfl

variable {fs : List PostingFields}

theorem netChange_job_eq_zero {call : JobCall R} (h : IsJobPostings call fs)
    (hne : call.customerAccountId ≠ confidentialReservationAccount o r b) :
    netChange fs (confidentialReservationAccount o r b) = 0 := by
  obtain ⟨fee, providers, rfl, hproviders⟩ := h
  apply netChange_eq_zero
  intro p hp
  rcases List.mem_cons.mp hp with rfl | hp
  · exact hne
  · rcases List.mem_append.mp hp with hp | hp
    · unfold feePosting at hp
      split at hp
      · rw [List.mem_singleton] at hp
        rw [hp]
        exact ne_subAccount_of_head (a := "revenue:network_fee") (by decide) b
      · cases hp
    · obtain ⟨s, -, haccount, -⟩ := hproviders p hp
      rw [haccount]
      exact ne_subAccount_of_head (by rw [head_append (by decide)]; decide) b

theorem netChange_payout_eq_zero {account type : String} {balance : ℤ}
    (hne : account ≠ confidentialReservationAccount o r b) :
    netChange (Ledger.payoutPostings account type balance) (confidentialReservationAccount o r b) = 0 := by
  apply netChange_eq_zero
  intro p hp
  simp only [payoutPostings, List.mem_cons, List.not_mem_nil, or_false] at hp
  rcases hp with rfl | rfl
  · exact hne
  · exact ne_subAccount_of_head (a := "expense:settlements") (by decide) b

theorem netChange_spend_eq_zero

    (hbuckets : ∀ c, ownerBucketAccount owner c ≠ confidentialReservationAccount o r b)
    (hds : ∀ d ∈ ds, d.accountId ≠ confidentialReservationAccount o r b) :
    netChange (Ledger.spendPostings owner allocations ds) (confidentialReservationAccount o r b) = 0 := by
  rw [netChange_spendPostings, sumAt_bucketMoves_of_ne hbuckets, netChange_destinationCredits_of_ne hds]
  rfl

theorem pendingAccountOf_ne_subAccount (x : String) (b : Bucket) :
    pendingAccountOf x ≠ confidentialReservationAccount o r b :=
  pendingAccountOf_ne_bucketFormat x (reservationSubject o r) b

theorem suffix_separates {refId : String} {ref : ReservationId} (href : cleanReservationId refId = .ok ref)
    (h : reservationSuffix (strip refId) = reservationSuffix r.val → strip refId = r.val) :
    reservationSuffix ref.val = reservationSuffix r.val → ref = r := by
  rw [← cleanReservationId_ok href] at h
  exact fun hs => ReservationId.ext_val (h hs)

/-- The operations on confidential reservations. -/
def Op.isConfidential : Op R → Bool
  | .reserveConfidentialCredits .. | .releaseConfidentialReservation ..
  | .settleConfidentialReservation .. => true
  | _ => false

variable {env : Env} {op : Op R}

theorem Op.posts_head (hop : op.isConfidential = false) (h : op.Posts l env e fs) : e.toList.head? ≠ some 'c' := by
  obtain ⟨tag, htag, ref, rfl⟩ := Op.posts_eventTag h
  have hhead : ∀ t ∈ op.eventTags, t.toList ≠ [] ∧ t.toList.head? ≠ some 'c' := by
    cases op with
    | reserveConfidentialCredits _ _ _ | releaseConfidentialReservation _ _
    | settleConfidentialReservation _ _ _ _ => cases hop
    | _ => simp [Op.eventTags]
  obtain ⟨hne, hc⟩ := hhead tag htag
  rw [head_append hne]
  exact hc

theorem Op.posts_untouched (hop : op.isConfidential = false) (h : op.Posts l env e fs)
    (hfree : ¬op.Names l (confidentialReservationAccount o r b)) :
    netChange fs (confidentialReservationAccount o r b) = 0 := by
  cases op with
  | captureHold _ call | recordJobExecution call => exact netChange_job_eq_zero h.2 hfree
  | depositCustomerCredits customer amount ref =>
    rcases h with ⟨-, rfl⟩ | ⟨owner, howner, -, -, rfl⟩
    · apply netChange_eq_zero
      intro p hp
      simp only [depositPostings, List.mem_cons, List.not_mem_nil, or_false] at hp
      rcases hp with rfl | rfl
      · exact ne_subAccount_of_head (a := "gateway:escrow") (by decide) b
      · exact fun heq => hfree (.inl heq)
    · exact netChange_bucketCredit_eq_zero (fun hn => hfree (.inr hn)) howner (by decide) (by decide)
  | createOperatorTreasuryPayout wallet ref =>
    obtain ⟨_, -, rfl⟩ := h
    exact netChange_payout_eq_zero (ne_subAccount_of_head (by decide) b)
  | createProviderPayout node wallet ref =>
    obtain ⟨-, rfl⟩ := h
    exact netChange_payout_eq_zero
      (ne_subAccount_of_head (by rw [head_append (by decide)]; decide) b)
  | depositOwnerPurchasedCredits owner amount ref | grantOwnerPromoCredits owner amount ref policy
  | creditOwnerEarnedCredits owner amount ref description =>
    obtain ⟨owner, howner, -, -, rfl⟩ := h
    exact netChange_bucketCredit_eq_zero hfree howner (by decide) (by decide)
  | spendOwnerCredits ownerId amount ds ref description =>
    obtain ⟨owner, allocations, howner, -, rfl⟩ := h
    exact netChange_spend_eq_zero
      (fun c => ownerBucketAccount_ne_of_not_names (fun hn => hfree (.inl hn)) (cleanOwner_ok howner) c)
      fun d hd heq => hfree (.inr ⟨d, hd, heq⟩)
  | captureOwnerHold holdId actual ds ref description =>
    obtain ⟨hold, allocations, hget, -, rfl⟩ := h
    exact netChange_spend_eq_zero
      (fun c => ownerBucketAccount_ne_of_not_names (fun hn => hfree (.inl ⟨hold, hget, hn⟩))
        hold.ownerId.stripped.symm c)
      fun d hd heq => hfree (.inr ⟨d, hd, heq⟩)
  | reserveOwnerWithdrawal ownerId amount ref =>
    obtain ⟨owner, howner, -, rfl⟩ := h
    rw [netChange_withdrawalReserve, if_neg (pendingAccountOf_ne_subAccount _ b),
      if_neg (ownerBucketAccount_ne_of_not_names hfree howner _)]
    rfl
  | finalizeOwnerWithdrawal ownerId amount ref =>
    obtain ⟨-, rfl⟩ := h
    rw [netChange_withdrawalFinalize, if_neg (pendingAccountOf_ne_subAccount _ b),
      if_neg (ne_subAccount_of_head (by decide) b)]
    rfl
  | cancelOwnerWithdrawal ownerId amount ref =>
    obtain ⟨owner, howner, -, rfl⟩ := h
    rw [netChange_withdrawalCancel, if_neg (pendingAccountOf_ne_subAccount _ b),
      if_neg (ownerBucketAccount_ne_of_not_names hfree howner _)]
    rfl
  | reserveConfidentialCredits _ _ _ | releaseConfidentialReservation _ _
  | settleConfidentialReservation _ _ _ _ => cases hop
  | _ => exact h.elim

/-- **Every operation is outside or a move**, if it leaves the reservation alone. -/
theorem Op.posts_move (h : op.Posts l env tx.eventId tx.fields) (halone : op.LeavesAlone l o r)
    (hassume : op.WithinAssumptions o r) : EscrowMove l.journal.transactions o r tx := by
  have hfree : ∀ b, ¬op.Names l (confidentialReservationAccount o r b) := fun b =>
    halone b (mem_spendOrder b)
  by_cases hop : op.isConfidential = false
  · exact .outside (fun ref he => Op.posts_head hop h (head_of_isEventOf he))
      fun b => Op.posts_untouched hop h (hfree b)
  · cases op with
    | reserveConfidentialCredits ownerId refId amount =>
      obtain ⟨owner, ref, allocations, howner, href, halloc, hevent, hfields⟩ := h
      exact .reserve owner ref allocations ⟨hevent, hfields, halloc.pos, halloc.sublist⟩
        (fun c b => ownerBucketAccount_ne_of_not_names (hfree b) (cleanOwner_ok howner) c)
        (suffix_separates href hassume)
    | releaseConfidentialReservation ownerId refId =>
      obtain ⟨owner, ref, tx₀, allocations, howner, href, hopen, hevent, hfields⟩ := h
      exact .release owner ref allocations hopen.isOpen ⟨hevent, hfields⟩
        (fun c b => ownerBucketAccount_ne_of_not_names (hfree b) (cleanOwner_ok howner) c)
        (suffix_separates href hassume)
    | settleConfidentialReservation ownerId refId actual ds =>
      obtain ⟨owner, ref, tx₀, allocations, howner, href, hopen, hpos, hle, -, -, hsum, hevent,
        hfields⟩ := h
      refine .settle owner ref allocations actual ds hopen.isOpen ⟨hevent, hfields, hpos, hle, hsum⟩
        (fun c b => ownerBucketAccount_ne_of_not_names (fun hn => hfree b (.inl hn)) (cleanOwner_ok howner) c)
        (suffix_separates href hassume.1) (fun d hd b heq => hfree b (.inr ⟨d, hd, heq⟩)) ?_
      rintro rfl d hd b
      exact hassume.2 (cleanOwner_ok howner).symm d hd b (mem_spendOrder b)
    | _ => exact absurd rfl hop

/-! ### A reservation ends at most once -/

def endsOf (r : ReservationId) (txs : List Transaction) : List Transaction :=
  txs.filter fun tx => tx.eventId = settleEvent r ∨ tx.eventId = releaseEvent r

theorem Op.posts_end (h : op.Posts l env e fs) (hend : e = settleEvent r ∨ e = releaseEvent r) :
    endsOf r l.journal.transactions = [] := by
  have hopen_end : ∀ {owner : OwnerId} {ref : ReservationId} {al : List (Bucket × ℤ)},
      IsOpen l.journal.transactions owner ref al → ref = r → endsOf r l.journal.transactions = [] := by
    rintro owner ref al hopen rfl
    rw [endsOf, List.filter_eq_nil_iff]
    intro t ht
    simpa using ⟨hopen.notSettled t ht, hopen.notReleased t ht⟩
  by_cases hop : op.isConfidential = false
  · exact absurd (head_of_isEventOf (.inr hend)) (Op.posts_head hop h)
  · cases op with
    | reserveConfidentialCredits ownerId refId amount =>
      obtain ⟨owner, ref, allocations, -, -, -, rfl, -⟩ := h
      rcases hend with hend | hend
      · exact absurd hend (reserveEvent_ne_settleEvent ref r)
      · exact absurd hend (reserveEvent_ne_releaseEvent ref r)
    | releaseConfidentialReservation ownerId refId =>
      obtain ⟨owner, ref, tx₀, allocations, -, -, hopen, rfl, -⟩ := h
      rcases hend with hend | hend
      · exact absurd hend (settleEvent_ne_releaseEvent r ref).symm
      · exact hopen_end hopen.isOpen (releaseEvent_inj hend)
    | settleConfidentialReservation ownerId refId actual ds =>
      obtain ⟨owner, ref, tx₀, allocations, -, -, hopen, -, -, -, -, -, rfl, -⟩ := h
      rcases hend with hend | hend
      · exact hopen_end hopen.isOpen (settleEvent_inj hend)
      · exact absurd hend (settleEvent_ne_releaseEvent ref r)
    | _ => exact absurd rfl hop

theorem Op.run_endsOf [LayerRatio R] (env : Env) (op : Op R) (h : (endsOf r l.journal.transactions).length ≤ 1) :
    (endsOf r (op.run l env).journal.transactions).length ≤ 1 := by
  rcases op.run_journal l env with heq | ⟨tx, -, hposts, heq⟩
  · rwa [heq]
  · have htxs : (l.journal.recordTransaction tx).2.transactions = l.journal.transactions ++ [tx] :=
      l.recorded_transactions tx
    have happend : endsOf r (l.journal.transactions ++ [tx])
        = endsOf r l.journal.transactions ++ endsOf r [tx] := List.filter_append ..
    rw [heq, htxs, happend, List.length_append]
    by_cases hend : tx.eventId = settleEvent r ∨ tx.eventId = releaseEvent r
    · have hone : (endsOf r [tx]).length ≤ 1 := List.length_filter_le _ _
      rw [Op.posts_end hposts hend, List.length_nil]
      omega
    · have hnone : endsOf r [tx] = [] := by simpa [endsOf] using hend
      rw [hnone, List.length_nil]
      omega

end Operations

/-! ### Runs -/

/-- The invariant of a run, for one owner and one reservation id. -/
structure EscrowInv (o : OwnerId) (r : ReservationId) (l : Ledger) : Prop where
  replay : l.journal.IsReplay
  once : (endsOf r l.journal.transactions).length ≤ 1
  phase : Phase l.journal.transactions l.rawBalance o r

theorem EscrowInv.run {R : Type} [LayerRatio R] {o : OwnerId} {r : ReservationId} {l : Ledger}
    (h : EscrowInv o r l) (env : Env) {op : Op R} (halone : op.LeavesAlone l o r)
    (hassume : op.WithinAssumptions o r) : EscrowInv o r (op.run l env) := by
  refine ⟨op.run_isReplay env h.replay, op.run_endsOf env h.once, ?_⟩
  rcases op.run_journal l env with heq | ⟨tx, hunseen, hposts, heq⟩
  · have hbal : (op.run l env).rawBalance = l.rawBalance := by
      funext a
      rw [rawBalance, heq, rawBalance]
    rw [heq, hbal]
    exact h.phase
  · have htxs : (op.run l env).journal.transactions = l.journal.transactions ++ [tx] := by
      rw [heq]
      exact l.recorded_transactions tx
    have hbal : (op.run l env).rawBalance = balanceAfter l.rawBalance tx := by
      funext a
      rw [rawBalance, heq, balanceAfter, ← l.rawBalance_recorded tx a]
      rfl
    rw [htxs, hbal]
    refine h.phase.step h.replay.nodup (fun t ht he => ?_) (Op.posts_move hposts halone hassume)
    exact hunseen.not_mem h.replay ((h.replay.events _).mpr ⟨t, ht, he⟩)

theorem spentFrom_waterfall (hsub : (allocations.map Prod.fst).Sublist spendOrder) (hpos : ∀ a ∈ allocations, 0 < a.2)
    {charge : ℤ} (hcharge : 0 < charge) :
    spentFrom allocations charge .earned = min charge (sumAt allocations .earned) ∧
      spentFrom allocations charge .purchased
        = min (charge - spentFrom allocations charge .earned) (sumAt allocations .purchased) ∧
      spentFrom allocations charge .promo
        = min (charge - spentFrom allocations charge .earned - spentFrom allocations charge .purchased)
          (sumAt allocations .promo) := by
  have heq := filterMap_sumAt spendOrder allocations nodup_spendOrder hsub fun e he => (hpos e he).ne'
  have hnonneg : ∀ b, 0 ≤ sumAt allocations b := fun b =>
    sumAt_nonneg fun e he _ => (hpos e he).le
  have hx := hnonneg .earned
  have hy := hnonneg .purchased
  have hz := hnonneg .promo
  simp only [spendOrder, List.filterMap_cons, List.filterMap_nil] at heq
  generalize sumAt allocations .earned = x at *
  generalize sumAt allocations .purchased = y at *
  generalize sumAt allocations .promo = z at *
  -- the allocations are the buckets whose total is not zero, in order
  by_cases hx' : x = 0 <;> by_cases hy' : y = 0 <;> by_cases hz' : z = 0 <;>
    simp only [hx', hy', hz', if_true, if_false] at heq <;> subst heq <;> simp [spentFrom] <;> omega

theorem ownBucket_ne_subAccount (o : OwnerId) (r : ReservationId) (b c : Bucket) :
    confidentialReservationAccount o r b ≠ ownerBucketAccount o c := by
  intro heq
  have hval := (reservationAccount_eq_ownerBucketAccount_iff.mp heq).1
  have hlen := congrArg (fun x : String => x.toList.length) hval
  simp only [reservationSubject, String.toList_append, List.length_append, length_reservationSuffix] at hlen
  omega

variable {al : List (Bucket × ℤ)}

theorem IsReservation.netChange_bucket {o : OwnerId} {r : ReservationId}
    {tx : Transaction} (h : IsReservation o r al tx) (b : Bucket) :
    netChange tx.fields (ownerBucketAccount o b) = -sumAt al b := by
  rw [h.fields, netChange_reservePostings, sumAt_bucketMoves, if_pos rfl,
    sumAt_subMoves_of_ne (fun c => ownBucket_ne_subAccount o r c b)]
  omega

theorem IsRelease.netChange_bucket {o : OwnerId} {r : ReservationId}
    {tx : Transaction} (h : IsRelease o r al tx) (b : Bucket) :
    netChange tx.fields (ownerBucketAccount o b) = sumAt al b := by
  rw [h.fields, netChange_releasePostings, sumAt_bucketMoves, if_pos rfl,
    sumAt_subMoves_of_ne (fun c => ownBucket_ne_subAccount o r c b)]
  omega

theorem IsSettlement.netChange_bucket {o : OwnerId} {r : ReservationId}
    {charge : ℤ} {tx : Transaction} (h : IsSettlement o r al charge ds tx)
    (hothers : ∀ d ∈ ds, ∀ b, d.accountId ≠ ownerBucketAccount o b) (b : Bucket) :
    netChange tx.fields (ownerBucketAccount o b) = sumAt al b - spentFrom al charge b := by
  rw [h.fields, netChange_append, netChange_settlePostings, sumAt_bucketMoves, if_pos rfl,
    sumAt_subMoves_of_ne (fun c => ownBucket_ne_subAccount o r c b), sumAt_refunds,
    netChange_destinationCredits_of_ne (fun d hd => hothers d hd b)]
  omega

/-- What a settlement kept of the amount reserved from a bucket: what did not come back to it. -/
def spentOf (o : OwnerId) (allocations : List (Bucket × ℤ)) (tx : Transaction) (b : Bucket) : ℤ :=
  sumAt allocations b - netChange tx.fields (ownerBucketAccount o b)

/-- **A settlement in order**: the charge is taken from earned first, then from purchased, the rest from
promo, and the destinations are credited with exactly the charge. -/
def SettlesInOrder (o : OwnerId) (allocations : List (Bucket × ℤ)) (tx : Transaction) : Prop :=
  ∃ charge ds moves, 0 < charge ∧ charge ≤ (allocations.map Prod.snd).sum ∧
    spentOf o allocations tx .earned = min charge (sumAt allocations .earned) ∧
    spentOf o allocations tx .purchased
      = min (charge - spentOf o allocations tx .earned) (sumAt allocations .purchased) ∧
    spentOf o allocations tx .promo
      = charge - spentOf o allocations tx .earned - spentOf o allocations tx .purchased ∧
    tx.fields = moves ++ destinationCredits ds ∧
    (ds.map CreditDestination.amountMicroUnits).sum = charge

theorem IsSettlement.settlesInOrder {o : OwnerId} {r : ReservationId}
    {charge : ℤ} {tx₀ tx : Transaction} (hres : IsReservation o r al tx₀)
    (h : IsSettlement o r al charge ds tx)
    (hothers : ∀ d ∈ ds, ∀ b, d.accountId ≠ ownerBucketAccount o b) : SettlesInOrder o al tx := by
  obtain ⟨hearned, hpurchased, hpromo⟩ := spentFrom_waterfall hres.sublist hres.pos h.pos
  have hspent : ∀ b, spentOf o al tx b = spentFrom al charge b := fun b => by
    rw [spentOf, h.netChange_bucket hothers]
    omega
  have hle := h.le
  have hsum := sum_eq_sumAt_buckets al
  have hnonneg : ∀ b, 0 ≤ sumAt al b := fun b => sumAt_nonneg fun e he _ => (hres.pos e he).le
  have hx := hnonneg .earned
  have hy := hnonneg .purchased
  have hz := hnonneg .promo
  refine ⟨charge, ds, _, h.pos, h.le, ?_, ?_, ?_, h.fields, h.total⟩
  · rw [hspent, hearned]
  · rw [hspent, hspent, hpurchased]
  · rw [hspent, hspent, hspent]
    omega

theorem IsReservation.unique {o : OwnerId} {r : ReservationId} {al' : List (Bucket × ℤ)}
    {tx : Transaction} (h : IsReservation o r al tx) (h' : IsReservation owner r al' tx) :
    owner = o ∧ al' = al := by
  have hread : readAllocations o r (reservePostings o r al) spendOrder = _ :=
    readAllocations_reservePostings h.sublist h.pos o
  have hread' : readAllocations o r (reservePostings owner r al') spendOrder = _ :=
    readAllocations_reservePostings h'.sublist h'.pos o
  rw [← h.fields, if_pos rfl] at hread
  rw [← h'.fields, hread] at hread'
  by_cases ho : owner = o
  · rw [if_pos ho] at hread'
    exact ⟨ho, (Except.ok.inj hread').symm⟩
  · rw [if_neg ho] at hread'
    have hnil : al = [] := Except.ok.inj hread'
    have hpos : 0 < totalDebits tx.fields := tx.positive
    rw [h.fields, hnil] at hpos
    cases hpos

theorem mem_endsOf {r : ReservationId} {txs : List Transaction} {tx : Transaction} :
    tx ∈ endsOf r txs ↔ tx ∈ txs ∧ (tx.eventId = settleEvent r ∨ tx.eventId = releaseEvent r) := by
  simp [endsOf]

/-- **Confidential escrow conserves credit and its provenance**, for every reservation that the run leaves
alone: it ends at most once; its sub-accounts hold what was taken from the buckets until it ends and
nothing afterwards; a release gives back to each bucket what was taken from it; and a settlement charges
the buckets in order, refunds the rest and pays the charge to the destinations. -/
theorem confidential_escrow_conserved {R : Type} [LayerRatio R] (cls : LedgerClass) (networkFeeBps : ℤ)
    (wallet : String) (storage : Option Storage) (steps : List (Env × Op R)) (o : OwnerId)
    (r : ReservationId)
    (hok : Run.Along (fun l (step : Env × Op R) => step.2.run l step.1)
      (fun l step => step.2.LeavesAlone l o r ∧ step.2.WithinAssumptions o r)
      (Ledger.fresh cls networkFeeBps wallet storage) steps) :
    let l := Op.runAll (fresh cls networkFeeBps wallet storage) steps
    let txs := l.journal.transactions
    (endsOf r txs).length ≤ 1 ∧
      (∀ tx ∈ txs, tx.eventId = reserveEvent r → ∃ owner al, IsReservation owner r al tx) ∧
      ∀ tx ∈ txs, ∀ al, IsReservation o r al tx →
        (∀ b, netChange tx.fields (ownerBucketAccount o b) = -sumAt al b) ∧
        (endsOf r txs = [] → ∀ b, l.rawBalance (confidentialReservationAccount o r b) = sumAt al b) ∧
        (endsOf r txs ≠ [] → ∀ b, l.rawBalance (confidentialReservationAccount o r b) = 0) ∧
        (∀ tx' ∈ txs, tx'.eventId = releaseEvent r →
          ∀ b, netChange tx'.fields (ownerBucketAccount o b) = sumAt al b) ∧
        (∀ tx' ∈ txs, tx'.eventId = settleEvent r → SettlesInOrder o al tx') := by
  intro l txs
  have hstart : EscrowInv o r (fresh cls networkFeeBps wallet storage) :=
    ⟨Journal.isReplay_empty storage, Nat.zero_le 1,
      .unreserved (fun tx htx => absurd htx List.not_mem_nil) fun b => rfl⟩
  have hinv : EscrowInv o r l :=
    Run.exec_of_along (EscrowInv o r) (fun l step h hstep => h.run step.1 hstep.1 hstep.2) hstart hok
  have hunique : ∀ {t t' : Transaction}, t ∈ txs → t' ∈ txs → t.eventId = t'.eventId → t = t' :=
    fun ht ht' he => List.inj_on_of_nodup_map hinv.replay.nodup ht ht' he
  refine ⟨hinv.once, ?_, ?_⟩
  · intro tx htx hevent
    have hfound : ∀ tx₀ owner al, tx₀ ∈ txs → IsReservation owner r al tx₀ →
        ∃ owner al, IsReservation owner r al tx := fun tx₀ owner al hmem hres => by
      rw [hunique htx hmem (hevent.trans hres.event.symm)]
      exact ⟨owner, al, hres⟩
    cases hinv.phase with
    | unreserved hnone => exact absurd (.inl hevent) (hnone tx htx)
    | foreign tx₀ owner al hmem hres => exact hfound tx₀ owner al hmem hres
    | reserved tx₀ al hmem hres | released tx₀ tx₁ al hmem hres
    | settled tx₀ tx₁ al charge ds hmem hres => exact hfound tx₀ o al hmem hres
  · intro tx htx al hres
    refine ⟨hres.netChange_bucket, ?_⟩
    have hsame : ∀ tx₀ owner al₀, tx₀ ∈ txs → IsReservation owner r al₀ tx₀ → owner = o ∧ al₀ = al :=
      fun tx₀ owner al₀ hmem hres₀ => by
        rw [hunique hmem htx (hres₀.event.trans hres.event.symm)] at hres₀
        exact hres.unique hres₀
    cases hinv.phase with
    | unreserved hnone => exact absurd (.inl hres.event) (hnone tx htx)
    | foreign tx₀ owner al₀ hmem hres₀ hne => exact absurd (hsame tx₀ owner al₀ hmem hres₀).1 hne
    | reserved tx₀ al₀ hmem hres₀ hns hnr hholds =>
      obtain ⟨-, rfl⟩ := hsame tx₀ o al₀ hmem hres₀
      have hnil : endsOf r txs = [] := List.eq_nil_iff_forall_not_mem.mpr fun t ht => by
        obtain ⟨hmem', hs | hr⟩ := mem_endsOf.mp ht
        · exact hns t hmem' hs
        · exact hnr t hmem' hr
      exact ⟨fun _ => hholds, fun h => absurd hnil h, fun t ht he => absurd he (hnr t ht),
        fun t ht he => absurd he (hns t ht)⟩
    | released tx₀ tx₁ al₀ hmem hres₀ hmem₁ hrel hns hempty =>
      obtain ⟨-, rfl⟩ := hsame tx₀ o al₀ hmem hres₀
      have hend : tx₁ ∈ endsOf r txs := mem_endsOf.mpr ⟨hmem₁, .inr hrel.event⟩
      refine ⟨fun h => absurd (h ▸ hend) List.not_mem_nil, fun _ => hempty, fun t ht he => ?_,
        fun t ht he => absurd he (hns t ht)⟩
      rw [hunique ht hmem₁ (he.trans hrel.event.symm)]
      exact hrel.netChange_bucket
    | settled tx₀ tx₁ al₀ charge ds hmem hres₀ hmem₁ hset hothers hnr hempty =>
      obtain ⟨-, rfl⟩ := hsame tx₀ o al₀ hmem hres₀
      have hend : tx₁ ∈ endsOf r txs := mem_endsOf.mpr ⟨hmem₁, .inl hset.event⟩
      refine ⟨fun h => absurd (h ▸ hend) List.not_mem_nil, fun _ => hempty,
        fun t ht he => absurd he (hnr t ht), fun t ht he => ?_⟩
      rw [hunique ht hmem₁ (he.trans hset.event.symm)]
      exact hset.settlesInOrder hres₀ hothers

/-- A reservation across two buckets that is settled for a part. -/
theorem confidential_escrow_conserved_sample : let steps : List (Env × Op ℚ) :=
      [(Env.atTime 0, .creditOwnerEarnedCredits "alice" 4 "e1" "job"),
       (Env.atTime 0, .depositOwnerPurchasedCredits "alice" 10 "p1"),
       (Env.atTime 1, .reserveConfidentialCredits "alice" "r1" 9),
       (Env.atTime 2, .spendOwnerCredits "alice" 1 [⟨"revenue:jobs", "revenue:jobs", 1⟩] "s1" "job"),
       (Env.atTime 3, .settleConfidentialReservation "alice" "r1" 6 [⟨"revenue:jobs", "revenue:jobs", 6⟩])]
    let l := Op.runAll (fresh .confidentialEscrow 2500 "" none) steps
    (endsOf sampleReservation l.journal.transactions).length = 1 ∧
      ∀ tx ∈ l.journal.transactions, ∀ al, IsReservation alice sampleReservation al tx →
        ∀ b, l.rawBalance (confidentialReservationAccount alice sampleReservation b) = 0 := by
  intro steps
  have hend : (endsOf sampleReservation
      (Op.runAll (fresh .confidentialEscrow 2500 "" none) steps).journal.transactions).length
        = 1 := by
    decide +kernel
  have hconserved := confidential_escrow_conserved .confidentialEscrow 2500 "" none steps alice
    sampleReservation (by decide +kernel)
  generalize Op.runAll (fresh .confidentialEscrow 2500 "" none) steps = l at hend hconserved ⊢
  have hne : endsOf sampleReservation l.journal.transactions ≠ [] := fun hnil => by
    rw [hnil] at hend
    cases hend
  exact ⟨hend, fun tx htx al hres => (hconserved.2.2 tx htx al hres).2.2.1 hne⟩

/-- A deposit of the owner whose id spells out a reservation goes into its sub-account, which then holds
more than was reserved. -/
theorem reservation_subaccount_not_conserved : ∃ steps : List (Env × Op ℚ),
      (∀ step ∈ steps, step.2.WithinAssumptions alice sampleReservation) ∧
      let l := Op.runAll (fresh .confidentialEscrow 2500 "" none) steps
      endsOf sampleReservation l.journal.transactions = [] ∧
      (∃ tx ∈ l.journal.transactions, tx.eventId = reserveEvent sampleReservation ∧
        tx.fields = reservePostings alice sampleReservation [(.purchased, 10)]) ∧
      l.rawBalance (confidentialReservationAccount alice sampleReservation .purchased) ≠ 10 :=
  ⟨[(Env.atTime 0, .depositOwnerPurchasedCredits "alice" 10 "p1"),
    (Env.atTime 1, .reserveConfidentialCredits "alice" "r1" 10),
    (Env.atTime 2, .depositOwnerPurchasedCredits "alice:confidential_reservation:82f3e9c695dc6b8d1b11818d" 5 "p2")],
    by decide +kernel⟩

end ComputeMesh.Billing
