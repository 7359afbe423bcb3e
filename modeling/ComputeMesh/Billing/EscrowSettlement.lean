import ComputeMesh.Billing.EscrowConservation

/-!
# What a settlement of a reservation leaves in the journal

* `creditedTo` — what a transaction pays to a list of destinations; the answer to a repeated settlement is read off it;
* `HoldsSettlement` — the journal has the settlement of a reservation, and it pays the charge;
* `settle_outcomes` — **a settlement is refused, was there before, or is recorded**, whatever the clock says.
-/

namespace ComputeMesh.Billing

open List

/-- What the postings of a transaction pay to the destinations. -/
def creditedTo (fs : List PostingFields) (destinations : List CreditDestination) : ℤ :=
  ((fs.filter fun p => destinations.any fun d => p.accountId = d.accountId ∧ p.accountType = d.accountType).map
    PostingFields.creditMicroUnits).sum

theorem creditedTo_append (fs gs : List PostingFields) (ds : List CreditDestination) :
    creditedTo (fs ++ gs) ds = creditedTo fs ds + creditedTo gs ds := by
  simp only [creditedTo, filter_append, map_append, sum_append]

theorem creditedTo_destinationCredits (ds : List CreditDestination) :
    creditedTo (destinationCredits ds) ds = (ds.map CreditDestination.amountMicroUnits).sum := by
  have hall : (destinationCredits ds).filter (fun p => ds.any fun d =>
      p.accountId = d.accountId ∧ p.accountType = d.accountType) = destinationCredits ds := by
    rw [filter_eq_self]
    intro p hp
    obtain ⟨d, hd, rfl⟩ := mem_map.mp hp
    exact any_eq_true.mpr ⟨d, hd, by simp⟩
  rw [creditedTo, hall, destinationCredits, map_map]
  rfl

section

variable {owner : OwnerId} {ref : ReservationId} {allocations : List (Bucket × ℤ)} {charge : ℤ}

/-- A posting of a settlement before the destinations: a debit, or a refund to a bucket of the owner. -/
theorem mem_settlePostings {p : PostingFields} (hp : p ∈ (settlePostings owner ref allocations charge).1) :
    p.creditMicroUnits = 0 ∨ ∃ b, p.accountId = ownerBucketAccount owner b := by
  induction allocations generalizing charge with
  | nil => cases hp
  | cons a rest ih =>
    obtain ⟨b, reserved⟩ := a
    rcases mem_cons.mp hp with rfl | hp
    · exact .inl rfl
    · rcases mem_append.mp hp with hrefund | hp
      · split at hrefund
        · cases hrefund
        · rw [mem_singleton.mp hrefund]
          exact .inr ⟨b, rfl⟩
      · exact ih hp

/-- **A settlement pays the charge to its destinations**, none of which is a bucket of the owner. -/
theorem creditedTo_settlement
    {ds : List CreditDestination} (hother : ∀ d ∈ ds, ∀ b, d.accountId ≠ ownerBucketAccount owner b)
    (htotal : (ds.map CreditDestination.amountMicroUnits).sum = charge) :
    creditedTo ((settlePostings owner ref allocations charge).1 ++ destinationCredits ds) ds = charge := by
  have hrest : creditedTo (settlePostings owner ref allocations charge).1 ds = 0 := by
    refine sum_eq_zero fun x hx => ?_
    obtain ⟨p, hp, rfl⟩ := mem_map.mp hx
    obtain ⟨hmem, hmatch⟩ := mem_filter.mp hp
    rcases mem_settlePostings hmem with hzero | ⟨b, hbucket⟩
    · exact hzero
    · obtain ⟨d, hd, hsame⟩ := any_eq_true.mp hmatch
      exact absurd ((of_decide_eq_true hsame).1.symm.trans hbucket) (hother d hd b)
  rw [creditedTo_append, hrest, creditedTo_destinationCredits, htotal, Int.zero_add]

end

namespace Ledger

/-- **The journal has the settlement of a reservation**, and it pays the charge to the destinations. -/
def HoldsSettlement (l : Ledger) (ref : ReservationId) (ds : List CreditDestination) (charge : ℤ) : Prop :=
  ∃ tx, l.transactionForEvent (settleEvent ref) = some tx ∧ creditedTo tx.fields ds = charge

theorem transactionForEvent_recorded (l : Ledger) (tx : Transaction) (e : String) :
    (l.recorded tx).transactionForEvent e = if tx.eventId = e then some tx else l.transactionForEvent e := by
  unfold transactionForEvent
  rw [recorded_transactions, reverse_append]
  by_cases he : tx.eventId = e
  · rw [if_pos he]
    exact find?_cons_of_pos (by simpa using he)
  · rw [if_neg he]
    exact find?_cons_of_neg (by simpa using he)

end Ledger

/-- Whether a transaction can be built does not depend on its ids and texts. -/
theorem newTransaction_uniform (fs : List PostingFields) :
    (∀ t e c d, ∃ x, newTransaction t e c d fs = .error x) ∨ ∀ t e c d, ∃ tx, newTransaction t e c d fs = .ok tx := by
  unfold newTransaction
  cases newPostings fs with
  | error x => exact .inl fun _ _ _ _ => ⟨x, rfl⟩
  | ok ps =>
    dsimp only
    unfold Transaction.new
    by_cases hbal : totalDebits (fieldsOf ps) ≠ totalCredits (fieldsOf ps)
    · exact .inl fun _ _ _ _ => ⟨_, dif_pos hbal⟩
    · by_cases hpos : totalDebits (fieldsOf ps) ≤ 0
      · exact .inl fun _ _ _ _ => ⟨_, by rw [dif_neg hbal, dif_pos hpos]⟩
      · exact .inr fun _ _ _ _ => ⟨_, by rw [dif_neg hbal, dif_neg hpos]⟩

namespace Ledger

/-- **A settlement is refused, was there before, or is recorded**, whatever the clock says. -/
theorem settle_outcomes (l : Ledger) (ownerId reservationId : String) (charge : ℤ) (ds : List CreditDestination) :
    (∀ env, ∃ e, l.settleConfidentialReservation env ownerId reservationId charge ds = (.error e, l)) ∨
      ∃ owner ref, cleanOwner ownerId = .ok owner ∧ cleanReservationId reservationId = .ok ref ∧
        ((∃ escrow, l.HoldsSettlement ref ds charge ∧
            ∀ env, l.settleConfidentialReservation env ownerId reservationId charge ds = (.ok escrow, l)) ∨
          (l.transactionForEvent (settleEvent ref) = none ∧
            ∃ allocations, ∀ env, ∃ tx result, IsSettlement owner ref allocations charge ds tx ∧
              l.settleConfidentialReservation env ownerId reservationId charge ds = (result, l.recorded tx))) := by
  unfold settleConfidentialReservation
  cases howner : cleanOwner ownerId with
  | error e => exact .inl fun env => ⟨e, rfl⟩
  | ok owner =>
    cases href : cleanReservationId reservationId with
    | error e => exact .inl fun env => ⟨e, rfl⟩
    | ok ref =>
      by_cases hpos : charge ≤ 0
      · exact .inl fun env => ⟨_, if_pos hpos⟩
      · simp only [if_neg hpos]
        cases hitems : validateDestinations ds charge with
        | error e => exact .inl fun env => ⟨e, rfl⟩
        | ok items =>
          obtain ⟨rfl, -, hsum⟩ := validateDestinations_ok hitems
          cases hget : l.getConfidentialReservation owner ref with
          | error e => exact .inl fun env => ⟨e, rfl⟩
          | ok found =>
            cases found with
            | none => exact .inl fun env => ⟨_, rfl⟩
            | some reservation =>
              obtain ⟨-, -, -, hamount⟩ := getConfidentialReservation_ok hget
              cases hsettled : l.transactionForEvent (settleEvent ref) with
              | some existing =>
                dsimp only
                cases hretry : l.settlementResultFromTransaction reservation existing charge items with
                | error e => exact .inl fun env => ⟨e, rfl⟩
                | ok escrow =>
                  refine .inr ⟨owner, ref, rfl, rfl, .inl ⟨escrow, ⟨existing, hsettled, ?_⟩, fun env => rfl⟩⟩
                  unfold settlementResultFromTransaction at hretry
                  dsimp only at hretry
                  split at hretry
                  · cases hretry
                  · rename_i hpaid
                    exact not_not.mp hpaid
              | none =>
                dsimp only
                by_cases hreleased : (l.transactionForEvent (releaseEvent ref)).isSome = true
                · exact .inl fun env => ⟨_, if_pos hreleased⟩
                · by_cases hcover : reservation.amountMicroUnits < charge
                  · exact .inl fun env => ⟨_, by rw [if_neg hreleased, if_pos hcover]⟩
                  · by_cases hmatch : ¬l.SubAccountsMatch owner ref reservation.allocations
                    · exact .inl fun env => ⟨_, by rw [if_neg hreleased, if_neg hcover, if_pos hmatch]⟩
                    · by_cases hleft : (settlePostings owner ref reservation.allocations charge).2 ≠ 0
                      · exact .inl fun env =>
                          ⟨_, by rw [if_neg hreleased, if_neg hcover, if_neg hmatch, if_pos hleft]⟩
                      · simp only [if_neg hreleased, if_neg hcover, if_neg hmatch, if_neg hleft]
                        have hle : charge ≤ (reservation.allocations.map Prod.snd).sum := by
                          rw [← hamount]
                          omega
                        rcases newTransaction_uniform ((settlePostings owner ref reservation.allocations charge).1
                          ++ destinationCredits items) with hbad | hgood
                        · refine .inl fun env => ?_
                          obtain ⟨x, hx⟩ := hbad _ _ _ _
                          exact ⟨x, by rw [hx]; rfl⟩
                        · refine .inr ⟨owner, ref, rfl, rfl, .inr ⟨hsettled, reservation.allocations, fun env => ?_⟩⟩
                          obtain ⟨tx, hnew⟩ := hgood (txId "conf_settle" (settleEvent ref)) (settleEvent ref) env.isoNow
                            s!"Settle confidential job reservation {ref.val}"
                          obtain ⟨-, hevent, -, -, hfields⟩ := newTransaction_ok hnew
                          have hcommit : l.commit tx = ((l.commit tx).1, l.recorded tx) := Prod.ext rfl (commit_snd l tx)
                          refine ⟨tx, _, ⟨hevent, hfields, not_le.mp hpos, hle, hsum⟩, Prod.ext rfl ?_⟩
                          rw [hnew]
                          unfold commitNew
                          dsimp only
                          rw [hcommit]
                          cases (l.commit tx).1 with
                          | error e => rfl
                          | ok _ =>
                            dsimp only
                            cases (l.recorded tx).reservationFromTransaction owner ref
                              reservation.reserveTransaction <;> rfl

end Ledger

end ComputeMesh.Billing
