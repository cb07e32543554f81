import GraphBlocks.BudgetFailures

namespace GraphBlocks.Budget
open Std OrderedMap Usage MachineRuns List Option

def commitActualOf (rid:String) (t:LedgerTransition) : Option (List UsageAmount) :=
 match t.response with
 | .error _=>none
 | .ok _=>
  match t.call with
  | .commit rid' actual=>if rid'=rid then some actual else none
  | .commitWithOverdraftLimit rid' actual _=>if rid'=rid then some actual else none
  | .commitWithPermit _ rid' actual=>if rid'=rid then some actual else none
  | .commitWithPermitAt _ rid' actual _=>if rid'=rid then some actual else none
  | _=>none

def actualsOf (past:List LedgerTransition) (rid:String) : List (List UsageAmount) :=
 past.filterMap (commitActualOf rid)

def actualAmount (actuals:String→List (List UsageAmount)) (key:AmountKey) (rid:String)
  (_:BudgetReservation) : ℤ :=
 ((actuals rid).map fun actual=>amountOf actual key).sum

/-- What the commits of a reservation took beyond it. -/
def excessAmount (actuals:String→List (List UsageAmount)) (key:AmountKey) (rid:String)
  (r:BudgetReservation) : ℤ :=
 ((actuals rid).map fun actual=>max 0 (amountOf actual key-amountOf r.amounts key)).sum

def commitCount (s:InMemoryBudgetLedger) (rid:String) : ℕ :=
 (s.reservations[rid]?.map fun r=>if r.status=.committed then 1 else 0).getD 0

structure Conserved (actuals:String→List (List UsageAmount)) (s:InMemoryBudgetLedger) : Prop where
 balanced:Balanced s
 counted:∀rid,(actuals rid).length=commitCount s rid
 committed:∀b,s.accounts.contains b=true → ∀key,balanceAt s.committed b key =
  chargedTo (heldBudgetIds s) (actualAmount actuals key) b s.reservations
 overdraft:∀b,s.accounts.contains b=true → ∀key,balanceAt s.overdraft b key =
  chargedTo (heldBudgetIds s) (excessAmount actuals key) b s.reservations

lemma balanceAt_insert(balances:StringMap AmountMap)(b b':String)(m:AmountMap)
  (key:AmountKey):balanceAt (balances.insert b m) b' key =
   if b=b' then amountAt m key else balanceAt balances b' key:=by
 unfold balanceAt
 rw [lookup_insert]
 split <;>rfl

lemma conserved_new : Conserved (actualsOf []) .new where
 balanced:=
  { reservedBalance:=fun _ _ h=>by simp [InMemoryBudgetLedger.new] at h
    committedBalance:=fun _ _ h=>by simp [InMemoryBudgetLedger.new] at h
    overdraftBalance:=fun _ _ h=>by simp [InMemoryBudgetLedger.new] at h
    held:=fun _ h=>by simp [InMemoryBudgetLedger.new] at h
    within:=fun _ h=>by simp [InMemoryBudgetLedger.new] at h }
 counted _:=by simp [actualsOf,commitCount,InMemoryBudgetLedger.new]
 committed _ h:=by simp [InMemoryBudgetLedger.new] at h
 overdraft _ h:=by simp [InMemoryBudgetLedger.new] at h

variable {s s':InMemoryBudgetLedger} {actuals:String→List (List UsageAmount)} {m:AmountMap}

lemma subtractAmounts_spec{t a:AmountMap}(ht:IsBalance t)(ha:IsBalance a)
  (hle:∀key,amountAt a key≤amountAt t key)(h:subtractAmounts t a=.ok m):
  IsBalance m∧∀key,amountAt m key=amountAt t key-amountAt a key:=by
 obtain ⟨m',hok,hbal,hat⟩:=subtractAmounts_ok ht ha hle
 rw [hok] at h
 cases h
 exact ⟨hbal,hat⟩

structure Moved (held:List String) (change:AmountKey→ℤ) (old new:StringMap AmountMap) : Prop where
 balances:∀(b:String) m,new[b]?=some m→IsBalance m
 moved:∀b key,balanceAt new b key=balanceAt old b key+if b∈held then change key else 0

variable {held:List String}

lemma moved_of_lookups{change:AmountKey→ℤ}{old new:StringMap AmountMap}
  (hold:∀(b:String) m,old[b]?=some m→IsBalance m)
  (hin:∀b∈held,∃m m',old[b]?=some m∧new[b]?=some m'∧IsBalance m' ∧
   ∀key,amountAt m' key=amountAt m key+change key)
  (hout:∀b,b∉held→new[b]?=old[b]?):Moved held change old new:=by
 refine ⟨fun b m hm=>?_,fun b key=>?_⟩
 · by_cases hb:b∈held
   · obtain ⟨t,t',-,ht',hbal,-⟩:=hin b hb
     rw [ht'] at hm
     cases hm
     exact hbal
   · rw [hout b hb] at hm
     exact hold b m hm
 · by_cases hb:b∈held
   · obtain ⟨t,t',ht,ht',-,hat⟩:=hin b hb
     rw [balanceAt_of_lookup ht',balanceAt_of_lookup ht,if_pos hb,hat]
   · rw [if_neg hb,balanceAt,balanceAt,hout b hb,add_zero]

lemma HeldUpdate.settled{update:AmountMap→Except BudgetError AmountMap}
  (h:HeldUpdate update held s s'):s'.committed=s.committed∧s'.overdraft=s.overdraft:=by
 constructor <;>rw [h.rest]

lemma HeldUpdate.added(h:HeldUpdate (addAmounts · m) held s s')
  (hbal:∀(b:String) m,s.reserved[b]?=some m→IsBalance m)(hm:IsBalance m):
  Moved held (amountAt m) s.reserved s'.reserved:=by
 refine moved_of_lookups hbal (fun b hb=>?_) h.outside
 obtain ⟨t,t',ht,hadd,ht'⟩:=h.inside b hb
 obtain ⟨hbal',hat⟩:=addAmounts_spec (hbal b t ht) hm hadd
 exact ⟨t,t',ht,ht',hbal',hat⟩

lemma HeldUpdate.subtracted(h:HeldUpdate (subtractAmounts · m) held s s')
  (hbal:∀(b:String) m,s.reserved[b]?=some m→IsBalance m)(hm:IsBalance m)
  (hle:∀b∈held,∀key,amountAt m key≤balanceAt s.reserved b key):
  Moved held (fun key => -amountAt m key) s.reserved s'.reserved:=by
 refine moved_of_lookups hbal (fun b hb=>?_) h.outside
 obtain ⟨t,t',ht,hsub,ht'⟩:=h.inside b hb
 have hcovered:∀key,amountAt m key≤amountAt t key:=by
  intro key
  rw [←balanceAt_of_lookup ht]
  exact hle b hb key
 obtain ⟨hbal',hat⟩:=subtractAmounts_spec (hbal b t ht) hm hcovered hsub
 exact ⟨t,t',ht,ht',hbal',fun key=>by rw [hat,sub_eq_add_neg]⟩

lemma heldBudgetIds_congr(h:s'.reservationHolds=s.reservationHolds):
  heldBudgetIds s'=heldBudgetIds s:=by
 funext rid r
 unfold heldBudgetIds
 rw [h]

lemma heldByReserve_congr(h:s'.completionReserveHolds=s.completionReserveHolds):
  heldByReserve s'=heldByReserve s:=by
 funext cid c
 unfold heldByReserve
 rw [h]

lemma Rebalanced.heldTotal(h:Rebalanced s s')(b:String)(key:AmountKey):
  heldTotal s' b key=Budget.heldTotal s b key:=by
 unfold Budget.heldTotal
 rw [heldBudgetIds_congr h.reservationHolds,heldByReserve_congr h.completionReserveHolds,
  h.reservations,h.completionReserves]

variable {r:BudgetReservation} {status:ReservationStatus} {rid:String} {s₁:InMemoryBudgetLedger}

lemma heldTotal_setStatus(h:s.reservations[rid]?=some r)
  (hr:r.status=.reserved)(hne:status ≠ .reserved)(b:String)(key:AmountKey):
  heldTotal (setStatus s rid r status) b key =
   heldTotal s b key+if b∈heldBudgetIds s rid r then -amountOf r.amounts key else 0:=by
 have hcharge:chargedTo (heldBudgetIds s) (heldByReservation key) b
   (s.reservations.insert rid { r with status }) =
   chargedTo (heldBudgetIds s) (heldByReservation key) b s.reservations +
    if b∈heldBudgetIds s rid r then
     heldByReservation key rid { r with status } - heldByReservation key rid r else 0:=
  chargedTo_insert_bound h rfl fun _ _ _=>rfl
 have hholders:heldBudgetIds (setStatus s rid r status)=heldBudgetIds s:=rfl
 have hreserves:heldByReserve (setStatus s rid r status)=heldByReserve s:=rfl
 have hsame:(setStatus s rid r status).completionReserves=s.completionReserves:=rfl
 have hentries:(setStatus s rid r status).reservations =
   s.reservations.insert rid { r with status }:=rfl
 unfold heldTotal
 rw [hholders,hreserves,hsame,hentries,hcharge,heldByReservation,if_neg hne,
  heldByReservation,if_pos hr]
 split <;>omega

lemma heldBudgetIds_addReservation(r:BudgetReservation)(held:List String)(rid:String)
  (r':BudgetReservation)(h:rid≠r.reservationId):
  heldBudgetIds (addReservation s r held) rid r'=heldBudgetIds s rid r':=by
 unfold heldBudgetIds addReservation
 simp only [lookup_insert_ne _ _ (Ne.symm h)]

lemma heldBudgetIds_added(r:BudgetReservation)(held:List String):
  heldBudgetIds (addReservation s r held) r.reservationId r=held:=by
 unfold heldBudgetIds addReservation
 simp only [lookup_insert_self,getD_some]

lemma charged_addReservation(held:List String)(weight:String→BudgetReservation→ℤ)
  (hfresh:s.reservations[r.reservationId]?=none)(b:String):
  chargedTo (heldBudgetIds (addReservation s r held)) weight b
   (addReservation s r held).reservations =
   chargedTo (heldBudgetIds s) weight b s.reservations +
    if b∈held then weight r.reservationId r else 0:=by
 have hcharge:chargedTo (heldBudgetIds (addReservation s r held)) weight b
   (s.reservations.insert r.reservationId r)=chargedTo (heldBudgetIds s) weight b s.reservations +
    if b∈heldBudgetIds (addReservation s r held) r.reservationId r then
     weight r.reservationId r else 0:=
  chargedTo_insert_fresh hfresh
   (fun rid r' hne=>heldBudgetIds_addReservation r held rid r' hne) (fun _ _ _=>rfl)
 rw [heldBudgetIds_added] at hcharge
 exact hcharge

lemma heldTotal_addReservation(held:List String)(hfresh:s.reservations[r.reservationId]?=none)
  (hr:r.status=.reserved)(b:String)(key:AmountKey):heldTotal (addReservation s r held) b key =
   heldTotal s b key+if b∈held then amountOf r.amounts key else 0:=by
 have hreserves:heldByReserve (addReservation s r held)=heldByReserve s:=rfl
 have hsame:(addReservation s r held).completionReserves=s.completionReserves:=rfl
 unfold heldTotal
 rw [charged_addReservation held _ hfresh,hreserves,hsame,heldByReservation,if_pos hr]
 split <;>omega

variable {cid:String} {c:CompletionReserve}

lemma heldTotal_setReserve(c':CompletionReserve)(h:s.completionReserves[cid]?=some c)
  (hc:c.status=.available)(hne:c'.status ≠ .available)(hid:c'.budgetId=c.budgetId)
  (b:String)(key:AmountKey):heldTotal (setReserve s cid c') b key =
   heldTotal s b key+if b∈heldByReserve s cid c then -amountOf c.amounts key else 0:=by
 have hsame:heldByReserve s cid c'=heldByReserve s cid c:=by
  unfold heldByReserve
  rw [hid]
 have hcharge:chargedTo (heldByReserve s) (heldForCompletion key) b
   (s.completionReserves.insert cid c') =
   chargedTo (heldByReserve s) (heldForCompletion key) b s.completionReserves +
    if b∈heldByReserve s cid c then
     heldForCompletion key cid c'-heldForCompletion key cid c else 0:=
  chargedTo_insert_bound h hsame fun _ _ _=>rfl
 have hholders:heldBudgetIds (setReserve s cid c')=heldBudgetIds s:=rfl
 have hreserves:heldByReserve (setReserve s cid c')=heldByReserve s:=rfl
 have hsame:(setReserve s cid c').reservations=s.reservations:=rfl
 have hentries:(setReserve s cid c').completionReserves=s.completionReserves.insert cid c':=rfl
 unfold heldTotal
 rw [hholders,hreserves,hsame,hentries,hcharge,heldForCompletion,if_neg hne,
  heldForCompletion,if_pos hc]
 split <;>omega

def addReserve (s:InMemoryBudgetLedger) (cid:String) (c:CompletionReserve)
  (held:List String) : InMemoryBudgetLedger :=
 { setReserve s cid c with completionReserveHolds:=s.completionReserveHolds.insert cid held }

lemma heldTotal_addReserve(held:List String)(hfresh:s.completionReserves[cid]?=none)
  (hc:c.status=.available)(b:String)(key:AmountKey):
  heldTotal (addReserve s cid c held) b key =
   heldTotal s b key+if b∈held then amountOf c.amounts key else 0:=by
 have hnew:heldByReserve (addReserve s cid c held) cid c=held:=by
  unfold heldByReserve addReserve
  simp only [lookup_insert_self,getD_some]
 have hold:∀cid' c',cid'≠cid →
   heldByReserve (addReserve s cid c held) cid' c'=heldByReserve s cid' c':=by
  intro cid' c' hne
  unfold heldByReserve addReserve
  simp only [lookup_insert_ne _ _ (Ne.symm hne)]
 have hcharge:chargedTo (heldByReserve (addReserve s cid c held)) (heldForCompletion key) b
   (s.completionReserves.insert cid c) =
   chargedTo (heldByReserve s) (heldForCompletion key) b s.completionReserves +
    if b∈heldByReserve (addReserve s cid c held) cid c then heldForCompletion key cid c else 0:=
  chargedTo_insert_fresh hfresh hold fun _ _ _=>rfl
 have hholders:heldBudgetIds (addReserve s cid c held)=heldBudgetIds s:=rfl
 have hsame:(addReserve s cid c held).reservations=s.reservations:=rfl
 have hentries:(addReserve s cid c held).completionReserves=s.completionReserves.insert cid c:=rfl
 unfold heldTotal
 rw [hholders,hsame,hentries,hcharge,hnew,heldForCompletion,if_pos hc]
 split <;>omega

def StatusFree (weight:String→BudgetReservation→ℤ) : Prop :=
 ∀rid r status,weight rid { r with status } = weight rid r

/-- The charges of settled amounts are the same in both ledgers. -/
def SettledKept (s s':InMemoryBudgetLedger) : Prop :=
 ∀weight : String→BudgetReservation→ℤ,StatusFree weight →
  (∀rid r,s.reservations[rid]?=none→weight rid r=0) → ∀b,
  chargedTo (heldBudgetIds s') weight b s'.reservations =
   chargedTo (heldBudgetIds s) weight b s.reservations

lemma charged_setStatus(h:s.reservations[rid]?=some r){weight weight':String→BudgetReservation→ℤ}
  (hw:∀rid' r',rid'≠rid→weight' rid' r'=weight rid' r')(b:String):
  chargedTo (heldBudgetIds (setStatus s rid r status)) weight' b
   (setStatus s rid r status).reservations =
   chargedTo (heldBudgetIds s) weight b s.reservations +
    if b∈heldBudgetIds s rid r then weight' rid { r with status } - weight rid r else 0:=
 chargedTo_insert_bound h rfl hw

lemma settledKept_setStatus(h:s.reservations[rid]?=some r):
  SettledKept s (setStatus s rid r status):=by
 intro weight hfree _ b
 rw [charged_setStatus h (fun _ _ _=>rfl),hfree rid r status,sub_self]
 split <;>exact add_zero _

lemma settledKept_addReservation(held:List String)(hfresh:s.reservations[r.reservationId]?=none):
  SettledKept s (addReservation s r held):=by
 intro weight _ hzero b
 rw [charged_addReservation held weight hfresh,hzero _ r hfresh]
 split <;>exact add_zero _

lemma settledKept_of_eq(hr:s'.reservations=s.reservations)
  (hh:s'.reservationHolds=s.reservationHolds):SettledKept s s':=by
 intro weight _ _ b
 rw [hr,heldBudgetIds_congr hh]

lemma SettledKept.rebalanced(h:SettledKept s₁ s')
  (hr:s₁.reservations=s.reservations)(hh:s₁.reservationHolds=s.reservationHolds):
  SettledKept s s':=by
 intro weight hfree hzero b
 rw [h weight hfree (hr▸hzero) b,hr,heldBudgetIds_congr hh]

lemma statusFree_actualAmount(key:AmountKey):StatusFree (actualAmount actuals key):=
 fun _ _ _=>rfl

lemma statusFree_excessAmount(key:AmountKey):StatusFree (excessAmount actuals key):=
 fun _ _ _=>rfl

lemma Conserved.uncommitted(h:Conserved actuals s)(hzero:commitCount s rid=0):actuals rid=[]:=by
 have hlen:=h.counted rid
 rw [hzero] at hlen
 exact length_eq_zero_iff.mp hlen

lemma Conserved.unknown(h:Conserved actuals s)(hnone:s.reservations[rid]?=none):actuals rid=[]:=by
 apply h.uncommitted
 rw [commitCount,hnone]
 rfl

/-- A change of the holds that the reserved balances follow; nothing is committed. -/
structure Reheld (s s':InMemoryBudgetLedger) (change:String→AmountKey→ℤ) : Prop where
 accounts:∀b : String,s'.accounts.contains b=s.accounts.contains b
 allocated:s'.allocated=s.allocated
 committed:s'.committed=s.committed
 overdraft:s'.overdraft=s.overdraft
 balances:∀(b:String) m,s'.reserved[b]?=some m→IsBalance m
 reserved:∀b key,balanceAt s'.reserved b key=balanceAt s.reserved b key+change b key
 held:∀b key,heldTotal s' b key=heldTotal s b key+change b key
 settled:SettledKept s s'
 counts:∀rid,commitCount s' rid=commitCount s rid

variable {change:String→AmountKey→ℤ}

lemma Conserved.reheld(h:Conserved actuals s)(hr:Reheld s s' change)
  (hwithin:∀b,s.accounts.contains b=true→∀key,
   balanceAt s.reserved b key+change b key+balanceAt s.committed b key -
    balanceAt s.overdraft b key≤balanceAt s.allocated b key):
  Conserved actuals s':=by
 refine ⟨⟨hr.balances,?_,?_,?_,?_⟩,?_,?_,?_⟩
 · rw [hr.committed]
   exact h.balanced.committedBalance
 · rw [hr.overdraft]
   exact h.balanced.overdraftBalance
 · intro b hb key
   rw [hr.accounts] at hb
   rw [hr.reserved,hr.held,h.balanced.held b hb]
 · intro b hb key
   rw [hr.accounts] at hb
   rw [hr.reserved,hr.committed,hr.overdraft,hr.allocated]
   exact hwithin b hb key
 · intro rid
   rw [hr.counts,h.counted]
 · intro b hb key
   rw [hr.accounts] at hb
   rw [hr.committed,h.committed b hb,hr.settled _ (statusFree_actualAmount key)]
   intro rid r hnone
   rw [actualAmount,h.unknown hnone]
   rfl
 · intro b hb key
   rw [hr.accounts] at hb
   rw [hr.overdraft,h.overdraft b hb,hr.settled _ (statusFree_excessAmount key)]
   intro rid r hnone
   rw [excessAmount,h.unknown hnone]
   rfl

lemma Conserved.lowered(h:Conserved actuals s)
  (hr:Reheld s s' change)(hle:∀b key,change b key≤0):Conserved actuals s':=by
 refine h.reheld hr fun b hb key=>?_
 have h₁:=h.balanced.within b hb key
 have h₂:=hle b key
 omega

lemma commitCount_setStatus(h:s.reservations[rid]?=some r)
  (hr:r.status ≠ .committed)(hne:status ≠ .committed)(rid':String):
  commitCount (setStatus s rid r status) rid'=commitCount s rid':=by
 unfold commitCount setStatus
 simp only [lookup_insert]
 split
 · next hid=>
   subst hid
   simp [h,hr,hne]
 · rfl

lemma commitCount_addReservation(held:List String)
  (hfresh:s.reservations[r.reservationId]?=none)(hr:r.status=.reserved)(rid:String):
  commitCount (addReservation s r held) rid=commitCount s rid:=by
 unfold commitCount addReservation
 simp only [lookup_insert]
 split
 · next hid=>
   subst hid
   simp [hfresh,hr]
 · rfl

lemma commitCount_congr(h:s'.reservations=s.reservations)(rid:String):
  commitCount s' rid=commitCount s rid:=by
 unfold commitCount
 rw [h]

lemma balanceAt_nonneg{balances:StringMap AmountMap}
  (h:∀(b:String) m,balances[b]?=some m→IsBalance m)(b:String)(key:AmountKey):
  0≤balanceAt balances b key:=by
 unfold balanceAt
 cases hb:balances[b]? with
 | none=>exact Int.le_refl 0
 | some m=>exact ((h b m hb).range key).1

variable {b:String}

lemma HoldChecked.within(hb:Balanced s){budgetId:String}{amounts:List UsageAmount}
  {plan:HoldPlan}(h:HoldChecked s budgetId amounts plan)(hk:s.accounts.contains b=true)
  (key:AmountKey):
  balanceAt s.reserved b key + (if b∈plan.heldBudgetIds then amountAt plan.requested key else 0) +
   balanceAt s.committed b key-balanceAt s.overdraft b key≤balanceAt s.allocated b key:=by
 have hold:=hb.within b hk key
 have hover:=balanceAt_nonneg hb.overdraftBalance b key
 split
 · next hmem=>
   obtain ⟨al,re,co,hal,hre,hco,hfits⟩:=ensureAvailable_ok h.available b hmem
   have h₁:=hfits key
   have h₂:=(available_le al re co key).1
   rw [balanceAt_of_lookup hre,balanceAt_of_lookup hco,balanceAt_of_lookup hal] at hold ⊢
   omega
 · omega

section
variable (h:Conserved actuals s)
include h

lemma Conserved.reserved{request:ReservationRequest}{plan:HoldPlan}{n k:ℕ}
  (hc:HoldChecked s request.budgetId request.amounts plan)
  (hfresh:s.reservations[rid]?=none)
  (hu:HeldUpdate (addAmounts · plan.requested) plan.heldBudgetIds
   { s with reservationCounter:=n,fencingCounter:=k } s₁):
  Conserved actuals
   (addReservation s₁ (reservationOf request rid plan.requested k) plan.heldBudgetIds):=by
 have hframe:=hu.rebalanced
 have hfresh₁:s₁.reservations[rid]?=none:=by
  rw [hframe.reservations]
  exact hfresh
 obtain ⟨hbal,hadd⟩:=hu.added h.balanced.reservedBalance hc.balance
 refine h.reheld ?_ fun b hk key=>hc.within h.balanced hk key
 refine ⟨hframe.contains,hframe.allocated,?_,?_,hbal,hadd,?_,?_,?_⟩
 · exact hu.settled.1
 · exact hu.settled.2
 · intro b key
   rw [heldTotal_addReservation _ hfresh₁ rfl,hframe.heldTotal]
   simp only [reservationOf,amountOf_mapToAmounts hc.balance]
   rfl
 · exact (settledKept_addReservation _ hfresh₁).rebalanced hframe.reservations
    hframe.reservationHolds
 · intro rid'
   rw [commitCount_addReservation _ hfresh₁ rfl]
   exact commitCount_congr hframe.reservations rid'

lemma Conserved.reserveCreated{request:ReserveRequest}{plan:HoldPlan}{k:ℕ}
  (hfresh:s.completionReserves[request.reserveId]?=none)
  (hc:HoldChecked s request.budgetId request.amounts plan)
  (hu:HeldUpdate (addAmounts · plan.requested) plan.heldBudgetIds
   { s with fencingCounter:=k } s₁):
  Conserved actuals (addReserve s₁ request.reserveId (reserveOf request plan.requested k)
   plan.heldBudgetIds):=by
 have hframe:=hu.rebalanced
 have hfresh₁:s₁.completionReserves[request.reserveId]?=none:=by
  rw [hframe.completionReserves]
  exact hfresh
 obtain ⟨hbal,hadd⟩:=hu.added h.balanced.reservedBalance hc.balance
 refine h.reheld ?_ fun b hk key=>hc.within h.balanced hk key
 refine ⟨hframe.contains,hframe.allocated,?_,?_,hbal,hadd,?_,?_,?_⟩
 · exact hu.settled.1
 · exact hu.settled.2
 · intro b key
   rw [heldTotal_addReserve _ hfresh₁ rfl,hframe.heldTotal]
   simp only [reserveOf,amountOf_mapToAmounts hc.balance]
   rfl
 · exact settledKept_of_eq hframe.reservations hframe.reservationHolds
 · exact commitCount_congr hframe.reservations

lemma Conserved.released(hw:WellFormed s){plan:ReleasePlan}
  (hstatus:status ≠ .reserved∧status ≠ .committed)(hc:ReleaseChecked s rid plan)
  (hu:HeldUpdate (subtractAmounts · plan.reserved) plan.heldBudgetIds s s₁):
  Conserved actuals (setStatus s₁ rid plan.reservation status):=by
 have hframe:=hu.rebalanced
 have hfound₁:s₁.reservations[rid]?=some plan.reservation:=by
  rw [hframe.reservations]
  exact hc.found
 have hamount:∀key,amountOf plan.reservation.amounts key=amountAt plan.reserved key:=by
  intro key
  rw [hc.amounts,amountOf_mapToAmounts hc.balance]
 obtain ⟨hbal,hsub⟩:=hu.subtracted h.balanced.reservedBalance hc.balance (by
  intro b hmem key
  rw [←hamount]
  exact reservation_covered hw h.balanced hc.found hc.status (hc.held▸hmem) key)
 have hlower:∀b key,(if b∈plan.heldBudgetIds then -amountAt plan.reserved key else 0)≤0:=by
  intro b key
  have:=(hc.balance.range key).1
  split <;>omega
 refine h.lowered ?_ hlower
 · refine ⟨hframe.contains,hframe.allocated,?_,?_,hbal,?_,?_,?_,?_⟩
   · exact hu.settled.1
   · exact hu.settled.2
   · exact hsub
   · intro b key
     rw [heldTotal_setStatus hfound₁ hc.status hstatus.1,hframe.heldTotal,hamount,
      heldBudgetIds_congr hframe.reservationHolds,←hc.held]
   · exact (settledKept_setStatus hfound₁).rebalanced hframe.reservations
      hframe.reservationHolds
   · intro rid'
     rw [commitCount_setStatus hfound₁ (by rw [hc.status];decide) hstatus.2]
     exact commitCount_congr hframe.reservations rid'

lemma Conserved.reserveSettled(hw:WellFormed s)
  {plan:SettleReservePlan}{status:CompletionReserveStatus}
  (hstatus:status ≠ .available)(hc:SettleReserveChecked s cid plan)
  (hu:HeldUpdate (subtractAmounts · plan.reserved) plan.heldBudgetIds s s₁):
  Conserved actuals (setReserve s₁ cid { plan.reserve with status }):=by
 have hframe:=hu.rebalanced
 have hfound₁:s₁.completionReserves[cid]?=some plan.reserve:=by
  rw [hframe.completionReserves]
  exact hc.found
 have hamount:∀key,amountOf plan.reserve.amounts key=amountAt plan.reserved key:=by
  intro key
  rw [hc.amounts,amountOf_mapToAmounts hc.balance]
 obtain ⟨hbal,hsub⟩:=hu.subtracted h.balanced.reservedBalance hc.balance (by
  intro b hmem key
  rw [←hamount]
  exact reserve_covered hw h.balanced hc.found hc.status (hc.held▸hmem) key)
 have hlower:∀b key,(if b∈plan.heldBudgetIds then -amountAt plan.reserved key else 0)≤0:=by
  intro b key
  have:=(hc.balance.range key).1
  split <;>omega
 refine h.lowered ?_ hlower
 · refine ⟨hframe.contains,hframe.allocated,?_,?_,hbal,?_,?_,?_,?_⟩
   · exact hu.settled.1
   · exact hu.settled.2
   · exact hsub
   · intro b key
     rw [heldTotal_setReserve { plan.reserve with status } hfound₁ hc.status hstatus rfl,
      hframe.heldTotal,hamount,
      heldByReserve_congr hframe.completionReserveHolds,←hc.held]
   · exact settledKept_of_eq hframe.reservations hframe.reservationHolds
   · exact commitCount_congr hframe.reservations

lemma Conserved.reserveSpent{spender expiresAt:String}{n:ℕ}
  (hfound:s.completionReserves[cid]?=some c)(hstatus:c.status=.available)
  (hfresh:s.reservations[rid]?=none):
  Conserved actuals (setReserve (addReservation { s with reservationCounter:=n }
    (spentReservation c rid spender expiresAt) (heldByReserve s cid c))
   cid { c with status:=.spent,reservationId:=some rid }):=by
 have hlower:∀(_:String) (_:AmountKey),(0:ℤ)≤0:=fun _ _=>Int.le_refl 0
 refine h.lowered ?_ hlower
 refine ⟨fun _=>rfl,rfl,rfl,rfl,h.balanced.reservedBalance,fun b key=>?_,fun b key=>?_,?_,?_⟩
 · exact (add_zero _).symm
 · have hmoved:=heldTotal_setReserve { c with status:=.spent,reservationId:=some rid }
    (s:=addReservation { s with reservationCounter:=n }
     (spentReservation c rid spender expiresAt) (heldByReserve s cid c))
    hfound hstatus nofun rfl b key
   have hadded:=heldTotal_addReservation (s:={ s with reservationCounter:=n })
    (r:=spentReservation c rid spender expiresAt) (heldByReserve s cid c) hfresh rfl b key
   have hheld:heldByReserve (addReservation { s with reservationCounter:=n }
     (spentReservation c rid spender expiresAt) (heldByReserve s cid c)) cid c =
     heldByReserve s cid c:=rfl
   have htotal:heldTotal { s with reservationCounter:=n } b key=heldTotal s b key:=rfl
   rw [hmoved,hadded,hheld,htotal]
   simp only [spentReservation]
   split <;>omega
 · exact settledKept_addReservation _ hfresh
 · intro rid'
   exact commitCount_addReservation (heldByReserve s cid c) hfresh rfl rid'

end

lemma chargedTo_unheld{α:Type}{holders:String→α→List String}{weight:String→α→ℤ}
  {entries:StringMap α}(h:∀id a,entries[id]?=some a→b∉holders id a):
  chargedTo holders weight b entries=0:=by
 refine (sumOf_congr ?_).trans (sumOf_zero entries)
 intro id a ha
 exact if_neg (h id a ha)

lemma WellFormed.unheld(hw:WellFormed s)(hb:s.accounts.contains b=false)
  (weight:String→BudgetReservation→ℤ):chargedTo (heldBudgetIds s) weight b s.reservations=0:=by
 apply chargedTo_unheld
 intro rid r hr hmem
 have hknown:=(hw.holds hr).2.known b hmem
 rw [hb] at hknown
 cases hknown

lemma WellFormed.heldTotal_eq_zero(hw:WellFormed s)(hb:s.accounts.contains b=false)
  (key:AmountKey):heldTotal s b key=0:=by
 have hreserves:chargedTo (heldByReserve s) (heldForCompletion key) b s.completionReserves=0:=by
  apply chargedTo_unheld
  intro cid c hc hmem
  have hknown:=(hw.heldReserve hc).2.known b hmem
  rw [hb] at hknown
  cases hknown
 rw [heldTotal,hw.unheld hb,hreserves,add_zero]

lemma Conserved.opened(h:Conserved actuals s)(hw:WellFormed s){account:BudgetAccount}
  {allocated:AmountMap}(hfresh:s.accounts.contains account.budgetId=false)
  (hbal:IsBalance allocated):Conserved actuals (openLedger s account allocated):=by
 have hknown:∀b,(openLedger s account allocated).accounts.contains b=true →
   account.budgetId≠b→s.accounts.contains b=true:=by
  intro b hb hne
  simpa [openLedger,ExtTreeMap.contains_insert,hne,LawfulEqCmp.compare_eq_iff_eq] using hb
 have hnew:∀(balances:StringMap AmountMap),(∀(b:String) m,balances[b]?=some m→IsBalance m) →
   ∀(b:String) m,(balances.insert account.budgetId ∅)[b]?=some m→IsBalance m:=by
  intro balances hall b m hm
  rw [lookup_insert] at hm
  split at hm
  · cases hm
    exact isBalance_empty
  · exact hall b m hm
 have hheld:∀b key,heldTotal (openLedger s account allocated) b key=heldTotal s b key:=fun _ _=>rfl
 refine ⟨⟨hnew _ h.balanced.reservedBalance,hnew _ h.balanced.committedBalance,
  hnew _ h.balanced.overdraftBalance,?_,?_⟩,h.counted,?_,?_⟩
 · intro b hb key
   rw [hheld,openLedger,balanceAt_insert]
   split
   · next hid=>rw [amountAt_empty,←hid,hw.heldTotal_eq_zero hfresh]
   · next hid=>exact h.balanced.held b (hknown b hb hid) key
 · intro b hb key
   simp only [openLedger,balanceAt_insert,amountAt_empty]
   split
   · have:=(hbal.range key).1
     omega
   · next hid=>exact h.balanced.within b (hknown b hb hid) key
 · intro b hb key
   rw [openLedger,balanceAt_insert]
   split
   · next hid=>
     rw [amountAt_empty,←hid]
     exact (hw.unheld hfresh _).symm
   · next hid=>exact h.committed b (hknown b hb hid) key
 · intro b hb key
   rw [openLedger,balanceAt_insert]
   split
   · next hid=>
     rw [amountAt_empty,←hid]
     exact (hw.unheld hfresh _).symm
   · next hid=>exact h.overdraft b (hknown b hb hid) key

def recordCommit (actuals:String→List (List UsageAmount)) (rid:String)
  (actual:List UsageAmount) (rid':String) : List (List UsageAmount) :=
 actuals rid'++if rid=rid' then [actual] else []

structure CommitChange (s s₁:InMemoryBudgetLedger) (held:List String)
  (plan:CommitPlan) : Prop where
 reserved:Moved held (fun key => -amountAt plan.reserved key) s.reserved s₁.reserved
 committed:Moved held (amountAt plan.actual) s.committed s₁.committed
 overdraft:Moved held (amountAt plan.overdraft) s.overdraft s₁.overdraft

section
variable {rid:String} {actual:List UsageAmount} {plan:CommitPlan} {n:ℕ} {s₁:InMemoryBudgetLedger}

lemma CommitDone.changed(hw:WellFormed s)(hb:Balanced s)(done:CommitDone s rid actual plan n s₁):
  CommitChange s s₁ (heldBudgetIds s rid plan.reservation) plan:=by
 have hc:=done.checked
 obtain ⟨hids,hbalances⟩:=updatedBalances_ok hc.balances
 have hexcess:=(excessAmounts_spec hc.actualBalance hc.reservedBalance).1
 rw [←hc.overdraft] at hexcess
 have hfound:∀b∈heldBudgetIds s rid plan.reservation,∃u∈plan.balances,u.budgetId=b:=by
  intro b hmem
  rw [←hids] at hmem
  exact List.mem_map.mp hmem
 have hout:=fun b (hb:b∉heldBudgetIds s rid plan.reservation)=>done.written.outside b (hids▸hb)
 have hcovered:∀b∈heldBudgetIds s rid plan.reservation,∀t,s.reserved[b]?=some t →
   ∀key,amountAt plan.reserved key≤amountAt t key:=by
  intro b hmem t ht key
  rw [←balanceAt_of_lookup ht,←amountOf_mapToAmounts hc.reservedBalance,←hc.amounts]
  exact reservation_covered hw hb hc.found hc.status hmem key
 refine ⟨?_,?_,?_⟩
 · refine moved_of_lookups hb.reservedBalance (fun b hmem=>?_) (fun b hb=>(hout b hb).1)
   obtain ⟨u,hu,rfl⟩:=hfound b hmem
   obtain ⟨t,ht,hsub⟩:=(hbalances u hu).reserved
   obtain ⟨hbal,hat⟩:=subtractAmounts_spec (hb.reservedBalance _ t ht) hc.reservedBalance
    (hcovered _ hmem t ht) hsub
   exact ⟨t,u.reserved,ht,(done.written.inside u hu).1,hbal,fun key=>by rw [hat,sub_eq_add_neg]⟩
 · refine moved_of_lookups hb.committedBalance (fun b hmem=>?_) (fun b hb=>(hout b hb).2.1)
   obtain ⟨u,hu,rfl⟩:=hfound b hmem
   obtain ⟨t,ht,hadd⟩:=(hbalances u hu).committed
   obtain ⟨hbal,hat⟩:=addAmounts_spec (hb.committedBalance _ t ht) hc.actualBalance hadd
   exact ⟨t,u.committed,ht,(done.written.inside u hu).2.1,hbal,hat⟩
 · refine moved_of_lookups hb.overdraftBalance (fun b hmem=>?_) (fun b hb=>(hout b hb).2.2)
   obtain ⟨u,hu,rfl⟩:=hfound b hmem
   obtain ⟨t,ht,hadd⟩:=(hbalances u hu).overdraft
   obtain ⟨hbal,hat⟩:=addAmounts_spec (hb.overdraftBalance _ t ht) hexcess hadd
   exact ⟨t,u.overdraft,ht,(done.written.inside u hu).2.2,hbal,hat⟩

lemma recordCommit_other{rid':String}(h:rid'≠rid):
  recordCommit actuals rid actual rid'=actuals rid':=by
 rw [recordCommit,if_neg (Ne.symm h),append_nil]

lemma recordCommit_first(h:actuals rid=[]):recordCommit actuals rid actual rid=[actual]:=by
 rw [recordCommit,if_pos rfl,h,nil_append]

lemma CommitDone.conserved(hw:WellFormed s)(h:Conserved actuals s)
  (done:CommitDone s rid actual plan n s₁):
  Conserved (recordCommit actuals rid actual)
   (setStatus s₁ rid plan.reservation .committed):=by
 have hc:=done.checked
 have hchange:=done.changed hw h.balanced
 have hframe:=done.rebalanced hw
 have hfound₁:s₁.reservations[rid]?=some plan.reservation:=by
  rw [hframe.reservations]
  exact hc.found
 have hholders:=heldBudgetIds_congr hframe.reservationHolds
 have hnil:actuals rid=[]:=by
  apply h.uncommitted
  simp [commitCount,hc.found,hc.status]
 have hamount:∀key,amountOf plan.reservation.amounts key=amountAt plan.reserved key:=by
  intro key
  rw [hc.amounts,amountOf_mapToAmounts hc.reservedBalance]
 have hactual:∀key,amountOf actual key=amountAt plan.actual key:=fun key=>
  (amountAt_amountsToMap hc.valid hc.actual key).symm
 have hexcess:∀key,amountAt plan.overdraft key =
   max 0 (amountAt plan.actual key-amountAt plan.reserved key):=by
  rw [hc.overdraft]
  exact (excessAmounts_spec hc.actualBalance hc.reservedBalance).2
 have hknown:∀b,s₁.accounts.contains b=true→s.accounts.contains b=true:=by
  intro b hb
  rwa [hframe.contains] at hb
 refine ⟨⟨hchange.reserved.balances,hchange.committed.balances,hchange.overdraft.balances,
  ?_,?_⟩,?_,?_,?_⟩
 · intro b hb key
   rw [heldTotal_setStatus hfound₁ hc.status (by decide),hframe.heldTotal,hholders,hamount,
    ← h.balanced.held b (hknown b hb)]
   exact hchange.reserved.moved b key
 · intro b hb key
   have hwithin:=h.balanced.within b (hknown b hb) key
   have h₁:=hchange.reserved.moved b key
   have h₂:=hchange.committed.moved b key
   have h₃:=hchange.overdraft.moved b key
   rw [hexcess] at h₃
   change balanceAt s₁.reserved b key+balanceAt s₁.committed b key -
    balanceAt s₁.overdraft b key≤balanceAt s₁.allocated b key
   rw [h₁,h₂,h₃,hframe.allocated]
   split <;>omega
 · intro rid'
   by_cases hid:rid'=rid
   · subst hid
     rw [recordCommit_first hnil]
     simp [commitCount,setStatus]
   · rw [recordCommit_other hid,h.counted,commitCount,commitCount,setStatus]
     simp only [lookup_insert_ne _ _ (Ne.symm hid),hframe.reservations]
 · intro b hb key
   have hother:∀rid' r',rid'≠rid →
     actualAmount (recordCommit actuals rid actual) key rid' r'=actualAmount actuals key rid' r':=by
    intro rid' r' hne
    rw [actualAmount,recordCommit_other hne,actualAmount]
   rw [charged_setStatus hfound₁ hother,hholders,hframe.reservations,←h.committed b (hknown b hb)]
   simp only [actualAmount,recordCommit_first hnil,hnil,map_cons,map_nil,
    sum_cons,sum_nil,hactual,add_zero,sub_zero]
   exact hchange.committed.moved b key
 · intro b hb key
   have hother:∀rid' r',rid'≠rid →
     excessAmount (recordCommit actuals rid actual) key rid' r'=excessAmount actuals key rid' r':=by
    intro rid' r' hne
    rw [excessAmount,recordCommit_other hne,excessAmount]
   rw [charged_setStatus hfound₁ hother,hholders,hframe.reservations,←h.overdraft b (hknown b hb)]
   simp only [excessAmount,recordCommit_first hnil,hnil,map_cons,map_nil,
    sum_cons,sum_nil,hactual,hamount,add_zero,sub_zero,←hexcess]
   exact hchange.overdraft.moved b key
end

lemma Conserved.withPermits(h:Conserved actuals s)(permits:StringMap BudgetPermit)
  (spent:StringMap AmountMap):Conserved actuals { s with permits:=permits,permitSpent:=spent }:=
 ⟨⟨h.balanced.reservedBalance,h.balanced.committedBalance,h.balanced.overdraftBalance,
  h.balanced.held,h.balanced.within⟩,h.counted,h.committed,h.overdraft⟩

lemma Conserved.counters(h:Conserved actuals s)(n k:ℕ):
  Conserved actuals { s with reservationCounter:=n,fencingCounter:=k }:=
 ⟨⟨h.balanced.reservedBalance,h.balanced.committedBalance,h.balanced.overdraftBalance,
  h.balanced.held,h.balanced.within⟩,h.counted,h.committed,h.overdraft⟩

lemma actualsOf_concat(past:List LedgerTransition)(t:LedgerTransition)(rid:String):
  actualsOf (past++[t]) rid=actualsOf past rid++(commitActualOf rid t).toList:=
 filterMap_concat _ _ _

variable {past:List LedgerTransition}

lemma actualsOf_kept{t:LedgerTransition}(h:∀rid,commitActualOf rid t=none):
  actualsOf (past++[t])=actualsOf past:=by
 funext rid
 rw [actualsOf_concat,h]
 exact append_nil _

lemma actualsOf_recorded{t:LedgerTransition}{actual:List UsageAmount}
  (h:∀rid',commitActualOf rid' t=if rid=rid' then some actual else none):
  actualsOf (past++[t])=recordCommit (actualsOf past) rid actual:=by
 funext rid'
 rw [actualsOf_concat,h,recordCommit]
 split <;>rfl

lemma Effect.conserved(hw:WellFormed s)(h:Conserved (actualsOf past) s){call:Call}
  {r:Except BudgetError Response}(he:Effect s call r s')(hf:∀e,r=.error e→Failed s call s'):
  Conserved (actualsOf (past++[⟨s,call,r,s'⟩])) s':=by
 cases he with
 | refused frame=>
  rw [actualsOf_kept fun _=>rfl]
  cases hf _ rfl with
  | unchanged _=>exact h
  | advanced _ _=>exact h.counters _ _
 | read reads _=>
  rw [actualsOf_kept fun rid=>by cases call <;>first | rfl | cases reads]
  exact h
 | opened fresh _ balance=>
  rw [actualsOf_kept fun _=>rfl]
  exact h.opened hw fresh balance
 | reserved checked _ fresh update=>
  rw [actualsOf_kept fun _=>rfl]
  exact h.reserved checked fresh update
 | committed direct done=>
  rw [actualsOf_recorded fun rid'=>by cases direct <;>rfl]
  exact done.conserved hw h
 | permitCommitted permit _ done _ _=>
  rw [actualsOf_recorded fun rid'=>by cases permit <;>rfl]
  exact (done.conserved hw h).withPermits _ _
 | released releases checked update=>
  rw [actualsOf_kept fun rid'=>by cases releases <;>rfl]
  exact h.released hw (by cases releases <;>decide) checked update
 | permitIssued _ _ _=>
  rw [actualsOf_kept fun _=>rfl]
  exact h.withPermits _ _
 | reserveCreated fresh checked update=>
  rw [actualsOf_kept fun _=>rfl,←update.rebalanced.completionReserveHolds]
  exact h.reserveCreated fresh checked update
 | reserveSpent found status fresh _=>
  rw [actualsOf_kept fun _=>rfl]
  exact h.reserveSpent found status fresh
 | reserveSettled settles checked update=>
  rw [actualsOf_kept fun rid'=>by cases settles <;>rfl]
  exact h.reserveSettled hw (by cases settles <;>decide) checked update

/-- Every call of the run finds revisions left on the accounts it would write. -/
def RevisionsSuffice (calls:List Call) : Prop :=
 ∀before call after,calls=before++call::after→RevisionsLeft (execute step .new before) call

lemma RevisionsSuffice.initial{calls:List Call}{call:Call}
  (h:RevisionsSuffice (calls++[call])):RevisionsSuffice calls:=by
 intro before call' after hcalls
 exact h before call' (after++[call]) (by simp [hcalls])

lemma history_conserved(calls:List Call)(hr:RevisionsSuffice calls):
  Conserved (actualsOf (history step .new calls)) (execute step .new calls):=by
 induction calls using List.reverseRecOn with
 | nil=>exact conserved_new
 | append_singleton calls call ih=>
  have h:=ih hr.initial
  have hw:=execute_wellFormed calls
  rw [history_concat,execute_concat]
  exact (step_effect hw call).conserved hw h fun e he=>
   step_failed hw h.balanced (hr calls call [] rfl) he

end GraphBlocks.Budget
