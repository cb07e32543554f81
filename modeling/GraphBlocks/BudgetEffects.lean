import GraphBlocks.BudgetChains

/-! `WellFormed` holds in every state of every run. -/
namespace GraphBlocks.Budget
open Std OrderedMap RustStd Usage

structure HeldAmounts (accounts:StringMap BudgetAccount) (amounts:List UsageAmount)
  (budgetId:String) (held:List String) : Prop where
 nodup:held.Nodup
 known:∀b∈held,accounts.contains b=true
 owner:budgetId∈held
 amounts:∃m,IsBalance m∧amounts=mapToAmounts m

structure Authorized (permitSpent:StringMap AmountMap) (permitId:String)
  (permit:BudgetPermit) : Prop where
 within:∃authorized spent,IsBalance authorized ∧
  permit.authorizedAmounts=mapToAmounts authorized∧permitSpent[permitId]?=some spent ∧
  IsBalance spent ∧ ∀key,amountAt spent key≤amountAt authorized key

structure WellFormed (s:InMemoryBudgetLedger) : Prop where
 allocated:∀b,s.accounts.contains b=true→s.allocated.contains b=true
 reserved:∀b,s.accounts.contains b=true→s.reserved.contains b=true
 committed:∀b,s.accounts.contains b=true→s.committed.contains b=true
 overdraft:∀b,s.accounts.contains b=true→s.overdraft.contains b=true
 allocations:∀(b:String) m,s.allocated[b]?=some m→IsBalance m
 reservations:∀(rid:String) r,s.reservations[rid]?=some r →
  ∃held,s.reservationHolds[rid]?=some held∧HeldAmounts s.accounts r.amounts r.budgetId held
 reserves:∀(cid:String) c,s.completionReserves[cid]?=some c →
  ∃held,s.completionReserveHolds[cid]?=some held∧HeldAmounts s.accounts c.amounts c.budgetId held
 permits:∀(pid:String) p,s.permits[pid]?=some p→Authorized s.permitSpent pid p

lemma new_wellFormed:WellFormed .new:=by
 have hnone:∀{α:Type} (k:String) (a:α),(∅:StringMap α)[k]?=some a→False:=by
  intro α k a h
  rw [ExtTreeMap.getElem?_empty] at h
  cases h
 have hfalse:∀b,(InMemoryBudgetLedger.new).accounts.contains b=true→False:=by
  intro b h
  obtain ⟨a,ha⟩:=(contains_iff _).mp h
  exact hnone b a ha
 exact ⟨fun b h=>(hfalse b h).elim,fun b h=>(hfalse b h).elim,
  fun b h=>(hfalse b h).elim,fun b h=>(hfalse b h).elim,
  fun b m h=>(hnone b m h).elim,fun b m h=>(hnone b m h).elim,
  fun b m h=>(hnone b m h).elim,fun b m h=>(hnone b m h).elim⟩

variable {amounts:List UsageAmount} {held:List String}

section
variable {s s':InMemoryBudgetLedger}

lemma HeldAmounts.mono{b:String}(h:HeldAmounts s.accounts amounts b held)
  (hc:∀b,s.accounts.contains b=true→s'.accounts.contains b=true):
  HeldAmounts s'.accounts amounts b held:=
 ⟨h.nodup,fun b hb=>hc b (h.known b hb),h.owner,h.amounts⟩

lemma WellFormed.rebalanced(h:WellFormed s)(hr:Rebalanced s s'):WellFormed s':=by
 have hc:∀b,s.accounts.contains b=true→s'.accounts.contains b=true:=by
  intro b hb
  rw [hr.contains,hb]
 have hc':∀b,s'.accounts.contains b=true→s.accounts.contains b=true:=by
  intro b hb
  rwa [hr.contains] at hb
 refine ⟨?_,?_,?_,?_,?_,?_,?_,?_⟩
 · intro b hb
   rw [hr.allocated]
   exact h.allocated b (hc' b hb)
 · intro b hb
   rw [hr.reserved]
   exact h.reserved b (hc' b hb)
 · intro b hb
   rw [hr.committed]
   exact h.committed b (hc' b hb)
 · intro b hb
   rw [hr.overdraft]
   exact h.overdraft b (hc' b hb)
 · intro b m hm
   rw [hr.allocated] at hm
   exact h.allocations b m hm
 · intro rid r hr'
   rw [hr.reservations] at hr'
   obtain ⟨held,hheld,ham⟩:=h.reservations rid r hr'
   exact ⟨held,by rw [hr.reservationHolds,hheld],ham.mono hc⟩
 · intro cid c hc₁
   rw [hr.completionReserves] at hc₁
   obtain ⟨held,hheld,ham⟩:=h.reserves cid c hc₁
   exact ⟨held,by rw [hr.completionReserveHolds,hheld],ham.mono hc⟩
 · intro pid p hp
   rw [hr.permits] at hp
   obtain ⟨authorized,spent,h₁,h₂,h₃,h₄⟩:=(h.permits pid p hp).within
   exact ⟨authorized,spent,h₁,h₂,by rw [hr.permitSpent,h₃],h₄⟩
end

variable {s s':InMemoryBudgetLedger}

lemma ensureAvailable_ok{requested:AmountMap}(h:ensureAvailable s requested held=.ok ()):
  ∀b∈held,∃allocated reserved committed,s.allocated[b]?=some allocated ∧
   s.reserved[b]?=some reserved∧s.committed[b]?=some committed ∧
   ∀key,amountAt requested key≤amountAt (availableAmounts allocated reserved committed) key:=by
 induction held with
 | nil=>simp
 | cons id ids ih=>
  rw [ensureAvailable] at h
  split at h
  · cases h
  · next available hav=>
    split at h
    · cases h
    · next hkey=>
      intro b hb
      rcases List.mem_cons.mp hb with rfl|hb
      · unfold availableMap at hav
        split at hav
        · cases hav
        · next allocated hal=>
          simp only [bind_ok,balanceMap_ok] at hav
          obtain ⟨reserved,hr,committed,hc,hav⟩:=hav
          cases hav
          refine ⟨allocated,reserved,committed,hal,hr,hc,?_⟩
          exact (exceededKey_none_iff
           (fun key=>(available_le allocated reserved committed key).2)).mp hkey
      · exact ih h b hb

variable {rid:String}

lemma reservedReservation_ok{r:BudgetReservation}(h:reservedReservation s rid=.ok r):
  s.reservations[rid]?=some r∧r.status=.reserved:=by
 unfold reservedReservation at h
 split at h
 · cases h
 · next r' hr=>
   split at h
   · cases h
   · next hs=>
     cases h
     exact ⟨hr,not_not.mp hs⟩

variable {c:CompletionReserve} {cid:String}

lemma availableReserve_ok(h:availableReserve s cid=.ok c):
  s.completionReserves[cid]?=some c∧c.status=.available:=by
 unfold availableReserve at h
 split at h
 · cases h
 · next c' hc=>
   split at h
   · cases h
   · next hs=>
     cases h
     exact ⟨hc,not_not.mp hs⟩

/-- A request that passed its checks: a balance, and a chain that can hold it. -/
structure HoldChecked (s:InMemoryBudgetLedger) (budgetId:String) (amounts:List UsageAmount)
  (plan:HoldPlan) : Prop where
 valid:ValidAmounts amounts
 map:amountsToMap amounts=.ok plan.requested
 balance:IsBalance plan.requested
 chain:budgetChain s.accounts budgetId=.ok plan.heldBudgetIds
 available:ensureAvailable s plan.requested plan.heldBudgetIds=.ok ()

variable {plan:HoldPlan}

lemma HoldChecked.heldAmounts{b:String}(h:HoldChecked s b amounts plan):
  HeldAmounts s.accounts (mapToAmounts plan.requested) b plan.heldBudgetIds:=by
 obtain ⟨h₁,h₂,h₃⟩:=budgetChain_ok h.chain
 exact ⟨h₁,h₂,h₃,plan.requested,h.balance,rfl⟩

lemma holdChecked_of{budgetId:String}{requested:AmountMap}
  (hv:validateUsageAmounts amounts=.ok ())(hm:amountsToMap amounts=.ok requested)
  (hc:budgetChain s.accounts budgetId=.ok held)(ha:ensureAvailable s requested held=.ok ()):
  HoldChecked s budgetId amounts ⟨requested,held⟩:=by
 have hvalid:=(validateUsageAmounts_ok_iff amounts).mp hv
 obtain ⟨m,hm',hbal,-⟩:=amountsToMap_ok hvalid
 rw [hm'] at hm
 cases hm
 exact ⟨hvalid,hm',hbal,hc,ha⟩

lemma reserveChecks_ok{budgetId:String}
  (h:reserveChecks s budgetId amounts=.ok plan):HoldChecked s budgetId amounts plan:=by
 simp only [reserveChecks,bind_ok] at h
 obtain ⟨_,_,_,hv,requested,hm,held,hc,_,ha,h⟩:=h
 cases h
 exact holdChecked_of hv hm hc ha

lemma completionReserveChecks_ok{request:ReserveRequest}
  (h:completionReserveChecks s request=.ok plan):
  s.completionReserves[request.reserveId]?=none ∧
   HoldChecked s request.budgetId request.amounts plan:=by
 simp only [completionReserveChecks,bind_ok,ensure_ok] at h
 obtain ⟨_,hfree,_,_,_,hv,requested,hm,_,_,held,hc,_,ha,h⟩:=h
 cases h
 refine ⟨?_,holdChecked_of hv hm hc ha⟩
 rw [←contains_eq_false_iff]
 simpa using hfree

lemma spendChecks_ok{spender:String}(h:spendChecks s cid spender=.ok c):
  s.completionReserves[cid]?=some c∧c.status=.available:=by
 simp only [spendChecks,bind_ok] at h
 obtain ⟨c',hc,_,_,h⟩:=h
 cases h
 exact availableReserve_ok hc

lemma WellFormed.holds{r:BudgetReservation}(hw:WellFormed s)(h:s.reservations[rid]?=some r):
  s.reservationHolds[rid]?=some (heldBudgetIds s rid r) ∧
   HeldAmounts s.accounts r.amounts r.budgetId (heldBudgetIds s rid r):=by
 obtain ⟨held,hheld,ham⟩:=hw.reservations rid r h
 have heq:heldBudgetIds s rid r=held:=by
  unfold heldBudgetIds
  rw [hheld]
  rfl
 rw [heq]
 exact ⟨hheld,ham⟩

lemma WellFormed.heldReserve(hw:WellFormed s)(h:s.completionReserves[cid]?=some c):
  s.completionReserveHolds[cid]?=some (heldByReserve s cid c) ∧
   HeldAmounts s.accounts c.amounts c.budgetId (heldByReserve s cid c):=by
 obtain ⟨held,hheld,ham⟩:=hw.reserves cid c h
 have heq:heldByReserve s cid c=held:=by
  unfold heldByReserve
  rw [hheld]
  rfl
 rw [heq]
 exact ⟨hheld,ham⟩

lemma HeldAmounts.map_eq{b:String}{m:AmountMap}(h:HeldAmounts s.accounts amounts b held)
  (hm:amountsToMap amounts=.ok m):IsBalance m∧amounts=mapToAmounts m:=by
 obtain ⟨m',hbal,rfl⟩:=h.amounts
 rw [amountsToMap_mapToAmounts hbal] at hm
 cases hm
 exact ⟨hbal,rfl⟩

structure CommitChecked (s:InMemoryBudgetLedger) (rid:String)
  (actualAmounts:List UsageAmount) (plan:CommitPlan) : Prop where
 found:s.reservations[rid]?=some plan.reservation
 status:plan.reservation.status=.reserved
 valid:ValidAmounts actualAmounts
 actual:amountsToMap actualAmounts=.ok plan.actual
 actualBalance:IsBalance plan.actual
 reservedBalance:IsBalance plan.reserved
 amounts:plan.reservation.amounts=mapToAmounts plan.reserved
 overdraft:plan.overdraft=excessAmounts plan.actual plan.reserved
 balances:updatedBalances s plan.reserved plan.actual plan.overdraft
  (heldBudgetIds s rid plan.reservation)=.ok plan.balances

lemma commitChecks_ok{actualAmounts:List UsageAmount}{limit:Option (List UsageAmount)}
  {plan:CommitPlan}(hw:WellFormed s)(h:commitChecks s rid actualAmounts limit=.ok plan):
  CommitChecked s rid actualAmounts plan:=by
 simp only [commitChecks,bind_ok] at h
 obtain ⟨r,hr,_,hv,_,_,reserved,hres,actual,hact,_,_,us,hus,h⟩:=h
 cases h
 obtain ⟨hfound,hstatus⟩:=reservedReservation_ok hr
 have hvalid:=(validateUsageAmounts_ok_iff actualAmounts).mp hv
 obtain ⟨m,hm,hbal,-⟩:=amountsToMap_ok hvalid
 have hactual:actual=m:=by
  rw [hact] at hm
  exact Except.ok.inj hm
 obtain ⟨hresbal,hamounts⟩:=(hw.holds hfound).2.map_eq hres
 exact ⟨hfound,hstatus,hvalid,hact,hactual▸hbal,hresbal,hamounts,rfl,hus⟩

structure ReleaseChecked (s:InMemoryBudgetLedger) (rid:String) (plan:ReleasePlan) : Prop where
 found:s.reservations[rid]?=some plan.reservation
 status:plan.reservation.status=.reserved
 balance:IsBalance plan.reserved
 amounts:plan.reservation.amounts=mapToAmounts plan.reserved
 held:plan.heldBudgetIds=heldBudgetIds s rid plan.reservation

lemma releaseChecks_ok{plan:ReleasePlan}(hw:WellFormed s)
  (h:releaseChecks s rid=.ok plan):ReleaseChecked s rid plan:=by
 simp only [releaseChecks,bind_ok] at h
 obtain ⟨r,hr,reserved,hres,_,_,h⟩:=h
 cases h
 obtain ⟨hfound,hstatus⟩:=reservedReservation_ok hr
 obtain ⟨hbal,hamounts⟩:=(hw.holds hfound).2.map_eq hres
 exact ⟨hfound,hstatus,hbal,hamounts,rfl⟩

structure SettleReserveChecked (s:InMemoryBudgetLedger) (cid:String)
  (plan:SettleReservePlan) : Prop where
 found:s.completionReserves[cid]?=some plan.reserve
 status:plan.reserve.status=.available
 balance:IsBalance plan.reserved
 amounts:plan.reserve.amounts=mapToAmounts plan.reserved
 held:plan.heldBudgetIds=heldByReserve s cid plan.reserve

lemma settleReserveChecks_ok{plan:SettleReservePlan}(hw:WellFormed s)
  (h:settleReserveChecks s cid=.ok plan):SettleReserveChecked s cid plan:=by
 simp only [settleReserveChecks,bind_ok] at h
 obtain ⟨c,hc,reserved,hres,_,_,h⟩:=h
 cases h
 obtain ⟨hfound,hstatus⟩:=availableReserve_ok hc
 obtain ⟨hbal,hamounts⟩:=(hw.heldReserve hfound).2.map_eq hres
 exact ⟨hfound,hstatus,hbal,hamounts,rfl⟩

def Call.isRead : Call→Bool
 | .balance _=>true
 | .completionReserve _=>true
 | _=>false

def Response.isRead : Response→Bool
 | .balance _=>true
 | .reserve _=>true
 | _=>false

/-- The commits that name no permit. -/
inductive DirectCommit : Call→String→List UsageAmount→Prop
 | plain (rid:String) (actual:List UsageAmount) : DirectCommit (.commit rid actual) rid actual
 | limited (rid:String) (actual limit:List UsageAmount) :
  DirectCommit (.commitWithOverdraftLimit rid actual limit) rid actual

inductive PermitCommit : Call→String→String→List UsageAmount→Prop
 | plain (pid rid:String) (actual:List UsageAmount) :
  PermitCommit (.commitWithPermit pid rid actual) pid rid actual
 | timed (pid rid:String) (actual:List UsageAmount) (now:String) :
  PermitCommit (.commitWithPermitAt pid rid actual now) pid rid actual

inductive Releases : Call→String→ReservationStatus→Prop
 | release (rid:String) : Releases (.release rid) rid .released
 | expire (rid:String) : Releases (.expire rid) rid .expired
 | permit (pid rid:String) : Releases (.releaseWithPermit pid rid) rid .released
 | permitAt (pid rid now:String) : Releases (.releaseWithPermitAt pid rid now) rid .released

inductive SettlesReserve : Call→String → CompletionReserveStatus→Prop
 | release (cid:String) : SettlesReserve (.releaseCompletionReserve cid) cid .released
 | expire (cid:String) : SettlesReserve (.expireCompletionReserve cid) cid .expired

def openedAccount (budgetId scope:String) (allocated:AmountMap) (policyRef:String)
  (parentBudgetId:Option String) : BudgetAccount where
 budgetId
 scope
 allocated:=mapToAmounts allocated
 parentBudgetId
 status:=.active
 policyRef
 revision:=1

def openLedger (s:InMemoryBudgetLedger) (account:BudgetAccount) (allocated:AmountMap) :
  InMemoryBudgetLedger :=
 { s with
   accounts:=s.accounts.insert account.budgetId account
   allocated:=s.allocated.insert account.budgetId allocated
   reserved:=s.reserved.insert account.budgetId ∅,committed:=s.committed.insert account.budgetId ∅
   overdraft:=s.overdraft.insert account.budgetId ∅ }

def reservationOf (request:ReservationRequest) (rid:String) (requested:AmountMap)
  (token:ℕ) : BudgetReservation where
 reservationId:=rid
 budgetId:=request.budgetId
 owner:=request.owner
 amounts:=mapToAmounts requested
 purpose:=request.purpose
 expiresAt:=request.expiresAt
 fencingToken:=token
 status:=.reserved

def addReservation (s:InMemoryBudgetLedger) (r:BudgetReservation) (held:List String) :
  InMemoryBudgetLedger :=
 { s with
   reservations:=s.reservations.insert r.reservationId r
   reservationHolds:=s.reservationHolds.insert r.reservationId held }

def setStatus (s:InMemoryBudgetLedger) (rid:String) (r:BudgetReservation)
  (status:ReservationStatus) : InMemoryBudgetLedger :=
 { s with reservations:=s.reservations.insert rid { r with status } }

def commitSettlement (rid:String) (plan:CommitPlan) (revision:ℕ) : BudgetSettlement where
 reservationId:=rid
 budgetId:=plan.reservation.budgetId
 committed:=mapToAmounts plan.actual
 released:=mapToAmounts (excessAmounts plan.reserved plan.actual)
 overdraft:=mapToAmounts plan.overdraft
 status:=.committed
 revision

def releaseSettlement (rid:String) (plan:ReleasePlan) (status:ReservationStatus)
  (revision:ℕ) : BudgetSettlement where
 reservationId:=rid
 budgetId:=plan.reservation.budgetId
 committed:=[]
 released:=mapToAmounts plan.reserved
 overdraft:=[]
 status
 revision

def reserveOf (request:ReserveRequest) (requested:AmountMap) (token:ℕ) : CompletionReserve where
 reserveId:=request.reserveId
 budgetId:=request.budgetId
 purpose:=request.purpose
 amounts:=mapToAmounts requested
 spendableBy:=ExtTreeSet.ofList request.spendableBy
 expiresAt:=request.expiresAt
 status:=.available
 reservationId:=none
 fencingToken:=token

def spentReservation (c:CompletionReserve) (rid spender expiresAt:String) : BudgetReservation where
 reservationId:=rid
 budgetId:=c.budgetId
 owner:=spender
 amounts:=c.amounts
 purpose:=c.purpose.reservationPurpose
 expiresAt
 fencingToken:=c.fencingToken
 status:=.reserved

def setReserve (s:InMemoryBudgetLedger) (cid:String) (c:CompletionReserve) : InMemoryBudgetLedger :=
 { s with completionReserves:=s.completionReserves.insert cid c }

/-- A completed commit, before a permit's spending is recorded. -/
structure CommitDone (s:InMemoryBudgetLedger) (rid:String) (actual:List UsageAmount)
  (plan:CommitPlan) (revision:ℕ) (s₁:InMemoryBudgetLedger) : Prop where
 checked:CommitChecked s rid actual plan
 written:BalancesWritten plan.balances s s₁
 revision:∃account,s₁.accounts[plan.reservation.budgetId]?=some account∧account.revision=revision

/-- What `commit_with_permit` checks beyond `commit`. -/
structure PermitChecked (s:InMemoryBudgetLedger) (pid rid:String)
  (actual:List UsageAmount) : Prop where
 permit:∃permit r authorized spent actualMap,s.permits[pid]?=some permit ∧
  s.reservations[rid]?=some r∧rid∈permit.reservationRefs ∧
  (∀b∈heldBudgetIds s rid r,∃token,permit.fencingTokens[b]?=some token∧r.fencingToken≤token) ∧
  permit.authorizedAmounts=mapToAmounts authorized∧IsBalance authorized ∧
  s.permitSpent[pid]?=some spent∧IsBalance spent ∧
  amountsToMap actual=.ok actualMap ∧
  ∀key,amountAt spent key+amountAt actualMap key≤amountAt authorized key

inductive Effect (s:InMemoryBudgetLedger) :
  Call→Except BudgetError Response→InMemoryBudgetLedger→Prop
 | refused {call:Call} {e:BudgetError} {s':InMemoryBudgetLedger} (frame:Rebalanced s s') :
  Effect s call (.error e) s'
 | read {call:Call} {r:Response} (reads:call.isRead=true) (answer:r.isRead=true) :
  Effect s call (.ok r) s
 | opened {budgetId scope:String} {amounts:List UsageAmount} {policyRef:String}
  {parent:Option String} {allocated:AmountMap}
  (fresh:s.accounts.contains budgetId=false)
  (parents:∀p,parent=some p→s.accounts.contains p=true)
  (balance:IsBalance allocated) :
  Effect s (.allocate budgetId scope amounts policyRef parent)
   (.ok (.account (openedAccount budgetId scope allocated policyRef parent)))
   (openLedger s (openedAccount budgetId scope allocated policyRef parent) allocated)
 | reserved {request:ReservationRequest} {rid:String} {plan:HoldPlan}
  {s₁:InMemoryBudgetLedger} {n k:ℕ}
  (checked:HoldChecked s request.budgetId request.amounts plan)
  (id:rid=request.reservationId.getD (reservationIdOf n))
  (fresh:s.reservations[rid]?=none)
  (update:HeldUpdate (addAmounts · plan.requested) plan.heldBudgetIds
   { s with reservationCounter:=n,fencingCounter:=k } s₁) :
  Effect s (.reserve request) (.ok (.reservation (reservationOf request rid plan.requested k)))
   (addReservation s₁ (reservationOf request rid plan.requested k) plan.heldBudgetIds)
 | committed {call:Call} {rid:String} {actual:List UsageAmount} {plan:CommitPlan}
  {revision:ℕ} {s₁:InMemoryBudgetLedger} (direct:DirectCommit call rid actual)
  (done:CommitDone s rid actual plan revision s₁) :
  Effect s call (.ok (.settlement (commitSettlement rid plan revision)))
   (setStatus s₁ rid plan.reservation .committed)
 | permitCommitted {call:Call} {pid rid:String} {actual:List UsageAmount}
  {plan:CommitPlan} {revision:ℕ} {s₁:InMemoryBudgetLedger} {spent spent':AmountMap}
  (permit:PermitCommit call pid rid actual) (checked:PermitChecked s pid rid actual)
  (done:CommitDone s rid actual plan revision s₁)
  (before:s.permitSpent[pid]?=some spent) (after:addAmounts spent plan.actual=.ok spent') :
  Effect s call (.ok (.settlement (commitSettlement rid plan revision)))
   { setStatus s₁ rid plan.reservation .committed with
     permitSpent:=s.permitSpent.insert pid spent' }
 | released {call:Call} {rid:String} {status:ReservationStatus} {plan:ReleasePlan}
  {revision:ℕ} {s₁:InMemoryBudgetLedger} (releases:Releases call rid status)
  (checked:ReleaseChecked s rid plan)
  (update:HeldUpdate (subtractAmounts · plan.reserved) plan.heldBudgetIds s s₁) :
  Effect s call (.ok (.settlement (releaseSettlement rid plan status revision)))
   (setStatus s₁ rid plan.reservation status)
 | permitIssued {request:PermitRequest} {authorized:AmountMap} {tokens:StringMap ℕ}
  (fresh:s.permits[request.permitId]?=none) (balance:IsBalance authorized)
  (loop:authorizeLoop s request.reservationIds ∅ ∅=.ok (authorized,tokens)) :
  Effect s (.issuePermit request) (.ok (.permit (permitOf request authorized tokens)))
   { s with
     permits:=s.permits.insert request.permitId (permitOf request authorized tokens)
     permitSpent:=s.permitSpent.insert request.permitId ∅ }
 | reserveCreated {request:ReserveRequest} {plan:HoldPlan} {s₁:InMemoryBudgetLedger} {k:ℕ}
  (fresh:s.completionReserves[request.reserveId]?=none)
  (checked:HoldChecked s request.budgetId request.amounts plan)
  (update:HeldUpdate (addAmounts · plan.requested) plan.heldBudgetIds
   { s with fencingCounter:=k } s₁) :
  Effect s (.createCompletionReserve request)
   (.ok (.reserve (reserveOf request plan.requested k)))
   { setReserve s₁ request.reserveId (reserveOf request plan.requested k) with
     completionReserveHolds :=
      s.completionReserveHolds.insert request.reserveId plan.heldBudgetIds }
 | reserveSpent {cid spender expiresAt rid:String} {c:CompletionReserve} {n:ℕ}
  (found:s.completionReserves[cid]?=some c) (status:c.status=.available)
  (fresh:s.reservations[rid]?=none) (id:rid=reservationIdOf n) :
  Effect s (.spendCompletionReserve cid spender expiresAt)
   (.ok (.reservation (spentReservation c rid spender expiresAt)))
   (setReserve (addReservation { s with reservationCounter:=n }
     (spentReservation c rid spender expiresAt) (heldByReserve s cid c))
    cid { c with status:=.spent,reservationId:=some rid })
 | reserveSettled {call:Call} {cid:String} {status:CompletionReserveStatus}
  {plan:SettleReservePlan} {s₁:InMemoryBudgetLedger}
  (settles:SettlesReserve call cid status) (checked:SettleReserveChecked s cid plan)
  (update:HeldUpdate (subtractAmounts · plan.reserved) plan.heldBudgetIds s s₁) :
  Effect s call (.ok (.reserve { plan.reserve with status }))
   (setReserve s₁ cid { plan.reserve with status })

end GraphBlocks.Budget
