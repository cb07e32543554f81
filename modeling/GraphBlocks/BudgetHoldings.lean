import GraphBlocks.BudgetSteps

/-! `Balanced` relates the balances of every account to the reservations and completion reserves
held on it. -/
namespace GraphBlocks.Budget
open Std OrderedMap RustStd Usage MachineRuns

abbrev LedgerTransition := Transition InMemoryBudgetLedger Call (Except BudgetError Response)

section
variable {α:Type}

def chargedTo (holders:String→α→List String) (weight:String→α→ℤ) (b:String)
  (entries:StringMap α) : ℤ :=
 sumOf (fun id a=>if b∈holders id a then weight id a else 0) entries

variable {holders holders':String→α→List String} {weight weight':String→α→ℤ}
 {b:String} {entries:StringMap α}

@[simp] lemma chargedTo_empty:chargedTo holders weight b ∅ = 0:=sumOf_empty _

lemma chargedTo_congr(hh:∀id a,entries[id]?=some a→holders' id a=holders id a)
  (hw:∀id a,entries[id]?=some a→weight' id a=weight id a):
  chargedTo holders' weight' b entries=chargedTo holders weight b entries:=by
 apply sumOf_congr
 intro id a h
 rw [hh id a h,hw id a h]

variable {id:String}

lemma chargedTo_insert_fresh{a:α}(hfresh:entries[id]?=none)
  (hh:∀id' a',id'≠id→holders' id' a'=holders id' a')
  (hw:∀id' a',id'≠id→weight' id' a'=weight id' a'):
  chargedTo holders' weight' b (entries.insert id a)=chargedTo holders weight b entries +
    if b∈holders' id a then weight' id a else 0:=by
 have hold:chargedTo holders' weight' b entries=chargedTo holders weight b entries:=by
  have hne:∀id' a',entries[id']?=some a'→id'≠id:=by
   rintro id' a' h rfl
   rw [hfresh] at h
   cases h
  exact chargedTo_congr (fun id' a' h=>hh id' a' (hne id' a' h))
   (fun id' a' h=>hw id' a' (hne id' a' h))
 rw [←hold,chargedTo,sumOf_insert_fresh _ _ hfresh,add_comm]
 rfl

lemma chargedTo_insert_bound{a a':α}(hfound:entries[id]?=some a)
  (hsame:holders id a'=holders id a)(hw:∀id' a',id'≠id→weight' id' a'=weight id' a'):
  chargedTo holders weight' b (entries.insert id a')=chargedTo holders weight b entries +
    if b∈holders id a then weight' id a'-weight id a else 0:=by
 have herase:(entries.erase id)[id]?=none:=ExtTreeMap.getElem?_erase_self
 have h₁:chargedTo holders weight b ((entries.erase id).insert id a) =
   chargedTo holders weight b (entries.erase id)+if b∈holders id a then weight id a else 0:=
  chargedTo_insert_fresh herase (fun _ _ _=>rfl) (fun _ _ _=>rfl)
 have h₂:chargedTo holders weight' b ((entries.erase id).insert id a') =
   chargedTo holders weight b (entries.erase id) + if b∈holders id a' then weight' id a' else 0:=
  chargedTo_insert_fresh herase (fun _ _ _=>rfl) hw
 rw [insert_erase_self] at h₁ h₂
 rw [insert_lookup entries hfound] at h₁
 rw [h₁,h₂,hsame]
 split <;>omega

lemma charge_nonneg(h:∀id a,entries[id]?=some a→0≤weight id a)(id:String)(a:α)
  (ha:entries[id]?=some a):0 ≤ if b∈holders id a then weight id a else 0:=by
 split
 · exact h id a ha
 · exact Int.le_refl 0

lemma chargedTo_nonneg(holders:String→α→List String)(b:String)
  (h:∀id a,entries[id]?=some a→0≤weight id a):0≤chargedTo holders weight b entries:=
 sumOf_nonneg (charge_nonneg h)

lemma le_chargedTo(h:∀id a,entries[id]?=some a→0≤weight id a){a:α}(hfound:entries[id]?=some a)
  (hb:b∈holders id a):weight id a≤chargedTo holders weight b entries:=by
 have hle:(if b∈holders id a then weight id a else 0)≤chargedTo holders weight b entries:=
  le_sumOf (charge_nonneg h) hfound
 rwa [if_pos hb] at hle
end

def balanceAt (balances:StringMap AmountMap) (b:String) (key:AmountKey) : ℤ :=
 (balances[b]?.map (amountAt · key)).getD 0

def heldByReservation (key:AmountKey) (_:String) (r:BudgetReservation) : ℤ :=
 if r.status=.reserved then amountOf r.amounts key else 0

def heldForCompletion (key:AmountKey) (_:String) (c:CompletionReserve) : ℤ :=
 if c.status=.available then amountOf c.amounts key else 0

/-- What the outstanding holds on an account add up to. -/
def heldTotal (s:InMemoryBudgetLedger) (b:String) (key:AmountKey) : ℤ :=
 chargedTo (heldBudgetIds s) (heldByReservation key) b s.reservations +
  chargedTo (heldByReserve s) (heldForCompletion key) b s.completionReserves

structure Balanced (s:InMemoryBudgetLedger) : Prop where
 reservedBalance:∀(b:String) m,s.reserved[b]?=some m→IsBalance m
 committedBalance:∀(b:String) m,s.committed[b]?=some m→IsBalance m
 overdraftBalance:∀(b:String) m,s.overdraft[b]?=some m→IsBalance m
 held:∀b,s.accounts.contains b=true → ∀key,balanceAt s.reserved b key=heldTotal s b key
 within:∀b,s.accounts.contains b=true → ∀key,
  balanceAt s.reserved b key+balanceAt s.committed b key-balanceAt s.overdraft b key ≤
   balanceAt s.allocated b key

variable {m:AmountMap}

lemma amountOf_mapToAmounts(h:IsBalance m)(key:AmountKey):
  amountOf (mapToAmounts m) key=amountAt m key:=
 h.canonicalKeys.amountOf_mapToAmounts key

variable {amounts:List UsageAmount}

lemma amountAt_amountsToMap(hv:ValidAmounts amounts)(h:amountsToMap amounts=.ok m)
  (key:AmountKey):amountAt m key=amountOf amounts key:=by
 obtain ⟨m',hm',-,hat⟩:=amountsToMap_ok hv
 rw [hm'] at h
 cases h
 exact hat key

variable {b:String}

lemma balanceAt_of_lookup{balances:StringMap AmountMap}
  (h:balances[b]?=some m)(key:AmountKey):balanceAt balances b key=amountAt m key:=by
 simp [balanceAt,h]

variable {s s':InMemoryBudgetLedger} {held:List String}

lemma HeldAmounts.amount_nonneg{accounts:StringMap BudgetAccount}
  (h:HeldAmounts accounts amounts b held)(key:AmountKey):0≤amountOf amounts key:=by
 obtain ⟨m,hm,heq⟩:=h.amounts
 rw [heq,amountOf_mapToAmounts hm]
 exact (hm.range key).1

variable {rid:String}

lemma WellFormed.amount_nonneg(hw:WellFormed s){r:BudgetReservation}
  (h:s.reservations[rid]?=some r)(key:AmountKey):0≤amountOf r.amounts key:=
 (hw.holds h).2.amount_nonneg key

variable {cid:String}

lemma WellFormed.reserveAmount_nonneg(hw:WellFormed s){c:CompletionReserve}
  (h:s.completionReserves[cid]?=some c)(key:AmountKey):0≤amountOf c.amounts key:=
 (hw.heldReserve h).2.amount_nonneg key

lemma WellFormed.heldByReservation_nonneg(hw:WellFormed s)(key:AmountKey)(rid:String)
  (r:BudgetReservation)(h:s.reservations[rid]?=some r):0≤heldByReservation key rid r:=by
 unfold heldByReservation
 split
 · exact hw.amount_nonneg h key
 · exact Int.le_refl 0

lemma WellFormed.heldForCompletion_nonneg(hw:WellFormed s)(key:AmountKey)(cid:String)
  (c:CompletionReserve)(h:s.completionReserves[cid]?=some c):0≤heldForCompletion key cid c:=by
 unfold heldForCompletion
 split
 · exact hw.reserveAmount_nonneg h key
 · exact Int.le_refl 0

section
variable (hw:WellFormed s) (hb:Balanced s)
include hw hb

lemma reservation_covered{r:BudgetReservation}(h:s.reservations[rid]?=some r)
  (hstatus:r.status=.reserved)(hmem:b∈heldBudgetIds s rid r)(key:AmountKey):
  amountOf r.amounts key≤balanceAt s.reserved b key:=by
 rw [hb.held b ((hw.holds h).2.known b hmem),heldTotal]
 have h₁:=le_chargedTo (hw.heldByReservation_nonneg key) h hmem
 have h₂:=chargedTo_nonneg (heldByReserve s) b (hw.heldForCompletion_nonneg key)
 rw [heldByReservation,if_pos hstatus] at h₁
 omega

lemma reserve_covered{c:CompletionReserve}(h:s.completionReserves[cid]?=some c)
  (hstatus:c.status=.available)(hmem:b∈heldByReserve s cid c)(key:AmountKey):
  amountOf c.amounts key≤balanceAt s.reserved b key:=by
 rw [hb.held b ((hw.heldReserve h).2.known b hmem),heldTotal]
 have h₁:=le_chargedTo (hw.heldForCompletion_nonneg key) h hmem
 have h₂:=chargedTo_nonneg (heldBudgetIds s) b (hw.heldByReservation_nonneg key)
 rw [heldForCompletion,if_pos hstatus] at h₁
 omega
end

/-- The accounts whose balances or revisions a call writes. -/
def touchedBudgets (s:InMemoryBudgetLedger) : Call→List String
 | .reserve request=>chainOrNil request.budgetId
 | .createCompletionReserve request=>chainOrNil request.budgetId
 | .commit rid _=>heldOrNil rid
 | .commitWithOverdraftLimit rid _ _=>heldOrNil rid
 | .release rid=>heldOrNil rid
 | .expire rid=>heldOrNil rid
 | .commitWithPermit _ rid _=>heldOrNil rid
 | .commitWithPermitAt _ rid _ _=>heldOrNil rid
 | .releaseWithPermit _ rid=>heldOrNil rid
 | .releaseWithPermitAt _ rid _=>heldOrNil rid
 | .releaseCompletionReserve cid=>reserveHeldOrNil cid
 | .expireCompletionReserve cid=>reserveHeldOrNil cid
 | _=>[]
where
 chainOrNil (budgetId:String) : List String :=
  match budgetChain s.accounts budgetId with
  | .ok held=>held
  | .error _=>[]
 heldOrNil (rid:String) : List String:=
  match s.reservations[rid]? with
  | some r=>heldBudgetIds s rid r
  | none=>[]
 reserveHeldOrNil (cid:String) : List String:=
  match s.completionReserves[cid]? with
  | some c=>heldByReserve s cid c
  | none=>[]

def RevisionLeft (s:InMemoryBudgetLedger) (held:List String) : Prop :=
 ∀b∈held,∀account,s.accounts[b]?=some account→account.revision+1<u64Limit

/-- No account that the call would write has used up its revisions. -/
def RevisionsLeft (s:InMemoryBudgetLedger) (call:Call) : Prop :=
 RevisionLeft s (touchedBudgets s call)

def takesUsedId (s:InMemoryBudgetLedger) : Call→Bool
 | .reserve request=>
  (reserveChecks s request.budgetId request.amounts).isOk &&
   (checkedSucc s.reservationCounter).isSome&&(checkedSucc s.fencingCounter).isSome &&
   s.reservations.contains
    (request.reservationId.getD (reservationIdOf (s.reservationCounter+1)))
 | .spendCompletionReserve cid spender _=>
  (spendChecks s cid spender).isOk&&(checkedSucc s.reservationCounter).isSome &&
   s.reservations.contains (reservationIdOf (s.reservationCounter+1))
 | _=>false

lemma updateReserved_total{update:AmountMap→Except BudgetError AmountMap}(hn:held.Nodup)
  (hk:∀b∈held,s.accounts.contains b=true)(hr:RevisionLeft s held)
  (hm:∀b∈held,∃m m',s.reserved[b]?=some m∧update m=.ok m'):
  ∃s',updateReserved update held s=(.ok (),s'):=by
 apply updateReserved_completes hn hm
 intro b hb
 obtain ⟨account,ha⟩:=(contains_iff s.accounts).mp (hk b hb)
 exact ⟨account,ha,hr b hb account ha⟩

section
variable (hw:WellFormed s) (hb:Balanced s)
include hw hb

variable {budgetId:String}

lemma HoldChecked.adds{plan:HoldPlan}(h:HoldChecked s budgetId amounts plan)
  (hmem:b∈plan.heldBudgetIds):∃m m',s.reserved[b]?=some m∧addAmounts m plan.requested=.ok m':=by
 obtain ⟨al,re,co,hal,hre,hco,hfits⟩:=ensureAvailable_ok h.available b hmem
 have hbal:=hb.reservedBalance b re hre
 obtain ⟨m',hm',-,-⟩:=addAmounts_ok hbal h.balance (fun key=>by
  have h₁:=hfits key
  have h₂:=(available_le al re co key).1
  have h₃:=(hw.allocations b al hal).range key
  have h₄:=hbal.range key
  have h₅:=(hb.committedBalance b co hco).range key
  have h₆:=h.balance.range key
  omega)
 exact ⟨re,m',hre,hm'⟩

lemma hold_completes{plan:HoldPlan}(h:HoldChecked s budgetId amounts plan)
  (hr:RevisionLeft s plan.heldBudgetIds)(n k:ℕ):
  ∃s₁,updateReserved (addAmounts · plan.requested) plan.heldBudgetIds
   { s with reservationCounter:=n,fencingCounter:=k }=(.ok (),s₁):=
 updateReserved_total h.heldAmounts.nodup h.heldAmounts.known hr
  fun _ hmem=>HoldChecked.adds hw hb h hmem

lemma subtracts(hm:IsBalance m)(hk:s.accounts.contains b=true)
  (hle:∀key,amountAt m key≤balanceAt s.reserved b key):
  ∃re re',s.reserved[b]?=some re∧subtractAmounts re m=.ok re':=by
 obtain ⟨re,hre⟩:=(contains_iff s.reserved).mp (hw.reserved b hk)
 obtain ⟨re',hre',-,-⟩:=subtractAmounts_ok (hb.reservedBalance b re hre) hm (fun key=>by
  rw [←balanceAt_of_lookup hre]
  exact hle key)
 exact ⟨re,re',hre,hre'⟩

lemma returns_complete(h:HeldAmounts s.accounts amounts budgetId held)(hm:IsBalance m)
  (heq:amounts=mapToAmounts m)(hr:RevisionLeft s held)
  (hcovered:∀b∈held,∀key,amountOf amounts key≤balanceAt s.reserved b key):
  ∃s₁,updateReserved (subtractAmounts · m) held s=(.ok (),s₁):=by
 refine updateReserved_total h.nodup h.known hr fun b hmem=>?_
 refine subtracts hw hb hm (h.known b hmem) fun key=>?_
 rw [←amountOf_mapToAmounts hm,←heq]
 exact hcovered b hmem key

lemma release_completes{plan:ReleasePlan}(h:ReleaseChecked s rid plan)
  (hr:RevisionLeft s plan.heldBudgetIds):
  ∃s₁,updateReserved (subtractAmounts · plan.reserved) plan.heldBudgetIds s=(.ok (),s₁):=by
 rw [h.held] at hr ⊢
 exact returns_complete hw hb (hw.holds h.found).2 h.balance h.amounts hr
  fun _ hmem=>reservation_covered hw hb h.found h.status hmem

lemma settleReserve_completes{plan:SettleReservePlan}(h:SettleReserveChecked s cid plan)
  (hr:RevisionLeft s plan.heldBudgetIds):
  ∃s₁,updateReserved (subtractAmounts · plan.reserved) plan.heldBudgetIds s=(.ok (),s₁):=by
 rw [h.held] at hr ⊢
 exact returns_complete hw hb (hw.heldReserve h.found).2 h.balance h.amounts hr
  fun _ hmem=>reserve_covered hw hb h.found h.status hmem
end

lemma commit_completes(hw:WellFormed s){actual:List UsageAmount}{plan:CommitPlan}
  (h:CommitChecked s rid actual plan)(hr:RevisionLeft s (heldBudgetIds s rid plan.reservation)):
  ∃s₁,writeBalances plan.balances s=(.ok (),s₁):=by
 apply writeBalances_completes (h.nodup hw)
 rw [(updatedBalances_ok h.balances).1]
 intro b hmem
 obtain ⟨account,ha⟩:=(contains_iff s.accounts).mp ((hw.holds h.found).2.known b hmem)
 exact ⟨account,ha,hr b hmem account ha⟩

end GraphBlocks.Budget
