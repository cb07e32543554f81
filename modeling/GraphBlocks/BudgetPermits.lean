import GraphBlocks.BudgetHoldings

namespace GraphBlocks.Budget
open OrderedMap RustStd Usage MachineRuns List Option

def permitCommitOf (pid:String) (t:LedgerTransition) : Option (List UsageAmount) :=
 match t.response with
 | .error _=>none
 | .ok _=>
  match t.call with
  | .commitWithPermit pid' _ actual=>if pid'=pid then some actual else none
  | .commitWithPermitAt pid' _ actual _=>if pid'=pid then some actual else none
  | _=>none

def permitCommits (pid:String) (past:List LedgerTransition) : List (List UsageAmount) :=
 past.filterMap (permitCommitOf pid)

def acceptedUnder (pid:String) (past:List LedgerTransition) (key:AmountKey) : ℤ :=
 ((permitCommits pid past).map fun amounts=>amountOf amounts key).sum

def settlementOf (rid:String) (t:LedgerTransition) : Option ReservationStatus :=
 match t.response with
 | .ok (.settlement settlement)=>
  if settlement.reservationId=rid then some settlement.status else none
 | _=>none

/-- The statuses the accepted settlements of a reservation left, in order. -/
def settlementsOf (rid:String) (past:List LedgerTransition) : List ReservationStatus :=
 past.filterMap (settlementOf rid)

def reservationAmount (s:InMemoryBudgetLedger) (rid:String) (key:AmountKey) : ℤ :=
 (s.reservations[rid]?.map fun r=>amountOf r.amounts key).getD 0

variable {s s':InMemoryBudgetLedger}

lemma authorizeLoop_amount(hw:WellFormed s){ids:List String}{authorized m:AmountMap}
  {tokens tokens':StringMap ℕ}(ha:IsBalance authorized)
  (h:authorizeLoop s ids authorized tokens=.ok (m,tokens'))(key:AmountKey):
  amountAt m key=amountAt authorized key+(ids.map fun id=>reservationAmount s id key).sum:=by
 induction ids generalizing authorized tokens with
 | nil=>
  cases h
  simp
 | cons id ids ih=>
  simp only [authorizeLoop,bind_ok] at h
  obtain ⟨r,hr,amounts,ham,next,hnext,h⟩:=h
  have hfound:=(reservedReservation_ok hr).1
  obtain ⟨hbal,hamounts⟩:=(hw.holds hfound).2.map_eq ham
  obtain ⟨hnextbal,hat⟩:=addAmounts_spec ha hbal hnext
  have hamount:reservationAmount s id key=amountAt amounts key:=by
   rw [reservationAmount,hfound,map_some,getD_some,hamounts,amountOf_mapToAmounts hbal]
  rw [ih hnextbal h,hat,map_cons,sum_cons,hamount,add_assoc]

/-- A permit as issued: its authorization is what its reservations held then. -/
structure IssuedAt (t:LedgerTransition) (request:PermitRequest) (permit:BudgetPermit) : Prop where
 call:t.call=.issuePermit request
 response:t.response=.ok (.permit permit)

def outcomeOf (s:InMemoryBudgetLedger) (rid:String) : Option ReservationStatus :=
 s.reservations[rid]?.bind fun r=>if r.status=.reserved then none else some r.status

def spentUnder (s:InMemoryBudgetLedger) (pid:String) (key:AmountKey) : ℤ :=
 (s.permitSpent[pid]?.map (amountAt · key)).getD 0

/-- What permits and reservations show of the run so far. -/
structure PermitLedger (past:List LedgerTransition) (s:InMemoryBudgetLedger) : Prop where
 spent:∀pid key,acceptedUnder pid past key=spentUnder s pid key
 unissued:∀pid : String,s.permits[pid]?=none→s.permitSpent[pid]?=none
 settled:∀rid,settlementsOf rid past=(outcomeOf s rid).toList
 issued:∀t∈past,∀request permit,IssuedAt t request permit→s.permits[request.permitId]?=some permit
 listed:∀(pid:String) permit,s.permits[pid]?=some permit →
  ∃t∈past,∃request,IssuedAt t request permit∧request.permitId=pid

lemma permitLedger_new : PermitLedger [] .new where
 spent _ _:=by simp [acceptedUnder,permitCommits,spentUnder,InMemoryBudgetLedger.new]
 unissued _ _:=by simp [InMemoryBudgetLedger.new]
 settled _:=by simp [settlementsOf,outcomeOf,InMemoryBudgetLedger.new]
 issued _ h:=by simp at h
 listed _ _ h:=by simp [InMemoryBudgetLedger.new] at h

lemma acceptedUnder_concat(pid:String)(past:List LedgerTransition)(t:LedgerTransition)
  (key:AmountKey):acceptedUnder pid (past++[t]) key=acceptedUnder pid past key +
    ((permitCommitOf pid t).map fun amounts=>amountOf amounts key).getD 0:=by
 unfold acceptedUnder permitCommits
 rw [filterMap_concat,map_append,sum_append]
 cases permitCommitOf pid t <;>simp

lemma settlementsOf_concat(rid:String)(past:List LedgerTransition)(t:LedgerTransition):
  settlementsOf rid (past++[t])=settlementsOf rid past++(settlementOf rid t).toList:=
 filterMap_concat _ _ _

variable {past:List LedgerTransition}

lemma PermitLedger.extend (h:PermitLedger past s) {t:LedgerTransition}
  (hpermits:s'.permits=s.permits)
  (hnone:∀pid:String,s.permitSpent[pid]?=none→s.permits[pid]?=none→s'.permitSpent[pid]?=none)
  (hissues:∀request permit,¬IssuedAt t request permit)
  (hspent:∀pid key,spentUnder s' pid key=spentUnder s pid key +
   ((permitCommitOf pid t).map fun amounts=>amountOf amounts key).getD 0)
  (hsettled:∀rid,(outcomeOf s' rid).toList=(outcomeOf s rid).toList++(settlementOf rid t).toList) :
  PermitLedger (past++[t]) s' where
 spent pid key:=by rw [acceptedUnder_concat,h.spent,hspent]
 unissued pid hp:=by
  rw [hpermits] at hp
  exact hnone pid (h.unissued pid hp) hp
 settled rid:=by rw [settlementsOf_concat,h.settled,hsettled]
 issued t' ht' request permit hi:=by
  rw [hpermits]
  rcases mem_append.mp ht' with ht'|ht'
  · exact h.issued t' ht' request permit hi
  · rw [mem_singleton] at ht'
    exact absurd (ht'▸hi) (hissues request permit)
 listed pid permit hp:=by
  rw [hpermits] at hp
  obtain ⟨t',ht',request,hi,hid⟩:=h.listed pid permit hp
  exact ⟨t',mem_append_left _ ht',request,hi,hid⟩

lemma PermitLedger.unspent(h:PermitLedger past s){t:LedgerTransition}
  (hpermits:s'.permits=s.permits)(hspent:s'.permitSpent=s.permitSpent)
  (hissues:∀request permit,¬IssuedAt t request permit)(hcommits:∀pid,permitCommitOf pid t=none)
  (hsettled:∀rid,(outcomeOf s' rid).toList=(outcomeOf s rid).toList++(settlementOf rid t).toList):
  PermitLedger (past++[t]) s':=by
 apply h.extend hpermits _ hissues _ hsettled
 · intro pid hp _
   rw [hspent,hp]
 · intro pid key
   rw [hcommits,spentUnder,spentUnder,hspent]
   simp

lemma PermitLedger.issue (h : PermitLedger past s) {t : LedgerTransition}
  {request : PermitRequest} {permit : BudgetPermit}
  (fresh : s.permits[request.permitId]? = none) (hissue : IssuedAt t request permit) :
  PermitLedger (past ++ [t])
   { s with
     permits := s.permits.insert request.permitId permit
     permitSpent := s.permitSpent.insert request.permitId ∅ } := by
 obtain ⟨before, call, response, after⟩:=t
 obtain ⟨rfl, rfl⟩:=hissue
 have hspent:s.permitSpent[request.permitId]? = none:=h.unissued _ fresh
 refine ⟨?_, ?_, ?_, ?_, ?_⟩
 · intro pid key
   rw [acceptedUnder_concat, h.spent]
   simp only [spentUnder, lookup_insert, permitCommitOf, map_none, getD_none, add_zero]
   split
   · next hid => simp [← hid, hspent]
   · rfl
 · intro pid hp
   simp only [lookup_insert] at hp ⊢
   split at hp
   · cases hp
   · next hid =>
     rw [if_neg hid]
     exact h.unissued pid hp
 · intro rid
   rw [settlementsOf_concat, h.settled]
   exact append_nil _
 · intro t ht request' permit' hi
   rcases mem_append.mp ht with ht | ht
   · have hold:=h.issued t ht request' permit' hi
     have hne:request.permitId ≠ request'.permitId:=by
      intro heq
      rw [← heq, fresh] at hold
      cases hold
     exact (lookup_insert_ne _ _ hne).trans hold
   · rw [mem_singleton] at ht
     subst ht
     obtain ⟨hcall, hresponse⟩:=hi
     cases hcall
     cases hresponse
     exact lookup_insert_self _ _ _
 · intro pid permit' hp
   simp only [lookup_insert] at hp
   split at hp
   · next hid =>
     cases hp
     exact ⟨_, mem_append_right _ (mem_singleton_self _), request, ⟨rfl, rfl⟩, hid⟩
   · obtain ⟨t, ht, request', hi, hid'⟩:=h.listed pid permit' hp
     exact ⟨t, mem_append_left _ ht, request', hi, hid'⟩

lemma outcomeOf_congr(h:s'.reservations=s.reservations)(rid:String):
  outcomeOf s' rid=outcomeOf s rid:=by
 unfold outcomeOf
 rw [h]

variable {rid:String}

lemma outcomeOf_setStatus{r:BudgetReservation}{status:ReservationStatus}
  (hstatus:status ≠ .reserved)(hfound:s.reservations[rid]?=some r)
  (hr:r.status=.reserved)(rid':String):
  (outcomeOf (setStatus s rid r status) rid').toList =
   (outcomeOf s rid').toList++(if rid=rid' then some status else none).toList:=by
 unfold outcomeOf setStatus
 by_cases h:rid=rid'
 · subst h
   simp [hfound,hr,hstatus]
 · simp [lookup_insert_ne _ _ h,h]

lemma outcomeOf_addReservation{r:BudgetReservation}(held:List String)
  (hfresh:s.reservations[r.reservationId]?=none)(hr:r.status=.reserved)
  (rid:String):outcomeOf (addReservation s r held) rid=outcomeOf s rid:=by
 unfold outcomeOf addReservation
 by_cases h:r.reservationId=rid
 · subst h
   simp [hfresh,hr]
 · simp [lookup_insert_ne _ _ h]

lemma spentUnder_insert{pid:String}{spent spent' m:AmountMap}
  (hbefore:s.permitSpent[pid]?=some spent)
  (hat:∀key,amountAt spent' key=amountAt spent key+amountAt m key)
  (ht:s'.permitSpent=s.permitSpent.insert pid spent')(pid':String)(key:AmountKey):
  spentUnder s' pid' key=spentUnder s pid' key+(if pid=pid' then amountAt m key else 0):=by
 unfold spentUnder
 rw [ht,lookup_insert]
 split
 · next h=>
   subst h
   simp [hbefore,hat]
 · simp

lemma CommitDone.outcome(hw:WellFormed s){actual:List UsageAmount}{plan:CommitPlan}
  {n:ℕ}{s₁:InMemoryBudgetLedger}(h:CommitDone s rid actual plan n s₁)(rid':String):
  (outcomeOf (setStatus s₁ rid plan.reservation .committed) rid').toList =
   (outcomeOf s rid').toList++(if rid=rid' then some .committed else none).toList:=by
 have hres:=(h.rebalanced hw).reservations
 rw [outcomeOf_setStatus (by decide) (by rw [hres];exact h.checked.found) h.checked.status,
  outcomeOf_congr hres]

variable {call:Call}

lemma Effect.permitLedger(hw:WellFormed s)(h:PermitLedger past s){r:Except BudgetError Response}
  (he:Effect s call r s'):PermitLedger (past++[⟨s,call,r,s'⟩]) s':=by
 cases he with
 | refused frame=>
  refine h.unspent frame.permits frame.permitSpent ?_ (fun _=>rfl) fun rid=>?_
  · rintro request permit ⟨-,hr⟩
    cases hr
  · rw [outcomeOf_congr frame.reservations]
    exact (append_nil _).symm
 | read reads answer=>
  refine h.unspent rfl rfl ?_ ?_ fun rid=>?_
  · rintro request permit ⟨hcall,-⟩
    cases hcall
    cases reads
  · intro pid
    cases call <;>first | rfl | cases reads
  · next r=>cases r <;>first | exact (append_nil _).symm | cases answer
 | opened fresh parents balance=>
  refine h.unspent rfl rfl ?_ (fun _=>rfl) fun rid=>(append_nil _).symm
  rintro request permit ⟨hcall,-⟩
  cases hcall
 | reserved checked id fresh update=>
  have hframe:=update.rebalanced
  refine h.unspent hframe.permits hframe.permitSpent ?_ (fun _=>rfl) fun rid'=>?_
  · rintro request' permit ⟨hcall,-⟩
    cases hcall
  · rw [outcomeOf_addReservation _ (by rw [hframe.reservations];exact fresh) rfl,
     outcomeOf_congr hframe.reservations]
    exact (append_nil _).symm
 | committed direct done=>
  have hframe:=done.rebalanced hw
  refine h.unspent hframe.permits hframe.permitSpent ?_ ?_ (done.outcome hw)
  · rintro request permit ⟨hcall,-⟩
    cases direct <;>cases hcall
  · intro pid
    cases direct <;>rfl
 | permitCommitted permit checked done before after=>
  next pid rid actual plan n s₁ spent spent'=>
  have hframe:=done.rebalanced hw
  obtain ⟨p',-,authorized,spent₁,m,-,-,-,-,-,-,hspent,hspentbal,-,-⟩:=checked.permit
  have hbal:IsBalance spent:=by
   rw [before] at hspent
   exact (some.inj hspent)▸hspentbal
  have hadd:=(addAmounts_spec hbal done.checked.actualBalance after).2
  refine h.extend hframe.permits ?_ ?_ ?_ (done.outcome hw)
  · intro pid' hnone _
    have hne:pid≠pid':=by
     rintro rfl
     rw [before] at hnone
     cases hnone
    exact (lookup_insert_ne _ _ hne).trans hnone
  · rintro request permit' ⟨hcall,-⟩
    cases permit <;>cases hcall
  · intro pid' key
    rw [spentUnder_insert before hadd rfl,amountAt_amountsToMap done.checked.valid
     done.checked.actual]
    congr 1
    cases permit <;>simp only [permitCommitOf] <;>split <;>rfl
 | released releases checked update=>
  have hframe:=update.rebalanced
  refine h.unspent hframe.permits hframe.permitSpent ?_ ?_ fun rid'=>?_
  · rintro request permit ⟨hcall,-⟩
    cases releases <;>cases hcall
  · intro pid
    cases releases <;>rfl
  · rw [outcomeOf_setStatus (by cases releases <;>decide)
     (by rw [hframe.reservations];exact checked.found) checked.status,
     outcomeOf_congr hframe.reservations]
    rfl
 | permitIssued fresh balance loop=>exact h.issue fresh ⟨rfl,rfl⟩
 | reserveCreated fresh checked update=>
  have hframe:=update.rebalanced
  refine h.unspent hframe.permits hframe.permitSpent ?_ (fun _=>rfl) fun rid=>?_
  · rintro request permit ⟨hcall,-⟩
    cases hcall
  · exact (congrArg Option.toList (outcomeOf_congr hframe.reservations rid)).trans
     (append_nil _).symm
 | reserveSpent found status fresh id=>
  next cid spender expiresAt rid c n=>
  refine h.unspent rfl rfl ?_ (fun _=>rfl) fun rid'=>?_
  · rintro request permit ⟨hcall,-⟩
    cases hcall
  · have hadd:=outcomeOf_addReservation (s:={ s with reservationCounter:=n })
     (r:=spentReservation c rid spender expiresAt) (heldByReserve s cid c) fresh rfl rid'
    exact (congrArg Option.toList hadd).trans (append_nil _).symm
 | reserveSettled settles checked update=>
  have hframe:=update.rebalanced
  refine h.unspent hframe.permits hframe.permitSpent ?_ ?_ fun rid=>?_
  · rintro request permit ⟨hcall,-⟩
    cases settles <;>cases hcall
  · intro pid
    cases settles <;>rfl
  · exact (congrArg Option.toList (outcomeOf_congr hframe.reservations rid)).trans
     (append_nil _).symm

lemma permitLedger_history(calls:List Call):
  PermitLedger (history step .new calls) (execute step .new calls):=by
 have h:=history_invariant step (P:=fun past s=>WellFormed s∧PermitLedger past s)
  ⟨new_wellFormed,permitLedger_new⟩ (fun past s call hs=>?_) calls
 · exact h.2
 · have he:=step_effect hs.1 call
   exact ⟨he.wellFormed hs.1,he.permitLedger hs.1 hs.2⟩

lemma Effect.permitChecked{r:Response}{pid:String}{actual:List UsageAmount}
  (he:Effect s call (.ok r) s')(hcall:PermitCommit call pid rid actual):
  PermitChecked s pid rid actual:=by
 cases hcall <;>cases he with
 | read reads _=>cases reads
 | committed direct _=>cases direct
 | permitCommitted permit checked _ _ _=>
  cases permit
  exact checked
 | released releases _ _=>cases releases
 | reserveSettled settles _ _=>cases settles

lemma Effect.issued{request:PermitRequest}{permit:BudgetPermit}(hw:WellFormed s)
  (he:Effect s call (.ok (.permit permit)) s')(hcall:call=.issuePermit request)(key:AmountKey):
  amountOf permit.authorizedAmounts key =
   (request.reservationIds.map fun rid=>reservationAmount s rid key).sum:=by
 subst hcall
 cases he with
 | read reads _=>cases reads
 | permitIssued fresh balance loop=>
  rw [permitOf,amountOf_mapToAmounts balance,authorizeLoop_amount hw isBalance_empty loop]
  simp

/-- Spending under permits, and settlement of reservations, over any run. -/
theorem permits_bound_spending (calls : List Call) : let past := history step .new calls
  let s:=execute step .new calls
  (∀t∈past,∀request permit,IssuedAt t request permit → ∀key,amountOf permit.authorizedAmounts key =
    (request.reservationIds.map fun rid=>reservationAmount t.before rid key).sum ∧
   acceptedUnder request.permitId past key≤amountOf permit.authorizedAmounts key) ∧
  (∀t∈past,∀pid rid actual response,PermitCommit t.call pid rid actual→t.response=.ok response →
   ∃permit r,t.before.permits[pid]?=some permit ∧
    (∃issue∈past,∃request,IssuedAt issue request permit∧request.permitId=pid) ∧
    t.before.reservations[rid]?=some r∧rid∈permit.reservationRefs ∧
    ∀b∈heldBudgetIds t.before rid r,∃token,permit.fencingTokens[b]?=some token ∧
     r.fencingToken≤token) ∧
  (∀rid,s.reservations[rid]?=none→settlementsOf rid past=[]) ∧
  (∀rid r,s.reservations[rid]?=some r → r.status=.reserved→settlementsOf rid past=[]) ∧
  ∀rid r,s.reservations[rid]?=some r → r.status ≠ .reserved→settlementsOf rid past=[r.status] := by
 intro past s
 have hledger:=permitLedger_history calls
 refine ⟨?_,?_,?_,?_,?_⟩
 · intro t ht request permit hi key
   have hissued:=hledger.issued t ht request permit hi
   obtain ⟨authorized,spent,hbal,hauth,hspent,-,hle⟩:=
    ((execute_wellFormed calls).permits _ _ hissued).within
   refine ⟨?_,?_⟩
   · obtain ⟨before,call,after,-,rfl⟩:=mem_history step ht
     have hw:=execute_wellFormed before
     have he:=step_effect hw call
     rw [show (step (execute step .new before) call).1=_ from hi.response] at he
     exact he.issued hw hi.call key
   · rw [hledger.spent,spentUnder,hspent,map_some,getD_some,hauth,amountOf_mapToAmounts hbal]
     exact hle key
 · intro t ht pid rid actual response hcall hresponse
   obtain ⟨before,call,after,hcalls,rfl⟩:=mem_history step ht
   have he:=step_effect (execute_wellFormed before) call
   rw [show (step (execute step .new before) call).1=_ from hresponse] at he
   obtain ⟨permit,r,-,-,-,hp,hr,hlisted,hcovered,-⟩:=(he.permitChecked hcall).permit
   refine ⟨permit,r,hp,?_,hr,hlisted,hcovered⟩
   obtain ⟨issue,hissue,request,hi⟩:=(permitLedger_history before).listed pid permit hp
   refine ⟨issue,?_,request,hi⟩
   change issue∈history step .new calls
   rw [hcalls,history_append]
   exact mem_append_left _ hissue
 · intro rid hr
   rw [hledger.settled,outcomeOf,hr]
   rfl
 · intro rid r hr hstatus
   rw [hledger.settled,outcomeOf,hr,bind_some,if_pos hstatus]
   rfl
 · intro rid r hr hstatus
   rw [hledger.settled,outcomeOf,hr,bind_some,if_neg hstatus]
   rfl

end GraphBlocks.Budget
