import GraphBlocks.BudgetConservation

namespace GraphBlocks.Budget
open Std OrderedMap RustStd Usage MachineRuns List Option

def outstanding (s:InMemoryBudgetLedger) (b:String) (key:AmountKey) : ℤ :=
 sumOf (fun rid r=>if r.status=.reserved∧b∈heldBudgetIds s rid r then
  amountOf r.amounts key else 0) s.reservations +
 sumOf (fun cid c=>if c.status=.available∧b∈heldByReserve s cid c then
  amountOf c.amounts key else 0) s.completionReserves

def committedActuals (past:List LedgerTransition) (s:InMemoryBudgetLedger) (b:String)
  (key:AmountKey) : ℤ :=
 sumOf (fun rid r=>if r.status=.committed∧b∈heldBudgetIds s rid r then
  actualAmount (actualsOf past) key rid r else 0) s.reservations

def committedExcess (past:List LedgerTransition) (s:InMemoryBudgetLedger) (b:String)
  (key:AmountKey) : ℤ :=
 sumOf (fun rid r=>if r.status=.committed∧b∈heldBudgetIds s rid r then
  excessAmount (actualsOf past) key rid r else 0) s.reservations

structure AccountConserved (past:List LedgerTransition) (s:InMemoryBudgetLedger) (b:String)
  (key:AmountKey) : Prop where
 reserved:balanceAt s.reserved b key=outstanding s b key
 committed:balanceAt s.committed b key=committedActuals past s b key
 overdraft:balanceAt s.overdraft b key=committedExcess past s b key
 reserved_nonneg:0≤balanceAt s.reserved b key
 committed_nonneg:0≤balanceAt s.committed b key
 overdraft_nonneg:0≤balanceAt s.overdraft b key
 within:balanceAt s.reserved b key+balanceAt s.committed b key-balanceAt s.overdraft b key ≤
  balanceAt s.allocated b key

variable {s s':InMemoryBudgetLedger} {actuals:String→List (List UsageAmount)}

lemma heldTotal_eq_outstanding(s:InMemoryBudgetLedger)(b:String)(key:AmountKey):
  heldTotal s b key=outstanding s b key:=by
 unfold heldTotal outstanding
 congr 1
 · apply sumOf_congr
   intro rid r _
   rw [heldByReservation]
   by_cases h:b∈heldBudgetIds s rid r <;>simp [h]
 · apply sumOf_congr
   intro cid c _
   rw [heldForCompletion]
   by_cases h:b∈heldByReserve s cid c <;>simp [h]

lemma Conserved.charged_committed(h:Conserved actuals s){weight:String→BudgetReservation→ℤ}
  (hw:∀rid r,actuals rid=[]→weight rid r=0)(b:String):
  chargedTo (heldBudgetIds s) weight b s.reservations =
   sumOf (fun rid r=>if r.status=.committed∧b∈heldBudgetIds s rid r then
    weight rid r else 0) s.reservations:=by
 apply sumOf_congr
 intro rid r hr
 by_cases hstatus:r.status=.committed
 · by_cases hmem:b∈heldBudgetIds s rid r <;>simp [hstatus,hmem]
 · have hnil:actuals rid=[]:=by
    apply h.uncommitted
    simp [commitCount,hr,hstatus]
   simp [hstatus,hw rid r hnil]

lemma Conserved.committed_once(h:Conserved actuals s){rid:String}{r:BudgetReservation}
  (hr:s.reservations[rid]?=some r)(hstatus:r.status=.committed):
  ∃actual,actuals rid=[actual]:=by
 have hlen:(actuals rid).length=1:=by
  rw [h.counted]
  simp [commitCount,hr,hstatus]
 exact length_eq_one_iff.mp hlen

def RevisionsBelow (bound:ℕ) (s:InMemoryBudgetLedger) : Prop :=
 ∀(b:String) account,s.accounts[b]?=some account→account.revision≤bound

variable {bound:ℕ}

lemma RevisionsBelow.bumped(h:RevisionsBelow bound s){held:List String}
  (ha:∀b:String,s'.accounts[b]?=s.accounts[b]?.map (BudgetAccount.bump held b)):
  RevisionsBelow (bound+1) s':=by
 intro b account hacc
 rw [ha b,map_eq_some_iff] at hacc
 obtain ⟨account₀,h₀,rfl⟩:=hacc
 have hle:=h b account₀ h₀
 unfold BudgetAccount.bump
 split
 · exact Nat.succ_le_succ hle
 · exact Nat.le_succ_of_le hle

lemma RevisionsBelow.kept(h:RevisionsBelow bound s)(ha:s'.accounts=s.accounts):
  RevisionsBelow (bound+1) s':=by
 intro b account hacc
 rw [ha] at hacc
 exact Nat.le_succ_of_le (h b account hacc)

lemma Effect.revisions{call:Call}{r:Except BudgetError Response}(he:Effect s call r s')
  (hf:∀e,r=.error e→Failed s call s')(h:RevisionsBelow bound s):RevisionsBelow (bound+1) s':=by
 cases he with
 | refused frame=>
  cases hf _ rfl with
  | unchanged _=>exact h.kept rfl
  | advanced _ _=>exact h.kept rfl
 | read _ _=>exact h.kept rfl
 | opened _ _ _=>
  intro b account hacc
  rw [openLedger,lookup_insert] at hacc
  split at hacc
  · cases hacc
    exact Nat.succ_le_succ (Nat.zero_le bound)
  · exact Nat.le_succ_of_le (h b account hacc)
 | reserved _ _ _ update=>exact RevisionsBelow.bumped h update.accounts
 | committed _ done=>exact RevisionsBelow.bumped h done.written.accounts
 | permitCommitted _ _ done _ _=>exact RevisionsBelow.bumped h done.written.accounts
 | released _ _ update=>exact RevisionsBelow.bumped h update.accounts
 | permitIssued _ _ _=>exact h.kept rfl
 | reserveCreated _ _ update=>exact RevisionsBelow.bumped h update.accounts
 | reserveSpent _ _ _ _=>exact h.kept rfl
 | reserveSettled _ _ update=>exact RevisionsBelow.bumped h update.accounts

lemma RevisionsSuffice.concat{calls:List Call}{call:Call}(h:RevisionsSuffice calls)
  (hlast:RevisionsLeft (execute step .new calls) call):RevisionsSuffice (calls++[call]):=by
 intro before call' after hcalls
 rcases eq_nil_or_concat after with rfl|⟨after',last,rfl⟩
 · obtain ⟨rfl,hlast'⟩:=append_inj' hcalls rfl
   cases hlast'
   exact hlast
 · have hsplit:calls++[call]=(before++call'::after')++[last]:=by
    rw [hcalls]
    simp
   obtain ⟨hcalls',-⟩:=append_inj' hsplit rfl
   exact h before call' after' hcalls'

lemma revisionsBelow_execute(calls:List Call)(revisions:RevisionsSuffice calls):
  RevisionsBelow calls.length (execute step .new calls):=by
 induction calls using List.reverseRecOn with
 | nil=>
  intro b account hacc
  simp [InMemoryBudgetLedger.new] at hacc
 | append_singleton calls call ih=>
  have hw:=execute_wellFormed calls
  have h:=history_conserved calls revisions.initial
  rw [execute_concat,length_append]
  exact (step_effect hw call).revisions
   (fun e he=>step_failed hw h.balanced (revisions calls call [] rfl) he) (ih revisions.initial)

lemma revisionsSuffice_of_length(calls:List Call)(h:calls.length<u64Limit):
  RevisionsSuffice calls:=by
 induction calls using List.reverseRecOn with
 | nil=>
  intro before call after hcalls
  simp at hcalls
 | append_singleton calls call ih=>
  rw [length_append,length_singleton] at h
  have hinit:=ih (by omega)
  refine hinit.concat fun b _ account hacc=>?_
  have hle:=revisionsBelow_execute calls hinit b account hacc
  omega

theorem budget_conservation (calls : List Call) (revisions : RevisionsSuffice calls) :
  let past := history step .new calls
  let s:=execute step .new calls
  (∀rid r,s.reservations[rid]?=some r → r.status=.committed → ∃actual,actualsOf past rid=[actual]) ∧
  ∀b,s.accounts.contains b=true → ∀key,AccountConserved past s b key := by
 intro past s
 have h:Conserved (actualsOf past) s:=history_conserved calls revisions
 refine ⟨fun rid r hr hstatus=>h.committed_once hr hstatus,fun b hb key => ?_⟩
 refine ⟨?_,?_,?_,?_,?_,?_,h.balanced.within b hb key⟩
 · rw [h.balanced.held b hb,heldTotal_eq_outstanding]
 · rw [h.committed b hb]
   apply h.charged_committed
   intro rid r hnil
   simp [actualAmount,hnil]
 · rw [h.overdraft b hb]
   apply h.charged_committed
   intro rid r hnil
   simp [excessAmount,hnil]
 · exact balanceAt_nonneg h.balanced.reservedBalance b key
 · exact balanceAt_nonneg h.balanced.committedBalance b key
 · exact balanceAt_nonneg h.balanced.overdraftBalance b key

def oneToken : UsageAmount := ⟨"tokens",1,"token",∅⟩

/-- Two accounts, and a reservation held on both of them. -/
def openingCalls : List Call :=
 [.allocate "root" "run" [oneToken] "policy" none,
  .allocate "child" "run" [oneToken] "policy" (some "root"),
  .reserve ⟨"child","worker",[oneToken],.task,"2030-01-01T00:00:00Z",none⟩]

theorem openingCalls_conserved : RevisionsSuffice openingCalls ∧
   AccountConserved (history step .new openingCalls) (execute step .new openingCalls) "root"
    (amountKey oneToken) :=
 ⟨revisionsSuffice_of_length _ (by decide),
  (budget_conservation openingCalls (revisionsSuffice_of_length _ (by decide))).2 "root"
   (by decide +kernel) _⟩

def drainRequest : ReservationRequest := ⟨"root","worker",[],.task,"2030-01-01T00:00:00Z",none⟩

def drainedCalls (k:ℕ) : List Call := openingCalls++List.replicate k (.reserve drainRequest)

/-- The ledger after `k` empty reservations on the root account. -/
structure Drained (k:ℕ) (s:InMemoryBudgetLedger) : Prop where
 root:∃account,s.accounts["root"]?=some account∧account.parentBudgetId=none∧account.revision=k+2
 child:∃account,s.accounts["child"]?=some account∧account.revision=2
 reservationCounter:s.reservationCounter=k+1
 fencingCounter:s.fencingCounter=k+1
 ids:∀(rid:String) r,s.reservations[rid]?=some r → ∃i≤k+1,rid=reservationIdOf i
 held:∃r,s.reservations[reservationIdOf 1]?=some r∧r.status=.reserved∧r.amounts=[oneToken]
 holds:s.reservationHolds[reservationIdOf 1]?=some ["child","root"]

lemma reservationIdOf_injective:Function.Injective reservationIdOf:=by
 intro m n h
 exact zeroPadded_injective 6 (append_left_injective "reservation-" h)

lemma opening_reservations:
  (execute step .new openingCalls).reservations.toList.map Prod.fst=[reservationIdOf 1]:=by
 decide +kernel

lemma drained_opening : Drained 0 (execute step .new openingCalls) where
 root:=by
  refine ⟨{ budgetId:="root",scope:="run",allocated:=[oneToken],parentBudgetId:=none,
            status:=.active,policyRef:="policy",revision:=2 },?_,rfl,rfl⟩
  decide +kernel
 child:=by
  refine ⟨{ budgetId:="child",scope:="run",allocated:=[oneToken],
            parentBudgetId:=some "root",status:=.active,policyRef:="policy",
            revision:=2 },?_,rfl⟩
  decide +kernel
 reservationCounter:=by decide +kernel
 fencingCounter:=by decide +kernel
 ids:=by
  intro rid r hr
  have hmem:rid∈(execute step .new openingCalls).reservations.toList.map Prod.fst:=
   List.mem_map.mpr ⟨(rid,r),ExtTreeMap.mem_toList_iff_getElem?_eq_some.mpr hr,rfl⟩
  rw [opening_reservations,mem_singleton] at hmem
  exact ⟨1,Nat.le_refl 1,hmem⟩
 held:=by
  refine ⟨{ reservationId:=reservationIdOf 1,budgetId:="child",owner:="worker",
            amounts:=[oneToken],purpose:=.task,expiresAt:="2030-01-01T00:00:00Z",
            fencingToken:=1,status:=.reserved },?_,rfl,rfl⟩
  decide +kernel
 holds:=by decide +kernel

variable {k:ℕ}

lemma reserve_completes(hw:WellFormed s)(hb:Balanced s)(request:ReservationRequest)
  {plan:HoldPlan}(hplan:reserveChecks s request.budgetId request.amounts=.ok plan){n:ℕ}
  (hn:checkedSucc s.reservationCounter=some n)(hk:checkedSucc s.fencingCounter=some k)
  (hfree:s.reservations[request.reservationId.getD (reservationIdOf n)]?=none)
  (hr:RevisionLeft s plan.heldBudgetIds):
  ∃s₁,HeldUpdate (addAmounts · plan.requested) plan.heldBudgetIds
    { s with reservationCounter:=n,fencingCounter:=k } s₁ ∧
   (reserve s request).2=addReservation s₁
    (reservationOf request (request.reservationId.getD (reservationIdOf n)) plan.requested k)
    plan.heldBudgetIds:=by
 have hc:=reserveChecks_ok hplan
 obtain ⟨s₁,hs₁⟩:=hold_completes hw hb hc hr n k
 have hupdate:=updateReserved_ok hs₁ hc.heldAmounts.nodup
 have htoken:s₁.fencingCounter=k:=by rw [hupdate.rest]
 refine ⟨s₁,hupdate,?_⟩
 have hfree':=(contains_eq_false_iff s.reservations).mpr hfree
 simp only [reserve,hplan,hn,hk,hfree',Bool.false_eq_true,if_false,hs₁]
 rw [←htoken]
 rfl

variable {account:BudgetAccount}

lemma rootChain(h:s.accounts["root"]?=some account)(hp:account.parentBudgetId=none):
  budgetChain s.accounts "root"=.ok ["root"]:=by
 simp [budgetChain,chainLoop,h,hp]

lemma drain_checks(hw:WellFormed s)(h:s.accounts["root"]?=some account)
  (hp:account.parentBudgetId=none):
  ∃requested,reserveChecks s "root" []=.ok ⟨requested,["root"]⟩:=by
 have hknown:=(contains_iff s.accounts).mpr ⟨account,h⟩
 have hvalid:validateUsageAmounts []=.ok ():=rfl
 obtain ⟨requested,hm,-,hat⟩:=amountsToMap_ok ((validateUsageAmounts_ok_iff []).mp hvalid)
 obtain ⟨al,hal⟩:=(contains_iff s.allocated).mp (hw.allocated "root" hknown)
 obtain ⟨re,hre⟩:=(contains_iff s.reserved).mp (hw.reserved "root" hknown)
 obtain ⟨co,hco⟩:=(contains_iff s.committed).mp (hw.committed "root" hknown)
 have hkey:exceededKey requested (availableAmounts al re co)=none:=by
  apply (exceededKey_none_iff fun key=>(available_le al re co key).2).mpr
  intro key
  rw [hat]
  exact (available_le al re co key).2
 have havailable:availableMap s "root"=.ok (availableAmounts al re co):=by
  simp only [availableMap,hal,balanceMap,hre,hco]
  rfl
 have hensure:ensureAvailable s requested ["root"]=.ok ():=by
  simp only [ensureAvailable,havailable,hkey]
 refine ⟨requested,?_⟩
 simp only [reserveChecks,bind_ok]
 exact ⟨(),by simp [ensure,hknown],(),hvalid,requested,hm,["root"],rootChain h hp,(),hensure,rfl⟩

lemma Drained.revisionLeft(h:Drained k s)(hk:k+3<u64Limit):RevisionLeft s ["root"]:=by
 obtain ⟨root,hroot,-,hrevision⟩:=h.root
 intro b hmem account hacc
 rw [mem_singleton] at hmem
 subst hmem
 rw [hroot] at hacc
 cases hacc
 omega

lemma Drained.next(h:Drained k s)(hw:WellFormed s)(hb:Balanced s)(hk:k+3<u64Limit):
  Drained (k+1) (step s (.reserve drainRequest)).2:=by
 obtain ⟨root,hroot,hparent,hrevision⟩:=h.root
 obtain ⟨requested,hchecks⟩:=drain_checks hw hroot hparent
 have hsucc:∀n,n=k+1→checkedSucc n=some (k+2):=by
  rintro n rfl
  exact if_pos (by omega)
 have hfree:s.reservations[reservationIdOf (k+2)]?=none:=by
  rw [←not_isSome_iff_eq_none,isSome_iff_exists]
  rintro ⟨r,hr⟩
  obtain ⟨i,hi,hid⟩:=h.ids _ r hr
  have:=reservationIdOf_injective hid
  omega
 obtain ⟨s₁,hupdate,hs'⟩:=reserve_completes hw hb drainRequest hchecks
  (hsucc _ h.reservationCounter) (hsucc _ h.fencingCounter) hfree (h.revisionLeft hk)
 have hstep:(step s (.reserve drainRequest)).2=(reserve s drainRequest).2:=rfl
 rw [hstep,hs']
 have hne:∀i,i≤k+1→ reservationIdOf (k+2)≠reservationIdOf i:=by
  intro i hi hid
  have:=reservationIdOf_injective hid
  omega
 have hframe:=hupdate.rebalanced
 obtain ⟨r,hr,hstatus,hamounts⟩:=h.held
 obtain ⟨child,hchild,hchildRevision⟩:=h.child
 refine ⟨?_,?_,?_,?_,?_,?_,?_⟩
 · refine ⟨{ root with revision:=root.revision+1 },?_,hparent,by simp [hrevision]⟩
   change s₁.accounts["root"]?=_
   rw [hupdate.accounts]
   simp [hroot,BudgetAccount.bump]
 · refine ⟨child,?_,hchildRevision⟩
   change s₁.accounts["child"]?=_
   rw [hupdate.accounts]
   simp [hchild,BudgetAccount.bump]
 · change s₁.reservationCounter=_
   rw [hupdate.rest]
 · change s₁.fencingCounter=_
   rw [hupdate.rest]
 · intro rid r' hr'
   rw [addReservation,hframe.reservations,lookup_insert] at hr'
   split at hr'
   · next hid=>exact ⟨k+2,Nat.le_refl _,hid.symm⟩
   · obtain ⟨i,hi,hid⟩:=h.ids rid r' hr'
     exact ⟨i,Nat.le_succ_of_le hi,hid⟩
 · refine ⟨r,?_,hstatus,hamounts⟩
   rw [addReservation,hframe.reservations]
   exact (lookup_insert_ne _ _ (hne 1 (by omega))).trans hr
 · rw [addReservation,hframe.reservationHolds]
   exact (lookup_insert_ne _ _ (hne 1 (by omega))).trans h.holds

lemma drainedCalls_succ(k:ℕ):drainedCalls (k+1)=drainedCalls k++[.reserve drainRequest]:=by
 rw [drainedCalls,drainedCalls,append_assoc,replicate_succ']

lemma drained(k:ℕ)(hk:k+3≤u64Limit):
  Drained k (execute step .new (drainedCalls k))∧RevisionsSuffice (drainedCalls k):=by
 induction k with
 | zero=>exact ⟨drained_opening,revisionsSuffice_of_length openingCalls (by decide)⟩
 | succ k ih=>
  obtain ⟨h,hrevisions⟩:=ih (by omega)
  have hconserved:=history_conserved _ hrevisions
  obtain ⟨root,hroot,hparent,-⟩:=h.root
  rw [drainedCalls_succ,execute_concat]
  refine ⟨h.next (execute_wellFormed _) hconserved.balanced (by omega),?_⟩
  refine hrevisions.concat ?_
  have htouched:touchedBudgets (execute step .new (drainedCalls k)) (.reserve drainRequest) =
    ["root"]:=by
   simp only [touchedBudgets,touchedBudgets.chainOrNil,drainRequest,rootChain hroot hparent]
  rw [RevisionsLeft,htouched]
  exact h.revisionLeft (by omega)

lemma ensureBalances_ok{held:List String}
  (h:∀b∈held,s.reserved.contains b=true):ensureBalances s held=.ok ():=by
 induction held with
 | nil=>rfl
 | cons b held ih=>
  obtain ⟨m,hm⟩:=(contains_iff s.reserved).mp (h b mem_cons_self)
  rw [ensureBalances,balanceMap_ok.mpr hm]
  exact ih fun b' hb'=>h b' (mem_cons_of_mem _ hb')

lemma releaseChecks_of_reserved(hw:WellFormed s){rid:String}{r:BudgetReservation}
  (h:s.reservations[rid]?=some r)(hstatus:r.status=.reserved):
  ∃m,IsBalance m∧r.amounts=mapToAmounts m∧releaseChecks s rid=.ok ⟨r,m,heldBudgetIds s rid r⟩:=by
 have hheld:=(hw.holds h).2
 obtain ⟨m,hm,hamounts⟩:=hheld.amounts
 refine ⟨m,hm,hamounts,?_⟩
 simp only [releaseChecks,bind_ok]
 refine ⟨r,by simp [reservedReservation,h,hstatus],m,?_,(),?_,rfl⟩
 · rw [hamounts]
   exact amountsToMap_mapToAmounts hm
 · exact ensureBalances_ok fun b hb=>hw.reserved b (hheld.known b hb)

/-- The last account of a chain has no revision left: the balance before it is already written. -/
lemma updateReserved_stops(update:AmountMap→Except BudgetError AmountMap){b c:String}
  {last:BudgetAccount}{m m' n n':AmountMap}(hne:b≠c)(hb:s.accounts[b]?=some account)
  (hleft:account.revision+1<u64Limit)(hc:s.accounts[c]?=some last)
  (hused:¬last.revision+1<u64Limit)(hm:s.reserved[b]?=some m)(hm':update m=.ok m')
  (hn:s.reserved[c]?=some n)(hn':update n=.ok n'):
  (updateReserved update [b,c] s).2.reserved[b]?=some m' ∧
   ∃e,(updateReserved update [b,c] s).1=.error e:=by
 have hsucc:checkedSucc account.revision=some (account.revision+1):=if_pos hleft
 have hlast:checkedSucc last.revision=none:=if_neg hused
 simp only [updateReserved,balanceMap,hm,hm',bumpRevision,hb,hsucc,hn,hn',hc,hlast,
  lookup_insert_ne _ _ hne,lookup_insert_ne _ _ hne.symm,lookup_insert_self]
 exact ⟨trivial,_,rfl⟩

lemma Drained.release_unbalanced(h:Drained k s)(hw:WellFormed s)(hb:Balanced s)(hk:k+3=u64Limit):
  (step s (.release (reservationIdOf 1))).2.accounts.contains "child"=true ∧
  balanceAt (step s (.release (reservationIdOf 1))).2.reserved "child" (amountKey oneToken) ≠
   outstanding (step s (.release (reservationIdOf 1))).2 "child" (amountKey oneToken):=by
 obtain ⟨r,hr,hstatus,hamounts⟩:=h.held
 obtain ⟨m,hm,hmap,hchecks⟩:=releaseChecks_of_reserved hw hr hstatus
 have hheld:heldBudgetIds s (reservationIdOf 1) r=["child","root"]:=by
  rw [heldBudgetIds,h.holds]
  rfl
 have hone:amountAt m (amountKey oneToken)=1:=by
  rw [←amountOf_mapToAmounts hm,←hmap,hamounts]
  decide +kernel
 obtain ⟨child,hchild,hchildRevision⟩:=h.child
 obtain ⟨root,hroot,-,hrootRevision⟩:=h.root
 have hcovered:∀b∈["child","root"],∃re re',s.reserved[b]?=some re∧subtractAmounts re m=.ok re':=by
  intro b hmem
  rw [←hheld] at hmem
  refine subtracts hw hb hm ((hw.holds hr).2.known b hmem) fun key=>?_
  rw [←amountOf_mapToAmounts hm,←hmap]
  exact reservation_covered hw hb hr hstatus hmem key
 obtain ⟨re,re',hre,hsub⟩:=hcovered "child" (by simp)
 obtain ⟨ro,ro',hro,hsub'⟩:=hcovered "root" (by simp)
 obtain ⟨hchildAfter,e,herror⟩:=updateReserved_stops (subtractAmounts · m)
  (b:="child") (c:="root") (by decide) hchild (by rw [hchildRevision];decide) hroot
  (by omega) hre hsub hro hsub'
 have hframe:=updateReserved_frame (subtractAmounts · m) ["child","root"] s
 have hafter:(step s (.release (reservationIdOf 1))).2 =
   (updateReserved (subtractAmounts · m) ["child","root"] s).2:=by
  have hpair:updateReserved (subtractAmounts · m) ["child","root"] s =
    (.error e,(updateReserved (subtractAmounts · m) ["child","root"] s).2):=
   Prod.ext herror rfl
  rw [step,Outcome.as,release,releaseAs,hchecks]
  simp only [hheld]
  rw [hpair]
 have hknown:=(contains_iff s.accounts).mpr ⟨child,hchild⟩
 refine ⟨by rw [hafter,hframe.contains,hknown],?_⟩
 rw [hafter,←heldTotal_eq_outstanding,hframe.heldTotal,←hb.held "child" hknown,
  balanceAt_of_lookup hchildAfter,balanceAt_of_lookup hre]
 have hbal:=hb.reservedBalance "child" re hre
 obtain ⟨-,hat⟩:=subtractAmounts_spec hbal hm (fun key=>by
  rw [←balanceAt_of_lookup hre,←amountOf_mapToAmounts hm,←hmap]
  exact reservation_covered hw hb hr hstatus (by simp [hheld]) key) hsub
 rw [hat,hone]
 omega

lemma exhausted_unbalanced(hk:k+3=u64Limit):
  ∃calls,(execute step .new calls).accounts.contains "child"=true ∧
   ¬AccountConserved (history step .new calls) (execute step .new calls) "child"
    (amountKey oneToken):=by
 obtain ⟨hd,hrevisions⟩:=drained k (by omega)
 have hb:=(history_conserved _ hrevisions).balanced
 obtain ⟨hknown,hbad⟩:=hd.release_unbalanced (execute_wellFormed _) hb hk
 refine ⟨drainedCalls k++[.release (reservationIdOf 1)],?_,fun hgood=>?_⟩
 · rw [execute_concat]
   exact hknown
 · rw [execute_concat] at hgood
   exact hbad hgood.reserved

/-- Without the condition on revisions the law fails. -/
theorem conservation_fails_at_last_revision : ¬ ∀(calls:List Call) (b:String),
   (execute step .new calls).accounts.contains b=true → ∀key,
    AccountConserved (history step .new calls) (execute step .new calls) b key := by
 intro hall
 have hlimit:u64Limit-3+3=u64Limit:=by decide
 obtain ⟨calls,hknown,hbad⟩:=exhausted_unbalanced hlimit
 exact hbad (hall calls "child" hknown _)

/-- A failed call leaves the ledger as it was exactly when its reservation id was free. -/
theorem failed_calls_invisible_iff (calls : List Call) (revisions : RevisionsSuffice calls) :
  ∀t∈history step .new calls,∀e,t.response=.error e →
   (t.after=t.before↔takesUsedId t.before t.call=false) := by
 intro t ht e he
 obtain ⟨before,call,after,hcalls,rfl⟩:=mem_history step ht
 have hearlier:RevisionsSuffice before:=by
  intro before' call' after' hbefore
  exact revisions before' call' (after'++call::after) (by simp [hcalls,hbefore])
 have hb:=(history_conserved before hearlier).balanced
 have hfailed:=step_failed (execute_wellFormed before) hb (revisions before call after hcalls) he
 change (step (execute step .new before) call).2=execute step .new before ↔
  takesUsedId (execute step .new before) call=false
 generalize (step (execute step .new before) call).2=s' at hfailed
 cases hfailed with
 | unchanged free=>exact ⟨fun _=>free,fun _=>rfl⟩
 | advanced used moved=>
  constructor
  · intro heq
    have hcounter:=congrArg InMemoryBudgetLedger.reservationCounter heq
    simp only at hcounter
    omega
  · intro hfree
    rw [hfree] at used
    cases used

def unknownBudgetRequest : ReservationRequest :=
 ⟨"missing","worker",[],.task,"2030-01-01T00:00:00Z",none⟩

theorem unknownBudget_invisible : RevisionsSuffice (openingCalls++[.reserve unknownBudgetRequest]) ∧
   ∀t∈history step .new (openingCalls++[.reserve unknownBudgetRequest]),∀e,t.response=.error e →
     (t.after=t.before↔takesUsedId t.before t.call=false) :=
 ⟨revisionsSuffice_of_length _ (by decide),
  failed_calls_invisible_iff _ (revisionsSuffice_of_length _ (by decide))⟩

def takenRequest : ReservationRequest :=
 ⟨"root","worker",[],.task,"2030-01-01T00:00:00Z",some "reservation-000001"⟩

theorem taken_id_moves_counters :
  ¬ ∀(calls:List Call),∀t∈history step .new calls,∀e,t.response=.error e→t.after=t.before := by
 intro hall
 have hmem:takeStep step (execute step .new openingCalls) (.reserve takenRequest) ∈
   history step .new (openingCalls++[.reserve takenRequest]):=by
  rw [history_concat]
  exact mem_append_right _ (mem_singleton_self _)
 have hbefore:(execute step .new openingCalls).reservationCounter=1:=by decide +kernel
 have hafter:(step (execute step .new openingCalls) (.reserve takenRequest)).2.reservationCounter
   = 2:=by decide +kernel
 have hresponse:(step (execute step .new openingCalls) (.reserve takenRequest)).1.isOk=false:=by
  decide +kernel
 cases he:(step (execute step .new openingCalls) (.reserve takenRequest)).1 with
 | ok r=>
  rw [he] at hresponse
  cases hresponse
 | error e=>
  have heq:=congrArg InMemoryBudgetLedger.reservationCounter (hall _ _ hmem e he)
  rw [takeStep,hbefore,hafter] at heq
  cases heq

end GraphBlocks.Budget
