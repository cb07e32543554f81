import GraphBlocks.BudgetEffects

namespace GraphBlocks.Budget
open Std OrderedMap RustStd Usage MachineRuns List Option Std.ExtTreeMap

variable {s s':InMemoryBudgetLedger} {held:List String} {s₁:InMemoryBudgetLedger}

lemma HeldUpdate.rebalanced{update:AmountMap→Except BudgetError AmountMap}
  (h:HeldUpdate update held s s₁):Rebalanced s s₁:=by
 refine ⟨?_,?_,?_,?_,?_,?_,?_,?_,?_,?_,?_⟩
 · intro b
   rw [h.accounts b,Option.map_map]
   congr 1
   funext account
   unfold BudgetAccount.bump
   simp only [Function.comp_apply]
   split <;>rfl
 · rw [h.rest]
 · intro b
   by_cases hb:b∈held
   · obtain ⟨m,m',hm,-,hm'⟩:=h.inside b hb
     rw [(contains_iff s.reserved).mpr ⟨m,hm⟩,(contains_iff s₁.reserved).mpr ⟨m',hm'⟩]
   · rw [contains_eq_isSome_getElem?,h.outside b hb,←contains_eq_isSome_getElem?]
 all_goals first
  | (intro b;rw [h.rest])
  | rw [h.rest]

variable {r:BudgetReservation}

lemma settle_completes(rid:String)(committed released overdraft:List UsageAmount)
  (status:ReservationStatus)(h:s.accounts.contains r.budgetId=true):
  ∃account,s.accounts[r.budgetId]?=some account∧settle s rid r committed released overdraft status =
    (.ok { reservationId:=rid,budgetId:=r.budgetId,committed,released,overdraft,
           status,revision:=account.revision },setStatus s rid r status):=by
 obtain ⟨account,ha⟩:=(contains_iff s.accounts).mp h
 refine ⟨account,ha,?_⟩
 unfold settle
 simp only [ha]
 rfl

variable {rid:String} {actual:List UsageAmount} {plan:CommitPlan}

lemma CommitChecked.known(hw:WellFormed s)(h:CommitChecked s rid actual plan):
  ∀u∈plan.balances,s.reserved.contains u.budgetId=true ∧
   s.committed.contains u.budgetId=true∧s.overdraft.contains u.budgetId=true:=by
 intro u hu
 obtain ⟨hids,-⟩:=updatedBalances_ok h.balances
 have hmem:u.budgetId∈heldBudgetIds s rid plan.reservation:=hids▸List.mem_map_of_mem hu
 have hacc:=(hw.holds h.found).2.known _ hmem
 exact ⟨hw.reserved _ hacc,hw.committed _ hacc,hw.overdraft _ hacc⟩

lemma CommitChecked.nodup(hw:WellFormed s)(h:CommitChecked s rid actual plan):
  (plan.balances.map UpdatedBalance.budgetId).Nodup:=by
 rw [(updatedBalances_ok h.balances).1]
 exact (hw.holds h.found).2.nodup

lemma commitInner_effect(hw:WellFormed s)(rid:String)(actual:List UsageAmount)
  (limit:Option (List UsageAmount)):
  (∃e,(commitInner s rid actual limit).1=.error e∧Rebalanced s (commitInner s rid actual limit).2) ∨
  ∃plan revision s₁,CommitDone s rid actual plan revision s₁∧commitInner s rid actual limit =
    (.ok (commitSettlement rid plan revision),setStatus s₁ rid plan.reservation .committed):=by
 unfold commitInner
 split
 · next e _=>exact .inl ⟨e,rfl,.refl s⟩
 · next plan hplan=>
   have hc:=commitChecks_ok hw hplan
   have hframe:=writeBalances_frame (hc.known hw)
   split
   · next e s₁ hs₁=>
     rw [hs₁] at hframe
     exact .inl ⟨e,rfl,hframe⟩
   · next s₁ hs₁=>
     rw [hs₁] at hframe
     right
     have hacc:s₁.accounts.contains plan.reservation.budgetId=true:=by
      rw [hframe.contains]
      exact (hw.holds hc.found).2.known _ (hw.holds hc.found).2.owner
     obtain ⟨account,ha,hsettle⟩:=settle_completes rid (mapToAmounts plan.actual)
      (mapToAmounts (excessAmounts plan.reserved plan.actual)) (mapToAmounts plan.overdraft)
      .committed hacc
     refine ⟨plan,account.revision,s₁,⟨hc,writeBalances_ok hs₁ (hc.nodup hw),account,ha,rfl⟩,?_⟩
     rw [hsettle]
     rfl

lemma releaseAs_effect(hw:WellFormed s)(status:ReservationStatus)(rid:String):
  (∃e,(releaseAs s status rid).1=.error e∧Rebalanced s (releaseAs s status rid).2) ∨
  ∃plan revision s₁,ReleaseChecked s rid plan ∧
   HeldUpdate (subtractAmounts · plan.reserved) plan.heldBudgetIds s s₁ ∧
   releaseAs s status rid=(.ok (releaseSettlement rid plan status revision),
     setStatus s₁ rid plan.reservation status):=by
 unfold releaseAs
 split
 · next e _=>exact .inl ⟨e,rfl,.refl s⟩
 · next plan hplan=>
   have hc:=releaseChecks_ok hw hplan
   have hframe:=updateReserved_frame (subtractAmounts · plan.reserved) plan.heldBudgetIds s
   split
   · next e s₁ hs₁=>
     rw [hs₁] at hframe
     exact .inl ⟨e,rfl,hframe⟩
   · next s₁ hs₁=>
     rw [hs₁] at hframe
     right
     have hheld:=(hw.holds hc.found).2
     have hacc:s₁.accounts.contains plan.reservation.budgetId=true:=by
      rw [hframe.contains]
      exact hheld.known _ hheld.owner
     obtain ⟨account,-,hsettle⟩:=settle_completes rid [] (mapToAmounts plan.reserved) []
      status hacc
     refine ⟨plan,account.revision,s₁,hc,updateReserved_ok hs₁ (hc.held▸hheld.nodup),?_⟩
     rw [hsettle]
     rfl

lemma allocate_effect(budgetId scope:String)(amounts:List UsageAmount)
  (policyRef:String)(parent:Option String):
  Effect s (.allocate budgetId scope amounts policyRef parent)
   (step s (.allocate budgetId scope amounts policyRef parent)).1
   (step s (.allocate budgetId scope amounts policyRef parent)).2:=by
 simp only [step,Outcome.as]
 unfold allocate
 split
 · exact .refused (.refl s)
 · next hfresh=>
   split
   · exact .refused (.refl s)
   · next hparent=>
     split
     · exact .refused (.refl s)
     · next hv=>
       split
       · exact .refused (.refl s)
       · next allocated hm=>
         obtain ⟨m,hm',hbal,-⟩:=amountsToMap_ok ((validateUsageAmounts_ok_iff amounts).mp hv)
         rw [hm'] at hm
         cases hm
         refine Effect.opened (Bool.eq_false_iff.mpr hfresh) ?_ hbal
         rintro p rfl
         simpa [Option.filter] using hparent

lemma reserve_effect(request:ReservationRequest):
  Effect s (.reserve request) (step s (.reserve request)).1 (step s (.reserve request)).2:=by
 simp only [step,Outcome.as]
 unfold reserve
 split
 · exact .refused (.refl s)
 · next plan hplan=>
   have hc:=reserveChecks_ok hplan
   split
   · exact .refused (.refl s)
   · next n _=>
     split
     · exact .refused (.refl s)
     · next k _=>
       have hcounters:Rebalanced s { s with reservationCounter:=n,fencingCounter:=k }:=
        ⟨fun _=>rfl,rfl,fun _=>rfl,fun _=>rfl,fun _=>rfl,rfl,rfl,rfl,rfl,rfl,rfl⟩
       simp only
       split
       · exact .refused hcounters
       · next hfree=>
         have hframe:=updateReserved_frame (addAmounts · plan.requested) plan.heldBudgetIds
          { s with reservationCounter:=n,fencingCounter:=k }
         split
         · next hs₁=>
           rw [hs₁] at hframe
           exact .refused (hcounters.trans hframe)
         · next s₁ hs₁=>
           have hupdate:=updateReserved_ok hs₁ hc.heldAmounts.nodup
           have htoken:s₁.fencingCounter=k:=by rw [hupdate.rest]
           have hfresh:s.reservations[request.reservationId.getD (reservationIdOf n)]?=none:=by
            rw [←contains_eq_false_iff]
            exact Bool.eq_false_iff.mpr hfree
           subst htoken
           exact Effect.reserved hc rfl hfresh hupdate

variable {m:AmountMap}

lemma authorizeLoop_balance(hw:WellFormed s){ids:List String}{authorized:AmountMap}
  {tokens tokens':StringMap ℕ}(ha:IsBalance authorized)
  (h:authorizeLoop s ids authorized tokens=.ok (m,tokens')):IsBalance m:=by
 induction ids generalizing authorized tokens with
 | nil=>
  cases h
  exact ha
 | cons id ids ih=>
  simp only [authorizeLoop,bind_ok] at h
  obtain ⟨r,hr,amounts,ham,next,hnext,h⟩:=h
  have hbal:=((hw.holds (reservedReservation_ok hr).1).2.map_eq ham).1
  exact ih (addAmounts_spec ha hbal hnext).1 h

lemma issuePermit_effect(hw:WellFormed s)(request:PermitRequest):
  Effect s (.issuePermit request) (step s (.issuePermit request)).1
   (step s (.issuePermit request)).2:=by
 simp only [step,Outcome.as]
 unfold issuePermit
 split
 · exact .refused (.refl s)
 · next authorized tokens hchecks=>
   simp only [permitChecks,bind_ok,ensure_ok] at hchecks
   obtain ⟨_,_,_,_,_,hfree,hloop⟩:=hchecks
   refine Effect.permitIssued ?_ (authorizeLoop_balance hw isBalance_empty hloop) hloop
   rw [←contains_eq_false_iff]
   simpa only [Bool.not_eq_true'] using hfree

lemma uncoveredBudget_none{tokens:StringMap ℕ}{required:ℕ}
  (h:uncoveredBudget tokens required held=none):
  ∀b∈held,∃token,tokens[b]?=some token∧required≤token:=by
 intro b hb
 have hb':=List.find?_eq_none.mp h b hb
 cases ht:tokens[b]? with
 | none=>
  simp only [ht] at hb'
  exact absurd trivial hb'
 | some token=>
  simp only [ht,decide_eq_true_eq,Nat.not_lt] at hb'
  exact ⟨token,rfl,hb'⟩

/-- What the check of a permit against a reservation guarantees. -/
structure PermitValid (s:InMemoryBudgetLedger) (pid rid:String) (permit:BudgetPermit)
  (r:BudgetReservation) : Prop where
 issued:s.permits[pid]?=some permit
 found:s.reservations[rid]?=some r
 listed:rid∈permit.reservationRefs
 covered:∀b∈heldBudgetIds s rid r,∃token,permit.fencingTokens[b]?=some token∧r.fencingToken≤token

variable {pid:String}

lemma validatePermitForReservation_ok(h:validatePermitForReservation s pid rid=.ok r):
  ∃permit,PermitValid s pid rid permit r:=by
 unfold validatePermitForReservation at h
 split at h
 · cases h
 · next permit hp=>
   split at h
   · cases h
   · next r' hr=>
     unfold permitCovers at h
     split at h
     · cases h
     · next hlisted=>
       split at h
       · cases h
       · next hcovered=>
         cases h
         exact ⟨permit,hp,hr,not_not.mp hlisted,uncoveredBudget_none hcovered⟩

lemma unauthorizedKey_none{authorized spent requested:AmountMap}
  (hs:∀key,amountAt spent key≤amountAt authorized key)
  (h:unauthorizedKey authorized spent requested=none)(key:AmountKey):
  amountAt spent key+amountAt requested key≤amountAt authorized key:=by
 rw [unauthorizedKey,map_eq_none_iff,List.find?_eq_none] at h
 rw [amountAt_eq requested]
 cases hk:requested[key]? with
 | none=>
  have:=hs key
  simp only [getD_none]
  omega
 | some n=>
  have hn:=h (key,n) (mem_toList_iff_getElem?_eq_some.mpr hk)
  simp only at hn
  cases hadd:checkedAddI64 (amountAt spent key) n with
  | none=>
   rw [hadd] at hn
   exact absurd rfl hn
  | some total=>
   rw [hadd] at hn
   have htotal:=(checkedI64_eq_some.mp hadd).1
   simp only [decide_eq_true_eq] at hn
   simp only [getD_some]
   omega

lemma permitCommitChecks_ok(hw:WellFormed s){now:Option String}
  (h:permitCommitChecks s pid rid actual now=.ok m):
  PermitChecked s pid rid actual∧amountsToMap actual=.ok m:=by
 simp only [permitCommitChecks,bind_ok] at h
 obtain ⟨_,_,r,hr,_,_,actualMap,hact,_,hallow,h⟩:=h
 cases h
 obtain ⟨permit,hvalid⟩:=validatePermitForReservation_ok hr
 obtain ⟨authorized,spent,hbal,hauth,hspent,hspentbal,hle⟩:=
  (hw.permits pid permit hvalid.issued).within
 unfold ensurePermitAllowsAdditional at hallow
 rw [hvalid.issued] at hallow
 simp only [bind_ok,hauth,amountsToMap_mapToAmounts hbal,hspent,getD_some,
  Except.ok.injEq,exists_eq_left'] at hallow
 split at hallow
 · cases hallow
 · next hkey=>
   exact ⟨⟨permit,r,authorized,spent,_,hvalid.issued,hvalid.found,hvalid.listed,
    hvalid.covered,hauth,hbal,hspent,hspentbal,hact,
    unauthorizedKey_none hle hkey⟩,hact⟩

lemma PermitChecked.spends(h:PermitChecked s pid rid actual)
  (hact:amountsToMap actual=.ok m)(hm:IsBalance m):
  ∃spent spent',s.permitSpent[pid]?=some spent∧addAmounts spent m=.ok spent':=by
 obtain ⟨permit,r,authorized,spent,m',-,-,-,-,-,hauth,hspent,hspentbal,hact',hle⟩:=h.permit
 have hm':m'=m:=by
  rw [hact] at hact'
  exact (Except.ok.inj hact').symm
 obtain ⟨spent',hadd,-,-⟩:=addAmounts_ok hspentbal hm (fun key=>by
  have h₁:=hle key
  have h₂:=(hauth.range key).2
  rw [hm'] at h₁
  omega)
 exact ⟨spent,spent',hspent,hadd⟩

variable {call:Call}

lemma commitWithPermitInner_effect(hw:WellFormed s)(hcall:PermitCommit call pid rid actual)
  (now:Option String):
  Effect s call ((commitWithPermitInner s pid rid actual now).as .settlement).1
   ((commitWithPermitInner s pid rid actual now).as .settlement).2:=by
 simp only [Outcome.as]
 unfold commitWithPermitInner
 split
 · exact .refused (.refl s)
 · next m hm=>
   obtain ⟨hchecked,hact⟩:=permitCommitChecks_ok hw hm
   rcases commitInner_effect hw rid actual none with ⟨e,he,hframe⟩|⟨plan,n,s₁,hdone,heq⟩
   · split
     · next s₁ hs₁=>
       unfold commit at hs₁
       rw [hs₁] at hframe
       exact .refused hframe
     · next hs₁=>
       unfold commit at hs₁
       rw [hs₁] at he
       cases he
   · unfold commit
     rw [heq]
     simp only
     have hplan:plan.actual=m:=by
      have:=hdone.checked.actual
      rw [hact] at this
      exact (Except.ok.inj this).symm
     have hsame:(setStatus s₁ rid plan.reservation .committed).permitSpent=s.permitSpent:=by
      rw [hdone.written.rest]
      rfl
     obtain ⟨spent,spent',hspent,hadd⟩:=hchecked.spends hact (hplan▸hdone.checked.actualBalance)
     rw [hsame,hspent]
     simp only [getD_some,hadd]
     exact Effect.permitCommitted hcall hchecked hdone hspent (hplan▸hadd)

lemma releaseWithPermitInner_effect(hw:WellFormed s)(hcall:Releases call rid .released)
  (now:Option String):
  Effect s call ((releaseWithPermitInner s pid rid now).as .settlement).1
   ((releaseWithPermitInner s pid rid now).as .settlement).2:=by
 simp only [Outcome.as]
 unfold releaseWithPermitInner
 split
 · exact .refused (.refl s)
 · split
   · exact .refused (.refl s)
   · unfold release
     rcases releaseAs_effect hw .released rid with ⟨e,he,hframe⟩|⟨plan,n,s₁,hc,hu,heq⟩
     · rw [he]
       exact .refused hframe
     · rw [heq]
       exact .released hcall hc hu

lemma createCompletionReserve_effect(request:ReserveRequest):
  Effect s (.createCompletionReserve request) (step s (.createCompletionReserve request)).1
   (step s (.createCompletionReserve request)).2:=by
 simp only [step,Outcome.as]
 unfold createCompletionReserve
 split
 · exact .refused (.refl s)
 · next plan hplan=>
   obtain ⟨hfresh,hc⟩:=completionReserveChecks_ok hplan
   split
   · exact .refused (.refl s)
   · next k _=>
     have hcounter:Rebalanced s { s with fencingCounter:=k }:=
      ⟨fun _=>rfl,rfl,fun _=>rfl,fun _=>rfl,fun _=>rfl,rfl,rfl,rfl,rfl,rfl,rfl⟩
     have hframe:=updateReserved_frame (addAmounts · plan.requested) plan.heldBudgetIds
      { s with fencingCounter:=k }
     split
     · next hs₁=>
       rw [hs₁] at hframe
       exact .refused (hcounter.trans hframe)
     · next s₁ hs₁=>
       have hupdate:=updateReserved_ok hs₁ hc.heldAmounts.nodup
       have htoken:s₁.fencingCounter=k:=by rw [hupdate.rest]
       have hholds:s₁.completionReserveHolds=s.completionReserveHolds:=by rw [hupdate.rest]
       subst htoken
       rw [hholds]
       exact Effect.reserveCreated hfresh hc hupdate

lemma spendCompletionReserve_effect(cid spender expiresAt:String):
  Effect s (.spendCompletionReserve cid spender expiresAt)
   (step s (.spendCompletionReserve cid spender expiresAt)).1
   (step s (.spendCompletionReserve cid spender expiresAt)).2:=by
 simp only [step,Outcome.as]
 unfold spendCompletionReserve
 split
 · exact .refused (.refl s)
 · next c hc=>
   obtain ⟨hfound,hstatus⟩:=spendChecks_ok hc
   split
   · exact .refused (.refl s)
   · next n _=>
     simp only
     split
     · exact .refused ⟨fun _=>rfl,rfl,fun _=>rfl,fun _=>rfl,fun _=>rfl,rfl,rfl,rfl,rfl,rfl,rfl⟩
     · next hfree=>
       have hfresh:s.reservations[reservationIdOf n]?=none:=by
        rw [←contains_eq_false_iff]
        exact Bool.eq_false_iff.mpr hfree
       exact Effect.reserveSpent hfound hstatus hfresh rfl

variable {cid:String}

lemma settleCompletionReserve_effect(hw:WellFormed s){status:CompletionReserveStatus}
  (hcall:SettlesReserve call cid status):
  Effect s call ((settleCompletionReserve s cid status).as .reserve).1
   ((settleCompletionReserve s cid status).as .reserve).2:=by
 simp only [Outcome.as]
 unfold settleCompletionReserve
 split
 · exact .refused (.refl s)
 · next plan hplan=>
   have hc:=settleReserveChecks_ok hw hplan
   have hframe:=updateReserved_frame (subtractAmounts · plan.reserved) plan.heldBudgetIds s
   split
   · next hs₁=>
     rw [hs₁] at hframe
     exact .refused hframe
   · next s₁ hs₁=>
     have hn:plan.heldBudgetIds.Nodup:=hc.held▸(hw.heldReserve hc.found).2.nodup
     exact Effect.reserveSettled hcall hc (updateReserved_ok hs₁ hn)

lemma directCommit_effect(hw:WellFormed s)(hcall:DirectCommit call rid actual)
  (limit:Option (List UsageAmount)):
  Effect s call ((commitInner s rid actual limit).as .settlement).1
   ((commitInner s rid actual limit).as .settlement).2:=by
 simp only [Outcome.as]
 rcases commitInner_effect hw rid actual limit with ⟨e,he,hframe⟩|⟨plan,n,s₁,hdone,heq⟩
 · rw [he]
   exact .refused hframe
 · rw [heq]
   exact .committed hcall hdone

lemma directRelease_effect(hw:WellFormed s){status:ReservationStatus}
  (hcall:Releases call rid status):
  Effect s call ((releaseAs s status rid).as .settlement).1
   ((releaseAs s status rid).as .settlement).2:=by
 simp only [Outcome.as]
 rcases releaseAs_effect hw status rid with ⟨e,he,hframe⟩|⟨plan,n,s₁,hc,hu,heq⟩
 · rw [he]
   exact .refused hframe
 · rw [heq]
   exact .released hcall hc hu

lemma read_effect(hcall:call.isRead=true){α:Type}(r:Except BudgetError α){wrap:α→Response}
  (hwrap:∀a,(wrap a).isRead=true):Effect s call (r.map wrap) s:=by
 cases r with
 | error e=>exact .refused (.refl s)
 | ok a=>exact .read hcall (hwrap a)

section
variable (hw:WellFormed s)
include hw

/-- The case analysis of the whole interface. -/
lemma step_effect(call:Call):Effect s call (step s call).1 (step s call).2:=by
 cases call with
 | allocate budgetId scope amounts policyRef parent=>
  exact allocate_effect budgetId scope amounts policyRef parent
 | reserve request=>exact reserve_effect request
 | commit rid actual=>exact directCommit_effect hw (.plain rid actual) none
 | commitWithOverdraftLimit rid actual limit=>
  exact directCommit_effect hw (.limited rid actual limit) (some limit)
 | release rid=>exact directRelease_effect hw (.release rid)
 | expire rid=>exact directRelease_effect hw (.expire rid)
 | issuePermit request=>exact issuePermit_effect hw request
 | commitWithPermit pid rid actual=>
  exact commitWithPermitInner_effect hw (.plain pid rid actual) none
 | commitWithPermitAt pid rid actual now=>
  exact commitWithPermitInner_effect hw (.timed pid rid actual now) (some now)
 | releaseWithPermit pid rid=>exact releaseWithPermitInner_effect hw (.permit pid rid) none
 | releaseWithPermitAt pid rid now=>
  exact releaseWithPermitInner_effect hw (.permitAt pid rid now) (some now)
 | createCompletionReserve request=>exact createCompletionReserve_effect request
 | spendCompletionReserve cid spender expiresAt=>
  exact spendCompletionReserve_effect cid spender expiresAt
 | releaseCompletionReserve cid=>exact settleCompletionReserve_effect hw (.release cid)
 | expireCompletionReserve cid=>exact settleCompletionReserve_effect hw (.expire cid)
 | balance budgetId=>exact read_effect rfl _ fun _=>rfl
 | completionReserve reserveId=>exact read_effect rfl _ fun _=>rfl

lemma WellFormed.counters(n k:ℕ):WellFormed { s with reservationCounter:=n,fencingCounter:=k }:=
 { hw with reservations:=hw.reservations,reserves:=hw.reserves,permits:=hw.permits }

lemma WellFormed.addReservation(ham:HeldAmounts s.accounts r.amounts r.budgetId held):
  WellFormed (addReservation s r held):=by
 refine { hw with reservations := ?_,reserves:=hw.reserves,permits:=hw.permits }
 · intro rid r' hr
   simp only [Budget.addReservation,lookup_insert] at hr ⊢
   split at hr
   · next hid=>
     cases hr
     exact ⟨held,by simp [hid],ham⟩
   · next hid=>
     rw [if_neg hid]
     exact hw.reservations rid r' hr

lemma WellFormed.setStatus(hr:s.reservations[rid]?=some r)
  (status:ReservationStatus):WellFormed (setStatus s rid r status):=by
 refine { hw with reservations := ?_,reserves:=hw.reserves,permits:=hw.permits }
 · intro rid' r' hr'
   simp only [Budget.setStatus,lookup_insert] at hr'
   split at hr'
   · next hid=>
     cases hr'
     subst hid
     exact hw.reservations rid r hr
   · exact hw.reservations rid' r' hr'

lemma WellFormed.setReserve{c:CompletionReserve}
  (ham:HeldAmounts s.accounts c.amounts c.budgetId held)
  (hheld:s.completionReserveHolds[cid]?=some held):WellFormed (setReserve s cid c):=by
 refine { hw with reservations:=hw.reservations,reserves := ?_,permits:=hw.permits }
 · intro cid' c' hc'
   simp only [Budget.setReserve,lookup_insert] at hc'
   split at hc'
   · next hid=>
     cases hc'
     subst hid
     exact ⟨held,hheld,ham⟩
   · exact hw.reserves cid' c' hc'

lemma WellFormed.holdReserve{c:CompletionReserve}
  (ham:HeldAmounts s.accounts c.amounts c.budgetId held):
  WellFormed { Budget.setReserve s cid c with
   completionReserveHolds:=s.completionReserveHolds.insert cid held }:=by
 refine { hw with reservations:=hw.reservations,reserves := ?_,permits:=hw.permits }
 · intro cid' c' hc'
   simp only [Budget.setReserve,lookup_insert] at hc' ⊢
   split at hc'
   · next hid=>
     cases hc'
     exact ⟨held,by simp [hid],ham⟩
   · next hid=>
     rw [if_neg hid]
     exact hw.reserves cid' c' hc'

lemma WellFormed.openLedger{account:BudgetAccount}(hm:IsBalance m):
  WellFormed (openLedger s account m):=by
 have hgrow:∀b,s.accounts.contains b=true →
   (Budget.openLedger s account m).accounts.contains b=true:=by
  intro b hb
  simp [Budget.openLedger,ExtTreeMap.contains_insert,hb]
 have hkeep:∀{α:Type} (t:StringMap α) (a:α),(∀b,s.accounts.contains b=true→t.contains b=true)→∀b,
   (Budget.openLedger s account m).accounts.contains b=true →
   (t.insert account.budgetId a).contains b=true:=by
  intro α t a ht b hb
  simp only [Budget.openLedger,ExtTreeMap.contains_insert,Bool.or_eq_true] at hb ⊢
  exact hb.imp id (ht b)
 refine ⟨hkeep s.allocated m hw.allocated,hkeep s.reserved ∅ hw.reserved,
  hkeep s.committed ∅ hw.committed,hkeep s.overdraft ∅ hw.overdraft,?_,?_,?_,hw.permits⟩
 · intro b m' hm'
   simp only [Budget.openLedger,lookup_insert] at hm'
   split at hm'
   · cases hm'
     exact hm
   · exact hw.allocations b m' hm'
 · intro rid r hr
   obtain ⟨held,hheld,ham⟩:=hw.reservations rid r hr
   exact ⟨held,hheld,ham.mono hgrow⟩
 · intro cid c hc
   obtain ⟨held,hheld,ham⟩:=hw.reserves cid c hc
   exact ⟨held,hheld,ham.mono hgrow⟩

lemma WellFormed.withSpent{permits:StringMap BudgetPermit}
  {spent:StringMap AmountMap}(h:∀(pid:String) p,permits[pid]?=some p→Authorized spent pid p):
  WellFormed { s with permits:=permits,permitSpent:=spent }:=
 { hw with reservations:=hw.reservations,reserves:=hw.reserves,permits:=h }

lemma CommitDone.rebalanced{n:ℕ}(h:CommitDone s rid actual plan n s₁):Rebalanced s s₁:=by
 have hw':=h.written
 refine ⟨?_,?_,?_,?_,?_,?_,?_,?_,?_,?_,?_⟩
 · intro b
   rw [hw'.accounts b,Option.map_map]
   congr 1
   funext account
   unfold BudgetAccount.bump
   simp only [Function.comp_apply]
   split <;>rfl
 · rw [hw'.rest]
 all_goals try rw [hw'.rest]
 all_goals
  intro b
  by_cases hb:b∈plan.balances.map UpdatedBalance.budgetId
  · obtain ⟨u,hu,rfl⟩:=List.mem_map.mp hb
    obtain ⟨h₁,h₂,h₃⟩:=h.checked.known hw u hu
    obtain ⟨h₄,h₅,h₆⟩:=hw'.inside u hu
    simp only [contains_eq_isSome_getElem?,h₄,h₅,h₆] at h₁ h₂ h₃ ⊢
    simp only [h₁,h₂,h₃,isSome_some]
  · obtain ⟨h₁,h₂,h₃⟩:=hw'.outside b hb
    simp only [contains_eq_isSome_getElem?,h₁,h₂,h₃]

lemma CommitDone.wellFormed{n:ℕ}(h:CommitDone s rid actual plan n s₁):
  WellFormed (Budget.setStatus s₁ rid plan.reservation .committed):=by
 have hframe:=h.rebalanced hw
 have hfound:s₁.reservations[rid]?=some plan.reservation:=by
  rw [hframe.reservations]
  exact h.checked.found
 exact (hw.rebalanced hframe).setStatus hfound .committed

lemma Effect.wellFormed{r:Except BudgetError Response}(h:Effect s call r s'):WellFormed s':=by
 cases h with
 | refused frame=>exact hw.rebalanced frame
 | read _ _=>exact hw
 | opened _ _ balance=>exact hw.openLedger balance
 | reserved checked _ _ update=>
  have hframe:=update.rebalanced
  have hw₁:WellFormed _:=(hw.counters _ _).rebalanced hframe
  apply hw₁.addReservation
  exact checked.heldAmounts.mono fun b hb=>by rw [hframe.contains];exact hb
 | committed _ done=>exact done.wellFormed hw
 | permitCommitted permit checked done before after=>
  next pid rid actual plan n s₁ spent spent'=>
  apply (done.wellFormed hw).withSpent
  intro pid' p hp
  have hpermits:s₁.permits=s.permits:=by rw [done.written.rest]
  have hauth:=hw.permits pid' p (hpermits▸hp)
  obtain ⟨p',r,authorized,spent₁,m,hp',-,-,-,hauth',hbal,hspent,hspentbal,hact,hle⟩:=checked.permit
  by_cases hid:pid=pid'
  · subst hid
    have hm:m=plan.actual:=by
     have:=done.checked.actual
     rw [hact] at this
     exact Except.ok.inj this
    have hsame:p'=p:=by
     have hp₁:s.permits[pid]?=some p:=hpermits▸hp
     rw [hp'] at hp₁
     exact some.inj hp₁
    have hspent₁:spent₁=spent:=by
     rw [before] at hspent
     exact (some.inj hspent).symm
    subst hm hsame hspent₁
    obtain ⟨hbal',hat⟩:=addAmounts_spec hspentbal done.checked.actualBalance after
    refine ⟨authorized,spent',hbal,hauth',lookup_insert_self _ _ _,hbal',fun key=>?_⟩
    rw [hat]
    exact hle key
  · obtain ⟨a,sp,h₁,h₂,h₃,h₄⟩:=hauth.within
    exact ⟨a,sp,h₁,h₂,by rw [lookup_insert_ne _ _ hid,h₃],h₄⟩
 | released _ checked update=>
  have hframe:=update.rebalanced
  apply (hw.rebalanced hframe).setStatus
  rw [hframe.reservations]
  exact checked.found
 | permitIssued fresh balance _=>
  apply hw.withSpent
  intro pid p hp
  rw [lookup_insert] at hp
  split at hp
  · next hid=>
    cases hp
    subst hid
    refine ⟨_,∅,balance,rfl,lookup_insert_self _ _ _,isBalance_empty,fun key=>?_⟩
    rw [amountAt_empty]
    exact (balance.range key).1
  · next hid=>
    obtain ⟨a,sp,h₁,h₂,h₃,h₄⟩:=(hw.permits pid p hp).within
    exact ⟨a,sp,h₁,h₂,by rw [lookup_insert_ne _ _ hid,h₃],h₄⟩
 | reserveCreated _ checked update=>
  have hframe:=update.rebalanced
  have hholds:=hframe.completionReserveHolds
  have hw₁:WellFormed _:=(hw.counters _ _).rebalanced hframe
  rw [←hholds]
  apply hw₁.holdReserve
  exact checked.heldAmounts.mono fun b hb=>by rw [hframe.contains];exact hb
 | reserveSpent found _ _ _=>
  obtain ⟨hheld,ham⟩:=hw.heldReserve found
  exact ((hw.counters _ _).addReservation ham).setReserve ham hheld
 | reserveSettled _ checked update=>
  have hframe:=update.rebalanced
  obtain ⟨hheld,ham⟩:=hw.heldReserve checked.found
  have hheld₁:=hframe.completionReserveHolds▸hheld
  exact (hw.rebalanced hframe).setReserve
   (ham.mono fun b hb=>by rw [hframe.contains];exact hb) hheld₁

end

lemma execute_wellFormed(calls:List Call):WellFormed (execute step .new calls):=
 execute_invariant step new_wellFormed (fun _ call hw=>(step_effect hw call).wellFormed hw) calls

end GraphBlocks.Budget
