import GraphBlocks.BudgetHoldings

namespace GraphBlocks.Budget
open RustStd Usage Option

variable {s s':InMemoryBudgetLedger}

inductive Failed (s:InMemoryBudgetLedger) (call:Call) : InMemoryBudgetLedger→Prop
 | unchanged (free:takesUsedId s call=false) : Failed s call s
 | advanced {n k:ℕ} (used:takesUsedId s call=true) (moved:n=s.reservationCounter+1) :
  Failed s call { s with reservationCounter:=n,fencingCounter:=k }

lemma touched_held{rid:String}{r:BudgetReservation}(h:s.reservations[rid]?=some r):
  touchedBudgets.heldOrNil s rid=heldBudgetIds s rid r:=by
 simp [touchedBudgets.heldOrNil,h]

lemma touched_reserve{cid:String}{c:CompletionReserve}(h:s.completionReserves[cid]?=some c):
  touchedBudgets.reserveHeldOrNil s cid=heldByReserve s cid c:=by
 simp [touchedBudgets.reserveHeldOrNil,h]

lemma HoldChecked.touched{b:String}{amounts:List UsageAmount}{plan:HoldPlan}
  (h:HoldChecked s b amounts plan):touchedBudgets.chainOrNil s b=plan.heldBudgetIds:=by
 simp [touchedBudgets.chainOrNil,h.chain]

section
variable (hw:WellFormed s) (hb:Balanced s)
include hw hb

variable {e:BudgetError}

lemma reserve_failed(request:ReservationRequest)(hr:RevisionsLeft s (.reserve request))
  (h:(reserve s request).1=.error e):Failed s (.reserve request) (reserve s request).2:=by
 cases hplan:reserveChecks s request.budgetId request.amounts with
 | error e'=>
  have hs:reserve s request=(.error e',s):=by simp only [reserve,hplan]
  rw [hs]
  exact .unchanged (by simp [takesUsedId,hplan,Except.isOk,Except.toBool])
 | ok plan=>
  have hc:=reserveChecks_ok hplan
  cases hn:checkedSucc s.reservationCounter with
  | none=>
   have hs:reserve s request=(.error (budgetCounterError "reservation_counter"),s):=by
    simp only [reserve,hplan,hn]
   rw [hs]
   exact .unchanged (by simp [takesUsedId,hn])
  | some n=>
   have hn':=checkedSucc_eq_some hn
   cases hk:checkedSucc s.fencingCounter with
   | none=>
    have hs:reserve s request=(.error (budgetCounterError "fencing_counter"),s):=by
     simp only [reserve,hplan,hn,hk]
    rw [hs]
    exact .unchanged (by simp [takesUsedId,hk])
   | some k=>
    by_cases hused:s.reservations.contains
      (request.reservationId.getD (reservationIdOf n))=true
    · have hs:(reserve s request).2 =
        { s with reservationCounter:=n,fencingCounter:=k }:=by
       simp only [reserve,hplan,hn,hk,hused,if_true]
      rw [hs]
      refine .advanced ?_ hn'
      simp only [takesUsedId,hplan,hn,hk,←hn',hused,Except.isOk,Except.toBool,
       isSome_some,Bool.and_self]
    · obtain ⟨s₁,hs₁⟩:=hold_completes hw hb hc (hc.touched▸hr) n k
      simp only [reserve,hplan,hn,hk,hused,hs₁] at h
      cases h

lemma createCompletionReserve_failed(request:ReserveRequest)
  (hr:RevisionsLeft s (.createCompletionReserve request))
  (h:(createCompletionReserve s request).1=.error e):(createCompletionReserve s request).2=s:=by
 cases hplan:completionReserveChecks s request with
 | error e'=>simp only [createCompletionReserve,hplan]
 | ok plan=>
  obtain ⟨-,hc⟩:=completionReserveChecks_ok hplan
  cases hk:checkedSucc s.fencingCounter with
  | none=>simp only [createCompletionReserve,hplan,hk]
  | some k=>
   obtain ⟨s₁,hs₁⟩:=hold_completes hw hb hc (hc.touched▸hr) s.reservationCounter k
   simp only [createCompletionReserve,hplan,hk,hs₁] at h
   cases h

omit hw hb in
lemma spendCompletionReserve_failed(cid spender expiresAt:String)
  (h:(spendCompletionReserve s cid spender expiresAt).1=.error e):
  Failed s (.spendCompletionReserve cid spender expiresAt)
   (spendCompletionReserve s cid spender expiresAt).2:=by
 cases hc:spendChecks s cid spender with
 | error e'=>
  have hs:spendCompletionReserve s cid spender expiresAt=(.error e',s):=by
   simp only [spendCompletionReserve,hc]
  rw [hs]
  exact .unchanged (by simp [takesUsedId,hc,Except.isOk,Except.toBool])
 | ok c=>
  cases hn:checkedSucc s.reservationCounter with
  | none=>
   have hs:spendCompletionReserve s cid spender expiresAt =
     (.error (budgetCounterError "reservation_counter"),s):=by
    simp only [spendCompletionReserve,hc,hn]
   rw [hs]
   exact .unchanged (by simp [takesUsedId,hn])
  | some n=>
   have hn':=checkedSucc_eq_some hn
   by_cases hused:s.reservations.contains (reservationIdOf n)=true
   · have hs:(spendCompletionReserve s cid spender expiresAt).2 =
       { s with reservationCounter:=n,fencingCounter:=s.fencingCounter }:=by
      simp only [spendCompletionReserve,hc,hn,hused,if_true]
     rw [hs]
     refine .advanced ?_ hn'
     simp only [takesUsedId,hc,hn,←hn',hused,Except.isOk,Except.toBool,isSome_some,Bool.and_self]
   · simp only [spendCompletionReserve,hc,hn,hused] at h
     cases h

lemma settleCompletionReserve_failed(cid:String)(status:CompletionReserveStatus)
  (hr:RevisionLeft s (touchedBudgets.reserveHeldOrNil s cid))
  (h:(settleCompletionReserve s cid status).1=.error e):
  (settleCompletionReserve s cid status).2=s:=by
 cases hplan:settleReserveChecks s cid with
 | error e'=>simp only [settleCompletionReserve,hplan]
 | ok plan=>
  have hc:=settleReserveChecks_ok hw hplan
  rw [touched_reserve hc.found,←hc.held] at hr
  obtain ⟨s₁,hs₁⟩:=settleReserve_completes hw hb hc hr
  simp only [settleCompletionReserve,hplan,hs₁] at h
  cases h

lemma releaseAs_failed(status:ReservationStatus)(rid:String)
  (hr:RevisionLeft s (touchedBudgets.heldOrNil s rid))(h:(releaseAs s status rid).1=.error e):
  (releaseAs s status rid).2=s:=by
 cases hplan:releaseChecks s rid with
 | error e'=>simp only [releaseAs,hplan]
 | ok plan=>
  have hc:=releaseChecks_ok hw hplan
  rw [touched_held hc.found,←hc.held] at hr
  obtain ⟨s₁,hs₁⟩:=release_completes hw hb hc hr
  have hheld:=(hw.holds hc.found).2
  have hacc:s₁.accounts.contains plan.reservation.budgetId=true:=by
   have hframe:=updateReserved_frame (subtractAmounts · plan.reserved) plan.heldBudgetIds s
   rw [hs₁] at hframe
   rw [hframe.contains]
   exact hheld.known _ hheld.owner
  obtain ⟨account,-,hsettle⟩:=settle_completes rid [] (mapToAmounts plan.reserved) [] status
   hacc
  simp only [releaseAs,hplan,hs₁,hsettle] at h
  cases h

omit hb in
lemma commitInner_failed(rid:String)(actual:List UsageAmount)(limit:Option (List UsageAmount))
  (hr:RevisionLeft s (touchedBudgets.heldOrNil s rid))
  (h:(commitInner s rid actual limit).1=.error e):(commitInner s rid actual limit).2=s:=by
 cases hplan:commitChecks s rid actual limit with
 | error e'=>simp only [commitInner,hplan]
 | ok plan=>
  have hc:=commitChecks_ok hw hplan
  rw [touched_held hc.found] at hr
  obtain ⟨s₁,hs₁⟩:=commit_completes hw hc hr
  have hheld:=(hw.holds hc.found).2
  have hacc:s₁.accounts.contains plan.reservation.budgetId=true:=by
   have hframe:=writeBalances_frame (hc.known hw)
   rw [hs₁] at hframe
   rw [hframe.contains]
   exact hheld.known _ hheld.owner
  obtain ⟨account,-,hsettle⟩:=settle_completes rid (mapToAmounts plan.actual)
   (mapToAmounts (excessAmounts plan.reserved plan.actual)) (mapToAmounts plan.overdraft)
   .committed hacc
  simp only [commitInner,hplan,hs₁,hsettle] at h
  cases h

omit hb in
lemma commitWithPermitInner_failed(pid rid:String)(actual:List UsageAmount)
  (now:Option String)(hr:RevisionLeft s (touchedBudgets.heldOrNil s rid))
  (h:(commitWithPermitInner s pid rid actual now).1=.error e):
  (commitWithPermitInner s pid rid actual now).2=s:=by
 cases hm:permitCommitChecks s pid rid actual now with
 | error e'=>simp only [commitWithPermitInner,hm]
 | ok m=>
  obtain ⟨hchecked,hact⟩:=permitCommitChecks_ok hw hm
  rcases commitInner_effect hw rid actual none with ⟨e',he',-⟩|⟨plan,n,s₁,hdone,heq⟩
  · have hkeep:=commitInner_failed hw rid actual none hr he'
    have hpair:commit s rid actual=(.error e',s):=Prod.ext he' hkeep
    simp only [commitWithPermitInner,hm,hpair]
  · have hplan:plan.actual=m:=by
     have:=hdone.checked.actual
     rw [hact] at this
     exact (Except.ok.inj this).symm
    have hsame:(setStatus s₁ rid plan.reservation .committed).permitSpent=s.permitSpent:=by
     rw [hdone.written.rest]
     rfl
    obtain ⟨spent,spent',hspent,hadd⟩:=hchecked.spends hact (hplan▸hdone.checked.actualBalance)
    have hcommit:commit s rid actual=_:=heq
    simp only [commitWithPermitInner,hm,hcommit,hsame,hspent,getD_some,hadd] at h
    cases h

lemma releaseWithPermitInner_failed(pid rid:String)(now:Option String)
  (hr:RevisionLeft s (touchedBudgets.heldOrNil s rid))
  (h:(releaseWithPermitInner s pid rid now).1=.error e):
  (releaseWithPermitInner s pid rid now).2=s:=by
 unfold releaseWithPermitInner at h ⊢
 split at h
 · rfl
 · split at h
   · rfl
   · exact releaseAs_failed hw hb .released rid hr h

omit hw hb in
lemma allocate_failed(budgetId scope:String)(amounts:List UsageAmount)(policyRef:String)
  (parent:Option String)
  (h:(allocate s budgetId scope amounts policyRef parent).1=.error e):
  (allocate s budgetId scope amounts policyRef parent).2=s:=by
 revert h
 unfold allocate
 split
 · exact fun _=>rfl
 · split
   · exact fun _=>rfl
   · split
     · exact fun _=>rfl
     · split
       · exact fun _=>rfl
       · nofun

omit hw hb in
lemma issuePermit_failed(request:PermitRequest)
  (h:(issuePermit s request).1=.error e):(issuePermit s request).2=s:=by
 unfold issuePermit at h ⊢
 split at h
 · rfl
 · cases h

omit hw hb in
lemma as_error{α:Type}{wrap:α→Response}{o:Outcome α}(h:(o.as wrap).1=.error e):o.1=.error e:=by
 unfold Outcome.as at h
 cases ho:o.1 with
 | error e'=>
  rw [ho] at h
  cases h
  rfl
 | ok a=>
  rw [ho] at h
  cases h

lemma step_failed{call:Call}(hr:RevisionsLeft s call)(h:(step s call).1=.error e):
  Failed s call (step s call).2:=by
 have keep:∀{t:InMemoryBudgetLedger},takesUsedId s call=false→t=s→Failed s call t:=by
  rintro t hfree rfl
  exact .unchanged hfree
 cases call with
 | allocate budgetId scope amounts policyRef parent=>
  exact keep rfl (allocate_failed budgetId scope amounts policyRef parent (as_error h))
 | reserve request=>exact reserve_failed hw hb request hr (as_error h)
 | commit rid actual=>exact keep rfl (commitInner_failed hw rid actual none hr (as_error h))
 | commitWithOverdraftLimit rid actual limit=>
  exact keep rfl (commitInner_failed hw rid actual (some limit) hr (as_error h))
 | release rid=>exact keep rfl (releaseAs_failed hw hb .released rid hr (as_error h))
 | expire rid=>exact keep rfl (releaseAs_failed hw hb .expired rid hr (as_error h))
 | issuePermit request=>exact keep rfl (issuePermit_failed request (as_error h))
 | commitWithPermit pid rid actual=>
  exact keep rfl (commitWithPermitInner_failed hw pid rid actual none hr (as_error h))
 | commitWithPermitAt pid rid actual now=>
  exact keep rfl (commitWithPermitInner_failed hw pid rid actual (some now) hr (as_error h))
 | releaseWithPermit pid rid=>
  exact keep rfl (releaseWithPermitInner_failed hw hb pid rid none hr (as_error h))
 | releaseWithPermitAt pid rid now=>
  exact keep rfl (releaseWithPermitInner_failed hw hb pid rid (some now) hr (as_error h))
 | createCompletionReserve request=>
  exact keep rfl (createCompletionReserve_failed hw hb request hr (as_error h))
 | spendCompletionReserve cid spender expiresAt=>
  exact spendCompletionReserve_failed cid spender expiresAt (as_error h)
 | releaseCompletionReserve cid=>
  exact keep rfl (settleCompletionReserve_failed hw hb cid .released hr (as_error h))
 | expireCompletionReserve cid=>
  exact keep rfl (settleCompletionReserve_failed hw hb cid .expired hr (as_error h))
 | balance budgetId=>exact keep rfl rfl
 | completionReserve cid=>exact keep rfl rfl
end

end GraphBlocks.Budget
