import GraphBlocks.UsageLedgerWrites

namespace GraphBlocks.UsageLedger
open Std RustStd Usage MachineRuns List Option

variable {z:UsageRecord}

section
variable {R:List UsageRecord} {x y:UsageRecord}

lemma decision_stored(h:Kept R)(hx:x∈R):decision R x=.ok (some x):=
 decision_ok_iff.mpr (.replayed (h.valid x hx) (findRecord_of_mem h.ids hx))

lemma findResponse_of_mem(h:Kept R){key:DedupeKey}(hy:y∈R)
  (hkey:hasResponse key y=true):findResponse R key=some y:=by
 cases hf:findResponse R key with
 | none=>exact absurd hkey (List.find?_eq_none.mp hf y hy)
 | some z=>
  have hz:=mem_of_find?_eq_some hf
  rw [h.responses z hz y hy key (List.find?_some hf) hkey]

lemma dedupeResponse_of_renamed(heq:content y=content x)(hne:y≠x):∃p,dedupeResponse x=some p:=by
 cases hp:dedupeResponse x with
 | some p=>exact ⟨p,rfl⟩
 | none=>
  obtain ⟨-,-,hrec,-,hprovider⟩:=content_congr heq
  have hp':dedupeResponse y=none:=by rw [←hp,dedupeResponse,dedupeResponse,hrec,hprovider]
  rw [content,content,hp,hp'] at heq
  exact absurd heq hne

lemma original_of_dedupeResponse{p:String}(hp:dedupeResponse x=some p):x.reconciliationOf=none:=by
 unfold dedupeResponse at hp
 split at hp
 · next h=>exact isNone_iff_eq_none.mp h
 · cases hp

lemma decision_renamed(h:Kept R)(hvalid:validateUsageRecord x=.ok ())(hy:y∈R)
  (heq:content y=content x)(hne:y≠x)(hfree:findRecord R x.recordId=none):
  decision R x=.ok (some y):=by
 obtain ⟨p,hp⟩:=dedupeResponse_of_renamed heq hne
 have hkey:hasResponse (p,x.attemptId) y=true:=by
  rw [hasResponse_content heq]
  simp [hasResponse,hp]
 refine decision_ok_iff.mpr (.duplicate hvalid hfree ?_ ?_)
 · rw [reconciliationDecision,original_of_dedupeResponse hp]
 · simp only [responseDecision,hp,findResponse_of_mem h hy hkey,duplicate_of_content hp heq]
   rfl

lemma decision_taken(hvalid:validateUsageRecord x=.ok ())(hz:findRecord R x.recordId=some z)
  (hne:z≠x):decision R x=.error (.recordConflict x.recordId):=by
 simp only [decision,hvalid,hz,hne]
 rfl
end

variable {s:InMemoryUsageLedger}

/-- The record id of a duplicate was given to another record after the duplicate was answered. -/
def displaced (s:InMemoryUsageLedger) : Call→UsageRecord→Bool
 | .append record, answer=>record.recordId != answer.recordId&&s.records.contains record.recordId
 | _, _=>false

variable {x y:UsageRecord}

lemma append_of_decision(h:WellKept s)
  (hd:decision (orderedRecords s) x=.ok (some y)):append s x=(.ok y,s):=by
 rw [append,appendDecision_eq h.indexed h.kept.ids,hd]

lemma append_of_refusal(h:WellKept s){e:UsageLedgerError}
  (hd:decision (orderedRecords s) x=.error e):append s x=(.error e,s):=by
 rw [append,appendDecision_eq h.indexed h.kept.ids,hd]

lemma append_again(h:WellKept s){R R':List UsageRecord}
  (hw:Written R R' x y)(hy:y∈orderedRecords s):
  append s x=if displaced s (.append x) y then (.error (.recordConflict x.recordId),s)
   else (.ok y,s):=by
 by_cases hyx:y=x
 · subst hyx
   rw [if_neg (by simp [displaced])]
   exact append_of_decision h (decision_stored h.kept hy)
 · have hid:x.recordId≠y.recordId:=(hw.renamed hyx).symm
   rw [displaced,ExtTreeMap.contains_eq_isSome_getElem?,h.indexed.records]
   cases hz:findRecord (orderedRecords s) x.recordId with
   | none=>
    rw [if_neg (by simp)]
    exact append_of_decision h (decision_renamed h.kept hw.valid hy hw.same hyx hz)
   | some z=>
    rw [if_pos (by simp [hid])]
    apply append_of_refusal h
    apply decision_taken hw.valid hz
    rintro rfl
    exact hyx (h.kept.content_inj hy (findRecord_id hz).1 hw.same)

lemma step_of_issues(h:WellKept s){c:Call}(hi:Issues (orderedRecords s) c x):
  step s c=((append s x).1.map .record,(append s x).2):=by
 cases hi with
 | append x=>rfl
 | @reconcile o source amounts t id ordered=>
  have hq:reconcileRequest (get s o.recordId) o.recordId amounts t id=.ok _:=
   (reconcileRequest_ok h.indexed).mpr ⟨o,findRecord_of_mem h.kept.ids source,ordered,rfl⟩
  simp only [step,reconcile,hq]

variable {t:Transition InMemoryUsageLedger Call (Except UsageLedgerError Response)}

lemma response_of_accepted(h:acceptedRecord t=some y):t.response=.ok (.record y):=by
 unfold acceptedRecord at h
 split at h
 · next hr=>
   cases h
   exact hr
 · next hr=>
   cases h
   exact hr
 · cases h

lemma eq_of_content_reconciliation(h:content y=content x)(hx:x.reconciliationOf≠none):y=x:=by
 have hy:y.reconciliationOf≠none:=by
  rw [(content_congr h).2.2.1]
  exact hx
 rw [←content_of_reconciliation hx,←h,content_of_reconciliation hy]

variable {calls:List Call}

/-- A replayed call is answered as before, unless its record id was lost to another record. -/
lemma step_again(ht:t∈history step .new calls)(hy:acceptedRecord t=some y):
  (displaced (execute step .new calls) t.call y=false →
   step (execute step .new calls) t.call=(t.response,execute step .new calls)) ∧
  (displaced (execute step .new calls) t.call y=true →
   ∃record,t.call=.append record∧step (execute step .new calls) t.call =
    (.error (.recordConflict record.recordId),execute step .new calls)):=by
 obtain ⟨before,c,after,rfl,rfl⟩:=mem_history step ht
 have hk:=execute_wellKept before
 obtain ⟨x,hi,happ⟩:=acceptedRecord_appended hk hy
 have hw:=append_appended hk x
 rw [happ] at hw
 have hrun:execute step .new (before++c::after) =
   execute step (step (execute step .new before) c).2 after:=by
  rw [execute_append,execute_cons]
 have hend:=execute_wellKept (before++c::after)
 have hbase:=(execute_grown (hk.step c) after).base
 rw [hrun] at hend ⊢
 have hi':=hi.mono fun r hr=>hbase r (hw.written.base r hr)
 have hlast:=append_again hend hw.written (hbase y hw.written.stored)
 rw [response_of_accepted hy]
 have hstep:=step_of_issues hend hi'
 rw [hlast] at hstep
 change (displaced _ c y=false→step _ c=_)∧(displaced _ c y=true→∃record,c=_∧step _ c=_)
 rw [hstep]
 cases hi with
 | append x=>
  refine ⟨fun hd=>?_,fun hd=>⟨x,rfl,?_⟩⟩
  · rw [hd]
    rfl
  · rw [hd]
    rfl
 | reconcile source amounts at' id ordered=>
  have hyx:=eq_of_content_reconciliation hw.written.same (by simp [reconciledRecord])
  refine ⟨fun _=>?_,nofun⟩
  rw [if_neg (by simp [displaced,hyx])]
  rfl

/-- Two originals that can both be appended: neither id nor response is claimed twice. -/
structure NonConflicting (a b:UsageRecord) : Prop where
 ids:a.recordId=b.recordId→a=b
 responses:∀key,hasResponse key a=true→hasResponse key b=true →
  usageProviderDuplicateConflict a b=false

/-- Two runs from one ledger that accepted the same calls, in whatever order. -/
structure SameAccepted (R R₁ R₂:List UsageRecord) (accepted₁ accepted₂:List Call) : Prop where
 kept₁:Kept R₁
 kept₂:Kept R₂
 grown₁:∃returned,Grown R R₁ accepted₁ returned
 grown₂:∃returned,Grown R R₂ accepted₂ returned
 same:∀c,c∈accepted₁↔c∈accepted₂
 apart:∀a b,Call.append a∈accepted₁→Call.append b∈accepted₁ →
  a.reconciliationOf=none→b.reconciliationOf=none→NonConflicting a b

section
variable {R R₁ R₂:List UsageRecord} {accepted₁ accepted₂:List Call}

lemma SameAccepted.symm(h:SameAccepted R R₁ R₂ accepted₁ accepted₂):
  SameAccepted R R₂ R₁ accepted₂ accepted₁:=
 ⟨h.kept₂,h.kept₁,h.grown₂,h.grown₁,fun c=>(h.same c).symm,
  fun a b ha hb=>h.apart a b ((h.same _).mpr ha) ((h.same _).mpr hb)⟩

lemma Issues.original{c:Call}(hi:Issues R c x)(hx:x.reconciliationOf=none):c=.append x:=by
 cases hi with
 | append x=>rfl
 | reconcile source amounts t id ordered=>cases hx

variable {returned:List UsageRecord}

lemma Grown.original{accepted:List Call}(h:Grown R R₁ accepted returned){o:UsageRecord}
  (ho:o∈R₁)(hnone:o.reconciliationOf=none):o∈R∨Call.append o∈accepted:=by
 rcases h.origin o ho with hR|⟨c,hc,hi⟩
 · exact .inl hR
 · exact .inr (hi.original hnone▸hc)

variable {o₁ o₂:UsageRecord}

lemma SameAccepted.original_eq(h:SameAccepted R R₁ R₂ accepted₁ accepted₂)
  (ho₁:o₁∈R₁)(ho₂:o₂∈R₂)(hid:o₁.recordId=o₂.recordId)
  (h₁:o₁.reconciliationOf=none)(h₂:o₂.reconciliationOf=none):o₁=o₂:=by
 obtain ⟨_,hg₁⟩:=h.grown₁
 obtain ⟨_,hg₂⟩:=h.grown₂
 rcases hg₁.original ho₁ h₁ with hR|hc₁
 · exact inj_on_of_nodup_map h.kept₂.ids (hg₂.base _ hR) ho₂ hid
 · rcases hg₂.original ho₂ h₂ with hR|hc₂
   · exact inj_on_of_nodup_map h.kept₁.ids ho₁ (hg₁.base _ hR) hid
   · exact (h.apart _ _ hc₁ ((h.same _).mpr hc₂) h₁ h₂).ids hid

lemma Kept.source_original(h:Kept R){r o:UsageRecord}(hr:r∈R)(ho:o∈R)
  (hsrc:r.reconciliationOf=some o.recordId):o.reconciliationOf=none:=
 (h.target_of_id hr ho hsrc).1

section
variable (h:SameAccepted R R₁ R₂ accepted₁ accepted₂)
include h

lemma SameAccepted.mem_content(hy:y∈R₁):∃y'∈R₂,content y'=content y:=by
 obtain ⟨_,hg₁⟩:=h.grown₁
 obtain ⟨_,hg₂⟩:=h.grown₂
 rcases hg₁.origin y hy with hR|⟨c,hc,hi⟩
 · exact ⟨y,hg₂.base y hR,rfl⟩
 · obtain ⟨x',hi',-,y',hy',heq,-⟩:=hg₂.answered c ((h.same c).mp hc)
   refine ⟨y',hy',heq.trans ?_⟩
   cases hi with
   | append x=>
    cases hi'
    rfl
   | @reconcile o source amounts t id ordered=>
    generalize hsrc:o.recordId=src at hi' hy
    cases hi' with
    | @reconcile o' source' amounts t id ordered'=>
     have hyx:=eq_of_content_reconciliation heq (by simp [reconciledRecord])
     have ho:=h.kept₁.source_original hy source rfl
     have ho':=h.kept₂.source_original (hyx▸hy') source' rfl
     rw [h.original_eq source source' hsrc ho ho']

lemma SameAccepted.contents_perm:(R₁.map content).Perm (R₂.map content):=by
 rw [perm_ext_iff_of_nodup h.kept₁.nodup_contents h.kept₂.nodup_contents]
 intro c
 simp only [List.mem_map]
 constructor
 · rintro ⟨y,hy,rfl⟩
   exact h.mem_content hy
 · rintro ⟨y,hy,rfl⟩
   exact h.symm.mem_content hy

lemma SameAccepted.reconciled{r:UsageRecord}(ho₁:o₁∈R₁)(ho₂:o₂∈R₂)(heq:content o₁=content o₂)
  (hf:findReconciliation R₁ o₁.recordId=some r):
  findReconciliation R₂ o₂.recordId=some r:=by
 obtain ⟨hr,hsrc⟩:=(findReconciliation_eq_some h.kept₁).mp hf
 obtain ⟨r',hr',hrr⟩:=h.mem_content hr
 have hrec:r'=r:=eq_of_content_reconciliation hrr (by simp [hsrc])
 subst hrec
 obtain ⟨o',ho',hid,hnone,-⟩:=h.kept₂.targets r' hr' _ hsrc
 have hsame:=h.original_eq ho₁ ho' hid.symm (h.kept₁.source_original hr ho₁ hsrc) hnone
 subst hsame
 rw [h.kept₂.content_inj ho' ho₂ heq] at hsrc
 exact (findReconciliation_eq_some h.kept₂).mpr ⟨hr',hsrc⟩

lemma SameAccepted.settled_amounts(ho₁:o₁∈R₁)(ho₂:o₂∈R₂)(heq:content o₁=content o₂):
  (settledBy R₁ o₁).amounts=(settledBy R₂ o₂).amounts:=by
 unfold settledBy
 cases hf:findReconciliation R₁ o₁.recordId with
 | some r=>
  rw [h.reconciled ho₁ ho₂ heq hf]
  rfl
 | none=>
  cases hf':findReconciliation R₂ o₂.recordId with
  | none=>exact (content_congr heq).1
  | some r=>
   rw [h.symm.reconciled ho₂ ho₁ heq.symm hf'] at hf
   cases hf

end

lemma sum_map_of_perm{α β:Type}{g:α→β}{f₁ f₂:α→ℤ}{l₁ l₂:List α}(hp:(l₁.map g).Perm (l₂.map g))
  (h:∀a∈l₁,∀b∈l₂,g a=g b→f₁ a=f₂ b):(l₁.map f₁).sum=(l₂.map f₂).sum:=by
 induction l₁ generalizing l₂ with
 | nil=>
  rw [map_nil,nil_perm,map_eq_nil_iff] at hp
  rw [hp]
  rfl
 | cons a l₁ ih=>
  have ha:g a∈l₂.map g:=hp.subset (by simp)
  obtain ⟨b,hb,hgb⟩:=List.mem_map.mp ha
  obtain ⟨front,back,rfl⟩:=append_of_mem hb
  have hrest:(l₁.map g).Perm ((front++back).map g):=by
   apply List.Perm.cons_inv (a:=g a)
   refine hp.trans ?_
   rw [←hgb]
   simp [perm_middle]
  have hsum:=ih hrest fun a' ha' b' hb'=>h a' (mem_cons_of_mem _ ha') b' (by simp at hb' ⊢;tauto)
  rw [map_cons,sum_cons,hsum,h a mem_cons_self b hb hgb.symm]
  simp only [map_append,sum_append,map_cons,sum_cons]
  omega

lemma originals_content(R:List UsageRecord)(runId:String):
  (originals (runRecords R runId)).map content =
   ((R.map content).filter fun r=>r.runId==some runId).filter isOriginal:=by
 have hrun:∀r,(content r).runId=r.runId:=by
  intro r
  unfold content
  split <;>rfl
 have horiginal:∀r,isOriginal (content r)=isOriginal r:=by
  intro r
  unfold content
  split <;>rfl
 simp only [originals,runRecords,List.filter_map,Function.comp_def,hrun,horiginal]

lemma SameAccepted.totals_eq(h:SameAccepted R R₁ R₂ accepted₁ accepted₂)(runId:String):
  usageTotals (runRecords R₁ runId)=usageTotals (runRecords R₂ runId):=by
 obtain ⟨t₁,ht₁⟩:=h.kept₁.totals runId
 obtain ⟨t₂,ht₂⟩:=h.kept₂.totals runId
 rw [ht₁,ht₂]
 congr 1
 apply usageTotals_congr ht₁ ht₂
 intro key
 rw [recordsTotal,recordsTotal,h.kept₁.counted_sum,h.kept₂.counted_sum]
 apply sum_map_of_perm (g:=content)
 · rw [originals_content,originals_content]
   exact (h.contents_perm.filter _).filter _
 · intro o₁ ho₁ o₂ ho₂ heq
   have hmem₁:=(mem_runRecords.mp (mem_of_mem_filter ho₁)).1
   have hmem₂:=(mem_runRecords.mp (mem_of_mem_filter ho₂)).1
   rw [h.settled_amounts hmem₁ hmem₂ heq]

lemma Kept.counted_append(h:Kept R){added:List UsageRecord}(runId:String)
  (horiginal:∀o∈added,o.reconciliationOf=none)(hfresh:∀o∈added,∀r∈R,r.recordId≠o.recordId):
  countedRecords (runRecords (R++added) runId) =
   countedRecords (runRecords R runId)++runRecords added runId:=by
 have hsplit:runRecords (R++added) runId=runRecords R runId++runRecords added runId:=
  filter_append _ _
 have hnone:supersededRecordIds (runRecords added runId)=[]:=by
  rw [supersededRecordIds,filterMap_eq_nil_iff]
  intro o ho
  exact horiginal o (mem_runRecords.mp ho).1
 have hsuperseded:supersededRecordIds (runRecords (R++added) runId) =
   supersededRecordIds (runRecords R runId):=by
  rw [hsplit,supersededRecordIds,filterMap_append]
  change _++supersededRecordIds (runRecords added runId)=_
  rw [hnone,append_nil]
  rfl
 unfold countedRecords
 rw [hsuperseded,hsplit,filter_append]
 congr 1
 rw [filter_eq_self]
 intro o ho
 have hmem:=(mem_runRecords.mp ho).1
 have hnot:o.recordId∉supersededRecordIds (runRecords R runId):=by
  rw [mem_superseded]
  rintro ⟨c,hc,hsrc⟩
  obtain ⟨o',ho',hid,-⟩:=h.targets c (mem_runRecords.mp hc).1 _ hsrc
  exact hfresh o hmem o' ho' hid
 simpa using hnot

lemma recordsTotal_append(records records':List UsageRecord)(key:AmountKey):
  recordsTotal (records++records') key=recordsTotal records key+recordsTotal records' key:=by
 simp [recordsTotal]

lemma recordsTotal_contents(records:List UsageRecord)(key:AmountKey):
  recordsTotal (records.map content) key=recordsTotal records key:=by
 have hamounts:∀r,(content r).amounts=r.amounts:=by
  intro r
  unfold content
  split <;>rfl
 simp only [recordsTotal,List.map_map,Function.comp_def,hamounts]

/-- Fewer contents add up to less. -/
lemma recordsTotal_le_of_contents{records records':List UsageRecord}
  (hnodup:(records.map content).Nodup)(hsub:∀r∈records,∃r'∈records',content r'=content r)
  (hvalid:∀r∈records',validateUsageRecord r=.ok ())(key:AmountKey):
  recordsTotal records key≤recordsTotal records' key:=by
 have hsubset:records.map content ⊆ records'.map content:=by
  intro c hc
  obtain ⟨r,hr,rfl⟩:=List.mem_map.mp hc
  exact List.mem_map.mpr (hsub r hr)
 obtain ⟨l,hperm,hsublist⟩:=subperm_of_subset hnodup hsubset
 obtain ⟨rest,hrest⟩:=hsublist.exists_perm_append
 have hrestNonneg:0≤recordsTotal rest key:=by
  apply sum_nonneg
  intro n hn
  obtain ⟨c,hc,rfl⟩:=List.mem_map.mp hn
  obtain ⟨r,hr,rfl⟩:=List.mem_map.mp (hrest.symm.subset (mem_append_right _ hc))
  have hone:=recordsTotal_contents [r] key
  simp only [recordsTotal,map_cons,map_nil,sum_singleton] at hone
  rw [hone]
  exact amountOf_nonneg (hvalid r hr) key
 calc recordsTotal records key
   = recordsTotal l key:=by
       rw [←recordsTotal_contents]
       exact ((hperm.map _).sum_eq).symm
  _≤recordsTotal l key+recordsTotal rest key:=by omega
  _=recordsTotal records' key:=by
    rw [←recordsTotal_append,←recordsTotal_contents records']
    exact ((hrest.map _).sum_eq).symm

/-- A ledger and two lists of originals appended to it, the first of them accepted in full. -/
structure Reordered (R R₁ R':List UsageRecord) (xs ys:List UsageRecord) : Prop where
 kept:Kept R
 kept₁:Kept R₁
 kept':Kept R'
 grown₁:∃returned,Grown R R₁ (xs.map .append) returned
 grown':∃returned,Grown R R' (ys.map .append) returned
 subset:∀y∈ys,y∈xs
 original:∀x∈xs,x.reconciliationOf=none
 apart:∀a∈xs,∀b∈xs,NonConflicting a b

section
variable {R' xs ys:List UsageRecord} {y:UsageRecord}

lemma Grown.appended(h:Grown R R' (ys.map .append) returned)(hz:z∈R'):z∈R∨z∈ys:=by
 rcases h.origin z hz with hR|⟨c,hc,hi⟩
 · exact .inl hR
 · obtain ⟨w,hw,rfl⟩:=List.mem_map.mp hc
   cases hi
   exact .inr hw

lemma Reordered.answered(h:Reordered R R₁ R' xs ys)(hy:y∈xs):
  validateUsageRecord y=.ok ()∧∃y₁∈R₁,content y₁=content y ∧
   (y₁=y ∨ ∀r∈R,r.recordId≠y.recordId):=by
 obtain ⟨_,hg₁⟩:=h.grown₁
 obtain ⟨x,hi,hvalid,hrest⟩:=hg₁.answered _ (List.mem_map.mpr ⟨y,hy,rfl⟩)
 cases hi
 exact ⟨hvalid,hrest⟩

lemma Reordered.found_eq(h:Reordered R R₁ R' xs ys)(hy:y∈xs)
  (hz:z∈R')(hid:z.recordId=y.recordId):z=y:=by
 obtain ⟨_,hg₁⟩:=h.grown₁
 obtain ⟨_,hg'⟩:=h.grown'
 rcases hg'.appended hz with hR|hys
 · obtain ⟨-,y₁,hy₁,-,rfl|hfresh⟩:=h.answered hy
   · exact inj_on_of_nodup_map h.kept₁.ids (hg₁.base z hR) hy₁ hid
   · exact absurd hid (hfresh z hR)
 · exact (h.apart z (h.subset z hys) y hy).ids hid

lemma Reordered.response_content(h:Reordered R R₁ R' xs ys)(hy:y∈xs)
  {p:String}(hp:dedupeResponse y=some p)(hz:z∈R')
  (hkey:hasResponse (p,y.attemptId) z=true):content z=content y:=by
 have hyKey:hasResponse (p,y.attemptId) y=true:=by simp [hasResponse,hp]
 obtain ⟨_,hg₁⟩:=h.grown₁
 obtain ⟨_,hg'⟩:=h.grown'
 rcases hg'.appended hz with hR|hys
 · obtain ⟨-,y₁,hy₁,heq,-⟩:=h.answered hy
   have hy₁Key:hasResponse (p,y.attemptId) y₁=true:=by rwa [hasResponse_content heq]
   rw [h.kept₁.responses z (hg₁.base z hR) y₁ hy₁ _ hkey hy₁Key,heq]
 · exact content_of_duplicate hp ((h.apart z (h.subset z hys) y hy).responses _ hkey hyKey)

lemma Kept.added_fresh{added:List UsageRecord}(h:Kept (R++added)):
  ∀o∈added,∀r∈R,r.recordId≠o.recordId:=by
 have hids:=h.ids
 rw [map_append,nodup_append] at hids
 intro o ho r hr
 exact hids.2.2 _ (List.mem_map.mpr ⟨r,hr,rfl⟩) _ (List.mem_map.mpr ⟨o,ho,rfl⟩)

lemma Grown.added{added:List UsageRecord}
  (h:Grown R (R++added) (ys.map .append) returned)(hk:Kept (R++added)):∀o∈added,o∈ys:=by
 intro o ho
 rcases h.appended (mem_append_right _ ho) with hR|hys
 · exact absurd rfl (hk.added_fresh o ho o hR)
 · exact hys

lemma Kept.counted_le(h:Kept R)(runId:String)(key:AmountKey):
  recordsTotal (countedRecords (runRecords R runId)) key ≤ i64Max:=by
 obtain ⟨totals,hok⟩:=h.totals runId
 obtain ⟨m,-,-,hat,hle⟩:=usageTotals_map hok
 rw [←hat]
 exact hle key

/-- Totals stay in range: what is stored so far and the next original are part of the whole. -/
lemma Reordered.totals(h:Reordered R R₁ R' xs ys)(hy:y∈xs)(hnew:content y∉R'.map content)
  (hfree:∀r∈R',r.recordId≠y.recordId):totalsDecision R' y=.ok ():=by
 obtain ⟨_,hg₁⟩:=h.grown₁
 obtain ⟨_,hg'⟩:=h.grown'
 obtain ⟨added₁,rfl⟩:=hg₁.extended
 obtain ⟨added,rfl⟩:=hg'.extended
 have hnodup:(R.map content++(added++[y]).map content).Nodup:=by
  rw [←map_append,←append_assoc,map_append,nodup_append]
  refine ⟨h.kept'.nodup_contents,nodup_singleton _,?_⟩
  rintro c hc c' hc' rfl
  rw [map_cons,map_nil,mem_singleton] at hc'
  exact hnew (hc'▸hc)
 obtain ⟨-,hnodup,hapart⟩:=nodup_append.mp hnodup
 have hxs:∀o∈added++[y],o∈xs:=by
  intro o ho
  rcases mem_append.mp ho with ho|ho
  · exact h.subset o (hg'.added h.kept' o ho)
  · exact mem_singleton.mp ho▸hy
 have hfresh:∀o∈added++[y],∀r∈R,r.recordId≠o.recordId:=by
  intro o ho r hr
  rcases mem_append.mp ho with ho|ho
  · exact h.kept'.added_fresh o ho r hr
  · exact mem_singleton.mp ho▸hfree r (mem_append_left _ hr)
 have hsub:∀runId,∀o∈runRecords (added++[y]) runId,
   ∃o₁∈runRecords added₁ runId,content o₁=content o:=by
  intro runId o ho
  obtain ⟨hmem,hrun⟩:=mem_runRecords.mp ho
  obtain ⟨-,o₁,ho₁,heq,-⟩:=h.answered (hxs o hmem)
  refine ⟨o₁,mem_runRecords.mpr ⟨?_,(content_congr heq).2.1.trans hrun⟩,heq⟩
  rcases mem_append.mp ho₁ with hR|hadded
  · exact absurd heq (hapart _ (List.mem_map.mpr ⟨o₁,hR,rfl⟩) _ (List.mem_map.mpr ⟨o,hmem,rfl⟩))
  · exact hadded
 unfold totalsDecision
 cases hrun:y.runId with
 | none=>rfl
 | some runId=>
  have hlist:runRecords (R++added) runId++[y]=runRecords (R++(added++[y])) runId:=by
   rw [←append_assoc,runRecords_concat,if_pos hrun]
  have hcounted:=h.kept.counted_append runId (fun o ho=>h.original o (hxs o ho)) hfresh
  have hcounted₁:=h.kept.counted_append runId
   (fun o ho=>h.original o (hg₁.added h.kept₁ o ho)) h.kept₁.added_fresh
  have hok:∃totals,usageTotals (runRecords (R++added) runId++[y])=.ok totals:=by
   apply usageTotals_isOk
   · intro r hr
     rcases mem_append.mp hr with hr|hr
     · exact h.kept'.valid r (mem_runRecords.mp hr).1
     · exact mem_singleton.mp hr▸(h.answered hy).1
   · intro key
     rw [hlist,hcounted,recordsTotal_append]
     have hwhole:=h.kept₁.counted_le runId key
     rw [hcounted₁,recordsTotal_append] at hwhole
     have hdistinct:((runRecords (added++[y]) runId).map content).Nodup:=
      hnodup.sublist (filter_sublist.map _)
     have hpart:=recordsTotal_le_of_contents hdistinct (hsub runId) (fun r hr=>
      h.kept₁.valid r (mem_append_right _ (mem_runRecords.mp hr).1)) key
     omega
  obtain ⟨totals,hok⟩:=hok
  exact except_map_ok.mpr ⟨totals,hok,rfl⟩

lemma Reordered.accepts(h:Reordered R R₁ R' xs ys)(hy:y∈xs):∃answer,decision R' y=.ok answer:=by
 obtain ⟨hvalid,-⟩:=h.answered hy
 have hrec:reconciliationDecision R' y=.ok ():=by rw [reconciliationDecision,h.original y hy]
 cases hfind:findRecord R' y.recordId with
 | some z=>
  obtain ⟨hz,hid⟩:=findRecord_id hfind
  have hzy:=h.found_eq hy hz hid
  subst hzy
  exact ⟨some z,decision_ok_iff.mpr (.replayed hvalid hfind)⟩
 | none=>
  have hfree:=findRecord_none.mp hfind
  by_cases hmem:content y∈R'.map content
  · obtain ⟨z,hz,heq⟩:=List.mem_map.mp hmem
    have hne:z≠y:=by
     rintro rfl
     exact hfree z hz rfl
    exact ⟨some z,decision_renamed h.kept' hvalid hz heq hne hfind⟩
  · refine ⟨none,decision_ok_iff.mpr (.stored ⟨hvalid,hfind,hrec,?_,h.totals hy hmem hfree⟩)⟩
    unfold responseDecision
    cases hp:dedupeResponse y with
    | none=>rfl
    | some p=>
     cases hf:findResponse R' (p,y.attemptId) with
     | none=>simp only [hf]
     | some z=>
      have hz:=mem_of_find?_eq_some hf
      have heq:=h.response_content hy hp hz (List.find?_some hf)
      exact absurd (List.mem_map.mpr ⟨z,hz,heq⟩) hmem
end

end

lemma accepted_append(h:WellKept s):
  (acceptedRecord (takeStep step s (.append x))).isSome=true ↔
   ∃answer,decision (orderedRecords s) x=.ok answer:=by
 have hd:=appendDecision_eq h.indexed h.kept.ids x
 unfold acceptedRecord takeStep
 simp only [step]
 unfold append
 rw [hd]
 cases decision (orderedRecords s) x with
 | error e=>simp [Except.map]
 | ok answer=>cases answer <;>simp [Except.map]

lemma accepted_in_any_order(h:WellKept s){xs ys:List UsageRecord}(hsub:∀y∈ys,y∈xs)
  (horiginal:∀x∈xs,x.reconciliationOf=none)(hapart:∀a∈xs,∀b∈xs,NonConflicting a b)
  (haccepted:acceptedCalls s (xs.map .append)=xs.map .append):
  acceptedCalls s (ys.map .append)=ys.map .append:=by
 induction ys using List.reverseRecOn with
 | nil=>rfl
 | append_singleton ys y ih=>
  have hearlier:=ih fun z hz=>hsub z (mem_append_left _ hz)
  have hk':=wellKept_execute h (ys.map .append)
  have hgrown₁:=execute_grown h (xs.map .append)
  have hgrown':=execute_grown h (ys.map .append)
  rw [haccepted] at hgrown₁
  rw [hearlier] at hgrown'
  have hre:Reordered (orderedRecords s) (orderedRecords (execute step s (xs.map .append)))
    (orderedRecords (execute step s (ys.map .append))) xs ys:=
   { kept:=h.kept,kept₁:=(wellKept_execute h _).kept,kept':=hk'.kept,grown₁:=⟨_,hgrown₁⟩
     grown':=⟨_,hgrown'⟩,subset:=fun z hz=>hsub z (mem_append_left _ hz),original:=horiginal
     apart:=hapart }
  have hnext:=(accepted_append hk').mpr (hre.accepts (hsub y (by simp)))
  rw [map_append,map_cons,map_nil,acceptedCalls_concat,hearlier,if_pos hnext]

lemma totals_of_same_accepted(h:WellKept s){calls₁ calls₂:List Call}
  (hsame:∀c,c∈acceptedCalls s calls₁↔c∈acceptedCalls s calls₂)
  (hapart:∀a b,Call.append a∈acceptedCalls s calls₁→Call.append b∈acceptedCalls s calls₁ →
   a.reconciliationOf=none→b.reconciliationOf=none→NonConflicting a b)
  (runId:String):
  totalsForRun (execute step s calls₁) runId=totalsForRun (execute step s calls₂) runId:=by
 have hsa:SameAccepted (orderedRecords s) (orderedRecords (execute step s calls₁))
   (orderedRecords (execute step s calls₂)) (acceptedCalls s calls₁) (acceptedCalls s calls₂):=
  { kept₁:=(wellKept_execute h calls₁).kept,kept₂:=(wellKept_execute h calls₂).kept
    grown₁:=⟨_,execute_grown h calls₁⟩,grown₂:=⟨_,execute_grown h calls₂⟩,same:=hsame
    apart:=hapart }
 exact hsa.totals_eq runId

def distinctRecords (calls:List Call) : List UsageRecord := (acceptedRecords .new calls).dedup

lemma mem_distinctRecords{r:UsageRecord}:
  r∈distinctRecords calls↔r∈orderedRecords (execute step .new calls):=by
 have hmem:=(execute_grown wellKept_new calls).returned r
 have hempty:orderedRecords .new=[]:=rfl
 rw [hempty] at hmem
 simpa [distinctRecords] using hmem.symm

lemma distinctRecords_perm(calls:List Call):
  (distinctRecords calls).Perm (orderedRecords (execute step .new calls)):=by
 have hids:=(execute_wellKept calls).kept.ids
 have hnodup:(distinctRecords calls).Nodup:=nodup_dedup _
 rw [perm_ext_iff_of_nodup hnodup (List.Nodup.of_map _ hids)]
 exact fun r=>mem_distinctRecords

lemma settledBy_congr{R R':List UsageRecord}(h:Kept R)(hmem:∀r,r∈R'↔r∈R)
  (o:UsageRecord):settledBy R' o=settledBy R o:=by
 have hfind:findReconciliation R' o.recordId=findReconciliation R o.recordId:=by
  cases hf:findReconciliation R' o.recordId with
  | none=>
   symm
   rw [findReconciliation,List.find?_eq_none] at hf ⊢
   exact fun r hr=>hf r ((hmem r).mpr hr)
  | some c=>
   have hsrc:c.reconciliationOf=some o.recordId:=by simpa using List.find?_some hf
   exact ((findReconciliation_eq_some h).mpr
    ⟨(hmem c).mp (mem_of_find?_eq_some hf),hsrc⟩).symm
 rw [settledBy,settledBy,hfind]

lemma totals_exact(calls:List Call)(runId:String):
  ∃totals,totalsForRun (execute step .new calls) runId=.ok totals∧ExactTotals totals (recordsTotal
    ((originals (runRecords (distinctRecords calls) runId)).map
     (settledBy (distinctRecords calls)))):=by
 have hk:=(execute_wellKept calls).kept
 obtain ⟨totals,hok⟩:=hk.totals runId
 refine ⟨totals,hok,?_⟩
 have hexact:=usageTotals_exact hok
 refine ⟨hexact.keys,hexact.nonzero,fun key=>?_⟩
 rw [hexact.exact,recordsTotal,hk.counted_sum,recordsTotal,List.map_map]
 simp only [Function.comp_def,settledBy_congr hk fun _=>mem_distinctRecords]
 exact (((((distinctRecords_perm calls).filter _).filter _).map _).sum_eq).symm

lemma accepted_content(ht:t∈history step .new calls)(hcall:t.call=.append x)
  (hy:acceptedRecord t=some y):content y=content x:=by
 obtain ⟨before,c,after,rfl,rfl⟩:=mem_history step ht
 have hk:=execute_wellKept before
 obtain ⟨x',hi,happ⟩:=acceptedRecord_appended hk hy
 have hw:=append_appended hk x'
 rw [happ] at hw
 change c=.append x at hcall
 subst hcall
 cases hi
 exact hw.written.same

lemma totals_in_any_order(h:WellKept s){xs ys:List UsageRecord}(hperm:xs.Perm ys)
  (horiginal:∀x∈xs,x.reconciliationOf=none)(hapart:∀a∈xs,∀b∈xs,NonConflicting a b)
  (haccepted:acceptedCalls s (xs.map .append)=xs.map .append):
  acceptedCalls s (ys.map .append)=ys.map .append ∧
   ∀runId,totalsForRun (execute step s (xs.map .append)) runId =
    totalsForRun (execute step s (ys.map .append)) runId:=by
 have hys:=accepted_in_any_order h (fun y hy=>hperm.symm.subset hy) horiginal hapart haccepted
 refine ⟨hys,fun runId=>totals_of_same_accepted h ?_ ?_ runId⟩
 · intro c
   rw [haccepted,hys]
   exact (hperm.map _).mem_iff
 · intro a b ha hb _ _
   rw [haccepted] at ha hb
   have hmem:∀r,Call.append r∈xs.map Call.append→ r∈xs:=by simp
   exact hapart a (hmem a ha) b (hmem b hb)

/-- Totals are exact and count every response once, replays change nothing, and neither the order
of originals nor the way they are interleaved with other accepted calls matters. -/
theorem usage_counted_once (calls : List Call) :
  (∀runId,∃totals,totalsForRun (execute step .new calls) runId=.ok totals ∧
   ExactTotals totals (recordsTotal
    ((originals (runRecords (distinctRecords calls) runId)).map
     (settledBy (distinctRecords calls))))) ∧
  (∀key,∀a∈distinctRecords calls,∀b∈distinctRecords calls,
   hasResponse key a=true→hasResponse key b=true→a=b) ∧
  (∀t∈history step .new calls,∀record answer,t.call=.append record →
   acceptedRecord t=some answer → content answer=content record) ∧
  (∀t∈history step .new calls,∀answer,acceptedRecord t=some answer →
   (displaced (execute step .new calls) t.call answer=false →
    step (execute step .new calls) t.call=(t.response,execute step .new calls)) ∧
   (displaced (execute step .new calls) t.call answer=true →
    ∃record,t.call=.append record∧step (execute step .new calls) t.call =
     (.error (.recordConflict record.recordId),execute step .new calls))) ∧
  (∀xs ys:List UsageRecord,xs.Perm ys→(∀x∈xs,x.reconciliationOf=none) →
   (∀a∈xs,∀b∈xs,NonConflicting a b) →
   acceptedCalls (execute step .new calls) (xs.map .append)=xs.map .append →
   acceptedCalls (execute step .new calls) (ys.map .append)=ys.map .append ∧
    ∀runId,totalsForRun (execute step .new (calls++xs.map .append)) runId =
     totalsForRun (execute step .new (calls++ys.map .append)) runId) ∧
  (∀calls',(acceptedCalls .new calls).Perm (acceptedCalls .new calls') →
   (∀a b,Call.append a∈acceptedCalls .new calls→Call.append b∈acceptedCalls .new calls →
    a.reconciliationOf=none→b.reconciliationOf=none→NonConflicting a b) →
   ∀runId,totalsForRun (execute step .new calls) runId =
    totalsForRun (execute step .new calls') runId) := by
 have hk:=execute_wellKept calls
 refine ⟨totals_exact calls,?_,?_,?_,?_,?_⟩
 · intro key a ha b hb
   exact hk.kept.responses a (mem_distinctRecords.mp ha) b (mem_distinctRecords.mp hb) key
 · intro t ht record answer hcall hy
   exact accepted_content ht hcall hy
 · intro t ht answer hy
   exact step_again ht hy
 · intro xs ys hperm horiginal hapart haccepted
   rw [execute_append,execute_append]
   exact totals_in_any_order hk hperm horiginal hapart haccepted
 · intro calls' hperm hapart runId
   exact totals_of_same_accepted wellKept_new (fun _=>hperm.mem_iff) hapart runId

def tokenUsage (recordId responseId:String) (tokens:ℤ) : UsageRecord :=
 { UsageRecord.new recordId .providerReported .providerExact [⟨"tokens",tokens,"token",∅⟩] 1 with
   runId:=some "run-1"
   providerResponseId:=some responseId }

/-- A response, the same response under another id, and a response that takes that id. -/
def takenIdCalls : List Call :=
 [.append (tokenUsage "u1" "r1" 5),.append (tokenUsage "u2" "r1" 5),
  .append (tokenUsage "u2" "r2" 7)]

lemma nonConflicting_tokenUsage {id id' p p':String} {n n':ℤ} (hid:id≠id') (hp:p≠p') :
  NonConflicting (tokenUsage id p n) (tokenUsage id' p' n') where
 ids h:=absurd h hid
 responses key h h':=by
  simp only [hasResponse,tokenUsage,UsageRecord.new,dedupeResponse,isNone_none,↓reduceIte,
   Bool.and_eq_true,beq_iff_eq,Option.some.injEq] at h h'
  exact absurd (h.1.trans h'.1.symm) hp

lemma nonConflicting_self (a:UsageRecord) : NonConflicting a a where
 ids _:=rfl
 responses _ _ _:=usageProviderDuplicateConflict_eq_false.mpr rfl

/-- A replay and a change of order after the three calls. -/
theorem takenIdCalls_counted_once :
  step (execute step .new takenIdCalls) (.append (tokenUsage "u1" "r1" 5)) =
   (.ok (.record (tokenUsage "u1" "r1" 5)),execute step .new takenIdCalls) ∧
  ∀runId,totalsForRun (execute step .new (takenIdCalls ++
    [.append (tokenUsage "u3" "r3" 1),.append (tokenUsage "u4" "r4" 2)])) runId =
   totalsForRun (execute step .new (takenIdCalls ++
    [.append (tokenUsage "u4" "r4" 2),.append (tokenUsage "u3" "r3" 1)])) runId := by
 obtain ⟨-,-,-,hreplay,horder,-⟩:=usage_counted_once takenIdCalls
 constructor
 · have hmem:takeStep step .new (.append (tokenUsage "u1" "r1" 5)) ∈
     history step .new takenIdCalls:=mem_cons_self
   have haccepted:acceptedRecord (takeStep step .new (.append (tokenUsage "u1" "r1" 5))) =
     some (tokenUsage "u1" "r1" 5):=by
    decide +kernel
   have hsame:=(hreplay _ hmem _ haccepted).1 (by simp [takeStep,displaced])
   rw [response_of_accepted haccepted] at hsame
   exact hsame
 · refine (horder [tokenUsage "u3" "r3" 1,tokenUsage "u4" "r4" 2]
    [tokenUsage "u4" "r4" 2,tokenUsage "u3" "r3" 1] (List.Perm.swap _ _ _) ?_ ?_ ?_).2
   · simp [tokenUsage,UsageRecord.new]
   · have h34:NonConflicting (tokenUsage "u3" "r3" 1) (tokenUsage "u4" "r4" 2):=
      nonConflicting_tokenUsage (by decide) (by decide)
     have h43:NonConflicting (tokenUsage "u4" "r4" 2) (tokenUsage "u3" "r3" 1):=
      nonConflicting_tokenUsage (by decide) (by decide)
     simp [h34,h43,nonConflicting_self]
   · have hall:((history step (execute step .new takenIdCalls)
       ([tokenUsage "u3" "r3" 1,tokenUsage "u4" "r4" 2].map .append)).all
        fun t=>(acceptedRecord t).isSome)=true:=by
      decide +kernel
     exact congrArg (List.map Transition.call) (filter_eq_self.mpr (List.all_eq_true.mp hall))

/-- The duplicate was accepted, and is refused once its record id belongs to another record. -/
theorem replay_refused_after_taken_id : ¬ ∀(calls:List Call) (t:Transition InMemoryUsageLedger Call
    (Except UsageLedgerError Response)) (answer:UsageRecord),
   t∈history step .new calls→acceptedRecord t=some answer →
    (step (execute step .new calls) t.call).1=t.response := by
 intro h
 have hmem:takeStep step (execute step .new (takenIdCalls.take 1))
   (.append (tokenUsage "u2" "r1" 5))∈history step .new takenIdCalls:=
  mem_cons_of_mem _ mem_cons_self
 have haccepted:acceptedRecord (takeStep step (execute step .new (takenIdCalls.take 1))
   (.append (tokenUsage "u2" "r1" 5)))=some (tokenUsage "u1" "r1" 5):=by
  decide +kernel
 have hreplay:=h takenIdCalls _ _ hmem haccepted
 have hrefused:(step (execute step .new takenIdCalls) (.append (tokenUsage "u2" "r1" 5))).1 =
   .error (.recordConflict "u2"):=by
  decide +kernel
 rw [response_of_accepted haccepted] at hreplay
 exact absurd (hrefused.symm.trans hreplay) (by simp)

end GraphBlocks.UsageLedger
