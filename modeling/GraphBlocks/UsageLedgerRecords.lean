import GraphBlocks.UsageLedgerModel

namespace GraphBlocks.UsageLedger
open Std OrderedMap RustStd MachineRuns List Option

def findRecord (R:List UsageRecord) (recordId:String) : Option UsageRecord :=
 R.find? fun record=>record.recordId==recordId

def findReconciliation (R:List UsageRecord) (sourceRecordId:String) : Option UsageRecord :=
 R.find? fun record=>record.reconciliationOf==some sourceRecordId

def hasResponse (key:DedupeKey) (record:UsageRecord) : Bool :=
 dedupeResponse record==some key.1&&record.attemptId==key.2

def findResponse (R:List UsageRecord) (key:DedupeKey) : Option UsageRecord :=
 R.find? (hasResponse key)

def runRecords (R:List UsageRecord) (runId:String) : List UsageRecord :=
 R.filter fun record=>record.runId==some runId

def foundRecord (R:List UsageRecord) (recordId:String) : Except UsageLedgerError UsageRecord :=
 match findRecord R recordId with
 | some record=>.ok record
 | none=>.error (.recordNotFound recordId)

def reconciliationDecision (R:List UsageRecord) (record:UsageRecord) :
  Except UsageLedgerError Unit :=
 match record.reconciliationOf with
 | none=>.ok ()
 | some reconciliationOf=>do
  let original ← foundRecord R reconciliationOf
  validateUsageReconciliation record original
  ensure (findReconciliation R reconciliationOf).isNone (.recordConflict reconciliationOf)

def responseDecision (R:List UsageRecord) (record:UsageRecord) :
  Except UsageLedgerError (Option UsageRecord) :=
 match dedupeResponse record with
 | none=>.ok none
 | some providerResponseId=>
  match findResponse R (providerResponseId,record.attemptId) with
  | none=>.ok none
  | some existing=>
   if usageProviderDuplicateConflict existing record then
    .error (.recordConflict providerResponseId)
   else .ok (some existing)

def totalsDecision (R:List UsageRecord) (record:UsageRecord) : Except UsageLedgerError Unit :=
 match record.runId with
 | none=>.ok ()
 | some runId=>(usageTotals (runRecords R runId++[record])).map fun _=>()

/-- What `append` decides about a record, from the records stored so far. -/
def decision (R:List UsageRecord) (record:UsageRecord) :
  Except UsageLedgerError (Option UsageRecord) := do
 validateUsageRecord record
 match findRecord R record.recordId with
 | some existing=>
  if existing=record then return some existing
  else .error (.recordConflict record.recordId)
 | none=>
  reconciliationDecision R record
  match ← responseDecision R record with
  | some existing=>return some existing
  | none=>
   totalsDecision R record
   return none

/-- The maps of the ledger answer as its list of records does. -/
structure Indexed (s:InMemoryUsageLedger) : Prop where
 records:∀id,s.records[id]?=findRecord (orderedRecords s) id
 responses:∀key : DedupeKey,s.providerDedupe[key]? =
  (findResponse (orderedRecords s) key).map UsageRecord.recordId

lemma indexed_new : Indexed .new where
 records _:=ExtTreeMap.getElem?_empty
 responses _:=ExtTreeMap.getElem?_empty

variable {s:InMemoryUsageLedger} {r:UsageRecord} {R:List UsageRecord} {record:UsageRecord}

lemma findRecord_id{id:String}(h:findRecord R id=some r):r∈R∧r.recordId=id:=by
 refine ⟨mem_of_find?_eq_some h,?_⟩
 simpa using List.find?_some h

lemma findRecord_none{id:String}:findRecord R id=none ↔ ∀r∈R,r.recordId≠id:=by
 simp [findRecord,List.find?_eq_none]

lemma findRecord_of_mem(hn:(R.map UsageRecord.recordId).Nodup)
  (hr:r∈R):findRecord R r.recordId=some r:=by
 cases h:findRecord R r.recordId with
 | none=>exact absurd rfl (findRecord_none.mp h r hr)
 | some r'=>
  obtain ⟨hr',hid⟩:=findRecord_id h
  rw [inj_on_of_nodup_map hn hr' hr hid]

lemma Indexed.findResponse_record(h:Indexed s){key:DedupeKey}
  (hr:findResponse (orderedRecords s) key=some r)
  (hn:((orderedRecords s).map UsageRecord.recordId).Nodup):s.records[r.recordId]?=some r:=by
 rw [h.records]
 exact findRecord_of_mem hn (mem_of_find?_eq_some hr)

lemma get_eq(h:Indexed s)(id:String):get s id=foundRecord (orderedRecords s) id:=by
 rw [get,h.records]
 rfl

lemma providerDuplicate_eq(h:Indexed s)(hn:((orderedRecords s).map UsageRecord.recordId).Nodup)
  (record:UsageRecord):providerDuplicate s record=responseDecision (orderedRecords s) record:=by
 unfold providerDuplicate responseDecision
 cases dedupeResponse record with
 | none=>rfl
 | some p=>
  simp only [h.responses]
  cases hf:findResponse (orderedRecords s) (p,record.attemptId) with
  | none=>rfl
  | some existing=>simp only [map_some,h.findResponse_record hf hn]

lemma appendDecision_eq(h:Indexed s)(hn:((orderedRecords s).map UsageRecord.recordId).Nodup)
  (record:UsageRecord):appendDecision s record=decision (orderedRecords s) record:=by
 have hcheck:checkReconciliation s record=reconciliationDecision (orderedRecords s) record:=by
  unfold checkReconciliation reconciliationDecision
  simp only [get_eq h]
  rfl
 unfold appendDecision decision
 simp only [h.records,hcheck,providerDuplicate_eq h hn]
 rfl

lemma orderedRecords_store(h:Indexed s)(hfresh:findRecord (orderedRecords s) record.recordId=none)
  (hlisted:∀id∈s.order,(s.records[id]?).isSome=true):
  orderedRecords (store s record)=orderedRecords s++[record]:=by
 have hid:record.recordId∉s.order:=by
  intro hmem
  have hsome:=hlisted _ hmem
  rw [h.records,hfresh] at hsome
  cases hsome
 unfold orderedRecords store
 rw [filterMap_append]
 congr 1
 · apply filterMap_congr
   intro id hmem
   apply lookup_insert_ne
   rintro rfl
   exact hid hmem
 · simp

lemma find_concat{α:Type}(p:α→Bool)(l:List α)(a:α):
  (l++[a]).find? p=(l.find? p).or (if p a then some a else none):=by
 rw [List.find?_append]
 by_cases h:p a=true <;>simp [h]

lemma Indexed.store(h:Indexed s)(hlisted:∀id∈s.order,(s.records[id]?).isSome=true)
  (hfresh:findRecord (orderedRecords s) record.recordId=none)
  (hnew:responseDecision (orderedRecords s) record=.ok none):Indexed (store s record):=by
 have hrecords:=orderedRecords_store h hfresh hlisted
 refine ⟨fun id=>?_,fun key=>?_⟩
 · rw [hrecords,findRecord,find_concat]
   simp only [UsageLedger.store,lookup_insert,beq_iff_eq]
   split
   · next hid=>
     subst hid
     have hnone:(orderedRecords s).find? (fun r=>r.recordId==record.recordId)=none:=hfresh
     rw [hnone]
     rfl
   · rw [h.records,or_none]
     rfl
 · rw [hrecords,findResponse,find_concat]
   have hold:=h.responses key
   unfold findResponse at hold
   unfold responseDecision at hnew
   simp only [UsageLedger.store]
   cases hp:dedupeResponse record with
   | none=>simp [hasResponse,hp,hold]
   | some p=>
    simp only [hp] at hnew
    have hnone:findResponse (orderedRecords s) (p,record.attemptId)=none:=by
     cases hf:findResponse (orderedRecords s) (p,record.attemptId) with
     | none=>rfl
     | some existing=>
      simp only [hf] at hnew
      split at hnew <;>cases hnew
    simp only [lookup_insert]
    split
    · next hkey=>
      subst hkey
      rw [findResponse] at hnone
      simp [hnone,hasResponse,hp]
    · next hkey=>
      have hmiss:hasResponse key record=false:=by
       rw [Bool.eq_false_iff]
       intro hhas
       simp only [hasResponse,hp,Bool.and_eq_true,beq_iff_eq,Option.some.injEq] at hhas
       exact hkey (Prod.ext hhas.1 hhas.2)
      rw [hold,hmiss]
      simp

structure Kept (R:List UsageRecord) : Prop where
 ids:(R.map UsageRecord.recordId).Nodup
 valid:∀r∈R,validateUsageRecord r=.ok ()
 responses:∀a∈R,∀b∈R,∀key,hasResponse key a=true→hasResponse key b=true→a=b
 targets:∀r∈R,∀src,r.reconciliationOf=some src →
  ∃o∈R,o.recordId=src∧o.reconciliationOf=none∧o.runId=r.runId
 single:∀a∈R,∀b∈R,∀src,a.reconciliationOf=some src→b.reconciliationOf=some src→a=b
 totals:∀runId,∃totals,usageTotals (runRecords R runId)=.ok totals

lemma kept_nil : Kept [] where
 ids:=nodup_nil
 valid _ h:=by simp at h
 responses _ h:=by simp at h
 targets _ h:=by simp at h
 single _ h:=by simp at h
 totals _:=⟨_,rfl⟩

/-- A record that `append` stores, and what it was checked against. -/
structure Accepted (R:List UsageRecord) (record:UsageRecord) : Prop where
 valid:validateUsageRecord record=.ok ()
 fresh:findRecord R record.recordId=none
 reconciliation:reconciliationDecision R record=.ok ()
 response:responseDecision R record=.ok none
 totals:totalsDecision R record=.ok ()

/-- The three ways in which an append is answered. -/
inductive Decided (R:List UsageRecord) (record:UsageRecord) : Option UsageRecord→Prop
 | replayed (valid:validateUsageRecord record=.ok ())
   (found:findRecord R record.recordId=some record) : Decided R record (some record)
 | duplicate {existing:UsageRecord} (valid:validateUsageRecord record=.ok ())
   (fresh:findRecord R record.recordId=none)
   (reconciliation:reconciliationDecision R record=.ok ())
   (response:responseDecision R record=.ok (some existing)) :
   Decided R record (some existing)
 | stored (accepted:Accepted R record) : Decided R record none

lemma decision_ok_iff
  {answer:Option UsageRecord}:decision R record=.ok answer↔Decided R record answer:=by
 constructor
 · intro h
   simp only [decision,bind_ok] at h
   obtain ⟨_,hvalid,h⟩:=h
   cases hfind:findRecord R record.recordId with
   | some existing=>
    rw [hfind] at h
    simp only at h
    split at h
    · next heq=>
      cases h
      subst heq
      exact .replayed hvalid hfind
    · cases h
   | none=>
    rw [hfind] at h
    simp only [bind_ok] at h
    obtain ⟨_,hrec,found,hresp,h⟩:=h
    cases found with
    | some existing=>
     cases h
     exact .duplicate hvalid hfind hrec hresp
    | none=>
     simp only [bind_ok] at h
     obtain ⟨_,htotals,h⟩:=h
     cases h
     exact .stored ⟨hvalid,hfind,hrec,hresp,htotals⟩
 · intro h
   simp only [decision,bind_ok]
   cases h with
   | replayed valid found=>exact ⟨(),valid,by simp [found];rfl⟩
   | duplicate valid fresh reconciliation response=>
    refine ⟨(),valid,?_⟩
    simp only [fresh,bind_ok]
    exact ⟨(),reconciliation,_,response,rfl⟩
   | stored accepted=>
    refine ⟨(),accepted.valid,?_⟩
    simp only [accepted.fresh,bind_ok]
    refine ⟨(),accepted.reconciliation,_,accepted.response,?_⟩
    simp only [bind_ok]
    exact ⟨(),accepted.totals,rfl⟩

section
variable {R:List UsageRecord} {record:UsageRecord}

lemma Accepted.unanswered(h:Accepted R record){key:DedupeKey}
  (hkey:hasResponse key record=true):findResponse R key=none:=by
 simp only [hasResponse,Bool.and_eq_true,beq_iff_eq] at hkey
 obtain ⟨hp,ha⟩:=hkey
 have hresponse:=h.response
 unfold responseDecision at hresponse
 simp only [hp,ha] at hresponse
 cases hf:findResponse R key with
 | none=>rfl
 | some existing=>
  rw [hf] at hresponse
  simp only at hresponse
  split at hresponse <;>cases hresponse

lemma reconciliationDecision_ok{src:String}(hsrc:record.reconciliationOf=some src)
  (h:reconciliationDecision R record=.ok ()):
  ∃original,findRecord R src=some original∧original.reconciliationOf=none ∧
   original.runId=record.runId∧findReconciliation R src=none:=by
 unfold reconciliationDecision at h
 rw [hsrc] at h
 simp only [bind_ok,ensure_ok] at h
 obtain ⟨original,hfound,_,hvalid,hnone⟩:=h
 have hfind:findRecord R src=some original:=by
  unfold foundRecord at hfound
  split at hfound
  · next hf=>
    cases hfound
    exact hf
  · cases hfound
 simp only [validateUsageReconciliation,bind_ok,ensure_ok] at hvalid
 obtain ⟨_,horiginal,_,_,_,hsame,_⟩:=hvalid
 simp only [Bool.not_eq_true',Bool.or_eq_false_iff,isSome_eq_false_iff,
  isNone_iff_eq_none] at horiginal
 simp only [Bool.and_eq_true,beq_iff_eq] at hsame
 exact ⟨original,hfind,horiginal.2,hsame.1.1.1.1.1.1.symm,by simpa using hnone⟩

lemma runRecords_concat(R:List UsageRecord)(record:UsageRecord)(runId:String):
  runRecords (R++[record]) runId =
   runRecords R runId++if record.runId=some runId then [record] else []:=by
 unfold runRecords
 rw [filter_append]
 by_cases h:record.runId=some runId <;>simp [h]

lemma Kept.append(h:Kept R)(ha:Accepted R record):Kept (R++[record]):=by
 have hfresh:=findRecord_none.mp ha.fresh
 refine ⟨?_,?_,?_,?_,?_,?_⟩
 · rw [map_append,nodup_append]
   refine ⟨h.ids,nodup_singleton _,?_⟩
   intro id hid id' hid'
   obtain ⟨r,hr,rfl⟩:=List.mem_map.mp hid
   rw [map_cons,map_nil,mem_singleton] at hid'
   rw [hid']
   exact hfresh r hr
 · intro r hr
   rcases mem_append.mp hr with hr|hr
   · exact h.valid r hr
   · rw [mem_singleton] at hr
     exact hr▸ha.valid
 · have hnew:∀a∈R,∀key,hasResponse key a=true→hasResponse key record=true→False:=by
    intro a har key hak hbk
    exact absurd hak (List.find?_eq_none.mp (ha.unanswered hbk) a har)
   intro a har b hbr key hak hbk
   rcases mem_append.mp har with har|har <;>rcases mem_append.mp hbr with hbr|hbr
   · exact h.responses a har b hbr key hak hbk
   · rw [mem_singleton] at hbr
     exact (hnew a har key hak (hbr▸hbk)).elim
   · rw [mem_singleton] at har
     exact (hnew b hbr key hbk (har▸hak)).elim
   · rw [mem_singleton] at har hbr
     rw [har,hbr]
 · intro r hr src hsrc
   rcases mem_append.mp hr with hr|hr
   · obtain ⟨o,ho,hrest⟩:=h.targets r hr src hsrc
     exact ⟨o,mem_append_left _ ho,hrest⟩
   · rw [mem_singleton] at hr
     subst hr
     obtain ⟨original,hfind,hnone,hrun,-⟩:=reconciliationDecision_ok hsrc ha.reconciliation
     obtain ⟨hmem,hid⟩:=findRecord_id hfind
     exact ⟨original,mem_append_left _ hmem,hid,hnone,hrun⟩
 · have hnew:∀a∈R,∀src,a.reconciliationOf=some src→ record.reconciliationOf=some src→False:=by
    intro a har src hasrc hsrc
    obtain ⟨-,-,-,-,hnone⟩:=reconciliationDecision_ok hsrc ha.reconciliation
    have:=List.find?_eq_none.mp hnone a har
    simp [hasrc] at this
   intro a har b hbr src hasrc hbsrc
   rcases mem_append.mp har with har|har <;>rcases mem_append.mp hbr with hbr|hbr
   · exact h.single a har b hbr src hasrc hbsrc
   · rw [mem_singleton] at hbr
     exact (hnew a har src hasrc (hbr▸hbsrc)).elim
   · rw [mem_singleton] at har
     exact (hnew b hbr src hbsrc (har▸hasrc)).elim
   · rw [mem_singleton] at har hbr
     rw [har,hbr]
 · intro runId
   rw [runRecords_concat]
   split
   · next hrun=>
     have htotals:=ha.totals
     unfold totalsDecision at htotals
     rw [hrun] at htotals
     simp only at htotals
     obtain ⟨totals,hok,-⟩:=except_map_ok.mp htotals
     exact ⟨totals,hok⟩
   · rw [append_nil]
     exact h.totals runId
end

structure WellKept (s:InMemoryUsageLedger) : Prop where
 indexed:Indexed s
 kept:Kept (orderedRecords s)
 listed:∀id∈s.order,(s.records[id]?).isSome=true

lemma wellKept_new:WellKept .new:=⟨indexed_new,kept_nil,by simp [InMemoryUsageLedger.new]⟩

inductive Appended (s:InMemoryUsageLedger) (record:UsageRecord) :
  Except UsageLedgerError UsageRecord→InMemoryUsageLedger→Prop
 | rejected {e:UsageLedgerError} (refused:decision (orderedRecords s) record=.error e) :
  Appended s record (.error e) s
 | answered {existing:UsageRecord}
  (decided:Decided (orderedRecords s) record (some existing)) :
  Appended s record (.ok existing) s
 | stored (accepted:Accepted (orderedRecords s) record)
  (records:orderedRecords (store s record)=orderedRecords s++[record]) :
  Appended s record (.ok record) (store s record)

lemma append_appended(h:WellKept s)(record:UsageRecord):
  Appended s record (append s record).1 (append s record).2:=by
 unfold append
 rw [appendDecision_eq h.indexed h.kept.ids]
 cases hd:decision (orderedRecords s) record with
 | error e=>exact .rejected hd
 | ok answer=>
  have hdecided:=decision_ok_iff.mp hd
  cases answer with
  | some existing=>exact .answered hdecided
  | none=>
   cases hdecided with
   | stored accepted=>
    exact .stored accepted (orderedRecords_store h.indexed accepted.fresh h.listed)

lemma Appended.wellKept{s':InMemoryUsageLedger}
  {r:Except UsageLedgerError UsageRecord}(h:WellKept s)(ha:Appended s record r s'):
  WellKept s':=by
 cases ha with
 | rejected _=>exact h
 | answered _=>exact h
 | stored accepted records=>
  refine ⟨h.indexed.store h.listed accepted.fresh accepted.response,?_,?_⟩
  · rw [records]
    exact h.kept.append accepted
  · intro id hid
    rcases mem_append.mp hid with hid|hid
    · simp only [store,lookup_insert]
      split
      · rfl
      · exact h.listed id hid
    · rw [mem_singleton] at hid
      subst hid
      simp [store]

lemma WellKept.step(h:WellKept s)(call:Call):WellKept (step s call).2:=by
 cases call with
 | append record=>exact (append_appended h record).wellKept h
 | reconcile source amounts at' id=>
  simp only [UsageLedger.step]
  unfold reconcile
  split
  · exact h
  · next record _=>exact (append_appended h record).wellKept h
 | _=>exact h

lemma wellKept_execute(h:WellKept s)(calls:List Call):WellKept (execute step s calls):=
 execute_invariant step h (fun _ call h=>h.step call) calls

lemma execute_wellKept(calls:List Call):WellKept (execute step .new calls):=
 wellKept_execute wellKept_new calls

end GraphBlocks.UsageLedger
