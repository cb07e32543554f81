import GraphBlocks.UsageLedgerRecords

namespace GraphBlocks.UsageLedger
open RustStd Usage List Option

section
variable {records:List UsageRecord}

def recordsTotal (records:List UsageRecord) (key:AmountKey) : ℤ :=
 (records.map fun record=>amountOf record.amounts key).sum

lemma totalAt_flatMap(records:List UsageRecord)(key:AmountKey):
  totalAt (records.flatMap fun record=>keyedAmounts record.amounts) key =
   recordsTotal records key:=by
 induction records with
 | nil=>rfl
 | cons record records ih=>
  rw [flatMap_cons,totalAt_append,ih]
  rfl

lemma flatMap_keyedAmounts(records:List UsageRecord):
  (records.flatMap fun record=>keyedAmounts record.amounts) =
   keyedAmounts (records.flatMap UsageRecord.amounts):=by
 simp only [keyedAmounts,map_flatMap]

variable {totals:List UsageAmount}

lemma usageTotals_map(h:usageTotals records=.ok totals):
  ∃m,totals=mapToAmounts m∧CanonicalKeys m ∧
   (∀key,amountAt m key=recordsTotal (countedRecords records) key) ∧
   ∀key,amountAt m key ≤ i64Max:=by
 obtain ⟨m,hm,rfl⟩:=except_map_ok.mp h
 have hrange:=accumulate_range hm (by simp [i64Min,i64Max])
 have hat:=amountAt_accumulate hm
 rw [flatMap_keyedAmounts] at hm
 refine ⟨m,rfl,accumulate_canonical hm,?_,fun key=>(hrange key).2⟩
 intro key
 rw [hat,amountAt_empty,zero_add,totalAt_flatMap]

structure ExactTotals (totals:List UsageAmount) (expected:AmountKey→ℤ) : Prop where
 keys:(totals.map amountKey).Nodup
 nonzero:∀amount∈totals,amount.amount≠0
 exact:∀key,amountOf totals key=expected key

lemma usageTotals_exact(h:usageTotals records=.ok totals):
  ExactTotals totals (recordsTotal (countedRecords records)):=by
 obtain ⟨m,rfl,hcanonical,hat,-⟩:=usageTotals_map h
 refine ⟨hcanonical.nodup_keys,fun _=>mapToAmounts_nonzero,fun key=>?_⟩
 rw [hcanonical.amountOf_mapToAmounts,hat]

lemma usageTotals_congr{records':List UsageRecord}{totals':List UsageAmount}
  (h:usageTotals records=.ok totals)(h':usageTotals records'=.ok totals')
  (hsame:∀key,recordsTotal (countedRecords records) key =
   recordsTotal (countedRecords records') key):totals=totals':=by
 obtain ⟨m,rfl,-,hat,-⟩:=usageTotals_map h
 obtain ⟨m',rfl,-,hat',-⟩:=usageTotals_map h'
 apply mapToAmounts_congr
 intro key
 rw [hat,hat',hsame]

lemma validateAmounts_nonneg{amounts:List UsageAmount}
  (h:validateAmounts amounts=.ok ()):∀amount∈amounts,0≤amount.amount:=by
 induction amounts with
 | nil=>simp
 | cons amount rest ih=>
  unfold validateAmounts at h
  split at h
  · cases h
  · next hneg=>
    split at h
    · cases h
    · split at h
      · cases h
      · obtain ⟨_,-,hrest⟩:=bind_ok.mp h
        intro a ha
        rcases mem_cons.mp ha with rfl|ha
        · omega
        · exact ih hrest a ha

lemma valid_amounts_nonneg{record:UsageRecord}(h:validateUsageRecord record=.ok ()):
  ∀amount∈record.amounts,0≤amount.amount:=by
 simp only [validateUsageRecord,bind_ok,ensure_ok] at h
 obtain ⟨_,-,_,-,_,-,_,-,_,-,_,-,_,hamounts,-⟩:=h
 exact validateAmounts_nonneg hamounts

lemma amountOf_nonneg{record:UsageRecord}(h:validateUsageRecord record=.ok ())
  (key:AmountKey):0≤amountOf record.amounts key:=by
 apply totalAt_nonneg
 intro e he
 obtain ⟨a,ha,rfl⟩:=List.mem_map.mp he
 exact valid_amounts_nonneg h a ha

lemma usageTotals_isOk(hvalid:∀r∈records,validateUsageRecord r=.ok ())
  (hle:∀key,recordsTotal (countedRecords records) key ≤ i64Max):
  ∃totals,usageTotals records=.ok totals:=by
 have hnonneg:∀e∈(countedRecords records).flatMap (fun r=>keyedAmounts r.amounts),0≤e.2:=by
  intro e he
  obtain ⟨r,hr,he⟩:=mem_flatMap.mp he
  obtain ⟨a,ha,rfl⟩:=List.mem_map.mp he
  exact valid_amounts_nonneg (hvalid r (mem_of_mem_filter hr)) a ha
 have hok:∃m,accumulate totalOverflow checkedAddI64
   ((countedRecords records).flatMap fun r=>keyedAmounts r.amounts) ∅=.ok m:=by
  apply accumulate_isOk totalOverflow (.inl hnonneg)
  · simp [i64Min,i64Max]
  · intro e _
    have hlow:=totalAt_nonneg hnonneg e.1
    have hhigh:=hle e.1
    rw [←totalAt_flatMap] at hhigh
    rw [amountAt_empty,zero_add]
    have hmin:i64Min≤0:=by decide
    exact ⟨hmin.trans hlow,hhigh⟩
 obtain ⟨m,hm⟩:=hok
 exact ⟨mapToAmounts m,except_map_ok.mpr ⟨m,hm,rfl⟩⟩
end

def isOriginal (record:UsageRecord) : Bool := record.reconciliationOf.isNone

def originals (R:List UsageRecord) : List UsageRecord := R.filter isOriginal

def settledBy (R:List UsageRecord) (original:UsageRecord) : UsageRecord :=
 (findReconciliation R original.recordId).getD original

section
variable {R:List UsageRecord} {runId:String}

lemma mem_runRecords{r:UsageRecord}:r∈runRecords R runId↔r∈R∧r.runId=some runId:=by
 simp [runRecords]

lemma mem_superseded{id:String}:id∈supersededRecordIds R ↔ ∃c∈R,c.reconciliationOf=some id:=by
 simp [supersededRecordIds]

lemma Kept.target_of_id(h:Kept R){c o:UsageRecord}(hc:c∈R)(ho:o∈R)
  (hsrc:c.reconciliationOf=some o.recordId):o.reconciliationOf=none∧o.runId=c.runId:=by
 obtain ⟨o',ho',hid,hnone,hrun⟩:=h.targets c hc _ hsrc
 rw [←inj_on_of_nodup_map h.ids ho' ho hid]
 exact ⟨hnone,hrun⟩

lemma findReconciliation_eq_some(h:Kept R){c:UsageRecord}{id:String}:
  findReconciliation R id=some c↔c∈R∧c.reconciliationOf=some id:=by
 constructor
 · intro hf
   exact ⟨mem_of_find?_eq_some hf,by simpa using List.find?_some hf⟩
 · rintro ⟨hc,hsrc⟩
   cases hf:findReconciliation R id with
   | none=>
    have:=List.find?_eq_none.mp hf c hc
    simp [hsrc] at this
   | some c'=>
    have hc':=mem_of_find?_eq_some hf
    have hsrc':c'.reconciliationOf=some id:=by simpa using List.find?_some hf
    rw [h.single c' hc' c hc id hsrc' hsrc]

lemma Kept.superseded_iff(h:Kept R){o:UsageRecord}(ho:o∈runRecords R runId):
  o.recordId∈supersededRecordIds (runRecords R runId) ↔
   (findReconciliation R o.recordId).isSome=true:=by
 obtain ⟨hoR,horun⟩:=mem_runRecords.mp ho
 rw [mem_superseded,isSome_iff_exists]
 constructor
 · rintro ⟨c,hc,hsrc⟩
   exact ⟨c,(findReconciliation_eq_some h).mpr ⟨(mem_runRecords.mp hc).1,hsrc⟩⟩
 · rintro ⟨c,hf⟩
   obtain ⟨hc,hsrc⟩:=(findReconciliation_eq_some h).mp hf
   refine ⟨c,mem_runRecords.mpr ⟨hc,?_⟩,hsrc⟩
   rw [←(h.target_of_id hc hoR hsrc).2,horun]

lemma Kept.reconciliations_perm(h:Kept R):
  ((originals (runRecords R runId)).filterMap fun o=>findReconciliation R o.recordId).Perm
   ((runRecords R runId).filter fun r => !isOriginal r):=by
 have hnodup:R.Nodup:=List.Nodup.of_map _ h.ids
 have hrun:(runRecords R runId).Nodup:=hnodup.filter _
 rw [perm_ext_iff_of_nodup _ (hrun.filter _)]
 · intro c
   simp only [mem_filterMap,originals,mem_filter,mem_runRecords,isOriginal,
    findReconciliation_eq_some h,Bool.not_eq_true',isNone_eq_false_iff,
    isNone_iff_eq_none]
   constructor
   · rintro ⟨o,⟨⟨ho,horun⟩,-⟩,hc,hsrc⟩
     exact ⟨⟨hc,(h.target_of_id hc ho hsrc).2▸horun⟩,by simp [hsrc]⟩
   · rintro ⟨⟨hc,hcrun⟩,hsome⟩
     obtain ⟨src,hsrc⟩:=isSome_iff_exists.mp hsome
     obtain ⟨o,ho,hid,hnone,horun⟩:=h.targets c hc src hsrc
     exact ⟨o,⟨⟨ho,horun.trans hcrun⟩,hnone⟩,hc,hid▸hsrc⟩
 · have hids:((originals (runRecords R runId)).map UsageRecord.recordId).Nodup:=
    h.ids.sublist ((filter_sublist.trans filter_sublist).map _)
   have hmap:=List.Nodup.filterMap (f:=findReconciliation R) (by
    intro id id' c hc hc'
    have hsrc:=((findReconciliation_eq_some h).mp hc).2
    have hsrc':=((findReconciliation_eq_some h).mp hc').2
    exact some.inj (hsrc.symm.trans hsrc')) hids
   rwa [filterMap_map] at hmap

lemma sum_filter_add{α:Type}(p:α→Bool)(f:α→ℤ)(l:List α):
  ((l.filter p).map f).sum+((l.filter fun a => !p a).map f).sum=(l.map f).sum:=by
 induction l with
 | nil=>rfl
 | cons a l ih=>cases h:p a <;>simp [h,←ih] <;>omega

lemma Kept.counted_original(h:Kept R){f:UsageRecord→ℤ}:
  (((countedRecords (runRecords R runId)).filter isOriginal).map f).sum =
   (((originals (runRecords R runId)).filter fun o=>
    (findReconciliation R o.recordId).isNone).map f).sum:=by
 unfold countedRecords originals
 rw [List.filter_filter,List.filter_filter]
 congr 2
 apply filter_congr
 intro o ho
 have hiff:=h.superseded_iff ho
 cases hf:findReconciliation R o.recordId with
 | none=>
  have hnot:o.recordId∉supersededRecordIds (runRecords R runId):=by
   rw [hiff,hf]
   simp
  simp [hnot]
 | some c=>
  have hmem:o.recordId∈supersededRecordIds (runRecords R runId):=by
   rw [hiff,hf]
   rfl
  simp [hmem]

lemma Kept.counted_reconciliation(h:Kept R):
  (countedRecords (runRecords R runId)).filter (fun r => !isOriginal r) =
   (runRecords R runId).filter fun r => !isOriginal r:=by
 unfold countedRecords
 rw [List.filter_filter]
 apply filter_congr
 intro c hc
 cases ho:isOriginal c with
 | true=>simp
 | false=>
  have hnot:c.recordId∉supersededRecordIds (runRecords R runId):=by
   rw [mem_superseded]
   rintro ⟨c',hc',hsrc⟩
   have hnone:=(h.target_of_id (mem_runRecords.mp hc').1 (mem_runRecords.mp hc).1 hsrc).1
   rw [isOriginal,hnone] at ho
   cases ho
  simp [hnot]

lemma sum_settled(R O:List UsageRecord)(f:UsageRecord→ℤ):(O.map fun o=>f (settledBy R o)).sum =
   ((O.filter fun o=>(findReconciliation R o.recordId).isNone).map f).sum +
    ((O.filterMap fun o=>findReconciliation R o.recordId).map f).sum:=by
 induction O with
 | nil=>rfl
 | cons o O ih=>
  cases hf:findReconciliation R o.recordId with
  | none=>
   have hs:settledBy R o=o:=by rw [settledBy,hf];rfl
   simp only [map_cons,sum_cons,hs,ih,filter_cons,filterMap_cons,hf,
    isNone_none,↓reduceIte,add_assoc]
  | some c=>
   have hs:settledBy R o=c:=by rw [settledBy,hf];rfl
   simp only [map_cons,sum_cons,hs,ih,filter_cons,filterMap_cons,hf,
    isNone_some,Bool.false_eq_true,↓reduceIte]
   omega

lemma Kept.counted_sum(h:Kept R)(f:UsageRecord→ℤ):
  ((countedRecords (runRecords R runId)).map f).sum =
   ((originals (runRecords R runId)).map fun o=>f (settledBy R o)).sum:=by
 rw [←sum_filter_add isOriginal,h.counted_original,h.counted_reconciliation,sum_settled,
  (h.reconciliations_perm.map f).sum_eq]
end

end GraphBlocks.UsageLedger
