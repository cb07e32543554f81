import GraphBlocks.UsageLedgerTotals

namespace GraphBlocks.UsageLedger
open RustStd Usage MachineRuns List

def content (record:UsageRecord) : UsageRecord :=
 if (dedupeResponse record).isSome then { record with recordId := "" } else record

variable {a b:UsageRecord}

lemma content_congr(h:content a=content b):
  a.amounts=b.amounts∧a.runId=b.runId∧a.reconciliationOf=b.reconciliationOf ∧
   a.attemptId=b.attemptId∧a.providerResponseId=b.providerResponseId:=by
 unfold content at h
 split at h <;>split at h <;>cases a <;>cases b <;>simp_all

lemma hasResponse_content(h:content a=content b)(key:DedupeKey):
  hasResponse key a=hasResponse key b:=by
 obtain ⟨-,-,hrec,hattempt,hprovider⟩:=content_congr h
 simp only [hasResponse,dedupeResponse,hrec,hattempt,hprovider]

lemma content_of_reconciliation(h:a.reconciliationOf≠none):content a=a:=by
 have hnone:dedupeResponse a=none:=by
  rw [dedupeResponse,if_neg]
  simpa [Option.isNone_iff_eq_none] using h
 rw [content,hnone]
 rfl

lemma usageProviderDuplicateConflict_eq_false:
  usageProviderDuplicateConflict a b=false ↔ { b with recordId:=a.recordId }=a:=by
 cases a
 cases b
 simp only [usageProviderDuplicateConflict,Bool.or_eq_false_iff,bne_eq_false_iff_eq,
  decide_eq_false_iff_not,ne_eq,not_not,UsageRecord.mk.injEq]
 constructor
 · rintro ⟨⟨⟨⟨⟨⟨⟨⟨⟨⟨⟨h1,h2⟩,h3⟩,h4⟩,h5⟩,h6⟩,h7⟩,h8⟩,h9⟩,h10⟩,h11⟩,h12⟩
   exact ⟨trivial,h1.symm,h2.symm,h3.symm,h4.symm,h5.symm,h6.symm,h7.symm,h8.symm,h9.symm,
    h10.symm,h11.symm,h12.symm⟩
 · rintro ⟨-,h1,h2,h3,h4,h5,h6,h7,h8,h9,h10,h11,h12⟩
   exact ⟨⟨⟨⟨⟨⟨⟨⟨⟨⟨⟨h1.symm,h2.symm⟩,h3.symm⟩,h4.symm⟩,h5.symm⟩,h6.symm⟩,h7.symm⟩,h8.symm⟩,
    h9.symm⟩,h10.symm⟩,h11.symm⟩,h12.symm⟩

lemma content_of_duplicate{p:String}(hp:dedupeResponse b=some p)
  (h:usageProviderDuplicateConflict a b=false):content a=content b:=by
 have heq:=usageProviderDuplicateConflict_eq_false.mp h
 have hp':dedupeResponse a=some p:=by
  rw [←heq]
  exact hp
 rw [content,content,hp,hp',←heq]
 rfl

lemma duplicate_of_content{p:String}(hp:dedupeResponse b=some p)
  (h:content a=content b):usageProviderDuplicateConflict a b=false:=by
 have hp':dedupeResponse a=some p:=by
  obtain ⟨-,-,hrec,-,hprovider⟩:=content_congr h
  rw [←hp,dedupeResponse,dedupeResponse,hrec,hprovider]
 rw [content,content,hp,hp'] at h
 rw [usageProviderDuplicateConflict_eq_false]
 cases a
 cases b
 simp_all

variable {R:List UsageRecord}

lemma Kept.content_inj(h:Kept R)(ha:a∈R)(hb:b∈R)(heq:content a=content b):a=b:=by
 cases hp:dedupeResponse a with
 | some p=>
  have hkey:hasResponse (p,a.attemptId) a=true:=by simp [hasResponse,hp]
  exact h.responses a ha b hb _ hkey (hasResponse_content heq _▸hkey)
 | none=>
  obtain ⟨-,-,hrec,-,hprovider⟩:=content_congr heq
  have hp':dedupeResponse b=none:=by rw [←hp,dedupeResponse,dedupeResponse,hrec,hprovider]
  rw [content,content,hp,hp'] at heq
  exact heq

lemma Kept.nodup_contents(h:Kept R):(R.map content).Nodup:=by
 have hnodup:R.Nodup:=List.Nodup.of_map _ h.ids
 exact hnodup.map_on fun a ha b hb=>h.content_inj ha hb

/-- `x` was issued, `y` was returned, and the records grew from `R` to `R'`. -/
structure Written (R R':List UsageRecord) (x y:UsageRecord) : Prop where
 base:∀r∈R,r∈R'
 stored:y∈R'
 same:content y=content x
 origin:∀r∈R',r∈R∨r=x∧y=x
 valid:validateUsageRecord x=.ok ()
 fresh:y≠x → ∀r∈R,r.recordId≠x.recordId
 extended:∃added,R'=R++added

variable {R':List UsageRecord} {x y:UsageRecord}

lemma Written.renamed(h:Written R R' x y)(hne:y≠x):y.recordId≠x.recordId:=by
 rcases h.origin y h.stored with hy|⟨-,heq⟩
 · exact h.fresh hne y hy
 · exact absurd heq hne

lemma Decided.written(h:Decided R x (some y)):Written R R x y:=by
 cases h with
 | replayed valid found=>
  exact ⟨fun _=>id,(findRecord_id found).1,rfl,fun _=>.inl,valid,fun hne=>absurd rfl hne,[],by simp⟩
 | duplicate valid fresh reconciliation response=>
  unfold responseDecision at response
  cases hp:dedupeResponse x with
  | none=>simp [hp] at response
  | some p=>
   simp only [hp] at response
   cases hf:findResponse R (p,x.attemptId) with
   | none=>simp [hf] at response
   | some existing=>
    simp only [hf] at response
    split at response
    · cases response
    · next hconflict=>
      cases response
      have hmem:=mem_of_find?_eq_some hf
      exact ⟨fun _=>id,hmem,content_of_duplicate hp (by simpa using hconflict),
       fun _=>.inl,valid,fun _=>findRecord_none.mp fresh,[],by simp⟩

lemma Appended.written{s s':InMemoryUsageLedger}(h:Appended s x (.ok y) s'):
  Written (orderedRecords s) (orderedRecords s') x y:=by
 cases h with
 | answered decided=>exact decided.written
 | stored accepted records=>
  rw [records]
  refine ⟨fun r hr=>mem_append_left _ hr,by simp,rfl,?_,accepted.valid,
   fun hne=>absurd rfl hne,[x],rfl⟩
  intro r hr
  rcases mem_append.mp hr with hr|hr
  · exact .inl hr
  · exact .inr ⟨by simpa using hr,rfl⟩

lemma Appended.state_of_error{s s':InMemoryUsageLedger}{e:UsageLedgerError}
  (h:Appended s x (.error e) s'):s'=s:=by
 cases h
 rfl

inductive Issues (R:List UsageRecord) : Call→UsageRecord→Prop
 | append (x:UsageRecord) : Issues R (.append x) x
 | reconcile {o:UsageRecord} (source:o∈R) (amounts:List UsageAmount)
   (occurredAtUnixMs:ℕ) (recordId:Option String)
   (ordered:o.occurredAtUnixMs≤occurredAtUnixMs) :
   Issues R (.reconcile o.recordId amounts occurredAtUnixMs recordId)
    (reconciledRecord o o.recordId amounts occurredAtUnixMs recordId)

variable {c:Call}

lemma Issues.mono(h:∀r∈R,r∈R')(hi:Issues R c x):Issues R' c x:=by
 cases hi with
 | append x=>exact .append x
 | reconcile source amounts at' id ordered=>exact .reconcile (h _ source) amounts at' id ordered

def acceptedRecord (t:Transition InMemoryUsageLedger Call (Except UsageLedgerError Response)) :
  Option UsageRecord :=
 match t.call, t.response with
 | .append _, .ok (.record record)=>some record
 | .reconcile _ _ _ _, .ok (.record record)=>some record
 | _, _=>none

variable {s:InMemoryUsageLedger}

lemma reconcileRequest_ok(h:Indexed s){src:String}{amounts:List UsageAmount}{t:ℕ}
  {id:Option String}:
  reconcileRequest (get s src) src amounts t id=.ok x ↔
   ∃o,findRecord (orderedRecords s) src=some o∧o.occurredAtUnixMs≤t ∧
    x=reconciledRecord o src amounts t id:=by
 rw [get_eq h,reconcileRequest,bind_ok]
 simp only [bind_ok,ensure_ok,decide_eq_true_eq,foundRecord]
 constructor
 · rintro ⟨o,hfound,_,hle,hx⟩
   cases hf:findRecord (orderedRecords s) src with
   | none=>simp [hf] at hfound
   | some o'=>
    simp only [hf,Except.ok.injEq] at hfound
    subst hfound
    cases hx
    exact ⟨o',rfl,hle,rfl⟩
 · rintro ⟨o,hf,hle,rfl⟩
   exact ⟨o,by simp [hf],(),hle,rfl⟩

lemma acceptedRecord_appended(h:WellKept s)(hy:acceptedRecord (takeStep step s c)=some y):
  ∃x,Issues (orderedRecords s) c x∧append s x=(.ok y,(step s c).2):=by
 unfold acceptedRecord takeStep at hy
 cases c with
 | append x=>
  refine ⟨x,.append x,?_⟩
  simp only [step] at hy ⊢
  cases hr:(append s x).1 with
  | error e=>simp [hr,Except.map] at hy
  | ok r=>
   simp only [hr,Except.map,Option.some.injEq] at hy
   rw [←hy,←hr]
 | reconcile src amounts t id=>
  simp only [step] at hy ⊢
  unfold reconcile at hy ⊢
  cases hq:reconcileRequest (get s src) src amounts t id with
  | error e=>simp [hq,Except.map] at hy
  | ok x=>
   obtain ⟨o,hfind,hle,rfl⟩:=(reconcileRequest_ok h.indexed).mp hq
   obtain ⟨hmem,rfl⟩:=findRecord_id hfind
   refine ⟨_,.reconcile hmem amounts t id hle,?_⟩
   simp only [hq] at hy ⊢
   cases hr:(append s (reconciledRecord o o.recordId amounts t id)).1 with
   | error e=>simp [hr,Except.map] at hy
   | ok r=>
    simp only [hr,Except.map,Option.some.injEq] at hy
    rw [←hy,←hr]
 | _=>simp at hy

lemma step_unaccepted(h:WellKept s)(hnone:acceptedRecord (takeStep step s c)=none):
  (step s c).2=s:=by
 unfold acceptedRecord takeStep at hnone
 cases c with
 | append x=>
  simp only [step] at hnone ⊢
  have happ:=append_appended h x
  cases hr:(append s x).1 with
  | error e=>
   rw [hr] at happ
   exact happ.state_of_error
  | ok r=>simp [hr,Except.map] at hnone
 | reconcile src amounts t id=>
  simp only [step] at hnone ⊢
  unfold reconcile at hnone ⊢
  cases hq:reconcileRequest (get s src) src amounts t id with
  | error e=>rfl
  | ok x=>
   simp only [hq] at hnone ⊢
   have happ:=append_appended h x
   cases hr:(append s x).1 with
   | error e=>
    rw [hr] at happ
    exact happ.state_of_error
   | ok r=>simp [hr,Except.map] at hnone
 | _=>rfl

def acceptedRecords (s:InMemoryUsageLedger) (calls:List Call) : List UsageRecord :=
 (history step s calls).filterMap acceptedRecord

def acceptedCalls (s:InMemoryUsageLedger) (calls:List Call) : List Call :=
 ((history step s calls).filter fun t=>(acceptedRecord t).isSome).map Transition.call

/-- What a run makes of the records it started from. -/
structure Grown (R R':List UsageRecord) (accepted:List Call) (returned:List UsageRecord) :
  Prop where
 base:∀r∈R,r∈R'
 answered:∀c∈accepted,∃x,Issues R' c x∧validateUsageRecord x=.ok () ∧
  ∃y∈R',content y=content x∧(y=x ∨ ∀r∈R,r.recordId≠x.recordId)
 origin:∀r∈R',r∈R ∨ ∃c∈accepted,Issues R' c r
 returned:∀r,r∈R'↔r∈R∨r∈returned
 extended:∃added,R'=R++added

lemma Grown.refl(R:List UsageRecord):Grown R R [] []:=
 ⟨fun _=>id,by simp,fun _=>.inl,by simp,[],by simp⟩

lemma Grown.concat{R'':List UsageRecord}{accepted:List Call}{returned:List UsageRecord}
  (h:Grown R R' accepted returned)(hi:Issues R' c x)(hw:Written R' R'' x y):
  Grown R R'' (accepted++[c]) (returned++[y]):=by
 refine ⟨fun r hr=>hw.base r (h.base r hr),?_,?_,?_,?_⟩
 · intro c' hc'
   rcases mem_append.mp hc' with hc'|hc'
   · obtain ⟨x',hi',hvalid,y',hy',hrest⟩:=h.answered c' hc'
     exact ⟨x',hi'.mono hw.base,hvalid,y',hw.base y' hy',hrest⟩
   · rw [mem_singleton] at hc'
     refine ⟨x,hc'▸hi.mono hw.base,hw.valid,y,hw.stored,hw.same,?_⟩
     by_cases hyx:y=x
     · exact .inl hyx
     · exact .inr fun r hr=>hw.fresh hyx r (h.base r hr)
 · intro r hr
   rcases hw.origin r hr with hr|⟨rfl,-⟩
   · rcases h.origin r hr with hr|⟨c',hc',hi'⟩
     · exact .inl hr
     · exact .inr ⟨c',mem_append_left _ hc',hi'.mono hw.base⟩
   · exact .inr ⟨c,by simp,hi.mono hw.base⟩
 · intro r
   rw [mem_append,mem_singleton,←or_assoc,←h.returned]
   constructor
   · intro hr
     rcases hw.origin r hr with hr|⟨rfl,rfl⟩
     · exact .inl hr
     · exact .inr rfl
   · rintro (hr|rfl)
     · exact hw.base r hr
     · exact hw.stored
 · obtain ⟨added,rfl⟩:=h.extended
   obtain ⟨more,rfl⟩:=hw.extended
   exact ⟨added++more,append_assoc _ _ _⟩

lemma acceptedCalls_concat(s:InMemoryUsageLedger)(calls:List Call)(c:Call):
  acceptedCalls s (calls++[c])=acceptedCalls s calls ++
   if (acceptedRecord (takeStep step (execute step s calls) c)).isSome then [c] else []:=by
 unfold acceptedCalls
 rw [history_concat,filter_append,map_append,filter_singleton]
 congr 1
 cases (acceptedRecord (takeStep step (execute step s calls) c)).isSome <;>rfl

lemma execute_grown(h:WellKept s)(calls:List Call):
  Grown (orderedRecords s) (orderedRecords (execute step s calls)) (acceptedCalls s calls)
   (acceptedRecords s calls):=by
 induction calls using List.reverseRecOn with
 | nil=>exact Grown.refl _
 | append_singleton calls c ih=>
  have hk:=wellKept_execute h calls
  rw [execute_concat,acceptedCalls_concat,acceptedRecords,history_concat,filterMap_concat]
  cases ha:acceptedRecord (takeStep step (execute step s calls) c) with
  | none=>
   rw [step_unaccepted hk ha]
   simpa [acceptedRecords] using ih
  | some y=>
   obtain ⟨x,hi,happ⟩:=acceptedRecord_appended hk ha
   have hw:=append_appended hk x
   rw [happ] at hw
   exact ih.concat hi hw.written

end GraphBlocks.UsageLedger
