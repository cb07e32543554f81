import GraphBlocks.JournalModel

namespace GraphBlocks.Journal
open RustStd Json MachineRuns List Option

/-- The arguments shared by the four append calls. -/
structure Entry where
 kind:String
 metadata:JournalMetadata
 payload:Option Value
 terminal:Bool

def Call.entry : Call→Entry
 | .append kind payload=>⟨kind,.new,some payload,false⟩
 | .appendWithMetadata kind metadata payload=>⟨kind,metadata,payload,false⟩
 | .appendTerminal kind payload=>⟨kind,.new,some payload,true⟩
 | .appendTerminalWithMetadata kind metadata payload=>⟨kind,metadata,payload,true⟩

def Entry.record (e:Entry) (runId:String) (runSequence:ℕ) : JournalRecord :=
 recordOf runId runSequence e.kind e.metadata e.payload e.terminal

def terminalKindOf (log:List JournalRecord) : Option String :=
 (log.find? (·.terminal)).map JournalRecord.kind

def Entry.refusal (e:Entry) (terminalKind:String) : JournalError :=
 if e.terminal then .terminalAlreadyRecorded terminalKind else .appendAfterTerminal terminalKind

/-- The answer of a journal that holds `log`, before any question of storage. -/
def logResponse (runId:String) (log:List JournalRecord) (e:Entry) :
  Except JournalError JournalRecord :=
 match terminalKindOf log with
 | some kind=>.error (e.refusal kind)
 | none=>.ok (e.record runId (log.length+1))

def extend (log:List JournalRecord) (r:Except JournalError JournalRecord) : List JournalRecord :=
 match r with
 | .ok record=>log++[record]
 | .error _=>log

/-- Records numbered from `n` on, of which only the last may be terminal. -/
def Numbered (runId:String) : ℕ→List JournalRecord→Prop
 | _, []=>True
 | n, r::rest=>r.runId=runId∧r.runSequence=n∧r.recordId=recordIdOf runId n ∧
   (r.terminal=true → rest=[])∧Numbered runId (n+1) rest

variable {log:List JournalRecord} {runId:String}

lemma terminalKindOf_eq_none:terminalKindOf log=none ↔ ∀r∈log,r.terminal=false:=by
 simp [terminalKindOf,List.find?_eq_none]

variable {r:JournalRecord}

lemma terminalKindOf_concat(h:terminalKindOf log=none):
  terminalKindOf (log++[r])=if r.terminal then some r.kind else none:=by
 have hopen:=terminalKindOf_eq_none.mp h
 have hnone:log.find? (·.terminal)=none:=by simpa [List.find?_eq_none] using hopen
 unfold terminalKindOf
 rw [List.find?_append,hnone,none_or,List.find?_singleton]
 cases r.terminal <;>rfl

variable {n:ℕ}

lemma Numbered.concat{e:Entry}(h:Numbered runId n log)
  (hopen:∀r∈log,r.terminal=false):Numbered runId n (log++[e.record runId (n+log.length)]):=by
 induction log generalizing n with
 | nil=>exact ⟨rfl,rfl,rfl,fun _=>rfl,trivial⟩
 | cons r rest ih=>
  obtain ⟨h1,h2,h3,-,h5⟩:=h
  refine ⟨h1,h2,h3,?_,?_⟩
  · intro ht
    rw [hopen r (by simp)] at ht
    cases ht
  · have hrest:=ih h5 (fun q hq=>hopen q (by simp [hq]))
    have hn:n+1+rest.length=n+(r::rest).length:=by
     rw [length_cons]
     omega
    rw [hn] at hrest
    exact hrest

lemma Numbered.sequences(h:Numbered runId n log):
  log.map JournalRecord.runSequence=List.range' n log.length:=by
 induction log generalizing n with
 | nil=>rfl
 | cons r rest ih=>
  obtain ⟨-,h2,-,-,h5⟩:=h
  rw [map_cons,length_cons,range'_succ,h2,ih h5]

lemma Numbered.terminal_last(h:Numbered runId n log):
  ∀before r after,log=before++r::after→ r.terminal=true→after=[]:=by
 induction log generalizing n with
 | nil=>
  intro before r after he
  simp at he
 | cons q rest ih=>
  intro before r after he ht
  obtain ⟨-,-,-,h4,h5⟩:=h
  cases before with
  | nil=>
   rw [nil_append,List.cons.injEq] at he
   rw [←he.2]
   exact h4 (he.1▸ht)
  | cons b before=>
   rw [cons_append,List.cons.injEq] at he
   exact ih h5 before r after he.2 ht

lemma Numbered.terminal_filter(h:Numbered runId n log):
  (log.filter (·.terminal)).map JournalRecord.kind=(terminalKindOf log).toList:=by
 induction log generalizing n with
 | nil=>rfl
 | cons r rest ih=>
  obtain ⟨-,-,-,h4,h5⟩:=h
  cases ht:r.terminal with
  | true=>simp [terminalKindOf,ht,h4 ht]
  | false=>
   have hrest:=ih h5
   simp only [terminalKindOf,filter_cons,List.find?_cons,ht,Bool.false_eq_true,
    ↓reduceIte] at hrest ⊢
   exact hrest

structure MemoryFollows (runId:String) (log:List JournalRecord) (j:ExecutionJournal) : Prop where
 runId_eq:j.runId=runId
 records_eq:j.records=log
 terminalKind_eq:j.terminalKind=terminalKindOf log

lemma memoryStep_follows{j:ExecutionJournal}(h:MemoryFollows runId log j)(c:Call):
  (memoryStep j c).1=logResponse runId log c.entry ∧
   MemoryFollows runId (extend log (logResponse runId log c.entry)) (memoryStep j c).2:=by
 obtain ⟨rfl,rfl,hk⟩:=h
 unfold logResponse
 cases hterm:terminalKindOf j.records with
 | some kind=>
  rw [hterm] at hk
  cases c <;>simp only [memoryStep,ExecutionJournal.appendWithMetadata,
   ExecutionJournal.appendTerminalWithMetadata,hk,Call.entry,Entry.refusal,extend] <;>
   exact ⟨rfl,rfl,rfl,hk.trans hterm.symm⟩
 | none=>
  rw [hterm] at hk
  have hnew:∀e:Entry,terminalKindOf (j.records++[e.record j.runId
    (j.records.length+1)])=if e.terminal then some e.kind else none:=
   fun e=>terminalKindOf_concat hterm
  cases c with
  | append kind payload=>
   simp only [memoryStep,ExecutionJournal.appendWithMetadata,hk]
   refine ⟨rfl,rfl,rfl,?_⟩
   exact (hnew ⟨kind,.new,some payload,false⟩).symm
  | appendWithMetadata kind metadata payload=>
   simp only [memoryStep,ExecutionJournal.appendWithMetadata,hk]
   refine ⟨rfl,rfl,rfl,?_⟩
   exact (hnew ⟨kind,metadata,payload,false⟩).symm
  | appendTerminal kind payload=>
   simp only [memoryStep,ExecutionJournal.appendTerminalWithMetadata,
    ExecutionJournal.appendWithMetadata,hk,markLastTerminal]
   refine ⟨rfl,rfl,by simp [extend,Call.entry,Entry.record,recordOf],?_⟩
   exact (hnew ⟨kind,.new,some payload,true⟩).symm
  | appendTerminalWithMetadata kind metadata payload=>
   simp only [memoryStep,ExecutionJournal.appendTerminalWithMetadata,
    ExecutionJournal.appendWithMetadata,hk,markLastTerminal]
   refine ⟨rfl,rfl,by simp [extend,Call.entry,Entry.record,recordOf],?_⟩
   exact (hnew ⟨kind,metadata,payload,true⟩).symm

/-- The payload survives `to_string` and `from_str`. -/
def PayloadCodec.Keeps (codec:PayloadCodec) (value:Value) : Prop :=
 ∃text,codec.toString value=.ok text∧codec.fromStr text=.ok value

structure Stored (codec:PayloadCodec) (r:JournalRecord) (row:StoredJournalRecord) : Prop where
 recordId_eq:row.recordId=r.recordId
 runId_eq:row.runId=r.runId
 sequence_eq:row.runSequence=r.runSequence
 kind_eq:row.kind=r.kind
 causationId_eq:row.causationId=r.causationId
 nodeId_eq:row.nodeId=r.nodeId
 attemptId_eq:row.attemptId=r.attemptId
 leaseEpoch_eq:row.leaseEpoch=r.leaseEpoch.map Int.ofNat
 payload_eq:optionalParseJournalJson codec row.payload=.ok r.payload
 terminal_eq:row.terminal=if r.terminal then 1 else 0

/-- The integer columns can hold the record. -/
def FitsColumns (runSequence:ℕ) (leaseEpoch:Option ℕ) : Prop :=
 (runSequence:ℤ) ≤ i64Max ∧ ∀n,leaseEpoch=some n→(n:ℤ) ≤ i64Max

section
variable {codec:PayloadCodec} {runId:String} {log:List JournalRecord}

lemma insertParams_ok(hfit:FitsColumns r.runSequence r.leaseEpoch)
  (hpay:∀v,r.payload=some v→codec.Keeps v):
  ∃row,insertParams codec r=.ok row∧Stored codec r row:=by
 have hseq:journalU64ToI64 r.runSequence "journal sequence"=.ok (r.runSequence:ℤ):=by
  simp [journalU64ToI64,hfit.1]
 have hepoch:optionalJournalU64ToI64 r.leaseEpoch "lease epoch" =
   .ok (r.leaseEpoch.map Int.ofNat):=by
  cases he:r.leaseEpoch with
  | none=>rfl
  | some n=>simp [optionalJournalU64ToI64,journalU64ToI64,hfit.2 n he,Except.map]
 obtain ⟨text,hjson,hparse⟩:∃text,optionalJournalJson codec r.payload=.ok text ∧
   optionalParseJournalJson codec text=.ok r.payload:=by
  cases hp:r.payload with
  | none=>exact ⟨none,rfl,rfl⟩
  | some v=>
   obtain ⟨text,h1,h2⟩:=hpay v hp
   exact ⟨some text,by simp [optionalJournalJson,h1],by simp [optionalParseJournalJson,h2]⟩
 have hrow:insertParams codec r=.ok ⟨r.recordId,r.runId,r.runSequence,r.kind,
   r.causationId,r.nodeId,r.attemptId,r.leaseEpoch.map Int.ofNat,text,
   if r.terminal then 1 else 0⟩:=by
  simp only [insertParams,hseq,hepoch,hjson]
 exact ⟨_,hrow,rfl,rfl,rfl,rfl,rfl,rfl,rfl,rfl,hparse,rfl⟩

lemma insertParams_error(hfit:¬FitsColumns r.runSequence r.leaseEpoch):
  ∃failure,insertParams codec r=.error (.storage failure):=by
 unfold insertParams journalU64ToI64
 by_cases hseq:(r.runSequence:ℤ) ≤ i64Max
 · simp only [hseq,↓reduceIte]
   cases he:r.leaseEpoch with
   | none=>
    refine absurd ⟨hseq,?_⟩ hfit
    intro n hn
    rw [he] at hn
    cases hn
   | some n=>
    have hbig:¬(n:ℤ) ≤ i64Max:=by
     intro hle
     refine hfit ⟨hseq,?_⟩
     intro m hm
     rw [he] at hm
     cases hm
     exact hle
    exact ⟨.exceedsIntegerRange "lease epoch",
     by simp [optionalJournalU64ToI64,journalU64ToI64,hbig,Except.map]⟩
 · exact ⟨.exceedsIntegerRange "journal sequence",by simp [hseq]⟩

structure SqliteFollows (codec:PayloadCodec) (runId:String) (log:List JournalRecord)
  (s:SqliteExecutionJournal) : Prop where
 runId_eq:s.runId=runId
 stored:List.Forall₂ (Stored codec) log (runRows s)
 numbered:Numbered runId 1 log

variable {rows:List StoredJournalRecord}

lemma stored_terminals(h:List.Forall₂ (Stored codec) log rows):
  (rows.filter fun row=>row.terminal==1).map StoredJournalRecord.kind =
   (log.filter (·.terminal)).map JournalRecord.kind:=by
 induction h with
 | nil=>rfl
 | @cons r row log rows hr _ ih=>
  rw [filter_cons,filter_cons,hr.terminal_eq]
  cases r.terminal with
  | true=>simp [ih,hr.kind_eq]
  | false=>simpa using ih

lemma head_insertionSort_of_length_le{α:Type}(r:α→α→Prop)[DecidableRel r]
  {l:List α}(h:l.length≤1):l.insertionSort r=l:=by
 match l, h with
 | [], _=>rfl
 | [a], _=>rfl

variable {s:SqliteExecutionJournal}

lemma terminalKindRow_eq(h:SqliteFollows codec runId log s):
  terminalKindRow s=terminalKindOf log:=by
 have hkinds:=stored_terminals h.stored
 rw [h.numbered.terminal_filter] at hkinds
 have hlen:((runRows s).filter fun row=>row.terminal==1).length≤1:=by
  have hl:=congrArg List.length hkinds
  rw [length_map] at hl
  rw [hl]
  cases terminalKindOf log <;>simp
 unfold terminalKindRow
 rw [head_insertionSort_of_length_le _ hlen,←List.head?_map,hkinds]
 cases terminalKindOf log <;>rfl

lemma maxSequence_fold(h:List.Forall₂ (Stored codec) log rows)(hnum:Numbered runId (n+1) log):
  rows.foldl maxStep (some (n:ℤ))=some ((n+log.length:ℕ):ℤ):=by
 induction h generalizing n with
 | nil=>rfl
 | @cons r row log rows hr _ ih=>
  obtain ⟨-,h2,-,-,h5⟩:=hnum
  have hmax:max (n:ℤ) row.runSequence=((n+1:ℕ):ℤ):=by
   rw [hr.sequence_eq,h2]
   push_cast
   omega
  rw [foldl_cons,maxStep,hmax,ih h5,length_cons]
  congr 2
  omega

lemma maxSequence_eq(h:SqliteFollows codec runId log s):
  (maxSequence (runRows s)).getD 0=log.length:=by
 have hst:=h.stored
 have hnum:=h.numbered
 unfold maxSequence
 generalize runRows s=rows at hst
 cases hst with
 | nil=>rfl
 | @cons r row log rows hr hrest=>
  obtain ⟨-,h2,-,-,h5⟩:=hnum
  have hseq:row.runSequence=((1:ℕ):ℤ):=by rw [hr.sequence_eq,h2]
  rw [foldl_cons,maxStep,hseq,maxSequence_fold hrest h5,getD_some,length_cons]
  congr 1
  omega

lemma stored_lt(h:List.Forall₂ (Stored codec) log rows)(hnum:Numbered runId n log):
  ∀row∈rows,row.runId=runId∧(n:ℤ)≤row.runSequence∧row.runSequence<((n+log.length:ℕ):ℤ):=by
 induction h generalizing n with
 | nil=>simp
 | @cons r row log rows hr _ ih=>
  obtain ⟨h1,h2,-,-,h5⟩:=hnum
  intro q hq
  rw [length_cons]
  rcases mem_cons.mp hq with rfl|hq
  · refine ⟨hr.runId_eq.trans h1,?_,?_⟩
    · rw [hr.sequence_eq,h2]
    · rw [hr.sequence_eq,h2]
      push_cast
      omega
  · obtain ⟨k1,k2,k3⟩:=ih h5 q hq
    refine ⟨k1,?_,?_⟩
    · push_cast at k2
      omega
    · push_cast at k3 ⊢
      omega

lemma stored_sorted(h:List.Forall₂ (Stored codec) log rows)(hnum:Numbered runId n log):
  rows.Pairwise fun a b=>a.runSequence≤b.runSequence:=by
 induction h generalizing n with
 | nil=>exact List.Pairwise.nil
 | @cons r row log rows hr hrest ih=>
  obtain ⟨h1,h2,-,-,h5⟩:=hnum
  refine List.Pairwise.cons ?_ (ih h5)
  intro q hq
  have hlow:=(stored_lt hrest h5 q hq).2.1
  rw [hr.sequence_eq,h2]
  push_cast at hlow
  omega

lemma nextSequence_ok(h:SqliteFollows codec runId log s)(hseq:(log.length:ℤ)+1 ≤ i64Max):
  nextSequence s=.ok (log.length+1):=by
 unfold nextSequence
 rw [maxSequence_eq h]
 refine (if_pos hseq).trans ?_
 unfold journalI64ToU64
 rw [if_pos (by omega)]
 congr 1

lemma nextSequence_error(h:SqliteFollows codec runId log s)(hseq:¬(log.length:ℤ)+1 ≤ i64Max):
  nextSequence s=.error (.storage .sequenceNotInteger):=by
 unfold nextSequence
 rw [maxSequence_eq h]
 exact if_neg hseq

variable {row:StoredJournalRecord}

section
variable (h:SqliteFollows codec runId log s)
include h

lemma key_free(hid:row.runId=runId)(hseq:row.runSequence=((log.length+1:ℕ):ℤ)):
  (s.table.any fun r=>r.runId==row.runId&&r.runSequence==row.runSequence)=false:=by
 rw [List.any_eq_false]
 intro q hq
 simp only [Bool.and_eq_true,beq_iff_eq,not_and]
 intro hqid hqseq
 have hmem:q∈runRows s:=by
  refine mem_filter.mpr ⟨hq,?_⟩
  rw [beq_iff_eq,hqid,hid,h.runId_eq]
 have hlt:=(stored_lt h.stored h.numbered q hmem).2.2
 rw [hqseq,hseq] at hlt
 push_cast at hlt
 omega

lemma SqliteFollows.concat{e:Entry}(hopen:terminalKindOf log=none)
  (hstored:Stored codec (e.record runId (log.length+1)) row):
  SqliteFollows codec runId (log++[e.record runId (log.length+1)])
   { s with table:=s.table++[row] }:=by
 refine ⟨h.runId_eq,?_,?_⟩
 · have hid:(row.runId==s.runId)=true:=by
    rw [beq_iff_eq,hstored.runId_eq,h.runId_eq]
    rfl
   have hrows:runRows { s with table:=s.table++[row] }=runRows s++[row]:=by simp [runRows,hid]
   rw [hrows]
   exact rel_append h.stored (.cons hstored .nil)
 · have hnum:=h.numbered.concat (e:=e) (terminalKindOf_eq_none.mp hopen)
   rw [Nat.add_comm 1 log.length] at hnum
   exact hnum

lemma insertRecord_follows(e:Entry)(hpay:∀v,e.payload=some v→codec.Keeps v)
  {r:Except JournalError JournalRecord×SqliteExecutionJournal}
  (hr:insertRecord codec s e.kind e.metadata e.payload e.terminal=r):
  (r.1=logResponse runId log e∧SqliteFollows codec runId (extend log r.1) r.2) ∨
   ((∃failure,r.1=.error (.storage failure))∧r.2=s ∧
    ¬FitsColumns (log.length+1) e.metadata.leaseEpoch):=by
 unfold insertRecord at hr
 unfold logResponse
 rw [terminalKindRow_eq h] at hr
 cases hterm:terminalKindOf log with
 | some kind=>
  rw [hterm] at hr
  subst hr
  exact Or.inl ⟨rfl,h⟩
 | none=>
  rw [hterm] at hr
  by_cases hseq:(log.length:ℤ)+1 ≤ i64Max
  · have hrec:recordOf s.runId (log.length+1) e.kind e.metadata e.payload e.terminal =
      e.record runId (log.length+1):=by
     rw [h.runId_eq]
     rfl
    rw [nextSequence_ok h hseq] at hr
    dsimp only at hr
    rw [hrec,storeRecord] at hr
    by_cases hfit:FitsColumns (log.length+1) e.metadata.leaseEpoch
    · obtain ⟨row,hrow,hstored⟩:=insertParams_ok
       (r:=e.record runId (log.length+1)) hfit hpay
      have hfree:=key_free h hstored.runId_eq hstored.sequence_eq
      rw [hrow] at hr
      dsimp only at hr
      rw [insertRow,hfree,if_neg Bool.false_ne_true] at hr
      subst hr
      exact Or.inl ⟨rfl,h.concat hterm hstored⟩
    · obtain ⟨failure,hfail⟩:=@insertParams_error
       (e.record runId (log.length+1)) codec hfit
      rw [hfail] at hr
      subst hr
      exact Or.inr ⟨⟨failure,rfl⟩,rfl,hfit⟩
  · rw [nextSequence_error h hseq] at hr
    dsimp only at hr
    subst hr
    refine Or.inr ⟨⟨.sequenceNotInteger,rfl⟩,rfl,?_⟩
    intro hfit
    have hle:=hfit.1
    push_cast at hle
    exact hseq hle

lemma sqliteStep_follows(c:Call)(hpay:∀v,c.entry.payload=some v→codec.Keeps v):
  ((sqliteStep codec s c).1=logResponse runId log c.entry ∧
    SqliteFollows codec runId (extend log (sqliteStep codec s c).1) (sqliteStep codec s c).2) ∨
   ((∃failure,(sqliteStep codec s c).1=.error (.storage failure))∧(sqliteStep codec s c).2=s ∧
    ¬FitsColumns (log.length+1) c.entry.metadata.leaseEpoch):=by
 have hins:=insertRecord_follows h c.entry hpay rfl
 cases c <;>exact hins

end

structure Readable (r:JournalRecord) : Prop where
 runId:isBlank r.runId=false
 kind:isBlank r.kind=false
 causationId:∀v,r.causationId=some v→isBlank v=false
 nodeId:∀v,r.nodeId=some v→isBlank v=false
 attemptId:∀v,r.attemptId=some v→isBlank v=false

lemma recordIdOf_not_blank(runId:String)(n:ℕ):isBlank (recordIdOf runId n)=false:=by
 refine isBlank_eq_false_of_mem _ ':' ?_ (by decide)
 simp [recordIdOf]

lemma requireText_ok{field value:String}(h:isBlank value=false):requireText field value=.ok ():=by
 simp [requireText,h]

lemma requireOptionalText_ok{field:String}{value:Option String}
  (h:∀v,value=some v→isBlank v=false):requireOptionalText field value=.ok ():=by
 cases value with
 | none=>rfl
 | some v=>exact requireText_ok (h v rfl)

lemma recordFromStorage_ok(h:Stored codec r row)(hid:isBlank r.recordId=false)
  (hread:Readable r):recordFromStorage codec row=.ok r:=by
 have hterm:terminalOfFlag row.terminal=.ok r.terminal:=by
  rw [h.terminal_eq]
  cases r.terminal <;>rfl
 have hseq:journalI64ToU64 row.runSequence "journal sequence"=.ok r.runSequence:=by
  rw [h.sequence_eq]
  simp [journalI64ToU64]
 have hepoch:optionalJournalI64ToU64 row.leaseEpoch "lease epoch"=.ok r.leaseEpoch:=by
  rw [h.leaseEpoch_eq]
  cases r.leaseEpoch with
  | none=>rfl
  | some n=>simp [optionalJournalI64ToU64,journalI64ToU64,Except.map]
 unfold recordFromStorage
 rw [h.recordId_eq,h.runId_eq,h.kind_eq,h.causationId_eq,h.nodeId_eq,h.attemptId_eq,
  requireText_ok hid,requireText_ok hread.runId,requireText_ok hread.kind,
  requireOptionalText_ok hread.causationId,requireOptionalText_ok hread.nodeId,
  requireOptionalText_ok hread.attemptId,hterm,hseq,hepoch,h.payload_eq]
 rfl

lemma readRows_ok(h:List.Forall₂ (Stored codec) log rows)(hnum:Numbered runId n log)
  (hread:∀r∈log,Readable r)(acc:List JournalRecord):
  readRows codec rows n none acc=.ok (acc++log):=by
 induction h generalizing n acc with
 | nil=>simp [readRows]
 | @cons r row log rows hr hrest ih=>
  obtain ⟨h1,h2,h3,h4,h5⟩:=hnum
  have hblank:isBlank r.recordId=false:=by
   rw [h3]
   exact recordIdOf_not_blank _ _
  have hid:r.recordId=recordIdOf r.runId r.runSequence:=by rw [h3,h1,h2]
  rw [readRows,recordFromStorage_ok hr hblank (hread r (by simp))]
  simp only [h2,ne_eq,not_true_eq_false,↓reduceIte]
  rw [if_neg (by rw [hid,h2];exact fun hne=>hne rfl)]
  cases ht:r.terminal with
  | true=>
   have hnil:=h4 ht
   subst hnil
   cases hrest
   rfl
  | false=>
   simp only [Bool.false_eq_true,↓reduceIte]
   rw [ih h5 (fun q hq=>hread q (by simp [hq])),append_assoc]
   rfl

lemma records_eq(h:SqliteFollows codec runId log s)(hread:∀r∈log,Readable r):
  records codec s=.ok log:=by
 unfold records
 rw [(stored_sorted h.stored h.numbered).insertionSort_eq]
 exact readRows_ok h.stored h.numbered hread []
end

abbrev Past := List (Transition SqliteExecutionJournal Call (Except JournalError JournalRecord))

def isStorageFailure : Except JournalError JournalRecord→Bool
 | .error (.storage _)=>true
 | _=>false

/-- The transitions that the database did not refuse. -/
def kept (past:Past) : Past := past.filter fun tr => !isStorageFailure tr.response

def acceptedLog (past:Past) : List JournalRecord := past.filterMap fun tr=>tr.response.toOption

/-- The lease epoch is beyond the integer column, or the run has used up its sequence numbers. -/
def OutOfRange (c:Call) (log:List JournalRecord) : Prop :=
 (∃n,c.entry.metadata.leaseEpoch=some n∧i64Max<n)∨i64Max≤log.length

structure Refines (codec:PayloadCodec) (runId:String) (past:Past)
  (s:SqliteExecutionJournal) : Prop where
 sqlite:SqliteFollows codec runId (acceptedLog past) s
 memory:MemoryFollows runId (acceptedLog past)
  (execute memoryStep (.new runId) ((kept past).map Transition.call))
 responses:(history memoryStep (.new runId) ((kept past).map Transition.call)).map
  Transition.response=(kept past).map Transition.response
 refused:∀tr∈past,isStorageFailure tr.response=true→OutOfRange tr.call (acceptedLog past)

lemma logResponse_not_storage(runId:String)(log:List JournalRecord)(e:Entry):
  isStorageFailure (logResponse runId log e)=false:=by
 unfold logResponse
 cases terminalKindOf log with
 | none=>rfl
 | some kind=>
  unfold Entry.refusal
  cases e.terminal <;>rfl

lemma extend_eq(log:List JournalRecord)(r:Except JournalError JournalRecord):
  extend log r=log++r.toOption.toList:=by
 cases r with
 | ok record=>rfl
 | error e=>simp [extend,Except.toOption]

lemma OutOfRange.mono{c:Call}{more:List JournalRecord}(h:OutOfRange c log):
  OutOfRange c (log++more):=by
 rcases h with h|h
 · exact Or.inl h
 · right
   rw [length_append]
   push_cast
   omega

lemma Refines.step{codec:PayloadCodec}{past:Past}{s:SqliteExecutionJournal}
  (h:Refines codec runId past s)(c:Call)(hpay:∀v,c.entry.payload=some v→codec.Keeps v):
  Refines codec runId (past++[takeStep (sqliteStep codec) s c]) (sqliteStep codec s c).2:=by
 have hlog:acceptedLog (past++[takeStep (sqliteStep codec) s c]) =
   extend (acceptedLog past) (sqliteStep codec s c).1:=by
  rw [extend_eq]
  exact filterMap_concat _ _ _
 rcases sqliteStep_follows h.sqlite c hpay with ⟨hresp,hnext⟩|⟨⟨failure,hfail⟩,hsame,hfit⟩
 · have hquiet:isStorageFailure (sqliteStep codec s c).1=false:=by
    rw [hresp]
    exact logResponse_not_storage _ _ _
   have hkept:kept (past++[takeStep (sqliteStep codec) s c]) =
     kept past++[takeStep (sqliteStep codec) s c]:=by
    unfold kept
    rw [filter_append]
    simp [takeStep,hquiet]
   obtain ⟨hmresp,hmnext⟩:=memoryStep_follows h.memory c
   refine ⟨?_,?_,?_,?_⟩
   · rw [hlog]
     exact hnext
   · rw [hlog,hkept,map_append,map_singleton,execute_concat,hresp]
     exact hmnext
   · rw [hkept,map_append,map_append,map_singleton,map_singleton,
      history_concat,map_append,h.responses]
     congr 1
     rw [map_singleton]
     simp only [takeStep]
     rw [hmresp,hresp]
   · intro tr htr hbad
     rw [hlog,extend_eq]
     rcases mem_append.mp htr with htr|htr
     · exact (h.refused tr htr hbad).mono
     · rw [mem_singleton] at htr
       subst htr
       rw [takeStep,hquiet] at hbad
       cases hbad
 · have hkept:kept (past++[takeStep (sqliteStep codec) s c])=kept past:=by
    unfold kept
    rw [filter_append]
    simp [takeStep,hfail,isStorageFailure]
   have hsamelog:acceptedLog (past++[takeStep (sqliteStep codec) s c])=acceptedLog past:=by
    rw [hlog,hfail]
    rfl
   refine ⟨?_,?_,?_,?_⟩
   · rw [hsamelog,hsame]
     exact h.sqlite
   · rw [hsamelog,hkept]
     exact h.memory
   · rw [hkept]
     exact h.responses
   · intro tr htr hbad
     rw [hsamelog]
     rcases mem_append.mp htr with htr|htr
     · exact h.refused tr htr hbad
     · rw [mem_singleton] at htr
       subst htr
       -- the only column limits are the two of `FitsColumns`
       by_contra hin
       refine hfit ⟨?_,?_⟩
       · have:=not_le.mp (not_or.mp hin).2
         push_cast
         omega
       · intro n hn
         by_contra hbig
         exact hin (Or.inl ⟨n,hn,not_le.mp hbig⟩)

lemma refines_history{codec:PayloadCodec}{others:List StoredJournalRecord}
  (hothers:∀row∈others,row.runId≠runId){calls:List Call}
  (hpay:∀c∈calls,∀v,c.entry.payload=some v→codec.Keeps v):
  Refines codec runId (history (sqliteStep codec) ⟨others,runId⟩ calls)
   (execute (sqliteStep codec) ⟨others,runId⟩ calls):=by
 refine history_invariant_of (sqliteStep codec) (P:=Refines codec runId)
  (G:=fun _ c=>∀v,c.entry.payload=some v→codec.Keeps v) ?_ ?_ calls ?_
 · have hnone:runRows ⟨others,runId⟩=[]:=by
    unfold runRows
    rw [filter_eq_nil_iff]
    intro row hrow
    simpa using hothers row hrow
   refine ⟨⟨rfl,?_,trivial⟩,⟨rfl,rfl,rfl⟩,rfl,by simp⟩
   rw [hnone]
   exact .nil
 · intro past s c hc h
   exact h.step c hc
 · intro before c after hcalls
   exact hpay c (by simp [hcalls])

theorem sqlite_journal_refines_memory (codec : PayloadCodec) (runId : String)
  (others : List StoredJournalRecord) (calls : List Call) (hothers : ∀row∈others,row.runId≠runId)
  (hpay : ∀c∈calls,∀v,c.entry.payload=some v → codec.Keeps v) :
  let past := history (sqliteStep codec) ⟨others,runId⟩ calls
  let s:=execute (sqliteStep codec) ⟨others,runId⟩ calls
  (history memoryStep (.new runId) ((kept past).map Transition.call)).map
    Transition.response=(kept past).map Transition.response ∧
  (∀tr∈past,isStorageFailure tr.response=true →
   OutOfRange tr.call (acceptedLog past)∧tr.after=tr.before) ∧
  (acceptedLog past).map JournalRecord.runSequence=List.range' 1 (acceptedLog past).length ∧
  (∀before r after,acceptedLog past=before++r::after → r.terminal=true→after=[]) ∧
  ((∀r∈acceptedLog past,Readable r) → records codec s=.ok (acceptedLog past)) := by
 intro past s
 have h:=refines_history hothers hpay
 refine ⟨h.responses,?_,h.sqlite.numbered.sequences,h.sqlite.numbered.terminal_last,?_⟩
 · intro tr htr hbad
   refine ⟨h.refused tr htr hbad,?_⟩
   obtain ⟨before,c,after,hcalls,rfl⟩:=mem_history (sqliteStep codec) htr
   have hbefore:Refines codec runId (history (sqliteStep codec) ⟨others,runId⟩ before)
     (execute (sqliteStep codec) ⟨others,runId⟩ before):=
    refines_history hothers (fun d hd=>hpay d (by simp [hcalls,hd]))
   rcases sqliteStep_follows hbefore.sqlite c (hpay c (by simp [hcalls])) with
    ⟨hresp,-⟩ | ⟨-,hsame,-⟩
   · rw [takeStep,hresp,logResponse_not_storage] at hbad
     cases hbad
   · exact hsame
 · intro hread
   exact records_eq h.sqlite hread

/-- Enough of `serde_json` for payloads that are literals. -/
def literalCodec : PayloadCodec where
 toString
  | .null=>.ok "null"
  | .bool true=>.ok "true"
  | .bool false=>.ok "false"
  | _=>.error "not a literal"
 fromStr text:=
  if text = "null" then .ok .null
  else if text = "true" then .ok (.bool true)
  else if text = "false" then .ok (.bool false)
  else .error "not a literal"

def claimedRun : List Call :=
 [.appendWithMetadata "lease_claimed" { JournalMetadata.new with leaseEpoch:=some 7 } none,
  .append "node_started" (.bool true),.appendTerminal "run_completed" .null,
  .append "late" .null]

theorem claimedRun_refines :
  (acceptedLog (history (sqliteStep literalCodec) ⟨[],"run"⟩ claimedRun)).length=3 ∧
  (history memoryStep (.new "run")
   ((kept (history (sqliteStep literalCodec) ⟨[],"run"⟩ claimedRun)).map
    Transition.call)).map Transition.response =
   (kept (history (sqliteStep literalCodec) ⟨[],"run"⟩ claimedRun)).map
    Transition.response := by
 refine ⟨by decide +kernel,?_⟩
 refine (sqlite_journal_refines_memory literalCodec "run" [] claimedRun (by simp) ?_).1
 intro c hc v hv
 have hlit:v=.bool true∨v=.null:=by
  simp only [claimedRun,mem_cons,not_mem_nil,or_false] at hc
  rcases hc with rfl|rfl|rfl|rfl <;>simp [Call.entry] at hv <;>simp [←hv]
 rcases hlit with rfl|rfl
 · exact ⟨"true",rfl,rfl⟩
 · exact ⟨"null",rfl,rfl⟩

/-- An epoch beyond the column is refused here and accepted there, so later numbers differ. -/
def overflowingRun : List Call :=
 [.appendWithMetadata "lease_claimed"
   { JournalMetadata.new with leaseEpoch:=some 9223372036854775808 } none,
  .append "node_started" .null]

/-- The writer takes a blank kind that the reader rejects. -/
def blankKindRun : List Call := [.append " " .null]

theorem sqlite_journal_differs :
  ((history (sqliteStep literalCodec) ⟨[],"run"⟩ overflowingRun).map fun tr=>
    tr.response.toOption.map JournalRecord.runSequence)=[none,some 1] ∧
  ((history memoryStep (.new "run") overflowingRun).map fun tr=>
    tr.response.toOption.map JournalRecord.runSequence)=[some 1,some 2] ∧
  (acceptedLog (history (sqliteStep literalCodec) ⟨[],"run"⟩ blankKindRun)).length=1 ∧
  (records literalCodec (execute (sqliteStep literalCodec) ⟨[],"run"⟩ blankKindRun)).toOption =
   none := by
 decide +kernel

end GraphBlocks.Journal
