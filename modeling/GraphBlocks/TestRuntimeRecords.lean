import GraphBlocks.TestRuntimeScheduling

namespace GraphBlocks.TestRuntime
open FiniteMap RustStd Json Scheduler Journal List

def NodeRetryBoundary.repeats (boundary:NodeRetryBoundary) : Bool :=
 boundary.policy.validate.isOk&&(boundary.effect.isNone||boundary.idempotencyKey.any isExact)

def attemptLimit (settings:Settings) (nodeId:String) : ℕ :=
 match settings.retryBoundaries.lookup nodeId with
 | none=>1
 | some boundary=>if boundary.repeats then boundary.policy.maxAttempts else 1

lemma validate_isOk{policy:RetryPolicy}(h:policy.validate.isOk=true):
  1≤policy.maxAttempts∧policy.maxAttempts≤ maxNodeRetryAttempts:=by
 unfold RetryPolicy.validate at h
 by_cases hzero:policy.maxAttempts=0
 · simp [hzero,ensure,bind,Except.bind,Except.isOk,Except.toBool] at h
 · by_cases hmax:policy.maxAttempts≤ maxNodeRetryAttempts
   · exact ⟨by omega,hmax⟩
   · simp [hzero,hmax,ensure,bind,Except.bind,Except.isOk,Except.toBool] at h

lemma attemptLimit_bounds(settings:Settings)(nodeId:String):
  1≤attemptLimit settings nodeId∧attemptLimit settings nodeId≤ maxNodeRetryAttempts:=by
 unfold attemptLimit
 cases settings.retryBoundaries.lookup nodeId with
 | none=>exact ⟨le_rfl,by decide⟩
 | some boundary=>
  by_cases hrepeats:boundary.repeats=true
  · simp only [hrepeats,if_true]
    exact validate_isOk (Bool.and_eq_true_iff.mp hrepeats).1
  · simp only [if_neg hrepeats]
    exact ⟨le_rfl,(by decide:1≤ maxNodeRetryAttempts)⟩

lemma decide_retry{boundary:NodeRetryBoundary}{attempt delayMs:ℕ}{error:BlockError}
  (h:boundary.policy.decide (boundary.request attempt error)=.retry delayMs):
  boundary.repeats=true∧attempt<boundary.policy.maxAttempts:=by
 unfold RetryPolicy.decide at h
 cases hchecks:retryChecks boundary.policy (boundary.request attempt error) with
 | error reason=>
  rw [hchecks] at h
  cases h
 | ok u=>
  unfold retryChecks at hchecks
  obtain ⟨_,hvalid,hchecks⟩:=bind_ok.mp hchecks
  obtain ⟨_,hattempt,hchecks⟩:=bind_ok.mp hchecks
  obtain ⟨_,-,hchecks⟩:=bind_ok.mp hchecks
  obtain ⟨_,-,heffect⟩:=bind_ok.mp hchecks
  have hless:attempt<boundary.policy.maxAttempts:=of_decide_eq_true (ensure_ok.mp hattempt)
  refine ⟨?_,hless⟩
  rw [NodeRetryBoundary.repeats,ensure_ok.mp hvalid,Bool.true_and]
  cases hcase:boundary.effect with
  | none=>rfl
  | some effect=>
   simp only [checkEffect,NodeRetryBoundary.request,hcase,Option.isSome_some,if_true]
    at heffect
   cases hkey:boundary.idempotencyKey with
   | none=>
    rw [hkey] at heffect
    cases heffect
   | some key=>
    rw [hkey] at heffect
    simpa using ensure_ok.mp heffect

def startsOf (records:List JournalRecord) (nodeId:String) : List JournalRecord :=
 records.filter fun r=>r.kind == "node_started" && r.nodeId==some nodeId

def completionsOf (records:List JournalRecord) (nodeId:String) : List JournalRecord :=
 records.filter fun r=>r.kind == "node_completed" && r.nodeId==some nodeId

def wasStarted (state:Option NodeExecutionState) : Bool :=
 state==some .running||state==some .completed

structure Recorded (settings:Settings) (states:FMap String NodeExecutionState)
  (records:List JournalRecord) : Prop where
 first:∃r rest,records=r::rest∧r.kind = "run_started"
 numbered:∀id,(startsOf records id).map JournalRecord.attemptId =
  (List.range' 1 (startsOf records id).length).map fun n=>some (attemptId n)
 bounded:∀id,(startsOf records id).length≤attemptLimit settings id
 unstarted:∀id,wasStarted (states.lookup id)=false→startsOf records id=[]
 completions:∀id,(completionsOf records id).length=if states.lookup id=some .completed then 1 else 0

/-- A record about the run, or about a node that neither starts nor completes. -/
def isNeutral (kind:String) : Bool := kind != "node_started" && kind != "node_completed"

section
variable {settings:Settings} {states:FMap String NodeExecutionState} {records:List JournalRecord}

lemma startsOf_concat(r:JournalRecord)(id:String):
  startsOf (records++[r]) id=startsOf records id ++
   if r.kind="node_started"∧r.nodeId=some id then [r] else []:=by
 unfold startsOf
 rw [filter_append]
 congr 1
 by_cases h:r.kind="node_started"∧r.nodeId=some id
 · simp [h]
 · rw [if_neg h,filter_eq_nil_iff]
   intro x hx
   rw [mem_singleton] at hx
   subst hx
   simpa using h

lemma completionsOf_concat(r:JournalRecord)(id:String):
  completionsOf (records++[r]) id=completionsOf records id ++
   if r.kind="node_completed"∧r.nodeId=some id then [r] else []:=by
 unfold completionsOf
 rw [filter_append]
 congr 1
 by_cases h:r.kind="node_completed"∧r.nodeId=some id
 · simp [h]
 · rw [if_neg h,filter_eq_nil_iff]
   intro x hx
   rw [mem_singleton] at hx
   subst hx
   simpa using h

lemma first_concat(h:∃r rest,records=r::rest∧r.kind="run_started")
  (r:JournalRecord):∃r' rest,records++[r]=r'::rest∧r'.kind="run_started":=by
 obtain ⟨r',rest,rfl,hkind⟩:=h
 exact ⟨r',rest++[r],rfl,hkind⟩

variable {r:JournalRecord}

lemma neutral_concat(hneutral:isNeutral r.kind=true)(id:String):
  startsOf (records++[r]) id=startsOf records id ∧
   completionsOf (records++[r]) id=completionsOf records id:=by
 unfold isNeutral at hneutral
 simp only [Bool.and_eq_true,bne_iff_ne] at hneutral
 rw [startsOf_concat,completionsOf_concat,if_neg (fun h=>hneutral.1 h.1),
  if_neg (fun h=>hneutral.2 h.1)]
 simp

lemma Recorded.neutral (h:Recorded settings states records) (hneutral:isNeutral r.kind=true) :
  Recorded settings states (records++[r]) where
 first:=first_concat h.first r
 numbered id:=by
  rw [(neutral_concat hneutral id).1]
  exact h.numbered id
 bounded id:=by
  rw [(neutral_concat hneutral id).1]
  exact h.bounded id
 unstarted id hid:=by
  rw [(neutral_concat hneutral id).1]
  exact h.unstarted id hid
 completions id:=by
  rw [(neutral_concat hneutral id).2]
  exact h.completions id

variable {id:String}

lemma Recorded.start(h:Recorded settings states records){attempt:ℕ}
  (hkind:r.kind="node_started")(hid:r.nodeId=some id)
  (hattempt:r.attemptId=some (attemptId attempt))
  (hcount:(startsOf records id).length+1=attempt)
  (hlimit:attempt≤attemptLimit settings id)(hrunning:states.lookup id=some .running):
  Recorded settings states (records++[r]):=by
 have hself:startsOf (records++[r]) id=startsOf records id++[r]:=by
  rw [startsOf_concat,if_pos ⟨hkind,hid⟩]
 have hother:∀j,j≠id→startsOf (records++[r]) j=startsOf records j:=by
  intro j hj
  rw [startsOf_concat,if_neg,append_nil]
  rintro ⟨-,hjd⟩
  rw [hid] at hjd
  exact hj (Option.some.inj hjd).symm
 refine ⟨first_concat h.first r,?_,?_,?_,?_⟩
 · intro j
   by_cases hj:j=id
   · subst hj
     rw [hself,map_append,h.numbered,length_append,length_singleton,range'_concat,map_append]
     have hnumber:attempt=1+1*(startsOf records j).length:=by omega
     rw [map_singleton,map_singleton,hattempt,hnumber]
   · rw [hother j hj]
     exact h.numbered j
 · intro j
   by_cases hj:j=id
   · subst hj
     rw [hself,length_append,length_singleton,hcount]
     exact hlimit
   · rw [hother j hj]
     exact h.bounded j
 · intro j hnot
   have hj:j≠id:=by
    rintro rfl
    rw [hrunning] at hnot
    cases hnot
   rw [hother j hj]
   exact h.unstarted j hnot
 · intro j
   rw [completionsOf_concat,if_neg (by rw [hkind];simp),append_nil]
   exact h.completions j

lemma Recorded.begin (h:Recorded settings states records) (hready:states.lookup id=some .ready) :
  Recorded settings (states.insert id .running) records where
 first:=h.first
 numbered:=h.numbered
 bounded:=h.bounded
 unstarted j hnot:=by
  rw [lookup_insert_eq] at hnot
  by_cases hj:j=id
  · rw [if_pos hj] at hnot
    cases hnot
  · rw [if_neg hj] at hnot
    exact h.unstarted j hnot
 completions j:=by
  rw [h.completions,lookup_insert_eq]
  by_cases hj:j=id
  · subst hj
    simp [hready]
  · rw [if_neg hj]

lemma Recorded.complete(h:Recorded settings states records)
  {states':FMap String NodeExecutionState}(hkind:r.kind="node_completed")
  (hid:r.nodeId=some id)(hrunning:states.lookup id=some .running)
  (hcompleted:∀j,states'.lookup j=some .completed↔j=id∨states.lookup j=some .completed)
  (hstarted:∀j,j≠id→wasStarted (states'.lookup j)=false →
   wasStarted (states.lookup j)=false):Recorded settings states' (records++[r]):=by
 have hstarts:∀j,startsOf (records++[r]) j=startsOf records j:=by
  intro j
  rw [startsOf_concat,if_neg (by rw [hkind];simp),append_nil]
 refine ⟨first_concat h.first r,?_,?_,?_,?_⟩
 · intro j
   rw [hstarts]
   exact h.numbered j
 · intro j
   rw [hstarts]
   exact h.bounded j
 · intro j hnot
   rw [hstarts]
   have hj:j≠id:=by
    rintro rfl
    rw [(hcompleted j).mpr (.inl rfl)] at hnot
    cases hnot
   exact h.unstarted j (hstarted j hj hnot)
 · intro j
   rw [completionsOf_concat,length_append,h.completions]
   by_cases hj:j=id
   · subst hj
     have hnot:¬states.lookup j=some .completed:=by simp [hrunning]
     rw [if_neg hnot,if_pos ((hcompleted j).mpr (.inl rfl)),if_pos (And.intro hkind hid)]
     rfl
   · have hnot:¬(r.kind="node_completed"∧r.nodeId=some j):=by
      rintro ⟨-,hjd⟩
      rw [hid] at hjd
      exact hj (Option.some.inj hjd).symm
     rw [if_neg hnot]
     by_cases hdone:states.lookup j=some .completed
     · rw [if_pos hdone,if_pos ((hcompleted j).mpr (.inr hdone))]
       rfl
     · rw [if_neg hdone,if_neg (by rw [hcompleted];simp [hj,hdone])]
       rfl
end

structure OpenJournal (j:ExecutionJournal) : Prop where
 terminalKind:j.terminalKind=none
 open_records:∀r∈j.records,r.terminal=false

def extended (j:ExecutionJournal) (kind:String) (metadata:JournalMetadata)
  (payload:Option Value) (terminal:Bool) : JournalRecord :=
 recordOf j.runId (j.records.length+1) kind metadata payload terminal

lemma record_open{s:RunState}(h:OpenJournal s.journal)(kind:String)
  (metadata:JournalMetadata)(payload:Option Value)(andThen:RunState→RunState):
  s.record kind metadata payload andThen=andThen { s with journal:={ s.journal with
   records:=s.journal.records++[extended s.journal kind metadata payload false] } }:=by
 simp only [RunState.record,ExecutionJournal.appendWithMetadata,h.terminalKind]
 rfl

lemma conclude_open{s:RunState}(h:OpenJournal s.journal)(status:OutcomeRunStatus)
  (metadata:JournalMetadata)(payload:Option Value):
  s.conclude status metadata payload = { s with
   journal:=⟨s.journal.runId,
    s.journal.records++[extended s.journal status.terminalKind metadata payload true],
    some status.terminalKind⟩
   control:=.finished (.ok status) }:=by
 simp only [RunState.conclude,ExecutionJournal.appendTerminalWithMetadata,
  ExecutionJournal.appendWithMetadata,h.terminalKind,markLastTerminal,List.getLast?_concat,
  dropLast_concat]
 rfl

lemma OpenJournal.append{j:ExecutionJournal}(h:OpenJournal j)(kind:String)
  (metadata:JournalMetadata)(payload:Option Value):
  OpenJournal { j with records:=j.records++[extended j kind metadata payload false] }:=by
 refine ⟨h.terminalKind,?_⟩
 intro r hr
 rcases mem_append.mp hr with hr|hr
 · exact h.open_records r hr
 · rw [mem_singleton] at hr
   rw [hr]
   rfl

end GraphBlocks.TestRuntime
