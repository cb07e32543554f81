import GraphBlocks.FiniteMap
import GraphBlocks.MachineRuns
import GraphBlocks.RustStd

/-! `InMemoryDurableToolTerminalStore` of the durable runtime. -/
namespace GraphBlocks.ToolTerminals
open FiniteMap MachineRuns RustStd List

inductive DurableToolTerminalState where
 | completed | failed | denied | cancelled | policyStopped | incomplete | expired
deriving DecidableEq

inductive DurableOutputCutoffTerminalReason where
 | policyDenied | budgetExhausted | cancelled | clientDisconnected
deriving DecidableEq

inductive DurableOutputCutoffDraftDisposition where
 | keep | markIncomplete | retract
deriving DecidableEq

inductive DurableOutputCutoffDurableResult where
 | none | incomplete | partialResult
deriving DecidableEq

structure DurableToolTerminalRecord where
 runId:String
 responseId:String
 toolCallId:String
 revision:ℕ
 terminalState:DurableToolTerminalState
 argumentsDigest:String
 outputDigest:Option String
 idempotencyKey:Option String
 effectCommitted:Bool
 durableResultCommitted:Bool
 completedAtUnixMs:ℕ
deriving DecidableEq

structure DurableToolTerminalCommit where
 sequence:ℕ
 record:DurableToolTerminalRecord
 replayed:Bool

structure DurableResponsePolicyStopRecord where
 responseId:String
 streamId:String
 turnId:Option String
 policyDecisionId:String
 lastGeneratedSequence:ℕ
 lastPolicyAcceptedSequence:ℕ
 lastClientDeliveredSequence:ℕ
 terminalReason:DurableOutputCutoffTerminalReason
 draftDisposition:DurableOutputCutoffDraftDisposition
 durableResult:DurableOutputCutoffDurableResult
 occurredAtUnixMs:ℕ
deriving DecidableEq

structure DurableResponsePolicyStopCommit where
 sequence:ℕ
 record:DurableResponsePolicyStopRecord
 replayed:Bool

inductive ToolTerminalStoreError where
 | missingRunId
 | missingResponseId
 | missingToolCallId
 | missingArgumentsDigest
 | missingOutputDigest
 | missingIdempotencyKey
 | missingPolicyDecisionId
 | missingStreamId
 | missingTurnId
 | invalidRevision
 | invalidCompletedAt
 | sequenceOverflow
 | deniedEffectCommitted (responseId toolCallId:String) (revision:ℕ)
 | expiredEffectCommitted (responseId toolCallId:String) (revision:ℕ)
 | policyAcceptedSequenceBeyondGenerated
   (lastGeneratedSequence lastPolicyAcceptedSequence:ℕ)
 | clientDeliveredSequenceBeyondGenerated
   (lastGeneratedSequence lastClientDeliveredSequence:ℕ)
 | deliveredDraftBeyondPolicyAcceptanceKept
   (lastPolicyAcceptedSequence lastClientDeliveredSequence:ℕ)
 | terminalStateConflict (responseId toolCallId:String) (revision:ℕ)
 | responsePolicyStopConflict (responseId:String)
 | durableResultAlreadyCommitted (responseId:String)
 | responsePolicyStopped (responseId:String)

/-- The key of `terminal_records`: response, tool call and revision. -/
abbrev TerminalKey := String×String×ℕ

def DurableToolTerminalRecord.key (record:DurableToolTerminalRecord) : TerminalKey :=
 (record.responseId,record.toolCallId,record.revision)

structure Store where
 nextSequence:Option ℕ
 terminalRecords:FMap TerminalKey DurableToolTerminalCommit
 policyStoppedResponses:FMap String DurableResponsePolicyStopCommit

def Store.new : Store := ⟨some 1,∅,∅⟩

def invalidIdentity (value:String) : Bool := isBlank value||value != trim value

def someInvalid (value:Option String) : Bool := value.any invalidIdentity

/-- The checks that `record_tool_terminal` makes before it looks at the store. -/
def validateToolTerminalRecord (record:DurableToolTerminalRecord) :
  Except ToolTerminalStoreError Unit := do
 ensure (!invalidIdentity record.runId) .missingRunId
 ensure (!invalidIdentity record.responseId) .missingResponseId
 ensure (!invalidIdentity record.toolCallId) .missingToolCallId
 ensure (record.revision != 0) .invalidRevision
 ensure (!invalidIdentity record.argumentsDigest) .missingArgumentsDigest
 ensure (!someInvalid record.outputDigest) .missingOutputDigest
 ensure (!someInvalid record.idempotencyKey) .missingIdempotencyKey
 ensure (record.completedAtUnixMs != 0) .invalidCompletedAt
 ensure (!(record.terminalState == .denied&&record.effectCommitted))
  (.deniedEffectCommitted record.responseId record.toolCallId record.revision)
 ensure (!(record.terminalState == .expired&&record.effectCommitted))
  (.expiredEffectCommitted record.responseId record.toolCallId record.revision)

def validateResponsePolicyStopRecord (record:DurableResponsePolicyStopRecord) :
  Except ToolTerminalStoreError Unit := do
 ensure (!invalidIdentity record.responseId) .missingResponseId
 ensure (!invalidIdentity record.streamId) .missingStreamId
 ensure (!someInvalid record.turnId) .missingTurnId
 ensure (!invalidIdentity record.policyDecisionId) .missingPolicyDecisionId
 ensure (record.lastPolicyAcceptedSequence≤record.lastGeneratedSequence)
  (.policyAcceptedSequenceBeyondGenerated record.lastGeneratedSequence
   record.lastPolicyAcceptedSequence)
 ensure (record.lastClientDeliveredSequence≤record.lastGeneratedSequence)
  (.clientDeliveredSequenceBeyondGenerated record.lastGeneratedSequence
   record.lastClientDeliveredSequence)
 ensure (!(decide (record.lastPolicyAcceptedSequence<record.lastClientDeliveredSequence)
   && record.draftDisposition == .keep))
  (.deliveredDraftBeyondPolicyAcceptanceKept record.lastPolicyAcceptedSequence
   record.lastClientDeliveredSequence)
 ensure (record.occurredAtUnixMs != 0) .invalidCompletedAt

/-- The sequence taken and the counter left, which stays at `none` once it has overflowed. -/
def takeNextSequence (nextSequence:Option ℕ) : Option (ℕ×Option ℕ) :=
 nextSequence.map fun sequence=>(sequence,checkedSucc sequence)

def acceptToolTerminal (s:Store) (record:DurableToolTerminalRecord) :
  Except ToolTerminalStoreError DurableToolTerminalCommit×Store :=
 match takeNextSequence s.nextSequence with
 | none=>(.error .sequenceOverflow,s)
 | some (sequence,nextSequence)=>
  let committed:={ sequence,record,replayed:=false }
  (.ok committed,{ s with
   nextSequence,terminalRecords:=s.terminalRecords.insert record.key committed })

def recordToolTerminal (s:Store) (record:DurableToolTerminalRecord) :
  Except ToolTerminalStoreError DurableToolTerminalCommit×Store :=
 match validateToolTerminalRecord record with
 | .error e=>(.error e,s)
 | .ok ()=>
  match s.terminalRecords.lookup record.key with
  | some committed=>
   if committed.record≠record then
    (.error (.terminalStateConflict record.responseId record.toolCallId record.revision),s)
   else (.ok { committed with replayed:=true },s)
  | none=>
   if record.durableResultCommitted
     && (s.policyStoppedResponses.lookup record.responseId).isSome then
    (.error (.responsePolicyStopped record.responseId),s)
   else acceptToolTerminal s record

def acceptPolicyStop (s:Store) (record:DurableResponsePolicyStopRecord) :
  Except ToolTerminalStoreError DurableResponsePolicyStopCommit×Store :=
 match takeNextSequence s.nextSequence with
 | none=>(.error .sequenceOverflow,s)
 | some (sequence,nextSequence)=>
  let committed:={ sequence,record,replayed:=false }
  (.ok committed,{ s with
   nextSequence
   policyStoppedResponses:=s.policyStoppedResponses.insert record.responseId committed })

def recordResponsePolicyStop (s:Store) (record:DurableResponsePolicyStopRecord) :
  Except ToolTerminalStoreError DurableResponsePolicyStopCommit×Store :=
 match validateResponsePolicyStopRecord record with
 | .error e=>(.error e,s)
 | .ok ()=>
  match s.policyStoppedResponses.lookup record.responseId with
  | some committed=>
   if committed.record≠record then (.error (.responsePolicyStopConflict record.responseId),s)
   else (.ok { committed with replayed:=true },s)
  | none=>
   if (values s.terminalRecords).any fun commit=>
     commit.record.responseId==record.responseId&&commit.record.durableResultCommitted then
    (.error (.durableResultAlreadyCommitted record.responseId),s)
   else acceptPolicyStop s record

inductive Call where
 | toolTerminal (record:DurableToolTerminalRecord)
 | policyStop (record:DurableResponsePolicyStopRecord)

/-- A commit of either kind. -/
inductive Commit where
 | toolTerminal (commit:DurableToolTerminalCommit)
 | policyStop (commit:DurableResponsePolicyStopCommit)

def Commit.sequence : Commit→ℕ
 | .toolTerminal commit=>commit.sequence
 | .policyStop commit=>commit.sequence

def Commit.replayed : Commit→Bool
 | .toolTerminal commit=>commit.replayed
 | .policyStop commit=>commit.replayed

def Commit.asReplay : Commit → Commit
 | .toolTerminal commit=>.toolTerminal { commit with replayed:=true }
 | .policyStop commit=>.policyStop { commit with replayed:=true }

def Commit.resubmission : Commit→Call
 | .toolTerminal commit=>.toolTerminal commit.record
 | .policyStop commit=>.policyStop commit.record

def step (s:Store) : Call→Except ToolTerminalStoreError Commit×Store
 | .toolTerminal record=>
  let out:=recordToolTerminal s record
  (out.1.map .toolTerminal,out.2)
 | .policyStop record=>
  let out:=recordResponsePolicyStop s record
  (out.1.map .policyStop,out.2)

def acceptance (t:Transition Store Call (Except ToolTerminalStoreError Commit)) : Option Commit :=
 match t.response with
 | .ok commit=>if commit.replayed then none else some commit
 | .error _=>none

def acceptances (past:List (Transition Store Call (Except ToolTerminalStoreError Commit))) :
  List Commit :=
 past.filterMap acceptance

/-- What a commit is about: a tool call revision, or the stop of a response. -/
abbrev Subject := TerminalKey ⊕ String

def Call.subject : Call→Subject
 | .toolTerminal record=>.inl record.key
 | .policyStop record=>.inr record.responseId

def Commit.subject (commit:Commit) : Subject := commit.resubmission.subject

def Call.validate : Call→Except ToolTerminalStoreError Unit
 | .toolTerminal record=>validateToolTerminalRecord record
 | .policyStop record=>validateResponsePolicyStopRecord record

def Store.find (s:Store) : Subject→Option Commit
 | .inl key=>(s.terminalRecords.lookup key).map .toolTerminal
 | .inr responseId=>(s.policyStoppedResponses.lookup responseId).map .policyStop

def Store.accept (s:Store) : Commit→Store
 | .toolTerminal commit=>{ s with
   nextSequence:=checkedSucc commit.sequence
   terminalRecords:=s.terminalRecords.insert commit.record.key commit }
 | .policyStop commit=>{ s with
   nextSequence:=checkedSucc commit.sequence
   policyStoppedResponses:=s.policyStoppedResponses.insert commit.record.responseId commit }

/-- Two commits of one response that must not both be stored. -/
def Conflicting : Commit → Commit→Prop
 | .toolTerminal terminal, .policyStop stop=>
  terminal.record.responseId=stop.record.responseId∧terminal.record.durableResultCommitted=true
 | .policyStop stop, .toolTerminal terminal=>
  terminal.record.responseId=stop.record.responseId∧terminal.record.durableResultCommitted=true
 | _, _=>False

lemma Conflicting.symm{a b:Commit}(h:Conflicting a b):Conflicting b a:=by
 cases a <;>cases b <;>exact h

lemma find_accept(s:Store)(commit:Commit)(subject:Subject):(s.accept commit).find subject =
   if subject=commit.subject then some commit else s.find subject:=by
 cases commit with
 | toolTerminal commit=>
  cases subject with
  | inl key=>
   simp only [Store.find,Store.accept,lookup_insert_eq,Commit.subject,Commit.resubmission,
    Call.subject,Sum.inl.injEq]
   split <;>rfl
  | inr responseId=>simp [Store.find,Store.accept,Commit.subject,Commit.resubmission,Call.subject]
 | policyStop commit=>
  cases subject with
  | inl key=>simp [Store.find,Store.accept,Commit.subject,Commit.resubmission,Call.subject]
  | inr responseId=>
   simp only [Store.find,Store.accept,lookup_insert_eq,Commit.subject,Commit.resubmission,
    Call.subject,Sum.inr.injEq]
   split <;>rfl

/-- The three things a call can do: fail, replay a stored commit, or accept a new one. -/
inductive Outcome (s:Store) (call:Call) : Prop where
 | failed (e:ToolTerminalStoreError)
   (cause:call.validate=.ok () → ∀commit,s.find call.subject=some commit→call≠commit.resubmission)
   (h:step s call=(.error e,s))
 | replayed (commit:Commit) (found:s.find call.subject=some commit)
   (same:call=commit.resubmission) (h:step s call=(.ok commit.asReplay,s))
 | accepted (commit:Commit) (same:call=commit.resubmission) (fresh:commit.replayed=false)
   (valid:call.validate=.ok ()) (free:s.find call.subject=none)
   (compatible:∀other,s.find other.subject=some other→¬Conflicting commit other)
   (numbered:s.nextSequence=some commit.sequence)
   (h:step s call=(.ok commit,s.accept commit))

lemma takeNextSequence_eq_some{nextSequence left:Option ℕ}{sequence:ℕ}
  (h:takeNextSequence nextSequence=some (sequence,left)):
  nextSequence=some sequence∧left=checkedSucc sequence:=by
 simp only [takeNextSequence,Option.map_eq_some_iff,Prod.mk.injEq] at h
 obtain ⟨n,hn,rfl,rfl⟩:=h
 exact ⟨hn,rfl⟩

variable {s:Store} {call:Call}

lemma unclaimed(h:s.find call.subject=none):
  call.validate=.ok ()→∀commit,s.find call.subject=some commit→call≠commit.resubmission:=by
 intro _ commit hcommit
 rw [h] at hcommit
 cases hcommit

lemma recordToolTerminal_outcome(s:Store)(record:DurableToolTerminalRecord):
  Outcome s (.toolTerminal record):=by
 cases hvalid:validateToolTerminalRecord record with
 | error e=>
  refine .failed e (fun hok=>?_) (by simp [step,recordToolTerminal,hvalid,Except.map])
  rw [Call.validate,hvalid] at hok
  cases hok
 | ok u=>
  cases hfind:s.terminalRecords.lookup record.key with
  | some committed=>
   have hfound:s.find (Call.toolTerminal record).subject=some (.toolTerminal committed):=by
    simp [Store.find,Call.subject,hfind]
   by_cases hsame:committed.record=record
   · refine .replayed (.toolTerminal committed) hfound ?_ ?_
     · simp [Commit.resubmission,hsame]
     · simp [step,recordToolTerminal,hvalid,hfind,hsame,Except.map,Commit.asReplay]
   · refine .failed (.terminalStateConflict record.responseId record.toolCallId record.revision)
      (fun _ commit hcommit heq=>?_) (by simp only [step,recordToolTerminal,hvalid,hfind,
       ne_eq,hsame,not_false_eq_true,if_true,Except.map])
     rw [hfound,Option.some.injEq] at hcommit
     rw [←hcommit] at heq
     exact hsame (Call.toolTerminal.inj heq).symm
  | none=>
   have hfree:s.find (Call.toolTerminal record).subject=none:=by
    simp [Store.find,Call.subject,hfind]
   by_cases hstop:(record.durableResultCommitted
     && (s.policyStoppedResponses.lookup record.responseId).isSome)=true
   · exact .failed (.responsePolicyStopped record.responseId)
      (unclaimed hfree) (by simp only [step,recordToolTerminal,hvalid,hfind,hstop,if_true,
       Except.map])
   · cases htake:takeNextSequence s.nextSequence with
     | none=>
      exact .failed .sequenceOverflow (unclaimed hfree) (by simp only [step,
       recordToolTerminal,hvalid,hfind,hstop,if_false,Bool.false_eq_true,
       acceptToolTerminal,htake,Except.map])
     | some taken=>
      obtain ⟨sequence,left⟩:=taken
      obtain ⟨hnumbered,rfl⟩:=takeNextSequence_eq_some htake
      refine .accepted (.toolTerminal ⟨sequence,record,false⟩) rfl rfl hvalid hfree ?_
       hnumbered ?_
      · intro other hother hconflict
        cases other with
        | toolTerminal other=>exact hconflict
        | policyStop stop=>
         obtain ⟨hresponse,hcommitted⟩:=hconflict
         have hstored : s.policyStoppedResponses.lookup stop.record.responseId=some stop:=by
          simpa [Store.find,Commit.subject,Commit.resubmission,Call.subject] using hother
         apply hstop
         change record.responseId=_ at hresponse
         change record.durableResultCommitted=true at hcommitted
         rw [hcommitted,hresponse,hstored]
         rfl
      · simp only [step,recordToolTerminal,hvalid,hfind,hstop,if_false,
         Bool.false_eq_true,acceptToolTerminal,htake,Except.map]
        rfl

lemma recordResponsePolicyStop_outcome(s:Store)(record:DurableResponsePolicyStopRecord):
  Outcome s (.policyStop record):=by
 cases hvalid:validateResponsePolicyStopRecord record with
 | error e=>
  refine .failed e (fun hok=>?_) (by simp [step,recordResponsePolicyStop,hvalid,Except.map])
  rw [Call.validate,hvalid] at hok
  cases hok
 | ok u=>
  cases hfind:s.policyStoppedResponses.lookup record.responseId with
  | some committed=>
   have hfound:s.find (Call.policyStop record).subject=some (.policyStop committed):=by
    simp [Store.find,Call.subject,hfind]
   by_cases hsame:committed.record=record
   · refine .replayed (.policyStop committed) hfound ?_ ?_
     · simp [Commit.resubmission,hsame]
     · simp [step,recordResponsePolicyStop,hvalid,hfind,hsame,Except.map,Commit.asReplay]
   · refine .failed (.responsePolicyStopConflict record.responseId)
      (fun _ commit hcommit heq=>?_) (by simp only [step,recordResponsePolicyStop,hvalid,
       hfind,ne_eq,hsame,not_false_eq_true,if_true,Except.map])
     rw [hfound,Option.some.injEq] at hcommit
     rw [←hcommit] at heq
     exact hsame (Call.policyStop.inj heq).symm
  | none=>
   have hfree:s.find (Call.policyStop record).subject=none:=by simp [Store.find,Call.subject,hfind]
   by_cases hcommitted:((values s.terminalRecords).any fun commit=>
     commit.record.responseId==record.responseId
      && commit.record.durableResultCommitted)=true
   · exact .failed (.durableResultAlreadyCommitted record.responseId)
      (unclaimed hfree) (by simp only [step,recordResponsePolicyStop,hvalid,hfind,
       hcommitted,if_true,Except.map])
   · cases htake:takeNextSequence s.nextSequence with
     | none=>
      exact .failed .sequenceOverflow (unclaimed hfree) (by simp only [step,
       recordResponsePolicyStop,hvalid,hfind,hcommitted,if_false,Bool.false_eq_true,
       acceptPolicyStop,htake,Except.map])
     | some taken=>
      obtain ⟨sequence,left⟩:=taken
      obtain ⟨hnumbered,rfl⟩:=takeNextSequence_eq_some htake
      refine .accepted (.policyStop ⟨sequence,record,false⟩) rfl rfl hvalid hfree ?_
       hnumbered ?_
      · intro other hother hconflict
        cases other with
        | policyStop other=>exact hconflict
        | toolTerminal terminal=>
         obtain ⟨hresponse,hdurable⟩:=hconflict
         have hstored:s.terminalRecords.lookup terminal.record.key=some terminal:=by
          simpa [Store.find,Commit.subject,Commit.resubmission,Call.subject] using hother
         apply hcommitted
         change terminal.record.responseId=record.responseId at hresponse
         rw [any_eq_true]
         refine ⟨terminal,(mem_values_iff _ _).mpr ⟨_,hstored⟩,?_⟩
         simp [hresponse,hdurable]
      · simp only [step,recordResponsePolicyStop,hvalid,hfind,hcommitted,if_false,
         Bool.false_eq_true,acceptPolicyStop,htake,Except.map]
        rfl

lemma step_outcome(s:Store)(call:Call):Outcome s call:=by
 cases call with
 | toolTerminal record=>exact recordToolTerminal_outcome s record
 | policyStop record=>exact recordResponsePolicyStop_outcome s record

abbrev Past := List (Transition Store Call (Except ToolTerminalStoreError Commit))

/-- A store holds exactly the commits accepted so far, numbered in the order of acceptance. -/
structure Faithful (past:Past) (s:Store) : Prop where
 stored:∀subject commit,s.find subject=some commit↔commit∈acceptances past∧commit.subject=subject
 numbered:(acceptances past).map Commit.sequence=List.range' 1 (acceptances past).length
 counter:s.nextSequence=checkedSucc (acceptances past).length
 valid:∀commit∈acceptances past,commit.resubmission.validate=.ok ()
 compatible:∀a∈acceptances past,∀b∈acceptances past,¬Conflicting a b

lemma acceptances_concat(past:Past)
  (t:Transition Store Call (Except ToolTerminalStoreError Commit)):
  acceptances (past++[t])=acceptances past++(acceptance t).toList:=
 filterMap_concat acceptance past t

variable {e:ToolTerminalStoreError}

lemma acceptance_failed(h:step s call=(.error e,s)):acceptance (takeStep step s call)=none:=by
 simp [acceptance,takeStep,h]

variable {commit:Commit}

lemma acceptance_replayed(h:step s call=(.ok commit.asReplay,s)):
  acceptance (takeStep step s call)=none:=by
 cases commit <;>simp [acceptance,takeStep,h,Commit.asReplay,Commit.replayed]

lemma acceptance_accepted{t:Store}(fresh:commit.replayed=false)(h:step s call=(.ok commit,t)):
  acceptance (takeStep step s call)=some commit:=by
 simp [acceptance,takeStep,h,fresh]

lemma not_conflicting_self(commit:Commit):¬Conflicting commit commit:=by
 cases commit <;>exact id

lemma Store.accept_nextSequence(s:Store)(commit:Commit):
  (s.accept commit).nextSequence=checkedSucc commit.sequence:=by
 cases commit <;>rfl

variable {past:Past} {t:Transition Store Call (Except ToolTerminalStoreError Commit)}

lemma Faithful.accept(h:Faithful past s)(same:call=commit.resubmission)
  (valid:call.validate=.ok ())(free:s.find call.subject=none)
  (compatible:∀other,s.find other.subject=some other→¬Conflicting commit other)
  (numbered:s.nextSequence=some commit.sequence)
  (haccepted:acceptance t=some commit):Faithful (past++[t]) (s.accept commit):=by
 have hgrown:acceptances (past++[t])=acceptances past++[commit]:=by
  rw [acceptances_concat,haccepted]
  rfl
 have hsubject:call.subject=commit.subject:=by rw [same,Commit.subject]
 have hnew:∀a∈acceptances past,¬Conflicting commit a:=by
  intro a ha
  exact compatible a ((h.stored _ _).mpr ⟨ha,rfl⟩)
 have hnumber:commit.sequence=(acceptances past).length+1:=by
  have hcounter:=h.counter
  rw [numbered] at hcounter
  exact checkedSucc_eq_some hcounter.symm
 refine ⟨?_,?_,?_,?_,?_⟩
 · intro subject other
   rw [find_accept,hgrown,mem_append,mem_singleton]
   split
   · next hs=>
     constructor
     · intro heq
       cases heq
       exact ⟨.inr rfl,hs.symm⟩
     · rintro ⟨hmem|rfl,hother⟩
       · have hfound:=(h.stored subject other).mpr ⟨hmem,hother⟩
         rw [hs,←hsubject,free] at hfound
         cases hfound
       · rfl
   · next hs=>
     rw [h.stored]
     constructor
     · rintro ⟨hmem,hother⟩
       exact ⟨.inl hmem,hother⟩
     · rintro ⟨hmem|rfl,hother⟩
       · exact ⟨hmem,hother⟩
       · exact absurd hother.symm hs
 · rw [hgrown,map_append,h.numbered,length_append,length_singleton,range'_concat]
   simp [hnumber,Nat.add_comm]
 · rw [Store.accept_nextSequence,hgrown,length_append,length_singleton,hnumber]
 · intro other hother
   rw [hgrown,mem_append,mem_singleton] at hother
   rcases hother with hother|rfl
   · exact h.valid other hother
   · rw [←same]
     exact valid
 · intro a ha b hb
   rw [hgrown,mem_append,mem_singleton] at ha hb
   rcases ha with ha|rfl
   · rcases hb with hb|rfl
     · exact h.compatible a ha b hb
     · exact fun hconflict=>hnew a ha hconflict.symm
   · rcases hb with hb|rfl
     · exact hnew b hb
     · exact not_conflicting_self _

lemma Faithful.idle(h:Faithful past s)(hnone:acceptance t=none):Faithful (past++[t]) s:=by
 have hsame:acceptances (past++[t])=acceptances past:=by
  rw [acceptances_concat,hnone]
  simp
 obtain ⟨stored,numbered,counter,valid,compatible⟩:=h
 rw [←hsame] at stored numbered counter valid compatible
 exact ⟨stored,numbered,counter,valid,compatible⟩

lemma Faithful.step(h:Faithful past s)(call:Call):
  Faithful (past++[takeStep step s call]) (step s call).2:=by
 cases step_outcome s call with
 | failed e _ hstep=>
  have hidle:=h.idle (acceptance_failed hstep)
  rwa [hstep]
 | replayed commit _ _ hstep=>
  have hidle:=h.idle (acceptance_replayed hstep)
  rwa [hstep]
 | accepted commit same fresh valid free compatible numbered hstep=>
  have haccept:=h.accept same valid free compatible numbered (acceptance_accepted fresh hstep)
  rwa [hstep]

lemma faithful_new : Faithful [] Store.new where
 stored:=by
  intro subject commit
  cases subject <;>simp [Store.find,Store.new,acceptances]
 numbered:=rfl
 counter:=by decide
 valid:=by simp [acceptances]
 compatible:=by simp [acceptances]

lemma faithful_run(calls:List Call):
  Faithful (history step Store.new calls) (execute step Store.new calls):=
 history_invariant step faithful_new (fun _ _ call h=>h.step call) calls

lemma acceptances_of_run_append(calls later:List Call):
  acceptances (history step Store.new (calls++later))=acceptances (history step Store.new calls) ++
    acceptances (history step (execute step Store.new calls) later):=by
 rw [history_append,acceptances,filterMap_append]
 rfl

lemma find_permanent{calls:List Call}(later:List Call){subject:Subject}
  (h:(execute step Store.new calls).find subject=some commit):
  (execute step Store.new (calls++later)).find subject=some commit:=by
 rw [(faithful_run (calls++later)).stored,acceptances_of_run_append,mem_append]
 have hmem:=((faithful_run calls).stored subject commit).mp h
 exact ⟨.inl hmem.1,hmem.2⟩

lemma Faithful.resubmit(h:Faithful past s)(hc:commit∈acceptances past):
  ToolTerminals.step s commit.resubmission=(.ok commit.asReplay,s):=by
 have hfound:s.find commit.resubmission.subject=some commit:=(h.stored _ _).mpr ⟨hc,rfl⟩
 cases step_outcome s commit.resubmission with
 | failed e cause hstep=>exact absurd rfl (cause (h.valid commit hc) commit hfound)
 | replayed other found same hstep=>
  rw [hfound] at found
  cases found
  exact hstep
 | accepted other same fresh valid free compatible numbered hstep=>
  rw [hfound] at free
  cases free

lemma Faithful.conflict(h:Faithful past s)(hc:commit∈acceptances past)
  (hsubject:call.subject=commit.subject)(hne:call≠commit.resubmission):
  ∃e,ToolTerminals.step s call=(.error e,s):=by
 have hfound:s.find call.subject=some commit:=(h.stored _ _).mpr ⟨hc,hsubject.symm⟩
 cases step_outcome s call with
 | failed e cause hstep=>exact ⟨e,hstep⟩
 | replayed other found same hstep=>
  rw [hfound] at found
  cases found
  exact absurd same hne
 | accepted other same fresh valid free compatible numbered hstep=>
  rw [hfound] at free
  cases free

lemma step_failed_unchanged(h:(step s call).1=.error e):(step s call).2=s:=by
 cases step_outcome s call with
 | failed e' cause hstep=>rw [hstep]
 | replayed commit found same hstep=>rw [hstep]
 | accepted commit same fresh valid free compatible numbered hstep=>
  rw [hstep] at h
  cases h

/-- What the store guarantees after a run of calls, retries and conflicts among them. -/
structure CommitsOnce (calls:List Call) : Prop where
 /-- No response has both a policy stop and a committed durable result. -/
 exclusive:∀key terminal responseId stop,
  (execute step Store.new calls).terminalRecords.lookup key=some terminal →
  (execute step Store.new calls).policyStoppedResponses.lookup responseId=some stop →
  key.1=responseId→terminal.record.durableResultCommitted=false
 /-- The stored commits are the accepted ones, each under its own subject. -/
 stored:∀subject commit,(execute step Store.new calls).find subject=some commit ↔
  commit∈acceptances (history step Store.new calls)∧commit.subject=subject
 permanent:∀later subject commit,(execute step Store.new calls).find subject=some commit →
  (execute step Store.new (calls++later)).find subject=some commit
 /-- The sequence numbers in the order of first acceptance are 1, 2, 3, … -/
 dense:(acceptances (history step Store.new calls)).map Commit.sequence =
  List.range' 1 (acceptances (history step Store.new calls)).length
 replay:∀commit∈acceptances (history step Store.new calls),
  step (execute step Store.new calls) commit.resubmission =
   (.ok commit.asReplay,execute step Store.new calls)
 conflict:∀commit∈acceptances (history step Store.new calls),∀call : Call,
  call.subject=commit.subject→call≠commit.resubmission →
  ∃e,step (execute step Store.new calls) call=(.error e,execute step Store.new calls)
 failure:∀call e,(step (execute step Store.new calls) call).1=.error e →
  (step (execute step Store.new calls) call).2=execute step Store.new calls

lemma Faithful.exclusive(h:Faithful past s){key:TerminalKey}
  {terminal:DurableToolTerminalCommit}{responseId:String}{stop:DurableResponsePolicyStopCommit}
  (hterminal:s.terminalRecords.lookup key=some terminal)
  (hstop:s.policyStoppedResponses.lookup responseId=some stop)(hkey:key.1=responseId):
  terminal.record.durableResultCommitted=false:=by
 obtain ⟨hta,htk⟩:=(h.stored (.inl key) (.toolTerminal terminal)).mp (by
  simp [Store.find,hterminal])
 obtain ⟨hsa,hsk⟩:=(h.stored (.inr responseId) (.policyStop stop)).mp (by simp [Store.find,hstop])
 have hresponse:terminal.record.responseId=key.1:=congrArg Prod.fst (Sum.inl.inj htk)
 have hsame:stop.record.responseId=responseId:=Sum.inr.inj hsk
 have hcompatible:=h.compatible _ hta _ hsa
 cases hdurable:terminal.record.durableResultCommitted with
 | false=>rfl
 | true=>exact absurd ⟨by rw [hresponse,hkey,hsame],hdurable⟩ hcompatible

/-- Whatever is submitted, retried or contradicted, each tool call revision and each response
stop is committed once, in sequence, and a stopped response has no committed result. -/
theorem terminals_commit_once (calls : List Call) : CommitsOnce calls where
 exclusive:=fun _ _ _ _ hterminal hstop hkey=>(faithful_run calls).exclusive hterminal hstop hkey
 stored:=(faithful_run calls).stored
 permanent:=fun later _ _ h=>find_permanent later h
 dense:=(faithful_run calls).numbered
 replay:=fun _ hc=>(faithful_run calls).resubmit hc
 conflict:=fun _ hc _ hsubject hne=>(faithful_run calls).conflict hc hsubject hne
 failure:=fun _ _ h=>step_failed_unchanged h

end GraphBlocks.ToolTerminals
