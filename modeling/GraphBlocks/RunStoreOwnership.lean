import GraphBlocks.RunStoreModel
import Mathlib.Order.CompletePartialOrder

namespace GraphBlocks.RunStore
open OrderedMap RustStd MachineRuns

structure Rewrites (current updated:RunRecord) : Prop where
 isOpen:current.status.isTerminal=false
 runId:updated.runId=current.runId
 sequence:updated.sequence=current.sequence
 tools:updated.modelVisibleTools=current.modelVisibleTools ∨
  ∃tools,updated.modelVisibleTools=sortedModelVisibleTools tools

variable {current updated:RunRecord}

lemma recordWithStatus_rewrites{status:RunStatus}
  (h:recordWithStatus current status=.ok updated):Rewrites current updated:=by
 unfold recordWithStatus at h
 split at h
 · cases h
 · next hopen=>
   cases h
   exact ⟨by simpa using hopen,rfl,rfl,.inl rfl⟩

lemma recordWithModelVisibleTools_rewrites{tools:List ModelVisibleToolRef}
  (h:recordWithModelVisibleTools current tools=.ok updated):Rewrites current updated:=by
 unfold recordWithModelVisibleTools at h
 split at h
 · cases h
 · next hopen=>
   cases h
   exact ⟨by simpa using hopen,rfl,rfl,.inr ⟨tools,rfl⟩⟩

lemma recordWithStatePatch_rewrites{patch:StatePatch}
  (h:recordWithStatePatch current patch=.ok updated):Rewrites current updated:=by
 unfold recordWithStatePatch at h
 obtain ⟨_,hopen,h⟩:=bind_ok.mp h
 obtain ⟨_,-,h⟩:=bind_ok.mp h
 obtain ⟨next,-,h⟩:=bind_ok.mp h
 cases h
 exact ⟨by simpa using ensure_ok.mp hopen,rfl,rfl,.inl rfl⟩

/-- A presented lease is accepted: it is the stored one, and the time is inside its interval. -/
structure Presents (proof:LeaseProof) (lease:RunOwnershipLease) : Prop where
 owner:proof.owner=lease.owner
 leaseId:proof.leaseId=lease.leaseId
 fencingEpoch:proof.fencingEpoch=lease.fencingEpoch
 started:lease.acquiredAtUnixMs≤proof.nowUnixMs
 running:proof.nowUnixMs<lease.expiresAtUnixMs

variable {proof:LeaseProof} {runId:String} {s':InMemoryRunStore}

lemma validateRunOwnershipLease_ok{current:RunOwnershipLease}{u:Unit}
  (h:validateRunOwnershipLease runId proof current=.ok u):Presents proof current:=by
 unfold validateRunOwnershipLease at h
 obtain ⟨_,hsame,h⟩:=bind_ok.mp h
 obtain ⟨_,hstarted,h⟩:=bind_ok.mp h
 have hactive:=ensure_ok.mp h
 simp only [ensure_ok,Bool.and_eq_true,beq_iff_eq,decide_eq_true_eq] at hsame hstarted
 simp only [RunOwnershipLease.isActiveAt,Bool.and_eq_true,decide_eq_true_eq] at hactive
 exact ⟨hsame.1.1.symm,hsame.1.2.symm,hsame.2.symm,hstarted,hactive.2⟩

lemma saturatingSucc_le{n:ℕ}(h:n≤u64Limit-1):n≤ saturatingSucc n:=by
 unfold saturatingSucc
 split <;>omega

lemma saturatingSucc_lt{n:ℕ}(h:n<u64Limit-1):n<saturatingSucc n:=by
 unfold saturatingSucc
 split <;>omega

lemma saturatingSucc_bound(n:ℕ):saturatingSucc n≤u64Limit-1:=by
 unfold saturatingSucc
 split <;>omega

variable {owner:String} {acquiredAt expiresAt:ℕ} {lease:RunOwnershipLease}

lemma acquireRunOwnershipLease_ok{current:Option RunOwnershipLease}
  (h:acquireRunOwnershipLease runId owner acquiredAt expiresAt current=.ok lease):
  lease.acquiredAtUnixMs<lease.expiresAtUnixMs∧lease.fencingEpoch≤u64Limit-1 ∧
  (∀previous,current=some previous→previous.expiresAtUnixMs≤lease.acquiredAtUnixMs ∧
    lease.fencingEpoch=saturatingSucc previous.fencingEpoch):=by
 unfold acquireRunOwnershipLease at h
 obtain ⟨_,hrequest,h⟩:=bind_ok.mp h
 obtain ⟨_,hfree,h⟩:=bind_ok.mp h
 cases h
 unfold validateLeaseRequest at hrequest
 obtain ⟨_,-,hrequest⟩:=bind_ok.mp hrequest
 obtain ⟨_,-,hrequest⟩:=bind_ok.mp hrequest
 refine ⟨by simpa using ensure_ok.mp hrequest,?_,?_⟩
 · cases current with
   | none=>exact (by decide:1≤u64Limit-1)
   | some previous=>exact saturatingSucc_bound _
 · rintro previous rfl
   exact ⟨by simpa using ensure_ok.mp hfree,rfl⟩

lemma renewRunOwnershipLease_ok{current renewed:RunOwnershipLease}
  (h:renewRunOwnershipLease runId proof expiresAt current=.ok renewed):
  Presents proof current∧current.expiresAtUnixMs<expiresAt ∧
   renewed = { current with expiresAtUnixMs:=expiresAt }:=by
 unfold renewRunOwnershipLease at h
 obtain ⟨_,-,h⟩:=bind_ok.mp h
 obtain ⟨_,hvalid,h⟩:=bind_ok.mp h
 obtain ⟨_,hlater,h⟩:=bind_ok.mp h
 cases h
 exact ⟨validateRunOwnershipLease_ok hvalid,by simpa using ensure_ok.mp hlater,rfl⟩

variable {response:Response}

section
variable {s s':InMemoryRunStore} {record:RunRecord}

lemma getRun_ok:s.getRun runId=.ok record↔s.runs[runId]?=some record:=by
 unfold InMemoryRunStore.getRun
 cases s.runs[runId]? <;>simp

lemma currentLease_ok(h:s.currentLease runId proof=.ok lease):
  s.ownershipLeases[runId]?=some lease:=by
 unfold InMemoryRunStore.currentLease at h
 obtain ⟨_,-,h⟩:=bind_ok.mp h
 split at h
 · cases h
 · next current heq=>
   cases h
   exact heq

lemma validateOwnershipLease_ok{u:Unit}(h:s.validateOwnershipLease runId proof=.ok u):
  ∃lease,s.ownershipLeases[runId]?=some lease∧Presents proof lease:=by
 unfold InMemoryRunStore.validateOwnershipLease at h
 obtain ⟨lease,hlease,hvalid⟩:=bind_ok.mp h
 exact ⟨lease,currentLease_ok hlease,validateRunOwnershipLease_ok hvalid⟩

lemma updateRun_ok{update:RunRecord→Except RunStoreError RunRecord}
  (h:s.updateRun runId update=.ok (updated,s')):
  ∃current,s.runs[runId]?=some current∧update current=.ok updated ∧
   s' = { s with runs:=s.runs.insert runId updated }:=by
 unfold InMemoryRunStore.updateRun at h
 obtain ⟨current,hcurrent,h⟩:=bind_ok.mp h
 obtain ⟨record,hupdate,h⟩:=bind_ok.mp h
 cases h
 exact ⟨current,getRun_ok.mp hcurrent,hupdate,rfl⟩

lemma generatedRunId_fresh{taken:String→Bool}{rounds sequence found next:ℕ}
  (h:InMemoryRunStore.generatedRunId taken rounds sequence=.ok (found,next)):
  taken (runIdOf found)=false:=by
 induction rounds generalizing sequence with
 | zero=>cases h
 | succ rounds ih=>
  unfold InMemoryRunStore.generatedRunId at h
  split at h
  · cases h
  · split at h
    · exact ih h
    · next hfree=>
      cases h
      simpa using hfree

/-- Run ids are trimmed on creation, or generated without blanks at their ends. -/
structure IsRunId (runId:String) : Prop where
 nonempty:runId ≠ ""
 trimmed:trim runId=runId

lemma runIdOf_isRunId (sequence:ℕ) : IsRunId (runIdOf sequence) where
 nonempty h:=by simp [runIdOf] at h
 trimmed:=trim_append_zeroPadded (by decide) (by decide +kernel) 6 sequence

lemma runIdentity_ok{requested:Option String}{sequence next:ℕ}
  (h:s.runIdentity requested=.ok (runId,sequence,next)):s.runs[runId]?=none∧IsRunId runId:=by
 cases requested with
 | some requested=>
  unfold InMemoryRunStore.runIdentity at h
  obtain ⟨_,hnonempty,h⟩:=bind_ok.mp h
  obtain ⟨_,hfresh,h⟩:=bind_ok.mp h
  split at h
  · cases h
  · cases h
    refine ⟨(contains_eq_false_iff _).mp (by simpa using ensure_ok.mp hfresh),?_,trim_trim _⟩
    simpa using ensure_ok.mp hnonempty
 | none=>
  unfold InMemoryRunStore.runIdentity at h
  obtain ⟨⟨found,following⟩,hfound,h⟩:=bind_ok.mp h
  cases h
  exact ⟨(contains_eq_false_iff _).mp (generatedRunId_fresh hfound),runIdOf_isRunId _⟩

/-- Everything a successful call can do to the store. -/
inductive Effect (s:InMemoryRunStore) : Call→Response→InMemoryRunStore→Prop
 | create {request:RunRequest} {runId:String} (sequence next:ℕ)
   (fresh:s.runs[runId]?=none) (isRunId:IsRunId runId) :
   Effect s (.createRun request) (.record (request.record runId sequence))
    { s with runs:=s.runs.insert runId (request.record runId sequence),nextSequence:=next }
 | read {call:Call} {record:RunRecord} : Effect s call (.record record) s
 | check {call:Call} : Effect s call .valid s
 | record {call:Call} {runId:String} {current updated:RunRecord}
   (stored:s.runs[runId]?=some current) (rewrites:Rewrites current updated) :
   Effect s call (.record updated) { s with runs:=s.runs.insert runId updated }
 | update {call:Call} {runId:String} {current:RunRecord} {update:CallbackDeliveryRunUpdate}
   (stored:s.runs[runId]?=some current) (rewrites:Rewrites current update.run) :
   Effect s call (.update update) { s with runs:=s.runs.insert runId update.run }
 | acquire {runId owner:String} {acquiredAt expiresAt:ℕ} {lease:RunOwnershipLease}
   (known:∃record,s.runs[runId]?=some record)
   (granted:acquireRunOwnershipLease runId owner acquiredAt expiresAt
    s.ownershipLeases[runId]?=.ok lease) :
   Effect s (.acquireOwnershipLease runId owner acquiredAt expiresAt) (.lease lease)
    { s with ownershipLeases:=s.ownershipLeases.insert runId lease }
 | renew {runId:String} {proof:LeaseProof} {expiresAt:ℕ} {current renewed:RunOwnershipLease}
   (stored:s.ownershipLeases[runId]?=some current)
   (extended:renewRunOwnershipLease runId proof expiresAt current=.ok renewed) :
   Effect s (.renewOwnershipLease runId proof expiresAt) (.lease renewed)
    { s with ownershipLeases:=s.ownershipLeases.insert runId renewed }

lemma answer_ok{σ α:Type}{response:α→Response}{result:Except RunStoreError (α×σ)}{r:Response}
  {t:σ}:answer response result=.ok (r,t) ↔ ∃a,result=.ok (a,t)∧r=response a:=by
 unfold answer
 rw [except_map_ok]
 constructor
 · rintro ⟨⟨a,t'⟩,hresult,h⟩
   cases h
   exact ⟨a,hresult,rfl⟩
 · rintro ⟨a,hresult,rfl⟩
   exact ⟨(a,t),hresult,rfl⟩

variable {call:Call}

lemma setStatus_effect{status:RunStatus}
  (h:s.setStatus runId status=.ok (updated,s')):Effect s call (.record updated) s':=by
 obtain ⟨current,hstored,hupdate,rfl⟩:=updateRun_ok h
 exact .record hstored (recordWithStatus_rewrites hupdate)

lemma patchState_effect{patch:StatePatch}
  (h:s.patchState runId patch=.ok (updated,s')):Effect s call (.record updated) s':=by
 obtain ⟨current,hstored,hupdate,rfl⟩:=updateRun_ok h
 exact .record hstored (recordWithStatePatch_rewrites hupdate)

lemma callback_effect{action:CallbackDeliveryRunAction}{update:CallbackDeliveryRunUpdate}
  (h:s.applyCallbackDeliveryRunAction action=.ok (update,s')):
  Effect s call (.update update) s':=by
 unfold InMemoryRunStore.applyCallbackDeliveryRunAction at h
 obtain ⟨⟨runId,status,waitReason,subscriptionId,reason⟩,-,h⟩:=bind_ok.mp h
 obtain ⟨⟨run,t⟩,hset,h⟩:=bind_ok.mp h
 cases h
 obtain ⟨current,hstored,hupdate,rfl⟩:=updateRun_ok hset
 exact .update hstored (recordWithStatus_rewrites hupdate)

lemma perform_effect(h:s.perform call=.ok (response,s')):Effect s call response s':=by
 cases call with
 | createRun request=>
  obtain ⟨record,hcreate,rfl⟩:=answer_ok.mp h
  unfold InMemoryRunStore.createRunWithOptionalRunIdInvocationProvenanceAndMode at hcreate
  obtain ⟨⟨runId,sequence,next⟩,hidentity,hcreate⟩:=bind_ok.mp hcreate
  cases hcreate
  obtain ⟨hfresh,hrunId⟩:=runIdentity_ok hidentity
  exact .create sequence next hfresh hrunId
 | getRun runId=>
  obtain ⟨record,-,heq⟩:=except_map_ok.mp h
  cases heq
  exact .read
 | setStatus runId status=>
  obtain ⟨record,hset,rfl⟩:=answer_ok.mp h
  exact setStatus_effect hset
 | applyCallbackDeliveryRunAction action=>
  obtain ⟨update,hset,rfl⟩:=answer_ok.mp h
  exact callback_effect hset
 | setStatusWithOwnershipLease runId status proof=>
  obtain ⟨record,hset,rfl⟩:=answer_ok.mp h
  obtain ⟨_,-,hset⟩:=bind_ok.mp hset
  exact setStatus_effect hset
 | recordModelVisibleTools runId tools=>
  obtain ⟨record,hset,rfl⟩:=answer_ok.mp h
  obtain ⟨current,hstored,hupdate,rfl⟩:=updateRun_ok hset
  exact .record hstored (recordWithModelVisibleTools_rewrites hupdate)
 | patchState runId patch=>
  obtain ⟨record,hset,rfl⟩:=answer_ok.mp h
  exact patchState_effect hset
 | patchStateWithOwnershipLease runId patch proof=>
  obtain ⟨record,hset,rfl⟩:=answer_ok.mp h
  obtain ⟨_,-,hset⟩:=bind_ok.mp hset
  exact patchState_effect hset
 | acquireOwnershipLease runId owner acquiredAt expiresAt=>
  obtain ⟨lease,hacquire,rfl⟩:=answer_ok.mp h
  unfold InMemoryRunStore.acquireOwnershipLease at hacquire
  obtain ⟨record,hrecord,hacquire⟩:=bind_ok.mp hacquire
  obtain ⟨granted,hgranted,hacquire⟩:=bind_ok.mp hacquire
  cases hacquire
  exact .acquire ⟨record,getRun_ok.mp hrecord⟩ hgranted
 | renewOwnershipLease runId proof expiresAt=>
  obtain ⟨lease,hrenew,rfl⟩:=answer_ok.mp h
  unfold InMemoryRunStore.renewOwnershipLease at hrenew
  obtain ⟨current,hcurrent,hrenew⟩:=bind_ok.mp hrenew
  obtain ⟨renewed,hextended,hrenew⟩:=bind_ok.mp hrenew
  cases hrenew
  exact .renew (currentLease_ok hcurrent) hextended
 | validateOwnershipLease runId proof=>
  obtain ⟨_,-,heq⟩:=except_map_ok.mp h
  cases heq
  exact .check

lemma step_cases(s:InMemoryRunStore)(call:Call):
  (∃response,(s.step call).1=.ok response∧Effect s call response (s.step call).2) ∨
  (∃e,s.step call=(.error e,s)):=by
 unfold InMemoryRunStore.step
 cases h:s.perform call with
 | ok p=>exact .inl ⟨p.1,rfl,perform_effect h⟩
 | error e=>exact .inr ⟨e,rfl⟩

lemma Effect.keeps_terminal(h:Effect s call response s')
  (hstored:s.runs[runId]?=some record)(hterminal:record.status.isTerminal=true):
  s'.runs[runId]?=some record:=by
 have write:∀{k:String} {current updated:RunRecord},s.runs[k]?=some current →
   current.status.isTerminal=false→(s.runs.insert k updated)[runId]?=some record:=by
  intro k current updated hcurrent hopen
  have hne:k≠runId:=by
   rintro rfl
   rw [hstored] at hcurrent
   cases hcurrent
   rw [hterminal] at hopen
   cases hopen
  rw [lookup_insert_ne _ _ hne,hstored]
 cases h with
 | @create _ fresh sequence next hfresh hrunId=>
  have hne:fresh≠runId:=by
   rintro rfl
   rw [hstored] at hfresh
   cases hfresh
  exact (lookup_insert_ne _ _ hne).trans hstored
 | read=>exact hstored
 | check=>exact hstored
 | record stored rewrites=>exact write stored rewrites.isOpen
 | update stored rewrites=>exact write stored rewrites.isOpen
 | acquire _ _=>exact hstored
 | renew _ _=>exact hstored

lemma step_keeps_terminal(hstored:s.runs[runId]?=some record)
  (hterminal:record.status.isTerminal=true)(call:Call):
  (s.step call).2.runs[runId]?=some record:=by
 obtain ⟨response,-,heffect⟩|⟨e,he⟩:=step_cases s call
 · exact heffect.keeps_terminal hstored hterminal
 · rw [he]
   exact hstored

lemma run_keeps_terminal(hstored:s.runs[runId]?=some record)
  (hterminal:record.status.isTerminal=true)(calls:List Call):
  (execute InMemoryRunStore.step s calls).runs[runId]?=some record:=
 execute_invariant InMemoryRunStore.step (I:=fun t=>t.runs[runId]?=some record) hstored
  (fun _ call h=>step_keeps_terminal h hterminal call) calls
end

abbrev StoreTransition := Transition InMemoryRunStore Call (Except RunStoreError Response)

/-- A successful acquisition grants a lease; a successful renewal replaces the last one. -/
def grantsAfter (runId:String) (grants:List RunOwnershipLease) (t:StoreTransition) :
  List RunOwnershipLease :=
 match t.response with
 | .ok (.lease lease)=>
  match t.call with
  | .acquireOwnershipLease id _ _ _=>if id=runId then grants++[lease] else grants
  | .renewOwnershipLease id _ _=>if id=runId then grants.dropLast++[lease] else grants
  | _=>grants
 | _=>grants

def grantedLeases (runId:String) (past:List StoreTransition) : List RunOwnershipLease :=
 past.foldl (grantsAfter runId) []

lemma grantedLeases_concat(runId:String)(past:List StoreTransition)(t:StoreTransition):
  grantedLeases runId (past++[t])=grantsAfter runId (grantedLeases runId past) t:=by
 simp [grantedLeases]

/-- Earlier in time, and under a lower epoch unless the epochs are exhausted. -/
structure Precedes (a b:RunOwnershipLease) : Prop where
 ended:a.expiresAtUnixMs≤b.acquiredAtUnixMs
 epoch_le:a.fencingEpoch≤b.fencingEpoch
 epoch_lt:a.fencingEpoch<u64Limit-1→a.fencingEpoch<b.fencingEpoch

structure LeaseOrder (grants:List RunOwnershipLease) : Prop where
 intervals:∀lease∈grants,lease.acquiredAtUnixMs<lease.expiresAtUnixMs
 epochs:∀lease∈grants,lease.fencingEpoch≤u64Limit-1
 ordered:grants.Pairwise Precedes

structure LeaseLedger (runId:String) (grants:List RunOwnershipLease) (s:InMemoryRunStore) :
  Prop extends LeaseOrder grants where
 latest:s.ownershipLeases[runId]?=grants.getLast?

section
variable {runId:String} {grants:List RunOwnershipLease} {s:InMemoryRunStore}

lemma Precedes.trans{a b c:RunOwnershipLease}(hab:Precedes a b)
  (hb:b.acquiredAtUnixMs<b.expiresAtUnixMs)(hbc:Precedes b c):Precedes a c:=by
 have h₁:=hab.ended
 have h₂:=hbc.ended
 have h₃:=hab.epoch_le
 have h₄:=hbc.epoch_le
 refine ⟨by omega,by omega,fun h=>?_⟩
 have h₅:=hab.epoch_lt h
 omega

lemma precedes_of_acquired{previous:RunOwnershipLease}(hbound:previous.fencingEpoch≤u64Limit-1)
  (h:acquireRunOwnershipLease runId owner acquiredAt expiresAt (some previous)=.ok lease):
  Precedes previous lease:=by
 obtain ⟨hended,hepoch⟩:=(acquireRunOwnershipLease_ok h).2.2 previous rfl
 refine ⟨hended,?_,fun hlt=>?_⟩
 · rw [hepoch]
   exact saturatingSucc_le hbound
 · rw [hepoch]
   exact saturatingSucc_lt hlt

lemma LeaseOrder.concat(h:LeaseOrder grants)
  (hinterval:lease.acquiredAtUnixMs<lease.expiresAtUnixMs)(hepoch:lease.fencingEpoch≤u64Limit-1)
  (hlast:∀last,grants.getLast?=some last→Precedes last lease):LeaseOrder (grants++[lease]):=by
 refine ⟨?_,?_,?_⟩
 · intro a ha
   rcases List.mem_append.mp ha with ha|ha
   · exact h.intervals a ha
   · rw [List.mem_singleton.mp ha]
     exact hinterval
 · intro a ha
   rcases List.mem_append.mp ha with ha|ha
   · exact h.epochs a ha
   · rw [List.mem_singleton.mp ha]
     exact hepoch
 · rw [List.pairwise_append]
   refine ⟨h.ordered,List.pairwise_singleton _ _,?_⟩
   intro a ha b hb
   rw [List.mem_singleton.mp hb]
   induction grants using List.reverseRecOn with
   | nil=>cases ha
   | append_singleton front last _=>
    have hnext:=hlast last (List.getLast?_concat)
    rcases List.mem_append.mp ha with ha|ha
    · have hord:=(List.pairwise_append.mp h.ordered).2.2 a ha last (List.mem_singleton_self last)
      exact hord.trans (h.intervals last (by simp)) hnext
    · rw [List.mem_singleton.mp ha]
      exact hnext

variable {front:List RunOwnershipLease}

lemma LeaseOrder.initial{last:RunOwnershipLease}(h:LeaseOrder (front++[last])):LeaseOrder front:=
 ⟨fun a ha=>h.intervals a (List.mem_append_left _ ha),
  fun a ha=>h.epochs a (List.mem_append_left _ ha),(List.pairwise_append.mp h.ordered).1⟩

lemma LeaseOrder.renew{last:RunOwnershipLease}
  (h:LeaseOrder (front++[last]))(hlater:last.expiresAtUnixMs<expiresAt):
  LeaseOrder (front++[{ last with expiresAtUnixMs:=expiresAt }]):=by
 have hmem:last∈front++[last]:=by simp
 have hinterval:=h.intervals last hmem
 refine h.initial.concat ?_ (h.epochs last hmem) ?_
 · change last.acquiredAtUnixMs<expiresAt
   omega
 · intro a ha
   have hord:=(List.pairwise_append.mp h.ordered).2.2 a (List.mem_of_getLast? ha) last (by simp)
   exact ⟨hord.ended,hord.epoch_le,hord.epoch_lt⟩

lemma leaseLedger_new (runId:String) : LeaseLedger runId [] InMemoryRunStore.new where
 intervals:=by simp
 epochs:=by simp
 ordered:=List.Pairwise.nil
 latest:=by simp [InMemoryRunStore.new]

section
variable (h:LeaseLedger runId grants s)
include h

lemma LeaseLedger.same
  (hleases:s'.ownershipLeases[runId]?=s.ownershipLeases[runId]?):LeaseLedger runId grants s':=
 ⟨h.toLeaseOrder,hleases.trans h.latest⟩

lemma LeaseLedger.acquire(hgranted:acquireRunOwnershipLease runId owner acquiredAt expiresAt
   s.ownershipLeases[runId]?=.ok lease):
  LeaseLedger runId (grants++[lease])
   { s with ownershipLeases:=s.ownershipLeases.insert runId lease }:=by
 obtain ⟨hinterval,hepoch,-⟩:=acquireRunOwnershipLease_ok hgranted
 refine ⟨h.toLeaseOrder.concat hinterval hepoch ?_,?_⟩
 · intro last hlast
   rw [h.latest,hlast] at hgranted
   exact precedes_of_acquired (h.epochs last (List.mem_of_getLast? hlast)) hgranted
 · rw [List.getLast?_concat]
   exact lookup_insert_self _ _ _

lemma LeaseLedger.renew{current renewed:RunOwnershipLease}
  (hstored:s.ownershipLeases[runId]?=some current)
  (hextended:renewRunOwnershipLease runId proof expiresAt current=.ok renewed):
  LeaseLedger runId (grants.dropLast++[renewed])
   { s with ownershipLeases:=s.ownershipLeases.insert runId renewed }:=by
 obtain ⟨-,hlater,rfl⟩:=renewRunOwnershipLease_ok hextended
 have hlast:grants.getLast?=some current:=h.latest.symm.trans hstored
 obtain ⟨front,rfl⟩:=List.getLast?_eq_some_iff.mp hlast
 rw [List.dropLast_concat]
 refine ⟨h.toLeaseOrder.renew hlater,?_⟩
 rw [List.getLast?_concat]
 exact lookup_insert_self _ _ _

lemma LeaseLedger.effect{call:Call}(heffect:Effect s call response s'):
  LeaseLedger runId (grantsAfter runId grants ⟨s,call,.ok response,s'⟩) s':=by
 cases heffect with
 | create _ _ _ _=>exact h.same rfl
 | read=>exact h
 | check=>exact h
 | record _ _=>exact h.same rfl
 | update _ _=>exact h.same rfl
 | @acquire id owner acquiredAt expiresAt lease hknown hgranted=>
  change LeaseLedger runId (if id=runId then grants++[lease] else grants) _
  by_cases hid:id=runId
  · subst hid
    rw [if_pos rfl]
    exact h.acquire hgranted
  · rw [if_neg hid]
    exact h.same (lookup_insert_ne _ _ hid)
 | @renew id proof expiresAt current renewed hstored hextended=>
  change LeaseLedger runId (if id=runId then grants.dropLast++[renewed] else grants) _
  by_cases hid:id=runId
  · subst hid
    rw [if_pos rfl]
    exact h.renew hstored hextended
  · rw [if_neg hid]
    exact h.same (lookup_insert_ne _ _ hid)

lemma LeaseLedger.step(call:Call):
  LeaseLedger runId (grantsAfter runId grants (takeStep InMemoryRunStore.step s call))
   (s.step call).2:=by
 obtain ⟨response,hresponse,heffect⟩|⟨e,he⟩:=step_cases s call
 · rw [takeStep,hresponse]
   exact h.effect heffect
 · rw [takeStep,he]
   exact h

end

lemma leaseLedger_history(runId:String)(calls:List Call):LeaseLedger runId
   (grantedLeases runId (history InMemoryRunStore.step InMemoryRunStore.new calls))
   (execute InMemoryRunStore.step InMemoryRunStore.new calls):=by
 apply history_invariant InMemoryRunStore.step
  (P:=fun past s=>LeaseLedger runId (grantedLeases runId past) s) (leaseLedger_new runId)
 intro past s call h
 rw [grantedLeases_concat]
 exact h.step call
end

def Call.presented : Call→Option (String×LeaseProof)
 | .setStatusWithOwnershipLease runId _ proof=>some (runId,proof)
 | .patchStateWithOwnershipLease runId _ proof=>some (runId,proof)
 | .renewOwnershipLease runId proof _=>some (runId,proof)
 | .validateOwnershipLease runId proof=>some (runId,proof)
 | _=>none

lemma presented_stored{s:InMemoryRunStore}{call:Call}
  (h:s.perform call=.ok (response,s'))(hcall:call.presented=some (runId,proof)):
  ∃lease,s.ownershipLeases[runId]?=some lease∧Presents proof lease:=by
 cases call with
 | setStatusWithOwnershipLease id status presented=>
  cases hcall
  obtain ⟨record,hset,-⟩:=answer_ok.mp h
  obtain ⟨_,hvalid,-⟩:=bind_ok.mp hset
  exact validateOwnershipLease_ok hvalid
 | patchStateWithOwnershipLease id patch presented=>
  cases hcall
  obtain ⟨record,hset,-⟩:=answer_ok.mp h
  obtain ⟨_,hvalid,-⟩:=bind_ok.mp hset
  exact validateOwnershipLease_ok hvalid
 | renewOwnershipLease id presented expiresAt=>
  cases hcall
  obtain ⟨lease,hrenew,-⟩:=answer_ok.mp h
  obtain ⟨current,hcurrent,hrenew⟩:=bind_ok.mp hrenew
  obtain ⟨renewed,hextended,-⟩:=bind_ok.mp hrenew
  exact ⟨current,currentLease_ok hcurrent,(renewRunOwnershipLease_ok hextended).1⟩
 | validateOwnershipLease id presented=>
  cases hcall
  obtain ⟨_,hvalid,-⟩:=except_map_ok.mp h
  exact validateOwnershipLease_ok hvalid
 | _=>cases hcall

lemma presented_step{s:InMemoryRunStore}{call:Call}
  (h:(s.step call).1=.ok response)(hcall:call.presented=some (runId,proof)):
  ∃lease,s.ownershipLeases[runId]?=some lease∧Presents proof lease:=by
 unfold InMemoryRunStore.step at h
 cases hperform:s.perform call with
 | ok p=>exact presented_stored hperform hcall
 | error e=>
  rw [hperform] at h
  cases h

def RunOwnershipLease.interval (lease:RunOwnershipLease) : Set ℕ :=
 Set.Ico lease.acquiredAtUnixMs lease.expiresAtUnixMs

lemma Precedes.disjoint{a b:RunOwnershipLease}(h:Precedes a b):Disjoint a.interval b.interval:=by
 rw [Set.disjoint_left]
 intro now ha hb
 have hended:=h.ended
 have hafter:=ha.2
 have hbefore:=hb.1
 omega

/-- Ownership of a run is exclusive in time. After every sequence of calls: the intervals of the
leases granted for the run are disjoint and ordered like their epochs; a leased write or a
renewal that succeeds next presents the latest granted lease inside its interval; and a terminal
record stays as it is whatever follows. -/
theorem run_ownership_exclusive (calls : List Call) (runId : String) :
  ((grantedLeases runId (history InMemoryRunStore.step InMemoryRunStore.new calls)).Pairwise
   fun a b=>Disjoint a.interval b.interval∧a.expiresAtUnixMs≤b.acquiredAtUnixMs ∧
    (a.fencingEpoch<u64Limit-1→a.fencingEpoch<b.fencingEpoch)) ∧
  (∀lease∈grantedLeases runId (history InMemoryRunStore.step InMemoryRunStore.new calls),
   lease.interval.Nonempty) ∧
  (∀call response proof,call.presented=some (runId,proof) →
   ((execute InMemoryRunStore.step InMemoryRunStore.new calls).step call).1=.ok response →
   ∃lease,(grantedLeases runId
     (history InMemoryRunStore.step InMemoryRunStore.new calls)).getLast?=some lease ∧
    proof.owner=lease.owner∧proof.leaseId=lease.leaseId ∧
    proof.fencingEpoch=lease.fencingEpoch∧proof.nowUnixMs∈lease.interval) ∧
  (∀record following,
   (execute InMemoryRunStore.step InMemoryRunStore.new calls).runs[runId]?=some record →
   record.status.isTerminal=true →
   (execute InMemoryRunStore.step InMemoryRunStore.new (calls++following)).runs[runId]? =
    some record) := by
 have hledger:=leaseLedger_history runId calls
 refine ⟨?_,?_,?_,?_⟩
 · exact hledger.ordered.imp fun h=>⟨h.disjoint,h.ended,h.epoch_lt⟩
 · intro lease hlease
   exact Set.nonempty_Ico.mpr (hledger.intervals lease hlease)
 · intro call response proof hcall hok
   obtain ⟨lease,hstored,hpresents⟩:=presented_step hok hcall
   refine ⟨lease,hledger.latest.symm.trans hstored,hpresents.owner,hpresents.leaseId,
    hpresents.fencingEpoch,hpresents.started,hpresents.running⟩
 · intro record following hstored hterminal
   rw [execute_append]
   exact run_keeps_terminal hstored hterminal following

end GraphBlocks.RunStore
