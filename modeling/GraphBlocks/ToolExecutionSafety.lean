import GraphBlocks.SerdeInstance
import GraphBlocks.ToolExecutionAdmission

/-! Only `record_started` makes a call run. Every other operation ends calls, and ending calls
keeps the bounds on parallelism and on shared effect keys. -/
namespace GraphBlocks.ToolExecution
open Std Json CanonicalJson DependencyOrder MachineRuns OrderedMap List Option Std.ExtTreeMap

/-- The states that no call leaves. -/
def ToolExecutionState.isTerminal (state:ToolExecutionState) : Bool :=
 state == .completed||state.isBlocking

variable {state:ToolExecutionState}

lemma isTerminal_of_isBlocking(h:state.isBlocking=true):state.isTerminal=true:=by
 simp [ToolExecutionState.isTerminal,h]

def Ended (before after:Option ToolExecutionState) : Prop :=
 after=before∨(before=some .pending ∧ ∃state,after=some state∧state.isBlocking=true) ∨
  (before=some .running ∧ ∃state,after=some state∧state.isTerminal=true)

def EndsCalls (before after:States) : Prop := ∀id : String,Ended before[id]? after[id]?

lemma EndsCalls.refl(states:States):EndsCalls states states:=fun _=>.inl rfl

section
variable {before middle after:Option ToolExecutionState}

lemma Ended.terminal(h:Ended before after)(hbefore:before=some state)
  (hterminal:state.isTerminal=true):after=some state:=by
 rcases h with hsame|⟨hpending,_⟩|⟨hrunning,_⟩
 · exact hsame.trans hbefore
 · rw [hbefore] at hpending
   cases hpending
   cases hterminal
 · rw [hbefore] at hrunning
   cases hrunning
   cases hterminal

lemma Ended.live(h:Ended before after)(hafter:after=some state)
  (hlive:state.isTerminal=false):before=some state:=by
 rcases h with hsame|⟨_,other,hother,hblocking⟩|⟨_,other,hother,hterminal⟩
 · exact hsame.symm.trans hafter
 · rw [hafter] at hother
   cases hother
   rw [isTerminal_of_isBlocking hblocking] at hlive
   cases hlive
 · rw [hafter] at hother
   cases hother
   rw [hterminal] at hlive
   cases hlive

lemma Ended.isSome(h:Ended before after):after.isSome=before.isSome:=by
 rcases h with hsame|⟨hbefore,_,hafter,_⟩|⟨hbefore,_,hafter,_⟩
 · rw [hsame]
 · simp [hbefore,hafter]
 · simp [hbefore,hafter]

lemma Ended.completed(h:Ended before after)(hafter:after=some .completed):
  before=some .running∨before=some .completed:=by
 rcases h with hsame|⟨_,state,hstate,hblocking⟩|⟨hrunning,_⟩
 · exact .inr (hsame.symm.trans hafter)
 · rw [hafter] at hstate
   cases hstate
   cases hblocking
 · exact .inl hrunning

lemma Ended.trans(h:Ended before middle)(h':Ended middle after):Ended before after:=by
 rcases h' with hsame|⟨hpending,hafter⟩|⟨hrunning,hafter⟩
 · rw [hsame]
   exact h
 · exact .inr (.inl ⟨h.live hpending rfl,hafter⟩)
 · exact .inr (.inr ⟨h.live hrunning rfl,hafter⟩)
end

lemma EndsCalls.trans{before middle after:States}(h:EndsCalls before middle)
  (h':EndsCalls middle after):EndsCalls before after:=fun id=>(h id).trans (h' id)

variable {states:States} {id:String}

lemma endsCalls_insert(h:Ended states[id]? (some state)):
  EndsCalls states (states.insert id state):=by
 intro j
 rw [lookup_insert]
 split
 · next hj=>exact hj▸h
 · exact .inl rfl

lemma lookup_insertAll(states:States)(ids:List String)(state:ToolExecutionState)(id:String):
  (insertAll states ids state)[id]?=if id∈ids then some state else states[id]?:=by
 induction ids generalizing states with
 | nil=>rfl
 | cons first ids ih=>
  rw [insertAll,foldl_cons,←insertAll,ih,lookup_insert]
  by_cases hid:id∈ids
  · simp [hid]
  · simp [hid,eq_comm]

lemma endsCalls_insertAll{ids:List String}(hpending:∀id∈ids,states[id]?=some .pending)
  (hblocking:state.isBlocking=true):EndsCalls states (insertAll states ids state):=by
 intro id
 rw [lookup_insertAll]
 split
 · next hid=>exact .inr (.inl ⟨hpending id hid,state,rfl,hblocking⟩)
 · exact .inl rfl

lemma mem_blockedIds{calls:Calls}:id∈blockedIds calls states↔states[id]?=some .pending ∧
   ∃planned,calls[id]?=some planned∧isBlocked states planned=true:=by
 rw [blockedIds,List.mem_map]
 constructor
 · rintro ⟨⟨key,planned⟩,he,rfl⟩
   obtain ⟨hmem,hblocked⟩:=List.mem_filter.mp he
   rw [Bool.and_eq_true,beq_iff_eq] at hblocked
   exact ⟨hblocked.1,planned,mem_toList_iff_getElem?_eq_some.mp hmem,hblocked.2⟩
 · rintro ⟨hpending,planned,hcall,hblocked⟩
   refine ⟨(id,planned),List.mem_filter.mpr ⟨?_,?_⟩,rfl⟩
   · exact mem_toList_iff_getElem?_eq_some.mpr hcall
   · simp [hpending,hblocked]

variable {blockedState:ToolExecutionState}

lemma endsCalls_markLoop{calls:Calls}(hblocking:blockedState.isBlocking=true)(rounds:ℕ)
  (states:States):EndsCalls states (markLoop calls blockedState rounds states):=by
 induction rounds generalizing states with
 | zero=>exact EndsCalls.refl states
 | succ rounds ih=>
  rw [markLoop]
  split
  · exact EndsCalls.refl states
  · next blocked _=>
    have hround:EndsCalls states (insertAll states (blockedIds calls states) blockedState):=
     endsCalls_insertAll (fun id hid=>(mem_blockedIds.mp hid).1) hblocking
    exact hround.trans (ih _)

lemma endsCalls_map{f:String→ToolExecutionState→ToolExecutionState}
  (h:∀id state,states[id]?=some state→Ended (some state) (some (f id state))):
  EndsCalls states (states.map f):=by
 intro id
 rw [ExtTreeMap.getElem?_map]
 cases hid:states[id]? with
 | none=>exact .inl rfl
 | some state=>exact h id state hid

variable {after p:ToolExecutionPlan}

section
variable {p:ToolExecutionPlan}

/-- The operation keeps the calls and the limit of the plan, and it only ends calls. -/
structure Ends (p after:ToolExecutionPlan) : Prop where
 calls:after.calls=p.calls
 maximum:after.maximumParallelism=p.maximumParallelism
 states:EndsCalls p.states after.states

lemma Ends.refl(p:ToolExecutionPlan):Ends p p:=⟨rfl,rfl,EndsCalls.refl _⟩

lemma Ends.trans{middle:ToolExecutionPlan}(h:Ends p middle)(h':Ends middle after):Ends p after:=
 ⟨h'.calls.trans h.calls,h'.maximum.trans h.maximum,h.states.trans h'.states⟩

lemma ends_markBlockedDependents
  (h:blockedState.isBlocking=true):Ends p (markBlockedDependents p blockedState):=
 ⟨rfl,rfl,endsCalls_markLoop h _ _⟩

lemma ends_rewriteStates{condition:ToolExecutionState→Bool}
  (h:∀state,condition state=true→state=.pending∨state=.running):
  Ends p (rewriteStates p condition .cancelled):=by
 refine ⟨rfl,rfl,endsCalls_map ?_⟩
 intro id state _
 split
 · next hcondition=>
   rcases h state hcondition with rfl|rfl
   · exact .inr (.inl ⟨rfl,.cancelled,rfl,rfl⟩)
   · exact .inr (.inr ⟨rfl,.cancelled,rfl,rfl⟩)
 · exact .inl rfl

lemma ends_afterFailure:Ends p (afterFailure p):=by
 have hmarked:Ends p (markBlockedDependents p .skipped):=ends_markBlockedDependents rfl
 simp only [afterFailure]
 split
 · refine hmarked.trans (ends_rewriteStates ?_)
   intro state hstate
   exact .inl (by simpa using hstate)
 · exact hmarked

lemma ends_afterCancellation:Ends p (afterCancellation p):=by
 rw [afterCancellation]
 split
 · exact ends_markBlockedDependents rfl
 · apply ends_rewriteStates
   intro state hstate
   simpa using hstate
 · exact ends_markBlockedDependents rfl

lemma ends_applyPolicyStop(pendingToolCalls:PendingToolCallsDisposition):
  Ends p (applyPolicyStop p pendingToolCalls).2:=by
 refine ⟨rfl,rfl,endsCalls_map ?_⟩
 intro id state _
 cases pendingToolCalls with
 | keep=>exact .inl rfl
 | deny=>
  simp only [stoppedState]
  split
  · next hpending=>exact .inr (.inl ⟨by rw [hpending],.denied,rfl,rfl⟩)
  · exact .inl rfl
 | cancelAdmitted=>
  simp only [stoppedState]
  split_ifs with hrunning hcancel hpending
  · exact .inr (.inr ⟨by rw [hrunning],.cancelled,rfl,rfl⟩)
  · exact .inl rfl
  · exact .inr (.inl ⟨by rw [hpending],.denied,rfl,rfl⟩)
  · exact .inl rfl

/-- An operation that either fails and keeps the plan, or only ends calls. -/
def EndsOrFails (p:ToolExecutionPlan)
  (out:Except ToolExecutionPlanError Unit×ToolExecutionPlan) : Prop :=
 (∃e,out=(.error e,p))∨(out.1=.ok ()∧Ends p out.2)

lemma enterTerminal_ends(h:state.isTerminal=true):EndsOrFails p (enterTerminal p id state):=by
 rw [enterTerminal]
 split
 · exact .inl ⟨_,rfl⟩
 · next current hcurrent=>
   split
   · exact .inl ⟨_,rfl⟩
   · next hrunning=>
     refine .inr ⟨rfl,rfl,rfl,endsCalls_insert (.inr (.inr ⟨?_,state,rfl,h⟩))⟩
     rw [hcurrent,not_not.mp hrunning]

lemma enterPendingTerminal_ends(h:state.isBlocking=true):
  EndsOrFails p (enterPendingTerminal p id state):=by
 rw [enterPendingTerminal]
 split
 · exact .inl ⟨_,rfl⟩
 · next current hcurrent=>
   split
   · exact .inl ⟨_,rfl⟩
   · next hpending=>
     refine .inr ⟨rfl,rfl,rfl,endsCalls_insert (.inr (.inl ⟨?_,state,rfl,h⟩))⟩
     rw [hcurrent,not_not.mp hpending]

lemma EndsOrFails.andThen{out:Except ToolExecutionPlanError Unit×ToolExecutionPlan}
  {rewrite:ToolExecutionPlan→ToolExecutionPlan}(h:EndsOrFails p out)
  (hrewrite:∀p,Ends p (rewrite p)):EndsOrFails p (andThen out rewrite):=by
 rcases h with ⟨e,rfl⟩|⟨hok,hends⟩
 · exact .inl ⟨e,rfl⟩
 · obtain ⟨result,middle⟩:=out
   cases hok
   exact .inr ⟨rfl,hends.trans (hrewrite middle)⟩

/-- The guards of `record_started`. -/
structure Startable (p:ToolExecutionPlan) (id:String) (planned:ToolPlanCall) : Prop where
 call:p.calls[id]?=some planned
 pending:p.states[id]?=some .pending
 dependencies:dependenciesCompleted p planned.call=true
 slot:runningCount p<p.maximumParallelism
 free:∀key,planned.effectKey=some key→key∉runningEffectKeys p

lemma recordStarted_cases(p:ToolExecutionPlan)(id:String):
  (∃e,recordStarted p id=(.error e,p)) ∨ ∃planned,Startable p id planned ∧
    recordStarted p id=(.ok (),withState p id .running):=by
 rw [recordStarted]
 split
 · exact .inl ⟨_,rfl⟩
 · next current hcurrent=>
   split
   · exact .inl ⟨_,rfl⟩
   · next hpending=>
     split
     · exact .inl ⟨_,rfl⟩
     · next planned hcall=>
       split
       · exact .inl ⟨_,rfl⟩
       · next hdeps=>
         split
         · exact .inl ⟨_,rfl⟩
         · next hslot=>
           split
           · exact .inl ⟨_,rfl⟩
           · next hfree=>
             refine .inr ⟨planned,⟨hcall,?_,by simpa using hdeps,by omega,?_⟩,rfl⟩
             · rw [hcurrent,not_not.mp hpending]
             · intro key hkey
               simpa [hkey] using hfree

lemma recordStarted_ok{planned:ToolPlanCall}(h:Startable p id planned):
  recordStarted p id=(.ok (),withState p id .running):=by
 have hfree:planned.effectKey.filter (runningEffectKeys p).contains=none:=by
  cases hkey:planned.effectKey with
  | none=>rfl
  | some key=>simpa using h.free key hkey
 have hslot:=h.slot
 simp only [recordStarted,h.pending,h.call,h.dependencies,hfree]
 simp [hslot]

lemma planStep_cases(p:ToolExecutionPlan)(call:PlanCall):(∃e,planStep p call=(.error e,p)) ∨
   (∃id planned,call=.recordStarted id∧Startable p id planned ∧
    planStep p call=(.ok .done,withState p id .running)) ∨
   ((∃answer,(planStep p call).1=.ok answer)∧Ends p (planStep p call).2):=by
 have hends:∀{out:Except ToolExecutionPlanError Unit×ToolExecutionPlan},
   EndsOrFails p out→(∃e,answered out=(.error e,p)) ∨
    ((∃answer,(answered out).1=.ok answer)∧Ends p (answered out).2):=by
  rintro ⟨result,after⟩ (⟨e,h⟩|⟨hok,hends⟩)
  · cases h
    exact .inl ⟨e,rfl⟩
  · cases hok
    exact .inr ⟨⟨.done,rfl⟩,hends⟩
 have hlift:∀{out:Except ToolExecutionPlanError PlanAnswer×ToolExecutionPlan},
   ((∃e,out=(.error e,p))∨((∃answer,out.1=.ok answer)∧Ends p out.2)) →
   (∃e,out=(.error e,p))∨(∃id planned,call=.recordStarted id∧Startable p id planned ∧
     out=(.ok .done,withState p id .running)) ∨
    ((∃answer,out.1=.ok answer)∧Ends p out.2):=by
  rintro out (h|h)
  · exact .inl h
  · exact .inr (.inr h)
 cases call with
 | recordStarted id=>
  simp only [planStep]
  rcases recordStarted_cases p id with ⟨e,h⟩|⟨planned,hstart,h⟩
  · rw [h]
    exact .inl ⟨e,rfl⟩
  · rw [h]
    exact .inr (.inl ⟨id,planned,rfl,hstart,rfl⟩)
 | recordCompleted id=>exact hlift (hends (enterTerminal_ends rfl))
 | recordFailed id=>exact hlift (hends ((enterTerminal_ends rfl).andThen fun _=>ends_afterFailure))
 | recordDenied id=>
  exact hlift (hends ((enterPendingTerminal_ends rfl).andThen
   fun _=>ends_markBlockedDependents rfl))
 | recordExpired id=>
  exact hlift (hends ((enterPendingTerminal_ends rfl).andThen
   fun _=>ends_markBlockedDependents rfl))
 | recordCancelled id=>
  exact hlift (hends ((enterTerminal_ends rfl).andThen fun _=>ends_afterCancellation))
 | recordPolicyStopped id=>
  exact hlift (hends ((enterTerminal_ends rfl).andThen
   fun _=>ends_markBlockedDependents rfl))
 | applyPolicyStop pendingToolCalls=>
  exact .inr (.inr ⟨⟨_,rfl⟩,ends_applyPolicyStop pendingToolCalls⟩)
 | withFailurePolicy policy=>exact .inr (.inr ⟨⟨_,rfl⟩,rfl,rfl,EndsCalls.refl _⟩)
 | withCancellationPolicy policy=>exact .inr (.inr ⟨⟨_,rfl⟩,rfl,rfl,EndsCalls.refl _⟩)
end

def idsWith (states:States) (state:ToolExecutionState) : List String :=
 (states.toList.filter fun e=>e.2==state).map Prod.fst

lemma mem_idsWith:id∈idsWith states state↔states[id]?=some state:=by
 rw [idsWith,List.mem_map]
 constructor
 · rintro ⟨⟨key,found⟩,he,rfl⟩
   obtain ⟨hmem,hfound⟩:=List.mem_filter.mp he
   obtain rfl:=beq_iff_eq.mp hfound
   exact mem_toList_iff_getElem?_eq_some.mp hmem
 · intro h
   refine ⟨(id,state),List.mem_filter.mpr ⟨?_,?_⟩,rfl⟩
   · exact mem_toList_iff_getElem?_eq_some.mpr h
   · exact beq_self_eq_true state

lemma nodup_idsWith(states:States)(state:ToolExecutionState):(idsWith states state).Nodup:=
 (nodup_keys_toList states).sublist (filter_sublist.map Prod.fst)

lemma mem_runningIds:id∈runningIds states↔states[id]?=some .running:=mem_idsWith

lemma nodup_runningIds(states:States):(runningIds states).Nodup:=nodup_idsWith states _

lemma length_runningIds(p:ToolExecutionPlan):(runningIds p.states).length=runningCount p:=by
 rw [runningIds,length_map]
 rfl

lemma mem_runningEffectKeys{key:String}:key∈runningEffectKeys p ↔
   ∃id,p.states[id]?=some .running∧effectKeyOf p.calls id=some key:=by
 rw [runningEffectKeys,List.mem_filterMap]
 simp only [mem_runningIds]
 rfl

structure Safe (p:ToolExecutionPlan) : Prop where
 sound:Sound p.calls p.maximumParallelism
 keys:∀id : String,p.states[id]?.isSome=p.calls[id]?.isSome
 bounded:runningCount p≤p.maximumParallelism
 exclusive:∀(a b:String) key,a≠b→p.states[a]?=some .running →
  p.states[b]?=some .running→effectKeyOf p.calls a=some key→effectKeyOf p.calls b≠some key
 settled:∀id : String,p.states[id]?=some .running∨p.states[id]?=some .completed →
  ∀d∈dependencies p.calls id,p.states[d]?=some .completed

lemma Safe.ends(h:Safe p)(hends:Ends p after):Safe after:=by
 have hrunning:∀id:String,after.states[id]?=some .running →
   p.states[id]?=some .running:=fun id hid=>(hends.states id).live hid rfl
 constructor
 · rw [hends.calls,hends.maximum]
   exact h.sound
 · intro id
   rw [(hends.states id).isSome,hends.calls,h.keys id]
 · have hsubset:runningIds after.states ⊆ runningIds p.states:=by
    intro id hid
    exact mem_runningIds.mpr (hrunning id (mem_runningIds.mp hid))
   have hle:=(subperm_of_subset (nodup_runningIds after.states) hsubset).length_le
   rw [length_runningIds,length_runningIds] at hle
   rw [hends.maximum]
   exact hle.trans h.bounded
 · intro a b key hne ha hb hkey
   rw [hends.calls] at hkey ⊢
   exact h.exclusive a b key hne (hrunning a ha) (hrunning b hb) hkey
 · intro id hid d hd
   have hbefore:p.states[id]?=some .running∨p.states[id]?=some .completed:=by
    rcases hid with hid|hid
    · exact .inl (hrunning id hid)
    · exact (hends.states id).completed hid
   rw [hends.calls] at hd
   exact (hends.states d).terminal (h.settled id hbefore d hd) rfl

variable {planned:ToolPlanCall}

lemma Startable.completed(h:Startable p id planned){d:String}
  (hd:d∈planned.call.dependsOn):p.states[d]?=some .completed:=by
 have hall:=List.all_eq_true.mp h.dependencies d hd
 simpa using hall

lemma running_started{j:String}:
  (withState p id .running).states[j]?=some .running↔j=id∨p.states[j]?=some .running:=by
 simp only [withState,lookup_insert]
 by_cases hj:id=j
 · simp [hj]
 · simp [hj,Ne.symm hj]

lemma completed_started(h:Startable p id planned){j:String}:
  (withState p id .running).states[j]?=some .completed↔p.states[j]?=some .completed:=by
 simp only [withState,lookup_insert]
 by_cases hj:id=j
 · subst hj
   simp [h.pending]
 · simp [hj]

lemma runningCount_started_le(p:ToolExecutionPlan)(id:String):
  runningCount (withState p id .running)≤runningCount p+1:=by
 have hsubset:runningIds (withState p id .running).states ⊆ id::runningIds p.states:=by
  intro j hj
  rcases running_started.mp (mem_runningIds.mp hj) with rfl|hj
  · exact mem_cons_self
  · exact mem_cons_of_mem _ (mem_runningIds.mpr hj)
 have hle:=(subperm_of_subset (nodup_runningIds _) hsubset).length_le
 rw [length_cons,length_runningIds,length_runningIds] at hle
 exact hle

lemma Safe.start(h:Safe p)(hstart:Startable p id planned):Safe (withState p id .running):=by
 constructor
 · exact h.sound
 · intro j
   simp only [withState,lookup_insert]
   by_cases hj:id=j
   · subst hj
     simp [hstart.call]
   · simp [hj,h.keys j]
 · have hcount:=runningCount_started_le p id
   have hslot:=hstart.slot
   change runningCount (withState p id .running)≤p.maximumParallelism
   omega
 · intro a b key hne ha hb hakey hbkey
   have hown:∀{j key},p.states[j]?=some .running→effectKeyOf p.calls j=some key →
     effectKeyOf p.calls id≠some key:=by
    intro j key hj hjkey hidkey
    refine hstart.free key ?_ (mem_runningEffectKeys.mpr ⟨j,hj,hjkey⟩)
    simpa [effectKeyOf,hstart.call] using hidkey
   rw [running_started] at ha hb
   rcases ha with rfl|ha
   · rcases hb with rfl|hb
     · exact hne rfl
     · exact hown hb hbkey hakey
   · rcases hb with rfl|hb
     · exact hown ha hakey hbkey
     · exact h.exclusive a b key hne ha hb hakey hbkey
 · intro j hj d hd
   rw [completed_started hstart]
   rw [running_started,completed_started hstart] at hj
   rcases hj with (rfl|hj)|hj
   · apply hstart.completed
     rw [←dependencies_of_call hstart.call]
     exact hd
   · exact h.settled j (.inl hj) d hd
   · exact h.settled j (.inr hj) d hd

lemma Safe.step(h:Safe p)(call:PlanCall):Safe (planStep p call).2:=by
 rcases planStep_cases p call with ⟨e,hfail⟩|⟨id,planned,_,hstart,hok⟩|⟨_,hends⟩
 · rw [hfail]
   exact h
 · rw [hok]
   exact h.start hstart
 · exact h.ends hends

variable {d:StringDisplay} {sha256:List Char→String} {planId responseId:String}
 {calls:List ToolPlanCall} {maximumParallelism:ℕ} {plan:ToolExecutionPlan}

lemma new_pending
  (h:ToolExecutionPlan.new d sha256 planId responseId calls maximumParallelism=.ok plan)
  (hstate:plan.states[id]?=some state):state=.pending:=by
 rw [(new_ok h).2.2 id] at hstate
 obtain ⟨_,_,rfl⟩:=map_eq_some_iff.mp hstate
 rfl

lemma safe_new
  (h:ToolExecutionPlan.new d sha256 planId responseId calls maximumParallelism=.ok plan):
  Safe plan:=by
 obtain ⟨_,hsound,hpending⟩:=new_ok h
 have hidle:∀id:String,plan.states[id]?≠some .running:=by
  intro id hid
  cases new_pending h hid
 constructor
 · exact hsound
 · intro id
   rw [hpending id,isSome_map]
 · have hnone:runningIds plan.states=[]:=by
    apply eq_nil_iff_forall_not_mem.mpr
    intro id hid
    exact hidle id (mem_runningIds.mp hid)
   rw [←length_runningIds,hnone]
   exact Nat.zero_le _
 · intro a _ _ _ ha
   exact absurd ha (hidle a)
 · rintro id (hid|hid)
   · exact absurd hid (hidle id)
   · cases new_pending h hid

section
variable {p:ToolExecutionPlan} (h:Safe p)
include h

variable {a b:String}

lemma Safe.settled_transitively(hdep:Dependent (dependencies p.calls) a b)
  (ha:p.states[a]?=some .running):p.states[b]?=some .completed:=by
 induction hdep with
 | single hd=>exact h.settled a (.inl ha) _ hd
 | tail _ hd ih=>exact h.settled _ (.inr ih) _ hd

lemma Safe.alone(hone:¬1<p.maximumParallelism)(ha:p.states[a]?=some .running)
  (hb:p.states[b]?=some .running):a=b:=by
 by_contra hne
 have hsubset:[a,b] ⊆ runningIds p.states:=by
  intro j hj
  rcases mem_cons.mp hj with rfl|hj
  · exact mem_runningIds.mpr ha
  · exact mem_runningIds.mpr (mem_singleton.mp hj▸hb)
 have hle:=(subperm_of_subset (by simp [hne]) hsubset).length_le
 have hbounded:=h.bounded
 rw [length_runningIds] at hle
 simp only [length_cons,length_nil] at hle
 omega

lemma Safe.keyed{left right:ToolPlanCall}(hne:a≠b)(ha:p.states[a]?=some .running)
  (hb:p.states[b]?=some .running)(hleft:p.calls[a]?=some left)(hright:p.calls[b]?=some right)
  (hchangeLeft:hasStateChangingToolEffects left.effects=true)
  (hchangeRight:hasStateChangingToolEffects right.effects=true):
  left.effectKey.isSome=true∧right.effectKey.isSome=true:=by
 by_cases hone:1<p.maximumParallelism
 · have hseparated:=h.sound.separated hone (a,left)
    (mem_toList_iff_getElem?_eq_some.mpr hleft) (b,right)
    (mem_toList_iff_getElem?_eq_some.mpr hright) (by simp [hne])
   rcases hseparated hchangeLeft hchangeRight with hdep|hdep|hkeys
   · have hdone:=h.settled_transitively hdep ha
     rw [hb] at hdone
     cases hdone
   · have hdone:=h.settled_transitively hdep hb
     rw [ha] at hdone
     cases hdone
   · exact ⟨hkeys.1,hkeys.2.1⟩
 · exact absurd (h.alone hone ha hb) hne
end

lemma planStep_terminal{call:PlanCall}(hstate:p.states[id]?=some state)
  (hterminal:state.isTerminal=true):(planStep p call).2.states[id]?=some state:=by
 rcases planStep_cases p call with ⟨e,hfail⟩|⟨started,planned,_,hstart,hok⟩|⟨_,hends⟩
 · rw [hfail]
   exact hstate
 · rw [hok]
   by_cases hid:started=id
   · subst hid
     rw [hstart.pending] at hstate
     cases hstate
     cases hterminal
   · exact (lookup_insert_ne _ _ hid).trans hstate
 · exact (hends.states id).terminal hstate hterminal

lemma planStep_error{call:PlanCall}{e:ToolExecutionPlanError}
  (h:(planStep p call).1=.error e):(planStep p call).2=p:=by
 rcases planStep_cases p call with ⟨e,hfail⟩|⟨id,planned,_,_,hok⟩|⟨⟨answer,hok⟩,_⟩
 · rw [hfail]
 · rw [hok] at h
   cases h
 · rw [hok] at h
   cases h

/-- What holds in every state of a run of a plan, for a limit on the calls that run. -/
structure SafelyScheduled (maximumParallelism:ℕ) (p:ToolExecutionPlan) : Prop where
 known:∀id : String,p.states[id]?.isSome=p.calls[id]?.isSome
 atMost:(runningIds p.states).length≤ maximumParallelism
 distinctKeys:∀(a b:String) (left right:ToolPlanCall),a≠b →
  p.states[a]?=some .running→p.states[b]?=some .running →
   p.calls[a]?=some left→p.calls[b]?=some right →
   ∀key,left.effectKey=some key → right.effectKey≠some key
 keyedEffects:∀(a b:String) (left right:ToolPlanCall),a≠b →
  p.states[a]?=some .running→p.states[b]?=some .running →
   p.calls[a]?=some left→p.calls[b]?=some right →
   hasStateChangingToolEffects left.effects=true→hasStateChangingToolEffects right.effects=true →
     left.effectKey.isSome=true∧right.effectKey.isSome=true
 completedDependencies:∀(id:String) (planned:ToolPlanCall),p.calls[id]?=some planned →
  p.states[id]?=some .running∨p.states[id]?=some .completed →
   ∀d∈planned.call.dependsOn,p.states[d]?=some .completed

lemma Safe.scheduled(h:Safe p):SafelyScheduled p.maximumParallelism p:=by
 constructor
 · exact h.keys
 · rw [length_runningIds]
   exact h.bounded
 · intro a b left right hne ha hb hleft hright key hkey hother
   refine h.exclusive a b key hne ha hb ?_ ?_
   · simp [effectKeyOf,hleft,hkey]
   · simp [effectKeyOf,hright,hother]
 · intro a b left right hne ha hb hleft hright hchangeLeft hchangeRight
   exact h.keyed hne ha hb hleft hright hchangeLeft hchangeRight
 · intro id planned hcall hid d hd
   rw [←dependencies_of_call hcall] at hd
   exact h.settled id hid d hd

lemma Ends.fixed(h:Ends p after):
  after.calls=p.calls∧after.maximumParallelism=p.maximumParallelism:=
 ⟨h.calls,h.maximum⟩

lemma planStep_fixed(p:ToolExecutionPlan)(call:PlanCall):(planStep p call).2.calls=p.calls ∧
   (planStep p call).2.maximumParallelism=p.maximumParallelism:=by
 rcases planStep_cases p call with ⟨e,hfail⟩|⟨id,planned,_,_,hok⟩|⟨_,hends⟩
 · rw [hfail]
   exact ⟨rfl,rfl⟩
 · rw [hok]
   exact ⟨rfl,rfl⟩
 · exact hends.fixed

lemma safe_run
  (h:ToolExecutionPlan.new d sha256 planId responseId calls maximumParallelism=.ok plan)
  (steps:List PlanCall):
  Safe (execute planStep plan steps) ∧
   (execute planStep plan steps).maximumParallelism=maximumParallelism:=by
 refine execute_invariant planStep
  (I:=fun p=>Safe p∧p.maximumParallelism=maximumParallelism)
  ⟨safe_new h,(new_ok h).1⟩ ?_ steps
 intro p call hp
 exact ⟨hp.1.step call,(planStep_fixed p call).2.trans hp.2⟩

/-- Whatever is recorded on an accepted plan, in any order and under any policies, the calls
that run are within the limit and separated, none leaves a terminal state, and an operation
that fails changes nothing. -/
theorem accepted_plans_run_safely (d : StringDisplay) (sha256 : List Char→String)
  (planId responseId : String) (calls : List ToolPlanCall) (maximumParallelism : ℕ)
  (plan : ToolExecutionPlan)
  (h : ToolExecutionPlan.new d sha256 planId responseId calls maximumParallelism=.ok plan)
  (steps : List PlanCall) :
  SafelyScheduled maximumParallelism (execute planStep plan steps) ∧
   ∀call,let p := execute planStep plan steps
    (∀(id:String) state,p.states[id]?=some state→state.isTerminal=true →
     (planStep p call).2.states[id]?=some state) ∧
    ∀e,(planStep p call).1=.error e→(planStep p call).2=p := by
 obtain ⟨hsafe,hmaximum⟩:=safe_run h steps
 refine ⟨?_,?_⟩
 · rw [←hmaximum]
   exact hsafe.scheduled
 · intro call p
   refine ⟨?_,?_⟩
   · intro id state hstate hterminal
     exact planStep_terminal hstate hterminal
   · intro e herror
     exact planStep_error herror

/-- SHA-256 of the text of the empty JSON object, the only text the calls below hash. -/
def emptyObjectSha256 (_:List Char) : String :=
 "44136fa355b3678a1146ad16f7e8649e94fb4fc21fe77e8310c060f61caaff8a"

def writeCall (id effectKey:String) (dependsOn:List String) : ToolPlanCall where
 call:={
  toolCallId:=id
  responseId := "response"
  resolvedToolId := "tool"
  name := "write"
  arguments:=.object []
  argumentsDigest := "sha256:44136fa355b3678a1146ad16f7e8649e94fb4fc21fe77e8310c060f61caaff8a"
  revision:=1
  status:=.admitted
  dependsOn
  createdAtUnixMs:=1
  admittedAtUnixMs:=some 2
  completedAtUnixMs:=none }
 effectKey:=some effectKey
 effects:={.externalWrite}
 cancellation:=.cooperative

def threeWrites : List ToolPlanCall :=
 [writeCall "first" "ledger" [],writeCall "second" "ledger" ["first"],writeCall "third" "mail" []]

lemma threeWrites_accepted:∃plan,
  ToolExecutionPlan.new serdeDisplay emptyObjectSha256 "plan" "response" threeWrites 2 =
   .ok plan:=by
 have hok:(ToolExecutionPlan.new serdeDisplay emptyObjectSha256 "plan" "response"
   threeWrites 2).isOk=true:=by decide +kernel
 cases hplan:ToolExecutionPlan.new serdeDisplay emptyObjectSha256 "plan" "response"
   threeWrites 2 with
 | error e=>
  rw [hplan] at hok
  cases hok
 | ok plan=>exact ⟨plan,rfl⟩

theorem threeWrites_run_safely : ∃plan,
  ToolExecutionPlan.new serdeDisplay emptyObjectSha256 "plan" "response" threeWrites 2 = .ok plan ∧
   SafelyScheduled 2 (execute planStep plan [.recordStarted "first",.recordStarted "third",
    .recordCompleted "first",.recordStarted "second"]) := by
 obtain ⟨plan,hplan⟩:=threeWrites_accepted
 exact ⟨plan,hplan,(accepted_plans_run_safely serdeDisplay emptyObjectSha256 "plan" "response"
  threeWrites 2 plan hplan _).1⟩

/-- The cycle check passes exactly the calls without a cycle, and names a call on or above one. -/
theorem cycle_check_exact (calls : Calls) (h : checkAllDependencies calls calls.toList=.ok ()) :
  (checkAcyclic calls=.ok ()↔∀id,¬Dependent (dependencies calls) id id) ∧
  (checkAcyclic calls=.ok ()→∀a b,dependsOn calls a b=true↔Dependent (dependencies calls) a b) ∧
  ∀id,checkAcyclic calls=.error (.dependencyCycle id) →
   ∃c,Relation.ReflTransGen (fun k d=>d∈dependencies calls k) id c ∧
    Dependent (dependencies calls) c c := by
 have sound (hok:checkAcyclic calls=.ok ()):Sound calls 1:=
  ⟨Nat.one_pos,checkAllDependencies_known h,checkAcyclic_ok hok,fun hlt=>absurd hlt (by decide)⟩
 have found:∀id,checkAcyclic calls=.error (.dependencyCycle id) →
   ∃c,Relation.ReflTransGen (fun k d=>d∈dependencies calls k) id c ∧
    Dependent (dependencies calls) c c:=by
  intro id herror
  have hwaits:=remaining_waits h
  rw [checkAcyclic] at herror
  split at herror
  · cases herror
  next waits rest hremaining=>
  cases herror
  rw [hremaining] at hwaits
  have hid:id∈((id,waits)::rest).map Prod.fst:=mem_cons_self
  refine cycle_of_stuck (fun k hk=>?_) hid
  obtain ⟨⟨k,waits⟩,he,rfl⟩:=List.mem_map.mp hk
  obtain ⟨d,hd⟩:=exists_mem_of_ne_nil waits fun hnil=>not_mem_nil (hwaits.queued _ he hnil)
  exact ⟨d,hwaits.blocked _ he d hd⟩
 refine ⟨⟨fun hok id hcycle=>?_,fun hacyclic=>?_⟩,fun hok=>dependsOn_iff (sound hok),found⟩
 · obtain ⟨rank,hrank,-⟩:=(sound hok).ranked
   have falls:∀b,Dependent (dependencies calls) id b → rank b<rank id:=by
    intro b hb
    induction hb with
    | single hd=>exact hrank _ _ hd
    | tail _ hd ih=>exact (hrank _ _ hd).trans ih
   exact (falls id hcycle).false
 · cases hcheck:checkAcyclic calls with
   | ok _=>rfl
   | error e=>
    obtain ⟨id,rfl⟩:∃id,e=.dependencyCycle id:=by
     unfold checkAcyclic at hcheck
     grind
    obtain ⟨c,-,hcycle⟩:=found id hcheck
    exact absurd hcycle (hacyclic c)

def mutualWrites : Calls :=
 .ofList [("first",writeCall "first" "ledger" ["second"]),("second",writeCall "second" "mail" ["first"])]

theorem mutual_writes_cycle : ∃c,Dependent (dependencies mutualWrites) c c :=
 ((cycle_check_exact mutualWrites rfl).2.2 "first" rfl).imp fun _=>And.right

end GraphBlocks.ToolExecution
