import GraphBlocks.MachineRuns
import Mathlib.Logic.Relation

/-! `CancellationToken` of the runtime core. A call locks one token at a time, so calls of several
threads interleave between the locks: what a call has still to do is a task, and any task may be
the next to run. -/
namespace GraphBlocks.Cancellation
open MachineRuns List

section
variable {ρ:Type}

inductive Task (ρ:Type) where
 /-- A call of `cancel` before it locks the token. -/
 | cancel (token:ℕ) (reason:ρ)
 /-- A call of `child` that has pushed the new token but not read the reason of the parent. -/
 | inherit (parent token:ℕ)
deriving DecidableEq

/-- The token that a call holds on to. -/
def Task.token : Task ρ→ℕ
 | .cancel token _ | .inherit _ token=>token

/-- The tokens in the order of their creation, each with `Inner`, whether the program has a handle
to it, and its parent, which the code does not keep. -/
structure State (ρ:Type) where
 count:ℕ
 held:ℕ→Bool
 parent:ℕ→Option ℕ
 reason:ℕ→Option ρ
 children:ℕ→List ℕ
 tasks:List (Task ρ)

def start : State ρ := ⟨0,fun _=>false,fun _=>none,fun _=>none,fun _=>[],[]⟩

namespace State

/-- The strong count is positive. -/
def alive (s:State ρ) (token:ℕ) : Bool := s.held token||s.tasks.any fun task=>task.token==token

def new (s:State ρ) (parent:Option ℕ) : State ρ :=
 { s with
  count:=s.count+1
  held:=Function.update s.held s.count true
  parent:=Function.update s.parent s.count parent
  reason:=Function.update s.reason s.count none
  children:=Function.update s.children s.count [] }

/-- `child` up to the reading of the reason. -/
def child (s:State ρ) (parent:ℕ) : State ρ :=
 let s':=s.new (some parent)
 { s' with
  children:=Function.update s'.children parent (s'.children parent++[s.count])
  tasks:=.inherit parent s.count::s.tasks }

/-- `cancel`, but for the calls on the children. -/
def cancel (s:State ρ) (token:ℕ) (reason:ρ) : State ρ :=
 if s.reason token≠none then s
 else
  let children:=(s.children token).filter s.alive
  { s with
   reason:=Function.update s.reason token (some reason)
   children:=Function.update s.children token children
   tasks:=children.map (Task.cancel · reason)++s.tasks }

end State

inductive Call (ρ:Type) where
 | new
 | child (parent:ℕ)
 | cancel (token:ℕ) (reason:ρ)
 | drop (token:ℕ)
 | run (task:Task ρ)

/-- How tokens, children and tasks hang together. -/
structure Formed (s:State ρ) : Prop where
 held_lt:∀token,s.held token=true→token<s.count
 parent_lt:∀token parent,s.parent token=some parent→parent<s.count
 child_lt:∀token parent,s.parent token=some parent→token<s.count
 children:∀token parent,token∈s.children parent→s.parent token=some parent
 inherits:∀token parent,.inherit parent token∈s.tasks→s.parent token=some parent
 tasks_lt:∀token reason,.cancel token reason∈s.tasks→token<s.count
 reason_lt:∀token,s.reason token≠none→token<s.count

/-- A cancellation of the parent has reached the token or is on the way to it. -/
@[mk_iff] structure Reaches (s:State ρ) (parent token:ℕ) : Prop where
 before:s.reason parent=none→token∈s.children parent
 after:s.reason parent≠none→s.reason token≠none ∨
  (∃reason,.cancel token reason∈s.tasks)∨.inherit parent token∈s.tasks

/-- The living tokens are within reach of their parents. -/
def Linked (s:State ρ) : Prop :=
 ∀token parent,s.parent token=some parent→s.alive token=true→Reaches s parent token

/-- A call has cancelled the token, or one above it, for the reason. -/
def Requested (calls:List (Call ρ)) (s:State ρ) (token:ℕ) (reason:ρ) : Prop :=
 ∃ancestor,Relation.ReflTransGen (fun t p=>s.parent t=some p) token ancestor ∧
  .cancel ancestor reason∈calls

structure Sourced (calls:List (Call ρ)) (s:State ρ) : Prop where
 tasks:∀token reason,.cancel token reason∈s.tasks→Requested calls s token reason
 reasons:∀token reason,s.reason token=some reason→Requested calls s token reason

/-- The tokens to which a chain of handles leads down from a cancelled one are cancelled. -/
def Settled (s:State ρ) : Prop :=
 s.tasks=[]→∀token ancestor,
  Relation.ReflTransGen (fun t p=>s.held t=true∧s.parent t=some p) token ancestor →
  s.reason ancestor≠none→s.reason token≠none

variable {s:State ρ} {token parent:ℕ} {reason:ρ} {calls:List (Call ρ)} {call:Call ρ}

lemma alive_iff:s.alive token=true↔s.held token=true∨∃task∈s.tasks,task.token=token:=by
 simp [State.alive]

lemma Linked.new(hf:Formed s)(h:Linked s):Linked (s.new none):=by
 obtain ⟨_,_,_,_,_,_,_⟩:=hf
 simp only [Linked,alive_iff,reaches_iff,State.new,Function.update_apply] at h ⊢
 grind

lemma Linked.child(hf:Formed s)(h:Linked s)(hp:s.held parent=true):Linked (s.child parent):=by
 obtain ⟨_,_,_,_,_,_,_⟩:=hf
 simp only [Linked,alive_iff,reaches_iff,State.child,State.new,Function.update_apply,mem_cons,
  reduceCtorEq,false_or] at h ⊢
 grind [Task.token]

lemma Linked.called(h:Linked s)(hp:s.held token=true)(reason:ρ):
  Linked { s with tasks:=.cancel token reason::s.tasks }:=by
 simp only [Linked,alive_iff,reaches_iff,mem_cons,reduceCtorEq,false_or] at h ⊢
 grind [Task.token]

lemma Linked.drop(h:Linked s):Linked { s with held:=Function.update s.held token false }:=by
 simp only [Linked,alive_iff,reaches_iff,Function.update_apply] at h ⊢
 grind

lemma Requested.child(h:Requested calls s parent reason)(link:s.parent token=some parent):
  Requested calls s token reason:=by
 obtain ⟨ancestor,chain,hmem⟩:=h
 exact ⟨ancestor,.head link chain,hmem⟩

variable [DecidableEq ρ]

def run (s:State ρ) (task:Task ρ) : State ρ :=
 let after:=match task with
  | .inherit parent token=>
   { s with tasks:=(s.reason parent).toList.map (Task.cancel token)++s.tasks }
  | .cancel token reason=>s.cancel token reason
 { after with tasks:=after.tasks.erase task }

def step (s:State ρ) : Call ρ→Unit×State ρ
 | .new=>((),s.new none)
 | .child parent=>((),if s.held parent then s.child parent else s)
 | .cancel token reason=>
  ((),if s.held token then { s with tasks:=.cancel token reason::s.tasks } else s)
 | .drop token=>((),{ s with held:=Function.update s.held token false })
 | .run task=>((),if task∈s.tasks then run s task else s)

/-- What a call can do. -/
lemma step_rule{P:State ρ→Prop}(same:P s)(new:P (s.new none))
  (child:∀parent,s.held parent=true→P (s.child parent))
  (cancel:∀token reason,call=.cancel token reason→s.held token=true →
   P { s with tasks:=.cancel token reason::s.tasks })
  (drop:∀token,P { s with held:=Function.update s.held token false })
  (run:∀task∈s.tasks,P (run s task)):P (step s call).2:=by
 cases call with
 | new=>exact new
 | child parent=>
  by_cases hheld:s.held parent=true
  · simpa [step,hheld] using child parent hheld
  · simpa [step,hheld] using same
 | cancel token reason=>
  by_cases hheld:s.held token=true
  · simpa [step,hheld] using cancel token reason rfl hheld
  · simpa [step,hheld] using same
 | drop token=>exact drop token
 | run task=>
  by_cases hmem:task∈s.tasks
  · simpa [step,hmem] using run task hmem
  · simpa [step,hmem] using same

lemma Formed.run(h:Formed s){task:Task ρ}(hmem:task∈s.tasks):Formed (run s task):=by
 obtain ⟨_,_,_,_,_,_,_⟩:=h
 cases task with
 | inherit parent token=>constructor <;>simp only [Cancellation.run] <;>grind [mem_of_mem_erase]
 | cancel token reason=>
  by_cases hdone:s.reason token≠none
  · constructor <;>simp only [Cancellation.run,State.cancel,if_pos hdone] <;>
     grind [mem_of_mem_erase]
  · constructor <;>simp only [Cancellation.run,State.cancel,if_neg hdone] <;>
     grind [mem_of_mem_erase]

lemma run_parent(task:Task ρ):(run s task).parent=s.parent:=by
 cases task with
 | inherit parent token=>rfl
 | cancel token reason=>
  simp only [run,State.cancel]
  split <;>rfl

lemma Formed.step(h:Formed s)(call:Call ρ):Formed (step s call).2:=by
 apply step_rule h
 · obtain ⟨_,_,_,_,_,_,_⟩:=h
   constructor <;>simp only [State.new] <;>grind
 · intro parent hheld
   obtain ⟨_,_,_,_,_,_,_⟩:=h
   constructor <;>simp only [State.child,State.new] <;>grind
 · intro token reason _ hheld
   obtain ⟨_,_,_,_,_,_,_⟩:=h
   constructor <;>dsimp only <;>grind
 · intro token
   obtain ⟨_,_,_,_,_,_,_⟩:=h
   constructor <;>dsimp only <;>grind
 · exact fun task hmem=>h.run hmem

lemma Linked.inherit(h:Linked s)(hmem:.inherit parent token∈s.tasks):
  Linked (run s (.inherit parent token)):=by
 intro t p hp halive
 have halive:s.alive t=true:=by
  simp only [alive_iff,run] at halive ⊢
  grind [mem_of_mem_erase,Task.token]
 have hreach:=h t p hp halive
 simp only [reaches_iff,run] at hreach ⊢
 cases hreason:s.reason parent with
 | none=>grind
 | some reason=>
  have hcancel:.cancel token reason∈(.cancel token reason::s.tasks).erase (.inherit parent token):=by
   simp
  simp only [Option.toList_some,map_cons,map_nil,cons_append,nil_append]
  grind

lemma Linked.cancel(h:Linked s)(reason:ρ):Linked (run s (.cancel token reason)):=by
 intro t p hp halive
 rw [run_parent] at hp
 by_cases hdone:s.reason token≠none
 · simp only [run,State.cancel,if_pos hdone] at halive ⊢
   have halive:s.alive t=true:=by
    simp only [alive_iff] at halive ⊢
    grind [mem_of_mem_erase]
   have hreach:=h t p hp halive
   simp only [reaches_iff] at hreach ⊢
   grind
 · simp only [run,State.cancel,if_neg hdone] at halive ⊢
   have halive:s.alive t=true:=by
    simp only [alive_iff] at halive ⊢
    grind [mem_of_mem_erase,Task.token,alive_iff]
   have spread (ht:t≠token) (hchild:t∈s.children token):.cancel t reason∈
     (((s.children token).filter s.alive).map (Task.cancel · reason)++s.tasks).erase
      (.cancel token reason):=by
    rw [mem_erase_of_ne (by simpa using ht)]
    simp [hchild,halive]
   have hreach:=h t p hp halive
   simp only [reaches_iff,Function.update_apply] at hreach ⊢
   grind

lemma Linked.step(hf:Formed s)(h:Linked s)(call:Call ρ):Linked (step s call).2:=by
 apply step_rule h (h.new hf) (fun _=>h.child hf) (fun _ reason _ hheld=>h.called hheld reason)
  fun _=>h.drop
 rintro (⟨token,reason⟩|⟨parent,token⟩) hmem
 · exact h.cancel reason
 · exact h.inherit hmem

lemma parent_step(h:Formed s)(link:s.parent token=some parent):
  (step s call).2.parent token=some parent:=by
 have hlt:=h.child_lt _ _ link
 apply step_rule (P:=fun s'=>s'.parent token=some parent) link <;>
  simp only [State.child,State.new,run_parent] <;>grind

lemma run_reason(hreason:s.reason token=some reason)(task:Task ρ):
  (run s task).reason token=some reason:=by
 cases task with
 | inherit parent token=>exact hreason
 | cancel cancelled other=>
  simp only [run,State.cancel]
  split
  · exact hreason
  · next hopen=>
   have hne:token≠cancelled:=by
    rintro rfl
    simp [hreason] at hopen
   simpa [hne] using hreason

/-- The first reason stays. -/
lemma reason_step(h:Formed s)(hreason:s.reason token=some reason):
  (step s call).2.reason token=some reason:=by
 have hlt:=h.reason_lt token
 refine step_rule (P:=fun s'=>s'.reason token=some reason) hreason ?_ ?_ ?_ ?_
  (fun task _=>run_reason hreason task) <;>simp only [State.child,State.new] <;>grind

lemma Requested.step(hf:Formed s)(h:Requested calls s token reason):
  Requested (calls++[call]) (step s call).2 token reason:=by
 obtain ⟨ancestor,chain,hmem⟩:=h
 exact ⟨ancestor,Relation.ReflTransGen.mono (fun _ _=>parent_step hf) _ _ chain,mem_append_left _ hmem⟩

lemma Sourced.step(hf:Formed s)(h:Sourced calls s)(call:Call ρ):
  Sourced (calls++[call]) (step s call).2:=by
 have made:∀t r,.cancel t r∈(Cancellation.step s call).2.tasks ∨
   (Cancellation.step s call).2.reason t=some r→Requested calls s t r∨call=.cancel t r:=by
  have same:∀t r,.cancel t r∈s.tasks∨s.reason t=some r→Requested calls s t r∨call=.cancel t r:=
   fun t r hmade=>.inl (hmade.elim (h.tasks t r) (h.reasons t r))
  apply step_rule (P:=fun s'=>∀t r,.cancel t r∈s'.tasks∨s'.reason t=some r →
   Requested calls s t r∨call=.cancel t r) same
  · simp only [State.new]
    grind
  · simp only [State.child,State.new]
    grind
  · grind
  · exact fun _=>same
  · rintro (⟨token,reason⟩|⟨parent,token⟩) hmem t r
    · have hrequested:=h.tasks _ _ hmem
      have hchild (t:ℕ) (link:s.parent t=some token):=hrequested.child link
      have hchildren:=hf.children
      by_cases hdone:s.reason token≠none
      · simp only [run,State.cancel,if_pos hdone]
        grind [mem_of_mem_erase]
      · simp only [run,State.cancel,if_neg hdone]
        grind [mem_of_mem_erase]
    · have hchild (r:ρ) (hr:s.reason parent=some r):=
       (h.reasons parent r hr).child (hf.inherits _ _ hmem)
      simp only [run]
      grind [mem_of_mem_erase]
 have known:∀t r,Requested calls s t r∨call=.cancel t r →
   Requested (calls++[call]) (Cancellation.step s call).2 t r:=by
  rintro t r (h|rfl)
  · exact h.step hf
  · exact ⟨t,.refl,mem_append_right _ mem_cons_self⟩
 exact ⟨fun t r h=>known t r (made t r (.inl h)),fun t r h=>known t r (made t r (.inr h))⟩

/-- What holds after every run. -/
lemma run_sourced(calls:List (Call ρ)):Formed (execute step start calls) ∧
  Linked (execute step start calls)∧Sourced calls (execute step start calls):=by
 induction calls using List.reverseRecOn with
 | nil=>
  refine ⟨?_,?_,?_,?_⟩
  · constructor <;>simp [start]
  all_goals simp [start,Linked]
 | append_singleton calls call ih=>
  obtain ⟨hf,hlinked,hsourced⟩:=ih
  rw [execute_concat]
  exact ⟨hf.step call,hlinked.step hf call,hsourced.step hf call⟩

/-- In every interleaving a cancellation reaches the living tokens below and no others, and the
first reason of a token stays. -/
theorem cancellation_reaches_live_descendants (calls : List (Call ρ)) :
  Settled (execute step start calls) ∧
  (∀token reason,(execute step start calls).reason token=some reason →
   Requested calls (execute step start calls) token reason) ∧
  ∀before after token reason,calls=before++after →
   (execute step start before).reason token=some reason →
   (execute step start calls).reason token=some reason := by
 refine ⟨?_,(run_sourced calls).2.2.reasons,?_⟩
 · intro idle token ancestor chain cancelled
   induction chain using Relation.ReflTransGen.head_induction_on with
   | refl=>exact cancelled
   | head link _ ih=>
    have reached:=(run_sourced calls).2.1 _ _ link.2 (alive_iff.mpr (.inl link.1))
    rcases reached.after ih with hreason|⟨_,hmem⟩|hmem
    · exact hreason
    · rw [idle] at hmem
      cases hmem
    · rw [idle] at hmem
      cases hmem
 · rintro before after token reason rfl hreason
   induction after using List.reverseRecOn with
   | nil=>rwa [append_nil]
   | append_singleton after call ih=>
    rw [←append_assoc,execute_concat]
    exact reason_step (run_sourced _).1 ih

end

end GraphBlocks.Cancellation
