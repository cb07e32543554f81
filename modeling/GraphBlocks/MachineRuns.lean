import Mathlib.Data.List.Basic
import Mathlib.Tactic

namespace GraphBlocks.MachineRuns
open List

universe u v w

variable {σ:Type u} {ι:Type v} {ο:Type w}

/-- One transition of a run: the state before, the call, its response, the state after. -/
structure Transition (σ:Type u) (ι:Type v) (ο:Type w) where
 before:σ
 call:ι
 response:ο
 after:σ

variable (step:σ→ι→ο×σ)

def takeStep (s:σ) (i:ι) : Transition σ ι ο := ⟨s,i,(step s i).1,(step s i).2⟩

def execute (s:σ) (calls:List ι) : σ := calls.foldl (fun t i=>(step t i).2) s

def history (s:σ) : List ι→List (Transition σ ι ο)
 | []=>[]
 | i::calls=>takeStep step s i::history (step s i).2 calls

@[simp] lemma execute_nil(s:σ):execute step s []=s:=rfl

@[simp] lemma execute_cons(s:σ)(i:ι)(calls:List ι):
  execute step s (i::calls)=execute step (step s i).2 calls:=rfl

lemma execute_append(s:σ)(xs ys:List ι):
  execute step s (xs++ys)=execute step (execute step s xs) ys:=by
 simp [execute]

lemma execute_concat(s:σ)(calls:List ι)(i:ι):
  execute step s (calls++[i])=(step (execute step s calls) i).2:=by
 simp [execute]

lemma history_append(s:σ)(xs ys:List ι):
  history step s (xs++ys)=history step s xs++history step (execute step s xs) ys:=by
 induction xs generalizing s with
 | nil=>rfl
 | cons i xs ih=>simp [history,ih]

lemma history_concat(s:σ)(calls:List ι)(i:ι):history step s (calls++[i]) =
   history step s calls++[takeStep step (execute step s calls) i]:=by
 rw [history_append]
 rfl

lemma execute_invariant{I:σ→Prop}{s:σ}(start:I s)
  (keep:∀t i,I t→I (step t i).2)(calls:List ι):I (execute step s calls):=by
 induction calls generalizing s with
 | nil=>exact start
 | cons i calls ih=>exact ih (keep s i start)

variable {P:List (Transition σ ι ο)→σ→Prop}

lemma history_invariant{s:σ}(start:P [] s)
  (keep:∀past t i,P past t→P (past++[takeStep step t i]) (step t i).2)
  (calls:List ι):P (history step s calls) (execute step s calls):=by
 induction calls using List.reverseRecOn with
 | nil=>exact start
 | append_singleton calls i ih=>
  rw [history_concat,execute_concat]
  exact keep _ _ _ ih

lemma history_calls(s:σ)(calls:List ι):(history step s calls).map Transition.call=calls:=by
 induction calls generalizing s with
 | nil=>rfl
 | cons i calls ih=>simp [history,takeStep,ih]

/-- As `history_invariant`, for runs whose calls all satisfy a guard that may look at the past. -/
lemma history_invariant_of{G:List (Transition σ ι ο)→ι→Prop}{s:σ}(start:P [] s)
  (keep:∀past t i,G past i→P past t→P (past++[takeStep step t i]) (step t i).2)
  (calls:List ι)(guarded:∀before i after,calls=before++i::after →
   G (history step s before) i):P (history step s calls) (execute step s calls):=by
 induction calls using List.reverseRecOn with
 | nil=>exact start
 | append_singleton calls i ih=>
  rw [history_concat,execute_concat]
  apply keep _ _ _ (guarded calls i [] rfl)
  apply ih
  intro before j after h
  exact guarded before j (after++[i]) (by simp [h])

lemma mem_history{s:σ}{calls:List ι}{t:Transition σ ι ο}
  (h:t∈history step s calls):∃before i after,calls=before++i::after ∧
   t=takeStep step (execute step s before) i:=by
 induction calls generalizing s with
 | nil=>simp [history] at h
 | cons i calls ih=>
  rcases mem_cons.mp h with rfl|h
  · exact ⟨[],i,calls,rfl,rfl⟩
  · obtain ⟨before,j,after,rfl,rfl⟩:=ih h
    exact ⟨i::before,j,after,rfl,rfl⟩

lemma filterMap_concat{α:Type u}{β:Type v}(f:α→Option β)(l:List α)(a:α):
  (l++[a]).filterMap f=l.filterMap f++(f a).toList:=by
 rw [filterMap_append]
 cases h:f a <;>simp [h]

end GraphBlocks.MachineRuns
