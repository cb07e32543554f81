import GraphBlocks.DepthFirstSearch
import GraphBlocks.TaskPlans

namespace GraphBlocks.TaskPlans
open Std DepthFirstSearch OrderedMap RustStd Option Std.ExtTreeMap

lemma forM_ok{ε α:Type}{f:α→Except ε Unit}{l:List α}{u:Unit}:l.forM f=.ok u ↔ ∀a∈l,f a=.ok ():=by
 induction l with
 | nil=>simp [pure,Except.pure]
 | cons a l ih=>
  rw [List.forM_eq_forM,List.forM_cons,bind_ok,List.forall_mem_cons,←ih]
  exact ⟨fun ⟨_,ha,hl⟩=>⟨ha,hl⟩,fun ⟨ha,hl⟩=>⟨(),ha,hl⟩⟩

/-- The result is not the report of a cycle. -/
def NoCycle {α:Type} (x:Except TaskPlanError α) : Prop := ∀walk,x ≠ .error (.cycle walk)

section
variable {α β:Type}

lemma NoCycle.bind{x:Except TaskPlanError α}{f:α→Except TaskPlanError β}
  (hx:NoCycle x)(hf:∀a,NoCycle (f a)):NoCycle (x >>= f):=by
 cases x with
 | error e=>
  intro walk h
  exact hx walk (by cases h;rfl)
 | ok a=>exact hf a

lemma NoCycle.ensure{condition:Bool}{e:TaskPlanError}(he:∀walk,e ≠ .cycle walk):
  NoCycle (RustStd.ensure condition e):=by
 intro walk h
 cases condition with
 | true=>cases h
 | false=>exact he walk (Except.error.inj h)

lemma NoCycle.forM{f:α→Except TaskPlanError Unit}(hf:∀a,NoCycle (f a))(l:List α):
  NoCycle (l.forM f):=by
 induction l with
 | nil=>intro walk h;cases h
 | cons a l ih=>exact (hf a).bind fun _=>ih

lemma NoCycle.foldlM{f:β→α→Except TaskPlanError β}(hf:∀b a,NoCycle (f b a))
  (l:List α)(b:β):NoCycle (l.foldlM f b):=by
 induction l generalizing b with
 | nil=>intro walk h;cases h
 | cons a l ih=>exact (hf b a).bind fun _=>ih _
end

lemma validateIdentity_ok{entity field value:String}{u:Unit}:
  validateIdentity entity field value=.ok u↔isBlank value=false:=by
 rw [validateIdentity,ensure_ok,Bool.not_eq_true']

lemma noCycle_validateIdentity(entity field value:String):
  NoCycle (validateIdentity entity field value):=.ensure fun _ h=>by cases h

structure StepChecked (limits:TaskPlanLimits) (step:TaskStep) : Prop where
 identified:isBlank step.stepId=false
 described:isBlank step.description=false
 fewDependencies:step.dependsOn.length≤limits.maxDependenciesPerStep
 shortDescription:step.description.length≤limits.maxDescriptionChars
 dependenciesIdentified:∀d∈step.dependsOn,isBlank d=false

def entriesOf (steps:List TaskStep) : List (String×TaskStep) :=
 steps.map fun step=>(step.stepId,step)

variable {limits:TaskPlanLimits} {m m':StepsById} {steps:List TaskStep} {step:TaskStep}

lemma registerStep_ok:registerStep limits m step=.ok m' ↔
  StepChecked limits step∧m.contains step.stepId=false∧m.insert step.stepId step=m':=by
 simp only [registerStep,bind_ok,validateIdentity_ok,ensure_ok,Bool.not_eq_true',
  decide_eq_true_eq,forM_ok,pure,Except.pure,Except.ok.injEq]
 constructor
 · rintro ⟨-,h1,-,h2,-,h3,-,h4,-,h5,-,h6,h7⟩
   exact ⟨⟨h1,h2,h4,h5,h6⟩,h3,h7⟩
 · rintro ⟨⟨h1,h2,h4,h5,h6⟩,h3,h7⟩
   exact ⟨(),h1,(),h2,(),h3,(),h4,(),h5,(),h6,h7⟩

lemma noCycle_registerStep(m:StepsById)(step:TaskStep):NoCycle (registerStep limits m step):=by
 refine (noCycle_validateIdentity _ _ _).bind fun _=>
  (noCycle_validateIdentity _ _ _).bind fun _=>
  (NoCycle.ensure ?_).bind fun _=>(NoCycle.ensure ?_).bind fun _=>
  (NoCycle.ensure ?_).bind fun _=>(NoCycle.forM (fun _=>noCycle_validateIdentity _ _ _) _).bind
  fun _=>?_
 all_goals
  intro walk h
  cases h

lemma registerSteps_ok:steps.foldlM (registerStep limits) m=.ok m' ↔
  (∀step∈steps,StepChecked limits step)∧(steps.map TaskStep.stepId).Nodup ∧
   (∀step∈steps,m.contains step.stepId=false)∧m.insertMany (entriesOf steps)=m':=by
 induction steps generalizing m with
 | nil=>simp [entriesOf,pure,Except.pure]
 | cons step steps ih=>
  have hinsert:m.insertMany (entriesOf (step::steps)) =
    (m.insert step.stepId step).insertMany (entriesOf steps):=insertMany_cons
  have hfree:∀other:TaskStep,(m.insert step.stepId step).contains other.stepId=false ↔
    step.stepId≠other.stepId∧m.contains other.stepId=false:=by
   intro other
   rw [ExtTreeMap.contains_insert,Bool.or_eq_false_iff,beq_eq_false_iff_ne,ne_eq,
    Std.compare_eq_iff_eq]
  simp only [List.foldlM_cons,bind_ok,registerStep_ok,List.forall_mem_cons,List.map_cons,
   List.nodup_cons,hinsert]
  constructor
  · rintro ⟨_,⟨hchecked,hnew,rfl⟩,hrest⟩
    obtain ⟨hall,hnodup,hother,hm⟩:=ih.mp hrest
    refine ⟨⟨hchecked,hall⟩,⟨?_,hnodup⟩,⟨hnew,fun other hmem=>?_⟩,hm⟩
    · intro hmem
      obtain ⟨other,hmem,hid⟩:=List.mem_map.mp hmem
      exact ((hfree other).mp (hother other hmem)).1 hid.symm
    · exact ((hfree other).mp (hother other hmem)).2
  · rintro ⟨⟨hchecked,hall⟩,⟨hid,hnodup⟩,⟨hnew,hother⟩,hm⟩
    refine ⟨_,⟨hchecked,hnew,rfl⟩,ih.mpr ⟨hall,hnodup,fun other hmem=>?_,hm⟩⟩
    refine (hfree other).mpr ⟨?_,hother other hmem⟩
    intro heq
    exact hid (heq▸List.mem_map_of_mem hmem)

/-- What `normalized` checks before the search for cycles, of the plan it was given. -/
structure TaskPlan.Checked (plan:TaskPlan) : Prop where
 identified:isBlank plan.planId=false
 purposeful:isBlank plan.objective=false
 resources:∀r∈plan.contextResources,isBlank r=false
 fewSteps:plan.steps.length≤plan.limits.maxSteps
 steps:∀step∈plan.steps,StepChecked plan.limits step
 distinct:(plan.steps.map TaskStep.stepId).Nodup
 closed:∀step∈plan.steps,∀d∈step.dependsOn,d∈plan.steps.map TaskStep.stepId

variable {plan:TaskPlan} {id:String}

lemma stepsById_lookup(distinct:(plan.steps.map TaskStep.stepId).Nodup):
  plan.stepsById[id]?=some step↔step∈plan.steps∧step.stepId=id:=by
 rw [TaskPlan.stepsById,lookup_ofList_nodup (by simpa [Function.comp_def] using distinct),
  List.mem_map]
 constructor
 · rintro ⟨other,hmem,heq⟩
   cases heq
   exact ⟨hmem,rfl⟩
 · rintro ⟨hmem,rfl⟩
   exact ⟨step,hmem,rfl⟩

lemma stepsById_contains(distinct:(plan.steps.map TaskStep.stepId).Nodup):
  plan.stepsById.contains id=true↔id∈plan.steps.map TaskStep.stepId:=by
 simp only [contains_iff,stepsById_lookup distinct,List.mem_map]

lemma sorted_steps_perm(plan:TaskPlan):plan.sorted.steps.Perm plan.steps:=
 List.perm_insertionSort _ _

lemma indexSteps_ok:plan.indexSteps=.ok m↔plan.Checked∧plan.sorted.stepsById=m:=by
 have hperm:=sorted_steps_perm plan
 have hids:=hperm.map TaskStep.stepId
 have hindex:ExtTreeMap.insertMany (∅:StepsById) (entriesOf plan.sorted.steps) =
   plan.sorted.stepsById:=ofList_eq_insertMany_empty.symm
 simp only [TaskPlan.indexSteps,bind_ok,validateIdentity_ok,ensure_ok,decide_eq_true_eq,
  forM_ok,pure,Except.pure,Except.ok.injEq,registerSteps_ok,hindex,checkDependencies]
 constructor
 · rintro ⟨-,h1,-,h2,-,h3,-,h4,_,⟨h5,h6,-,rfl⟩,-,h7,rfl⟩
   refine ⟨⟨h1,h2,h3,hperm.length_eq▸h4,?_,hids.nodup_iff.mp h6,?_⟩,rfl⟩
   · exact fun step hstep=>h5 step (hperm.mem_iff.mpr hstep)
   · intro step hstep d hd
     exact hids.mem_iff.mp ((stepsById_contains h6).mp (h7 step (hperm.mem_iff.mpr hstep) d hd))
 · rintro ⟨h,rfl⟩
   have hdistinct:=hids.nodup_iff.mpr h.distinct
   refine ⟨(),h.identified,(),h.purposeful,(),h.resources,(),hperm.length_eq▸h.fewSteps,_,
    ⟨?_,hdistinct,by simp,rfl⟩,(),?_,rfl⟩
   · exact fun step hstep=>h.steps step (hperm.mem_iff.mp hstep)
   · intro step hstep d hd
     exact (stepsById_contains hdistinct).mpr
      (hids.mem_iff.mpr (h.closed step (hperm.mem_iff.mp hstep) d hd))

lemma noCycle_indexSteps(plan:TaskPlan):NoCycle plan.indexSteps:=by
 refine (noCycle_validateIdentity _ _ _).bind fun _=>
  (noCycle_validateIdentity _ _ _).bind fun _=>
  (NoCycle.forM (fun _=>noCycle_validateIdentity _ _ _) _).bind fun _=>
  (NoCycle.ensure ?_).bind fun _=>(NoCycle.foldlM noCycle_registerStep _ _).bind fun _=>
  (NoCycle.forM (fun _=>NoCycle.forM (fun _=>NoCycle.ensure ?_) _) _).bind fun _=>?_
 all_goals
  intro walk h
  cases h

def graphOf (m:StepsById) : Graph String where
 nodes:=m.keys
 next id:=m[id]?.map TaskStep.dependsOn
 mem_nodes:=by
  intro id successors h
  obtain ⟨step,hstep,-⟩:=map_eq_some_iff.mp h
  rw [ExtTreeMap.mem_keys,←ExtTreeMap.contains_iff_mem]
  exact (contains_iff _).mpr ⟨step,hstep⟩

/-- Every dependency is a step. -/
def ClosedIndex (m:StepsById) : Prop :=
 ∀(id:String) (step:TaskStep),m[id]?=some step → ∀d∈step.dependsOn,m.contains d=true

/-- The outcome of `visit_step` as that of the search it stands for. -/
def Follows (path:List String) :
  Except (Fault String) (List String)→Except TaskPlanError VisitState→Prop
 | .ok done, result=>result=.ok ⟨path.toFinset,done.toFinset,path⟩
 | .error (.cycle trail id), result=>result=.error (.cycle (trail.drop (trail.idxOf id)++[id]))
 | .error (.unknown _), _=>False

variable {path done ids:List String} {depth:ℕ}

lemma Follows.foldlM(h:∀done,∀id∈ids,Follows path ((graphOf m).visit path done id)
   (visitStep m depth ⟨path.toFinset,done.toFinset,path⟩ id)):
  Follows path ((graphOf m).visitAll path ids done)
   (ids.foldlM (visitStep m depth) ⟨path.toFinset,done.toFinset,path⟩):=by
 induction ids generalizing done with
 | nil=>rfl
 | cons id ids ih=>
  have hfirst:=h done id List.mem_cons_self
  rw [Graph.visitAll,List.foldlM_cons,List.foldlM_cons]
  generalize (graphOf m).visit path done id=first at hfirst ⊢
  cases first with
  | ok later=>
   rw [show visitStep m depth _ id=_ from hfirst]
   exact ih fun done other hother=>h done other (List.mem_cons_of_mem _ hother)
  | error fault=>
   cases fault with
   | unknown a=>exact hfirst.elim
   | cycle trail a=>
    rw [show visitStep m depth _ id=_ from hfirst]
    rfl

lemma visitStep_follows(closed:ClosedIndex m)(hdepth:(graphOf m).unseen path<depth)
  (hid:m.contains id=true):Follows path ((graphOf m).visit path done id)
   (visitStep m depth ⟨path.toFinset,done.toFinset,path⟩ id):=by
 induction depth generalizing path done id with
 | zero=>omega
 | succ depth ih=>
  rw [visitStep]
  by_cases hdone:id∈done
  · rw [Graph.visit_done hdone,if_pos (List.mem_toFinset.mpr hdone)]
    rfl
  rw [if_neg (by simpa using hdone)]
  by_cases hpath:id∈path
  · have hindex:path.idxOf? id=some (path.idxOf id):=
     List.idxOf?_eq_some_iff.mpr ⟨List.idxOf_lt_length_iff.mpr hpath,by simp,fun j hj=>by
      simpa using List.not_of_lt_findIdx hj⟩
    rw [Graph.visit_cycle hdone hpath,if_pos (List.mem_toFinset.mpr hpath)]
    simp only [hindex]
    rfl
  obtain ⟨step,hstep⟩:=(contains_iff _).mp hid
  have hnext:(graphOf m).next id=some step.dependsOn:=by simp [graphOf,hstep]
  have hlower:=(graphOf m).unseen_lt hpath hnext
  have hstate:insert id path.toFinset=(path++[id]).toFinset:=by
   rw [List.toFinset_append,Finset.union_comm]
   rfl
  have hdeps:dependenciesOf m id=step.dependsOn:=by simp [dependenciesOf,hstep]
  rw [if_neg (by simpa using hpath),Graph.visit_enter hdone hpath hnext,hdeps]
  simp only [hstate]
  have hrest:Follows (path++[id]) ((graphOf m).visitAll (path++[id]) step.dependsOn done)
    (step.dependsOn.foldlM (visitStep m depth)
     ⟨(path++[id]).toFinset,done.toFinset,path++[id]⟩):=
   Follows.foldlM fun _ d hd=>ih (by omega) (closed id step hstep d hd)
  generalize (graphOf m).visitAll (path++[id]) step.dependsOn done=result at hrest ⊢
  cases result with
  | error fault=>
   cases fault with
   | unknown a=>exact hrest.elim
   | cycle trail a=>
    rw [show List.foldlM _ _ _=_ from hrest]
    rfl
  | ok later=>
   rw [show List.foldlM _ _ _=_ from hrest]
   have herase:((path++[id]).toFinset).erase id=path.toFinset:=by
    rw [←hstate,Finset.erase_insert (by simpa using hpath)]
   have hvisited:insert id later.toFinset=(later++[id]).toFinset:=by
    rw [List.toFinset_append,Finset.union_comm]
    rfl
   show Except.ok _=Except.ok _
   simp only [herase,hvisited,List.dropLast_concat]

lemma visitSteps_follows(closed:ClosedIndex m):
  Follows [] ((graphOf m).search m.keys) (visitSteps m):=by
 have hroots:∀done,∀id∈m.keys,Follows [] ((graphOf m).visit [] done id)
   (visitStep m (recursionDepth m) ⟨∅,done.toFinset,[]⟩ id):=by
  intro done id hid
  apply visitStep_follows closed
  · exact Nat.lt_succ_of_le (List.length_filter_le _ _)
  · rwa [ExtTreeMap.mem_keys,←ExtTreeMap.contains_iff_mem] at hid
 exact Follows.foldlM hroots

lemma pushSteps_follows{later:List String}
  (h:∀done id later,(graphOf m).visit path done id=.ok later →
   pushStepAfterDependencies m depth ((done++path).toFinset,done) id=((later++path).toFinset,later))
  (hids:(graphOf m).visitAll path ids done=.ok later):
  ids.foldl (pushStepAfterDependencies m depth) ((done++path).toFinset,done) =
   ((later++path).toFinset,later):=by
 induction ids generalizing done with
 | nil=>
  obtain rfl:=Except.ok.inj hids
  rfl
 | cons id ids ih=>
  rw [Graph.visitAll,List.foldlM_cons,bind_ok] at hids
  obtain ⟨middle,hfirst,hrest⟩:=hids
  rw [List.foldl_cons,h done id middle hfirst]
  exact ih hrest

lemma pushStep_follows(hdepth:(graphOf m).unseen path<depth){later:List String}
  (h:(graphOf m).visit path done id=.ok later):
  pushStepAfterDependencies m depth ((done++path).toFinset,done) id =
   ((later++path).toFinset,later):=by
 induction depth generalizing path done id later with
 | zero=>omega
 | succ depth ih=>
  rw [pushStepAfterDependencies]
  by_cases hdone:id∈done
  · rw [Graph.visit_done hdone] at h
    obtain rfl:=Except.ok.inj h
    rw [if_pos (by simp [hdone])]
  by_cases hpath:id∈path
  · rw [Graph.visit_cycle hdone hpath] at h
    cases h
  rw [if_neg (by simp [hdone,hpath])]
  cases hnext:(graphOf m).next id with
  | none=>
   rw [Graph.visit_unknown hdone hpath hnext] at h
   cases h
  | some successors=>
   have hlower:=(graphOf m).unseen_lt hpath hnext
   rw [Graph.visit_enter hdone hpath hnext] at h
   have hdeps:dependenciesOf m id=successors:=by
    have hmap:m[id]?.map TaskStep.dependsOn=some successors:=hnext
    rw [dependenciesOf,hmap]
    rfl
   cases hresult:(graphOf m).visitAll (path++[id]) successors done with
   | error fault=>
    rw [hresult] at h
    cases h
   | ok middle=>
    rw [hresult] at h
    obtain rfl:=Except.ok.inj h
    have hstate:insert id (done++path).toFinset=(done++(path++[id])).toFinset:=by
     ext other
     simp only [Finset.mem_insert,List.mem_toFinset,List.mem_append,List.mem_singleton]
     tauto
    rw [hdeps,hstate,pushSteps_follows (fun done id later=>ih (by omega)) hresult]
    simp only [Prod.mk.injEq,and_true]
    ext other
    simp only [List.mem_toFinset,List.mem_append,List.mem_singleton]
    tauto

def DependsOn (steps:List TaskStep) (a b:String) : Prop :=
 ∃step∈steps,step.stepId=a∧b∈step.dependsOn

lemma dependsOn_congr{steps':List TaskStep}(h:steps.Perm steps'):
  DependsOn steps=DependsOn steps':=by
 funext a b
 simp only [DependsOn,h.mem_iff]

lemma graphOf_edge(distinct:(plan.steps.map TaskStep.stepId).Nodup):
  (graphOf plan.stepsById).Edge=DependsOn plan.steps:=by
 funext a b
 simp only [Graph.Edge,graphOf,map_eq_some_iff,stepsById_lookup distinct,DependsOn,eq_iff_iff]
 constructor
 · rintro ⟨_,⟨step,⟨hmem,hid⟩,rfl⟩,hb⟩
   exact ⟨step,hmem,hid,hb⟩
 · rintro ⟨step,hmem,hid,hb⟩
   exact ⟨_,⟨step,⟨hmem,hid⟩,rfl⟩,hb⟩

lemma TaskPlan.Checked.sorted(h:plan.Checked):
  (plan.sorted.steps.map TaskStep.stepId).Nodup∧ClosedIndex plan.sorted.stepsById:=by
 have hids:=(sorted_steps_perm plan).map TaskStep.stepId
 have hdistinct:=hids.nodup_iff.mpr h.distinct
 refine ⟨hdistinct,fun id step hstep d hd=>?_⟩
 have hmem:=(sorted_steps_perm plan).mem_iff.mp ((stepsById_lookup hdistinct).mp hstep).1
 exact (stepsById_contains hdistinct).mpr (hids.mem_iff.mpr (h.closed step hmem d hd))

lemma noCycle_checkAccess(m:StepsById)(resources:List String)
  (access:TaskContextAccess):NoCycle (checkAccess m resources access):=by
 refine (noCycle_validateIdentity _ _ _).bind fun _=>
  (noCycle_validateIdentity _ _ _).bind fun _ walk h=>?_
 split at h <;>cases h

/-- A plan is normalized if it passes the checks, the search and the checks of its accesses. -/
lemma normalized_ok{given:TaskPlan}:given.normalized=.ok plan ↔
  given.Checked∧given.sorted=plan∧(∃s,visitSteps plan.stepsById=.ok s)∧∀access∈plan.contextAccess,
    checkAccess plan.stepsById plan.contextResources access=.ok ():=by
 simp only [TaskPlan.normalized,bind_ok,indexSteps_ok,forM_ok,pure,Except.pure,
  Except.ok.injEq]
 constructor
 · rintro ⟨_,⟨hchecked,rfl⟩,s,hvisit,-,haccess,rfl⟩
   exact ⟨hchecked,rfl,⟨s,hvisit⟩,haccess⟩
 · rintro ⟨hchecked,rfl,⟨s,hvisit⟩,haccess⟩
   exact ⟨_,⟨hchecked,rfl⟩,s,hvisit,(),haccess,rfl⟩

lemma normalized_cycle{given:TaskPlan}{walk:List String}:given.normalized=.error (.cycle walk) ↔
   given.Checked∧visitSteps given.sorted.stepsById=.error (.cycle walk):=by
 rw [TaskPlan.normalized]
 cases hindex:given.indexSteps with
 | error e=>
  constructor
  · intro h
    have he:e=.cycle walk:=by
     cases h
     rfl
    exact absurd (he▸hindex) (noCycle_indexSteps given walk)
  · rintro ⟨hchecked,-⟩
    cases hindex.symm.trans (indexSteps_ok.mpr ⟨hchecked,rfl⟩)
 | ok m=>
  obtain ⟨hchecked,rfl⟩:=indexSteps_ok.mp hindex
  rw [and_iff_right hchecked]
  change (visitSteps given.sorted.stepsById >>= fun _=>_)=_ ↔ _
  cases hvisit:visitSteps given.sorted.stepsById with
  | error e=>
   constructor
   · intro h
     cases h
     rfl
   · intro h
     cases h
     rfl
  | ok s=>
   constructor
   · intro h
     have hnone:NoCycle (given.sorted.contextAccess.forM (checkAccess given.sorted.stepsById
       given.sorted.contextResources) >>= fun _=>pure given.sorted):=
      (NoCycle.forM (noCycle_checkAccess _ _) _).bind fun _ walk h=>by cases h
     exact absurd h (hnone walk)
   · intro h
     cases h

lemma TaskPlan.Checked.follows(h:plan.Checked):
  Follows [] ((graphOf plan.sorted.stepsById).search plan.sorted.stepsById.keys)
   (visitSteps plan.sorted.stepsById):=visitSteps_follows h.sorted.2

lemma dependencyOrdered_eq{order:List String}
  (h:(graphOf plan.stepsById).search plan.stepsById.keys=.ok order):
  plan.dependencyOrderedStepIds=order:=by
 have hpush:plan.stepsById.keys.foldl
   (pushStepAfterDependencies plan.stepsById (recursionDepth plan.stepsById)) (∅,[]) =
   ((order++[]).toFinset,order):=
  pushSteps_follows (fun _ _ _ hvisit=>
   pushStep_follows (Nat.lt_succ_of_le (List.length_filter_le _ _)) hvisit) h
 exact congrArg Prod.snd hpush

end GraphBlocks.TaskPlans
