import GraphBlocks.TaskPlanChecks

namespace GraphBlocks.TaskPlans
open Std DepthFirstSearch OrderedMap RustStd List Option Std.ExtTreeMap

section
variable {α β:Type} {R:α→α→Prop} {l:List α} {a b:α}

lemma indexPairs_of_pairwise(h:l.Pairwise R):∀p∈indexPairs l,R p.1 p.2:=by
 induction l with
 | nil=>simp [indexPairs]
 | cons a l ih=>
  obtain ⟨ha,hl⟩:=pairwise_cons.mp h
  intro p hp
  rcases mem_append.mp hp with hp|hp
  · obtain ⟨b,hb,rfl⟩:=List.mem_map.mp hp
    exact ha b hb
  · exact ih hl p hp

lemma mem_of_mem_indexPairs{p:α×α}(h:p∈indexPairs l):p.1∈l∧p.2∈l:=
 indexPairs_of_pairwise (R:=fun a b=>a∈l∧b∈l)
  (pairwise_of_forall_mem_list fun _ ha _ hb=>⟨ha,hb⟩) p h

lemma mem_indexPairs(ha:a∈l)(hb:b∈l)(hne:a≠b):(a,b)∈indexPairs l∨(b,a)∈indexPairs l:=by
 induction l with
 | nil=>cases ha
 | cons c l ih=>
  simp only [indexPairs,mem_append,List.mem_map,Prod.mk.injEq]
  rcases mem_cons.mp ha with rfl|ha' <;>rcases mem_cons.mp hb with rfl|hb'
  · exact absurd rfl hne
  · exact .inl (.inl ⟨b,hb',rfl,rfl⟩)
  · exact .inr (.inl ⟨a,ha',rfl,rfl⟩)
  · exact (ih ha' hb').imp .inr .inr

lemma indexPairs_map(f:α→β)(l:List α):
  indexPairs (l.map f)=(indexPairs l).map fun p=>(f p.1,f p.2):=by
 induction l with
 | nil=>rfl
 | cons a l ih=>simp [indexPairs,ih]

lemma nodup_indexPairs(h:l.Nodup):(indexPairs l).Nodup:=by
 induction l with
 | nil=>exact .nil
 | cons a l ih=>
  obtain ⟨ha,hl⟩:=nodup_cons.mp h
  refine nodup_append.mpr ⟨hl.map fun _ _ h=>congrArg Prod.snd h,ih hl,?_⟩
  rintro p hp q hq rfl
  obtain ⟨b,-,rfl⟩:=List.mem_map.mp hp
  exact ha (mem_of_mem_indexPairs hq).1
end

lemma positions_getD{order:List String}(hnodup:order.Nodup){id:String}
  (h:id∈order):(positionsOf order).getD id 0=order.idxOf id:=by
 have hkeys:(order.zipIdx.map Prod.fst).Nodup:=by rwa [zipIdx_map_fst]
 have hlookup:(positionsOf order)[id]?=some (order.idxOf id):=
  (lookup_ofList_nodup hkeys id _).mpr
   (mk_mem_zipIdx_iff_getElem?.mpr (List.getElem?_idxOf h))
 rw [getD_eq_getD_getElem?,hlookup]
 rfl

def TaskContextAccess.By (access:TaskContextAccess) (stepId resourceId:String) : Prop :=
 access.stepId=stepId∧access.resourceId=resourceId

def modeOf (m:ExtTreeMap String AccessByStep) (stepId resourceId:String) :
  Option TaskContextMode := (m.getD resourceId ∅)[stepId]?

def Merges (accesses:List TaskContextAccess) (stepId resourceId:String) :
  Option TaskContextMode→Prop
 | none=>∀access∈accesses,¬access.By stepId resourceId
 | some mode=>(∃access∈accesses,access.By stepId resourceId) ∧
   (mode.reads=true ↔ ∃access∈accesses,access.By stepId resourceId ∧
    (TaskContextMode.fromMode access.mode).reads=true) ∧
   (mode.writes=true ↔ ∃access∈accesses,access.By stepId resourceId ∧
    (TaskContextMode.fromMode access.mode).writes=true)

lemma modeOf_recordAccess(m:ExtTreeMap String AccessByStep)(access:TaskContextAccess)
  (stepId resourceId:String):modeOf (recordAccess m access) stepId resourceId =
   if access.stepId=stepId∧access.resourceId=resourceId then
    some (match modeOf m stepId resourceId with
     | some mode=>mode.merge access.mode
     | none=>.fromMode access.mode)
   else modeOf m stepId resourceId:=by
 unfold modeOf recordAccess
 rw [getD_insert_eq]
 by_cases hresource:access.resourceId=resourceId
 · subst hresource
   rw [if_pos rfl,lookup_insert]
   by_cases hstep:access.stepId=stepId
   · subst hstep
     rw [if_pos rfl]
     exact (if_pos ⟨rfl,rfl⟩).symm
   · rw [if_neg hstep,if_neg fun h=>hstep h.1]
 · rw [if_neg hresource,if_neg fun h=>hresource h.2]

lemma merges_recordAccess(accesses:List TaskContextAccess)(stepId resourceId:String):
  Merges accesses stepId resourceId
   (modeOf (accesses.foldl recordAccess ∅) stepId resourceId):=by
 induction accesses using List.reverseRecOn with
 | nil=>simp [modeOf,Merges]
 | append_singleton accesses access ih=>
  rw [foldl_concat,modeOf_recordAccess]
  generalize modeOf (accesses.foldl recordAccess ∅) stepId resourceId=mode at ih ⊢
  by_cases h:access.By stepId resourceId
  · rw [if_pos (show access.stepId=stepId∧access.resourceId=resourceId from h)]
    cases mode with
    | none=>
     simp only [Merges,mem_append,mem_singleton] at ih ⊢
     refine ⟨⟨access,.inr rfl,h⟩,?_,?_⟩ <;>grind
    | some mode=>
     simp only [Merges,mem_append,mem_singleton,TaskContextMode.merge,Bool.or_eq_true] at ih ⊢
     refine ⟨⟨access,.inr rfl,h⟩,?_,?_⟩ <;>grind
  · rw [if_neg (show ¬(access.stepId=stepId∧access.resourceId=resourceId) from h)]
    cases mode with
    | none=>
     simp only [Merges,mem_append,mem_singleton] at ih ⊢
     grind
    | some mode=>
     simp only [Merges,mem_append,mem_singleton] at ih ⊢
     grind

def TaskPlan.Accesses (plan:TaskPlan) (stepId resourceId:String) : Prop :=
 ∃access∈plan.contextAccess,access.By stepId resourceId

def TaskPlan.Writes (plan:TaskPlan) (stepId resourceId:String) : Prop :=
 ∃access∈plan.contextAccess,access.By stepId resourceId ∧
  (access.mode = "write" ∨ access.mode = "read_write")

variable {plan:TaskPlan} {stepId resourceId:String} {mode left right:TaskContextMode}

lemma fromMode_writes(mode:String):(TaskContextMode.fromMode mode).writes=true ↔
  mode="write" ∨ mode="read_write":=by
 unfold TaskContextMode.fromMode
 split_ifs with hwrite hboth <;>simp_all

lemma fromMode_reads(mode:String):(TaskContextMode.fromMode mode).reads=true ∨
  (TaskContextMode.fromMode mode).writes=true:=by
 unfold TaskContextMode.fromMode
 split_ifs <;>simp

lemma accesses_iff:plan.Accesses stepId resourceId ↔
  ∃mode,modeOf plan.accessByResource stepId resourceId=some mode:=by
 have h:=merges_recordAccess plan.contextAccess stepId resourceId
 rw [TaskPlan.accessByResource]
 cases hmode:modeOf (plan.contextAccess.foldl recordAccess ∅) stepId resourceId with
 | none=>
  rw [hmode] at h
  simp only [TaskPlan.Accesses,reduceCtorEq,exists_false,iff_false]
  rintro ⟨access,hmem,hby⟩
  exact h access hmem hby
 | some mode=>
  rw [hmode] at h
  exact ⟨fun _=>⟨mode,rfl⟩,fun _=>h.1⟩

lemma mode_merged(h:modeOf plan.accessByResource stepId resourceId=some mode):
  (mode.writes=true↔plan.Writes stepId resourceId)∧(mode.reads=true∨mode.writes=true):=by
 have hmerges:=merges_recordAccess plan.contextAccess stepId resourceId
 rw [show modeOf (plan.contextAccess.foldl recordAccess ∅) _ _=_ from h] at hmerges
 obtain ⟨⟨access,hmem,hby⟩,hreads,hwrites⟩:=hmerges
 refine ⟨?_,(fromMode_reads access.mode).imp (fun hread=>hreads.mpr ⟨access,hmem,hby,hread⟩)
  fun hwrite=>hwrites.mpr ⟨access,hmem,hby,hwrite⟩⟩
 simp only [hwrites,fromMode_writes,TaskPlan.Writes]

lemma contextConflictKind_isSome(h:left.writes=true∨right.writes=true):
  ∃conflict,contextConflictKind left right=some conflict:=by
 unfold contextConflictKind
 split_ifs <;>simp_all

lemma contextConflictKind_some(hright:right.reads=true∨right.writes=true)
  {conflict:TaskContextConflictKind}(h:contextConflictKind left right=some conflict):
  (conflict=.writeWrite↔left.writes=true∧right.writes=true) ∧
   (conflict=.writeRead↔left.writes=true∧¬right.writes=true) ∧
   (conflict=.readWrite↔¬left.writes=true∧right.writes=true):=by
 unfold contextConflictKind at h
 cases hl:left.writes <;>cases hr:right.writes <;>simp_all <;>subst h <;>simp

structure TaskPlan.Labels (plan:TaskPlan) (edge:TaskContextAccessEdge) : Prop where
 writeWrite:edge.conflict=.writeWrite ↔
  plan.Writes edge.fromStepId edge.resourceId∧plan.Writes edge.toStepId edge.resourceId
 writeRead:edge.conflict=.writeRead ↔
  plan.Writes edge.fromStepId edge.resourceId∧¬plan.Writes edge.toStepId edge.resourceId
 readWrite:edge.conflict=.readWrite ↔
  ¬plan.Writes edge.fromStepId edge.resourceId∧plan.Writes edge.toStepId edge.resourceId

/-- An edge between two steps, in either direction. -/
def TaskContextAccessEdge.Joins (edge:TaskContextAccessEdge) (a b:String) : Prop :=
 edge.fromStepId=a∧edge.toStepId=b∨edge.fromStepId=b∧edge.toStepId=a

def Apart (edge other:TaskContextAccessEdge) : Prop :=
 edge.resourceId=other.resourceId→¬other.Joins edge.fromStepId edge.toStepId

/-- The order of the steps of an accepted plan, which its accesses stay within. -/
structure Sequence (plan:TaskPlan) (order:List String) : Prop where
 perm:order.Perm (plan.steps.map TaskStep.stepId)
 nodup:order.Nodup
 forward:∀a b,DependsOn plan.steps a b → order.idxOf b<order.idxOf a
 known:∀access∈plan.contextAccess,access.stepId∈order

lemma sequence_of_normalized{given:TaskPlan}(h:given.normalized=.ok plan):
  Sequence plan plan.dependencyOrderedStepIds:=by
 obtain ⟨hchecked,rfl,⟨s,hvisit⟩,haccess⟩:=normalized_ok.mp h
 obtain ⟨hdistinct,hclosed⟩:=hchecked.sorted
 have hfollows:=hchecked.follows
 rw [hvisit] at hfollows
 cases hsearch:(graphOf given.sorted.stepsById).search given.sorted.stepsById.keys with
 | error fault=>
  rw [hsearch] at hfollows
  cases fault with
  | unknown id=>exact hfollows.elim
  | cycle trail id=>cases hfollows
 | ok order=>
  obtain ⟨hsettled,hmem⟩:=Graph.search_ok hsearch
  rw [dependencyOrdered_eq hsearch]
  have hids:∀id,id∈order↔id∈given.sorted.steps.map TaskStep.stepId:=by
   intro id
   rw [←stepsById_contains hdistinct]
   constructor
   · intro hid
     obtain ⟨_,hnext,-⟩:=hsettled.closed id hid
     obtain ⟨step,hstep,-⟩:=map_eq_some_iff.mp hnext
     exact (contains_iff _).mpr ⟨step,hstep⟩
   · intro hid
     refine (hmem id).mpr ⟨id,?_,.refl⟩
     rwa [ExtTreeMap.mem_keys,←ExtTreeMap.contains_iff_mem]
  have hperm:=(perm_ext_iff_of_nodup hsettled.nodup hdistinct).mpr hids
  refine ⟨hperm,hsettled.nodup,?_,?_⟩
  · intro a b hab
    have ha:a∈order:=by
     obtain ⟨step,hstep,rfl,-⟩:=hab
     exact hperm.mem_iff.mpr (List.mem_map_of_mem hstep)
    exact (hsettled.descends ha (.single (graphOf_edge hdistinct▸hab))).2
  · intro access hmem
    have hok:=haccess access hmem
    simp only [checkAccess,bind_ok] at hok
    obtain ⟨-,-,-,-,hok⟩:=hok
    by_contra hunknown
    have hcontains:given.sorted.stepsById.contains access.stepId=false:=by
     rw [←Bool.not_eq_true,stepsById_contains hdistinct,←hids]
     exact hunknown
    unfold accessReason at hok
    split at hok
    · cases hok
    · next hnone=>split_ifs at hnone

section
variable {order:List String}

def accessesInOrder (order:List String) (byStep:AccessByStep) : List (String×TaskContextMode) :=
 byStep.toList.insertionSort (accessBefore (positionsOf order))

lemma accessesInOrder_keys(order:List String)(byStep:AccessByStep):
  ((accessesInOrder order byStep).map Prod.fst).Nodup:=
 ((perm_insertionSort _ _).map _).nodup_iff.mpr (nodup_keys_toList byStep)

variable {byStep:AccessByStep}

lemma mem_accessesInOrder{access:String×TaskContextMode}:
  access∈accessesInOrder order byStep↔byStep[access.1]?=some access.2:=
 (mem_insertionSort _).trans mem_toList_iff_getElem?_eq_some

lemma accessBefore_trans(positions:ExtTreeMap String ℕ):
  IsTrans (String×TaskContextMode) (accessBefore positions):=
 ⟨fun _ _ _ h h'=>Preorder.le_trans _ _ _ h h'⟩

lemma accessBefore_total(positions:ExtTreeMap String ℕ):
  Std.Total (accessBefore positions):=⟨fun _ _=>le_total _ _⟩

lemma indexPairs_ordered(hnodup:order.Nodup)
  (hknown:∀access∈accessesInOrder order byStep,access.1∈order):
  ∀p∈indexPairs (accessesInOrder order byStep),order.idxOf p.1.1<order.idxOf p.2.1:=by
 have htrans:=accessBefore_trans (positionsOf order)
 have htotal:=accessBefore_total (positionsOf order)
 have hsorted:(accessesInOrder order byStep).Pairwise fun a b=>
   accessBefore (positionsOf order) a b∧a.1≠b.1:=
  (pairwise_insertionSort _ _).and (pairwise_map.mp (accessesInOrder_keys order byStep))
 intro p hp
 obtain ⟨hbefore,hne⟩:=indexPairs_of_pairwise hsorted p hp
 obtain ⟨hleft,hright⟩:=mem_of_mem_indexPairs hp
 rw [accessBefore,Prod.Lex.toLex_le_toLex,positions_getD hnodup (hknown _ hleft),
  positions_getD hnodup (hknown _ hright)] at hbefore
 rcases hbefore with hlt|⟨heq,-⟩
 · exact hlt
 · exact absurd ((idxOf_inj (hknown _ hleft)).mp heq) hne

lemma modeOf_resource(h:plan.accessByResource[resourceId]?=some byStep)(stepId:String):
  modeOf plan.accessByResource stepId resourceId=byStep[stepId]?:=by
 rw [modeOf,getD_eq_getD_getElem?,h]
 rfl

variable {edge:TaskContextAccessEdge}

lemma mem_contextAccessGraph:
  edge∈plan.contextAccessGraph ↔ ∃resource∈plan.accessByResource.toList,
   ∃p∈indexPairs (accessesInOrder plan.dependencyOrderedStepIds resource.2),
    conflictEdge resource.1 p=some edge:=by
 simp only [TaskPlan.contextAccessGraph,mem_insertionSort,mem_flatMap,resourceEdges,
  List.mem_filterMap,accessesInOrder]

lemma Sequence.known_accesses(h:Sequence plan order)
  (hresource:plan.accessByResource[resourceId]?=some byStep):
  ∀access∈accessesInOrder order byStep,access.1∈order:=by
 intro access hmem
 have hmode:=(modeOf_resource hresource access.1).trans (mem_accessesInOrder.mp hmem)
 obtain ⟨found,hfound,hby⟩:=accesses_iff.mpr ⟨_,hmode⟩
 exact hby.1▸h.known found hfound

/-- What an edge of the graph says about its plan. -/
structure TaskPlan.Conflict (plan:TaskPlan) (order:List String)
  (edge:TaskContextAccessEdge) : Prop where
 before:order.idxOf edge.fromStepId<order.idxOf edge.toStepId
 left:plan.Accesses edge.fromStepId edge.resourceId
 right:plan.Accesses edge.toStepId edge.resourceId
 writes:plan.Writes edge.fromStepId edge.resourceId∨plan.Writes edge.toStepId edge.resourceId
 labels:plan.Labels edge

lemma conflict_of_edge(h:Sequence plan order)
  (hresource:plan.accessByResource[resourceId]?=some byStep)
  {p:(String×TaskContextMode)×(String×TaskContextMode)}
  (hp:p∈indexPairs (accessesInOrder order byStep))
  (hedge:conflictEdge resourceId p=some edge):plan.Conflict order edge:=by
 have hbefore:=indexPairs_ordered h.nodup (h.known_accesses hresource) p hp
 obtain ⟨hleft,hright⟩:=mem_of_mem_indexPairs hp
 have hleftMode:=(modeOf_resource hresource p.1.1).trans (mem_accessesInOrder.mp hleft)
 have hrightMode:=(modeOf_resource hresource p.2.1).trans (mem_accessesInOrder.mp hright)
 obtain ⟨hleftWrites,-⟩:=mode_merged hleftMode
 obtain ⟨hrightWrites,hsome⟩:=mode_merged hrightMode
 obtain ⟨conflict,hconflict,rfl⟩:=map_eq_some_iff.mp hedge
 obtain ⟨hww,hwr,hrw⟩:=contextConflictKind_some hsome hconflict
 rw [hleftWrites,hrightWrites] at hww hwr hrw
 refine ⟨hbefore,accesses_iff.mpr ⟨_,hleftMode⟩,accesses_iff.mpr ⟨_,hrightMode⟩,?_,⟨hww,hwr,hrw⟩⟩
 cases conflict with
 | readWrite=>exact .inr (hrw.mp rfl).2
 | writeRead=>exact .inl (hwr.mp rfl).1
 | writeWrite=>exact .inl (hww.mp rfl).1

lemma exists_edge{a b:String}(hne:a≠b)(ha:plan.Accesses a resourceId)
  (hb:plan.Accesses b resourceId)(hwrites:plan.Writes a resourceId∨plan.Writes b resourceId):
  ∃edge∈plan.contextAccessGraph,edge.resourceId=resourceId∧edge.Joins a b:=by
 obtain ⟨left,hleft⟩:=accesses_iff.mp ha
 obtain ⟨right,hright⟩:=accesses_iff.mp hb
 cases hresource:plan.accessByResource[resourceId]? with
 | none=>
  rw [modeOf,getD_eq_getD_getElem?,hresource] at hleft
  simp at hleft
 | some byStep=>
  have hmem:∀{id mode},modeOf plan.accessByResource id resourceId=some mode →
    (id,mode)∈accessesInOrder plan.dependencyOrderedStepIds byStep:=by
   intro id mode hmode
   exact mem_accessesInOrder.mpr ((modeOf_resource hresource id).symm.trans hmode)
  have hpair:=mem_indexPairs (hmem hleft) (hmem hright) fun heq=>hne (congrArg Prod.fst heq)
  have hmode:∀{id mode},modeOf plan.accessByResource id resourceId=some mode →
    plan.Writes id resourceId→mode.writes=true:=fun h=>(mode_merged h).1.mpr
  have hwritten:left.writes=true∨right.writes=true:=hwrites.imp (hmode hleft) (hmode hright)
  have hgraph:∀p∈indexPairs (accessesInOrder plan.dependencyOrderedStepIds byStep),
    ∀conflict,contextConflictKind p.1.2 p.2.2=some conflict →
    ⟨p.1.1,p.2.1,resourceId,conflict⟩∈plan.contextAccessGraph:=by
   intro p hp conflict hconflict
   refine mem_contextAccessGraph.mpr ⟨(resourceId,byStep),?_,p,hp,?_⟩
   · exact mem_toList_iff_getElem?_eq_some.mpr hresource
   · rw [conflictEdge,hconflict]
     rfl
  rcases hpair with hpair|hpair
  · obtain ⟨conflict,hconflict⟩:=contextConflictKind_isSome hwritten
    exact ⟨_,hgraph _ hpair conflict hconflict,rfl,.inl ⟨rfl,rfl⟩⟩
  · obtain ⟨conflict,hconflict⟩:=contextConflictKind_isSome hwritten.symm
    exact ⟨_,hgraph _ hpair conflict hconflict,rfl,.inr ⟨rfl,rfl⟩⟩

lemma Apart.symm{other:TaskContextAccessEdge}(h:Apart edge other):Apart other edge:=by
 intro hresource hjoins
 refine h hresource.symm ?_
 rcases hjoins with ⟨hfrom,hto⟩|⟨hfrom,hto⟩
 · exact .inl ⟨hfrom.symm,hto.symm⟩
 · exact .inr ⟨hto.symm,hfrom.symm⟩

lemma edges_apart(h:Sequence plan plan.dependencyOrderedStepIds):
  plan.contextAccessGraph.Pairwise Apart:=by
 have hsymm:∀{a b},Apart a b→Apart b a:=Apart.symm
 rw [TaskPlan.contextAccessGraph,(perm_insertionSort _ _).pairwise_iff hsymm,pairwise_flatMap]
 constructor
 · rintro ⟨resourceId,byStep⟩ hmem
   have hresource:=mem_toList_iff_getElem?_eq_some.mp hmem
   have hordered:=indexPairs_ordered h.nodup (h.known_accesses hresource)
   have hids:=nodup_indexPairs
    (accessesInOrder_keys plan.dependencyOrderedStepIds byStep)
   rw [indexPairs_map] at hids
   refine pairwise_filterMap.mpr ((pairwise_map.mp hids).imp_of_mem ?_)
   intro p q hp hq hne edge hedge other hother _ hjoins
   obtain ⟨_,-,rfl⟩:=map_eq_some_iff.mp hedge
   obtain ⟨_,-,rfl⟩:=map_eq_some_iff.mp hother
   have hltp:=hordered p hp
   have hltq:=hordered q hq
   rcases hjoins with ⟨hfrom,hto⟩|⟨hfrom,hto⟩
   · exact hne (Prod.ext hfrom.symm hto.symm)
   · dsimp only at hfrom hto
     rw [hfrom,hto] at hltq
     omega
 · refine (pairwise_map.mp (nodup_keys_toList plan.accessByResource)).imp ?_
   intro resource others hne edge hedge other hother hsame
   obtain ⟨_,-,hedge⟩:=List.mem_filterMap.mp hedge
   obtain ⟨_,-,hother⟩:=List.mem_filterMap.mp hother
   obtain ⟨_,-,rfl⟩:=map_eq_some_iff.mp hedge
   obtain ⟨_,-,rfl⟩:=map_eq_some_iff.mp hother
   exact absurd hsame hne
end

/-- What an accepted plan allows: its conflicts, each once, and one order for everything. -/
structure Schedulable (plan:TaskPlan) : Prop where
 conflicts:∀edge∈plan.contextAccessGraph,edge.fromStepId≠edge.toStepId ∧
  plan.Accesses edge.fromStepId edge.resourceId∧plan.Accesses edge.toStepId edge.resourceId ∧
  (plan.Writes edge.fromStepId edge.resourceId∨plan.Writes edge.toStepId edge.resourceId) ∧
  plan.Labels edge
 complete:∀resourceId a b,a≠b→plan.Accesses a resourceId→plan.Accesses b resourceId →
  plan.Writes a resourceId∨plan.Writes b resourceId →
  ∃edge∈plan.contextAccessGraph,edge.resourceId=resourceId∧edge.Joins a b
 once:plan.contextAccessGraph.Pairwise Apart
 sequence:∃order : List String,order.Perm (plan.steps.map TaskStep.stepId) ∧
  (∀a b,DependsOn plan.steps a b → order.idxOf b<order.idxOf a) ∧
  ∀edge∈plan.contextAccessGraph,order.idxOf edge.fromStepId<order.idxOf edge.toStepId
 acyclic:∀id,¬Relation.TransGen (fun a b=>DependsOn plan.steps b a ∨
  ∃edge∈plan.contextAccessGraph,edge.fromStepId=a∧edge.toStepId=b) id id

lemma Sequence.schedulable(h:Sequence plan plan.dependencyOrderedStepIds):Schedulable plan:=by
 have hconflict:∀edge∈plan.contextAccessGraph,plan.Conflict plan.dependencyOrderedStepIds edge:=by
  intro edge hedge
  obtain ⟨resource,hresource,p,hp,hp'⟩:=mem_contextAccessGraph.mp hedge
  exact conflict_of_edge h (mem_toList_iff_getElem?_eq_some.mp hresource) hp hp'
 have hforward:∀{a b},Relation.TransGen (fun a b=>DependsOn plan.steps b a ∨
   ∃edge∈plan.contextAccessGraph,edge.fromStepId=a∧edge.toStepId=b) a b →
   plan.dependencyOrderedStepIds.idxOf a<plan.dependencyOrderedStepIds.idxOf b:=by
  have hstep:∀{a b},(DependsOn plan.steps b a ∨
    ∃edge∈plan.contextAccessGraph,edge.fromStepId=a∧edge.toStepId=b) →
    plan.dependencyOrderedStepIds.idxOf a<plan.dependencyOrderedStepIds.idxOf b:=by
   rintro a b (hdepends|⟨edge,hedge,rfl,rfl⟩)
   · exact h.forward b a hdepends
   · exact (hconflict edge hedge).before
  intro a b hwalk
  induction hwalk with
  | single hab=>exact hstep hab
  | tail _ hbc ih=>exact ih.trans (hstep hbc)
 refine ⟨?_,?_,edges_apart h,⟨_,h.perm,h.forward,fun edge hedge=>(hconflict edge hedge).before⟩,?_⟩
 · intro edge hedge
   have hedge:=hconflict edge hedge
   refine ⟨fun heq=>?_,hedge.left,hedge.right,hedge.writes,hedge.labels⟩
   exact Nat.lt_irrefl _ (heq▸hedge.before)
 · exact fun resourceId a b hne ha hb hwrites=>exists_edge hne ha hb hwrites
 · exact fun id hcycle=>Nat.lt_irrefl _ (hforward hcycle)

/-- A walk along dependencies that comes back to where it began. -/
structure DependencyCycle (steps:List TaskStep) (walk:List String) : Prop where
 chain:walk.IsChain (DependsOn steps)
 long:2≤walk.length
 closed:walk.head?=walk.getLast?

lemma search_cyclic{given:TaskPlan}(h:given.Checked):
  (∃id,Relation.TransGen (DependsOn given.steps) id id) ↔
   ∃walk,visitSteps given.sorted.stepsById=.error (.cycle walk):=by
 have hfollows:=h.follows
 have hedge:=(graphOf_edge h.sorted.1).trans (dependsOn_congr (sorted_steps_perm given))
 cases hsearch:(graphOf given.sorted.stepsById).search given.sorted.stepsById.keys with
 | error fault=>
  rw [hsearch] at hfollows
  cases fault with
  | unknown id=>exact hfollows.elim
  | cycle trail id=>
   obtain ⟨a,-,hcycle⟩:=(Graph.search_cycle hsearch).1.cyclic
   exact ⟨fun _=>⟨_,hfollows⟩,fun _=>⟨a,hedge▸hcycle⟩⟩
 | ok order=>
  rw [hsearch] at hfollows
  constructor
  · rintro ⟨id,hcycle⟩
    rw [←hedge] at hcycle
    obtain ⟨b,⟨successors,hnext,-⟩,-⟩:=Relation.TransGen.head'_iff.mp hcycle
    have hroot:id∈given.sorted.stepsById.keys:=(graphOf _).mem_nodes hnext
    obtain ⟨-,hacyclic⟩:=Graph.search_ok_iff.mp ⟨order,hsearch⟩ id hroot id .refl
    exact absurd hcycle hacyclic
  · rintro ⟨walk,hwalk⟩
    cases hfollows.symm.trans hwalk

/-- Accepted plans are schedulable, and only a cycle of dependencies is reported as one. -/
theorem task_plans_schedulable (planId objective : String) (steps : List TaskStep)
  (limits : TaskPlanLimits) (contextResources : List String)
  (contextAccess : List TaskContextAccess) :
  (∀plan,TaskPlan.fromParts planId objective steps limits contextResources contextAccess =
    .ok plan→(steps.map TaskStep.stepId).Nodup ∧
    (∀a b,DependsOn steps a b→b∈steps.map TaskStep.stepId) ∧
    (∀id,¬Relation.TransGen (DependsOn steps) id id) ∧
    plan.steps.Perm steps∧plan.contextAccess.Perm contextAccess∧Schedulable plan) ∧
   (∀walk,TaskPlan.fromParts planId objective steps limits contextResources contextAccess =
    .error (.cycle walk)→DependencyCycle steps walk) ∧
   (TaskPlan.Checked ⟨planId,objective,steps,limits,contextResources,contextAccess⟩ →
    (∃id,Relation.TransGen (DependsOn steps) id id) →
    ∃walk,TaskPlan.fromParts planId objective steps limits contextResources contextAccess =
     .error (.cycle walk)) := by
 refine ⟨?_,?_,?_⟩
 · intro plan hplan
   obtain ⟨hchecked,rfl,⟨s,hvisit⟩,-⟩:=normalized_ok.mp hplan
   refine ⟨hchecked.distinct,?_,?_,sorted_steps_perm _,perm_insertionSort _ _,
    (sequence_of_normalized hplan).schedulable⟩
   · rintro a b ⟨step,hstep,-,hb⟩
     exact hchecked.closed step hstep b hb
   · intro id hcycle
     obtain ⟨walk,hwalk⟩:=(search_cyclic hchecked).mp ⟨id,hcycle⟩
     cases hwalk.symm.trans hvisit
 · intro walk hwalk
   obtain ⟨hchecked,hvisit⟩:=normalized_cycle.mp hwalk
   have hedge:=(graphOf_edge hchecked.sorted.1).trans
    (dependsOn_congr (sorted_steps_perm _))
   have hfollows:=hchecked.follows
   rw [hvisit] at hfollows
   cases hsearch:(graphOf _).search (TaskPlan.stepsById (TaskPlan.sorted _)).keys with
   | ok order=>
    rw [hsearch] at hfollows
    cases hfollows
   | error fault=>
    rw [hsearch] at hfollows
    cases fault with
    | unknown id=>exact hfollows.elim
    | cycle trail id=>
     obtain rfl:=TaskPlanError.cycle.inj (Except.error.inj hfollows)
     obtain ⟨hchain,hlong,hclosed⟩:=(Graph.search_cycle hsearch).1
     exact ⟨hedge▸hchain,hlong,hclosed⟩
 · intro hchecked hcyclic
   obtain ⟨walk,hwalk⟩:=(search_cyclic hchecked).mp hcyclic
   exact ⟨walk,normalized_cycle.mpr ⟨hchecked,hwalk⟩⟩

end GraphBlocks.TaskPlans
