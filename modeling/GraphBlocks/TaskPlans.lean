import GraphBlocks.OrderedMap
import GraphBlocks.RustStd
import Mathlib.Data.List.Sort
import Mathlib.Data.Prod.Lex
import Mathlib.Data.String.Basic

/-! `TaskPlan` of the runtime core: its normalization, and the graph of the conflicts between
steps. -/
namespace GraphBlocks.TaskPlans
open Std RustStd

structure TaskStep where
 stepId:String
 description:String
 dependsOn:List String

structure TaskPlanLimits where
 maxSteps:ℕ
 maxDependenciesPerStep:ℕ
 maxDescriptionChars:ℕ

structure TaskContextAccess where
 stepId:String
 resourceId:String
 mode:String

inductive TaskContextConflictKind where
 | readWrite | writeRead | writeWrite

def TaskContextConflictKind.asStr : TaskContextConflictKind→String
 | .readWrite=>"read_write"
 | .writeRead=>"write_read"
 | .writeWrite=>"write_write"

structure TaskContextAccessEdge where
 fromStepId:String
 toStepId:String
 resourceId:String
 conflict:TaskContextConflictKind

inductive TaskContextAccessErrorReason where
 | invalidMode | unknownStep | unknownResource

inductive TaskPlanError where
 | identity (entity field:String)
 | limit (limitName:String) (limit actual:ℕ)
 | duplicateStep (stepId:String)
 | dependencyMissing (stepId dependencyId:String)
 | cycle (cycle:List String)
 | contextAccess (stepId resourceId mode:String) (reason:TaskContextAccessErrorReason)

structure TaskPlan where
 planId:String
 objective:String
 steps:List TaskStep
 limits:TaskPlanLimits
 contextResources:List String
 contextAccess:List TaskContextAccess

abbrev StepsById := ExtTreeMap String TaskStep

def validateIdentity (entity field value:String) : Except TaskPlanError Unit :=
 ensure (!isBlank value) (.identity entity field)

def sortedUnique (items:List String) : List String := items.dedup.insertionSort (· ≤ ·)

def accessOrder (left right:TaskContextAccess) : Prop :=
 toLex (left.stepId,toLex (left.resourceId,left.mode)) ≤
  toLex (right.stepId,toLex (right.resourceId,right.mode))

instance : DecidableRel accessOrder := fun _ _=>inferInstanceAs (Decidable (_≤_))

def TaskPlan.sorted (plan:TaskPlan) : TaskPlan :=
 { plan with
   steps:=plan.steps.insertionSort fun left right=>left.stepId≤right.stepId
   contextResources:=sortedUnique plan.contextResources
   contextAccess:=plan.contextAccess.insertionSort accessOrder }

def registerStep (limits:TaskPlanLimits) (stepsById:StepsById) (step:TaskStep) :
  Except TaskPlanError StepsById := do
 validateIdentity "step" "step_id" step.stepId
 validateIdentity "step" "description" step.description
 ensure (!stepsById.contains step.stepId) (.duplicateStep step.stepId)
 ensure (step.dependsOn.length≤limits.maxDependenciesPerStep)
  (.limit "max_dependencies_per_step" limits.maxDependenciesPerStep step.dependsOn.length)
 ensure (step.description.length≤limits.maxDescriptionChars)
  (.limit "max_description_chars" limits.maxDescriptionChars step.description.length)
 step.dependsOn.forM (validateIdentity "step" "depends_on")
 return stepsById.insert step.stepId step

def checkDependencies (stepsById:StepsById) (step:TaskStep) : Except TaskPlanError Unit :=
 step.dependsOn.forM fun dependencyId=>
  ensure (stepsById.contains dependencyId) (.dependencyMissing step.stepId dependencyId)

def dependenciesOf (stepsById:StepsById) (stepId:String) : List String :=
 (stepsById[stepId]?.map TaskStep.dependsOn).getD []

structure VisitState where
 visiting:Finset String
 visited:Finset String
 stack:List String

/-- `visit_step`, to a depth of recursion. -/
def visitStep (stepsById:StepsById) : ℕ→VisitState→String→Except TaskPlanError VisitState
 | 0, s, _=>.ok s
 | depth+1, s, stepId=>
  if stepId∈s.visited then .ok s
  else if stepId∈s.visiting then
   .error (.cycle (s.stack.drop ((s.stack.idxOf? stepId).getD 0)++[stepId]))
  else do
   let s ← (dependenciesOf stepsById stepId).foldlM (visitStep stepsById depth)
    { s with visiting:=insert stepId s.visiting,stack:=s.stack++[stepId] }
   return { visiting:=s.visiting.erase stepId,visited:=insert stepId s.visited
            stack:=s.stack.dropLast }

/-- A path of steps is no longer than the steps are many. -/
def recursionDepth (stepsById:StepsById) : ℕ := stepsById.keys.length+1

def visitSteps (stepsById:StepsById) : Except TaskPlanError VisitState :=
 stepsById.keys.foldlM (visitStep stepsById (recursionDepth stepsById)) ⟨∅,∅,[]⟩

def accessReason (stepsById:StepsById) (contextResources:List String)
  (access:TaskContextAccess) : Option TaskContextAccessErrorReason :=
 if access.mode∉["read","write","read_write"] then some .invalidMode
 else if stepsById.contains access.stepId=false then some .unknownStep
 else if access.resourceId∉contextResources then some .unknownResource
 else none

def checkAccess (stepsById:StepsById) (contextResources:List String)
  (access:TaskContextAccess) : Except TaskPlanError Unit := do
 validateIdentity "context_access" "step_id" access.stepId
 validateIdentity "context_access" "resource_id" access.resourceId
 match accessReason stepsById contextResources access with
 | some reason=>.error (.contextAccess access.stepId access.resourceId access.mode reason)
 | none=>.ok ()

/-- `normalized` up to the search for cycles. -/
def TaskPlan.indexSteps (plan:TaskPlan) : Except TaskPlanError StepsById := do
 validateIdentity "plan" "plan_id" plan.planId
 validateIdentity "plan" "objective" plan.objective
 plan.contextResources.forM (validateIdentity "plan" "context_resources")
 ensure (plan.sorted.steps.length≤plan.limits.maxSteps)
  (.limit "max_steps" plan.limits.maxSteps plan.sorted.steps.length)
 let stepsById ← plan.sorted.steps.foldlM (registerStep plan.limits) ∅
 plan.sorted.steps.forM (checkDependencies stepsById)
 return stepsById

def TaskPlan.normalized (plan:TaskPlan) : Except TaskPlanError TaskPlan := do
 let stepsById ← plan.indexSteps
 let _ ← visitSteps stepsById
 plan.sorted.contextAccess.forM (checkAccess stepsById plan.sorted.contextResources)
 return plan.sorted

def TaskPlan.fromParts (planId objective:String) (steps:List TaskStep)
  (limits:TaskPlanLimits) (contextResources:List String)
  (contextAccess:List TaskContextAccess) : Except TaskPlanError TaskPlan :=
 TaskPlan.normalized ⟨planId,objective,steps,limits,contextResources,contextAccess⟩

/-- `push_step_after_dependencies` on `visited` and `ordered`, to a depth of recursion. -/
def pushStepAfterDependencies (stepsById:StepsById) :
  ℕ→Finset String×List String→String→Finset String×List String
 | 0, s, _=>s
 | depth+1, (visited,ordered), stepId=>
  if stepId∈visited then (visited,ordered)
  else
   let (visited,ordered):=(dependenciesOf stepsById stepId).foldl
    (pushStepAfterDependencies stepsById depth) (insert stepId visited,ordered)
   (visited,ordered++[stepId])

def TaskPlan.stepsById (plan:TaskPlan) : StepsById :=
 ExtTreeMap.ofList (plan.steps.map fun step=>(step.stepId,step))

def TaskPlan.dependencyOrderedStepIds (plan:TaskPlan) : List String :=
 (plan.stepsById.keys.foldl
  (pushStepAfterDependencies plan.stepsById (recursionDepth plan.stepsById)) (∅,[])).2

structure TaskContextMode where
 reads:Bool
 writes:Bool

def TaskContextMode.fromMode (mode:String) : TaskContextMode :=
 if mode = "write" then ⟨false,true⟩
 else if mode = "read_write" then ⟨true,true⟩
 else ⟨true,false⟩

def TaskContextMode.merge (self:TaskContextMode) (mode:String) : TaskContextMode :=
 { reads:=self.reads||(fromMode mode).reads,writes:=self.writes||(fromMode mode).writes }

def contextConflictKind (left right:TaskContextMode) : Option TaskContextConflictKind :=
 if !left.writes && !right.writes then none
 else if left.writes&&right.writes then some .writeWrite
 else if left.writes&&right.reads then some .writeRead
 else some .readWrite

abbrev AccessByStep := ExtTreeMap String TaskContextMode

def recordAccess (accessByResource:ExtTreeMap String AccessByStep)
  (access:TaskContextAccess) : ExtTreeMap String AccessByStep :=
 let byStep:=accessByResource.getD access.resourceId ∅
 let mode:=match byStep[access.stepId]? with
  | some mode=>mode.merge access.mode
  | none=>.fromMode access.mode
 accessByResource.insert access.resourceId (byStep.insert access.stepId mode)

def TaskPlan.accessByResource (plan:TaskPlan) : ExtTreeMap String AccessByStep :=
 plan.contextAccess.foldl recordAccess ∅

def positionsOf (order:List String) : ExtTreeMap String ℕ := ExtTreeMap.ofList order.zipIdx

/-- Accesses by the positions of their steps, and by the steps where these agree. -/
def accessBefore (positions:ExtTreeMap String ℕ) (left right:String×TaskContextMode) : Prop :=
 toLex (positions.getD left.1 0,left.1)≤toLex (positions.getD right.1 0,right.1)

instance (positions:ExtTreeMap String ℕ) : DecidableRel (accessBefore positions) :=
 fun _ _=>inferInstanceAs (Decidable (_≤_))

/-- The elements at `left_index` and `right_index`, for all pairs of indices in order. -/
def indexPairs {α:Type} : List α→List (α×α)
 | []=>[]
 | a::rest=>rest.map (a,·)++indexPairs rest

def conflictEdge (resourceId:String) (pair:(String×TaskContextMode)×(String×TaskContextMode)) :
  Option TaskContextAccessEdge :=
 (contextConflictKind pair.1.2 pair.2.2).map fun conflict=>
  { fromStepId:=pair.1.1,toStepId:=pair.2.1,resourceId,conflict }

def resourceEdges (positions:ExtTreeMap String ℕ) (resource:String×AccessByStep) :
  List TaskContextAccessEdge :=
 (indexPairs (resource.2.toList.insertionSort (accessBefore positions))).filterMap
  (conflictEdge resource.1)

def edgeOrder (left right:TaskContextAccessEdge) : Prop :=
 toLex (left.fromStepId,toLex (left.toStepId,toLex (left.resourceId,left.conflict.asStr))) ≤
  toLex (right.fromStepId,toLex (right.toStepId,toLex (right.resourceId,right.conflict.asStr)))

instance : DecidableRel edgeOrder := fun _ _=>inferInstanceAs (Decidable (_≤_))

def TaskPlan.contextAccessGraph (plan:TaskPlan) : List TaskContextAccessEdge :=
 (plan.accessByResource.toList.flatMap
  (resourceEdges (positionsOf plan.dependencyOrderedStepIds))).insertionSort edgeOrder

end GraphBlocks.TaskPlans
