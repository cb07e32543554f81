import GraphBlocks.ChildBudgetDelegation
import Mathlib.Data.Finset.Insert

/-! `ExhaustionPolicy::from_preset` and `ExhaustionController::admit_with_usage`. -/
namespace GraphBlocks.Exhaustion
open RustStd Usage Budget ChildBudget MachineRuns

inductive WorkKind where
 | currentProviderCall
 | alreadyAdmittedChildWork
 | declaredFinalization
 | checkpoint
 | cleanup
 | readOnlyTool
 | newTurn
 | planExpansion
 | optionalTask
 | newTrial
 | stateChangingEffect
 | unreservedProviderCall
deriving DecidableEq

inductive ExhaustionPreset where
 | finishCurrentTurn
 | finishCurrentCall
 | finishCurrentStep
 | checkpointAndPause
 | hardStop
 | degradeThenFinalize
 | requestExtension
deriving DecidableEq

def ExhaustionPreset.asStr : ExhaustionPreset→String
 | .finishCurrentTurn=>"finish_current_turn"
 | .finishCurrentCall=>"finish_current_call"
 | .finishCurrentStep=>"finish_current_step"
 | .checkpointAndPause=>"checkpoint_and_pause"
 | .hardStop=>"hard_stop"
 | .degradeThenFinalize=>"degrade_then_finalize"
 | .requestExtension=>"request_extension"

inductive InFlightPolicy where
 | finishCurrentUnit
 | checkpointThenPause
 | degradeAndContinue
 | requestTopupOrApproval
 | cancelImmediately

inductive ExhaustionUnit where
 | providerCall
 | node
 | agentStep
 | turn
 | mapItem
 | task
 | trial
 | run

inductive ClientDelivery where
 | stopImmediately
 | continueToBoundary
 | bufferUntilCommit

inductive DurableResult where
 | none
 | retract
 | markIncomplete
 | commitPartial
 | commitWithExhaustionNotice

inductive EffectPolicy where
 | preserveAtomicity
 | cancelIfSafe
 | finishCommittingEffect
 | compensateIfCommitted

inductive AfterUnitPolicy where
 | reject
 | pause
 | fallback
 | close

structure ContinuationEnvelope where
 allowedWork:Finset WorkKind
 forbiddenWork:Finset WorkKind
 maxAdditionalUsage:List UsageAmount
 maxAdditionalSteps:Option UInt32
 deadline:Option String

def ContinuationEnvelope.new : ContinuationEnvelope where
 allowedWork:=∅
 forbiddenWork:=∅
 maxAdditionalUsage:=[]
 maxAdditionalSteps:=none
 deadline:=none

def ContinuationEnvelope.extend (envelope:ContinuationEnvelope)
  (allowed forbidden:Finset WorkKind) : ContinuationEnvelope :=
 { envelope with
   allowedWork:=envelope.allowedWork ∪ allowed,forbiddenWork:=envelope.forbiddenWork ∪ forbidden }

structure PartialOutputPolicy where
 clientDelivery:ClientDelivery
 durableResult:DurableResult

def PartialOutputPolicy.default : PartialOutputPolicy := ⟨.stopImmediately,.markIncomplete⟩

structure ExhaustionPolicy where
 preset:Option ExhaustionPreset
 inFlight:InFlightPolicy
 unit:ExhaustionUnit
 denyNewWork:Bool
 continuation:Option ContinuationEnvelope
 maxOverdraft:List UsageAmount
 deadline:Option String
 output:PartialOutputPolicy
 effects:EffectPolicy
 afterUnit:AfterUnitPolicy

/-- The record that every arm of `from_preset` builds. -/
def ExhaustionPolicy.ofPreset (preset:ExhaustionPreset) (unit:ExhaustionUnit)
  (inFlight:InFlightPolicy) (envelope:ContinuationEnvelope) (output:PartialOutputPolicy)
  (afterUnit:AfterUnitPolicy) : ExhaustionPolicy where
 preset:=some preset
 inFlight
 unit
 denyNewWork:=true
 continuation:=some envelope
 maxOverdraft:=[]
 deadline:=none
 output
 effects:=.preserveAtomicity
 afterUnit

def ExhaustionPolicy.fromPreset (preset:ExhaustionPreset) (unit:ExhaustionUnit)
  (continuation:Option ContinuationEnvelope) : ExhaustionPolicy :=
 let envelope:=continuation.getD .new
 match preset with
 | .finishCurrentTurn=>
  .ofPreset preset unit .finishCurrentUnit
   (envelope.extend
    {.alreadyAdmittedChildWork,.declaredFinalization,.checkpoint,.cleanup}
    {.newTurn,.planExpansion,.optionalTask,.stateChangingEffect})
   ⟨.continueToBoundary,.commitWithExhaustionNotice⟩ .reject
 | .hardStop=>
  .ofPreset preset unit .cancelImmediately
   (envelope.extend {.cleanup}
    {.newTurn,.planExpansion,.unreservedProviderCall,.stateChangingEffect})
   .default .reject
 | .checkpointAndPause=>
  .ofPreset preset unit .checkpointThenPause
   (envelope.extend {.checkpoint,.cleanup} {.newTurn,.optionalTask,.newTrial})
   ⟨.stopImmediately,.commitPartial⟩ .pause
 | .degradeThenFinalize=>
  .ofPreset preset unit .degradeAndContinue
   (envelope.extend {.declaredFinalization,.cleanup} {.stateChangingEffect,.optionalTask})
   ⟨.continueToBoundary,.commitWithExhaustionNotice⟩ .fallback
 | .requestExtension=>
  .ofPreset preset unit .requestTopupOrApproval
   (envelope.extend {.checkpoint,.cleanup}
    {.newTurn,.planExpansion,.optionalTask,.newTrial})
   ⟨.stopImmediately,.commitPartial⟩ .pause
 | .finishCurrentCall | .finishCurrentStep=>
  .ofPreset preset unit .finishCurrentUnit
   (envelope.extend {.currentProviderCall,.cleanup} ∅) .default .reject

structure AdmissionDecision where
 allowed:Bool
 reason:String

structure ExhaustionController where
 policy:ExhaustionPolicy
 atomicUnitId:String
 admissionEpoch:ℕ
 continuationPermit:Option BudgetPermit
 validationTime:Option String
 usedAdditionalSteps:UInt32
 usedAdditionalUsage:List UsageAmount

namespace ExhaustionController

def new (policy:ExhaustionPolicy) (atomicUnitId:String) (admissionEpoch:ℕ) :
  ExhaustionController where
 policy
 atomicUnitId
 admissionEpoch
 continuationPermit:=none
 validationTime:=none
 usedAdditionalSteps:=0
 usedAdditionalUsage:=[]

end ExhaustionController

/-- `overflow-checks` of the build profile. -/
inductive OverflowChecks where
 | on
 | off

/-- An arithmetic overflow that the build checks for. -/
inductive Panic where
 | overflow

/-- The `i64` with the same low 64 bits. -/
def wrapI64 (n:ℤ) : ℤ := (n+2^63) % 2^64-2^63

def addI64 (checks:OverflowChecks) (a b:ℤ) : Option ℤ :=
 match checks with
 | .on=>checkedAddI64 a b
 | .off=>some (wrapI64 (a+b))

def nextStep (checks:OverflowChecks) (steps:UInt32) : Except Panic UInt32 :=
 match checks with
 | .on=>if steps.toNat+1<2^32 then .ok (steps+1) else .error .overflow
 | .off=>.ok (steps+1)

/-- `*totals.entry(key).or_insert(0) += amount.amount` over the listed amounts. -/
def usageTotals (checks:OverflowChecks) (amounts:List UsageAmount) : Except Panic AmountMap :=
 accumulate (fun _=>.overflow) (addI64 checks) (keyedAmounts amounts) ∅

namespace ExhaustionController

variable (controller:ExhaustionController)

def validPermit (permit:BudgetPermit) : Bool :=
 !isBlank permit.permitId && !isBlank permit.owner &&
  !permit.reservationRefs.isEmpty&&decide permit.reservationRefs.Nodup &&
  (permit.reservationRefs.all fun reservationRef => !isBlank reservationRef) &&
  !isBlank permit.policySnapshotDigest && !permit.fencingTokens.isEmpty &&
  (permit.fencingTokens.toList.all fun entry => !isBlank entry.1&&decide (0<entry.2)) &&
  decide (permit.atomicUnit=controller.atomicUnitId) &&
  (controller.policy.preset.any fun preset=>permit.continuationProfile=preset.asStr) &&
  decide (permit.admissionEpoch=controller.admissionEpoch) &&
  controller.validationTime.all fun validationTime=>permit.isActiveAt validationTime

def denied (reason:String) : AdmissionDecision := ⟨false,reason⟩

/-- The checks of a single call: what it is denied for, before the accumulated bounds. -/
def callDenied (workKind:WorkKind) (workEpoch:ℕ) (permit:Option BudgetPermit) : Option String :=
 let later:=decide (workEpoch > controller.admissionEpoch)
 let permitsCheckpointPauseSafetyWork:=
  controller.policy.preset=some .checkpointAndPause∧(workKind=.checkpoint∨workKind=.cleanup)
 let permitsDegradedFinalization:=
  controller.policy.preset=some .degradeThenFinalize ∧
   (workKind=.declaredFinalization∨workKind=.cleanup)
 if controller.policy.preset=some .hardStop∧workKind ≠ .cleanup then some "hard_stop"
 else if permit.any fun permit => !controller.validPermit permit then some "invalid_permit"
 else if later∧¬(workKind=.declaredFinalization∨workKind=.checkpoint∨workKind=.cleanup) then
  some "new_work_denied"
 else if later∧permit.isNone∧¬permitsCheckpointPauseSafetyWork∧¬permitsDegradedFinalization then
  match controller.continuationPermit with
  | some storedPermit=>if !controller.validPermit storedPermit then some "invalid_permit" else none
  | none=>some "missing_continuation_permit"
 else none

/-- The bounds on the usage that work of a later epoch requests. -/
def usageDenied (checks:OverflowChecks) (envelope:ContinuationEnvelope) (permit:Option BudgetPermit)
  (requestedUsage:List UsageAmount) : Except Panic (Option String) :=
 match permit.or controller.continuationPermit with
 | none=>.ok (some "missing_continuation_permit")
 | some effectivePermit=>
  if !allows effectivePermit requestedUsage then .ok (some "usage_exceeds_permit")
  else if envelope.maxAdditionalUsage.isEmpty then .ok none
  else do
   let allowedUsage ← usageTotals checks envelope.maxAdditionalUsage
   let projectedUsage ← usageTotals checks (controller.usedAdditionalUsage++requestedUsage)
   if projectedUsage.toList.any fun entry=>entry.2 > amountAt allowedUsage entry.1 then
    .ok (some "max_additional_usage_exceeded")
   else .ok none

/-- The controller after later work was admitted. -/
def charged (steps:UInt32) (requestedUsage:List UsageAmount) : ExhaustionController :=
 { controller with
   usedAdditionalSteps:=steps,usedAdditionalUsage:=controller.usedAdditionalUsage++requestedUsage }

def admitWithUsage (checks:OverflowChecks) (workKind:WorkKind) (workEpoch:ℕ)
  (permit:Option BudgetPermit) (requestedUsage:List UsageAmount) :
  Except Panic AdmissionDecision×ExhaustionController :=
 match controller.policy.continuation with
 | none=>(.ok (denied "missing_continuation"),controller)
 | some envelope=>
  if workKind∈envelope.forbiddenWork then (.ok (denied "forbidden_work"),controller)
  else if controller.policy.denyNewWork∧workKind∉envelope.allowedWork then
   (.ok (denied "new_work_denied"),controller)
  else if workKind=.alreadyAdmittedChildWork∧workEpoch≤controller.admissionEpoch then
   (.ok ⟨true,"already_admitted"⟩,controller)
  else
   match controller.callDenied workKind workEpoch permit with
   | some reason=>(.ok (denied reason),controller)
   | none=>
    let usage:=if workEpoch > controller.admissionEpoch∧requestedUsage≠[] then
      controller.usageDenied checks envelope permit requestedUsage
     else .ok none
    match usage with
    | .error panic=>(.error panic,controller)
    | .ok (some reason)=>(.ok (denied reason),controller)
    | .ok none=>
     if envelope.maxAdditionalSteps.any fun maxSteps=>
       controller.usedAdditionalSteps ≥ maxSteps then
      (.ok (denied "max_additional_steps_exceeded"),controller)
     else if workEpoch > controller.admissionEpoch then
      match nextStep checks controller.usedAdditionalSteps with
      | .error panic=>(.error panic,controller)
      | .ok steps=>(.ok ⟨true,"allowed"⟩,controller.charged steps requestedUsage)
     else (.ok ⟨true,"allowed"⟩,controller)

def admitWork (checks:OverflowChecks) (workKind:WorkKind) (workEpoch:ℕ)
  (permit:Option BudgetPermit) : Except Panic AdmissionDecision×ExhaustionController :=
 controller.admitWithUsage checks workKind workEpoch permit []

end ExhaustionController

inductive Call where
 | admitWork (workKind:WorkKind) (workEpoch:ℕ) (permit:Option BudgetPermit)
 | admitWithUsage (workKind:WorkKind) (workEpoch:ℕ) (permit:Option BudgetPermit)
   (requestedUsage:List UsageAmount)

namespace Call

def workKind : Call→WorkKind
 | admitWork workKind _ _=>workKind
 | admitWithUsage workKind _ _ _=>workKind

def workEpoch : Call→ℕ
 | admitWork _ workEpoch _=>workEpoch
 | admitWithUsage _ workEpoch _ _=>workEpoch

def permit : Call→Option BudgetPermit
 | admitWork _ _ permit=>permit
 | admitWithUsage _ _ permit _=>permit

def requestedUsage : Call→List UsageAmount
 | admitWork _ _ _=>[]
 | admitWithUsage _ _ _ requestedUsage=>requestedUsage

end Call

def step (checks:OverflowChecks) (controller:ExhaustionController) :
  Call→Except Panic AdmissionDecision×ExhaustionController
 | .admitWork workKind workEpoch permit=>controller.admitWork checks workKind workEpoch permit
 | .admitWithUsage workKind workEpoch permit requestedUsage=>
  controller.admitWithUsage checks workKind workEpoch permit requestedUsage

abbrev AdmissionTransition := Transition ExhaustionController Call (Except Panic AdmissionDecision)

/-- The call was answered with an admission. -/
def Admitted (t:AdmissionTransition) : Prop := ∃reason,t.response=.ok ⟨true,reason⟩

instance (t:AdmissionTransition) : Decidable (Admitted t) :=
 match h : t.response with
 | .ok ⟨true,reason⟩=>isTrue ⟨reason,h⟩
 | .ok ⟨false,reason⟩=>isFalse fun ⟨_,h'⟩=>by rw [h] at h';cases h'
 | .error panic=>isFalse fun ⟨_,h'⟩=>by rw [h] at h';cases h'

def additionalWork (past:List AdmissionTransition) : List AdmissionTransition :=
 past.filter fun t=>Admitted t∧t.before.admissionEpoch<t.call.workEpoch

def additionalUsage (past:List AdmissionTransition) : List UsageAmount :=
 (additionalWork past).flatMap fun t=>t.call.requestedUsage

end GraphBlocks.Exhaustion
