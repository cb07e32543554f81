import GraphBlocks.ExhaustionModel

namespace GraphBlocks.Exhaustion
open Std OrderedMap RustStd Usage Budget ChildBudget MachineRuns List

variable {checks:OverflowChecks} {c c':ExhaustionController}

def FitsI64 (n:ℤ) : Prop := i64Min≤n∧n ≤ i64Max

lemma wrapI64_fits(n:ℤ):FitsI64 (wrapI64 n):=by
 unfold FitsI64 wrapI64 i64Min i64Max
 omega

lemma wrapI64_eq{n:ℤ}(h:FitsI64 n):wrapI64 n=n:=by
 unfold FitsI64 i64Min i64Max at h
 unfold wrapI64
 omega

lemma wrapI64_add(a b:ℤ):wrapI64 (wrapI64 a+b)=wrapI64 (a+b):=by
 unfold wrapI64
 omega

variable {m:AmountMap} {es:List (AmountKey×ℤ)}

lemma amountAt_wrapping{m':AmountMap}
  (h:accumulate (fun _=>Panic.overflow) (addI64 .off) es m=.ok m')
  (hm:∀key,FitsI64 (amountAt m key))(key:AmountKey):
  amountAt m' key=wrapI64 (amountAt m key+totalAt es key):=by
 induction es generalizing m with
 | nil=>
  cases h
  rw [totalAt_nil,add_zero,wrapI64_eq (hm key)]
 | cons e es ih=>
  obtain ⟨total,ht,hrest⟩:=accumulate_cons_ok.mp h
  have htotal:total=wrapI64 (amountAt m e.1+e.2):=(Option.some.inj ht).symm
  have hkept:∀key,FitsI64 (amountAt (m.insert e.1 total) key):=by
   intro k
   rw [amountAt_insert]
   split
   · exact htotal▸wrapI64_fits _
   · exact hm k
  rw [ih hrest hkept,amountAt_insert,totalAt_cons]
  split
  · next hkey=>rw [htotal,wrapI64_add,hkey,add_assoc]
  · rw [zero_add]

lemma usageTotals_exact{amounts:List UsageAmount}(h:usageTotals checks amounts=.ok m)
  {key:AmountKey}(hfits:checks=.on∨FitsI64 (amountOf amounts key)):
  amountAt m key=amountOf amounts key:=by
 have hempty:amountAt ∅ key=0:=by simp
 cases checks with
 | on=>
  rw [amountAt_accumulate h,hempty,zero_add]
  rfl
 | off=>
  have hfits:FitsI64 (amountOf amounts key):=by simpa using hfits
  rw [amountAt_wrapping h empty_range,hempty,zero_add]
  exact wrapI64_eq hfits

lemma accumulate_entered{ε:Type}{overflow:AmountKey→ε}{op:ℤ→ℤ→Option ℤ}
  {m':AmountMap}(h:accumulate overflow op es m=.ok m')
  {key:AmountKey}(hkey:(∃n,m[key]?=some n) ∨ ∃e∈es,e.1=key):
  ∃n,m'[key]?=some n:=by
 induction es generalizing m with
 | nil=>
  cases h
  simpa using hkey
 | cons e es ih=>
  obtain ⟨total,-,hrest⟩:=accumulate_cons_ok.mp h
  apply ih hrest
  rw [lookup_insert]
  split
  · exact .inl ⟨total,rfl⟩
  · next hne=>
    rcases hkey with hm|⟨f,hf,hfkey⟩
    · exact .inl hm
    · rcases mem_cons.mp hf with rfl|hf
      · exact absurd hfkey hne
      · exact .inr ⟨f,hf,hfkey⟩

/-- The projected totals of the used amounts are within those of the declared maximum. -/
structure WithinDeclared (checks:OverflowChecks) (declared used:List UsageAmount)
  (allowed projected:AmountMap) : Prop where
 declaredTotals:usageTotals checks declared=.ok allowed
 usedTotals:usageTotals checks used=.ok projected
 within:∀entry∈projected.toList,entry.2≤amountAt allowed entry.1

/-- The usage of admitted later work fits its permit and the declared maximum. -/
structure UsageAdmitted (checks:OverflowChecks) (c:ExhaustionController)
  (envelope:ContinuationEnvelope) (call:Call) (permit:BudgetPermit) : Prop where
 effective:call.permit.or c.continuationPermit=some permit
 covered:allows permit call.requestedUsage=true
 declared:envelope.maxAdditionalUsage≠[] → ∃allowed projected,
  WithinDeclared checks envelope.maxAdditionalUsage
   (c.usedAdditionalUsage++call.requestedUsage) allowed projected

def HardStopWork (c:ExhaustionController) (call:Call) : Prop :=
 call.workKind=.cleanup∨call.workKind=.alreadyAdmittedChildWork∧call.workEpoch≤c.admissionEpoch

/-- Later work enters the record of a controller. -/
structure Charged (checks:OverflowChecks) (c:ExhaustionController) (call:Call)
  (envelope:ContinuationEnvelope) (steps:UInt32) : Prop where
 continuation:c.policy.continuation=some envelope
 later:c.admissionEpoch<call.workEpoch
 usage:call.requestedUsage≠[] → ∃permit,UsageAdmitted checks c envelope call permit
 below:∀maxSteps,envelope.maxAdditionalSteps=some maxSteps→c.usedAdditionalSteps< maxSteps
 counted:nextStep checks c.usedAdditionalSteps=.ok steps

inductive Effect (checks:OverflowChecks) (c:ExhaustionController) (call:Call) :
  Except Panic AdmissionDecision→ExhaustionController→Prop
 | refused {reason:String} : Effect checks c call (.ok ⟨false,reason⟩) c
 | panicked {panic:Panic} : Effect checks c call (.error panic) c
 | earlier {reason:String} (epoch:call.workEpoch≤c.admissionEpoch)
   (hardStop:c.policy.preset=some .hardStop→HardStopWork c call) :
   Effect checks c call (.ok ⟨true,reason⟩) c
 | charged {envelope:ContinuationEnvelope} {steps:UInt32}
   (charge:Charged checks c call envelope steps)
   (hardStop:c.policy.preset=some .hardStop→HardStopWork c call) :
   Effect checks c call (.ok ⟨true,"allowed"⟩) (c.charged steps call.requestedUsage)

lemma callDenied_none{kind:WorkKind}{epoch:ℕ}{permit:Option BudgetPermit}
  (h:c.callDenied kind epoch permit=none)
  (hstop:c.policy.preset=some .hardStop):kind=.cleanup:=by
 unfold ExhaustionController.callDenied at h
 by_contra hkind
 simp [hstop,hkind] at h

variable {envelope:ContinuationEnvelope}

lemma usageDenied_none{call:Call}
  (h:c.usageDenied checks envelope call.permit call.requestedUsage=.ok none):
  ∃permit,UsageAdmitted checks c envelope call permit:=by
 unfold ExhaustionController.usageDenied at h
 cases heffective:call.permit.or c.continuationPermit with
 | none=>
  rw [heffective] at h
  simp at h
 | some permit=>
  rw [heffective] at h
  simp only at h
  split at h
  · cases h
  · next hallows=>
    refine ⟨permit,heffective,by simpa using hallows,fun hdeclared=>?_⟩
    rw [if_neg (by simpa using hdeclared)] at h
    simp only [bind_ok] at h
    obtain ⟨allowed,hallowed,projected,hprojected,h⟩:=h
    split at h
    · cases h
    · next hwithin=>
      refine ⟨allowed,projected,hallowed,hprojected,fun entry hentry=>?_⟩
      by_contra hover
      apply hwithin
      rw [any_eq_true]
      exact ⟨entry,hentry,by simpa using hover⟩

lemma admitWithUsage_effect(call:Call):Effect checks c call
   (c.admitWithUsage checks call.workKind call.workEpoch call.permit call.requestedUsage).1
   (c.admitWithUsage checks call.workKind call.workEpoch call.permit call.requestedUsage).2:=by
 unfold ExhaustionController.admitWithUsage
 cases henvelope:c.policy.continuation with
 | none=>exact .refused
 | some envelope=>
  simp only
  split
  · exact .refused
  split
  · exact .refused
  split
  · next hchild=>exact .earlier hchild.2 fun _=>.inr hchild
  cases hdenied:c.callDenied call.workKind call.workEpoch call.permit with
  | some reason=>exact .refused
  | none=>
   have hstop:c.policy.preset=some .hardStop→HardStopWork c call:=
    fun hstop=>.inl (callDenied_none hdenied hstop)
   simp only
   split
   · exact .panicked
   · exact .refused
   next husage=>
   split
   · exact .refused
   next hsteps=>
   split
   · next hlater=>
     cases hnext:nextStep checks c.usedAdditionalSteps with
     | error panic=>exact .panicked
     | ok steps=>
      refine .charged ⟨henvelope,hlater,fun hrequested=>?_,?_,hnext⟩ hstop
      · rw [if_pos ⟨hlater,hrequested⟩] at husage
        exact usageDenied_none husage
      · intro maxSteps hmax
        rw [hmax] at hsteps
        simpa using hsteps
   · next hearlier=>exact .earlier (Nat.le_of_not_lt hearlier) hstop

lemma step_effect(checks:OverflowChecks)(c:ExhaustionController)(call:Call):
  Effect checks c call (step checks c call).1 (step checks c call).2:=by
 cases call with
 | admitWork kind epoch permit=>exact admitWithUsage_effect (.admitWork kind epoch permit)
 | admitWithUsage kind epoch permit usage=>
  exact admitWithUsage_effect (.admitWithUsage kind epoch permit usage)

lemma nextStep_toNat{steps next maxSteps:UInt32}(h:nextStep checks steps=.ok next)
  (hbelow:steps< maxSteps):next.toNat=steps.toNat+1∧next.toNat≤ maxSteps.toNat:=by
 have hlt:steps.toNat< maxSteps.toNat:=hbelow
 have hmax:=maxSteps.toNat_lt
 have hnext:next=steps+1:=by
  unfold nextStep at h
  cases checks with
  | on=>
   simp only at h
   split at h
   · exact (Except.ok.inj h).symm
   · cases h
  | off=>exact (Except.ok.inj h).symm
 have hsum:next.toNat=steps.toNat+1:=by
  rw [hnext,UInt32.toNat_add]
  exact Nat.mod_eq_of_lt (by simp;omega)
 omega

/-- What the controller of a run says of the work admitted so far. -/
structure Bounded (checks:OverflowChecks) (start:ExhaustionController)
  (past:List AdmissionTransition) (c:ExhaustionController) : Prop where
 policy:c.policy=start.policy
 epoch:c.admissionEpoch=start.admissionEpoch
 stored:c.continuationPermit=start.continuationPermit
 usage:c.usedAdditionalUsage=additionalUsage past
 steps:∀envelope maxSteps,start.policy.continuation=some envelope →
  envelope.maxAdditionalSteps=some maxSteps →
   c.usedAdditionalSteps.toNat=(additionalWork past).length ∧
    (additionalWork past).length≤ maxSteps.toNat
 declared:∀envelope,start.policy.continuation=some envelope →
  envelope.maxAdditionalUsage≠[]→additionalUsage past≠[] → ∃allowed projected,
   WithinDeclared checks envelope.maxAdditionalUsage (additionalUsage past) allowed projected
 effects:∀t∈past,t.before.policy=start.policy∧t.before.admissionEpoch=start.admissionEpoch ∧
  t.before.continuationPermit=start.continuationPermit ∧
  Effect checks t.before t.call t.response t.after

lemma additionalWork_concat(past:List AdmissionTransition)(t:AdmissionTransition):
  additionalWork (past++[t])=additionalWork past ++
   if Admitted t∧t.before.admissionEpoch<t.call.workEpoch then [t] else []:=by
 rw [additionalWork,filter_append,filter_singleton]
 congr 1
 by_cases h:Admitted t∧t.before.admissionEpoch<t.call.workEpoch <;>simp [h]

lemma additionalUsage_concat(past:List AdmissionTransition)(t:AdmissionTransition):
  additionalUsage (past++[t])=additionalUsage past ++
   if Admitted t∧t.before.admissionEpoch<t.call.workEpoch then t.call.requestedUsage
   else []:=by
 rw [additionalUsage,additionalWork_concat,flatMap_append]
 congr 1
 split
 · simp
 · rfl

variable {start:ExhaustionController} {past:List AdmissionTransition}

lemma Bounded.unchanged(h:Bounded checks start past c){t:AdmissionTransition}
  (hbefore:t.before=c)(hnone:¬(Admitted t∧t.before.admissionEpoch<t.call.workEpoch))
  (heffect:Effect checks t.before t.call t.response t.after):
  Bounded checks start (past++[t]) c:=by
 have hwork:additionalWork (past++[t])=additionalWork past:=by
  rw [additionalWork_concat,if_neg hnone,append_nil]
 have husage:additionalUsage (past++[t])=additionalUsage past:=by
  rw [additionalUsage_concat,if_neg hnone,append_nil]
 refine { h with usage:=husage▸h.usage,steps:=hwork▸h.steps,declared := ?_,effects := ?_ }
 · rw [husage]
   exact h.declared
 · intro u hu
   rcases mem_append.mp hu with hu|hu
   · exact h.effects u hu
   · rw [mem_singleton] at hu
     subst hu
     rw [hbefore] at heffect ⊢
     exact ⟨h.policy,h.epoch,h.stored,heffect⟩

lemma Bounded.charge(h:Bounded checks start past c){call:Call}{steps:UInt32}
  (charge:Charged checks c call envelope steps)
  (heffect:Effect checks c call (.ok ⟨true,"allowed"⟩) (c.charged steps call.requestedUsage)):
  Bounded checks start
   (past++[⟨c,call,.ok ⟨true,"allowed"⟩,c.charged steps call.requestedUsage⟩])
   (c.charged steps call.requestedUsage):=by
 have hadmitted:Admitted ⟨c,call,.ok ⟨true,"allowed"⟩,c.charged steps call.requestedUsage⟩:=
  ⟨"allowed",rfl⟩
 have husage:=additionalUsage_concat past
  ⟨c,call,.ok ⟨true,"allowed"⟩,c.charged steps call.requestedUsage⟩
 rw [if_pos ⟨hadmitted,charge.later⟩] at husage
 have hcontinuation:start.policy.continuation=some envelope:=h.policy▸charge.continuation
 refine ⟨h.policy,h.epoch,h.stored,?_,?_,?_,?_⟩
 · rw [husage,←h.usage]
   rfl
 · intro envelope' maxSteps henvelope' hmax
   obtain rfl:envelope=envelope':=Option.some.inj (hcontinuation▸henvelope')
   obtain ⟨hcount,-⟩:=h.steps envelope maxSteps hcontinuation hmax
   obtain ⟨hnext,hle⟩:=nextStep_toNat charge.counted (charge.below maxSteps hmax)
   rw [additionalWork_concat,if_pos ⟨hadmitted,charge.later⟩,length_append]
   change steps.toNat=_∧_
   simp only [length_singleton]
   omega
 · intro envelope' henvelope' hdeclared hsome
   obtain rfl:envelope=envelope':=Option.some.inj (hcontinuation▸henvelope')
   rw [husage] at hsome ⊢
   by_cases hrequested:call.requestedUsage=[]
   · rw [hrequested,append_nil] at hsome ⊢
     exact h.declared envelope hcontinuation hdeclared hsome
   · obtain ⟨permit,hadmits⟩:=charge.usage hrequested
     rw [←h.usage]
     exact hadmits.declared hdeclared
 · intro u hu
   rcases mem_append.mp hu with hu|hu
   · exact h.effects u hu
   · rw [mem_singleton] at hu
     subst hu
     exact ⟨h.policy,h.epoch,h.stored,heffect⟩

lemma Bounded.step(h:Bounded checks start past c)(call:Call):
  Bounded checks start (past++[takeStep (step checks) c call])
   (Exhaustion.step checks c call).2:=by
 have heffect:=step_effect checks c call
 rw [takeStep]
 generalize (Exhaustion.step checks c call).1=response at heffect ⊢
 generalize (Exhaustion.step checks c call).2=after at heffect ⊢
 cases heffect with
 | refused=>
  apply h.unchanged rfl _ .refused
  rintro ⟨⟨reason,hresponse⟩,-⟩
  cases hresponse
 | panicked=>
  apply h.unchanged rfl _ .panicked
  rintro ⟨⟨reason,hresponse⟩,-⟩
  cases hresponse
 | earlier epoch hardStop=>
  apply h.unchanged rfl _ (.earlier epoch hardStop)
  rintro ⟨-,hlater⟩
  exact absurd hlater (Nat.not_lt.mpr epoch)
 | charged charge hardStop=>exact h.charge charge (.charged charge hardStop)

lemma bounded_history(checks:OverflowChecks)(start:ExhaustionController)
  (hsteps:start.usedAdditionalSteps=0)(husage:start.usedAdditionalUsage=[])(calls:List Call):
  Bounded checks start (history (step checks) start calls)
   (execute (step checks) start calls):=by
 apply history_invariant (step checks) (P:=Bounded checks start)
 · refine ⟨rfl,rfl,rfl,husage,?_,?_,by simp⟩
   · intro envelope maxSteps _ _
     rw [hsteps]
     exact ⟨rfl,Nat.zero_le _⟩
   · intro _ _ _ hsome
     exact absurd rfl hsome
 · intro past c call hbounded
   exact hbounded.step call

lemma WithinDeclared.le{declared used:List UsageAmount}{allowed projected:AmountMap}
  (h:WithinDeclared checks declared used allowed projected){amount:UsageAmount}
  (hamount:amount∈used)
  (hfits:checks=.on∨FitsI64 (amountOf used (amountKey amount)) ∧
   FitsI64 (amountOf declared (amountKey amount))):
  amountOf used (amountKey amount)≤amountOf declared (amountKey amount):=by
 have hentry:∃e∈keyedAmounts used,e.1=amountKey amount:=⟨_,mem_map_of_mem hamount,rfl⟩
 obtain ⟨n,hn⟩:=accumulate_entered h.usedTotals (.inr hentry)
 have hle:=h.within (amountKey amount,n) (ExtTreeMap.mem_toList_iff_getElem?_eq_some.mpr hn)
 have hused:=usageTotals_exact h.usedTotals (hfits.imp_right And.left)
 rw [amountAt_of_lookup hn] at hused
 rw [usageTotals_exact h.declaredTotals (hfits.imp_right And.right),hused] at hle
 exact hle

def freshController (policy:ExhaustionPolicy) (atomicUnitId:String) (admissionEpoch:ℕ)
  (permit:Option BudgetPermit) (validationTime:Option String) : ExhaustionController :=
 { ExhaustionController.new policy atomicUnitId admissionEpoch with
   continuationPermit:=permit,validationTime }

structure WithinEnvelope (checks:OverflowChecks) (envelope:ContinuationEnvelope)
  (past:List AdmissionTransition) : Prop where
 steps:∀maxSteps,envelope.maxAdditionalSteps=some maxSteps →
  (additionalWork past).length≤ maxSteps.toNat
 usage:envelope.maxAdditionalUsage≠[] → ∀amount∈additionalUsage past,
  (checks=.on∨FitsI64 (amountOf (additionalUsage past) (amountKey amount)) ∧
   FitsI64 (amountOf envelope.maxAdditionalUsage (amountKey amount))) →
  amountOf (additionalUsage past) (amountKey amount) ≤
   amountOf envelope.maxAdditionalUsage (amountKey amount)

lemma Bounded.withinEnvelope(h:Bounded checks start past c)
  (henvelope:start.policy.continuation=some envelope):WithinEnvelope checks envelope past:=by
 refine ⟨fun maxSteps hmax=>(h.steps envelope maxSteps henvelope hmax).2,?_⟩
 intro hdeclared amount hamount hfits
 obtain ⟨allowed,projected,hwithin⟩:=h.declared envelope henvelope hdeclared (ne_nil_of_mem hamount)
 exact hwithin.le hamount hfits

/-- Any run of admissions on one controller. -/
theorem continuation_bounded (checks : OverflowChecks) (policy : ExhaustionPolicy)
  (atomicUnitId : String) (admissionEpoch : ℕ) (stored : Option BudgetPermit)
  (validationTime : Option String) (calls : List Call) :
  let start := freshController policy atomicUnitId admissionEpoch stored validationTime
  let past:=history (step checks) start calls
  (∀envelope,policy.continuation=some envelope→WithinEnvelope checks envelope past) ∧
  (∀t∈additionalWork past,t.call.requestedUsage≠[] → ∃permit,t.call.permit.or stored=some permit ∧
    ∀key,amountOf t.call.requestedUsage key≤amountOf permit.authorizedAmounts key) ∧
  (policy.preset=some .hardStop → ∀t∈past,Admitted t→t.call.workKind=.cleanup ∨
    t.call.workKind=.alreadyAdmittedChildWork∧t.call.workEpoch≤admissionEpoch) ∧
  ∀t∈past,¬Admitted t→t.after=t.before := by
 intro start past
 have hbounded:=bounded_history checks start rfl rfl calls
 refine ⟨?_,?_,?_,?_⟩
 · intro envelope henvelope
   exact hbounded.withinEnvelope henvelope
 · intro t ht hrequested
   obtain ⟨ht,hkept⟩:=mem_filter.mp ht
   obtain ⟨⟨reason,hresponse⟩,hlater⟩:=of_decide_eq_true hkept
   obtain ⟨-,-,hstored,heffect⟩:=hbounded.effects t ht
   rw [hresponse] at heffect
   generalize t.after=after at heffect
   cases heffect with
   | earlier epoch _=>exact absurd hlater (Nat.not_lt.mpr epoch)
   | charged charge _=>
    obtain ⟨permit,hadmits⟩:=charge.usage hrequested
    refine ⟨permit,?_,((allows_iff _ _).mp hadmits.covered).2.2⟩
    rw [←hadmits.effective,hstored]
    rfl
 · intro hstop t ht hadmitted
   obtain ⟨reason,hresponse⟩:=hadmitted
   obtain ⟨hpolicy,hepoch,-,heffect⟩:=hbounded.effects t ht
   have hpreset:t.before.policy.preset=some .hardStop:=by
    rw [hpolicy]
    exact hstop
   rw [hresponse] at heffect
   generalize t.after=after at heffect
   have hwork:HardStopWork t.before t.call:=by
    cases heffect with
    | earlier _ hardStop=>exact hardStop hpreset
    | charged _ hardStop=>exact hardStop hpreset
   rw [HardStopWork,hepoch] at hwork
   exact hwork
 · intro t ht hnot
   obtain ⟨-,-,-,heffect⟩:=hbounded.effects t ht
   generalize hresponse:t.response=response at heffect
   generalize t.after=after at heffect ⊢
   cases heffect with
   | refused=>rfl
   | panicked=>rfl
   | earlier _ _=>rfl
   | charged _ _=>exact absurd ⟨_,hresponse⟩ hnot

def admittedAgainst (stored:Option BudgetPermit) (permit:BudgetPermit)
  (past:List AdmissionTransition) : List UsageAmount :=
 ((additionalWork past).filter fun t=>t.call.permit.or stored=some permit).flatMap
  fun t=>t.call.requestedUsage

def tokens (amount:ℤ) : UsageAmount where
 kind := "model_output_tokens"
 amount
 unit := "tokens"
 dimensions:=∅

def turnPermit : BudgetPermit where
 permitId := "permit-1"
 reservationRefs:=["reservation-1"]
 owner := "worker:1"
 atomicUnit := "turn:1"
 admissionEpoch:=7
 authorizedAmounts:=[tokens 100]
 continuationProfile := "finish_current_turn"
 policySnapshotDigest := "sha256:policy"
 expiresAt := "2026-06-22T01:00:00Z"
 lowWatermark:=[]
 fencingTokens:=ExtTreeMap.ofList [("budget-1",1)]

def turnPolicy : ExhaustionPolicy :=
 .fromPreset .finishCurrentTurn .turn
  (some { ContinuationEnvelope.new with
   maxAdditionalUsage:=[tokens 200],maxAdditionalSteps:=some 3 })

def finalizeTwice : List Call :=
 [.admitWithUsage .declaredFinalization 8 none [tokens 100],
  .admitWithUsage .checkpoint 8 none [tokens 100]]

theorem permit_admits_twice :
  ¬ ∀(checks:OverflowChecks) (policy:ExhaustionPolicy) (atomicUnitId:String)
   (admissionEpoch:ℕ) (stored:Option BudgetPermit) (validationTime:Option String)
   (calls:List Call) (permit:BudgetPermit) (key:AmountKey),
   amountOf (admittedAgainst stored permit (history (step checks)
     (freshController policy atomicUnitId admissionEpoch stored validationTime) calls)) key ≤
    amountOf permit.authorizedAmounts key := by
 intro h
 have hsum:=h .on turnPolicy "turn:1" 7 (some turnPermit) none finalizeTwice turnPermit
  (amountKey (tokens 100))
 revert hsum
 decide +kernel

lemma fromPreset_continuation(preset:ExhaustionPreset)(unit:ExhaustionUnit)
  (continuation:Option ContinuationEnvelope):
  ∃allowed forbidden,(ExhaustionPolicy.fromPreset preset unit continuation).continuation =
   some ((continuation.getD .new).extend allowed forbidden):=by
 cases preset <;>exact ⟨_,_,rfl⟩

lemma fromPreset_denies(preset:ExhaustionPreset)(unit:ExhaustionUnit)
  (continuation:Option ContinuationEnvelope):
  (ExhaustionPolicy.fromPreset preset unit continuation).denyNewWork=true:=by
 cases preset <;>rfl

/-- The kinds of work that a call can be admitted for. -/
lemma admitted_kind{call:Call}{reason:String}(h:(step checks c call).1=.ok ⟨true,reason⟩)
  (hdenies:c.policy.denyNewWork=true):
  (∃envelope,c.policy.continuation=some envelope∧call.workKind∈envelope.allowedWork ∧
   call.workKind∉envelope.forbiddenWork) ∧
  (c.admissionEpoch<call.workEpoch→call.workKind=.declaredFinalization ∨
   call.workKind=.checkpoint∨call.workKind=.cleanup):=by
 have hstep:(step checks c call).1=(c.admitWithUsage checks call.workKind call.workEpoch call.permit
   call.requestedUsage).1:=by
  cases call <;>rfl
 rw [hstep,ExhaustionController.admitWithUsage] at h
 cases henvelope:c.policy.continuation with
 | none=>simp [henvelope,ExhaustionController.denied] at h
 | some envelope=>
  simp only [henvelope] at h
  split at h
  · cases h
  next hforbidden=>
  split at h
  · cases h
  next hnew=>
  refine ⟨⟨envelope,rfl,by simpa [hdenies] using hnew,hforbidden⟩,fun hlater=>?_⟩
  rw [if_neg (by omega)] at h
  by_contra hkind
  have hdenied:c.callDenied call.workKind call.workEpoch call.permit≠none:=by
   unfold ExhaustionController.callDenied
   grind
  cases hreason:c.callDenied call.workKind call.workEpoch call.permit with
  | none=>exact hdenied hreason
  | some reason=>
   rw [hreason] at h
   cases h

/-- Under every preset a controller stays within the envelope it was given and admits the kinds of
work that the preset and the envelope allow, in later epochs those that wind the unit up. -/
theorem preset_continuation_bounded (checks : OverflowChecks) (preset : ExhaustionPreset)
  (unit : ExhaustionUnit) (envelope : ContinuationEnvelope) (atomicUnitId : String)
  (admissionEpoch : ℕ)
  (stored : Option BudgetPermit) (validationTime : Option String) (calls : List Call) :
  let policy:=ExhaustionPolicy.fromPreset preset unit (some envelope)
  let past:=history (step checks)
   (freshController policy atomicUnitId admissionEpoch stored validationTime) calls
  WithinEnvelope checks envelope past ∧ ∀t∈past,Admitted t →
   (∃extended,policy.continuation=some extended∧t.call.workKind∈extended.allowedWork ∧
    t.call.workKind∉extended.forbiddenWork) ∧
   (admissionEpoch<t.call.workEpoch→t.call.workKind=.declaredFinalization ∨
    t.call.workKind=.checkpoint∨t.call.workKind=.cleanup) := by
 intro policy past
 have hbounded:=bounded_history checks
  (freshController policy atomicUnitId admissionEpoch stored validationTime) rfl rfl calls
 constructor
 · obtain ⟨allowed,forbidden,hcontinuation⟩:=fromPreset_continuation preset unit (some envelope)
   have hwithin:=hbounded.withinEnvelope hcontinuation
   exact ⟨hwithin.steps,hwithin.usage⟩
 · rintro t ht ⟨reason,hresponse⟩
   obtain ⟨hpolicy,hepoch,-⟩:=hbounded.effects t ht
   obtain ⟨before,call,after,-,rfl⟩:=mem_history _ ht
   dsimp only [takeStep] at hpolicy hepoch hresponse ⊢
   have hkind:=admitted_kind hresponse (hpolicy▸fromPreset_denies preset unit (some envelope))
   rwa [hpolicy,hepoch] at hkind

end GraphBlocks.Exhaustion
