import GraphBlocks.BudgetAmounts

/-! `ChildBudgetDelegation::create_child_permit` and the ledger in which it counts what the
children of a permit may spend. -/
namespace GraphBlocks.ChildBudget
open Std OrderedMap Usage PolicyTime Budget MachineRuns List Std.ExtTreeMap

def allows (permit:BudgetPermit) (amounts:List UsageAmount) : Bool :=
 match validateUsageAmounts permit.authorizedAmounts, validateUsageAmounts amounts with
 | .ok (), .ok ()=>
  match amountsToMap permit.authorizedAmounts, amountsToMap amounts with
  | .ok authorized, .ok requested=>
   requested.toList.all fun entry=>entry.2≤amountAt authorized entry.1
  | _, _=>false
 | _, _=>false

inductive ChildBudgetDelegationError where
 | parentPermitDoesNotCoverDelegation (permitId:String)
 | parentPermitConflict (permitId:String)
 | delegationConflict (delegationId:String)
 | delegationOutlivesParent (delegationId permitId:String)
 | delegatedAmountOverflow (permitId:String)
deriving DecidableEq

structure ChildBudgetDelegationLedger where
 parentPermits:StringMap BudgetPermit
 delegatedAmounts:StringMap (List UsageAmount)
 childPermits:StringMap BudgetPermit

def ChildBudgetDelegationLedger.new : ChildBudgetDelegationLedger := ⟨∅,∅,∅⟩

structure ChildBudgetDelegation where
 delegationId:String
 parentPermit:BudgetPermit
 childOwner:String
 amounts:List UsageAmount
 expiresAt:String
 continuationProfile:Option String

def aggregateDelegatedAmounts (amounts:List UsageAmount) : Option (List UsageAmount) :=
 match accumulate (fun _=>()) checkedAddI64 (keyedAmounts amounts) ∅ with
 | .ok totals=>some (mapToAmounts totals)
 | .error _=>none

namespace ChildBudgetDelegation

variable (delegation:ChildBudgetDelegation)

def childPermit (permitId:String) : BudgetPermit :=
 { delegation.parentPermit with
   permitId
   owner:=delegation.childOwner
   authorizedAmounts:=delegation.amounts
   continuationProfile:=
    delegation.continuationProfile.getD delegation.parentPermit.continuationProfile
   expiresAt:=delegation.expiresAt
   lowWatermark:=[] }

def withinParentLifetime : Bool :=
 match parsePolicyDatetimeMillis delegation.parentPermit.expiresAt,
   parsePolicyDatetimeMillis delegation.expiresAt with
 | some parentExpiry, some childExpiry=>childExpiry≤parentExpiry
 | _, _=>false

def cumulativeAmounts (ledger:ChildBudgetDelegationLedger) : List UsageAmount :=
 ledger.delegatedAmounts.getD delegation.parentPermit.permitId []++delegation.amounts

def entered (permitId:String) (ledger:ChildBudgetDelegationLedger)
  (cumulative:List UsageAmount) : ChildBudgetDelegationLedger where
 parentPermits:=ledger.parentPermits.insertIfNew delegation.parentPermit.permitId
  delegation.parentPermit
 delegatedAmounts:=ledger.delegatedAmounts.insert delegation.parentPermit.permitId cumulative
 childPermits:=ledger.childPermits.insert delegation.delegationId (delegation.childPermit permitId)

def createChildPermit (permitId:String) (ledger:ChildBudgetDelegationLedger) :
  Except ChildBudgetDelegationError BudgetPermit×ChildBudgetDelegationLedger :=
 let parentPermitId:=delegation.parentPermit.permitId
 if !delegation.withinParentLifetime then
  (.error (.delegationOutlivesParent delegation.delegationId parentPermitId),ledger)
 else if !allows delegation.parentPermit delegation.amounts then
  (.error (.parentPermitDoesNotCoverDelegation parentPermitId),ledger)
 else if ledger.parentPermits[parentPermitId]?.any fun existing=>
   existing != delegation.parentPermit then
  (.error (.parentPermitConflict parentPermitId),ledger)
 else
  match ledger.childPermits[delegation.delegationId]? with
  | some existing=>
   if existing=delegation.childPermit permitId then (.ok existing,ledger)
   else (.error (.delegationConflict delegation.delegationId),ledger)
  | none=>
   match aggregateDelegatedAmounts (delegation.cumulativeAmounts ledger) with
   | none=>(.error (.delegatedAmountOverflow parentPermitId),ledger)
   | some cumulative=>
    if !allows delegation.parentPermit cumulative then
     (.error (.parentPermitDoesNotCoverDelegation parentPermitId),ledger)
    else (.ok (delegation.childPermit permitId),delegation.entered permitId ledger cumulative)

end ChildBudgetDelegation

/-- One call of `create_child_permit`. -/
structure Call where
 delegation:ChildBudgetDelegation
 permitId:String

def Call.parent (call:Call) : BudgetPermit := call.delegation.parentPermit

def Call.child (call:Call) : BudgetPermit := call.delegation.childPermit call.permitId

def step (ledger:ChildBudgetDelegationLedger) (call:Call) :
  Except ChildBudgetDelegationError BudgetPermit×ChildBudgetDelegationLedger :=
 call.delegation.createChildPermit call.permitId ledger

abbrev DelegationTransition :=
 Transition ChildBudgetDelegationLedger Call (Except ChildBudgetDelegationError BudgetPermit)

def childOf (parent:BudgetPermit) (t:DelegationTransition) : Option BudgetPermit :=
 match t.response with
 | .ok permit=>if t.call.parent=parent then some permit else none
 | .error _=>none

def childrenOf (parent:BudgetPermit) (past:List DelegationTransition) : List BudgetPermit :=
 past.filterMap (childOf parent)

def authorizedAt (permit:BudgetPermit) (key:AmountKey) : ℤ := amountOf permit.authorizedAmounts key

lemma allows_iff(permit:BudgetPermit)(amounts:List UsageAmount):allows permit amounts=true ↔
   ValidAmounts permit.authorizedAmounts∧ValidAmounts amounts ∧
    ∀key,amountOf amounts key≤authorizedAt permit key:=by
 unfold allows
 cases hauthorized:validateUsageAmounts permit.authorizedAmounts with
 | error e=>
  have hnot:¬ValidAmounts permit.authorizedAmounts:=by
   rw [←validateUsageAmounts_ok_iff,hauthorized]
   simp
  simp [hnot]
 | ok u=>
  cases hamounts:validateUsageAmounts amounts with
  | error e=>
   have hnot:¬ValidAmounts amounts:=by
    rw [←validateUsageAmounts_ok_iff,hamounts]
    simp
   simp [hnot]
  | ok u=>
   have hv:=(validateUsageAmounts_ok_iff _).mp hauthorized
   have hv':=(validateUsageAmounts_ok_iff _).mp hamounts
   obtain ⟨authorized,hmap,hbalance,hat⟩:=amountsToMap_ok hv
   obtain ⟨requested,hmap',hbalance',hat'⟩:=amountsToMap_ok hv'
   simp only [hmap,hmap',hv,hv',true_and,all_eq_true,decide_eq_true_eq]
   constructor
   · intro h key
     rw [authorizedAt,amountOf,amountOf,←hat,←hat']
     rw [amountAt_eq requested]
     cases hentry:requested[key]? with
     | none=>exact (hbalance.range key).1
     | some n=>exact h (key,n) (mem_toList_iff_getElem?_eq_some.mpr hentry)
   · rintro h ⟨key,n⟩ hentry
     have hn:=amountAt_of_lookup (mem_toList_iff_getElem?_eq_some.mp hentry)
     have hkey:=h key
     rw [authorizedAt,amountOf,amountOf,←hat,←hat',hn] at hkey
     exact hkey

lemma amountOf_append(a b:List UsageAmount)(key:AmountKey):
  amountOf (a++b) key=amountOf a key+amountOf b key:=by
 simp only [amountOf,keyedAmounts,map_append,totalAt_append]

lemma amountOf_aggregate{amounts totals:List UsageAmount}
  (h:aggregateDelegatedAmounts amounts=some totals)(key:AmountKey):
  amountOf totals key=amountOf amounts key:=by
 unfold aggregateDelegatedAmounts at h
 split at h
 · next m hm=>
   cases h
   rw [(accumulate_canonical hm).amountOf_mapToAmounts,amountAt_accumulate hm,amountAt_empty,
    zero_add]
   rfl
 · cases h

lemma amountOf_nonneg{amounts:List UsageAmount}(h:ValidAmounts amounts)(key:AmountKey):
  0≤amountOf amounts key:=totalAt_nonneg (keyedAmounts_nonneg h.nonneg) key

/-- What holds of every call that succeeds, whether it enters a delegation or meets it again. -/
structure Admissible (ledger:ChildBudgetDelegationLedger) (call:Call) : Prop where
 lifetime:call.delegation.withinParentLifetime=true
 covered:allows call.parent call.delegation.amounts=true
 parent:∀existing,ledger.parentPermits[call.parent.permitId]?=some existing→existing=call.parent

structure Enters (ledger:ChildBudgetDelegationLedger) (call:Call)
  (cumulative:List UsageAmount) : Prop extends Admissible ledger call where
 fresh:ledger.childPermits[call.delegation.delegationId]?=none
 amounts:aggregateDelegatedAmounts (call.delegation.cumulativeAmounts ledger)=some cumulative
 allowed:allows call.parent cumulative=true

lemma step_cases(ledger:ChildBudgetDelegationLedger)(call:Call):
  (∃error,step ledger call=(.error error,ledger)) ∨
  (Admissible ledger call∧ledger.childPermits[call.delegation.delegationId]?=some call.child ∧
   step ledger call=(.ok call.child,ledger)) ∨
  (∃cumulative,Enters ledger call cumulative∧step ledger call =
    (.ok call.child,call.delegation.entered call.permitId ledger cumulative)):=by
 unfold step ChildBudgetDelegation.createChildPermit
 by_cases hlife:call.delegation.withinParentLifetime=true
 · by_cases hcovered:allows call.delegation.parentPermit call.delegation.amounts=true
   · simp only [hlife,hcovered,Bool.not_true,Bool.false_eq_true,if_false]
     by_cases hparent:(ledger.parentPermits[call.delegation.parentPermit.permitId]?.any
       fun existing=>existing != call.delegation.parentPermit)=true
     · rw [if_pos hparent]
       exact .inl ⟨_,rfl⟩
     · rw [if_neg hparent]
       have hadmissible:Admissible ledger call:=by
        refine ⟨hlife,hcovered,?_⟩
        intro existing hexisting
        by_contra hne
        apply hparent
        rw [show ledger.parentPermits[call.delegation.parentPermit.permitId]?=some existing
         from hexisting]
        simpa [Call.parent] using hne
       cases hchild:ledger.childPermits[call.delegation.delegationId]? with
       | some existing=>
        simp only
        by_cases hsame:existing=call.delegation.childPermit call.permitId
        · rw [if_pos hsame,hsame]
          exact .inr (.inl ⟨hadmissible,rfl,rfl⟩)
        · rw [if_neg hsame]
          exact .inl ⟨_,rfl⟩
       | none=>
        simp only
        cases haggregate:aggregateDelegatedAmounts
          (call.delegation.cumulativeAmounts ledger) with
        | none=>exact .inl ⟨_,rfl⟩
        | some cumulative=>
         simp only
         by_cases hallowed:allows call.delegation.parentPermit cumulative=true
         · simp only [hallowed,Bool.not_true,Bool.false_eq_true,if_false]
           exact .inr (.inr ⟨cumulative,⟨hadmissible,hchild,haggregate,hallowed⟩,rfl⟩)
         · simp only [hallowed,Bool.not_false,if_true]
           exact .inl ⟨_,rfl⟩
   · simp only [hlife,hcovered,Bool.not_true,Bool.false_eq_true,if_false,Bool.not_false,if_true]
     exact .inl ⟨_,rfl⟩
 · simp only [hlife,Bool.not_false,if_true]
   exact .inl ⟨_,rfl⟩

def enteredFor (parentPermitId:String) (t:DelegationTransition) : Option Call :=
 if t.call.parent.permitId=parentPermitId∧t.response=.ok t.call.child ∧
   t.before.childPermits[t.call.delegation.delegationId]?=none then some t.call
 else none

def entries (parentPermitId:String) (past:List DelegationTransition) : List Call :=
 past.filterMap (enteredFor parentPermitId)

/-- No delegation comes back with the same child permit for another parent. -/
def OneParent (calls:List Call) : Prop :=
 ∀a∈calls,∀b∈calls,a.delegation.delegationId=b.delegation.delegationId →
  a.child=b.child→a.parent=b.parent

lemma entries_concat(id:String)(past:List DelegationTransition)(t:DelegationTransition):
  entries id (past++[t])=entries id past++(enteredFor id t).toList:=filterMap_concat _ _ _

structure Tracked (past:List DelegationTransition) (ledger:ChildBudgetDelegationLedger) : Prop where
 answered:∀t∈past,∀permit,t.response=.ok permit→permit=t.call.child ∧
  t.call.delegation.withinParentLifetime=true ∧
  allows t.call.parent t.call.delegation.amounts=true ∧
  ledger.childPermits[t.call.delegation.delegationId]?=some permit
 known:∀id permit,ledger.childPermits[id]?=some permit →
  ∃call,call.delegation.delegationId=id∧call.child=permit∧call∈entries call.parent.permitId past
 kept:∀id,∀call∈entries id past,ledger.parentPermits[id]?=some call.parent ∧
  ValidAmounts call.delegation.amounts
 counted:∀id key,amountOf (ledger.delegatedAmounts.getD id []) key =
  ((entries id past).map fun call=>amountOf call.delegation.amounts key).sum
 covered:∀id parent,ledger.parentPermits[id]?=some parent → ∀key,
  amountOf (ledger.delegatedAmounts.getD id []) key≤authorizedAt parent key

variable {t:DelegationTransition}

section
variable {past:List DelegationTransition} {ledger:ChildBudgetDelegationLedger} {call:Call}

lemma Tracked.unentered(h:Tracked past ledger)(hentry:∀id,enteredFor id t=none)
  (hanswered:∀permit,t.response=.ok permit→permit=t.call.child ∧
   t.call.delegation.withinParentLifetime=true ∧
   allows t.call.parent t.call.delegation.amounts=true ∧
   ledger.childPermits[t.call.delegation.delegationId]?=some permit):
  Tracked (past++[t]) ledger:=by
 have hentries:∀id,entries id (past++[t])=entries id past:=by
  intro id
  rw [entries_concat,hentry]
  exact append_nil _
 refine ⟨?_,?_,?_,?_,h.covered⟩
 · intro t' ht'
   rcases mem_append.mp ht' with ht'|ht'
   · exact h.answered t' ht'
   · rw [mem_singleton.mp ht']
     exact hanswered
 · intro id permit hpermit
   obtain ⟨call,hid,hchild,hmem⟩:=h.known id permit hpermit
   exact ⟨call,hid,hchild,by rwa [hentries]⟩
 · intro id
   rw [hentries]
   exact h.kept id
 · intro id
   rw [hentries]
   exact h.counted id

lemma getElem?_insertIfNew(m:StringMap BudgetPermit)(permit:BudgetPermit)
  (h:∀existing,m[permit.permitId]?=some existing→existing=permit)(id:String):
  (m.insertIfNew permit.permitId permit)[id]? =
   if permit.permitId=id then some permit else m[id]?:=by
 rw [ExtTreeMap.getElem?_insertIfNew]
 by_cases hid:permit.permitId=id
 · subst hid
   by_cases hmem:permit.permitId∈m
   · obtain ⟨existing,hexisting⟩:=(contains_iff m).mp (mem_iff_contains.mp hmem)
     rw [if_neg (by simp [hmem]),if_pos rfl,hexisting,h existing hexisting]
   · simp [hmem]
 · simp [hid]

lemma Tracked.enters(h:Tracked past ledger){cumulative:List UsageAmount}
  (he:Enters ledger call cumulative)(hcall:t.call=call)
  (hbefore:t.before=ledger)(hresponse:t.response=.ok call.child):
  Tracked (past++[t]) (call.delegation.entered call.permitId ledger cumulative):=by
 subst hcall
 have hentered:∀id,enteredFor id t=if t.call.parent.permitId=id then some t.call else none:=by
  intro id
  simp [enteredFor,hresponse,hbefore,he.fresh]
 have hentries:∀id,entries id (past++[t]) =
   entries id past++if t.call.parent.permitId=id then [t.call] else []:=by
  intro id
  rw [entries_concat,hentered]
  split <;>rfl
 have hparents:=getElem?_insertIfNew ledger.parentPermits t.call.parent he.parent
 have hchildren:∀id,(t.call.delegation.entered t.call.permitId ledger cumulative).childPermits[id]?
   = if t.call.delegation.delegationId=id then some t.call.child else ledger.childPermits[id]? :=
  fun id=>lookup_insert _ _ _ _
 have hamounts:∀id,
   (t.call.delegation.entered t.call.permitId ledger cumulative).delegatedAmounts.getD id [] =
    if t.call.parent.permitId=id then cumulative else ledger.delegatedAmounts.getD id []:=
  fun id=>getD_insert_eq _ _ _ _ _
 have hvalid:=(allows_iff _ _).mp he.covered
 refine ⟨?_,?_,?_,?_,?_⟩
 · intro t' ht' permit hpermit
   rcases mem_append.mp ht' with ht'|ht'
   · obtain ⟨hchild,hlife,hcovered,hstored⟩:=h.answered t' ht' permit hpermit
     refine ⟨hchild,hlife,hcovered,?_⟩
     rw [hchildren,if_neg,hstored]
     intro heq
     rw [←heq,he.fresh] at hstored
     cases hstored
   · rw [mem_singleton] at ht'
     subst ht'
     rw [hresponse] at hpermit
     cases hpermit
     exact ⟨rfl,he.lifetime,he.covered,by rw [hchildren,if_pos rfl]⟩
 · intro id permit hpermit
   rw [hchildren] at hpermit
   split at hpermit
   · next heq=>
     cases hpermit
     refine ⟨t.call,heq,rfl,?_⟩
     rw [hentries,if_pos rfl]
     exact mem_append_right _ (mem_singleton.mpr rfl)
   · obtain ⟨call,hid,hchild,hmem⟩:=h.known id permit hpermit
     refine ⟨call,hid,hchild,?_⟩
     rw [hentries]
     exact mem_append_left _ hmem
 · intro id call hcall
   rw [hentries] at hcall
   have hgoal:(t.call.delegation.entered t.call.permitId ledger cumulative).parentPermits[id]? =
     if t.call.parent.permitId=id then some t.call.parent else ledger.parentPermits[id]? :=
    hparents id
   rw [hgoal]
   rcases mem_append.mp hcall with hcall|hcall
   · obtain ⟨hparent,hamounts'⟩:=h.kept id call hcall
     refine ⟨?_,hamounts'⟩
     by_cases hid:t.call.parent.permitId=id
     · subst hid
       rw [if_pos rfl,he.parent _ hparent]
     · rw [if_neg hid,hparent]
   · by_cases hid:t.call.parent.permitId=id
     · rw [if_pos hid,mem_singleton] at hcall
       rw [if_pos hid,hcall]
       exact ⟨rfl,hvalid.2.1⟩
     · rw [if_neg hid] at hcall
       cases hcall
 · intro id key
   rw [hamounts,hentries]
   by_cases hid:t.call.parent.permitId=id
   · subst hid
     rw [if_pos rfl,if_pos rfl,amountOf_aggregate he.amounts,
      ChildBudgetDelegation.cumulativeAmounts,amountOf_append,map_append,sum_append,
      ← h.counted]
     simp [Call.parent]
   · rw [if_neg hid,if_neg hid,append_nil]
     exact h.counted id key
 · intro id parent hparent key
   have hgoal:(t.call.delegation.entered t.call.permitId ledger cumulative).parentPermits[id]? =
     if t.call.parent.permitId=id then some t.call.parent else ledger.parentPermits[id]? :=
    hparents id
   rw [hgoal] at hparent
   rw [hamounts]
   by_cases hid:t.call.parent.permitId=id
   · rw [if_pos hid] at hparent ⊢
     cases hparent
     exact ((allows_iff _ _).mp he.allowed).2.2 key
   · rw [if_neg hid] at hparent ⊢
     exact h.covered id parent hparent key

lemma tracked_step(call:Call)(h:Tracked past ledger):
  Tracked (past++[takeStep step ledger call]) (step ledger call).2:=by
 rcases step_cases ledger call with ⟨error,hstep⟩|⟨hadmissible,hchild,hstep⟩ |
   ⟨cumulative,he,hstep⟩
 · rw [hstep]
   apply h.unentered
   · intro id
     simp [enteredFor,takeStep,hstep]
   · intro permit hpermit
     simp [takeStep,hstep] at hpermit
 · rw [hstep]
   apply h.unentered
   · intro id
     simp [enteredFor,takeStep,hchild]
   · intro permit hpermit
     simp only [takeStep,hstep,Except.ok.injEq] at hpermit
     subst hpermit
     exact ⟨rfl,hadmissible.lifetime,hadmissible.covered,hchild⟩
 · rw [hstep]
   exact h.enters he rfl rfl (by simp [takeStep,hstep])

lemma step_replay(hadmissible:Admissible ledger call)
  (hchild:ledger.childPermits[call.delegation.delegationId]?=some call.child):
  step ledger call=(.ok call.child,ledger):=by
 have hparent:(ledger.parentPermits[call.delegation.parentPermit.permitId]?.any
   fun existing=>existing != call.delegation.parentPermit)=false:=by
  cases hexisting:ledger.parentPermits[call.delegation.parentPermit.permitId]? with
  | none=>rfl
  | some existing=>
   have heq:existing=call.delegation.parentPermit:=hadmissible.parent existing hexisting
   simp [heq]
 have hlife:=hadmissible.lifetime
 have hcovered:allows call.delegation.parentPermit call.delegation.amounts=true:=hadmissible.covered
 unfold step ChildBudgetDelegation.createChildPermit
 simp only [hlife,hcovered,hparent,hchild,Bool.not_true,Bool.false_eq_true,if_false]
 exact if_pos rfl
end

lemma tracked_history(calls:List Call):
  Tracked (history step .new calls) (execute step .new calls):=by
 apply history_invariant step (P:=Tracked)
 · refine ⟨by simp,?_,by simp [entries],?_,?_⟩
   · intro id permit h
     rw [ChildBudgetDelegationLedger.new,ExtTreeMap.getElem?_empty] at h
     cases h
   · intro id key
     simp [ChildBudgetDelegationLedger.new,entries,amountOf,keyedAmounts]
   · intro id parent h
     rw [ChildBudgetDelegationLedger.new,ExtTreeMap.getElem?_empty] at h
     cases h
 · exact fun past s call h=>tracked_step call h

section
variable {past:List DelegationTransition} {ledger:ChildBudgetDelegationLedger}

lemma mem_childrenOf{parent child:BudgetPermit}:child∈childrenOf parent past ↔
   ∃t∈past,t.response=.ok child∧t.call.parent=parent:=by
 simp only [childrenOf,List.mem_filterMap]
 constructor
 · rintro ⟨t,ht,h⟩
   unfold childOf at h
   split at h
   · next permit hpermit=>
     split at h
     · next hparent=>
       cases h
       exact ⟨t,ht,hpermit,hparent⟩
     · cases h
   · cases h
 · rintro ⟨t,ht,hresponse,hparent⟩
   exact ⟨t,ht,by simp [childOf,hresponse,hparent]⟩

lemma mem_entries{id:String}{call:Call}(h:call∈entries id past):call∈past.map Transition.call:=by
 obtain ⟨t,ht,hentered⟩:=List.mem_filterMap.mp h
 unfold enteredFor at hentered
 split at hentered
 · cases hentered
   exact mem_map_of_mem ht
 · cases hentered

section
variable (h:Tracked past ledger) (hone:OneParent (past.map Transition.call))
include h hone

lemma Tracked.entry(ht:t∈past){child:BudgetPermit}(hresponse:t.response=.ok child):
  ∃call∈entries t.call.parent.permitId past,call.child=child∧call.parent=t.call.parent:=by
 obtain ⟨hchild,-,-,hstored⟩:=h.answered t ht child hresponse
 obtain ⟨call,hid,hsame,hmem⟩:=h.known _ _ hstored
 have hparent:call.parent=t.call.parent:=
  hone call (mem_entries hmem) t.call (mem_map_of_mem ht) hid (hsame.trans hchild)
 exact ⟨call,hparent▸hmem,hsame,hparent⟩

lemma Tracked.children_le{parent:BudgetPermit}(hchildren:childrenOf parent past≠[])(key:AmountKey):
  ((childrenOf parent past).dedup.map fun child=>authorizedAt child key).sum ≤
   authorizedAt parent key:=by
 obtain ⟨child,hchild⟩:=exists_mem_of_ne_nil _ hchildren
 obtain ⟨t,ht,hresponse,hparent⟩:=mem_childrenOf.mp hchild
 obtain ⟨call,hcall,-,hsame⟩:=h.entry hone ht hresponse
 rw [hparent] at hcall hsame
 have hstored:=(h.kept _ call hcall).1
 rw [hsame] at hstored
 have hsub:(childrenOf parent past).dedup.Subperm
   ((entries parent.permitId past).map Call.child):=by
  apply subperm_of_subset (nodup_dedup _)
  intro other hother
  obtain ⟨t',ht',hresponse',hparent'⟩:=mem_childrenOf.mp (mem_dedup.mp hother)
  obtain ⟨call',hcall',hchild',-⟩:=h.entry hone ht' hresponse'
  rw [hparent'] at hcall'
  exact List.mem_map.mpr ⟨call',hcall',hchild'⟩
 obtain ⟨chosen,hperm,hsublist⟩:=hsub
 have hnonneg:∀n∈((entries parent.permitId past).map Call.child).map
   (fun child=>authorizedAt child key),0≤n:=by
  simp only [List.map_map,List.mem_map,forall_exists_index,and_imp]
  rintro n call' hcall' rfl
  exact amountOf_nonneg (h.kept _ call' hcall').2 key
 calc ((childrenOf parent past).dedup.map fun child=>authorizedAt child key).sum
   = (chosen.map fun child=>authorizedAt child key).sum:=(hperm.map _).sum_eq.symm
  _≤(((entries parent.permitId past).map Call.child).map
     fun child=>authorizedAt child key).sum:=(hsublist.map _).sum_le_sum hnonneg
  _=amountOf (ledger.delegatedAmounts.getD parent.permitId []) key:=by
    rw [h.counted,List.map_map]
    rfl
  _≤authorizedAt parent key:=h.covered _ _ hstored key

lemma Tracked.replay(ht:t∈past){permit:BudgetPermit}
  (hresponse:t.response=.ok permit):step ledger t.call=(.ok permit,ledger):=by
 obtain ⟨hchild,hlife,hcovered,hstored⟩:=h.answered t ht permit hresponse
 obtain ⟨call,hcall,-,hparent⟩:=h.entry hone ht hresponse
 have hrecorded:=(h.kept _ call hcall).1
 rw [hparent] at hrecorded
 subst hchild
 refine step_replay ⟨hlife,hcovered,?_⟩ hstored
 intro existing hexisting
 rw [hrecorded] at hexisting
 exact (Option.some.inj hexisting).symm

end
end

def ExpiresWithin (child parent:BudgetPermit) : Prop :=
 ∃childExpiry parentExpiry,parsePolicyDatetimeMillis child.expiresAt=some childExpiry ∧
  parsePolicyDatetimeMillis parent.expiresAt=some parentExpiry∧childExpiry≤parentExpiry

lemma expiresWithin_child{call:Call}(h:call.delegation.withinParentLifetime=true):
  ExpiresWithin call.child call.parent:=by
 unfold ChildBudgetDelegation.withinParentLifetime at h
 split at h
 · next parentExpiry childExpiry hparent hchild=>
   exact ⟨childExpiry,parentExpiry,hchild,hparent,by simpa using h⟩
 · cases h

/-- In a run in which no delegation comes back with the same child permit for another parent, the
distinct children of a permit stay within what it authorizes and none outlives it, a delegation
that is replayed is answered with its permit and adds nothing, and a call that fails changes
nothing. -/
theorem children_stay_within_parents (calls : List Call) (hone : OneParent calls) :
  (∀parent,childrenOf parent (history step .new calls)≠[] → ∀key,
   ((childrenOf parent (history step .new calls)).dedup.map
    fun child=>authorizedAt child key).sum≤authorizedAt parent key) ∧
  (∀parent,∀child∈childrenOf parent (history step .new calls),ExpiresWithin child parent) ∧
  (∀t∈history step .new calls,∀permit,t.response=.ok permit →
   step (execute step .new calls) t.call=(.ok permit,execute step .new calls)) ∧
  (∀call error,(step (execute step .new calls) call).1=.error error →
   (step (execute step .new calls) call).2=execute step .new calls) := by
 have h:=tracked_history calls
 have hone':OneParent ((history step .new calls).map Transition.call):=by rwa [history_calls]
 refine ⟨fun parent hchildren key=>h.children_le hone' hchildren key,?_,?_,?_⟩
 · intro parent child hchild
   obtain ⟨t,ht,hresponse,hparent⟩:=mem_childrenOf.mp hchild
   obtain ⟨heq,hlife,-,-⟩:=h.answered t ht child hresponse
   rw [heq,←hparent]
   exact expiresWithin_child hlife
 · exact fun t ht permit hresponse=>h.replay hone' ht hresponse
 · intro call error herror
   rcases step_cases (execute step .new calls) call with ⟨_,hstep⟩|⟨-,-,hstep⟩ |
     ⟨_,-,hstep⟩
   · rw [hstep]
   · rw [hstep] at herror
     cases herror
   · rw [hstep] at herror
     cases herror

section

def tokens (n:ℤ) : List UsageAmount := [⟨"tokens",n,"token",∅⟩]

def parentNamed (permitId:String) : BudgetPermit where
 permitId
 reservationRefs:=["reservation"]
 owner := "run"
 atomicUnit := "turn"
 admissionEpoch:=1
 authorizedAmounts:=tokens 10
 continuationProfile := "default"
 policySnapshotDigest := "sha256:policy"
 expiresAt := "2026-06-26T01:00:00Z"
 lowWatermark:=[]
 fencingTokens:=∅

def delegationOf (delegationId:String) (parent:BudgetPermit) : ChildBudgetDelegation :=
 ⟨delegationId,parent,"child",tokens 10,"2026-06-26T00:30:00Z",none⟩

def shareOf (delegationId : String) (n : ℤ) : ChildBudgetDelegation :=
 { delegationOf delegationId (parentNamed "a") with amounts := tokens n }

/-- Two children, the first of them delegated once more. -/
def delegated : List Call :=
 [⟨shareOf "first" 4, "child-1"⟩, ⟨shareOf "second" 5, "child-2"⟩, ⟨shareOf "first" 4, "child-1"⟩]

theorem delegated_within :
  (childrenOf (parentNamed "a") (history step .new delegated)).length = 3 ∧
  ((childrenOf (parentNamed "a") (history step .new delegated)).dedup.map
   fun child => authorizedAt child ⟨"tokens", "token", []⟩).sum ≤ 10 := by
 refine ⟨by decide +kernel,?_⟩
 refine (children_stay_within_parents delegated ?_).1 (parentNamed "a") (by decide +kernel)
  ⟨"tokens","token",[]⟩
 intro a ha b hb _ _
 simp only [delegated,mem_cons,not_mem_nil,or_false] at ha hb
 rcases ha with rfl|rfl|rfl <;>rcases hb with rfl|rfl|rfl <;>rfl

/-- The second parent gives away its tokens twice: once to a child that is counted for the first
parent only. -/
def foreignReplay : List Call :=
 [⟨delegationOf "first" (parentNamed "a"),"child-1"⟩,
  ⟨delegationOf "first" (parentNamed "b"),"child-1"⟩,
  ⟨delegationOf "second" (parentNamed "b"),"child-2"⟩]

theorem foreign_replay_exceeds_parent : ¬ ∀(calls:List Call) (parent:BudgetPermit),
   childrenOf parent (history step .new calls)≠[] → ∀key,
   ((childrenOf parent (history step .new calls)).dedup.map
    fun child=>authorizedAt child key).sum≤authorizedAt parent key := by
 intro h
 have hle:=h foreignReplay (parentNamed "b") (by decide +kernel) ⟨"tokens","token",[]⟩
 exact absurd hle (by decide +kernel)
end

end GraphBlocks.ChildBudget
