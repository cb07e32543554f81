import GraphBlocks.PythonLeaseGuarantees

namespace GraphBlocks.PythonLeases
open MachineRuns PythonStd RustStd Option

section
variable {α:Type}

/-- The demands on one call of a run, in the state and after the history before it. -/
structure FencedStep (start:InMemoryLeasePool α) (past:List (PoolTransition α))
  (pool:InMemoryLeasePool α) (input:PoolInput α) : Prop where
 renewal:∀leaseId given expiresAt renewedAt token,
  input.call=.renew leaseId given expiresAt renewedAt →
   (poolStep pool input).1=.ok (.renewed token) → ∃id active renewed,
    id.1=leaseId∧pool.active.get? id=some active ∧
     (poolStep pool input).2.active.get? id=some renewed ∧
      active.fencingToken.1<renewed.fencingToken.1∧renewed.fencingToken.1=token ∧
       ∃old new,active.expiresAt=some old∧renewed.expiresAt=some new∧old<new
 release:∀leaseId given,input.call=.release leaseId given → ∀id active,
  pool.active.get? id=some active→(poolStep pool input).2.active.get? id=none →
   id.1=leaseId∧given=some (active.fencingToken.1:ℤ)
 failure:∀e,(poolStep pool input).1=.error e→(poolStep pool input).2=pool ∨
  ∃now,callTime pool input=some now∧(poolStep pool input).2=reap pool now.1
 validation:∀leaseId given now,input.call=.validateFencingToken leaseId given →
  pool.authorityClock=true→input.reading=.ok now →
   (poolStep pool input).1=.ok .done → ∃id active,id.1=leaseId ∧
    pool.active.get? id=some active∧given=(active.fencingToken.1:ℤ) ∧
     latestToken start past leaseId=some active.fencingToken.1 ∧
      ∀expires,active.expiresAt=some expires→(now:ℚ)<expires.1

def ExpiredValidation (pool:InMemoryLeasePool α) (input:PoolInput α) : Prop :=
 ∃(id:Text) (active:ActiveLease α) (now:ℕ) (expires:Time),
  input.call=.validateFencingToken id.1 active.fencingToken.1 ∧
   pool.authorityClock=true∧input.reading=.ok now ∧
    pool.active.get? id=some active∧active.expiresAt=some expires∧expires.1≤now

section
variable {start pool:InMemoryLeasePool α} {past:List (PoolTransition α)} {input:PoolInput α}
 {leaseId:String} {after:InMemoryLeasePool α}

lemma renewal_fenced{token:ℕ}(h:Outcome pool input (.ok (.renewed token)) after){given:ℤ}
  {expiresAt:Number}{renewedAt:Option Number}
  (hcall:input.call=.renew leaseId given expiresAt renewedAt):
  ∃id active renewed,id.1=leaseId∧pool.active.get? id=some active ∧
   after.active.get? id=some renewed ∧
    active.fencingToken.1<renewed.fencingToken.1∧renewed.fencingToken.1=token ∧
     ∃old new,active.expiresAt=some old∧renewed.expiresAt=some new∧old<new:=by
 cases h with
 | dropped answer after hquiet hdrops=>cases hquiet
 | renewed now id token after given' expiresAt' renewedAt' hcall' hrenews=>
  obtain ⟨active,renewed,hid,hafter,htoken,_,_,hexpires⟩:=hrenews.entry
  rw [hcall] at hcall'
  cases hcall'
  refine ⟨id,active,renewed,rfl,(drops_reap pool now.1).get? hid,?_,?_,htoken,hexpires⟩
  · rw [hafter,Dict.get?_set_self]
  · rw [htoken]
    exact hrenews.fenced.unused id active hid

lemma release_fenced{given:Option ℤ}{id:Text}{active:ActiveLease α}
  (hactive:pool.active.get? id=some active)
  (hgone:(release pool leaseId given).2.active.get? id=none):
  id.1=leaseId∧given=some (active.fencingToken.1:ℤ):=by
 have hkept:pool.active.get? id≠none:=by
  rw [hactive]
  exact some_ne_none active
 simp only [release] at hgone
 split at hgone
 · exact absurd hgone hkept
 · next text htext=>
   split at hgone
   · exact absurd hgone hkept
   · next found hfound=>
     split at hgone
     · exact absurd hgone hkept
     · next hcheck=>
       rw [Dict.get?_pop] at hgone
       split at hgone
       · next hsame=>
         subst hsame
         rw [hactive] at hfound
         cases hfound
         refine ⟨nonEmptyString_ok htext,?_⟩
         cases given with
         | none=>cases hcheck
         | some token=>
          simp only [checkRelease,bind_ok,ensure_ok,beq_iff_eq] at hcheck
          obtain ⟨parsed,hparsed,hequal⟩:=hcheck
          rw [hequal,nonNegativeInteger_ok hparsed]
       · exact absurd hgone hkept

lemma failure_quiet{e:LeaseError}(h:Outcome pool input (.error e) after):
  after=pool ∨ ∃now,callTime pool input=some now∧after=reap pool now.1:=by
 cases h with
 | failed=>exact .inl rfl
 | reaped e now htime=>exact .inr ⟨now,htime,rfl⟩

lemma validateFencingToken_ok{given:ℤ}
  (h:validateFencingToken pool leaseId given=.ok ()):∃id active,id.1=leaseId ∧
   pool.active.get? id=some active∧given=(active.fencingToken.1:ℤ):=by
 simp only [validateFencingToken,bind_ok,ensure_ok,beq_iff_eq] at h
 obtain ⟨_,_,token,htoken,⟨id,active⟩,hactive,hequal⟩:=h
 obtain ⟨hid,hfound⟩:=activeLease_ok hactive
 refine ⟨id,active,hid,hfound,?_⟩
 rw [hequal,nonNegativeInteger_ok htoken]

lemma validateFencingToken_current{id:Text}{active:ActiveLease α}
  (h:pool.active.get? id=some active):
  validateFencingToken pool id.1 active.fencingToken.1=.ok ():=by
 simp only [validateFencingToken,activeLease,nonEmptyString_val,
  nonNegativeInteger_val _ active.fencingToken.2,ok_bind,h]
 exact ensure_ok.mpr (beq_self_eq_true active.fencingToken)

/-- A tracked state meets every demand on its next call, unless the fence is asked about an
expired lease. -/
lemma Tracked.fenced(h:Tracked start past pool)(hlive:¬ExpiredValidation pool input):
  FencedStep start past pool input:=by
 have houtcome:=poolStep_outcome pool input
 constructor
 · intro leaseId given expiresAt renewedAt token hcall hok
   rw [hok] at houtcome
   exact renewal_fenced houtcome hcall
 · intro leaseId given hcall id active hactive hgone
   apply release_fenced hactive
   simp only [poolStep,hcall,answer] at hgone
   exact hgone
 · intro e herror
   rw [herror] at houtcome
   exact failure_quiet houtcome
 · intro leaseId given now hcall hclock hreading hok
   simp only [poolStep,hcall,answer] at hok
   obtain ⟨_,hvalid,_⟩:=except_map_ok.mp hok
   obtain ⟨id,active,rfl,hactive,rfl⟩:=validateFencingToken_ok hvalid
   refine ⟨id,active,rfl,hactive,rfl,h.latest id active hactive,?_⟩
   intro expires hexpires
   by_contra hlate
   exact hlive ⟨id,active,now,expires,hcall,hclock,hreading,hactive,hexpires,not_lt.mp hlate⟩

/-- The fence lets the holder of an expired lease pass. -/
lemma not_fenced_of_expiredValidation(h:ExpiredValidation pool input):
  ¬FencedStep start past pool input:=by
 obtain ⟨id,active,now,expires,hcall,hclock,hreading,hactive,hexpires,hlate⟩:=h
 intro hfenced
 have hok:(poolStep pool input).1=.ok .done:=by
  simp only [poolStep,hcall,answer,validateFencingToken_current hactive]
  rfl
 obtain ⟨id',active',hid,hactive',_,_,hlive⟩:=
  hfenced.validation id.1 active.fencingToken.1 now hcall hclock hreading hok
 obtain rfl:id'=id:=Subtype.ext hid
 rw [hactive] at hactive'
 cases hactive'
 have hlt:=hlive expires hexpires
 exact absurd hlate (not_le.mpr hlt)
end

/-- What a run of the pool guarantees: the leases fit the capacities, no id and no token is issued
twice, and every call meets its demands. -/
structure ConservingAndFenced (start:InMemoryLeasePool α) (inputs:List (PoolInput α)) : Prop where
 conserving:∀resource capacity,
  (execute poolStep start inputs).capacities.get? resource=some capacity →
   usedUnits (execute poolStep start inputs) resource≤capacity.1
 known:∀id active,(execute poolStep start inputs).active.get? id=some active →
  ∃capacity,(execute poolStep start inputs).capacities.get? active.resource=some capacity
 ids:(issuedIds start (history poolStep start inputs)).Nodup
 tokens:((issuedTokens start (history poolStep start inputs)).map Prod.snd).Nodup
 steps:∀before input after,inputs=before++input::after →
  FencedStep start (history poolStep start before) (execute poolStep start before) input

lemma tracked_run{start:InMemoryLeasePool α}(h:Tracked start [] start)(inputs:List (PoolInput α)):
  Tracked start (history poolStep start inputs) (execute poolStep start inputs):=
 history_invariant poolStep h (fun _ _ input hpast=>hpast.step input) inputs

/-- A run of a pool, whatever its first records, is conserving and fenced exactly when the fence is
never asked about a lease that its clock says is expired. -/
theorem lease_pool_fenced_iff {capacities : List (String×ℤ)}
  {active : List (String×ActiveLease α)} {nextId nextFencingToken : ℤ}
  {authorityClock : Bool} {start : InMemoryLeasePool α}
  (h : InMemoryLeasePool.new capacities active nextId nextFencingToken authorityClock =
   .ok start) (inputs : List (PoolInput α)) :
  ConservingAndFenced start inputs ↔ ∀before input after,inputs=before++input::after →
   ¬ExpiredValidation (execute poolStep start before) input := by
 have hstart:=tracked_start h
 constructor
 · intro hfenced before input after hsplit hexpired
   exact not_fenced_of_expiredValidation hexpired (hfenced.steps before input after hsplit)
 · intro hlive
   have hrun:=tracked_run hstart inputs
   refine ⟨hrun.funded.within,hrun.funded.known,hrun.idsDistinct,hrun.tokensDistinct,?_⟩
   intro before input after hsplit
   exact (tracked_run hstart before).fenced (hlive before input after hsplit)
end

def workerPool : InMemoryLeasePool Unit where
 capacities:=Dict.empty.set ⟨"worker",by decide +kernel⟩ ⟨1,by decide⟩
 active:=Dict.empty
 nextId:=1
 nextFencingToken:=1
 authorityClock:=true

lemma workerPool_new:InMemoryLeasePool.new [("worker",1)]
  ([]:List (String×ActiveLease Unit)) 1 1 true=.ok workerPool:=by
 rfl

/-- The worker is leased from 1000 until 1100. -/
def workerAcquired : PoolInput Unit :=
 ⟨.acquire "worker" "run-1" 1 (.ok ()) (some (.finite 1100)) none,.ok 1000⟩

/-- Its holder asks the fence. -/
def workerValidated (reading:ℕ) : PoolInput Unit :=
 ⟨.validateFencingToken "lease-000001" 1,.ok reading⟩

theorem workerPool_fenced_iff : ConservingAndFenced workerPool
  [workerAcquired,workerValidated 1050] ↔
   ∀before input after,[workerAcquired,workerValidated 1050]=before++input::after →
    ¬ExpiredValidation (execute poolStep workerPool before) input :=
 lease_pool_fenced_iff workerPool_new [workerAcquired,workerValidated 1050]

/-- A hundred milliseconds after the lease has expired the fence lets its holder pass. -/
theorem expired_worker_passes : InMemoryLeasePool.new [("worker",1)]
   ([]:List (String×ActiveLease Unit)) 1 1 true=.ok workerPool ∧
  ¬ConservingAndFenced workerPool [workerAcquired,workerValidated 1200] := by
 refine ⟨workerPool_new,?_⟩
 intro hfenced
 have hstep:=hfenced.steps [workerAcquired] (workerValidated 1200) [] rfl
 refine not_fenced_of_expiredValidation ?_ hstep
 have hlease:((execute poolStep workerPool [workerAcquired]).active.get? (leaseIdText 1)).map
   (fun active=>(active.fencingToken.1,active.expiresAt.map Subtype.val)) =
    some (1,some 1100):=by decide +kernel
 have hclock:(execute poolStep workerPool [workerAcquired]).authorityClock=true:=by decide +kernel
 obtain ⟨active,hactive,hfields⟩:=map_eq_some_iff.mp hlease
 obtain ⟨htoken,hexpires⟩:=Prod.mk.inj hfields
 obtain ⟨expires,hsome,hvalue⟩:=map_eq_some_iff.mp hexpires
 refine ⟨leaseIdText 1,active,1200,expires,?_,hclock,rfl,hactive,hsome,?_⟩
 · rw [htoken]
   rfl
 · rw [hvalue]
   norm_num

end GraphBlocks.PythonLeases
