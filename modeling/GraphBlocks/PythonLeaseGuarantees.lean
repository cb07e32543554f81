import GraphBlocks.PythonLeaseRestoration

namespace GraphBlocks.PythonLeases
open MachineRuns PythonStd RustStd List Option

section
variable {α:Type}

def callTime (pool:InMemoryLeasePool α) (input:PoolInput α) : Option Time :=
 match input.call with
 | .acquire _ _ _ _ _ acquiredAt=>
  (resolveAuthorityTime pool input.reading "acquired_at" acquiredAt).toOption
 | .renew _ _ _ renewedAt=>(resolveAuthorityTime pool input.reading "renewed_at" renewedAt).toOption
 | .reapExpired now=>(resolveAuthorityTime pool input.reading "now" now).toOption
 | .available _ now=>(resolveAuthorityTime pool input.reading "now" now).toOption
 | .validateFencingToken _ _ | .release _ _ | .releaseAll _ | .reconstruct _=>none

/-- The answer hands out no token. -/
def PoolAnswer.isQuiet : PoolAnswer→Bool
 | .issued _ | .renewed _=>false
 | .reaped _ | .units _ | .released _ | .done=>true

/-- What one call can do. -/
inductive Outcome (pool:InMemoryLeasePool α) (input:PoolInput α) :
  Except LeaseError PoolAnswer→InMemoryLeasePool α→Prop
 | failed (e:LeaseError) : Outcome pool input (.error e) pool
 | reaped (e:LeaseError) (now:Time) (htime:callTime pool input=some now) :
   Outcome pool input (.error e) (reap pool now.1)
 | dropped (answer:PoolAnswer) (after:InMemoryLeasePool α) (hquiet:answer.isQuiet=true)
   (hdrops:Drops pool after) : Outcome pool input (.ok answer) after
 | issued (now:Time) (leaseId:Text) (token:ℕ) (after:InMemoryLeasePool α)
   (hissues:Issues (reap pool now.1) after leaseId token) :
   Outcome pool input (.ok (.issued (leaseId,token))) after
 | renewed (now:Time) (leaseId:Text) (token:ℕ) (after:InMemoryLeasePool α)
   (given:ℤ) (expiresAt:Number) (renewedAt:Option Number)
   (hcall:input.call=.renew leaseId.1 given expiresAt renewedAt)
   (hrenews:Renews (reap pool now.1) after leaseId token) :
   Outcome pool input (.ok (.renewed token)) after
 | rebuilt (after:InMemoryLeasePool α) (hrebuilds:Rebuilds pool after) :
   Outcome pool input (.ok .done) after

section
variable {pool:InMemoryLeasePool α} {input:PoolInput α}

lemma toOption_of_ok{ε β:Type}{x:Except ε β}{b:β}(h:x=.ok b):x.toOption=some b:=by
 rw [h]
 rfl

variable {expiresAt acquiredAt:Option Number} {attributes:Except LeaseError α} {resource:String}

lemma acquireRequest_ok{reading:Except ClockError ℕ}{owner:String}{units:ℤ}
    {request:AcquireRequest α}
  (h:acquireRequest pool reading resource owner units attributes expiresAt acquiredAt =
   .ok request):
  pool.capacities.get? request.resource=some request.capacity ∧
   resolveAuthorityTime pool reading "acquired_at" acquiredAt=.ok request.acquiredAt:=by
 simp only [acquireRequest,bind_ok] at h
 obtain ⟨⟨text,capacity⟩,hcapacity,ownerText,_,h⟩:=h
 have hfound:pool.capacities.get? text=some capacity:=by
  simp only [capacityOf,bind_ok] at hcapacity
  obtain ⟨found,_,hcapacity⟩:=hcapacity
  split at hcapacity
  · next limit hlimit=>
    cases hcapacity
    exact hlimit
  · cases hcapacity
 split at h
 · simp only [bind_ok] at h
   obtain ⟨time,htime,expires,_,h⟩:=h
   split at h
   · simp only [bind_ok] at h
     obtain ⟨frozen,_,h⟩:=h
     cases h
     exact ⟨hfound,htime⟩
   · cases h
 · cases h

lemma acquire_outcome{owner:String}{units:ℤ}
  (hcall:input.call=.acquire resource owner units attributes expiresAt acquiredAt):
  Outcome pool input (poolStep pool input).1 (poolStep pool input).2:=by
 simp only [poolStep,hcall,answer,acquire]
 split
 · exact .failed _
 · next request hrequest=>
   obtain ⟨hcapacity,htime⟩:=acquireRequest_ok hrequest
   have hlookup:callTime pool input=some request.acquiredAt:=by
    simp only [callTime,hcall]
    exact toOption_of_ok htime
   rcases grantLease_cases (reap pool request.acquiredAt.1) hcapacity with
    ⟨e,hfail⟩ | ⟨leaseId,token,hok,hissues⟩
   · rw [hfail]
     exact .reaped e _ hlookup
   · rw [hok]
     exact .issued request.acquiredAt leaseId token _ hissues

lemma renew_outcome{leaseId:String}{token:ℤ}{expiresAt:Number}
  {renewedAt:Option Number}(hcall:input.call=.renew leaseId token expiresAt renewedAt):
  Outcome pool input (poolStep pool input).1 (poolStep pool input).2:=by
 simp only [poolStep,hcall,answer,renew]
 split
 · exact .failed _
 · next request hrequest=>
   simp only [renewRequest,bind_ok] at hrequest
   obtain ⟨time,htime,expires,_,given,_,_,_,hrequest⟩:=hrequest
   cases hrequest
   have hlookup:callTime pool input=some time:=by
    simp only [callTime,hcall]
    exact toOption_of_ok htime
   rcases extendLease_cases (reap pool time.1) ⟨leaseId,given,expires,time⟩ with
    ⟨e,hfail⟩ | ⟨text,newToken,htext,hok,hrenews⟩
   · rw [hfail]
     exact .reaped e _ hlookup
   · rw [hok]
     simp only at htext
     exact .renewed time text newToken _ token expiresAt renewedAt (htext▸hcall) hrenews

lemma reapExpired_outcome{now:Option Number}(hcall:input.call=.reapExpired now):
  Outcome pool input (poolStep pool input).1 (poolStep pool input).2:=by
 simp only [poolStep,hcall,answer,reapExpired]
 split
 · exact .failed _
 · exact .dropped _ _ rfl (drops_reap pool _)

lemma available_outcome{now:Option Number}(hcall:input.call=.available resource now):
  Outcome pool input (poolStep pool input).1 (poolStep pool input).2:=by
 simp only [poolStep,hcall,answer,available,reapExpired]
 split
 · exact .failed _
 · split
   · cases hnow:resolveAuthorityTime pool input.reading "now" now with
     | error e=>exact .failed e
     | ok time=>exact .dropped _ _ rfl (drops_reap pool _)
   · exact .dropped _ _ rfl (Drops.refl pool)

lemma release_outcome{leaseId:String}{token:Option ℤ}(hcall:input.call=.release leaseId token):
  Outcome pool input (poolStep pool input).1 (poolStep pool input).2:=by
 simp only [poolStep,hcall,answer,release]
 split
 · exact .failed _
 · split
   · exact .dropped _ _ rfl (Drops.refl pool)
   · split
     · exact .failed _
     · exact .dropped _ _ rfl ⟨rfl,rfl,rfl,rfl,filter_sublist⟩

lemma releaseAll_outcome{owner:String}(hcall:input.call=.releaseAll owner):
  Outcome pool input (poolStep pool input).1 (poolStep pool input).2:=by
 simp only [poolStep,hcall,answer,releaseAll]
 split
 · exact .failed _
 · exact .dropped _ _ rfl (drops_popAll pool _)

lemma poolStep_outcome(pool:InMemoryLeasePool α)(input:PoolInput α):
  Outcome pool input (poolStep pool input).1 (poolStep pool input).2:=by
 cases hcall:input.call with
 | acquire resource owner units attributes expiresAt acquiredAt=>exact acquire_outcome hcall
 | renew leaseId token expiresAt renewedAt=>exact renew_outcome hcall
 | validateFencingToken leaseId token=>
  simp only [poolStep,hcall,answer]
  cases validateFencingToken pool leaseId token with
  | error e=>exact .failed e
  | ok u=>exact .dropped _ _ rfl (Drops.refl pool)
 | reapExpired now=>exact reapExpired_outcome hcall
 | available resource now=>exact available_outcome hcall
 | release leaseId token=>exact release_outcome hcall
 | releaseAll owner=>exact releaseAll_outcome hcall
 | reconstruct authorityClock=>
  simp only [poolStep,hcall,answer]
  rcases reconstruct_cases pool authorityClock with ⟨e,hfail⟩|⟨hok,_,hrebuilds⟩
  · rw [hfail]
    exact .failed e
  · rw [hok]
    exact .rebuilt _ hrebuilds
end

variable {pool after start:InMemoryLeasePool α}

lemma Funded.drops(h:Funded pool)(hdrops:Drops pool after):Funded after:=by
 constructor
 · intro id active hid
   rw [hdrops.capacities]
   exact h.known id active (hdrops.get? hid)
 · intro resource capacity hcapacity
   rw [hdrops.capacities] at hcapacity
   exact (hdrops.usedUnits_le resource).trans (h.within resource capacity hcapacity)

lemma Funded.issues{leaseId:Text}{token:ℕ}
  (h:Funded pool)(hissues:Issues pool after leaseId token):Funded after:=by
 obtain ⟨active,capacity,hactive,_,hcapacity,hwithin⟩:=hissues.entry
 constructor
 · intro id lease hid
   rw [hactive,Dict.get?_set] at hid
   rw [hissues.capacities]
   split at hid
   · cases hid
     exact ⟨capacity,hcapacity⟩
   · exact h.known id lease hid
 · intro resource limit hlimit
   rw [hissues.capacities] at hlimit
   rw [usedUnits_eq,hactive,Dict.items_set_fresh _ _ hissues.fresh,sumUnits_concat,←usedUnits_eq]
   by_cases hresource:active.resource=resource
   · subst hresource
     rw [hcapacity] at hlimit
     cases hlimit
     rwa [if_pos rfl]
   · rw [if_neg hresource,Nat.add_zero]
     exact h.within resource limit hlimit

lemma sum_filter_units(resource:Text)(actives:List (ActiveLease α)):
  ((actives.filter fun active=>active.resource==resource).map
    fun active=>active.units.1).sum =
   (actives.map fun active=>if active.resource=resource then active.units.1 else 0).sum:=by
 induction actives with
 | nil=>rfl
 | cons active actives ih=>
  by_cases h:active.resource=resource
  · simp only [filter_cons,map_cons,sum_cons,if_pos h,←ih]
    rw [if_pos (beq_iff_eq.mpr h),map_cons,sum_cons]
  · simp only [filter_cons,map_cons,sum_cons,if_neg h,Nat.zero_add,←ih]
    rw [if_neg (fun heq=>h (beq_iff_eq.mp heq))]

lemma Funded.renews{leaseId:Text}{token:ℕ}
  (h:Funded pool)(hrenews:Renews pool after leaseId token):Funded after:=by
 obtain ⟨active,renewed,hid,hafter,_,hresource,hunits,_⟩:=hrenews.entry
 constructor
 · intro id lease hlease
   rw [hafter,Dict.get?_set] at hlease
   rw [hrenews.capacities]
   split at hlease
   · cases hlease
     rw [hresource]
     exact h.known leaseId active hid
   · exact h.known id lease hlease
 · intro resource limit hlimit
   rw [hrenews.capacities] at hlimit
   have hsame:usedUnits after resource=usedUnits pool resource:=by
    unfold usedUnits
    rw [sum_filter_units,sum_filter_units,hafter,Dict.map_items_set _ _ hid]
    rw [hresource,hunits]
   rw [hsame]
   exact h.within resource limit hlimit

abbrev PoolTransition (α:Type) :=
 Transition (InMemoryLeasePool α) (PoolInput α) (Except LeaseError PoolAnswer)

def acquiredId (t:PoolTransition α) : Option Text :=
 match t.response with
 | .ok (.issued lease)=>some lease.1
 | _=>none

def issuedToken (t:PoolTransition α) : Option (String×ℕ) :=
 match t.response, t.call.call with
 | .ok (.issued lease), _=>some (lease.1.1,lease.2)
 | .ok (.renewed token), .renew leaseId _ _ _=>some (leaseId,token)
 | _, _=>none

def issuedIds (start:InMemoryLeasePool α) (past:List (PoolTransition α)) : List Text :=
 activeIds start++past.filterMap acquiredId

def issuedTokens (start:InMemoryLeasePool α) (past:List (PoolTransition α)) : List (String×ℕ) :=
 (start.active.items.map fun item=>(item.1.1,item.2.fencingToken.1)) ++past.filterMap issuedToken

def latestToken (start:InMemoryLeasePool α) (past:List (PoolTransition α)) (leaseId:String) :
  Option ℕ :=
 (((issuedTokens start past).filter fun e=>e.1==leaseId).map Prod.snd).getLast?

structure Tracked (start:InMemoryLeasePool α) (past:List (PoolTransition α))
  (pool:InMemoryLeasePool α) : Prop where
 funded:Funded pool
 idsDistinct:(issuedIds start past).Nodup
 idsBelow:∀id∈issuedIds start past,∀n,id=leaseIdText n→n<pool.nextId∨maxU64≤pool.nextId
 tokensDistinct:((issuedTokens start past).map Prod.snd).Nodup
 tokensBelow:∀e∈issuedTokens start past,e.2<pool.nextFencingToken∨maxU64≤pool.nextFencingToken
 latest:∀id active,pool.active.get? id=some active →
  latestToken start past id.1=some active.fencingToken.1

lemma filter_key_eq{β:Type}{entries:List (String×β)}
  (hnodup:(entries.map Prod.fst).Nodup){key:String}{value:β}
  (h:(key,value)∈entries):entries.filter (fun e=>e.1==key)=[(key,value)]:=by
 induction entries with
 | nil=>cases h
 | cons entry entries ih=>
  obtain ⟨hfresh,hnodup⟩:=nodup_cons.mp hnodup
  rcases mem_cons.mp h with rfl|h
  · rw [filter_cons,if_pos (beq_self_eq_true key),List.cons.injEq]
    refine ⟨rfl,filter_eq_nil_iff.mpr ?_⟩
    intro other hother hkey
    exact hfresh (List.mem_map.mpr ⟨other,hother,beq_iff_eq.mp hkey⟩)
  · rw [filter_cons,if_neg,ih hnodup h]
    intro hkey
    exact hfresh (List.mem_map.mpr ⟨(key,value),h,(beq_iff_eq.mp hkey).symm⟩)

lemma tracked_start{capacities:List (String×ℤ)}{active:List (String×ActiveLease α)}
  {nextId nextFencingToken:ℤ}{authorityClock:Bool}
  (h:InMemoryLeasePool.new capacities active nextId nextFencingToken authorityClock =
   .ok start):Tracked start [] start:=by
 have hnew:=new_constructed h
 have hids:issuedIds start []=activeIds start:=by rw [issuedIds,filterMap_nil,append_nil]
 have htokens:(issuedTokens start []).map Prod.snd=activeTokens start:=by
  rw [issuedTokens,filterMap_nil,append_nil,List.map_map]
  rfl
 refine ⟨hnew.funded,hids▸start.active.nodup,hids▸hnew.ids,htokens▸hnew.distinct,?_,?_⟩
 · intro e he
   apply hnew.tokens
   rw [←htokens]
   exact List.mem_map_of_mem he
 · intro id lease hid
   have hmem:=(Dict.get?_eq_some_iff _ _ _).mp hid
   have hnodup:=start.active.nodup.map Subtype.val_injective
   rw [List.map_map] at hnodup
   have hone:(start.active.items.map fun item=>(item.1.1,item.2.fencingToken.1)).filter
     (fun e=>e.1==id.1)=[(id.1,lease.fencingToken.1)]:=by
    apply filter_key_eq
    · rw [List.map_map]
      exact hnodup
    · exact List.mem_map.mpr ⟨(id,lease),hmem,rfl⟩
   rw [latestToken,issuedTokens,filterMap_nil,append_nil,hone]
   rfl

variable {past:List (PoolTransition α)}

lemma Tracked.drops
  (h:Tracked start past pool)(hdrops:Drops pool after):Tracked start past after:=by
 refine ⟨h.funded.drops hdrops,h.idsDistinct,?_,h.tokensDistinct,?_,?_⟩
 · rw [hdrops.nextId]
   exact h.idsBelow
 · rw [hdrops.nextFencingToken]
   exact h.tokensBelow
 · intro id active hid
   exact h.latest id active (hdrops.get? hid)

lemma Tracked.rebuilds
  (h:Tracked start past pool)(hrebuilds:Rebuilds pool after):Tracked start past after:=by
 have hid:=hrebuilds.nextId
 have htoken:=hrebuilds.nextFencingToken
 refine ⟨⟨?_,?_⟩,h.idsDistinct,?_,h.tokensDistinct,?_,?_⟩
 · rw [hrebuilds.active,hrebuilds.capacities]
   exact h.funded.known
 · rw [hrebuilds.capacities]
   intro resource capacity hcapacity
   rw [usedUnits_eq,hrebuilds.active]
   exact h.funded.within resource capacity hcapacity
 · intro id hmem n hn
   have hbelow:=h.idsBelow id hmem n hn
   omega
 · intro e he
   have hbelow:=h.tokensBelow e he
   omega
 · rw [hrebuilds.active]
   exact h.latest

lemma Tracked.quiet(h:Tracked start past after){t:PoolTransition α}(hid:acquiredId t=none)
  (htoken:issuedToken t=none):Tracked start (past++[t]) after:=by
 have hids:issuedIds start (past++[t])=issuedIds start past:=by
  rw [issuedIds,filterMap_concat,hid,toList_none,append_nil,issuedIds]
 have htokens:issuedTokens start (past++[t])=issuedTokens start past:=by
  rw [issuedTokens,filterMap_concat,htoken,toList_none,append_nil,issuedTokens]
 constructor
 · exact h.funded
 · rw [hids]
   exact h.idsDistinct
 · rw [hids]
   exact h.idsBelow
 · rw [htokens]
   exact h.tokensDistinct
 · rw [htokens]
   exact h.tokensBelow
 · intro id active hactive
   rw [latestToken,htokens]
   exact h.latest id active hactive

section
variable {start pool after:InMemoryLeasePool α} {past:List (PoolTransition α)}
 {t:PoolTransition α} {leaseId:Text} {token:ℕ}

section
variable (h:Tracked start past pool)
include h

lemma Tracked.fresh_token(hfresh:FreshToken pool after token)
  (ht:issuedToken t=some (leaseId.1,token)):
  ((issuedTokens start (past++[t])).map Prod.snd).Nodup∧∀e∈issuedTokens start (past++[t]),
    e.2<after.nextFencingToken∨maxU64≤after.nextFencingToken:=by
 have htokens:issuedTokens start (past++[t])=issuedTokens start past++[(leaseId.1,token)]:=by
  rw [issuedTokens,filterMap_concat,ht,←append_assoc,issuedTokens]
  rfl
 have habove:=hfresh.above
 have hbound:=hfresh.bound
 have hbelow:∀e∈issuedTokens start past,e.2<token:=by
  intro e he
  have hcounter:=h.tokensBelow e he
  omega
 rw [htokens,hfresh.counter]
 refine ⟨?_,?_⟩
 · rw [map_append,nodup_append]
   refine ⟨h.tokensDistinct,nodup_singleton _,?_⟩
   intro other hother last hlast heq
   obtain ⟨e,he,rfl⟩:=List.mem_map.mp hother
   have hlt:=hbelow e he
   rw [map_singleton,mem_singleton] at hlast
   omega
 · intro e he
   rcases mem_append.mp he with he|he
   · have hlt:=hbelow e he
     omega
   · obtain rfl:=mem_singleton.mp he
     exact .inl (Nat.lt_succ_self token)

lemma Tracked.latest_concat(ht:issuedToken t=some (leaseId.1,token)){entry:ActiveLease α}
  (hactive:after.active=pool.active.set leaseId entry)(hentry:entry.fencingToken.1=token)
  (id:Text)(active:ActiveLease α)(hid:after.active.get? id=some active):
  latestToken start (past++[t]) id.1=some active.fencingToken.1:=by
 have htokens:issuedTokens start (past++[t])=issuedTokens start past++[(leaseId.1,token)]:=by
  rw [issuedTokens,filterMap_concat,ht,←append_assoc,issuedTokens]
  rfl
 rw [hactive,Dict.get?_set] at hid
 rw [latestToken,htokens,filter_append,map_append]
 split at hid
 · next hsame=>
   cases hid
   subst hsame
   rw [filter_cons,if_pos (beq_self_eq_true _),filter_nil,map_singleton,List.getLast?_append,hentry]
   rfl
 · next hother=>
   have hne:(leaseId.1==id.1)=false:=beq_false_of_ne fun heq=>hother (Subtype.ext heq.symm)
   rw [filter_cons,if_neg (by simp [hne]),filter_nil,map_nil,append_nil]
   exact h.latest id active hid

lemma Tracked.issues(hissues:Issues pool after leaseId token)
  (hacquired:acquiredId t=some leaseId)(ht:issuedToken t=some (leaseId.1,token)):
  Tracked start (past++[t]) after:=by
 have hids:issuedIds start (past++[t])=issuedIds start past++[leaseId]:=by
  rw [issuedIds,filterMap_concat,hacquired,←append_assoc,issuedIds]
  rfl
 obtain ⟨n,hn,hnext,hmax,hcounter⟩:=hissues.number
 obtain ⟨entry,_,hactive,hentry,_⟩:=hissues.entry
 have htokens:=h.fresh_token hissues.fenced ht
 have hbelow:∀id∈issuedIds start past,∀m,id=leaseIdText m→m<n:=by
  intro id hid m hm
  have hcount:=h.idsBelow id hid m hm
  omega
 refine ⟨h.funded.issues hissues,?_,?_,htokens.1,htokens.2,?_⟩
 · rw [hids,nodup_append]
   refine ⟨h.idsDistinct,nodup_singleton _,?_⟩
   intro id hid last hlast heq
   rw [mem_singleton] at hlast
   have hlt:=hbelow id hid n (heq.trans (hlast.trans hn))
   omega
 · rw [hids,hcounter]
   intro id hid m hm
   rcases mem_append.mp hid with hid|hid
   · have hlt:=hbelow id hid m hm
     omega
   · rw [mem_singleton.mp hid,hn] at hm
     have hsame:=leaseIdText_injective hm
     omega
 · exact h.latest_concat ht hactive hentry

lemma Tracked.renews(hrenews:Renews pool after leaseId token)
  (hacquired:acquiredId t=none)(ht:issuedToken t=some (leaseId.1,token)):
  Tracked start (past++[t]) after:=by
 have hids:issuedIds start (past++[t])=issuedIds start past:=by
  rw [issuedIds,filterMap_concat,hacquired,toList_none,append_nil,issuedIds]
 obtain ⟨_,entry,_,hactive,hentry,_⟩:=hrenews.entry
 have htokens:=h.fresh_token hrenews.fenced ht
 refine ⟨h.funded.renews hrenews,?_,?_,htokens.1,htokens.2,?_⟩
 · rw [hids]
   exact h.idsDistinct
 · rw [hids,hrenews.nextId]
   exact h.idsBelow
 · exact h.latest_concat ht hactive hentry

lemma Tracked.step(input:PoolInput α):
  Tracked start (past++[takeStep poolStep pool input]) (poolStep pool input).2:=by
 have houtcome:=poolStep_outcome pool input
 rw [takeStep]
 generalize (poolStep pool input).1=response at houtcome ⊢
 generalize (poolStep pool input).2=after at houtcome ⊢
 cases houtcome with
 | failed e=>exact h.quiet rfl rfl
 | reaped e now _=>exact (h.drops (drops_reap pool now.1)).quiet rfl rfl
 | dropped answer after hquiet hdrops=>
  have hafter:=h.drops hdrops
  cases answer with
  | issued lease=>cases hquiet
  | renewed token=>cases hquiet
  | _=>exact hafter.quiet rfl rfl
 | issued now leaseId token after hissues=>
  exact (h.drops (drops_reap pool now.1)).issues hissues rfl rfl
 | renewed now leaseId token after given expiresAt renewedAt hcall hrenews=>
  refine (h.drops (drops_reap pool now.1)).renews hrenews rfl ?_
  simp only [issuedToken,hcall]
 | rebuilt after hrebuilds=>exact (h.rebuilds hrebuilds).quiet rfl rfl

end
end

end

end GraphBlocks.PythonLeases
