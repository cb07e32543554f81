import GraphBlocks.LeasePoolInvariant

/-! `Effect` lists what a call can do to the pool. -/
namespace GraphBlocks.LeasePool
open FiniteMap RustStd MachineRuns List

variable {A:Type}

/-- The response announces neither a new lease nor a new token. -/
def Response.isQuiet : Response→Bool
 | .lease (.ok _) | .token (.ok _)=>false
 | _=>true

/-- An `Ok` of a validation at the reaped pool. -/
def Validates (p:Pool A) (c:Call A) (r:Response) : Prop :=
 ∀id token now,c=.validateFencingTokenAt id token now → r=.valid (.ok ()) →
  ∃lease,p.inner.active.lookup id=some lease∧lease.fencingToken=token

inductive Effect (p:Pool A) : Call A→Response→Pool A→Prop where
 | refused {c:Call A} {r:Response} (failed:r.isError=true) (notRelease:c.time.isSome) :
   Effect p c r p
 | reaped {c:Call A} {r:Response} {now:SystemTime} (time:c.time=some now)
   (quiet:r.isQuiet=true) (validates:Validates (reapAt p now) c r) :
   Effect p c r (reapAt p now)
 | acquired {request:LeaseRequest A} {now:SystemTime}
   (room:request.units≤availableUnits (reapAt p now).inner) :
   Effect p (.tryAcquireAt request now)
    (.lease (.ok (leaseIdOf (reapAt p now).inner.id (reapAt p now).inner.nextLeaseNumber)))
    (acquired (reapAt p now) request now)
 | renewed {id:String} {lease:ActiveLease A} {expiresAt current now:SystemTime}
   (lookup_eq:(reapAt p now).inner.active.lookup id=some lease)
   (expires_eq:lease.expiresAt=some current) (later:current<expiresAt) :
   Effect p (.renewAt id lease.fencingToken expiresAt now)
    (.token (.ok (reapAt p now).inner.nextFencingToken))
    (renewed (reapAt p now) id lease expiresAt)
 | released {id:String} {lease:ActiveLease A} (handle:p.handles.lookup id=some false)
   (lookup_eq:p.inner.active.lookup id=some lease) :
   Effect p (.release id) (.released true) (releasedPool p id lease)
 | flagged {id:String} (handle:p.handles.lookup id=some false)
   (lookup_eq:p.inner.active.lookup id=none) :
   Effect p (.release id) (.released false) { p with handles:=p.handles.insert id true }
 | idle {id:String} (handle:p.handles.lookup id≠some false) :
   Effect p (.release id) (.released false) p

section

attribute [local irreducible] reapExpiredLocked

lemma tryAcquireAt_effect(p:Pool A)(request:LeaseRequest A)(now:SystemTime):
  Effect p (.tryAcquireAt request now) (.lease (tryAcquireAt p request now).1)
   (tryAcquireAt p request now).2:=by
 unfold tryAcquireAt
 split
 · exact .refused rfl rfl
 · split
   · exact .refused rfl rfl
   · split
     · exact .refused rfl rfl
     · have quiet:∀e,Effect p (.tryAcquireAt request now) (.lease (.error e)) (reapAt p now):=
        fun e=>.reaped rfl rfl (by intro id token t hc;cases hc)
       unfold acquireLocked
       by_cases hroom:request.units > availableUnits (reapExpiredLocked p.inner now).2
       · simp only [hroom,↓reduceIte]
         exact quiet _
       · simp only [hroom,↓reduceIte]
         cases hnum:checkedSucc (reapExpiredLocked p.inner now).2.nextLeaseNumber with
         | none=>exact quiet _
         | some number=>
          cases htok:checkedSucc (reapExpiredLocked p.inner now).2.nextFencingToken with
          | none=>exact quiet _
          | some token=>
           cases hused:checkedAdd (reapExpiredLocked p.inner now).2.usedUnits request.units with
           | none=>exact quiet _
           | some used=>
            rw [checkedSucc_eq_some hnum,checkedSucc_eq_some htok,checkedAdd_eq_some hused]
            exact .acquired (not_lt.mp hroom)

lemma renewAt_effect(p:Pool A)(id:String)(token:ℕ)(expiresAt now:SystemTime):
  Effect p (.renewAt id token expiresAt now) (.token (renewAt p id token expiresAt now).1)
   (renewAt p id token expiresAt now).2:=by
 unfold renewAt
 split
 · exact .refused rfl rfl
 · have quiet:∀e,Effect p (.renewAt id token expiresAt now) (.token (.error e))
     (reapAt p now):=fun e=>.reaped rfl rfl (by intro id token t hc;cases hc)
   unfold renewLocked
   cases hl:(reapExpiredLocked p.inner now).2.active.lookup id with
   | none=>exact quiet _
   | some lease=>
    dsimp only
    by_cases hearly:now<lease.acquiredAt
    · simp only [hearly,↓reduceIte]
      exact quiet _
    · by_cases hstale:lease.fencingToken=token
      · simp only [hearly,↓reduceIte,hstale,ne_eq,not_true_eq_false]
        subst hstale
        cases hcur:lease.expiresAt with
        | none=>exact quiet _
        | some current=>
         by_cases hle:expiresAt≤current
         · simp only [hle,↓reduceIte]
           exact quiet _
         · simp only [hle,↓reduceIte]
           cases htok:checkedSucc (reapExpiredLocked p.inner now).2.nextFencingToken with
           | none=>exact quiet _
           | some next=>
            rw [checkedSucc_eq_some htok]
            exact .renewed hl hcur (not_le.mp hle)
      · simp only [hearly,↓reduceIte,hstale,ne_eq,not_false_eq_true]
        exact quiet _

lemma validateFencingTokenAt_effect(p:Pool A)(id:String)(token:ℕ)(now:SystemTime):
  Effect p (.validateFencingTokenAt id token now)
   (.valid (validateFencingTokenAt p id token now).1)
   (validateFencingTokenAt p id token now).2:=by
 refine .reaped rfl rfl ?_
 intro j k t hc hr
 cases hc
 injection hr with hr
 change validateLocked (reapAt p now).inner id token now=.ok () at hr
 unfold validateLocked at hr
 cases hl:(reapAt p now).inner.active.lookup id with
 | none=>rw [hl] at hr;cases hr
 | some lease=>
  rw [hl] at hr
  dsimp only at hr
  split at hr
  · cases hr
  · split at hr
    · cases hr
    · next hne=>exact ⟨lease,rfl,not_not.mp hne⟩

lemma release_effect(p:Pool A)(id:String):
  Effect p (.release id) (.released (release p id).1) (release p id).2:=by
 unfold release
 cases hh:p.handles.lookup id with
 | none=>exact .idle (by simp [hh])
 | some flag=>
  cases flag with
  | true=>exact .idle (by simp [hh])
  | false=>
   dsimp only
   unfold removeLease
   cases hl:p.inner.active.lookup id with
   | none=>exact .flagged hh hl
   | some lease=>exact .released hh hl

lemma step_effect(p:Pool A)(c:Call A):Effect p c (step p c).1 (step p c).2:=by
 cases c with
 | tryAcquireAt request now=>exact tryAcquireAt_effect p request now
 | renewAt id token expiresAt now=>exact renewAt_effect p id token expiresAt now
 | validateFencingTokenAt id token now=>exact validateFencingTokenAt_effect p id token now
 | reapExpired now=>exact .reaped rfl rfl (by intro id token t hc;cases hc)
 | release id=>exact release_effect p id
end

variable {c:Call A} {r:Response} {p:Pool A}

lemma Effect.invariant{p':Pool A}(h:Effect p c r p')(hp:Invariant p):Invariant p':=by
 cases h with
 | refused _ _=>exact hp
 | reaped _ _ _=>exact reapAt_invariant hp _
 | acquired room=>exact acquired_invariant (reapAt_invariant hp _) _ room
 | renewed hl _ _=>exact renewed_invariant (reapAt_invariant hp _) hl _
 | released _ hl=>exact releasedPool_invariant hp hl
 | flagged hh hl=>exact flagged_invariant hp hh hl
 | idle _=>exact hp

lemma execute_step_invariant(id:String)(capacityUnits:ℕ)(calls:List (Call A)):
  Invariant (execute step (freshPool id capacityUnits) calls):=
 execute_invariant step (freshPool_invariant id capacityUnits)
  (fun p c h=>(step_effect p c).invariant h) calls

abbrev Past (A:Type) := List (Transition (Pool A) (Call A) Response)

def acquiredId (r:Response) : Option String :=
 match r with
 | .lease (.ok leaseId)=>some leaseId
 | _=>none

/-- Lease ids in the order in which they were handed out. -/
def acquireLog (past:Past A) : List String := past.filterMap fun tr=>acquiredId tr.response

def grantOf (tr:Transition (Pool A) (Call A) Response) : Option (String×ℕ) :=
 match tr.call, tr.response with
 | _, .lease (.ok leaseId)=>some (leaseId,fencingToken tr.after leaseId)
 | .renewAt leaseId _ _ _, .token (.ok token)=>some (leaseId,token)
 | _, _=>none

def grantLog (past:Past A) : List (String×ℕ) := past.filterMap grantOf

def releaseOf (tr:Transition (Pool A) (Call A) Response) : Option String :=
 match tr.call with
 | .release leaseId=>if (tr.before.handles.lookup leaseId).isSome then some leaseId else none
 | _=>none

def releaseLog (past:Past A) : List String := past.filterMap releaseOf

def latestToken (grants:List (String×ℕ)) (leaseId:String) : Option ℕ :=
 ((grants.filter fun g=>g.1=leaseId).getLast?).map Prod.snd

lemma latestToken_concat(grants:List (String×ℕ))(id j:String)(k:ℕ):
  latestToken (grants++[(id,k)]) j=if id=j then some k else latestToken grants j:=by
 unfold latestToken
 rw [filter_append]
 by_cases h:id=j <;>simp [h]

/-- What the logs of a run say about the pool they lead to. -/
structure Ledger (ids:List String) (grants:List (String×ℕ)) (releases:List String)
  (p:Pool A) : Prop where
 ids_nodup:ids.Nodup
 ids_number:∀id∈ids,∃n<p.inner.nextLeaseNumber,id=leaseIdOf p.inner.id n
 tokens_increasing:(grants.map Prod.snd).Pairwise (· < ·)
 tokens_lt:∀g∈grants,g.2<p.inner.nextFencingToken
 latest:∀id lease,p.inner.active.lookup id=some lease→latestToken grants id=some lease.fencingToken
 released:∀id∈releases,p.handles.lookup id=some true

section
variable {ids releases:List String} {grants:List (String×ℕ)} {p:Pool A}

section
variable (h:Ledger ids grants releases p)
include h

lemma Ledger.reap(hp:Invariant p)(now:SystemTime):Ledger ids grants releases (reapAt p now):=by
 obtain ⟨-,hre⟩:=reapExpiredLocked_spec hp.accounts now
 refine ⟨h.ids_nodup,?_,h.tokens_increasing,?_,?_,h.released⟩
 · simp only [reapAt,hre.number_eq,hre.id_eq]
   exact h.ids_number
 · simp only [reapAt,hre.token_eq]
   exact h.tokens_lt
 · intro id lease hl
   exact h.latest id lease ((hre.lookup_iff id lease).mp hl).1

lemma Ledger.grant_increasing(id:String):
  ((grants++[(id,p.inner.nextFencingToken)]).map Prod.snd).Pairwise (· < ·):=by
 rw [map_append,pairwise_append]
 refine ⟨h.tokens_increasing,pairwise_singleton _ _,?_⟩
 intro k hk l hl
 obtain ⟨g,hg,rfl⟩:=mem_map.mp hk
 rw [map_singleton,mem_singleton] at hl
 subst hl
 exact h.tokens_lt g hg

lemma Ledger.grant_lt(id:String):
  ∀g∈grants++[(id,p.inner.nextFencingToken)],g.2<p.inner.nextFencingToken+1:=by
 intro g hg
 rcases mem_append.mp hg with hg|hg
 · exact Nat.lt_succ_of_lt (h.tokens_lt g hg)
 · rw [mem_singleton] at hg
   subst hg
   exact Nat.lt_succ_self _

lemma Ledger.acquire(hp:Invariant p)(request:LeaseRequest A)(now:SystemTime):
  Ledger (ids++[leaseIdOf p.inner.id p.inner.nextLeaseNumber])
   (grants++[(leaseIdOf p.inner.id p.inner.nextLeaseNumber,p.inner.nextFencingToken)])
   releases (acquired p request now):=by
 refine ⟨?_,?_,h.grant_increasing _,h.grant_lt _,?_,?_⟩
 · refine List.Nodup.append h.ids_nodup (nodup_singleton _) ?_
   intro id hid hnew
   obtain ⟨n,hn,he⟩:=h.ids_number id hid
   exact next_not_number hn he (mem_singleton.mp hnew)
 · intro id hid
   rcases mem_append.mp hid with hid|hid
   · obtain ⟨n,hn,he⟩:=h.ids_number id hid
     exact ⟨n,Nat.lt_succ_of_lt hn,he⟩
   · exact ⟨p.inner.nextLeaseNumber,Nat.lt_succ_self _,mem_singleton.mp hid⟩
 · intro id lease hl
   rw [latestToken_concat]
   simp only [acquired,lookup_insert_eq] at hl
   split at hl
   · next hj=>
     cases hl
     simp [hj,leaseOf]
   · next hj=>
     rw [if_neg (Ne.symm hj)]
     exact h.latest id lease hl
 · intro id hid
   have hold:=h.released id hid
   simp only [acquired,lookup_insert_eq]
   split
   · next hj=>
     rw [hj,handle_next_none hp] at hold
     cases hold
   · exact hold

lemma Ledger.renew(id:String)(lease:ActiveLease A)(expiresAt:SystemTime):
  Ledger ids (grants++[(id,p.inner.nextFencingToken)]) releases
   (renewed p id lease expiresAt):=by
 refine ⟨h.ids_nodup,h.ids_number,h.grant_increasing _,h.grant_lt _,?_,h.released⟩
 intro j l hl
 rw [latestToken_concat]
 simp only [renewed,lookup_insert_eq] at hl
 split at hl
 · next hj=>
   cases hl
   simp [hj,renewedLease]
 · next hj=>
   rw [if_neg (Ne.symm hj)]
   exact h.latest j l hl

lemma Ledger.flag(id:String)(inner:Inner A)
  (hid:inner.id=p.inner.id)(hnum:inner.nextLeaseNumber=p.inner.nextLeaseNumber)
  (htok:inner.nextFencingToken=p.inner.nextFencingToken)
  (hsub:∀j l,inner.active.lookup j=some l→p.inner.active.lookup j=some l):
  Ledger ids grants (releases++[id]) ⟨inner,p.handles.insert id true⟩:=by
 refine ⟨h.ids_nodup,?_,h.tokens_increasing,?_,fun j l hl=>h.latest j l (hsub j l hl),?_⟩
 · rw [hid,hnum]
   exact h.ids_number
 · rw [htok]
   exact h.tokens_lt
 · intro j hj
   rw [lookup_insert_eq]
   split
   · rfl
   · next hne=>
     rcases mem_append.mp hj with hj|hj
     · exact h.released j hj
     · exact absurd (mem_singleton.mp hj) hne

end
end

lemma quiet_logs(p p':Pool A)(hq:r.isQuiet=true)(ht:c.time.isSome):
  acquiredId r=none∧grantOf ⟨p,c,r,p'⟩=none∧releaseOf ⟨p,c,r,p'⟩=none:=by
 refine ⟨?_,?_,?_⟩
 · match r with
   | .lease (.error _) | .token _ | .valid _ | .reaped _ | .released _=>rfl
   | .lease (.ok _)=>simp [Response.isQuiet] at hq
 · match c, r with
   | _, .lease (.error _)=>cases c <;>rfl
   | _, .lease (.ok _)=>simp [Response.isQuiet] at hq
   | _, .token (.error _)=>cases c <;>rfl
   | _, .token (.ok _)=>simp [Response.isQuiet] at hq
   | _, .valid _=>cases c <;>rfl
   | _, .reaped _=>cases c <;>rfl
   | _, .released _=>cases c <;>rfl
 · cases c with
   | release id=>simp [Call.time] at ht
   | _=>rfl

lemma error_isQuiet(h:r.isError=true):r.isQuiet=true:=by
 match r with
 | .lease (.error _) | .token (.error _) | .valid _ | .reaped _ | .released _=>rfl
 | .lease (.ok _)=>simp [Response.isError] at h
 | .token (.ok _)=>simp [Response.isError] at h

lemma Effect.ledger{p':Pool A}(h:Effect p c r p')(hp:Invariant p)
  {ids releases:List String}{grants:List (String×ℕ)}(hled:Ledger ids grants releases p):
  Ledger (ids++(acquiredId r).toList) (grants++(grantOf ⟨p,c,r,p'⟩).toList)
   (releases++(releaseOf ⟨p,c,r,p'⟩).toList) p':=by
 cases h with
 | refused failed ht=>
  obtain ⟨h1,h2,h3⟩:=quiet_logs p p (error_isQuiet failed) ht
  simpa [h1,h2,h3] using hled
 | @reaped _ _ now time quiet _=>
  obtain ⟨h1,h2,h3⟩:=quiet_logs p (reapAt p now) quiet (by rw [time];rfl)
  simpa only [h1,h2,h3,Option.toList_none,append_nil] using hled.reap hp now
 | @acquired request now room=>
  have hnew:=(hled.reap hp now).acquire (reapAt_invariant hp now) request now
  have htok:fencingToken (LeasePool.acquired (reapAt p now) request now)
    (leaseIdOf (reapAt p now).inner.id (reapAt p now).inner.nextLeaseNumber) =
     (reapAt p now).inner.nextFencingToken:=by
   simp [fencingToken,LeasePool.acquired,leaseOf]
  simpa [acquiredId,grantOf,releaseOf,htok] using hnew
 | @renewed id lease expiresAt current now hl _ _=>
  have hnew:=(hled.reap hp now).renew id lease expiresAt
  simpa [acquiredId,grantOf,releaseOf] using hnew
 | @released id lease hh hl=>
  have hnew:=hled.flag id (withoutLease p.inner id lease) rfl rfl rfl (by
   intro j l hj
   simp only [withoutLease,lookup_erase_eq] at hj
   split at hj
   · cases hj
   · exact hj)
  simpa [acquiredId,grantOf,releaseOf,hh,releasedPool] using hnew
 | @flagged id hh hl=>
  have hnew:=hled.flag id p.inner rfl rfl rfl (fun _ _ hj=>hj)
  simpa [acquiredId,grantOf,releaseOf,hh] using hnew
 | @idle id hh=>
  have hnew:Ledger ids grants (releases++(releaseOf (A:=A)
    ⟨p,.release id,.released false,p⟩).toList) p:=by
   refine { hled with released := ?_ }
   intro j hj
   rcases mem_append.mp hj with hj|hj
   · exact hled.released j hj
   · cases hl:p.handles.lookup id with
     | none=>simp [releaseOf,hl] at hj
     | some flag=>
      have hid:j=id:=by simpa [releaseOf,hl] using hj
      cases flag with
      | false=>exact absurd hl hh
      | true=>rw [hid,hl]
  simpa [acquiredId,grantOf] using hnew

lemma ledger_history(id:String)(capacityUnits:ℕ)(calls:List (Call A)):
  let past:=history step (freshPool id capacityUnits) calls
  Ledger (acquireLog past) (grantLog past) (releaseLog past)
   (execute step (freshPool id capacityUnits) calls):=by
 refine (history_invariant step (P:=fun past p=>Invariant p ∧
  Ledger (acquireLog past) (grantLog past) (releaseLog past) p)
  ⟨freshPool_invariant id capacityUnits,?_⟩ ?_ calls).2
 · exact ⟨nodup_nil,by simp [acquireLog],List.Pairwise.nil,by simp [grantLog],
    by simp [freshPool],by simp [releaseLog]⟩
 · rintro past p c ⟨hp,hled⟩
   have heff:=step_effect p c
   refine ⟨heff.invariant hp,?_⟩
   have hnew:=heff.ledger hp hled
   simp only [acquireLog,grantLog,releaseLog,filterMap_concat,takeStep]
   exact hnew

lemma capacity_history(id:String)(capacityUnits:ℕ)(calls:List (Call A)):
  (execute step (freshPool id capacityUnits) calls).inner.capacityUnits=capacityUnits:=by
 refine (execute_invariant step
  (I:=fun p=>Invariant p∧p.inner.capacityUnits=capacityUnits)
  ⟨freshPool_invariant id capacityUnits,rfl⟩ ?_ calls).2
 rintro p c ⟨hp,hcap⟩
 have heff:=step_effect p c
 refine ⟨heff.invariant hp,?_⟩
 have hreap:∀now,(reapAt p now).inner.capacityUnits=capacityUnits:=
  fun now=>(reapExpiredLocked_spec hp.accounts now).2.capacity_eq.trans hcap
 generalize (step p c).1=r at heff
 generalize (step p c).2=p' at heff ⊢
 cases heff with
 | refused _ _=>exact hcap
 | reaped _ _ _=>exact hreap _
 | acquired _=>exact hreap _
 | renewed _ _ _=>exact hreap _
 | _=>exact hcap

lemma renewal_increases(hp:Invariant p){id:String}{token new:ℕ}
  {expiresAt now:SystemTime}(hr:(step p (.renewAt id token expiresAt now)).1=.token (.ok new)):
  ∃lease lease' current,p.inner.active.lookup id=some lease ∧
   lease.fencingToken=token∧lease.expiresAt=some current ∧
   (step p (.renewAt id token expiresAt now)).2.inner.active.lookup id=some lease' ∧
   lease'.fencingToken=new∧lease'.expiresAt=some expiresAt ∧
   token<new∧current<expiresAt:=by
 have heff:=step_effect p (.renewAt id token expiresAt now)
 generalize (step p (.renewAt id token expiresAt now)).1=r at heff hr
 generalize (step p (.renewAt id token expiresAt now)).2=p' at heff ⊢
 obtain ⟨hacc,hre⟩:=reapExpiredLocked_spec hp.accounts now
 cases heff with
 | refused failed _=>
  rw [hr] at failed
  cases failed
 | reaped _ quiet _=>
  rw [hr] at quiet
  cases quiet
 | @renewed _ lease _ current _ hl hexp hlt=>
  cases hr
  refine ⟨lease,renewedLease (reapAt p now).inner lease expiresAt,current,?_,rfl,hexp,?_,
   rfl,rfl,hacc.token_lt id lease hl,hlt⟩
  · exact ((hre.lookup_iff id lease).mp hl).1
  · simp [LeasePool.renewed]

lemma validation_sound(hp:Invariant p){ids releases:List String}
  {grants:List (String×ℕ)}(hled:Ledger ids grants releases p){id:String}{token:ℕ}
  {now:SystemTime}(hr:(step p (.validateFencingTokenAt id token now)).1=.valid (.ok ())):
  latestToken grants id=some token∧id∉releases ∧
   ∃lease,p.inner.active.lookup id=some lease∧expiredAt now lease=false:=by
 have heff:=step_effect p (.validateFencingTokenAt id token now)
 generalize (step p (.validateFencingTokenAt id token now)).1=r at heff hr
 generalize (step p (.validateFencingTokenAt id token now)).2=p' at heff
 obtain ⟨-,hre⟩:=reapExpiredLocked_spec hp.accounts now
 cases heff with
 | refused failed _=>
  rw [hr] at failed
  cases failed
 | reaped time _ hval=>
  cases time
  obtain ⟨lease,hl,htok⟩:=hval id token now rfl hr
  obtain ⟨hbefore,hlive⟩:=(hre.lookup_iff id lease).mp hl
  refine ⟨htok▸hled.latest id lease hbefore,?_,lease,hbefore,hlive⟩
  intro hrel
  have hflag:=hled.released id hrel
  rw [hp.handle_live id lease hbefore] at hflag
  cases hflag

lemma error_only_reaps(hp:Invariant p)(hr:(step p c).1.isError=true):
  (step p c).2=p ∨ ∃now,c.time=some now∧(step p c).2.handles=p.handles ∧
    ReapedAt now p.inner (step p c).2.inner:=by
 have heff:=step_effect p c
 generalize (step p c).1=r at heff hr
 generalize (step p c).2=p' at heff ⊢
 cases heff with
 | refused _ _=>exact Or.inl rfl
 | @reaped _ _ now time _ _=>exact Or.inr ⟨now,time,rfl,(reapExpiredLocked_spec hp.accounts now).2⟩
 | _=>cases hr

theorem lease_pool_guarantees (id : String) (capacityUnits : ℕ) (calls : List (Call A)) :
  let past := history step (freshPool id capacityUnits) calls
  let p:=execute step (freshPool id capacityUnits) calls
  p.inner.usedUnits=sumValues ActiveLease.units p.inner.active ∧
  p.inner.usedUnits≤capacityUnits ∧
  (acquireLog past).Nodup ∧
  ((grantLog past).map Prod.snd).Pairwise (· < ·) ∧
  (∀leaseId token new expiresAt now,
   (step p (.renewAt leaseId token expiresAt now)).1=.token (.ok new) →
   ∃lease lease' current,p.inner.active.lookup leaseId=some lease ∧
    lease.fencingToken=token∧lease.expiresAt=some current ∧
    (step p (.renewAt leaseId token expiresAt now)).2.inner.active.lookup leaseId=some lease' ∧
    lease'.fencingToken=new∧lease'.expiresAt=some expiresAt ∧
    token<new∧current<expiresAt) ∧
  (∀leaseId token now,(step p (.validateFencingTokenAt leaseId token now)).1=.valid (.ok ()) →
   latestToken (grantLog past) leaseId=some token∧leaseId∉releaseLog past ∧
    ∃lease,p.inner.active.lookup leaseId=some lease∧expiredAt now lease=false) ∧
  (∀c:Call A,(step p c).1.isError=true→(step p c).2=p ∨
   ∃now,c.time=some now∧(step p c).2.handles=p.handles∧ReapedAt now p.inner (step p c).2.inner) := by
 intro past p
 have hp:=execute_step_invariant id capacityUnits calls
 have hled:=ledger_history id capacityUnits calls
 refine ⟨hp.accounts.used_eq,?_,hled.ids_nodup,hled.tokens_increasing,?_,?_,?_⟩
 · have hle:=hp.accounts.used_le
   rw [capacity_history] at hle
   exact hle
 · intro leaseId token new expiresAt now hr
   exact renewal_increases hp hr
 · intro leaseId token now hr
   exact validation_sound hp hled hr
 · intro c hr
   exact error_only_reaps hp hr

end GraphBlocks.LeasePool
