import GraphBlocks.BudgetAmounts

namespace GraphBlocks.Budget
open Std OrderedMap RustStd Usage List Option Std.ExtTreeMap

variable {held:List String} {id:String} {accounts:StringMap BudgetAccount}

lemma chainLoop_ok{fuel:ℕ}{chain:List String}(h:chainLoop accounts fuel chain id=.ok held)
  (hn:chain.Nodup)(hc:∀b∈chain,accounts.contains b=true):
  held.Nodup∧(∀b∈held,accounts.contains b=true)∧id∈held∧chain ⊆ held:=by
 induction fuel generalizing chain id with
 | zero=>cases h
 | succ fuel ih=>
  rw [chainLoop] at h
  split at h
  · cases h
  · next hmem=>
    have hn':(chain++[id]).Nodup:=nodup_append.mpr
     ⟨hn,nodup_singleton id,fun a ha b hb=>by
      rw [mem_singleton] at hb
      rintro rfl
      exact hmem (hb▸ha)⟩
    cases ha:accounts[id]? with
    | none=>
     rw [ha] at h
     cases h
    | some account=>
     rw [ha] at h
     have hc':∀b∈chain++[id],accounts.contains b=true:=by
      intro b hb
      rcases mem_append.mp hb with hb|hb
      · exact hc b hb
      · rw [mem_singleton] at hb
        exact (contains_iff accounts).mpr ⟨account,hb▸ha⟩
     simp only at h
     split at h
     · cases h
       exact ⟨hn',hc',by simp,by simp⟩
     · obtain ⟨h1,h2,-,h4⟩:=ih h hn' hc'
       exact ⟨h1,h2,h4 (by simp),fun b hb=>h4 (by simp [hb])⟩

lemma budgetChain_ok(h:budgetChain accounts id=.ok held):
  held.Nodup∧(∀b∈held,accounts.contains b=true)∧id∈held:=by
 obtain ⟨h1,h2,h3,-⟩:=chainLoop_ok h nodup_nil (by simp)
 exact ⟨h1,h2,h3⟩

def BudgetAccount.core (account:BudgetAccount) : BudgetAccount := { account with revision:=0 }

variable {s s' s'':InMemoryBudgetLedger}

/-- Balances, revisions and counters may differ, nothing else. -/
structure Rebalanced (s s':InMemoryBudgetLedger) : Prop where
 accounts:∀b : String,s'.accounts[b]?.map BudgetAccount.core=s.accounts[b]?.map BudgetAccount.core
 allocated:s'.allocated=s.allocated
 reserved:∀b : String,s'.reserved.contains b=s.reserved.contains b
 committed:∀b : String,s'.committed.contains b=s.committed.contains b
 overdraft:∀b : String,s'.overdraft.contains b=s.overdraft.contains b
 reservations:s'.reservations=s.reservations
 reservationHolds:s'.reservationHolds=s.reservationHolds
 permits:s'.permits=s.permits
 permitSpent:s'.permitSpent=s.permitSpent
 completionReserves:s'.completionReserves=s.completionReserves
 completionReserveHolds:s'.completionReserveHolds=s.completionReserveHolds

lemma Rebalanced.refl(s:InMemoryBudgetLedger):Rebalanced s s:=
 ⟨fun _=>rfl,rfl,fun _=>rfl,fun _=>rfl,fun _=>rfl,rfl,rfl,rfl,rfl,rfl,rfl⟩

lemma Rebalanced.trans (h:Rebalanced s s') (h':Rebalanced s' s'') : Rebalanced s s'' where
 accounts b:=(h'.accounts b).trans (h.accounts b)
 allocated:=h'.allocated.trans h.allocated
 reserved b:=(h'.reserved b).trans (h.reserved b)
 committed b:=(h'.committed b).trans (h.committed b)
 overdraft b:=(h'.overdraft b).trans (h.overdraft b)
 reservations:=h'.reservations.trans h.reservations
 reservationHolds:=h'.reservationHolds.trans h.reservationHolds
 permits:=h'.permits.trans h.permits
 permitSpent:=h'.permitSpent.trans h.permitSpent
 completionReserves:=h'.completionReserves.trans h.completionReserves
 completionReserveHolds:=h'.completionReserveHolds.trans h.completionReserveHolds

lemma Rebalanced.contains(h:Rebalanced s s')(b:String):
  s'.accounts.contains b=s.accounts.contains b:=by
 have ha:=congrArg Option.isSome (h.accounts b)
 rwa [isSome_map,isSome_map,←contains_eq_isSome_getElem?,←contains_eq_isSome_getElem?] at ha

lemma contains_insert_bound{α:Type}{m:StringMap α}{k:String}{a:α}
  (h:m.contains k=true)(b:String):(m.insert k a).contains b=m.contains b:=by
 rw [ExtTreeMap.contains_insert]
 by_cases hk:k=b
 · subst hk
   simp [h]
 · simp [hk,LawfulEqCmp.compare_eq_iff_eq]

lemma bumpRevision_frame(s:InMemoryBudgetLedger)(id:String):Rebalanced s (bumpRevision s id).2:=by
 unfold bumpRevision
 split
 · exact .refl s
 · next account ha=>
   split
   · exact .refl s
   · refine ⟨fun b=>?_,rfl,fun _=>rfl,fun _=>rfl,fun _=>rfl,rfl,rfl,rfl,rfl,rfl,rfl⟩
     simp only [lookup_insert]
     split
     · next hb=>
       subst hb
       rw [ha]
       rfl
     · rfl

lemma balanceMap_ok{balances:StringMap AmountMap}{component:String}{m:AmountMap}:
  balanceMap balances id component=.ok m↔balances[id]?=some m:=by
 unfold balanceMap
 cases balances[id]? <;>simp

lemma updateReserved_frame(update:AmountMap→Except BudgetError AmountMap)(held:List String)
  (s:InMemoryBudgetLedger):Rebalanced s (updateReserved update held s).2:=by
 induction held generalizing s with
 | nil=>exact .refl s
 | cons id ids ih=>
  rw [updateReserved]
  split
  · exact .refl s
  · next balance hb=>
    split
    · exact .refl s
    · next balance' _=>
      have hwrite:Rebalanced s { s with reserved:=s.reserved.insert id balance' }:=by
       refine ⟨fun _=>rfl,rfl,fun b=>?_,fun _=>rfl,fun _=>rfl,rfl,rfl,rfl,rfl,rfl,rfl⟩
       exact contains_insert_bound
        ((contains_iff s.reserved).mpr ⟨balance,balanceMap_ok.mp hb⟩) b
      have hbump:=hwrite.trans (bumpRevision_frame _ id)
      split
      · next hs=>exact hs▸hbump
      · next hs=>exact (hs▸hbump).trans (ih _)

def BudgetAccount.bump (held:List String) (id:String) (account:BudgetAccount) : BudgetAccount :=
 if id∈held then { account with revision:=account.revision+1 } else account

lemma map_bump_of_notMem(h:id∉held)(o:Option BudgetAccount):
  o.map (BudgetAccount.bump held id)=o:=by
 cases o with
 | none=>rfl
 | some account=>simp [BudgetAccount.bump,h]

lemma bumpRevision_ok(h:bumpRevision s id=(.ok (),s')):
  s' = { s with accounts:=s'.accounts }∧s.accounts.contains id=true ∧
   ∀b : String,s'.accounts[b]?=s.accounts[b]?.map (BudgetAccount.bump [id] b):=by
 unfold bumpRevision at h
 split at h
 · cases h
 · next account ha=>
   split at h
   · cases h
   · next revision hr=>
     cases h
     refine ⟨rfl,(contains_iff s.accounts).mpr ⟨account,ha⟩,fun b=>?_⟩
     simp only [lookup_insert]
     by_cases hb:b=id
     · subst hb
       simp [ha,checkedSucc_eq_some hr,BudgetAccount.bump]
     · rw [if_neg (Ne.symm hb),map_bump_of_notMem (by simpa using hb)]

lemma bumpRevision_completes{account:BudgetAccount}(ha:s.accounts[id]?=some account)
  (hr:account.revision+1<u64Limit):∃s',bumpRevision s id=(.ok (),s'):=by
 have hsucc:checkedSucc account.revision=some (account.revision+1):=if_pos hr
 unfold bumpRevision
 rw [ha]
 simp only [hsucc]
 exact ⟨_,rfl⟩

lemma bump_cons{ids:List String}(hn:id∉ids)(b:String)(account:BudgetAccount):
  (account.bump [id] b).bump ids b=account.bump (id::ids) b:=by
 unfold BudgetAccount.bump
 by_cases hb:b=id
 · subst hb
   simp [hn]
 · simp [hb]

/-- A completed `updateReserved`. -/
structure HeldUpdate (update:AmountMap→Except BudgetError AmountMap) (held:List String)
  (s s':InMemoryBudgetLedger) : Prop where
 rest:s' = { s with reserved:=s'.reserved,accounts:=s'.accounts }
 inside:∀b∈held,∃m m',s.reserved[b]?=some m∧update m=.ok m'∧s'.reserved[b]?=some m'
 outside:∀b,b∉held→s'.reserved[b]?=s.reserved[b]?
 accounts:∀b : String,s'.accounts[b]?=s.accounts[b]?.map (BudgetAccount.bump held b)

variable {update:AmountMap→Except BudgetError AmountMap}

lemma updateReserved_ok(h:updateReserved update held s=(.ok (),s'))(hn:held.Nodup):
  HeldUpdate update held s s':=by
 induction held generalizing s with
 | nil=>
  cases h
  exact ⟨rfl,by simp,fun _ _=>rfl,fun b=>(map_bump_of_notMem (by simp) _).symm⟩
 | cons id ids ih=>
  obtain ⟨hid,hn⟩:=nodup_cons.mp hn
  rw [updateReserved] at h
  split at h
  · cases h
  · next m hm=>
    split at h
    · cases h
    · next m' hm'=>
      split at h
      · cases h
      · next s₁ hs₁=>
        obtain ⟨hrest,-,hacc⟩:=bumpRevision_ok hs₁
        have htail:=ih h hn
        have hres:s₁.reserved=s.reserved.insert id m':=by rw [hrest]
        refine ⟨?_,?_,?_,?_⟩
        · rw [htail.rest,hrest]
        · intro b hb
          by_cases hbid:b=id
          · subst hbid
            refine ⟨m,m',balanceMap_ok.mp hm,hm',?_⟩
            rw [htail.outside b hid,hres,lookup_insert_self]
          · have hbids:b∈ids:=(mem_cons.mp hb).resolve_left hbid
            obtain ⟨n,n',hn₁,hn₂,hn₃⟩:=htail.inside b hbids
            rw [hres,lookup_insert_ne _ _ (Ne.symm hbid)] at hn₁
            exact ⟨n,n',hn₁,hn₂,hn₃⟩
        · intro b hb
          rw [mem_cons,not_or] at hb
          rw [htail.outside b hb.2,hres,lookup_insert_ne _ _ (Ne.symm hb.1)]
        · intro b
          rw [htail.accounts b,hacc b,Option.map_map]
          congr 1
          funext account
          exact bump_cons hid b account

lemma updateReserved_completes
  (hn:held.Nodup)(hm:∀b∈held,∃m m',s.reserved[b]?=some m∧update m=.ok m')
  (ha:∀b∈held,∃account,s.accounts[b]?=some account∧account.revision+1<u64Limit):
  ∃s',updateReserved update held s=(.ok (),s'):=by
 induction held generalizing s with
 | nil=>exact ⟨s,rfl⟩
 | cons id ids ih=>
  obtain ⟨hid,hn⟩:=nodup_cons.mp hn
  obtain ⟨m,m',hm₁,hm₂⟩:=hm id mem_cons_self
  obtain ⟨account,ha₁,ha₂⟩:=ha id mem_cons_self
  obtain ⟨s₁,hs₁⟩:=bumpRevision_completes
   (s:={ s with reserved:=s.reserved.insert id m' }) ha₁ ha₂
  obtain ⟨hrest,-,hacc⟩:=bumpRevision_ok hs₁
  have hne:∀b∈ids,id≠b:=fun b hb=>by
   rintro rfl
   exact hid hb
  rw [updateReserved,balanceMap_ok.mpr hm₁]
  simp only [hm₂,hs₁]
  apply ih hn
  · intro b hb
    obtain ⟨n,n',hn₁,hn₂⟩:=hm b (mem_cons_of_mem _ hb)
    refine ⟨n,n',?_,hn₂⟩
    rw [hrest,lookup_insert_ne _ _ (hne b hb),hn₁]
  · intro b hb
    obtain ⟨a,hb₁,hb₂⟩:=ha b (mem_cons_of_mem _ hb)
    refine ⟨a,?_,hb₂⟩
    rw [hacc b,map_bump_of_notMem (by simpa using Ne.symm (hne b hb)),hb₁]

structure CommitBalance (reserved actual overdraft:AmountMap) (s:InMemoryBudgetLedger)
  (id:String) (u:UpdatedBalance) : Prop where
 budgetId:u.budgetId=id
 reserved:∃m,s.reserved[id]?=some m∧subtractAmounts m reserved=.ok u.reserved
 committed:∃m,s.committed[id]?=some m∧addAmounts m actual=.ok u.committed
 overdraft:∃m,s.overdraft[id]?=some m∧addAmounts m overdraft=.ok u.overdraft

variable {reserved actual overdraft:AmountMap}

lemma updatedBalance_ok_iff{u:UpdatedBalance}:
  updatedBalance s reserved actual overdraft id=.ok u ↔
   CommitBalance reserved actual overdraft s id u:=by
 simp only [updatedBalance,bind_ok,balanceMap_ok]
 constructor
 · rintro ⟨r,hr,c,hc,o,ho,r',hr',c',hc',o',ho',hu⟩
   cases hu
   exact ⟨rfl,⟨r,hr,hr'⟩,⟨c,hc,hc'⟩,⟨o,ho,ho'⟩⟩
 · rintro ⟨rfl,⟨r,hr,hr'⟩,⟨c,hc,hc'⟩,⟨o,ho,ho'⟩⟩
   exact ⟨r,hr,c,hc,o,ho,_,hr',_,hc',_,ho',rfl⟩

variable {us:List UpdatedBalance}

lemma updatedBalances_ok(h:updatedBalances s reserved actual overdraft held=.ok us):
  us.map UpdatedBalance.budgetId=held ∧
   ∀u∈us,CommitBalance reserved actual overdraft s u.budgetId u:=by
 induction held generalizing us with
 | nil=>
  cases h
  simp
 | cons id ids ih=>
  rw [updatedBalances,bind_ok] at h
  obtain ⟨u,hu,h⟩:=h
  rw [bind_ok] at h
  obtain ⟨us',hus,h⟩:=h
  cases h
  have hub:=updatedBalance_ok_iff.mp hu
  obtain ⟨h₁,h₂⟩:=ih hus
  refine ⟨by rw [map_cons,hub.budgetId,h₁],?_⟩
  intro v hv
  rcases mem_cons.mp hv with rfl|hv
  · rw [hub.budgetId]
    exact hub
  · exact h₂ v hv

def writeBalance (s:InMemoryBudgetLedger) (u:UpdatedBalance) : InMemoryBudgetLedger :=
 { s with
   reserved:=s.reserved.insert u.budgetId u.reserved
   committed:=s.committed.insert u.budgetId u.committed
   overdraft:=s.overdraft.insert u.budgetId u.overdraft }

lemma writeBalances_cons(u:UpdatedBalance)(us:List UpdatedBalance):writeBalances (u::us) s =
   match bumpRevision (writeBalance s u) u.budgetId with
   | (.error e,s)=>(.error e,s)
   | (.ok (),s)=>writeBalances us s:=rfl

lemma writeBalances_frame(h:∀u∈us,s.reserved.contains u.budgetId=true ∧
   s.committed.contains u.budgetId=true∧s.overdraft.contains u.budgetId=true):
  Rebalanced s (writeBalances us s).2:=by
 induction us generalizing s with
 | nil=>exact .refl s
 | cons u us ih=>
  obtain ⟨hr,hc,ho⟩:=h u mem_cons_self
  have hwrite:Rebalanced s (writeBalance s u):=
   ⟨fun _=>rfl,rfl,contains_insert_bound hr,contains_insert_bound hc,
    contains_insert_bound ho,rfl,rfl,rfl,rfl,rfl,rfl⟩
  have hbump:=hwrite.trans (bumpRevision_frame (writeBalance s u) u.budgetId)
  rw [writeBalances_cons]
  split
  · next hs=>exact hs▸hbump
  · next s₁ hs=>
    have hs₁:Rebalanced s s₁:=by
     rw [hs] at hbump
     exact hbump
    refine hs₁.trans (ih ?_)
    intro v hv
    rw [hs₁.reserved,hs₁.committed,hs₁.overdraft]
    exact h v (mem_cons_of_mem _ hv)

/-- A completed `writeBalances`. -/
structure BalancesWritten (us:List UpdatedBalance) (s s':InMemoryBudgetLedger) : Prop where
 rest:s' = { s with
  reserved:=s'.reserved,committed:=s'.committed,overdraft:=s'.overdraft,accounts:=s'.accounts }
 inside:∀u∈us,s'.reserved[u.budgetId]?=some u.reserved ∧
  s'.committed[u.budgetId]?=some u.committed∧s'.overdraft[u.budgetId]?=some u.overdraft
 outside:∀b,b∉us.map UpdatedBalance.budgetId→s'.reserved[b]?=s.reserved[b]? ∧
  s'.committed[b]?=s.committed[b]?∧s'.overdraft[b]?=s.overdraft[b]?
 accounts:∀b : String,s'.accounts[b]? =
  s.accounts[b]?.map (BudgetAccount.bump (us.map UpdatedBalance.budgetId) b)

lemma writeBalances_ok(h:writeBalances us s=(.ok (),s'))
  (hn:(us.map UpdatedBalance.budgetId).Nodup):BalancesWritten us s s':=by
 induction us generalizing s with
 | nil=>
  cases h
  exact ⟨rfl,by simp,fun _ _=>⟨rfl,rfl,rfl⟩,fun b=>(map_bump_of_notMem (by simp) _).symm⟩
 | cons u us ih=>
  rw [map_cons,nodup_cons] at hn
  rw [writeBalances_cons] at h
  split at h
  · cases h
  · next s₁ hs₁=>
    obtain ⟨hrest,-,hacc⟩:=bumpRevision_ok hs₁
    have htail:=ih h hn.2
    refine ⟨?_,?_,?_,?_⟩
    · rw [htail.rest,hrest]
      rfl
    · intro v hv
      rcases mem_cons.mp hv with rfl|hv
      · obtain ⟨h₁,h₂,h₃⟩:=htail.outside v.budgetId hn.1
        rw [h₁,h₂,h₃,hrest]
        exact ⟨lookup_insert_self _ _ _,lookup_insert_self _ _ _,lookup_insert_self _ _ _⟩
      · exact htail.inside v hv
    · intro b hb
      rw [map_cons,mem_cons,not_or] at hb
      obtain ⟨h₁,h₂,h₃⟩:=htail.outside b hb.2
      rw [h₁,h₂,h₃,hrest]
      exact ⟨lookup_insert_ne _ _ (Ne.symm hb.1),lookup_insert_ne _ _ (Ne.symm hb.1),
       lookup_insert_ne _ _ (Ne.symm hb.1)⟩
    · intro b
      rw [htail.accounts b,hacc b,Option.map_map]
      congr 1
      funext account
      exact bump_cons hn.1 b account

lemma writeBalances_completes(hn:(us.map UpdatedBalance.budgetId).Nodup)
  (ha:∀b∈us.map UpdatedBalance.budgetId,∃account,s.accounts[b]?=some account ∧
   account.revision+1<u64Limit):
  ∃s',writeBalances us s=(.ok (),s'):=by
 induction us generalizing s with
 | nil=>exact ⟨s,rfl⟩
 | cons u us ih=>
  rw [map_cons,nodup_cons] at hn
  obtain ⟨account,ha₁,ha₂⟩:=ha u.budgetId (by simp)
  obtain ⟨s₁,hs₁⟩:=bumpRevision_completes (s:=writeBalance s u) ha₁ ha₂
  obtain ⟨-,-,hacc⟩:=bumpRevision_ok hs₁
  rw [writeBalances_cons,hs₁]
  apply ih hn.2
  intro b hb
  obtain ⟨a,hb₁,hb₂⟩:=ha b (by simp [hb])
  have hne:b≠u.budgetId:=by
   rintro rfl
   exact hn.1 hb
  refine ⟨a,?_,hb₂⟩
  rw [hacc b,map_bump_of_notMem (by simpa using hne)]
  exact hb₁

end GraphBlocks.Budget
