import GraphBlocks.MachineRuns
import GraphBlocks.RustStd

/-! `LocalRateLimiter` of the flow crate. -/
namespace GraphBlocks.RateLimits
open MachineRuns RustStd List

inductive RateLimitError where
 | invalidLimit
 | invalidWindow
 | invalidIdentity (field:String)

inductive RateLimitDecision where
 | allowed
 | limited (retryAfterMs:ℕ)
 | rejected (reason:String)
deriving DecidableEq

structure LocalRateLimiter where
 id:String
 limit:ℕ
 windowMs:ℕ
 windowStartMs:ℕ
 used:ℕ
deriving DecidableEq

def validateIdentity (field value:String) : Except RateLimitError Unit :=
 ensure (!(isBlank value||value != trim value)) (.invalidIdentity field)

/-- `a.saturating_add(b)` on `u64`. -/
def saturatingAdd (a b:ℕ) : ℕ := (checkedAdd a b).getD (u64Limit-1)

namespace LocalRateLimiter

def new (id:String) (limit windowMs:ℕ) : Except RateLimitError LocalRateLimiter := do
 ensure (limit != 0) .invalidLimit
 ensure (windowMs != 0) .invalidWindow
 validateIdentity "id" id
 return { id,limit,windowMs,windowStartMs:=0,used:=0 }

def refreshWindow (limiter:LocalRateLimiter) (nowMs:ℕ) : LocalRateLimiter :=
 if limiter.windowStartMs≤nowMs∧limiter.windowMs≤nowMs-limiter.windowStartMs then
  { limiter with windowStartMs:=nowMs,used:=0 }
 else limiter

def availableAt (limiter:LocalRateLimiter) (nowMs:ℕ) : ℕ × LocalRateLimiter :=
 let limiter:=limiter.refreshWindow nowMs
 (limiter.limit-limiter.used,limiter)

def retryAfter (limiter:LocalRateLimiter) (nowMs:ℕ) : ℕ :=
 if limiter.windowStartMs≤nowMs then limiter.windowMs-(nowMs-limiter.windowStartMs)
 else saturatingAdd (limiter.windowStartMs-nowMs) limiter.windowMs

def checkAt (limiter:LocalRateLimiter) (owner:String) (nowMs units:ℕ) :
  RateLimitDecision × LocalRateLimiter :=
 if (validateIdentity "owner" owner).isOk=false then (.rejected "invalid_owner",limiter)
 else if units=0 then (.rejected "invalid_units",limiter)
 else
  let limiter:=limiter.refreshWindow nowMs
  if limiter.limit<units then (.rejected "units_exceed_limit",limiter)
  else
   let retryAfterMs:=limiter.retryAfter nowMs
   match checkedAdd limiter.used units with
   | none=>(.limited retryAfterMs,limiter)
   | some nextUsed=>
    if limiter.limit<nextUsed then (.limited retryAfterMs,limiter)
    else (.allowed,{ limiter with used:=nextUsed })

end LocalRateLimiter

inductive Call where
 | availableAt (nowMs:ℕ)
 | checkAt (owner:String) (nowMs units:ℕ)

inductive Response where
 | available (units:ℕ)
 | decision (decision:RateLimitDecision)
deriving DecidableEq

def Call.nowMs : Call→ℕ
 | .availableAt nowMs | .checkAt _ nowMs _=>nowMs

def step (limiter:LocalRateLimiter) : Call→Response × LocalRateLimiter
 | .availableAt nowMs=>(limiter.availableAt nowMs).map .available id
 | .checkAt owner nowMs units=>(limiter.checkAt owner nowMs units).map .decision id

/-- The units that a transition allows. -/
def allowedUnits (t:Transition LocalRateLimiter Call Response) : ℕ :=
 match t.call with
 | .availableAt _=>0
 | .checkAt _ _ units=>if t.response=.decision .allowed then units else 0

/-- The units allowed from `start` on and for no longer than a window. -/
def allowedWithin (start windowMs:ℕ) (past:List (Transition LocalRateLimiter Call Response)) : ℕ :=
 ((past.filter fun t=>decide (start≤t.call.nowMs∧t.call.nowMs≤ start+windowMs)).map
  allowedUnits).sum

variable {limiter:LocalRateLimiter} {nowMs units:ℕ} {owner:String}

lemma refreshWindow_limit(limiter:LocalRateLimiter)(nowMs:ℕ):
  (limiter.refreshWindow nowMs).limit=limiter.limit ∧
   (limiter.refreshWindow nowMs).windowMs=limiter.windowMs:=by
 unfold LocalRateLimiter.refreshWindow
 split <;>exact ⟨rfl,rfl⟩

/-- A request that is not refused for its own sake. -/
structure Admissible (limiter:LocalRateLimiter) (owner:String) (units:ℕ) : Prop where
 validOwner:(validateIdentity "owner" owner).isOk=true
 someUnits:units≠0
 withinLimit:units ≤limiter.limit

/-- What is left of the window, or the wait for the next one. -/
def useWindow (limiter:LocalRateLimiter) (nowMs units:ℕ) : RateLimitDecision × LocalRateLimiter :=
 if limiter.used+units ≤limiter.limit∧limiter.used+units<u64Limit then
  (.allowed,{ limiter with used:=limiter.used+units })
 else (.limited (limiter.retryAfter nowMs),limiter)

lemma checkAt_admissible(h:Admissible limiter owner units):
  limiter.checkAt owner nowMs units=useWindow (limiter.refreshWindow nowMs) nowMs units:=by
 have hlimit:¬(limiter.refreshWindow nowMs).limit<units:=by
  rw [(refreshWindow_limit limiter nowMs).1]
  exact Nat.not_lt.mpr h.withinLimit
 unfold LocalRateLimiter.checkAt useWindow
 rw [h.validOwner,if_neg Bool.noConfusion,if_neg h.someUnits]
 dsimp only
 rw [if_neg hlimit]
 unfold checkedAdd
 by_cases hfits:(limiter.refreshWindow nowMs).used+units<u64Limit
 · rw [if_pos hfits]
   dsimp only
   by_cases hroom:(limiter.refreshWindow nowMs).used+units≤(limiter.refreshWindow nowMs).limit
   · rw [if_neg (Nat.not_lt.mpr hroom),if_pos ⟨hroom,hfits⟩]
   · rw [if_pos (Nat.lt_of_not_le hroom),if_neg fun hboth=>hroom hboth.1]
 · rw [if_neg hfits,if_neg fun hboth=>hfits hboth.2]

lemma checkAt_refused(nowMs:ℕ)(h:¬Admissible limiter owner units):∃reason,
  limiter.checkAt owner nowMs units=(.rejected reason,limiter) ∨
   limiter.checkAt owner nowMs units=(.rejected reason,limiter.refreshWindow nowMs):=by
 unfold LocalRateLimiter.checkAt
 split
 · exact ⟨_,.inl rfl⟩
 · next howner=>
  split
  · exact ⟨_,.inl rfl⟩
  · next hunits=>
   dsimp only
   rw [if_pos]
   · exact ⟨_,.inr rfl⟩
   · rw [(refreshWindow_limit limiter nowMs).1]
     exact Nat.lt_of_not_le fun hlimit=>h ⟨by simpa using howner,hunits,hlimit⟩

lemma allowedUnits_checkAt:allowedUnits (takeStep step limiter (.checkAt owner nowMs units)) =
   if (limiter.checkAt owner nowMs units).1=.allowed then units else 0:=by
 simp [allowedUnits,takeStep,step]

/-- What a call does: it may refresh the window, and may then use some more of it. -/
lemma step_cases(limiter:LocalRateLimiter)(call:Call):∃refreshed,
  (refreshed=limiter∨refreshed=limiter.refreshWindow call.nowMs) ∧
   (step limiter call).2={ refreshed with
    used:=refreshed.used+allowedUnits (takeStep step limiter call) } ∧
   (0<allowedUnits (takeStep step limiter call)→ refreshed=limiter.refreshWindow call.nowMs ∧
     refreshed.used+allowedUnits (takeStep step limiter call)≤refreshed.limit):=by
 cases call with
 | availableAt nowMs=>exact ⟨_,.inr rfl,rfl,fun h=>absurd h (Nat.lt_irrefl 0)⟩
 | checkAt owner nowMs units=>
  rw [allowedUnits_checkAt,step,Prod.map_snd,id]
  by_cases h:Admissible limiter owner units
  · rw [checkAt_admissible h]
    refine ⟨_,.inr rfl,?_⟩
    unfold useWindow
    split
    · next hroom=>exact ⟨rfl,fun _=>⟨rfl,hroom.1⟩⟩
    · exact ⟨rfl,fun hpos=>absurd hpos (Nat.lt_irrefl 0)⟩
  · obtain ⟨reason,hsame|hsame⟩:=checkAt_refused nowMs h <;>rw [hsame]
    · exact ⟨_,.inl rfl,rfl,fun hpos=>absurd hpos (Nat.lt_irrefl 0)⟩
    · exact ⟨_,.inr rfl,rfl,fun hpos=>absurd hpos (Nat.lt_irrefl 0)⟩

lemma refreshWindow_used(limiter:LocalRateLimiter)(nowMs:ℕ):
  (limiter.refreshWindow nowMs).used ≤limiter.used:=by
 unfold LocalRateLimiter.refreshWindow
 split
 · exact Nat.zero_le _
 · exact Nat.le_refl _

lemma used_le_limit(h:limiter.used ≤limiter.limit)(call:Call):
  (step limiter call).2.used≤(step limiter call).2.limit ∧
   (step limiter call).2.limit=limiter.limit∧(step limiter call).2.windowMs=limiter.windowMs:=by
 obtain ⟨refreshed,hrefreshed,hafter,hallowed⟩:=step_cases limiter call
 obtain ⟨hlimit,hwindow⟩:=refreshWindow_limit limiter call.nowMs
 have hsame:refreshed.limit=limiter.limit∧refreshed.windowMs=limiter.windowMs ∧
   refreshed.used ≤limiter.used:=by
  rcases hrefreshed with rfl|rfl
  · exact ⟨rfl,rfl,Nat.le_refl _⟩
  · exact ⟨hlimit,hwindow,refreshWindow_used limiter call.nowMs⟩
 rw [hafter]
 refine ⟨?_,hsame.1,hsame.2.1⟩
 dsimp only
 rcases Nat.eq_zero_or_pos (allowedUnits (takeStep step limiter call)) with hzero|hpos
 · omega
 · exact (hallowed hpos).2

abbrev Past := List (Transition LocalRateLimiter Call Response)

/-- What the units of an interval of one window can be, by where the current window starts. -/
structure Spread (start:ℕ) (past:Past) (limiter:LocalRateLimiter) : Prop where
 window:0<limiter.windowMs
 used:limiter.used ≤limiter.limit
 started:limiter.windowStartMs=0 ∨ ∃t∈past,limiter.windowStartMs=t.call.nowMs
 current:limiter.windowStartMs≤ start → allowedWithin start limiter.windowMs past ≤limiter.used
 previous:limiter.windowStartMs≤ start+limiter.windowMs →
  allowedWithin start limiter.windowMs past ≤limiter.limit+limiter.used
 total:allowedWithin start limiter.windowMs past≤2*limiter.limit
 late:0<allowedWithin start limiter.windowMs past → start<limiter.windowStartMs+limiter.windowMs

lemma allowedWithin_concat(start windowMs:ℕ)(past:Past)
  (t:Transition LocalRateLimiter Call Response):allowedWithin start windowMs (past++[t]) =
   allowedWithin start windowMs past +
    if start≤t.call.nowMs∧t.call.nowMs≤ start+windowMs then allowedUnits t else 0:=by
 unfold allowedWithin
 rw [filter_append,map_append,sum_append]
 by_cases h:start≤t.call.nowMs∧t.call.nowMs≤ start+windowMs
 · simp [h]
 · rw [if_neg h]
   simp [h]

lemma refreshWindow_cases(limiter:LocalRateLimiter)(nowMs:ℕ):
  limiter.refreshWindow nowMs=limiter ∧
    (limiter.windowStartMs≤nowMs→nowMs<limiter.windowStartMs+limiter.windowMs) ∨
   limiter.refreshWindow nowMs={ limiter with windowStartMs:=nowMs,used:=0 } ∧
    limiter.windowStartMs+limiter.windowMs≤nowMs:=by
 unfold LocalRateLimiter.refreshWindow
 split
 · next h=>exact .inr ⟨rfl,by omega⟩
 · next h=>exact .inl ⟨rfl,by omega⟩

lemma Spread.after_step{start:ℕ}{past:Past}(h:Spread start past limiter)(call:Call)
  (hlater:∀t∈past,t.call.nowMs≤call.nowMs):
  Spread start (past++[takeStep step limiter call]) (step limiter call).2:=by
 obtain ⟨hused,-,hwindow⟩:=used_le_limit h.used call
 have hstart:limiter.windowStartMs≤call.nowMs:=by
  rcases h.started with hzero|⟨t,ht,hsame⟩
  · omega
  · exact hsame.trans_le (hlater t ht)
 obtain ⟨hsome,hfull,hstarted,hcurrent,hprevious,htotal,hlate⟩:=h
 obtain ⟨refreshed,hrefreshed,hafter,hallowed⟩:=step_cases limiter call
 have hconcat:=allowedWithin_concat start limiter.windowMs past (takeStep step limiter call)
 rw [hafter] at hused hwindow ⊢
 have hcall:(takeStep step limiter call).call=call:=rfl
 rw [hcall] at hconcat
 have hkept:limiter.windowStartMs=0 ∨ ∃t∈past++[takeStep step limiter call],
   limiter.windowStartMs=t.call.nowMs:=by
  rcases hstarted with hzero|⟨t,ht,htime⟩
  · exact .inl hzero
  · exact .inr ⟨t,mem_append_left _ ht,htime⟩
 clear hstarted hlater
 dsimp only at hused hwindow
 rcases refreshWindow_cases limiter call.nowMs with ⟨hsame,hopen⟩|⟨hsame,hexpired⟩
 · obtain rfl:refreshed=limiter:=by rwa [hsame,or_self] at hrefreshed
   refine ⟨hsome,hused,hkept,?_,?_,?_,?_⟩
   all_goals
    clear hkept
    dsimp only
    rw [hconcat]
    split <;>omega
 · by_cases hfresh:refreshed=limiter.refreshWindow call.nowMs
   · obtain rfl:=hfresh.trans hsame
     refine ⟨hsome,hused,.inr ⟨_,mem_append_right _ (mem_singleton_self _),rfl⟩,?_,?_,
    ?_,?_⟩
     all_goals
      clear hkept
      dsimp only at hused ⊢
      rw [hconcat]
      split <;>omega
   · obtain rfl:=hrefreshed.resolve_right hfresh
     have hnone:allowedUnits (takeStep step refreshed call)=0:=
      Nat.eq_zero_of_not_pos fun hpos=>hfresh (hallowed hpos).1
     rw [hnone,ite_self,Nat.add_zero] at hconcat
     refine ⟨hsome,hused,hkept,?_,?_,?_,?_⟩
     all_goals
      clear hkept
      dsimp only
      rw [hconcat]
      omega

lemma Spread.after_run{start:ℕ}(h:Spread start [] limiter){calls:List Call}
  (hordered:calls.Pairwise fun a b=>a.nowMs≤b.nowMs):
  Spread start (history step limiter calls) (execute step limiter calls):=by
 apply history_invariant_of step (G:=fun past call=>∀t∈past,t.call.nowMs≤call.nowMs) h
 · exact fun past limiter call hlater h=>h.after_step call hlater
 · intro before call after hcalls t ht
   rw [hcalls] at hordered
   have hbefore:t.call∈before:=by
    rw [←history_calls step limiter before]
    exact List.mem_map_of_mem ht
   exact (pairwise_append.mp hordered).2.2 _ hbefore _ mem_cons_self

lemma checkAt_limited{retryAfterMs:ℕ}
  (h:(limiter.checkAt owner nowMs units).1=.limited retryAfterMs):Admissible limiter owner units ∧
   (limiter.checkAt owner nowMs units).2=limiter.refreshWindow nowMs ∧
   retryAfterMs=(limiter.refreshWindow nowMs).retryAfter nowMs ∧
   ¬((limiter.refreshWindow nowMs).used+units≤(limiter.refreshWindow nowMs).limit ∧
    (limiter.refreshWindow nowMs).used+units<u64Limit):=by
 by_cases hadmissible:Admissible limiter owner units
 · rw [checkAt_admissible hadmissible] at h ⊢
   unfold useWindow at h ⊢
   split at h
   · cases h
   · next hfull=>
    rw [if_neg hfull]
    exact ⟨hadmissible,rfl,(RateLimitDecision.limited.inj h).symm,hfull⟩
 · obtain ⟨reason,hsame|hsame⟩:=checkAt_refused nowMs hadmissible <;>rw [hsame] at h <;>cases h

/-- The wait ends with the window, unless the sum saturates. -/
lemma retryAfter_end(hwindow:0<limiter.windowMs)
  (hfits:nowMs+(limiter.refreshWindow nowMs).retryAfter nowMs<u64Limit)
  (hend:nowMs≠0 ∨
   (limiter.refreshWindow nowMs).windowStartMs+(limiter.refreshWindow nowMs).windowMs<u64Limit):
  nowMs+(limiter.refreshWindow nowMs).retryAfter nowMs =
   (limiter.refreshWindow nowMs).windowStartMs+(limiter.refreshWindow nowMs).windowMs:=by
 have hopen:(limiter.refreshWindow nowMs).windowStartMs≤nowMs →
   nowMs<(limiter.refreshWindow nowMs).windowStartMs+(limiter.refreshWindow nowMs).windowMs:=by
  rcases refreshWindow_cases limiter nowMs with ⟨hsame,hopen⟩|⟨hsame,-⟩
  · rwa [hsame]
  · rw [hsame]
    exact fun _=>Nat.lt_add_of_pos_right hwindow
 generalize limiter.refreshWindow nowMs=refreshed at *
 unfold LocalRateLimiter.retryAfter saturatingAdd checkedAdd at hfits ⊢
 have hpos:0<u64Limit:=by decide
 by_cases hstart:refreshed.windowStartMs≤nowMs
 · rw [if_pos hstart]
   have:=hopen hstart
   omega
 · rw [if_neg hstart] at hfits ⊢
   by_cases hsum:refreshed.windowStartMs-nowMs+refreshed.windowMs<u64Limit
   · rw [if_pos hsum,Option.getD_some]
     omega
   · rw [if_neg hsum,Option.getD_none] at hfits
     omega

lemma retry_exact{retryAfterMs:ℕ}(hwindow:0<limiter.windowMs)(hunits:units<u64Limit)
  (h:(limiter.checkAt owner nowMs units).1=.limited retryAfterMs)
  (hfits:nowMs+retryAfterMs<u64Limit)
  (hend:nowMs≠0∨(limiter.checkAt owner nowMs units).2.windowStartMs+limiter.windowMs<u64Limit):
  ((limiter.checkAt owner nowMs units).2.checkAt owner (nowMs+retryAfterMs) units).1=.allowed ∧
   ∀t,nowMs≤t→t<nowMs+retryAfterMs→∃wait,
    ((limiter.checkAt owner nowMs units).2.checkAt owner t units).1=.limited wait:=by
 obtain ⟨⟨howner,hsome,hlimit⟩,hafter,hretry,hfull⟩:=checkAt_limited h
 obtain ⟨hsamelimit,hsamewindow⟩:=refreshWindow_limit limiter nowMs
 rw [hafter] at hend ⊢
 subst hretry
 rw [←hsamewindow] at hwindow hend
 have hdone:=retryAfter_end (hsamewindow▸hwindow) hfits hend
 rw [hdone]
 rw [←hsamelimit] at hlimit
 generalize limiter.refreshWindow nowMs=refreshed at *
 have hadmissible:Admissible refreshed owner units:=⟨howner,hsome,hlimit⟩
 constructor
 · rw [checkAt_admissible hadmissible]
   rcases refreshWindow_cases refreshed (refreshed.windowStartMs+refreshed.windowMs) with
    ⟨-,hopen⟩|⟨hsame,-⟩
   · exact absurd (hopen (Nat.le_add_right _ _)) (Nat.lt_irrefl _)
   · rw [hsame]
     unfold useWindow
     rw [if_pos ⟨by simpa using hlimit,by simpa using hunits⟩]
 · intro t _ hbefore
   rw [checkAt_admissible hadmissible]
   rcases refreshWindow_cases refreshed t with ⟨hsame,-⟩|⟨-,hexpired⟩
   · rw [hsame]
     unfold useWindow
     rw [if_neg hfull]
     exact ⟨_,rfl⟩
   · exact absurd hexpired (Nat.not_le.mpr hbefore)

lemma new_ok{id:String}{limit windowMs:ℕ}(h:LocalRateLimiter.new id limit windowMs=.ok limiter):
  0<windowMs∧limiter={ id,limit,windowMs,windowStartMs:=0,used:=0 }:=by
 unfold LocalRateLimiter.new at h
 obtain ⟨_,-,h⟩:=bind_ok.mp h
 obtain ⟨_,hwindow,h⟩:=bind_ok.mp h
 obtain ⟨_,-,h⟩:=bind_ok.mp h
 exact ⟨Nat.pos_of_ne_zero (by simpa using ensure_ok.mp hwindow),(Except.ok.inj h).symm⟩

theorem rate_limit_kept (id : String) (limit windowMs : ℕ) (limiter : LocalRateLimiter)
  (h : LocalRateLimiter.new id limit windowMs=.ok limiter) (calls : List Call) :
  (execute step limiter calls).used ≤limit∧((calls.Pairwise fun a b=>a.nowMs≤b.nowMs) → ∀start,
    allowedWithin start windowMs (history step limiter calls)≤2*limit) ∧
   ∀(owner:String) (nowMs units retryAfterMs:ℕ) (after:LocalRateLimiter),units<u64Limit →
    (execute step limiter calls).checkAt owner nowMs units=(.limited retryAfterMs,after) →
    nowMs+retryAfterMs<u64Limit → nowMs≠0∨after.windowStartMs+windowMs<u64Limit →
    (after.checkAt owner (nowMs+retryAfterMs) units).1=.allowed ∧
     ∀t,nowMs≤t → t<nowMs+retryAfterMs → ∃wait,(after.checkAt owner t units).1=.limited wait := by
 obtain ⟨hwindow,rfl⟩:=new_ok h
 have hkept:=execute_invariant step (I:=fun state:LocalRateLimiter=>
  state.used ≤ state.limit∧state.limit=limit ∧
   state.windowMs=windowMs) (s:={ id,limit,windowMs,windowStartMs:=0,used:=0 })
  ⟨Nat.zero_le limit,rfl,rfl⟩ (fun state call hstate=>by
    obtain ⟨hused,hlimit,hsame⟩:=used_le_limit hstate.1 call
    exact ⟨hused,hlimit.trans hstate.2.1,hsame.trans hstate.2.2⟩) calls
 refine ⟨hkept.1.trans_eq hkept.2.1,fun hordered start=>?_,?_⟩
 · have hspread:Spread start [] { id,limit,windowMs,windowStartMs:=0,used:=0 }:=
    ⟨hwindow,Nat.zero_le _,.inl rfl,fun _=>Nat.le_refl 0,fun _=>Nat.zero_le _,Nat.zero_le _,
     fun hpos=>absurd hpos (Nat.lt_irrefl 0)⟩
   have hall:=hspread.after_run hordered
   have hconst:=hall.total
   rwa [hkept.2.1,hkept.2.2] at hconst
 · intro owner nowMs units retryAfterMs after hunits hlimited hfits hend
   have hexact:=@retry_exact (execute step _ calls) nowMs units owner retryAfterMs
    (hkept.2.2.symm▸hwindow) hunits (by rw [hlimited]) hfits
    (by rw [hlimited,hkept.2.2];exact hend)
   rwa [hlimited] at hexact

theorem one_per_ten_kept : (LocalRateLimiter.new "limiter" 1 10).isOk=true ∧
   (execute step ⟨"limiter",1,10,0,0⟩ [.checkAt "owner" 3 1]).used≤1 ∧
   allowedWithin 3 10 (history step ⟨"limiter",1,10,0,0⟩ [.checkAt "owner" 3 1])≤2*1 ∧
   (LocalRateLimiter.checkAt ⟨"limiter",1,10,0,1⟩ "owner" 10 1).1=.allowed := by
 have hnew:LocalRateLimiter.new "limiter" 1 10=.ok ⟨"limiter",1,10,0,0⟩:=by
  have hid:validateIdentity "id" "limiter"=.ok ():=ensure_ok.mpr (by decide +kernel)
  simp [LocalRateLimiter.new,hid,ensure]
  rfl
 have hlimited:(execute step ⟨"limiter",1,10,0,0⟩ [.checkAt "owner" 3 1]).checkAt "owner" 4 1 =
   (.limited 6,⟨"limiter",1,10,0,1⟩):=by decide +kernel
 obtain ⟨hused,hspread,hretry⟩:=rate_limit_kept "limiter" 1 10 _ hnew [.checkAt "owner" 3 1]
 exact ⟨hnew▸rfl,hused,hspread (pairwise_singleton _ _) 3,
  (hretry "owner" 4 1 6 _ (by decide) hlimited (by decide) (.inl (by decide))).1⟩

/-- At time zero the sum saturates, and the hint is too early. -/
theorem saturated_retry_is_early :
  (LocalRateLimiter.new "limiter" 1 10).toOption=some ⟨"limiter",1,10,0,0⟩ ∧
   (execute step ⟨"limiter",1,10,0,0⟩ [.checkAt "owner" (u64Limit-2) 1]).checkAt "owner" 0 1 =
    (.limited (u64Limit-1),⟨"limiter",1,10,u64Limit-2,1⟩) ∧
   (LocalRateLimiter.checkAt ⟨"limiter",1,10,u64Limit-2,1⟩ "owner" (0+(u64Limit-1)) 1).1 =
    .limited 9 := by
 decide +kernel

end GraphBlocks.RateLimits
