import GraphBlocks.MachineRuns
import GraphBlocks.RustStd

/-! `AuthorityWallClock` of the Python clocks, with exact seconds. -/
namespace GraphBlocks.Clocks
open MachineRuns RustStd

inductive ClockError where
 | value (message:String)
 | skew (message:String)
 | assertion
deriving DecidableEq

structure AuthorityWallClock where
 maxSkewMilliseconds:ℕ
 lastWallMilliseconds:Option ℤ
 lastMonotonicSeconds:Option ℚ

/-- What the two clocks return to one call. -/
structure Readings where
 wallMilliseconds:ℤ
 monotonicSeconds:ℚ

def finiteNonNegativeSeconds (owner:String) (value:ℚ) : Except ClockError ℚ :=
 if value<0 then .error (.value (owner ++ " must return a finite non-negative number"))
 else .ok value

def authorityMilliseconds (value:ℤ) : Except ClockError ℤ :=
 if value<0 then .error (.value "authority wall clock must return non-negative epoch milliseconds")
 else .ok value

namespace AuthorityWallClock

variable (clock:AuthorityWallClock)

def new (maxSkewMilliseconds:ℕ) : AuthorityWallClock := ⟨maxSkewMilliseconds,none,none⟩

def effectiveWall (wall:ℤ) (observedMonotonic:ℚ) : Except ClockError ℤ :=
 match clock.lastWallMilliseconds, clock.lastMonotonicSeconds with
 | none, _=>.ok wall
 | some _, none=>.error .assertion
 | some lastWall, some lastMonotonic=>
  let elapsedSeconds:=observedMonotonic-lastMonotonic
  if elapsedSeconds<0 then .error (.skew "authority monotonic clock moved backwards")
  else
   let expectedWall:=lastWall+elapsedSeconds*1000
   if clock.maxSkewMilliseconds < |(wall:ℚ)-expectedWall| then
    .error (.skew "authority wall clock exceeded the configured skew policy")
   else .ok (max wall lastWall)

def observedWall (readings:Readings) : Except ClockError ℤ := do
 let wall ← authorityMilliseconds readings.wallMilliseconds
 let observedMonotonic ←
  finiteNonNegativeSeconds "authority monotonic clock" readings.monotonicSeconds
 clock.effectiveWall wall observedMonotonic

/-- A call that succeeds records what it returns and the monotonic time. -/
def nowMilliseconds (readings:Readings) : Except ClockError ℤ×AuthorityWallClock :=
 match clock.observedWall readings with
 | .error e=>(.error e,clock)
 | .ok wall=>
  (.ok wall,{ clock with
    lastWallMilliseconds:=some wall,lastMonotonicSeconds:=some readings.monotonicSeconds })

end AuthorityWallClock

open AuthorityWallClock

/-- The clock has last returned `wall`, at the monotonic time `seconds`. -/
structure Stands (clock:AuthorityWallClock) (wall:ℤ) (seconds:ℚ) : Prop where
 wall:clock.lastWallMilliseconds=some wall
 seconds:clock.lastMonotonicSeconds=some seconds

/-- From one standing to a later one: no decrease, and at most `drift` off the elapsed time. -/
structure Follows (drift:ℚ) (wall:ℤ) (seconds:ℚ) (wall':ℤ) (seconds':ℚ) : Prop where
 grows:wall≤wall'
 drifts : |((wall':ℚ)-wall)-(seconds'-seconds)*1000|≤drift

variable {clock:AuthorityWallClock} {readings:Readings} {wall wall' wall'':ℤ}
 {seconds seconds' seconds'' drift drift':ℚ} {skew:ℕ}

lemma Follows.refl(wall:ℤ)(seconds:ℚ):Follows 0 wall seconds wall seconds:=⟨le_refl _,by simp⟩

lemma Follows.trans(h:Follows drift wall seconds wall' seconds')
  (h':Follows drift' wall' seconds' wall'' seconds''):
  Follows (drift+drift') wall seconds wall'' seconds'':=by
 refine ⟨h.grows.trans h'.grows,?_⟩
 have hsum:((wall'':ℚ)-wall)-(seconds''-seconds)*1000=(((wall':ℚ)-wall)-(seconds'-seconds)*1000) +
    (((wall'':ℚ)-wall')-(seconds''-seconds')*1000):=by ring
 rw [hsum]
 exact (abs_add_le _ _).trans (add_le_add h.drifts h'.drifts)

lemma nowMilliseconds_error{e:ClockError}(h:(clock.nowMilliseconds readings).1=.error e):
  (clock.nowMilliseconds readings).2=clock:=by
 unfold nowMilliseconds at h ⊢
 split at h
 · rfl
 · cases h

lemma nowMilliseconds_ok(h:(clock.nowMilliseconds readings).1=.ok wall):
  (∃observed,clock.effectiveWall observed readings.monotonicSeconds=.ok wall) ∧
   Stands (clock.nowMilliseconds readings).2 wall readings.monotonicSeconds ∧
   (clock.nowMilliseconds readings).2.maxSkewMilliseconds=clock.maxSkewMilliseconds:=by
 unfold nowMilliseconds at h ⊢
 split at h
 · cases h
 · next other hobserved=>
   obtain rfl:=Except.ok.inj h
   obtain ⟨observed,-,h⟩:=bind_ok.mp hobserved
   obtain ⟨monotonic,hmonotonic,heffective⟩:=bind_ok.mp h
   unfold finiteNonNegativeSeconds at hmonotonic
   split_ifs at hmonotonic
   obtain rfl:=Except.ok.inj hmonotonic
   exact ⟨⟨observed,heffective⟩,⟨rfl,rfl⟩,rfl⟩

lemma effectiveWall_follows(hclock:Stands clock wall seconds)
  (h:clock.effectiveWall wall'' seconds'=.ok wall'):
  Follows clock.maxSkewMilliseconds wall seconds wall' seconds':=by
 unfold effectiveWall at h
 simp only [hclock.wall,hclock.seconds] at h
 split_ifs at h with helapsed hskew
 obtain rfl:=Except.ok.inj h
 have hwithin:=not_lt.mp hskew
 rw [abs_le] at hwithin
 refine ⟨le_max_right _ _,?_⟩
 rw [abs_le]
 rcases le_total wall wall'' with hle|hle
 · rw [max_eq_left hle]
   constructor <;>linarith
 · rw [max_eq_right hle]
   have hcast:(wall'':ℚ)≤wall:=by exact_mod_cast hle
   constructor <;>linarith

/-- The successful calls among some. -/
def successes (clock:AuthorityWallClock) (calls:List Readings) : ℕ :=
 (history nowMilliseconds clock calls).countP fun t=>t.response.isOk

lemma maxSkew_execute(calls:List Readings):
  (execute nowMilliseconds clock calls).maxSkewMilliseconds=clock.maxSkewMilliseconds:=by
 refine execute_invariant (I:=fun c:AuthorityWallClock =>
  c.maxSkewMilliseconds=clock.maxSkewMilliseconds) _ rfl ?_ calls
 intro c readings hc
 cases hresult:(c.nowMilliseconds readings).1 with
 | error e=>rw [nowMilliseconds_error hresult,hc]
 | ok wall=>rw [(nowMilliseconds_ok hresult).2.2,hc]

lemma execute_follows(hclock:Stands clock wall seconds)(calls:List Readings):
  ∃wall' seconds',Stands (execute nowMilliseconds clock calls) wall' seconds' ∧
   Follows (clock.maxSkewMilliseconds*successes clock calls) wall seconds wall' seconds':=by
 induction calls generalizing clock wall seconds with
 | nil=>exact ⟨wall,seconds,hclock,by simpa [successes,history] using Follows.refl wall seconds⟩
 | cons readings calls ih=>
  cases hresult:(clock.nowMilliseconds readings).1 with
  | error e=>
   have hstate:=nowMilliseconds_error hresult
   obtain ⟨wall',seconds',hlast,hfollows⟩:=ih hclock
   have hcount:successes clock (readings::calls)=successes clock calls:=by
    simp [successes,history,takeStep,hresult,hstate,Except.isOk,Except.toBool]
   rw [execute_cons,hstate,hcount]
   exact ⟨wall',seconds',hlast,hfollows⟩
  | ok next=>
   obtain ⟨⟨observed,heffective⟩,hnext,hskew⟩:=nowMilliseconds_ok hresult
   obtain ⟨wall',seconds',hlast,hfollows⟩:=ih hnext
   have hfirst:=effectiveWall_follows hclock heffective
   have hcount:successes clock (readings::calls) =
     successes (clock.nowMilliseconds readings).2 calls+1:=by
    simp [successes,history,takeStep,hresult,Except.isOk,Except.toBool]
   refine ⟨wall',seconds',hlast,?_⟩
   rw [hcount]
   have hsum:=hfirst.trans hfollows
   rw [hskew] at hsum
   convert hsum using 1
   push_cast
   ring

/-- Results never decrease, a call that raises changes nothing, and the drift between two
successful calls is at most the allowance for each successful call after the first. -/
theorem authority_clock_drift (maxSkew : ℕ) (before between : List Readings)
  (first last : Readings) :
  let start:=execute nowMilliseconds (new maxSkew) before
  let opened:=(start.nowMilliseconds first).2
  let closing:=execute nowMilliseconds opened between
  (∀e,(start.nowMilliseconds first).1=.error e → opened=start) ∧
   ∀wall wall',(start.nowMilliseconds first).1=.ok wall→(closing.nowMilliseconds last).1=.ok wall' →
    wall≤wall' ∧ |((wall':ℚ)-wall)-(last.monotonicSeconds-first.monotonicSeconds)*1000| ≤
      maxSkew*(successes opened between+1) := by
 intro start opened closing
 refine ⟨fun e h=>nowMilliseconds_error h,?_⟩
 intro wall wall' hwall hwall'
 obtain ⟨-,hopened,hskew⟩:=nowMilliseconds_ok hwall
 obtain ⟨middle,seconds,hclosing,hfollows⟩:=execute_follows hopened between
 obtain ⟨⟨observed,heffective⟩,-,-⟩:=nowMilliseconds_ok hwall'
 have hlast:=effectiveWall_follows hclosing heffective
 have hallowance:opened.maxSkewMilliseconds=maxSkew:=hskew.trans (maxSkew_execute before)
 have hdrift:=hfollows.trans hlast
 rw [maxSkew_execute between,hallowance] at hdrift
 refine ⟨hdrift.grows,hdrift.drifts.trans (le_of_eq ?_)⟩
 ring

/-- Two readings ahead by the allowance each, in no time at all. -/
theorem allowances_add_up :
  ¬ ∀(maxSkew:ℕ) (before between:List Readings) (first last:Readings) (wall wall':ℤ),
   ((execute nowMilliseconds (new maxSkew) before).nowMilliseconds first).1=.ok wall →
   ((execute nowMilliseconds (new maxSkew) (before++first::between)).nowMilliseconds last).1 =
    .ok wall' →
   |((wall':ℚ)-wall)-(last.monotonicSeconds-first.monotonicSeconds)*1000|≤ maxSkew := by
 intro h
 have hdrift:=h 1 [] [⟨1,0⟩] ⟨0,0⟩ ⟨2,0⟩ 0 2 (by decide +kernel) (by decide +kernel)
 norm_num at hdrift

end GraphBlocks.Clocks
