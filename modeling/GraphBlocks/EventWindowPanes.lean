import GraphBlocks.EventWindows

namespace GraphBlocks.EventWindows
open Std RustStd SourceEvents MachineRuns OrderedMap WindowAccumulator List Option Std.ExtTreeMap

def windowStart (policy:WindowPolicy) (event:SourceEvent) : Option ℕ :=
 event.eventTimeUnixMs.map fun time=>time/policy.sizeMs*policy.sizeMs

def deadline (policy:WindowPolicy) (start:ℕ) : ℕ := start+policy.sizeMs+policy.allowedLatenessMs

def passed (time:ℕ) (calls:List Call) : Bool :=
 calls.any fun call=>
  match call with
  | .advanceWatermark watermark=>watermark.kind == .eventTime&&time≤watermark.unixMs
  | .ingest _=>false

def acceptedBy (policy:WindowPolicy) (start:ℕ)
  (t:Transition WindowAccumulator Call Response) : List SourceEvent :=
 match t.call, t.response with
 | .ingest event, .ingested (.ok ())=>if windowStart policy event=some start then [event] else []
 | _, _=>[]

def accepted (policy:WindowPolicy) (start:ℕ)
  (past:List (Transition WindowAccumulator Call Response)) : List SourceEvent :=
 past.flatMap (acceptedBy policy start)

def panesBy (start:ℕ) (t:Transition WindowAccumulator Call Response) : List WindowPane :=
 match t.response with
 | .panes emitted=>emitted.filter fun pane=>pane.startUnixMs=start
 | .ingested _=>[]

def panesOf (start:ℕ) (past:List (Transition WindowAccumulator Call Response)) : List WindowPane :=
 past.flatMap (panesBy start)

def earlyPane (policy:WindowPolicy) (start:ℕ) (events:List SourceEvent) : WindowPane :=
 ⟨start,start+policy.sizeMs,sortByCursor events,0,false⟩

def finalPane (policy:WindowPolicy) (start:ℕ) (events:List SourceEvent) (late:Bool) : WindowPane :=
 ⟨start,start+policy.sizeMs,sortByCursor events,if late then 1 else 0,true⟩

/-- The accumulator's data on a window against the run: the accepted events are buffered
until the deadline has passed, an early pane holds the first of them, and the final pane
holds all of them. -/
structure WindowTracks (policy:WindowPolicy) (start:ℕ) (late:Bool)
  (accepted:List SourceEvent) (panes:List WindowPane)
  (buffered:Option (List SourceEvent)) (onTime:Bool) : Prop where
 buffered_eq:buffered=if late=true∨accepted=[] then none else some accepted
 bounded:accepted≠[]→deadline policy start<u64Limit
 panes_eq:∃early : Option (List SourceEvent),panes=early.toList.map (earlyPane policy start) ++
   (if late=true∧accepted≠[] then [finalPane policy start accepted early.isSome] else []) ∧
  (∀events∈early,events <+: accepted∧events≠[])∧onTime=(!late&&early.isSome)

structure Tracks (policy:WindowPolicy)
  (past:List (Transition WindowAccumulator Call Response)) (s:WindowAccumulator) : Prop where
 policy_eq:s.policy=policy
 watermark_iff:∀time,(∃w,s.watermark=some w∧time≤w.unixMs) ↔
  passed time (past.map Transition.call)=true
 window:∀start,WindowTracks policy start
  (passed (deadline policy start) (past.map Transition.call)) (accepted policy start past)
  (panesOf start past) s.windows[start]? (s.onTimeEmitted.contains start)

lemma passed_concat(time:ℕ)(calls:List Call)(call:Call):
  passed time (calls++[call])=(passed time calls||passed time [call]):=by
 simp [passed]

lemma accepted_concat(policy:WindowPolicy)(start:ℕ)
  (past:List (Transition WindowAccumulator Call Response))
  (t:Transition WindowAccumulator Call Response):
  accepted policy start (past++[t])=accepted policy start past++acceptedBy policy start t:=by
 simp [accepted]

lemma panesOf_concat(start:ℕ)(past:List (Transition WindowAccumulator Call Response))
  (t:Transition WindowAccumulator Call Response):
  panesOf start (past++[t])=panesOf start past++panesBy start t:=by
 simp [panesOf]

lemma tracks_new (policy:WindowPolicy) : Tracks policy [] (.new policy) where
 policy_eq:=rfl
 watermark_iff time:=by simp [passed,WindowAccumulator.new]
 window start:=by
  constructor
  · simp [WindowAccumulator.new,accepted]
  · intro h
    exact absurd rfl h
  · refine ⟨none,?_,?_,?_⟩
    · simp [panesOf,accepted]
    · intro events h
      cases h
    · simp [WindowAccumulator.new]

variable {start:ℕ}

namespace WindowAccumulator

variable {s:WindowAccumulator} {event:SourceEvent} {watermark:Watermark}

lemma bounds_eq_some{finish last:ℕ}(h:s.bounds start=some (finish,last)):
  finish=start+s.policy.sizeMs∧last=deadline s.policy start∧last<u64Limit:=by
 unfold bounds at h
 obtain ⟨a,ha,h⟩:=bind_eq_some_iff.mp h
 obtain ⟨b,hb,h⟩:=bind_eq_some_iff.mp h
 obtain ⟨rfl,rfl⟩:=Prod.mk.inj (some.inj h)
 obtain rfl:=checkedAdd_eq_some ha
 have hlast:=checkedAdd_eq_some hb
 refine ⟨rfl,hlast,?_⟩
 unfold checkedAdd at hb
 split at hb
 · omega
 · cases hb

lemma bounds_of_lt(h:deadline s.policy start<u64Limit):
  s.bounds start=some (start+s.policy.sizeMs,deadline s.policy start):=by
 unfold deadline at h
 have hend:checkedAdd start s.policy.sizeMs=some (start+s.policy.sizeMs):=if_pos (by omega)
 have hlast:checkedAdd (start+s.policy.sizeMs) s.policy.allowedLatenessMs =
   some (deadline s.policy start):=if_pos h
 simp [bounds,hend,hlast]

lemma windowFor_ok(h:s.windowFor event=.ok start):
  windowStart s.policy event=some start∧deadline s.policy start<u64Limit ∧
   ∀w,s.watermark=some w→w.unixMs<deadline s.policy start:=by
 unfold windowFor at h
 obtain ⟨_,-,h⟩:=bind_ok.mp h
 obtain ⟨time,htime,h⟩:=bind_ok.mp h
 obtain ⟨bounds,hbounds,h⟩:=bind_ok.mp h
 obtain ⟨_,hlate,h⟩:=bind_ok.mp h
 obtain rfl:=Except.ok.inj h
 cases hevent:event.eventTimeUnixMs with
 | none=>
  rw [hevent] at htime
  cases htime
 | some t=>
  rw [hevent] at htime
  obtain rfl:=Except.ok.inj htime
  cases hb:s.bounds (t-t % s.policy.sizeMs) with
  | none=>
   rw [hb] at hbounds
   cases hbounds
  | some b=>
   rw [hb] at hbounds
   obtain rfl:=Except.ok.inj hbounds
   obtain ⟨finish,last⟩:=b
   obtain ⟨-,hlast,hlt⟩:=bounds_eq_some hb
   refine ⟨?_,hlast▸hlt,?_⟩
   · rw [windowStart,hevent,map_some,Nat.div_mul_self_eq_mod_sub_self]
   · intro w hw
     simp only [checkLate,hw] at hlate
     have hlt':=of_decide_eq_true (ensure_ok.mp hlate)
     rw [←hlast]
     exact hlt'

lemma windowFor_late{w:Watermark}(hstart:windowStart s.policy event=some start)
  (hw:s.watermark=some w)(hlate:deadline s.policy start≤w.unixMs):
  ∃error,s.windowFor event=.error error:=by
 cases h:s.windowFor event with
 | error error=>exact ⟨error,rfl⟩
 | ok start'=>
  obtain ⟨hstart',-,hopen⟩:=windowFor_ok h
  obtain rfl:=some.inj (hstart.symm.trans hstart')
  have:=hopen w hw
  omega

def paneAt (s:WindowAccumulator) (watermark:Watermark) (start:ℕ) : Option WindowPane :=
 (s.windows[start]?).bind fun _=>(s.bounds start).bind fun bounds=>
  if bounds.1≤watermark.unixMs then s.paneFor watermark (start,bounds.1,bounds.2) else none

lemma mem_triggerable{finish last:ℕ}:(start,finish,last)∈s.triggerable watermark ↔
   start∈s.windows∧s.bounds start=some (finish,last)∧finish≤watermark.unixMs:=by
 unfold triggerable
 rw [List.mem_filterMap]
 constructor
 · rintro ⟨a,ha,h⟩
   obtain ⟨bounds,hbounds,h⟩:=bind_eq_some_iff.mp h
   by_cases hend:bounds.1≤watermark.unixMs
   · obtain ⟨rfl,rfl,rfl⟩:a=start∧bounds.1=finish∧bounds.2=last:=by
      simpa [hend,Prod.ext_iff] using h
     exact ⟨ExtTreeMap.mem_keys.mp ha,hbounds,hend⟩
   · simp [hend] at h
 · rintro ⟨hmem,hbounds,hend⟩
   exact ⟨start,ExtTreeMap.mem_keys.mpr hmem,by simp [hbounds,hend]⟩

lemma filter_triggerable(s:WindowAccumulator)(watermark:Watermark)(start:ℕ):
  ((s.triggerable watermark).filterMap (s.paneFor watermark)).filter
   (fun pane=>pane.startUnixMs=start)=(s.paneAt watermark start).toList:=by
 have hfilter:((s.triggerable watermark).filterMap (s.paneFor watermark)).filter
   (fun pane=>pane.startUnixMs=start) =
   ((s.triggerable watermark).filter fun window=>window.1=start).filterMap
    (s.paneFor watermark):=by
  induction s.triggerable watermark with
  | nil=>rfl
  | cons window windows ih=>
   cases hpane:s.paneFor watermark window with
   | none=>by_cases hw:window.1=start <;>simp [hpane,hw,ih]
   | some pane=>
    have hstart:=startUnixMs_of_paneFor hpane
    by_cases hw:window.1=start <;>simp [hpane,hw,hstart,ih]
 rw [hfilter]
 have hnodup:=nodup_starts_triggerable s watermark
 cases hpane:s.paneAt watermark start with
 | none=>
  apply filterMap_eq_nil_iff.mpr
  rintro ⟨a,finish,last⟩ hmem
  obtain ⟨htrigger,ha⟩:=List.mem_filter.mp hmem
  obtain rfl:a=start:=of_decide_eq_true ha
  obtain ⟨hin,hbounds,hend⟩:=mem_triggerable.mp htrigger
  obtain ⟨events,hevents⟩:=isSome_iff_exists.mp
   (isSome_getElem?_iff_mem.mpr hin)
  simpa [paneAt,hevents,hbounds,hend] using hpane
 | some pane=>
  unfold paneAt at hpane
  obtain ⟨events,hevents,hpane⟩:=bind_eq_some_iff.mp hpane
  obtain ⟨bounds,hbounds,hpane⟩:=bind_eq_some_iff.mp hpane
  split at hpane
  · next hend=>
    have hmem:(start,bounds.1,bounds.2)∈s.triggerable watermark:=by
     refine mem_triggerable.mpr ⟨?_,hbounds,hend⟩
     exact isSome_getElem?_iff_mem.mp (by rw [hevents];rfl)
    have hsingle:(s.triggerable watermark).filter (fun window=>window.1=start) =
      [(start,bounds.1,bounds.2)]:=by
     obtain ⟨before,after,hsplit⟩:=append_of_mem hmem
     rw [hsplit] at hnodup ⊢
     simp only [map_append,map_cons,nodup_append,nodup_cons,mem_cons,List.mem_map] at hnodup
     obtain ⟨-,⟨hafter,-⟩,hbefore⟩:=hnodup
     have hb:before.filter (fun window=>window.1=start)=[]:=by
      apply filter_eq_nil_iff.mpr
      intro window hwindow heq
      exact hbefore _ ⟨window,hwindow,rfl⟩ _ (Or.inl rfl) (of_decide_eq_true heq)
     have ha:after.filter (fun window=>window.1=start)=[]:=by
      apply filter_eq_nil_iff.mpr
      intro window hwindow heq
      exact hafter ⟨window,hwindow,of_decide_eq_true heq⟩
     simp [hb,ha]
    simp [hsingle,hpane]
  · cases hpane

lemma foldl_emitted_policy(panes:List WindowPane)(s:WindowAccumulator):
  (panes.foldl emitted s).policy=s.policy:=by
 induction panes generalizing s with
 | nil=>rfl
 | cons pane panes ih=>rw [foldl_cons,ih,policy_emitted]

lemma foldl_emitted_watermark(panes:List WindowPane)(s:WindowAccumulator):
  (panes.foldl emitted s).watermark=s.watermark:=by
 induction panes generalizing s with
 | nil=>rfl
 | cons pane panes ih=>rw [foldl_cons,ih,watermark_emitted]

lemma foldl_emitted_at(panes:List WindowPane)(start:ℕ){t:WindowAccumulator}
  (hwindows:s.windows[start]?=t.windows[start]?)
  (hcontains:s.onTimeEmitted.contains start=t.onTimeEmitted.contains start):
  (panes.foldl emitted s).windows[start]? =
    ((panes.filter fun pane=>pane.startUnixMs=start).foldl emitted t).windows[start]? ∧
   (panes.foldl emitted s).onTimeEmitted.contains start =
    ((panes.filter fun pane=>pane.startUnixMs=start).foldl
     emitted t).onTimeEmitted.contains start:=by
 induction panes generalizing s t with
 | nil=>exact ⟨hwindows,hcontains⟩
 | cons pane panes ih=>
  rw [foldl_cons]
  by_cases hpane:pane.startUnixMs=start
  · rw [filter_cons_of_pos (by simpa using hpane),foldl_cons]
    apply ih
    · rw [windows_emitted,windows_emitted,hwindows]
    · rw [contains_emitted,contains_emitted,hcontains]
  · rw [filter_cons_of_neg (by simpa using hpane)]
    apply ih
    · rw [windows_emitted,if_neg (fun h=>hpane h.2.symm),hwindows]
    · rw [contains_emitted,if_neg (Ne.symm hpane),hcontains]

lemma triggerAll_at(s:WindowAccumulator)(watermark:Watermark)(start:ℕ):
  (s.triggerAll watermark).1.filter (fun pane=>pane.startUnixMs=start) =
    (s.paneAt watermark start).toList ∧
   (s.triggerAll watermark).2.windows[start]? =
    ((s.paneAt watermark start).toList.foldl emitted s).windows[start]? ∧
   (s.triggerAll watermark).2.onTimeEmitted.contains start =
    ((s.paneAt watermark start).toList.foldl emitted s).onTimeEmitted.contains start:=by
 have hfilter:=filter_triggerable { s with watermark:=some watermark } watermark start
 have hfold:=foldl_trigger watermark _
  (nodup_starts_triggerable { s with watermark:=some watermark } watermark)
  ([],{ s with watermark:=some watermark })
 unfold triggerAll
 simp only [hfold,nil_append]
 refine ⟨hfilter,?_⟩
 have hat:=foldl_emitted_at
  (List.filterMap ({ s with watermark:=some watermark }.paneFor watermark)
   ({ s with watermark:=some watermark }.triggerable watermark)) start
  (s:={ s with watermark:=some watermark }) (t:=s) rfl rfl
 rw [hfilter] at hat
 exact hat

lemma policy_triggerAll(s:WindowAccumulator)(watermark:Watermark):
  (s.triggerAll watermark).2.policy=s.policy:=by
 unfold triggerAll
 simp only [foldl_trigger _ _ (nodup_starts_triggerable _ _),foldl_emitted_policy]

lemma watermark_triggerAll(s:WindowAccumulator)(watermark:Watermark):
  (s.triggerAll watermark).2.watermark=some watermark:=by
 unfold triggerAll
 simp only [foldl_trigger _ _ (nodup_starts_triggerable _ _),foldl_emitted_watermark]

end WindowAccumulator

section
variable {policy:WindowPolicy} {start:ℕ} {late onTime:Bool} {events:List SourceEvent}
 {panes:List WindowPane} {buffered:Option (List SourceEvent)}

lemma WindowTracks.accept(h:WindowTracks policy start false events panes buffered onTime)
  (hbound:deadline policy start<u64Limit)(event:SourceEvent):
  WindowTracks policy start false (events++[event]) panes
   (some (buffered.getD []++[event])) onTime:=by
 obtain ⟨early,hpanes,hearly,honTime⟩:=h.panes_eq
 constructor
 · rw [h.buffered_eq]
   by_cases hnil:events=[] <;>simp [hnil]
 · intro _
   exact hbound
 · refine ⟨early,?_,?_,honTime⟩
   · simpa using hpanes
   · intro shown hshown
     obtain ⟨hle,hne⟩:=hearly shown hshown
     exact ⟨hle.trans (prefix_append _ _),hne⟩

variable {s:WindowAccumulator} {watermark:Watermark}

lemma WindowTracks.idle(h:WindowTracks policy start late events panes s.windows[start]?
   (s.onTimeEmitted.contains start))
  (hidle:late=true∨events=[]){late':Bool}(hlate:late=true→late'=true):
  WindowTracks policy start late' events (panes++(s.paneAt watermark start).toList)
   ((s.paneAt watermark start).toList.foldl emitted s).windows[start]?
   (((s.paneAt watermark start).toList.foldl emitted s).onTimeEmitted.contains start):=by
 have hwindow:s.windows[start]?=none:=by rw [h.buffered_eq,if_pos hidle]
 have hpane:s.paneAt watermark start=none:=by simp [paneAt,hwindow]
 rw [hpane]
 simp only [toList_none,append_nil,foldl_nil]
 obtain ⟨early,hpanes,hearly,honTime⟩:=h.panes_eq
 have hidle':late'=true∨events=[]:=hidle.imp hlate id
 refine ⟨?_,h.bounded,early,?_,hearly,?_⟩
 · rw [hwindow,if_pos hidle']
 · rw [hpanes]
   rcases hidle with rfl|rfl
   · rw [hlate rfl]
   · simp
 · rw [honTime]
   rcases hidle with rfl|rfl
   · rw [hlate rfl]
   · cases early with
     | none=>simp
     | some shown=>
      obtain ⟨hle,hne⟩:=hearly shown rfl
      exact absurd (prefix_nil.mp hle) hne

lemma WindowTracks.busy(h:WindowTracks policy start false events panes s.windows[start]?
   (s.onTimeEmitted.contains start))
  (hpolicy:s.policy=policy)(hevents:events≠[]):
  WindowTracks policy start (decide (deadline policy start≤watermark.unixMs)) events
   (panes++(s.paneAt watermark start).toList)
   ((s.paneAt watermark start).toList.foldl emitted s).windows[start]?
   (((s.paneAt watermark start).toList.foldl emitted s).onTimeEmitted.contains start):=by
 have hwindow:s.windows[start]?=some events:=by rw [h.buffered_eq,if_neg (by simp [hevents])]
 have hbounds:s.bounds start=some (start+policy.sizeMs,deadline policy start):=by
  rw [←hpolicy]
  exact bounds_of_lt (hpolicy▸h.bounded hevents)
 obtain ⟨early,hpanes,hearly,honTime⟩:=h.panes_eq
 simp only [Bool.false_eq_true,false_and,↓reduceIte,append_nil] at hpanes
 simp only [Bool.not_false,Bool.true_and] at honTime
 by_cases hend:start+policy.sizeMs≤watermark.unixMs
 · by_cases hdue:deadline policy start≤watermark.unixMs
   · -- the final pane, after which the window is gone
     have hpane:s.paneAt watermark start=some (finalPane policy start events early.isSome):=by
      simp [paneAt,hwindow,hbounds,hend,paneFor,hdue,honTime,finalPane]
     rw [hpane]
     refine ⟨?_,h.bounded,early,?_,hearly,?_⟩
     · simp [windows_emitted,finalPane,hdue]
     · simp [hpanes,hdue,hevents]
     · simp [contains_emitted,finalPane,hdue]
   · by_cases hfirst:s.policy.accumulationMode=.accumulating∧s.onTimeEmitted.contains start=false
     · -- the first pane in time
       have hpane:s.paneAt watermark start=some (earlyPane policy start events):=by
        simp only [paneAt,hwindow,hbounds,bind_some,if_pos hend,paneFor,if_neg hdue,
         if_pos hfirst,map_some,earlyPane]
       have hnone:early=none:=by
        rw [hfirst.2] at honTime
        exact isSome_eq_false_iff.mp honTime.symm |> isNone_iff_eq_none.mp
       subst hnone
       rw [hpane]
       refine ⟨?_,h.bounded,some events,?_,?_,?_⟩
       · simp [windows_emitted,earlyPane,hdue,hwindow,hevents]
       · simp [hpanes,hdue]
       · intro shown hshown
         obtain rfl:=some.inj hshown
         exact ⟨prefix_refl _,hevents⟩
       · simp [contains_emitted,earlyPane,hdue]
     · have hpane:s.paneAt watermark start=none:=by
        simp only [paneAt,hwindow,hbounds,bind_some,if_pos hend,paneFor,if_neg hdue,if_neg hfirst]
       rw [hpane]
       refine ⟨?_,h.bounded,early,?_,hearly,?_⟩
       · simp [hwindow,hdue,hevents]
       · simp [hpanes,hdue]
       · simp [honTime,hdue]
 · have hdue:¬deadline policy start≤watermark.unixMs:=by
    unfold deadline
    omega
   have hpane:s.paneAt watermark start=none:=by
    simp only [paneAt,hwindow,hbounds,bind_some,if_neg hend]
   rw [hpane]
   refine ⟨?_,h.bounded,early,?_,hearly,?_⟩
   · simp [hwindow,hdue,hevents]
   · simp [hpanes,hdue]
   · simp [honTime,hdue]
end

variable {policy:WindowPolicy} {past:List (Transition WindowAccumulator Call Response)}
 {s:WindowAccumulator}

lemma Tracks.quiet(h:Tracks policy past s){call:Call}(hafter:(step s call).2=s)
  (hpassed:∀time,passed time [call]=true→passed time (past.map Transition.call)=true)
  (haccepted:∀start,acceptedBy policy start (takeStep step s call)=[])
  (hpanes:∀start,panesBy start (takeStep step s call)=[]):
  Tracks policy (past++[takeStep step s call]) (step s call).2:=by
 have hcalls:∀time,passed time ((past++[takeStep step s call]).map Transition.call) =
   passed time (past.map Transition.call):=by
  intro time
  rw [map_append,map_singleton,passed_concat]
  cases hp:passed time (past.map Transition.call) with
  | true=>rfl
  | false=>
   rw [Bool.false_or,Bool.eq_false_iff]
   intro hcall
   rw [hpassed time hcall] at hp
   cases hp
 rw [hafter]
 constructor
 · exact h.policy_eq
 · intro time
   rw [hcalls]
   exact h.watermark_iff time
 · intro start
   rw [hcalls,accepted_concat,panesOf_concat,haccepted,hpanes,append_nil,append_nil]
   exact h.window start

lemma tracks_ingest(h:Tracks policy past s)(event:SourceEvent):
  Tracks policy (past++[takeStep step s (.ingest event)]) (step s (.ingest event)).2:=by
 cases hwindow:s.windowFor event with
 | error error=>
  have hingest:s.ingest event=(.error error,s):=by simp [ingest,hwindow]
  apply h.quiet
  · simp [step,hingest]
  · intro time hp
    simp [passed] at hp
  · intro start
    simp [acceptedBy,takeStep,step,hingest]
  · intro start
    simp [panesBy,takeStep,step]
 | ok start=>
  obtain ⟨hstart,hbound,hopen⟩:=windowFor_ok hwindow
  have hingest:s.ingest event=(.ok (),s.buffer start event):=by simp [ingest,hwindow]
  rw [h.policy_eq] at hstart hbound hopen
  have hcalls:∀time,passed time
    ((past++[takeStep step s (.ingest event)]).map Transition.call) =
     passed time (past.map Transition.call):=by
   intro time
   rw [map_append,map_singleton,passed_concat]
   simp [passed,takeStep]
  have hafter:(step s (.ingest event)).2=s.buffer start event:=by simp [step,hingest]
  rw [hafter]
  refine ⟨h.policy_eq,?_,?_⟩
  · intro time
    rw [hcalls]
    exact h.watermark_iff time
  · intro k
    have hpanes:panesBy k (takeStep step s (.ingest event))=[]:=rfl
    have haccepted:acceptedBy policy k (takeStep step s (.ingest event)) =
      if start=k then [event] else []:=by
     simp [acceptedBy,takeStep,step,hingest,hstart]
    rw [hcalls,accepted_concat,panesOf_concat,hpanes,haccepted,append_nil]
    change WindowTracks _ _ _ _ _ (s.windows.insert start _)[k]? (s.onTimeEmitted.contains k)
    rw [lookup_insert,getD_eq_getD_getElem?]
    by_cases hk:start=k
    · subst hk
      have hnot:passed (deadline policy start) (past.map Transition.call)=false:=by
       rw [Bool.eq_false_iff]
       intro hp
       obtain ⟨w,hw,hle⟩:=(h.watermark_iff _).mpr hp
       have:=hopen w hw
       omega
      have hold:=h.window start
      rw [hnot] at hold ⊢
      rw [if_pos rfl,if_pos rfl]
      exact hold.accept hbound event
    · rw [if_neg hk,if_neg hk,append_nil]
      exact h.window k

lemma passed_advance(time:ℕ)(watermark:Watermark):passed time [.advanceWatermark watermark] =
   (watermark.kind == .eventTime&&decide (time≤watermark.unixMs)):=by
 simp [passed]

lemma tracks_advance(h:Tracks policy past s)(watermark:Watermark):
  Tracks policy (past++[takeStep step s (.advanceWatermark watermark)])
   (step s (.advanceWatermark watermark)).2:=by
 by_cases hkind:watermark.kind ≠ .eventTime
 · have hadvance:s.advanceWatermark watermark=([],s):=by simp [advanceWatermark,hkind]
   apply h.quiet
   · simp [step,hadvance]
   · intro time hp
     rw [passed_advance] at hp
     simp [hkind] at hp
   · intro start
     simp [acceptedBy,takeStep,step]
   · intro start
     simp [panesBy,takeStep,step,hadvance]
 · rw [ne_eq,not_not] at hkind
   by_cases hregress : s.watermark.any (fun current=>decide (watermark.unixMs≤current.unixMs))=true
   · have hadvance:s.advanceWatermark watermark=([],s):=by simp [advanceWatermark,hkind,hregress]
     apply h.quiet
     · simp [step,hadvance]
     · intro time hp
       rw [passed_advance] at hp
       simp only [Bool.and_eq_true,decide_eq_true_eq] at hp
       cases hw:s.watermark with
       | none=>simp [hw] at hregress
       | some w=>
        have hle:watermark.unixMs≤w.unixMs:=by simpa [hw] using hregress
        exact (h.watermark_iff time).mp ⟨w,hw,hp.2.trans hle⟩
     · intro start
       simp [acceptedBy,takeStep,step]
     · intro start
       simp [panesBy,takeStep,step,hadvance]
   · have hadvance:s.advanceWatermark watermark=s.triggerAll watermark:=by
      simp [advanceWatermark,hkind,hregress]
     have hcalls:∀time,passed time
       ((past++[takeStep step s (.advanceWatermark watermark)]).map Transition.call) =
        (passed time (past.map Transition.call)||decide (time≤watermark.unixMs)):=by
      intro time
      rw [map_append,map_singleton,passed_concat]
      simp [takeStep,passed_advance,hkind]
     have hafter:(step s (.advanceWatermark watermark)).2=(s.triggerAll watermark).2:=by
      simp [step,hadvance]
     rw [hafter]
     refine ⟨?_,?_,?_⟩
     · rw [policy_triggerAll,h.policy_eq]
     · intro time
       rw [watermark_triggerAll,hcalls,Bool.or_eq_true,decide_eq_true_eq]
       constructor
       · rintro ⟨w,hw,hle⟩
         obtain rfl:=some.inj hw
         exact Or.inr hle
       · rintro (hp|hle)
         · obtain ⟨w,hw,hle⟩:=(h.watermark_iff time).mpr hp
           refine ⟨watermark,rfl,?_⟩
           have hmoved:¬watermark.unixMs≤w.unixMs:=by simpa [hw] using hregress
           omega
         · exact ⟨watermark,rfl,hle⟩
     · intro start
       obtain ⟨hemitted,hwindows,hcontains⟩:=triggerAll_at s watermark start
       have haccepted:acceptedBy policy start (takeStep step s (.advanceWatermark watermark)) =
         []:=rfl
       have hpanes:panesBy start (takeStep step s (.advanceWatermark watermark)) =
         (s.paneAt watermark start).toList:=by
        rw [←hemitted,←hadvance]
        rfl
       rw [hcalls,accepted_concat,panesOf_concat,haccepted,hpanes,append_nil,hwindows,hcontains]
       have hold:=h.window start
       cases hlate:passed (deadline policy start) (past.map Transition.call) with
       | true=>
        rw [hlate] at hold
        exact hold.idle (Or.inl rfl) (fun _=>rfl)
       | false=>
        rw [hlate] at hold
        rw [Bool.false_or]
        by_cases hnil:accepted policy start past=[]
        · exact hold.idle (Or.inr hnil) fun h=>by cases h
        · exact hold.busy h.policy_eq hnil

lemma tracks_run(policy:WindowPolicy)(calls:List Call):
  Tracks policy (history step (.new policy) calls) (execute step (.new policy) calls):=by
 refine history_invariant step (P:=Tracks policy) (tracks_new policy) ?_ calls
 intro past s call h
 cases call with
 | ingest event=>exact tracks_ingest h event
 | advanceWatermark watermark=>exact tracks_advance h watermark

def finals (panes:List WindowPane) : List WindowPane := panes.filter WindowPane.isFinal

def earlies (panes:List WindowPane) : List WindowPane := panes.filter fun pane => !pane.isFinal

structure EmitsOnce (policy:WindowPolicy) (start:ℕ) (due:Bool)
  (accepted:List SourceEvent) (panes:List WindowPane) : Prop where
 earlyFirst:panes=earlies panes++finals panes
 oneEarly:(earlies panes).length≤1
 oneFinal:(finals panes).length≤1
 bounds:∀pane∈panes,pane.startUnixMs=start∧pane.endUnixMs=start+policy.sizeMs
 acceptedOnly:∀pane∈panes,pane.events.Subperm accepted
 earlySubset:∀early∈earlies panes,∀final∈finals panes,early.events.Subperm final.events
 once:due=true→((finals panes).flatMap WindowPane.events).Perm accepted
 notBefore:due=false→finals panes=[]

lemma WindowTracks.emitsOnce{late onTime:Bool}{events:List SourceEvent}
  {panes:List WindowPane}{buffered:Option (List SourceEvent)}
  (h:WindowTracks policy start late events panes buffered onTime):
  EmitsOnce policy start late events panes:=by
 obtain ⟨early,rfl,hearly,-⟩:=h.panes_eq
 have hfinals:finals (early.toList.map (earlyPane policy start) ++
   (if late=true∧events≠[] then [finalPane policy start events early.isSome] else [])) =
   if late=true∧events≠[] then [finalPane policy start events early.isSome] else []:=by
  cases early <;>split <;>rfl
 have hearlies:earlies (early.toList.map (earlyPane policy start) ++
   (if late=true∧events≠[] then [finalPane policy start events early.isSome] else [])) =
   early.toList.map (earlyPane policy start):=by
  cases early <;>split <;>rfl
 have hfinal:∀pane∈(if late=true∧events≠[] then
   [finalPane policy start events early.isSome] else []),
   pane=finalPane policy start events early.isSome:=by
  intro pane hpane
  split at hpane
  · exact mem_singleton.mp hpane
  · cases hpane
 have hshown:∀pane∈early.toList.map (earlyPane policy start),
   ∃shown,shown <+: events∧pane=earlyPane policy start shown:=by
  intro pane hpane
  obtain ⟨shown,hmem,rfl⟩:=List.mem_map.mp hpane
  exact ⟨shown,(hearly shown (mem_toList.mp hmem)).1,rfl⟩
 have hsub:∀{shown:List SourceEvent},shown <+: events→(sortByCursor shown).Subperm events:=by
  intro shown hle
  exact (sortByCursor_perm shown).subperm.trans hle.sublist.subperm
 refine ⟨?_,?_,?_,?_,?_,?_,?_,?_⟩
 · rw [hfinals,hearlies]
 · rw [hearlies]
   cases early <;>simp
 · rw [hfinals]
   split <;>simp
 · intro pane hpane
   rcases mem_append.mp hpane with hpane|hpane
   · obtain ⟨shown,-,rfl⟩:=hshown pane hpane
     exact ⟨rfl,rfl⟩
   · rw [hfinal pane hpane]
     exact ⟨rfl,rfl⟩
 · intro pane hpane
   rcases mem_append.mp hpane with hpane|hpane
   · obtain ⟨shown,hle,rfl⟩:=hshown pane hpane
     exact hsub hle
   · rw [hfinal pane hpane]
     exact (sortByCursor_perm events).subperm
 · intro pane hpane final hmem
   rw [hearlies] at hpane
   rw [hfinals] at hmem
   obtain ⟨shown,hle,rfl⟩:=hshown pane hpane
   rw [hfinal final hmem]
   exact (hsub hle).trans (sortByCursor_perm events).symm.subperm
 · intro hdue
   rw [hfinals]
   by_cases hnil:events=[]
   · simp [hnil]
   · rw [if_pos ⟨hdue,hnil⟩]
     simpa [finalPane] using sortByCursor_perm events
 · intro hdue
   rw [hfinals,if_neg (by simp [hdue])]

/-- The windows of a run: each event that `ingest` accepts has a window, the window's panes
hold the accepted events as `EmitsOnce` says, its final pane comes with the first watermark
that reaches the deadline, and later events of the window are refused. -/
structure WindowsEmitOnce (policy:WindowPolicy) (calls:List Call) : Prop where
 placed:∀before event after,calls=before++.ingest event::after →
  (step (execute step (.new policy) before) (.ingest event)).1=.ingested (.ok ()) →
   ∃start,windowStart policy event=some start
 emitted:∀start,EmitsOnce policy start (passed (deadline policy start) calls)
  (accepted policy start (history step (.new policy) calls))
  (panesOf start (history step (.new policy) calls))
 first:∀before watermark after,calls=before++.advanceWatermark watermark::after →
  ∀start,passed (deadline policy start) before=false →
   passed (deadline policy start) [.advanceWatermark watermark]=true →
    ((finals (panesBy start (takeStep step (execute step (.new policy) before)
     (.advanceWatermark watermark)))).flatMap WindowPane.events).Perm
      (accepted policy start (history step (.new policy) before))
 refused:∀before event after,calls=before++.ingest event::after →
  ∀start,windowStart policy event=some start→passed (deadline policy start) before=true →
    ∃error,step (execute step (.new policy) before) (.ingest event) =
     (.ingested (.error error),execute step (.new policy) before)

lemma emitsOnce_run(policy:WindowPolicy)(calls:List Call)(start:ℕ):
  EmitsOnce policy start (passed (deadline policy start) calls)
   (accepted policy start (history step (.new policy) calls))
   (panesOf start (history step (.new policy) calls)):=by
 have h:=((tracks_run policy calls).window start).emitsOnce
 rw [history_calls] at h
 exact h

/-- Every accepted event is in exactly one final pane, that of its window. -/
theorem windows_emit_once (policy : WindowPolicy) (calls : List Call) :
  WindowsEmitOnce policy calls := by
 refine ⟨?_,emitsOnce_run policy calls,?_,?_⟩
 · intro before event after _ hok
   have htracks:=tracks_run policy before
   cases hwindow:(execute step (.new policy) before).windowFor event with
   | error error=>simp [step,ingest,hwindow] at hok
   | ok start=>
    obtain ⟨hstart,-,-⟩:=windowFor_ok hwindow
    rw [htracks.policy_eq] at hstart
    exact ⟨start,hstart⟩
 · intro before watermark after _ start hopen hdue
   have hbefore:=emitsOnce_run policy before start
   have hafter:=emitsOnce_run policy (before++[.advanceWatermark watermark]) start
   have hnone:finals (panesOf start (history step (.new policy) before))=[]:=hbefore.notBefore hopen
   have hall:=hafter.once (by rw [passed_concat,hdue,Bool.or_true])
   rw [history_concat,panesOf_concat,accepted_concat] at hall
   unfold finals at hall hnone ⊢
   rw [filter_append,hnone,nil_append] at hall
   simpa [acceptedBy,takeStep] using hall
 · intro before event after _ start hstart hpassed
   have htracks:=tracks_run policy before
   have hwatermark:=(htracks.watermark_iff (deadline policy start)).mpr
    (by rw [history_calls];exact hpassed)
   obtain ⟨w,hw,hle⟩:=hwatermark
   rw [←htracks.policy_eq] at hstart hle
   obtain ⟨error,herror⟩:=windowFor_late hstart hw hle
   exact ⟨error,by simp [step,ingest,herror]⟩

end GraphBlocks.EventWindows
