import GraphBlocks.SourceEvents

/-! `WindowAccumulator` buffers events by the start of their window. -/
namespace GraphBlocks.EventWindows
open Std RustStd SourceEvents List Option

inductive AccumulationMode where
 | discarding
 | accumulating
deriving DecidableEq

structure WindowPolicy where
 sizeMs:ℕ
 allowedLatenessMs:ℕ
 accumulationMode:AccumulationMode

structure WindowPane where
 startUnixMs:ℕ
 endUnixMs:ℕ
 events:List SourceEvent
 revision:ℕ
 isFinal:Bool

structure WindowAccumulator where
 policy:WindowPolicy
 watermark:Option Watermark
 windows:ExtTreeMap ℕ (List SourceEvent)
 onTimeEmitted:ExtTreeSet ℕ

namespace WindowAccumulator

def new (policy:WindowPolicy) : WindowAccumulator := ⟨policy,none,∅,∅⟩

variable (s:WindowAccumulator)

def bounds (start:ℕ) : Option (ℕ×ℕ) := do
 let endUnixMs ← checkedAdd start s.policy.sizeMs
 let deadlineUnixMs ← checkedAdd endUnixMs s.policy.allowedLatenessMs
 return (endUnixMs,deadlineUnixMs)

/-- The lateness check of `ingest`. -/
def checkLate (eventTimeUnixMs deadlineUnixMs:ℕ) : Except DurableError Unit :=
 match s.watermark with
 | none=>.ok ()
 | some watermark=>
  ensure (decide (watermark.unixMs<deadlineUnixMs))
   (.lateEvent eventTimeUnixMs watermark.unixMs s.policy.allowedLatenessMs)

/-- The checks of `ingest`, which give the start of the event's window. -/
def windowFor (event:SourceEvent) : Except DurableError ℕ := do
 ensure (s.policy.sizeMs != 0) .invalidWindowSize
 let eventTimeUnixMs ←
  event.eventTimeUnixMs.elim (.error (.missingEventTime event.cursor)) .ok
 let startUnixMs:=eventTimeUnixMs-eventTimeUnixMs % s.policy.sizeMs
 let (_,deadlineUnixMs) ← (s.bounds startUnixMs).elim
  (.error (.windowBoundaryOverflow eventTimeUnixMs s.policy.sizeMs s.policy.allowedLatenessMs))
  .ok
 s.checkLate eventTimeUnixMs deadlineUnixMs
 return startUnixMs

def buffer (startUnixMs:ℕ) (event:SourceEvent) : WindowAccumulator :=
 { s with windows:=s.windows.insert startUnixMs (s.windows.getD startUnixMs []++[event]) }

def ingest (event:SourceEvent) : Except DurableError Unit×WindowAccumulator :=
 match s.windowFor event with
 | .error error=>(.error error,s)
 | .ok startUnixMs=>(.ok (),s.buffer startUnixMs event)

def triggerable (watermark:Watermark) : List (ℕ×ℕ×ℕ) :=
 s.windows.keys.filterMap fun startUnixMs=>do
  let (endUnixMs,deadlineUnixMs) ← s.bounds startUnixMs
  if endUnixMs≤watermark.unixMs then some (startUnixMs,endUnixMs,deadlineUnixMs) else none

def dropWindow (startUnixMs:ℕ) : WindowAccumulator :=
 { s with windows:=s.windows.erase startUnixMs,onTimeEmitted:=s.onTimeEmitted.erase startUnixMs }

def markOnTime (startUnixMs:ℕ) : WindowAccumulator :=
 { s with onTimeEmitted:=s.onTimeEmitted.insert startUnixMs }

/-- The pane that the loop of `advance_watermark` emits for one triggerable window. -/
def paneFor (watermark:Watermark) : ℕ×ℕ×ℕ→Option WindowPane
 | (startUnixMs,endUnixMs,deadlineUnixMs)=>
  if deadlineUnixMs≤watermark.unixMs then
   s.windows[startUnixMs]?.map fun events=>
    ⟨startUnixMs,endUnixMs,sortByCursor events,
     if s.onTimeEmitted.contains startUnixMs then 1 else 0,true⟩
  else if s.policy.accumulationMode=.accumulating∧s.onTimeEmitted.contains startUnixMs=false then
   s.windows[startUnixMs]?.map fun events=>⟨startUnixMs,endUnixMs,sortByCursor events,0,false⟩
  else none

/-- What the loop changes when it emits a pane. -/
def emitted (pane:WindowPane) : WindowAccumulator :=
 if pane.isFinal then s.dropWindow pane.startUnixMs else s.markOnTime pane.startUnixMs

/-- One iteration of the loop of `advance_watermark`. -/
def trigger (watermark:Watermark) (loop:List WindowPane×WindowAccumulator)
  (window:ℕ×ℕ×ℕ) : List WindowPane×WindowAccumulator :=
 match loop.2.paneFor watermark window with
 | none=>loop
 | some pane=>(loop.1++[pane],loop.2.emitted pane)

def triggerAll (watermark:Watermark) : List WindowPane×WindowAccumulator :=
 let moved:={ s with watermark:=some watermark }
 (moved.triggerable watermark).foldl (trigger watermark) ([],moved)

def advanceWatermark (watermark:Watermark) : List WindowPane×WindowAccumulator :=
 if watermark.kind ≠ .eventTime then ([],s)
 else if s.watermark.any fun current=>watermark.unixMs≤current.unixMs then ([],s)
 else s.triggerAll watermark

end WindowAccumulator

inductive Call where
 | ingest (event:SourceEvent)
 | advanceWatermark (watermark:Watermark)

inductive Response where
 | ingested (outcome:Except DurableError Unit)
 | panes (emitted:List WindowPane)

def step (s:WindowAccumulator) : Call→Response×WindowAccumulator
 | .ingest event=>(.ingested (s.ingest event).1,(s.ingest event).2)
 | .advanceWatermark watermark=>
  (.panes (s.advanceWatermark watermark).1,(s.advanceWatermark watermark).2)

namespace WindowAccumulator

variable {s:WindowAccumulator} {watermark:Watermark}

lemma startUnixMs_of_paneFor{window:ℕ×ℕ×ℕ}{pane:WindowPane}
  (h:s.paneFor watermark window=some pane):pane.startUnixMs=window.1:=by
 obtain ⟨start,finish,deadline⟩:=window
 simp only [paneFor] at h
 split at h
 · obtain ⟨events,-,rfl⟩:=map_eq_some_iff.mp h
   rfl
 · split at h
   · obtain ⟨events,-,rfl⟩:=map_eq_some_iff.mp h
     rfl
   · cases h

section
variable (s:WindowAccumulator) (pane:WindowPane)

lemma policy_emitted:(s.emitted pane).policy=s.policy:=by
 unfold emitted
 split <;>rfl

lemma watermark_emitted:(s.emitted pane).watermark=s.watermark:=by
 unfold emitted
 split <;>rfl

lemma windows_emitted(k:ℕ):(s.emitted pane).windows[k]? =
   if pane.isFinal=true∧k=pane.startUnixMs then none else s.windows[k]?:=by
 unfold emitted
 by_cases hfinal:pane.isFinal=true
 · rw [if_pos hfinal]
   change (s.windows.erase pane.startUnixMs)[k]?=_
   rw [ExtTreeMap.getElem?_erase]
   by_cases hk:k=pane.startUnixMs
   · simp [hfinal,hk]
   · have hne:compare pane.startUnixMs k ≠ .eq:=by
      intro h
      exact hk (LawfulEqCmp.eq_of_compare h).symm
     simp [hk,hne]
 · rw [if_neg hfinal,if_neg (by simp [hfinal])]
   rfl

lemma contains_emitted(k:ℕ):(s.emitted pane).onTimeEmitted.contains k =
   if k=pane.startUnixMs then !pane.isFinal else s.onTimeEmitted.contains k:=by
 unfold emitted
 by_cases hk:k=pane.startUnixMs
 · subst hk
   cases pane.isFinal <;>simp [dropWindow,markOnTime]
 · have hne:compare pane.startUnixMs k ≠ .eq:=by
    intro h
    exact hk (LawfulEqCmp.eq_of_compare h).symm
   cases pane.isFinal <;>simp [dropWindow,markOnTime,hk,hne]

end

lemma paneFor_emitted{pane:WindowPane}{window:ℕ×ℕ×ℕ}(hne:window.1≠pane.startUnixMs):
  (s.emitted pane).paneFor watermark window=s.paneFor watermark window:=by
 obtain ⟨start,finish,deadline⟩:=window
 have hwindows:=windows_emitted s pane start
 have hcontains:=contains_emitted s pane start
 rw [if_neg (fun h=>hne h.2)] at hwindows
 rw [if_neg hne] at hcontains
 simp only [paneFor,policy_emitted,hwindows,hcontains]

lemma foldl_trigger(watermark:Watermark)(windows:List (ℕ×ℕ×ℕ))
  (hnodup:(windows.map Prod.fst).Nodup)(loop:List WindowPane×WindowAccumulator):
  windows.foldl (trigger watermark) loop=(loop.1++windows.filterMap (loop.2.paneFor watermark),
    (windows.filterMap (loop.2.paneFor watermark)).foldl emitted loop.2):=by
 induction windows generalizing loop with
 | nil=>simp
 | cons window windows ih=>
  obtain ⟨hnotin,hnodup⟩:=nodup_cons.mp hnodup
  rw [foldl_cons,ih hnodup]
  cases hpane:loop.2.paneFor watermark window with
  | none=>simp [trigger,hpane]
  | some pane=>
   have hrest:windows.filterMap ((loop.2.emitted pane).paneFor watermark) =
     windows.filterMap (loop.2.paneFor watermark):=by
    apply filterMap_congr
    intro other hother
    apply paneFor_emitted
    rw [startUnixMs_of_paneFor hpane]
    intro heq
    exact hnotin (heq▸List.mem_map_of_mem hother)
   simp [trigger,hpane,hrest]

lemma starts_triggerable(s:WindowAccumulator)(watermark:Watermark):
  ((s.triggerable watermark).map Prod.fst).Sublist s.windows.keys:=by
 unfold triggerable
 induction s.windows.keys with
 | nil=>exact .slnil
 | cons start starts ih=>
  cases hbounds:s.bounds start with
  | none=>simpa [hbounds] using ih.cons start
  | some bounds=>
   by_cases hend:bounds.1≤watermark.unixMs
   · simpa [hbounds,hend] using ih.cons_cons start
   · simpa [hbounds,hend] using ih.cons start

lemma nodup_starts_triggerable(s:WindowAccumulator)(watermark:Watermark):
  ((s.triggerable watermark).map Prod.fst).Nodup:=by
 refine (starts_triggerable s watermark).nodup ?_
 rw [nodup_iff_pairwise_ne]
 refine s.windows.distinct_keys.imp ?_
 intro a b h hab
 exact h (hab▸compare_self)

end WindowAccumulator

end GraphBlocks.EventWindows
