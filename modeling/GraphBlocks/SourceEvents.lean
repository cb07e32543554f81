import GraphBlocks.ToolTerminals
import GraphBlocks.OrderedMap
import GraphBlocks.JsonValue

namespace GraphBlocks.SourceEvents
open Std Json RustStd
open ToolTerminals (invalidIdentity)

inductive DeliveryGuarantee where
 | bestEffort
 | atMostOnce
 | atLeastOnce
deriving DecidableEq

structure SourceCursor where
 stream:String
 partition:ℕ
 offset:ℕ
deriving DecidableEq

inductive DurableError where
 | invalidSourceCursor (field:String)
 | invalidDemand
 | demandExceeded (demand actual:ℕ)
 | sourcePaused
 | staleCommit (current attempted:SourceCursor)
 | unknownSourceCursor (cursor:SourceCursor)
 | conflictingSourceOffset (cursor:SourceCursor)
 | invalidWindowSize
 | missingEventTime (cursor:SourceCursor)
 | lateEvent (eventTimeUnixMs watermarkUnixMs allowedLatenessMs:ℕ)
 | windowBoundaryOverflow (eventTimeUnixMs sizeMs allowedLatenessMs:ℕ)
deriving DecidableEq

/-- The derived order of `SourceCursor`. -/
def compareCursor : SourceCursor→SourceCursor→Ordering :=
 compareLex (compareOn SourceCursor.stream)
  (compareLex (compareOn SourceCursor.partition) (compareOn SourceCursor.offset))

instance : TransCmp compareCursor :=
 inferInstanceAs (TransCmp (compareLex (compareOn SourceCursor.stream)
  (compareLex (compareOn SourceCursor.partition) (compareOn SourceCursor.offset))))

instance : LawfulEqCmp compareCursor where
 compare_self:=by
  intro a
  simp [compareCursor,compareLex,compareOn]
 eq_of_compare:=by
  intro a b h
  simp only [compareCursor,compareLex,compareOn,Ordering.then_eq_eq] at h
  obtain ⟨stream,partition,offset⟩:=a
  obtain ⟨stream',partition',offset'⟩:=b
  obtain rfl:=LawfulEqCmp.eq_of_compare h.1
  obtain rfl:=LawfulEqCmp.eq_of_compare h.2.1
  obtain rfl:=LawfulEqCmp.eq_of_compare h.2.2
  rfl

namespace SourceCursor

/-- The `partition_key` of `poll` and `commit`. -/
def partitionKey (cursor:SourceCursor) : String×ℕ := (cursor.stream,cursor.partition)

lemma compare_of_partitionKey{a b:SourceCursor}(hkey:a.partitionKey=b.partitionKey):
  compareCursor a b=compare a.offset b.offset:=by
 simp only [partitionKey,Prod.mk.injEq] at hkey
 simp [compareCursor,compareLex,compareOn,hkey.1,hkey.2]

end SourceCursor

def validateSourceCursor (cursor:SourceCursor) : Except DurableError Unit :=
 if invalidIdentity cursor.stream then .error (.invalidSourceCursor "stream") else .ok ()

inductive WatermarkKind where
 | eventTime
 | processingTime
deriving DecidableEq

structure Watermark where
 kind:WatermarkKind
 unixMs:ℕ
deriving DecidableEq

structure SourceEvent where
 cursor:SourceCursor
 payload:Value
 eventTimeUnixMs:Option ℕ
deriving DecidableEq

def sortByCursor (events:List SourceEvent) : List SourceEvent :=
 events.insertionSort fun left right=>(compareCursor left.cursor right.cursor).isLE=true

lemma sortByCursor_perm(events:List SourceEvent):(sortByCursor events).Perm events:=
 List.perm_insertionSort _ events

structure SourceBatch where
 guarantee:DeliveryGuarantee
 events:List SourceEvent
 watermark:Option Watermark
deriving DecidableEq

def SourceBatch.new (guarantee:DeliveryGuarantee) (events:List SourceEvent)
  (watermark:Option Watermark) (demand:ℕ) : Except DurableError SourceBatch := do
 ensure (demand != 0) .invalidDemand
 events.forM fun event=>validateSourceCursor event.cursor
 ensure (decide (events.length≤demand)) (.demandExceeded demand events.length)
 return ⟨guarantee,events,watermark⟩

end GraphBlocks.SourceEvents
