import GraphBlocks.SourceEvents

/-! `InMemoryDurableSource` keeps its events sorted by cursor without repetitions and one
committed cursor for each partition. -/
namespace GraphBlocks.DurableSource
open Std RustStd SourceEvents OrderedMap

structure InMemoryDurableSource where
 guarantee:DeliveryGuarantee
 events:List SourceEvent
 knownStreams:List String
 knownPartitions:List (String×ℕ)
 knownCursors:List SourceCursor
 committedCursors:ExtTreeMap (String×ℕ) SourceCursor comparePair
 conflictingCursor:Option SourceCursor
 emittedWatermarkUnixMs:Option ℕ
 paused:Bool

/-- One event of the loop that drops repeated events and notes the first conflict. -/
def normalizeEvent (normalized:List SourceEvent×Option SourceCursor) (event:SourceEvent) :
  List SourceEvent×Option SourceCursor :=
 match normalized.1.getLast? with
 | none=>(normalized.1++[event],normalized.2)
 | some previous=>
  if previous.cursor=event.cursor then
   (normalized.1,if previous≠event∧normalized.2=none then some event.cursor else normalized.2)
  else (normalized.1++[event],normalized.2)

def normalizeEvents (events:List SourceEvent) : List SourceEvent×Option SourceCursor :=
 (sortByCursor events).foldl normalizeEvent ([],none)

namespace InMemoryDurableSource

def new (guarantee:DeliveryGuarantee) (events:List SourceEvent) : InMemoryDurableSource :=
 let (normalized,conflictingCursor):=normalizeEvents events
 { guarantee,events:=normalized,knownStreams:=normalized.map fun event=>event.cursor.stream
   knownPartitions:=normalized.map fun event=>event.cursor.partitionKey
   knownCursors:=normalized.map SourceEvent.cursor,committedCursors:=∅,conflictingCursor
   emittedWatermarkUnixMs:=none,paused:=false }

variable (s:InMemoryDurableSource)

def checkConflict : Except DurableError Unit :=
 s.conflictingCursor.elim (.ok ()) fun cursor=>.error (.conflictingSourceOffset cursor)

def validateCursorPartition (cursor:SourceCursor) : Except DurableError Unit := do
 validateSourceCursor cursor
 ensure (decide (cursor.stream∈s.knownStreams)) (.unknownSourceCursor cursor)
 ensure (decide (cursor.partitionKey∈s.knownPartitions)) (.unknownSourceCursor cursor)

def validateCursor (cursor:SourceCursor) : Except DurableError Unit := do
 s.validateCursorPartition cursor
 ensure (decide (cursor∈s.knownCursors)) (.unknownSourceCursor cursor)

def replayCursor (cursor:Option SourceCursor) (event:SourceEvent) : Option SourceCursor :=
 match cursor with
 | some cursor=>
  if cursor.stream=event.cursor.stream∧cursor.partition=event.cursor.partition then some cursor
  else s.committedCursors[event.cursor.partitionKey]?
 | none=>s.committedCursors[event.cursor.partitionKey]?

def isPending (cursor:Option SourceCursor) (event:SourceEvent) : Bool :=
 (s.replayCursor cursor event).all fun replay=>compareCursor event.cursor replay == .gt

/-- The checks of `poll` and the events it collects. -/
def pollEvents (cursor:Option SourceCursor) (demand:ℕ) :
  Except DurableError (List SourceEvent) := do
 ensure (!s.paused) .sourcePaused
 s.checkConflict
 cursor.elim (.ok ()) s.validateCursor
 return (s.events.filter (s.isPending cursor)).take demand

/-- The watermark after a batch with the given greatest event time. -/
def nextWatermark (batchWatermarkUnixMs:Option ℕ) : Option ℕ :=
 match s.emittedWatermarkUnixMs, batchWatermarkUnixMs with
 | some previous, some current=>some (max previous current)
 | previous, none=>previous
 | none, current=>current

def batchWatermark (events:List SourceEvent) : Option ℕ :=
 (events.filterMap SourceEvent.eventTimeUnixMs).max?

def poll (cursor:Option SourceCursor) (demand:ℕ) :
  Except DurableError SourceBatch×InMemoryDurableSource :=
 match s.pollEvents cursor demand with
 | .error error=>(.error error,s)
 | .ok events=>
  let watermark:=s.nextWatermark (batchWatermark events)
  (SourceBatch.new s.guarantee events (watermark.map fun unixMs=>⟨.eventTime,unixMs⟩) demand,
   { s with emittedWatermarkUnixMs:=watermark })

def checkStale (cursor:SourceCursor) : Except DurableError Unit :=
 (s.committedCursors[cursor.partitionKey]?).elim (.ok ()) fun current=>
  ensure (compareCursor cursor current != .lt) (.staleCommit current cursor)

def checkCommit (cursor:SourceCursor) : Except DurableError Unit := do
 s.checkConflict
 s.validateCursorPartition cursor
 s.checkStale cursor
 s.validateCursor cursor

def commit (cursor:SourceCursor) : Except DurableError Unit×InMemoryDurableSource :=
 match s.checkCommit cursor with
 | .error error=>(.error error,s)
 | .ok ()=>
  (.ok (),{ s with committedCursors:=s.committedCursors.insert cursor.partitionKey cursor })

def pause : InMemoryDurableSource := { s with paused:=true }

def resume : InMemoryDurableSource := { s with paused:=false }

end InMemoryDurableSource

inductive Call where
 | poll (cursor:Option SourceCursor) (demand:ℕ)
 | commit (cursor:SourceCursor)
 | pause
 | resume

inductive Response where
 | polled (outcome:Except DurableError SourceBatch)
 | committed (outcome:Except DurableError Unit)
 | done

def step (s:InMemoryDurableSource) : Call→Response×InMemoryDurableSource
 | .poll cursor demand=>(.polled (s.poll cursor demand).1,(s.poll cursor demand).2)
 | .commit cursor=>(.committed (s.commit cursor).1,(s.commit cursor).2)
 | .pause=>(.done,s.pause)
 | .resume=>(.done,s.resume)

def lastCursors : List SourceEvent→List SourceCursor
 | []=>[]
 | event::rest=>
  if rest.any fun later=>later.cursor.partitionKey=event.cursor.partitionKey then lastCursors rest
  else event.cursor::lastCursors rest

def commitAll (s:InMemoryDurableSource) (cursors:List SourceCursor) : InMemoryDurableSource :=
 cursors.foldl (fun s cursor=>(s.commit cursor).2) s

structure Consumer where
 source:InMemoryDurableSource
 delivered:List SourceEvent

/-- What happens at a consumer's source: its own polls, replays by others, and pauses. -/
inductive ConsumerStep where
 | poll (demand:ℕ)
 | replay (cursor:SourceCursor) (demand:ℕ)
 | pause
 | resume

def consumerStep (c:Consumer) : ConsumerStep → Consumer
 | .poll demand=>
  match c.source.poll none demand with
  | (.error _,source)=>⟨source,c.delivered⟩
  | (.ok batch,source)=>⟨commitAll source (lastCursors batch.events),c.delivered++batch.events⟩
 | .replay cursor demand=>⟨(c.source.poll (some cursor) demand).2,c.delivered⟩
 | .pause=>⟨c.source.pause,c.delivered⟩
 | .resume=>⟨c.source.resume,c.delivered⟩

def consume (source:InMemoryDurableSource) (steps:List ConsumerStep) : Consumer :=
 steps.foldl consumerStep ⟨source,[]⟩

def demanded : Bool→List ConsumerStep→ℕ
 | _, []=>0
 | paused, .poll demand::steps=>(if paused then 0 else demand)+demanded paused steps
 | paused, .replay _ _::steps=>demanded paused steps
 | _, .pause::steps=>demanded true steps
 | _, .resume::steps=>demanded false steps

end GraphBlocks.DurableSource
