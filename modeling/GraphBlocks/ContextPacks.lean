import GraphBlocks.CitationChecks
import GraphBlocks.PolicyTime

namespace GraphBlocks.Rag
open Json StoredJson RustStd DigitStrings

def daysFromCivil (year month day:ℤ) : ℤ :=
 let year:=year-if month≤2 then 1 else 0
 let era:=(if 0≤year then year else year-399).tdiv 400
 let yearOfEra:=year-era*400
 let dayOfYear:=(153*(month+if 2< month then -3 else 9)+2).tdiv 5+day-1
 let dayOfEra:=yearOfEra*365+yearOfEra.tdiv 4-yearOfEra.tdiv 100+dayOfYear
 era*146097+dayOfEra-719468

/-- A field of exactly `width` digits. -/
def digitField (width:ℕ) (cs:List Char) : Option ℕ :=
 if cs.length=width∧cs.all Char.isDigit then some (value cs) else none

def isoOffset (sign:Char) (offset:List Char) : Option ℤ := do
 let hours ← digitField 2 (offset.take 2)
 let minutes ← if offset[2]?=some ':' then digitField 2 (offset.drop 3) else none
 if 23<hours∨59< minutes then none else return (if sign = '+' then 1 else -1)*(hours*3600+minutes*60)

/-- The text before the offset and the offset; the last sign behind the first `T` begins it. -/
def splitIsoOffset (cs:List Char) : Option (List Char×ℤ) :=
 if cs.getLast?=some 'Z' then some (cs.dropLast,0) else
 match cs.dropWhile (· != 'T') with
 | []=>none
 | mark::rest=>
  match rest.reverse.dropWhile (fun c => !(c == '+' || c == '-')) with
  | []=>none
  | sign::front=>do
   let offset ← isoOffset sign (rest.reverse.takeWhile fun c => !(c == '+' || c == '-')).reverse
   return (cs.takeWhile (· != 'T')++mark::front.reverse,offset)

def isoDate (date:List Char) : Option (ℕ×ℕ×ℕ) := do
 let year ← digitField 4 (date.take 4)
 let month ← if date[4]?=some '-' then digitField 2 ((date.drop 5).take 2) else none
 let day ← if date[7]?=some '-' then digitField 2 (date.drop 8) else none
 return (year,month,day)

/-- The seconds may carry a fraction, which is checked and dropped. -/
def isoSeconds (seconds:List Char) : Option ℕ := do
 let second ← digitField 2 (seconds.takeWhile (· != '.'))
 match seconds.dropWhile (· != '.') with
 | []=>return second
 | _::fraction=>if fraction≠[]∧fraction.all Char.isDigit then return second else none

def isoTime (time:List Char) : Option (ℕ×ℕ×ℕ) := do
 let hour ← digitField 2 (time.take 2)
 let minute ← if time[2]?=some ':' then digitField 2 ((time.drop 3).take 2) else none
 let second ← if time[5]?=some ':' then isoSeconds (time.drop 6) else none
 return (hour,minute,second)

def daysInMonth (year month:ℕ) : Option ℕ :=
 if month∈[1,3,5,7,8,10,12] then some 31
 else if month∈[4,6,9,11] then some 30
 else if month=2 then some (if year % 4=0∧(year % 100≠0∨year % 400=0) then 29 else 28)
 else none

def parseIsoDatetimeSeconds (text:String) : Option ℤ :=
 let cs:=text.toList
 if cs=[]∨trimChars cs≠cs then none else do
 let (datetime,offset) ← splitIsoOffset cs
 if 'T' ∉ datetime then none else do
 let (year,month,day) ← isoDate (datetime.takeWhile (· != 'T'))
 let (hour,minute,second) ← isoTime ((datetime.dropWhile (· != 'T')).drop 1)
 let days ← daysInMonth year month
 if year=0∨day=0∨days<day∨23<hour∨59< minute∨59<second then none else
 return daysFromCivil year month day*86400+hour*3600+minute*60+second-offset

def sourceModifiedAtSatisfiesSeconds (sourceModifiedAt:Option String) (minimum:ℤ) : Bool :=
 (sourceModifiedAt.bind parseIsoDatetimeSeconds).any (minimum ≤ ·)

structure ContextBuildOptions where
 tokenBudget:ℕ
 reserveOutputTokens:ℕ
 perDocumentMaxChunks:Option ℕ
 perSectionMaxChunks:Option ℕ
 perSourceMaxChunks:Option ℕ
 deduplicate:Bool
 minimumSourceModifiedAt:Option String

section
variable {σ:Type}

def textMember (metadata:StringMap Value) (name:String) : Option String :=
 metadata[name]?.bind asString

def documentId (hit:SearchHit σ) : String :=
 ((textMember hit.item.metadata "document_id").or
  (hit.item.source.locator.map (·.documentId))).getD hit.item.itemId

def sectionId (hit:SearchHit σ) : Option String :=
 (textMember hit.metadata "section_id").or ((textMember hit.item.metadata "section_id").or
  (hit.sources.findSome? fun source=>source.locator.bind (·.elementId)))

def sourceId (hit:SearchHit σ) : String := (textMember hit.metadata "source_id").getD hit.retriever

def sourceModifiedAt (hit:SearchHit σ) : Option String :=
 (textMember hit.metadata "source_modified_at").or
  (textMember hit.item.metadata "source_modified_at")

def estimatedTokens (hit:SearchHit σ) : ℕ :=
 (hit.item.preview.map fun preview=>(splitWhitespace preview.toList).length).sum

inductive DropReason where
 | duplicate
 | perDocumentMaxChunks
 | perSectionMaxChunks
 | perSourceMaxChunks
 | freshness
 | tokenBudget

def DropReason.text : DropReason→String
 | .duplicate=>"duplicate"
 | .perDocumentMaxChunks=>"per_document_max_chunks"
 | .perSectionMaxChunks=>"per_section_max_chunks"
 | .perSourceMaxChunks=>"per_source_max_chunks"
 | .freshness=>"freshness"
 | .tokenBudget=>"token_budget"

structure Packing (σ:Type) where
 selected:List (SearchHit σ)
 selectedHitIds:List String
 droppedHitIds:List String
 dropReasons:StringMap Value
 selectedItemIds:Finset String
 chunksPerDocument:StringMap ℕ
 chunksPerSection:StringMap ℕ
 chunksPerSource:StringMap ℕ
 tokenCount:ℕ

def Packing.empty : Packing σ := ⟨[],[],[],∅,∅,∅,∅,∅,0⟩

variable (options:ContextBuildOptions) (minimum:Option ℤ)

/-- The first limit that keeps the hit out. -/
def Packing.dropReason (p:Packing σ) (hit:SearchHit σ) : Option DropReason :=
 if options.deduplicate∧hit.item.itemId∈p.selectedItemIds then some .duplicate
 else if options.perDocumentMaxChunks.any (· ≤ p.chunksPerDocument.getD (documentId hit) 0) then
  some .perDocumentMaxChunks
 else if (sectionId hit).any fun name=>
   options.perSectionMaxChunks.any (· ≤ p.chunksPerSection.getD name 0) then
  some .perSectionMaxChunks
 else if options.perSourceMaxChunks.any (· ≤ p.chunksPerSource.getD (sourceId hit) 0) then
  some .perSourceMaxChunks
 else if minimum.any fun least=>
   !sourceModifiedAtSatisfiesSeconds (sourceModifiedAt hit) least then
  some .freshness
 else if options.tokenBudget-options.reserveOutputTokens<p.tokenCount+estimatedTokens hit then
  some .tokenBudget
 else none

def Packing.drop (p:Packing σ) (hit:SearchHit σ) (reason:DropReason) : Packing σ :=
 { p with
  droppedHitIds:=p.droppedHitIds++[hit.hitId]
  dropReasons:=p.dropReasons.insert hit.hitId (.string reason.text) }

def countOne (counts:StringMap ℕ) (name:String) : StringMap ℕ :=
 counts.insert name (counts.getD name 0+1)

def Packing.select (p:Packing σ) (hit:SearchHit σ) : Packing σ :=
 { p with
  selected:=p.selected++[hit],selectedHitIds:=p.selectedHitIds++[hit.hitId]
  selectedItemIds:=insert hit.item.itemId p.selectedItemIds
  chunksPerDocument:=countOne p.chunksPerDocument (documentId hit)
  chunksPerSection:=(sectionId hit).elim p.chunksPerSection (countOne p.chunksPerSection)
  chunksPerSource:=countOne p.chunksPerSource (sourceId hit)
  tokenCount:=p.tokenCount+estimatedTokens hit }

def Packing.pack (p:Packing σ) (hit:SearchHit σ) : Packing σ :=
 match p.dropReason options minimum hit with
 | some reason=>p.drop hit reason
 | none=>p.select hit

/-- The members that only set options add. -/
def optionMetadata (metadata:StringMap Value) : StringMap Value :=
 let metadata:=options.minimumSourceModifiedAt.elim metadata fun least=>
  metadata.insert "minimum_source_modified_at" (.string least)
 let metadata:=options.perSectionMaxChunks.elim metadata fun limit=>
  metadata.insert "per_section_max_chunks" (.number (intToken limit))
 let metadata:=options.perSourceMaxChunks.elim metadata fun limit=>
  metadata.insert "per_source_max_chunks" (.number (intToken limit))
 if 0<options.reserveOutputTokens then
  (metadata.insert "reserve_output_tokens" (.number (intToken options.reserveOutputTokens))).insert
   "effective_context_token_budget"
   (.number (intToken (options.tokenBudget-options.reserveOutputTokens:ℕ)))
 else metadata

def Packing.context (p:Packing σ) (contextId:String) : ContextPack σ where
 contextId
 hits:=p.selected
 tokenBudget:=some options.tokenBudget
 tokenCount:=some p.tokenCount
 metadata:=optionMetadata options
  ((((∅:StringMap Value).insert
   "selected_hit_ids" (.array (p.selectedHitIds.map .string))).insert
   "dropped_hit_ids" (.array (p.droppedHitIds.map .string))).insert
   "drop_reasons" (.object p.dropReasons.toList))

def minimumSeconds : Except RagError (Option ℤ) :=
 match options.minimumSourceModifiedAt with
 | none=>.ok none
 | some text=>
  match parseIsoDatetimeSeconds text with
  | none=>.error (.invalidMinimumSourceModifiedAt text)
  | some seconds=>.ok (some seconds)

def buildContextPack (contextId:String) (hits:List (SearchHit σ)) (options:ContextBuildOptions) :
  Except RagError (ContextPack σ) :=
 if options.perDocumentMaxChunks=some 0 then .error .invalidPerDocumentMaxChunks else
 if options.perSectionMaxChunks=some 0 then .error .invalidPerSectionMaxChunks else
 if options.perSourceMaxChunks=some 0 then .error .invalidPerSourceMaxChunks else do
 let minimum ← minimumSeconds options
 let packing:=(hits.insertionSort rankOrder).foldl (Packing.pack options minimum) .empty
 return packing.context options contextId
end

end GraphBlocks.Rag
