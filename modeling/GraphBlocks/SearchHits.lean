import GraphBlocks.StoredJson

namespace GraphBlocks.Rag
open Json StoredJson

/-- `Value` with the numbers serde_json can hold. -/
abbrev JsonValue := {v:Value // AllNumbers IsNumberToken v}

structure DocumentSpan where
 assetId:String
 revisionId:String
 documentId:String
 elementId:Option String
 chunkId:Option String
 page:Option ℕ
 bbox:Option JsonValue
 charStart:Option ℕ
 charEnd:Option ℕ
 sheet:Option String
 cellRange:Option String
 slide:Option ℕ
deriving DecidableEq

structure SourceRef where
 sourceId:String
 sourceKind:String
 revision:Option String
 digest:Option String
 locator:Option DocumentSpan
 observedAt:Option String
 relevantAsOf:Option String
 trust:String
 accessPolicy:Option Value
 metadata:StringMap Value

structure KnowledgeItemRef where
 itemId:String
 itemKind:String
 source:SourceRef
 schemaRef:Option String
 payloadRef:Option String
 preview:List String
 acl:Option Value
 metadata:StringMap Value

structure SearchHit (σ:Type) where
 hitId:String
 item:KnowledgeItemRef
 rank:ℕ
 retriever:String
 rawScore:Option σ
 normalizedScore:Option σ
 scoreKind:Option String
 highlights:List SourceRef
 metadata:StringMap Value

def SearchHit.sources {σ:Type} (hit:SearchHit σ) : List SourceRef := hit.item.source::hit.highlights

/-- The order in which hits are taken: better ranks first, then smaller ids. -/
def rankOrder {σ:Type} (left right:SearchHit σ) : Prop :=
 left.rank<right.rank∨left.rank=right.rank∧left.hitId≤right.hitId

instance {σ:Type} : DecidableRel (rankOrder (σ:=σ)) := fun left right=>
 inferInstanceAs (Decidable
  (left.rank<right.rank∨left.rank=right.rank∧left.hitId≤right.hitId))

inductive RagError where
 | invalidAcl (resourceId message:String)
 | authContextRequired (resourceId:String)
 | invalidFusionK
 | weightCountMismatch
 | invalidPerDocumentMaxChunks
 | invalidPerSectionMaxChunks
 | invalidPerSourceMaxChunks
 | invalidMinimumSourceModifiedAt (value:String)

end GraphBlocks.Rag
