import GraphBlocks.SearchHits

namespace GraphBlocks.Rag
open Std Json StoredJson RustStd List

inductive FailurePolicy where
 | warn
 | fail
 | abstain
 | repair
 | removeInvalid
deriving DecidableEq

inductive CitationSeverity where
 | warning
 | error
deriving DecidableEq

structure Citation (σ:Type) where
 citationId:String
 source:SourceRef
 claimId:Option String
 citedText:Option String
 confidence:Option σ
 metadata:StringMap Value

structure Claim where
 claimId:String
 text:String
 citationIds:List String
 metadata:StringMap Value

structure Abstention where
 reason:String
 userMessage:String
 diagnostics:StringMap Value

structure Answer (σ:Type) where
 answerId:String
 text:String
 claims:List Claim
 citations:List (Citation σ)
 abstention:Option Abstention
 metadata:StringMap Value

structure ContextPack (σ:Type) where
 contextId:String
 hits:List (SearchHit σ)
 tokenBudget:Option ℕ
 tokenCount:Option ℕ
 metadata:StringMap Value

structure CitationValidationIssue where
 code:String
 message:String
 severity:CitationSeverity
 citationId:Option String:=none
 claimId:Option String:=none

structure CitationValidationResult (σ:Type) where
 ok:Bool
 issues:List CitationValidationIssue
 abstention:Option Abstention
 repairedAnswer:Option (Answer σ)

/-- `str::split_whitespace`. -/
def splitWhitespace (cs:List Char) : List (List Char) :=
 (cs.splitOnP isWhitespace).filter (!·.isEmpty)

def normalizeText (text:String) : List Char :=
 (List.intercalate [' '] (splitWhitespace text.toList)).map Char.toLower

/-- `str::contains` with a text. -/
def containsText (text pattern:List Char) : Bool := decide (pattern <:+: text)

/-- A citation that names a value wants it in the context; one that does not takes any. -/
def isNoneOr {α:Type} [DecidableEq α] (expected found:Option α) : Bool :=
 expected.isNone||decide (expected=found)

def locatorMatches : Option DocumentSpan→Option DocumentSpan→Bool
 | none, _=>true
 | some _, none=>false
 | some cited, some context=>
  decide (cited.assetId=context.assetId)&&decide (cited.revisionId=context.revisionId) &&
  decide (cited.documentId=context.documentId)&&isNoneOr cited.elementId context.elementId &&
  isNoneOr cited.chunkId context.chunkId&&isNoneOr cited.page context.page &&
  isNoneOr cited.bbox context.bbox&&isNoneOr cited.charStart context.charStart &&
  isNoneOr cited.charEnd context.charEnd&&isNoneOr cited.sheet context.sheet &&
  isNoneOr cited.cellRange context.cellRange&&isNoneOr cited.slide context.slide

def sourceRefMatches (cited context:SourceRef) : Bool :=
 decide (cited.sourceId=context.sourceId)&&isNoneOr cited.revision context.revision &&
 isNoneOr cited.digest context.digest&&locatorMatches cited.locator context.locator

variable {σ:Type} (debug:String→String)

def contextSourceTexts (context:ContextPack σ) : List (SourceRef×String) :=
 context.hits.flatMap fun hit=>
  hit.sources.map fun source=>(source, "\n".intercalate hit.item.preview)

section
variable (severity:CitationSeverity) (texts:List (SourceRef×String))

/-- Citations whose id stands before; `seen` holds the ids of `citations_by_id`. -/
def duplicateIssues (seen:List String) : List (Citation σ)→List CitationValidationIssue
 | []=>[]
 | citation::citations=>
  if citation.citationId∈seen then
   ⟨"citation_id.duplicate",
    "citation " ++ debug citation.citationId ++ " is defined more than once",severity,
    some citation.citationId,none⟩::duplicateIssues seen citations
  else duplicateIssues (citation.citationId::seen) citations

def claimMismatchIssues (claim:Claim) (citation:Citation σ) : List CitationValidationIssue :=
 if citation.claimId.any (· != claim.claimId) then
  [⟨"citation.claim_mismatch",
   "citation " ++ debug citation.citationId ++ " is attached to a different claim",
   severity,some citation.citationId,some claim.claimId⟩]
 else []

def unsupportedIssues (claim:Claim) (citation:Citation σ) : List CitationValidationIssue :=
 let normalizedClaimText:=normalizeText claim.text
 let matchingTexts:=texts.filter fun entry=>sourceRefMatches citation.source entry.1
 if !normalizedClaimText.isEmpty && !matchingTexts.isEmpty &&
   !matchingTexts.any fun entry=>containsText (normalizeText entry.2) normalizedClaimText then
  [⟨"claim.unsupported_by_citation",
   "claim " ++ debug claim.claimId ++ " is not supported by citation " ++ debug citation.citationId,
   severity,some citation.citationId,some claim.claimId⟩]
 else []

def referenceIssues (citations:List (Citation σ)) (claim:Claim) (citationId:String) :
  List CitationValidationIssue :=
 match citations.find? fun citation=>decide (citation.citationId=citationId) with
 | none=>
  [⟨"citation_id.missing",
   "claim " ++ debug claim.claimId ++ " references missing citation " ++ debug citationId,
   severity,some citationId,some claim.claimId⟩]
 | some citation=>
  claimMismatchIssues debug severity claim citation ++
   unsupportedIssues debug severity texts claim citation

def uncitedIssues (requireCitations:Bool) (claim:Claim) : List CitationValidationIssue :=
 if requireCitations && !isBlank claim.text&&claim.citationIds.isEmpty then
  [⟨"claim.missing_citation","claim " ++ debug claim.claimId ++ " has no citation",severity,none,
   some claim.claimId⟩]
 else []

def citationIssues (citation:Citation σ) : List CitationValidationIssue :=
 let matchingSources:=texts.filter fun entry=>sourceRefMatches citation.source entry.1
 if matchingSources.isEmpty then
  [⟨"citation.source_not_in_context",
   "citation " ++ debug citation.citationId ++ " does not point to the current context",severity,
   some citation.citationId,none⟩]
 else
  (if citation.source.locator.isNone&&matchingSources.any fun entry=>entry.1.locator.isNone then
   [⟨"citation.precision_limited",
    "citation " ++ debug citation.citationId ++ " has no page, cell, slide, or span locator",
    .warning,some citation.citationId,none⟩]
  else []) ++
  (if (citation.citedText.map normalizeText).any fun quoted => !quoted.isEmpty &&
     !matchingSources.any fun entry=>containsText (normalizeText entry.2) quoted then
   [⟨"citation.text_mismatch",
    "citation " ++ debug citation.citationId ++ " cites text outside the source preview",severity,
    some citation.citationId,none⟩]
  else [])

def claimIssues (requireCitations:Bool) (citations:List (Citation σ)) (claim:Claim) :
  List CitationValidationIssue :=
 uncitedIssues debug severity requireCitations claim ++
  claim.citationIds.flatMap (referenceIssues debug severity texts citations claim)

def collectIssues (requireCitations:Bool) (answer:Answer σ) : List CitationValidationIssue :=
 duplicateIssues debug severity [] answer.citations ++
 answer.claims.flatMap (claimIssues debug severity texts requireCitations answer.citations) ++
 answer.citations.flatMap (citationIssues debug severity texts)
end

def hasError (issues:List CitationValidationIssue) : Bool :=
 issues.any fun issue=>decide (issue.severity=.error)

/-- The citations named by an error go, and the references to a citation that went. -/
def removeInvalidCitations (issues:List CitationValidationIssue) (answer:Answer σ) : Answer σ :=
 let invalidCitationIds:=
  (issues.filter fun issue=>decide (issue.severity=.error)).filterMap (·.citationId)
 let citations:=answer.citations.filter fun citation=>
  decide (citation.citationId∉invalidCitationIds)
 let remaining:=citations.map (·.citationId)
 { answer with
  citations
  claims:=answer.claims.map fun claim=>
   { claim with citationIds:=claim.citationIds.filter fun id=>decide (id∈remaining) } }

/-- Validation under `Fail`. -/
def validateFailing (answer:Answer σ) (context:ContextPack σ) (requireCitations:Bool) :
  CitationValidationResult σ :=
 let issues:=collectIssues debug .error (contextSourceTexts context) requireCitations answer
 ⟨!hasError issues,issues,none,none⟩

/-- The issues of the second validation that the first one did not report. -/
def mergeIssues (issues:List CitationValidationIssue) :
  List CitationValidationIssue→List CitationValidationIssue
 | []=>issues
 | repaired::rest=>
  if issues.any fun issue=>decide (issue.code=repaired.code) &&
    decide (issue.citationId=repaired.citationId) &&
    decide (issue.claimId=repaired.claimId) then
   mergeIssues issues rest
  else mergeIssues (issues++[repaired]) rest

/-- `Repair` validates the repaired answer again, under `Fail`. -/
def validateAnswerCitations (answer:Answer σ) (context:ContextPack σ) (requireCitations:Bool)
  (failurePolicy:FailurePolicy) : CitationValidationResult σ :=
 let severity:=if failurePolicy=.warn then CitationSeverity.warning else .error
 let issues:=collectIssues debug severity (contextSourceTexts context) requireCitations answer
 if hasError issues=false then ⟨true,issues,none,none⟩ else
 match failurePolicy with
 | .warn=>⟨true,issues,none,none⟩
 | .removeInvalid=>⟨true,issues,none,some (removeInvalidCitations issues answer)⟩
 | .repair=>
  let repairedAnswer:=removeInvalidCitations issues answer
  let repairedResult:=validateFailing debug repairedAnswer context requireCitations
  ⟨repairedResult.ok,mergeIssues issues repairedResult.issues,none,some repairedAnswer⟩
 | .abstain=>
  ⟨false,issues,some ⟨"citation_validation_failed",
   "I do not have enough validated source support to answer.",
   ExtTreeMap.ofList [("issue_codes",Value.array (issues.map (.string ·.code)))]⟩,none⟩
 | .fail=>⟨false,issues,none,none⟩

lemma validateAnswerCitations_fail(answer:Answer σ)(context:ContextPack σ)
  (requireCitations:Bool):validateAnswerCitations debug answer context requireCitations .fail =
   validateFailing debug answer context requireCitations:=by
 unfold validateAnswerCitations validateFailing
 simp only [reduceCtorEq,if_false]
 split
 · next h=>simp only [h,Bool.not_false]
 · next h=>simp only [Bool.eq_true_of_not_eq_false h,Bool.not_true]

section
variable {severity:CitationSeverity} {texts:List (SourceRef×String)} {issue:CitationValidationIssue}
 {citations:List (Citation σ)}

lemma mem_duplicateIssues{seen seen':List String}(hseen:seen ⊆ seen')(keep:String→Bool)
  (h:issue∈duplicateIssues debug severity seen (citations.filter fun c=>keep c.citationId)):
  issue∈duplicateIssues debug severity seen' citations ∧
   ∃c∈citations.filter (fun c=>keep c.citationId),issue.citationId=some c.citationId:=by
 induction citations generalizing seen seen' with
 | nil=>simp [duplicateIssues] at h
 | cons c citations ih=>
  by_cases hkeep:keep c.citationId=true
  · have hfilter:(c::citations).filter (fun c=>keep c.citationId) =
      c::citations.filter fun c=>keep c.citationId:=by
     rw [filter_cons,if_pos hkeep]
    rw [hfilter] at h ⊢
    simp only [duplicateIssues] at h ⊢
    by_cases hmem:c.citationId∈seen
    · rw [if_pos hmem] at h
      rw [if_pos (hseen hmem)]
      rcases mem_cons.mp h with rfl|h
      · exact ⟨mem_cons_self,c,mem_cons_self,rfl⟩
      · obtain ⟨h,d,hd,hid⟩:=ih hseen h
        exact ⟨mem_cons_of_mem _ h,d,mem_cons_of_mem _ hd,hid⟩
    · rw [if_neg hmem] at h
      by_cases hmem':c.citationId∈seen'
      · rw [if_pos hmem']
        obtain ⟨h,d,hd,hid⟩:=ih (cons_subset.mpr ⟨hmem',hseen⟩) h
        exact ⟨mem_cons_of_mem _ h,d,mem_cons_of_mem _ hd,hid⟩
      · rw [if_neg hmem']
        obtain ⟨h,d,hd,hid⟩:=ih (cons_subset_cons _ hseen) h
        exact ⟨h,d,mem_cons_of_mem _ hd,hid⟩
  · have hfilter:(c::citations).filter (fun c=>keep c.citationId) =
      citations.filter fun c=>keep c.citationId:=by
     rw [filter_cons,if_neg hkeep]
    rw [hfilter] at h ⊢
    simp only [duplicateIssues]
    split
    · obtain ⟨h,hid⟩:=ih hseen h
      exact ⟨mem_cons_of_mem _ h,hid⟩
    · exact ih (fun s hs=>mem_cons_of_mem _ (hseen hs)) h

lemma referenceIssues_names{claim:Claim}{id:String}
  (h:issue∈referenceIssues debug severity texts citations claim id):issue.citationId=some id:=by
 unfold referenceIssues at h
 split at h
 · rw [mem_singleton.mp h]
 · next citation hfind=>
  have hid:citation.citationId=id:=by simpa using List.find?_some hfind
  rw [←hid]
  rcases mem_append.mp h with h|h
  · unfold claimMismatchIssues at h
    split at h
    · rw [mem_singleton.mp h]
    · cases h
  · unfold unsupportedIssues at h
    dsimp only at h
    split at h
    · rw [mem_singleton.mp h]
    · cases h

lemma citationIssues_names{citation:Citation σ}
  (h:issue∈citationIssues debug severity texts citation):
  issue.citationId=some citation.citationId:=by
 unfold citationIssues at h
 dsimp only at h
 split at h
 · rw [mem_singleton.mp h]
 rcases mem_append.mp h with h|h
 all_goals
  split at h
  · rw [mem_singleton.mp h]
  · cases h

lemma referenceIssues_filter(keep:String→Bool){id:String}(hkeep:keep id=true)
  (citations:List (Citation σ))(claim:Claim):
  referenceIssues debug severity texts (citations.filter fun c=>keep c.citationId) claim id =
   referenceIssues debug severity texts citations claim id:=by
 have hfind:(citations.filter fun c=>keep c.citationId).find?
    (fun c=>decide (c.citationId=id)) =
   citations.find? fun c=>decide (c.citationId=id):=by
  rw [List.find?_filter]
  congr 1
  funext c
  by_cases hid:c.citationId=id
  · simp [hid,hkeep]
  · simp [hid]
 unfold referenceIssues
 rw [hfind]
end

end GraphBlocks.Rag
