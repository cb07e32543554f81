import GraphBlocks.CitationChecks

namespace GraphBlocks.Rag
open RustStd List

variable {σ:Type} (debug:String→String)

def namedByError (issues:List CitationValidationIssue) (citationId:String) : Bool :=
 issues.any fun issue=>decide (issue.severity=.error)&&decide (issue.citationId=some citationId)

def refersTo (kept:List (Citation σ)) (citationId:String) : Bool :=
 kept.any fun citation=>decide (citation.citationId=citationId)

/-- The answer without the citations an error names and without the references to them. -/
def withoutNamed (issues:List CitationValidationIssue) (answer:Answer σ) : Answer σ :=
 let kept:=answer.citations.filter fun citation => !namedByError issues citation.citationId
 { answer with
  citations:=kept
  claims:=answer.claims.map fun claim=>
   { claim with citationIds:=claim.citationIds.filter (refersTo kept) } }

variable {issues:List CitationValidationIssue}

lemma namedByError_iff{id:String}:namedByError issues id=true ↔
   ∃issue∈issues,issue.severity=.error∧issue.citationId=some id:=by
 simp [namedByError]

lemma withoutNamed_congr{others:List CitationValidationIssue}(answer:Answer σ)
  (h:∀id,namedByError issues id=namedByError others id):
  withoutNamed issues answer=withoutNamed others answer:=by
 have hsame:namedByError issues=namedByError others:=funext h
 simp only [withoutNamed,hsame]

lemma removeInvalidCitations_eq(issues:List CitationValidationIssue)(answer:Answer σ):
  removeInvalidCitations issues answer=withoutNamed issues answer:=by
 have hkept:∀id,(decide (id∉(issues.filter fun issue=>
   decide (issue.severity=.error)).filterMap (·.citationId)))=!namedByError issues id:=by
  intro id
  rw [Bool.eq_iff_iff]
  simp only [decide_eq_true_eq,Bool.not_eq_true',←Bool.not_eq_true,namedByError_iff,
   mem_filterMap,   mem_filter,and_assoc]
 simp only [removeInvalidCitations,withoutNamed,hkept]
 congr 2
 funext claim
 congr 2
 funext id
 rw [Bool.eq_iff_iff]
 simp [refersTo,and_assoc]

variable {issue:CitationValidationIssue}

section
variable {severity:CitationSeverity} {texts:List (SourceRef×String)}

lemma mem_collectIssues{required:Bool}{answer:Answer σ}:
  issue∈collectIssues debug severity texts required answer ↔
   (∃claim∈answer.claims,issue∈uncitedIssues debug severity required claim) ∨
    issue∈collectIssues debug severity texts false answer:=by
 have huncited:∀claim:Claim,uncitedIssues debug severity false claim=[]:=by
  intro claim
  simp [uncitedIssues]
 simp only [collectIssues,claimIssues,huncited,nil_append,mem_append,mem_flatMap]
 constructor
 · rintro ((h|⟨claim,hclaim,h|h⟩)|h)
   · exact .inr (.inl (.inl h))
   · exact .inl ⟨claim,hclaim,h⟩
   · exact .inr (.inl (.inr ⟨claim,hclaim,h⟩))
   · exact .inr (.inr h)
 · rintro (⟨claim,hclaim,h⟩|(h|⟨claim,hclaim,h⟩)|h)
   · exact .inl (.inr ⟨claim,hclaim,.inl h⟩)
   · exact .inl (.inl h)
   · exact .inl (.inr ⟨claim,hclaim,.inr h⟩)
   · exact .inr h

/-- An issue of the repaired answer is an issue of the answer, about a citation that was kept. -/
lemma mem_collectIssues_withoutNamed{answer:Answer σ}{required:Bool}
  (h:issue∈collectIssues debug severity texts false (withoutNamed issues answer)):
  issue∈collectIssues debug severity texts required answer ∧
   ∃id,issue.citationId=some id∧namedByError issues id=false:=by
 have hlift:∀{l:List CitationValidationIssue},
   l ⊆ collectIssues debug severity texts false answer→issue∈l →
    issue∈collectIssues debug severity texts required answer:=
  fun hl hmem=>(mem_collectIssues debug).mpr (.inr (hl hmem))
 have hclean:∀c∈answer.citations.filter
   (fun c:Citation σ => !namedByError issues c.citationId),
   namedByError issues c.citationId=false:=by
  intro c hc
  simpa using (mem_filter.mp hc).2
 rcases mem_append.mp h with h|h
 · rcases mem_append.mp h with h|h
   · obtain ⟨hmem,c,hc,hid⟩:=
      mem_duplicateIssues debug (List.Subset.refl []) (!namedByError issues ·) h
     refine ⟨hlift ?_ hmem,c.citationId,hid,hclean c hc⟩
     exact fun i hi=>mem_append_left _ (mem_append_left _ hi)
   · obtain ⟨claim',hclaim',h⟩:=mem_flatMap.mp h
     obtain ⟨claim,hclaim,rfl⟩:=mem_map.mp hclaim'
     simp only [claimIssues,uncitedIssues,Bool.false_and,Bool.false_eq_true,if_false,
      nil_append] at h
     obtain ⟨id,hid,h⟩:=mem_flatMap.mp h
     obtain ⟨hid,hkept⟩:=mem_filter.mp hid
     obtain ⟨c,hc,hcid⟩:=any_eq_true.mp hkept
     have hsame:c.citationId=id:=by simpa using hcid
     have hkeep:(!namedByError issues id)=true:=by
      rw [←hsame,hclean c hc]
      rfl
     have hreference:issue∈referenceIssues debug severity texts answer.citations claim id:=by
      rw [←referenceIssues_filter debug (!namedByError issues ·) hkeep answer.citations claim]
      exact h
     refine ⟨hlift ?_ hreference,id,referenceIssues_names debug hreference,by simpa using hkeep⟩
     intro i hi
     have hreferences:=mem_append_right (uncitedIssues debug severity false claim)
      (mem_flatMap.mpr ⟨id,hid,hi⟩)
     exact mem_append_left _ (mem_append_right _
      (mem_flatMap.mpr ⟨claim,hclaim,hreferences⟩))
 · obtain ⟨c,hc,h⟩:=mem_flatMap.mp h
   refine ⟨hlift ?_ h,c.citationId,citationIssues_names debug h,hclean c hc⟩
   exact fun i hi=>mem_append_right _ (mem_flatMap.mpr ⟨c,mem_of_mem_filter hc,hi⟩)

lemma repaired_clean(answer:Answer σ)(required:Bool)(issue:CitationValidationIssue)
  (h:issue∈collectIssues debug severity texts false
   (withoutNamed (collectIssues debug severity texts required answer) answer)):
  issue.severity ≠ .error:=by
 intro herror
 obtain ⟨hmem,id,hid,hclean⟩:=@mem_collectIssues_withoutNamed σ debug _ _ severity texts _ required h
 have hnamed:=namedByError_iff.mpr ⟨issue,hmem,herror,hid⟩
 rw [hclean] at hnamed
 cases hnamed
end

lemma hasError_eq_false:hasError issues=false ↔ ∀issue∈issues,issue.severity ≠ .error:=by
 simp [hasError]

lemma mem_mergeIssues{later:List CitationValidationIssue}
  (h:issue∈mergeIssues issues later):issue∈issues∨issue∈later:=by
 fun_induction mergeIssues issues later with
 | case1 issues=>exact .inl h
 | case2 issues repaired rest hany ih=>exact (ih h).imp_right (mem_cons_of_mem _)
 | case3 issues repaired rest hany ih=>
  rcases ih h with h|h
  · rcases mem_append.mp h with h|h
    · exact .inl h
    · rw [mem_singleton.mp h]
      exact .inr mem_cons_self
  · exact .inr (mem_cons_of_mem _ h)

lemma subset_mergeIssues(issues later:List CitationValidationIssue):
  issues ⊆ mergeIssues issues later:=by
 fun_induction mergeIssues issues later with
 | case1 issues=>exact List.Subset.refl _
 | case2 issues repaired rest hany ih=>exact ih
 | case3 issues repaired rest hany ih=>exact fun i hi=>ih (mem_append_left _ hi)

lemma namedByError_mergeIssues{later:List CitationValidationIssue}
  (h:∀issue∈later,issue.severity=.error→issue.citationId=none)(id:String):
  namedByError (mergeIssues issues later) id=namedByError issues id:=by
 rw [Bool.eq_iff_iff,namedByError_iff,namedByError_iff]
 constructor
 · rintro ⟨issue,hmem,herror,hid⟩
   rcases mem_mergeIssues hmem with hmem|hmem
   · exact ⟨issue,hmem,herror,hid⟩
   · rw [h issue hmem herror] at hid
     cases hid
 · rintro ⟨issue,hmem,h⟩
   exact ⟨issue,subset_mergeIssues _ _ hmem,h⟩

section
variable (context:ContextPack σ) (required:Bool) (answer:Answer σ)

def repairedOnce : Answer σ :=
 withoutNamed (collectIssues debug .error (contextSourceTexts context) required answer) answer

lemma repairedOnce_clean:hasError (collectIssues debug .error (contextSourceTexts context) false
   (repairedOnce debug context required answer))=false:=
 hasError_eq_false.mpr (repaired_clean debug answer required)

lemma revalidated_error(h:issue∈collectIssues debug .error (contextSourceTexts context) required
   (repairedOnce debug context required answer))(herror:issue.severity=.error):
  ∃claim∈(repairedOnce debug context required answer).claims,
   issue∈uncitedIssues debug .error required claim:=by
 rcases (mem_collectIssues debug).mp h with h|h
 · exact h
 · exact absurd herror (repaired_clean debug answer required issue h)

lemma validateFailing_repaired:
  (validateFailing debug (repairedOnce debug context required answer) context required).ok=true ↔
   required=false ∨ ∀claim∈(repairedOnce debug context required answer).claims,
    isBlank claim.text=false→claim.citationIds≠[]:=by
 simp only [validateFailing,Bool.not_eq_true',hasError_eq_false]
 cases required with
 | false=>simpa using hasError_eq_false.mp (repairedOnce_clean debug context false answer)
 | true=>
  simp only [Bool.true_eq_false,false_or]
  constructor
  · intro clean claim hclaim htext hnone
    have huncited:(⟨"claim.missing_citation",
      "claim "++debug claim.claimId++" has no citation",.error,none,some claim.claimId⟩ :
       CitationValidationIssue)∈uncitedIssues debug .error true claim:=by
     simp [uncitedIssues,htext,hnone]
    exact clean _ ((mem_collectIssues debug).mpr (.inl ⟨claim,hclaim,huncited⟩)) rfl
  · intro cited issue hissue herror
    obtain ⟨claim,hclaim,huncited⟩:=revalidated_error debug context true answer hissue herror
    unfold uncitedIssues at huncited
    split at huncited
    · next hcondition=>
     simp only [Bool.true_and,Bool.and_eq_true,Bool.not_eq_true',List.isEmpty_iff] at hcondition
     exact cited claim hclaim hcondition.1 hcondition.2
    · cases huncited

lemma validate_repaired(policy:FailurePolicy){repaired:Answer σ}
  (h:(validateAnswerCitations debug answer context required policy).repairedAnswer=some repaired):
  repaired=repairedOnce debug context required answer∧repaired =
    withoutNamed (validateAnswerCitations debug answer context required policy).issues answer ∧
   (policy=.repair→(validateAnswerCitations debug answer context required policy).ok =
    (validateFailing debug repaired context required).ok):=by
 unfold validateAnswerCitations at h ⊢
 cases policy with
 | removeInvalid=>
  simp only [reduceCtorEq,if_false,removeInvalidCitations_eq] at h ⊢
  by_cases clean :
    hasError (collectIssues debug .error (contextSourceTexts context) required answer)=false
  · simp only [clean,if_true,reduceCtorEq] at h
  simp only [clean,Bool.true_eq_false,if_false,Option.some.injEq] at h ⊢
  exact ⟨h.symm,h.symm,False.elim⟩
 | repair=>
  simp only [reduceCtorEq,if_false,removeInvalidCitations_eq] at h ⊢
  by_cases clean :
    hasError (collectIssues debug .error (contextSourceTexts context) required answer)=false
  · simp only [clean,if_true,reduceCtorEq] at h
  simp only [clean,Bool.true_eq_false,if_false,Option.some.injEq] at h ⊢
  refine ⟨h.symm,?_,fun _=>by rw [h]⟩
  rw [←h]
  refine (withoutNamed_congr answer fun id=>namedByError_mergeIssues ?_ id).symm
  intro issue hissue hseverity
  obtain ⟨claim,-,huncited⟩:=revalidated_error debug context required answer hissue hseverity
  unfold uncitedIssues at huncited
  split at huncited
  · rw [mem_singleton.mp huncited]
  · cases huncited
 | _=>simp only [apply_ite CitationValidationResult.repairedAnswer,ite_self,reduceCtorEq] at h

lemma validate_clean(policy:FailurePolicy)
  (h:hasError (collectIssues debug .error (contextSourceTexts context) false answer)=false):
  (validateAnswerCitations debug answer context false policy).repairedAnswer=none:=by
 unfold validateAnswerCitations
 cases policy with
 | warn=>simp only [ite_self]
 | _=>simp only [reduceCtorEq,if_false,h,if_true]
end

/-- A repaired answer keeps what no error names, stands up to a validation that
demands no citations, and is repaired no further. -/
theorem citation_repair_fixes (answer : Answer σ) (context : ContextPack σ) (required : Bool)
  (policy : FailurePolicy) (repaired : Answer σ)
  (h : (validateAnswerCitations debug answer context required policy).repairedAnswer=some repaired) :
  repaired =
   withoutNamed (validateAnswerCitations debug answer context required policy).issues answer ∧
  (∀issue∈(validateAnswerCitations debug repaired context false .fail).issues,
   issue.severity ≠ .error) ∧
  (∀again,(validateAnswerCitations debug repaired context false again).repairedAnswer=none) ∧
  (policy=.repair→((validateAnswerCitations debug answer context required policy).ok=true ↔
   required=false ∨ ∀claim∈repaired.claims,isBlank claim.text=false→claim.citationIds≠[])) := by
 obtain ⟨rfl,hkept,hok⟩:=validate_repaired debug context required answer policy h
 have hclean:=repairedOnce_clean debug context required answer
 refine ⟨hkept,?_,fun again=>validate_clean debug context _ again hclean,?_⟩
 · rw [validateAnswerCitations_fail]
   exact hasError_eq_false.mp hclean
 · intro hpolicy
   rw [hok hpolicy]
   exact validateFailing_repaired debug context required answer

def sourceOf (sourceId : String) : SourceRef :=
 ⟨sourceId, "document", none, none, none, none, none, "retrieved", none, ∅⟩

/-- A claim with a citation of the context and one of a source that the context lacks. -/
def strayAnswer : Answer Unit where
 answerId := "answer"
 text := "Tides follow the moon."
 claims := [⟨"claim", "Tides follow the moon.", ["table", "note"], ∅⟩]
 citations := [⟨"table", sourceOf "tables", none, none, none, ∅⟩,
  ⟨"note", sourceOf "almanac", none, none, none, ∅⟩]
 abstention := none
 metadata := ∅

def tideContext : ContextPack Unit :=
 ⟨"context", [⟨"hit", ⟨"tides", "chunk", sourceOf "tables", none, none,
  ["Tides follow the moon."], none, ∅⟩, 1, "index",
  none, none, none, [], ∅⟩], none, none, ∅⟩

theorem stray_citation_removed :
  ∃ repaired, (validateAnswerCitations id strayAnswer tideContext true .repair).repairedAnswer =
    some repaired ∧ repaired.citations.map Citation.citationId = ["table"] ∧
   (validateAnswerCitations id repaired tideContext false .repair).repairedAnswer = none := by
 have removed:(validateAnswerCitations id strayAnswer tideContext true .repair).repairedAnswer =
   some (removeInvalidCitations (collectIssues id .error (contextSourceTexts tideContext) true
    strayAnswer) strayAnswer):=by rfl
 obtain ⟨-,-,again,-⟩:=citation_repair_fixes id strayAnswer tideContext true .repair _ removed
 exact ⟨_,removed,by rfl,again .repair⟩

end GraphBlocks.Rag
