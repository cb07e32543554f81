import GraphBlocks.OutputGateFailures
import GraphBlocks.RangeEdits

namespace GraphBlocks.OutputPolicy
open Std OrderedMap RustStd OutputDeliveryGate RangeEdits List Std.ExtTreeMap

def RedactionInstruction.edit (r:RedactionInstruction) : Edit Char :=
 ⟨r.start,r.stop,r.replacement.toList⟩

/-- The order in which the gate makes the redactions of a chunk. -/
def fromTheRight (redactions:List RedactionInstruction) : List RedactionInstruction :=
 redactions.mergeSort fun a b=>decide (b.start≤a.start)

def redactionEdits (redactions:List RedactionInstruction) : List (Edit Char) :=
 (fromTheRight redactions).reverse.map RedactionInstruction.edit

lemma redactionEdits_ascending(redactions:List RedactionInstruction):
  Ascending (redactionEdits redactions):=by
 have hsorted:(fromTheRight redactions).Pairwise fun a b=>
   decide (b.start≤a.start)=true:=by
  apply pairwise_mergeSort
  · intro a b c hab hbc
    rw [decide_eq_true_iff] at hab hbc ⊢
    exact hbc.trans hab
  · intro a b
    rw [Bool.or_eq_true,decide_eq_true_iff,decide_eq_true_iff]
    exact Nat.le_total _ _
 unfold Ascending redactionEdits
 rw [pairwise_map,pairwise_reverse]
 exact hsorted.imp of_decide_eq_true

lemma replaceRange_toList(text:String)(r:RedactionInstruction):
  (replaceRange text r.start r.stop r.replacement).toList=r.edit.apply text.toList:=by
 rw [replaceRange,String.toList_ofList]
 rfl

variable {redactions:List RedactionInstruction} {text:String}

lemma redactText_ok{result:String}:redactText redactions text=.ok result ↔
   Fits (redactions.reverse.map RedactionInstruction.edit) text.toList∧result.toList =
     applyEdits (redactions.reverse.map RedactionInstruction.edit) text.toList:=by
 induction redactions generalizing text with
 | nil=>
  rw [redactText,reverse_nil,map_nil,Except.ok.injEq,applyEdits_nil,String.toList_inj,eq_comm]
  exact (and_iff_right trivial).symm
 | cons r rest ih=>
  rw [reverse_cons,map_append,map_singleton,fits_concat,applyEdits_concat,
   redactText,bind_ok,←replaceRange_toList]
  have hrange:(decide (r.start≤r.stop)&&decide (r.stop≤text.length))=true ↔
    r.edit.start≤r.edit.stop∧r.edit.stop≤text.toList.length:=by
   rw [←Bool.decide_and,decide_eq_true_iff,String.length_toList]
   rfl
  constructor
  · rintro ⟨_,hensured,h⟩
    obtain ⟨hfits,hresult⟩:=ih.mp h
    exact ⟨⟨hrange.mp (ensure_ok.mp hensured),hfits⟩,hresult⟩
  · rintro ⟨⟨hr,hfits⟩,hresult⟩
    exact ⟨(),ensure_ok.mpr (hrange.mpr hr),ih.mpr ⟨hfits,hresult⟩⟩

def targets (n:ℕ) (r:RedactionInstruction) : Bool :=
 match redactionSequence r with
 | .ok sequence=>sequence==n
 | .error _=>false

def OutputPolicyDecision.redactionsFor (decision:OutputPolicyDecision) (n:ℕ) :
  List RedactionInstruction :=
 decision.redactions.filter (targets n)

lemma groupRedactions_ok{groups result:ExtTreeMap ℕ (List RedactionInstruction)}
  (h:groupRedactions redactions groups=.ok result)(n:ℕ):
  result[n]?.getD []=groups[n]?.getD []++redactions.filter (targets n):=by
 induction redactions generalizing groups with
 | nil=>
  cases h
  rw [filter_nil,append_nil]
 | cons r rest ih=>
  obtain ⟨sequence,hsequence,h⟩:=bind_ok.mp h
  rw [ih h,lookup_insert,filter_cons]
  have htargets:targets n r=(sequence==n):=by rw [targets,hsequence]
  rw [htargets]
  by_cases hn:sequence=n
  · subst hn
    simp
  · simp [hn]

variable {entries:List (ℕ×List RedactionInstruction)}

section
variable {g:OutputDeliveryGate} {texts:List (ℕ×String)}

lemma redactedTexts_ok(h:g.redactedTexts entries=.ok texts):
  texts.map Prod.fst=entries.map Prod.fst ∧
   ∀(n:ℕ) redactions,(n,redactions)∈entries→∃chunk text,g.pending[n]?=some chunk ∧
    redactText (fromTheRight redactions) chunk.text=.ok text∧(n,text)∈texts:=by
 induction entries generalizing texts with
 | nil=>
  cases h
  exact ⟨rfl,fun _ _ h=>by cases h⟩
 | cons entry rest ih=>
  obtain ⟨sequence,redactions⟩:=entry
  unfold redactedTexts at h
  obtain ⟨_,-,h⟩:=bind_ok.mp h
  obtain ⟨_,-,h⟩:=bind_ok.mp h
  split at h
  · cases h
  · next chunk hchunk=>
    obtain ⟨text,htext,h⟩:=bind_ok.mp h
    obtain ⟨others,hothers,h⟩:=bind_ok.mp h
    cases h
    obtain ⟨hkeys,hrest⟩:=ih hothers
    refine ⟨by rw [map_cons,map_cons,hkeys],fun n rs hmem=>?_⟩
    rcases mem_cons.mp hmem with heq|hmem
    · obtain ⟨rfl,rfl⟩:=Prod.mk.inj heq
      exact ⟨chunk,text,hchunk,htext,mem_cons_self⟩
    · obtain ⟨c,t,hc,ht,hin⟩:=hrest n rs hmem
      exact ⟨c,t,hc,ht,mem_cons_of_mem _ hin⟩

variable {n:ℕ}

lemma storeTexts_untouched{pending:Pending}(h:n∉texts.map Prod.fst):
  (storeTexts texts pending)[n]?=pending[n]?:=by
 induction texts generalizing pending with
 | nil=>rfl
 | cons entry rest ih=>
  obtain ⟨sequence,text⟩:=entry
  obtain ⟨hne,hrest⟩:n≠sequence∧n∉rest.map Prod.fst:=by simpa using h
  unfold storeTexts
  split
  · exact ih hrest
  · rw [ih hrest,lookup_insert_ne _ _ (Ne.symm hne)]

variable {chunk:GenerationChunk}

lemma storeTexts_stored{pending:Pending}(hnodup:(texts.map Prod.fst).Nodup)
  (hchunk:pending[n]?=some chunk)(htext:(n,text)∈texts):
  (storeTexts texts pending)[n]?=some { chunk with text:=text }:=by
 induction texts generalizing pending with
 | nil=>cases htext
 | cons entry rest ih=>
  obtain ⟨sequence,first⟩:=entry
  obtain ⟨hfresh,hrest⟩:=nodup_cons.mp hnodup
  unfold storeTexts
  rcases mem_cons.mp htext with heq|hmem
  · obtain ⟨rfl,rfl⟩:=Prod.mk.inj heq
    rw [hchunk]
    simp only
    rw [storeTexts_untouched hfresh,lookup_insert_self]
  · have hne:sequence≠n:=by
     rintro rfl
     exact hfresh (List.mem_map.mpr ⟨_,hmem,rfl⟩)
    split
    · exact ih hrest hchunk hmem
    · exact ih hrest ((lookup_insert_ne _ _ hne).trans hchunk) hmem

variable {decision:OutputPolicyDecision}

lemma applyRedactions_text{redacted:OutputDeliveryGate}(hdisposition:decision.disposition=.redact)
  (h:g.applyRedactions decision=.ok redacted)(hchunk:g.pending[n]?=some chunk):
  ∃text,redactText (fromTheRight (decision.redactionsFor n)) chunk.text=.ok text ∧
   redacted.pending[n]?=some { chunk with text:=text }:=by
 unfold applyRedactions at h
 split at h
 · obtain ⟨groups,hgroups,h⟩:=bind_ok.mp h
   obtain ⟨texts,htexts,h⟩:=bind_ok.mp h
   cases h
   have hgroup:=groupRedactions_ok hgroups n
   obtain ⟨hkeys,hentries⟩:=redactedTexts_ok htexts
   have hnodup:(texts.map Prod.fst).Nodup:=hkeys▸nodup_keys_toList groups
   cases hget:groups[n]? with
   | none=>
    have hempty:decision.redactionsFor n=[]:=by
     rw [hget] at hgroup
     exact hgroup.symm.trans (by simp)
    have huntouched:n∉texts.map Prod.fst:=by
     rw [hkeys]
     intro hmem
     obtain ⟨⟨m,redactions⟩,hentry,rfl⟩:=List.mem_map.mp hmem
     rw [mem_toList_iff_getElem?_eq_some,hget] at hentry
     cases hentry
    refine ⟨chunk.text,?_,?_⟩
    · rw [hempty,fromTheRight,mergeSort_nil]
      rfl
    · exact (storeTexts_untouched huntouched).trans hchunk
   | some redactions=>
    have hredactions:redactions=decision.redactionsFor n:=by
     rw [hget] at hgroup
     exact hgroup.trans (by simp [OutputPolicyDecision.redactionsFor])
    obtain ⟨pendingChunk,text,hpending,htext,hmem⟩:=hentries n redactions
     (mem_toList_iff_getElem?_eq_some.mpr hget)
    obtain rfl:=Option.some.inj (hpending.symm.trans hchunk)
    exact ⟨text,hredactions▸htext,storeTexts_stored hnodup hchunk hmem⟩
 · next hnone=>
   cases h
   have hempty:decision.redactions=[]:=by
    by_contra hne
    exact hnone ⟨hdisposition,hne⟩
   refine ⟨chunk.text,?_,hchunk⟩
   rw [OutputPolicyDecision.redactionsFor,hempty,filter_nil,fromTheRight,mergeSort_nil]
   rfl

def Ends (after:OutputDeliveryGate) (handed:List GenerationChunk) (n:ℕ)
  (chunk:GenerationChunk) : Prop :=
 after.pending[n]?=some chunk∨chunk∈handed∧chunk.sequence=n

lemma deliver_pending(sequences:List ℕ)(g:OutputDeliveryGate)
  (h:(deliver sequences g).2.pending[n]?=some chunk):g.pending[n]?=some chunk:=by
 induction sequences generalizing g with
 | nil=>exact h
 | cons sequence rest ih=>
  unfold deliver at h
  split at h
  · exact ih g h
  · have herased:=ih _ h
    rw [lookup_erase] at herased
    split at herased
    · cases herased
    · exact herased

lemma mem_deliver(sequences:List ℕ)(g:OutputDeliveryGate)
  (h:chunk∈(deliver sequences g).1):∃n : ℕ,g.pending[n]?=some chunk:=by
 induction sequences generalizing g with
 | nil=>cases h
 | cons sequence rest ih=>
  unfold deliver at h
  split at h
  · exact ih g h
  · next first hfirst=>
    rcases mem_cons.mp h with rfl|h
    · exact ⟨sequence,hfirst⟩
    · obtain ⟨n,hn⟩:=ih _ h
      rw [lookup_erase] at hn
      split at hn
      · cases hn
      · exact ⟨n,hn⟩

lemma deliver_keeps(sequences:List ℕ)(g:OutputDeliveryGate)(h:g.pending[n]?=some chunk):
  (deliver sequences g).2.pending[n]?=some chunk∨chunk∈(deliver sequences g).1:=by
 induction sequences generalizing g with
 | nil=>exact .inl h
 | cons sequence rest ih=>
  unfold deliver
  split
  · exact ih g h
  · next first hfirst=>
    by_cases hn:sequence=n
    · subst hn
      obtain rfl:=Option.some.inj (hfirst.symm.trans h)
      exact .inr mem_cons_self
    · have hleft:=ih { g with
       pending:=g.pending.erase sequence
       lastClientDeliveredSequence:=sequence } (by rw [lookup_erase,if_neg hn,h])
      exact hleft.imp_right (mem_cons_of_mem _)

lemma ends_deliver(hg:Ordered g)(sequences:List ℕ)(h:g.pending[n]?=some chunk)
  (c:GenerationChunk):Ends (deliver sequences g).2 (deliver sequences g).1 n c↔c=chunk:=by
 constructor
 · rintro (hpending|⟨hhanded,hsequence⟩)
   · exact Option.some.inj ((deliver_pending sequences g hpending).symm.trans h)
   · obtain ⟨m,hm⟩:=mem_deliver sequences g hhanded
     have hmn:m=n:=(hg.keys m c hm).sequence.symm.trans hsequence
     subst hmn
     exact Option.some.inj (hm.symm.trans h)
 · rintro rfl
   exact (deliver_keeps sequences g h).imp_right fun hhanded=>⟨hhanded,(hg.keys n c h).sequence⟩

lemma ends_unchanged(h:g.pending[n]?=some chunk)(c:GenerationChunk):Ends g [] n c↔c=chunk:=by
 rw [Ends,h,Option.some.injEq,eq_comm,or_iff_left]
 exact fun hmem=>by cases hmem.1

lemma ends_release(hg:Ordered g)(h:g.pending[n]?=some chunk)(c:GenerationChunk):
  Ends g.releaseAfterDecision.2 g.releaseAfterDecision.1 n c↔c=chunk:=by
 have hrelease:∀context,Ends (g.releaseAcceptedOutput context).2
   (g.releaseAcceptedOutput context).1 n c↔c=chunk:=by
  intro context
  unfold releaseAcceptedOutput
  split
  · exact ends_unchanged h c
  · exact ends_deliver hg _ h c
 unfold releaseAfterDecision
 split
 · exact ends_unchanged h c
 · exact hrelease _
 · exact hrelease _

lemma storeReplacements_other{chunks:List GenerationChunk}{accepted accepted':Option ℕ}
  {stored:OutputDeliveryGate}(hother:∀c∈chunks,c.sequence≠n)
  (h:storeReplacements chunks accepted g=(.ok accepted',stored)):
  stored.pending[n]?=g.pending[n]?:=by
 induction chunks generalizing g accepted with
 | nil=>
  cases h
  rfl
 | cons chunk rest ih=>
  have hrest:∀c∈rest,c.sequence≠n:=fun c hc=>hother c (mem_cons_of_mem _ hc)
  unfold storeReplacements at h
  split at h
  · cases h
  · split at h
    · cases h
    · split at h
      · rw [ih hrest h,lookup_insert_ne _ _ (hother chunk mem_cons_self)]
      · exact ih hrest h

lemma dropReplaced_redact(hdisposition:decision.disposition=.redact):g.dropReplaced decision=g:=by
 unfold dropReplaced
 rw [hdisposition]

lemma acceptThrough_pending(g:OutputDeliveryGate)(accepted:Option ℕ):
  (g.acceptThrough accepted).pending=g.pending:=by
 cases accepted <;>rfl

lemma applyDecision_redacted(hg:Ordered g){occurredAt:ℕ}{update:OutputGateUpdate}
  {after:OutputDeliveryGate}(hdisposition:decision.disposition=.redact)
  (hchunk:g.pending[n]?=some chunk)(hother:∀c∈decision.replacementChunks,c.sequence≠n)
  (h:g.applyDecision decision occurredAt=(.ok update,after)):
  ∃text,redactText (fromTheRight (decision.redactionsFor n)) chunk.text=.ok text ∧
   ∀c,Ends after update.deliverable n c↔c = { chunk with text:=text }:=by
 unfold applyDecision at h
 split at h
 · cases h
 · next hdecision=>
   rw [hdisposition] at h
   simp only at h
   unfold applyRewrite at h
   split at h
   · next hnothing=>
     cases h
     refine ⟨chunk.text,?_,ends_unchanged hchunk⟩
     rw [OutputPolicyDecision.redactionsFor,hnothing.2.2,filter_nil,fromTheRight,mergeSort_nil]
     rfl
   · split at h
     · cases h
     · next redacted hchecks=>
       unfold rewriteChecks at hchecks
       obtain ⟨_,haccepted,hchecks⟩:=bind_ok.mp hchecks
       obtain ⟨_,hrange,hredacted⟩:=bind_ok.mp hchecks
       obtain ⟨text,htext,hpending⟩:=applyRedactions_text hdisposition hredacted hchunk
       obtain ⟨pending,hsame,rfl⟩:=applyRedactions_ok hredacted
       rw [dropReplaced_redact hdisposition] at h
       obtain ⟨accepted',stored,hstore,hordered,hbound⟩:=storeReplacements_total
        (g:={ g with pending:=pending })
        ((checkReplacements_ok hrange).congr ⟨rfl,rfl,rfl,rfl⟩ rfl)
        (hg.withPending hsame) (decisionChecks_ok hdecision).1 decision.acceptedThroughSequence
        (checkAccepted_ok haccepted)
       rw [hstore] at h
       cases h
       refine ⟨text,htext,ends_release (hordered.acceptThrough hbound) ?_⟩
       rw [acceptThrough_pending,storeReplacements_other hother hstore]
       exact hpending
end

lemma groupRedactions_total{n:ℕ}(groups:ExtTreeMap ℕ (List RedactionInstruction))
  (htargets:∀r∈redactions,redactionSequence r=.ok n)(hgroups:∀(m:ℕ) rs,groups[m]?=some rs→m=n):
  ∃result,groupRedactions redactions groups=.ok result∧∀(m:ℕ) rs,result[m]?=some rs→m=n:=by
 induction redactions generalizing groups with
 | nil=>exact ⟨groups,rfl,hgroups⟩
 | cons r rest ih=>
  obtain ⟨hr,hrest⟩:=forall_mem_cons.mp htargets
  rw [groupRedactions,hr]
  apply ih _ hrest
  intro m rs hrs
  rw [lookup_insert] at hrs
  split at hrs
  · next heq=>exact heq.symm
  · exact hgroups m rs hrs

lemma redactedTexts_total{g:OutputDeliveryGate}(h:∀entry∈entries,entry.1≤g.lastGeneratedSequence ∧
   g.lastClientDeliveredSequence<entry.1∧∃chunk text,g.pending[entry.1]?=some chunk ∧
    redactText (fromTheRight entry.2) chunk.text=.ok text):
  ∃texts,g.redactedTexts entries=.ok texts:=by
 induction entries with
 | nil=>exact ⟨[],rfl⟩
 | cons entry rest ih=>
  obtain ⟨n,redactions⟩:=entry
  obtain ⟨⟨hgenerated,hdelivered,chunk,text,hchunk,htext⟩,hrest⟩:=forall_mem_cons.mp h
  obtain ⟨texts,htexts⟩:=ih hrest
  refine ⟨(n,text)::texts,?_⟩
  change redactText (redactions.mergeSort fun a b=>decide (b.start≤a.start)) chunk.text=_
   at htext
  rw [redactedTexts,decide_eq_true hgenerated,decide_eq_true hdelivered,hchunk]
  simp only
  rw [htext,htexts]
  rfl

lemma applyDecision_redacts{g:OutputDeliveryGate}{decision:OutputPolicyDecision}
  {occurredAt n:ℕ}{chunk:GenerationChunk}(hchecks:g.decisionChecks decision occurredAt=.ok ())
  (hdisposition:decision.disposition=.redact)(hreplacements:decision.replacementChunks=[])
  (haccepted:∀m,decision.acceptedThroughSequence=some m→m≤g.lastGeneratedSequence)
  (htargets:∀r∈decision.redactions,redactionSequence r=.ok n)(hchunk:g.pending[n]?=some chunk)
  (hgenerated:n≤g.lastGeneratedSequence)(hdelivered:g.lastClientDeliveredSequence<n)
  (htext:redactText (fromTheRight decision.redactions) chunk.text=.ok text):
  ∃update after,g.applyDecision decision occurredAt=(.ok update,after):=by
 have hrewrite:∃update after,g.applyRewrite decision=(.ok update,after):=by
  unfold applyRewrite
  split
  · exact ⟨_,_,rfl⟩
  · next hsome=>
    have hredactions:decision.redactions≠[]:=fun h=>hsome ⟨hdisposition,hreplacements,h⟩
    obtain ⟨groups,hgroups,hkeys⟩:=groupRedactions_total ∅ htargets
     (fun m rs hrs=>by simp at hrs)
    obtain ⟨texts,htexts⟩:∃texts,g.redactedTexts groups.toList=.ok texts:=by
     apply redactedTexts_total
     rintro ⟨m,redactions⟩ hentry
     rw [mem_toList_iff_getElem?_eq_some] at hentry
     obtain rfl:=hkeys m redactions hentry
     have hall:redactions=decision.redactions:=by
      have hgroup:=groupRedactions_ok hgroups m
      rw [hentry] at hgroup
      refine hgroup.trans ?_
      rw [ExtTreeMap.getElem?_empty,Option.getD_none,nil_append,filter_eq_self]
      intro r hr
      rw [targets,htargets r hr]
      exact beq_self_eq_true m
     exact ⟨hgenerated,hdelivered,chunk,text,hchunk,hall▸htext⟩
    have happly:g.applyRedactions decision=.ok { g with pending:=storeTexts texts g.pending }:=by
     rw [applyRedactions,if_pos ⟨hdisposition,hredactions⟩,hgroups,ok_bind,htexts]
     rfl
    have hbound:g.checkAccepted decision.acceptedThroughSequence=.ok ():=by
     cases hthrough:decision.acceptedThroughSequence with
     | none=>rfl
     | some m=>exact ensure_ok.mpr (decide_eq_true (haccepted m hthrough))
    have hall:g.rewriteChecks decision=.ok { g with pending:=storeTexts texts g.pending }:=by
     rw [rewriteChecks,hbound,ok_bind,checkReplacementRange,hreplacements,happly]
     rfl
    rw [hall,hreplacements]
    exact ⟨_,_,rfl⟩
 rw [applyDecision,hchecks,hdisposition]
 exact hrewrite

def DisjointRanges (redactions:List RedactionInstruction) : Prop :=
 redactions.Pairwise fun a b=>a.stop≤b.start∨b.stop≤a.start

lemma ensureAll_iff{α:Type}{check:α→Bool}{error:α→OutputGateError}{l:List α}
  {u:Unit}:ensureAll check error l=.ok u ↔ ∀a∈l,check a=true:=by
 refine ⟨fun h=>?_,ensureAll_ok⟩
 induction l with
 | nil=>exact fun a ha=>by cases ha
 | cons a rest ih=>
  unfold ensureAll at h
  split at h
  · next ha=>exact forall_mem_cons.mpr ⟨ha,ih h⟩
  · cases h

lemma validate_redactions{decision:OutputPolicyDecision}{u:Unit}
  (h:decision.validate=.ok u):∀r∈decision.redactions,r.start<r.stop:=by
 unfold OutputPolicyDecision.validate at h
 iterate 8 obtain ⟨-,-,h⟩:=bind_ok.mp h
 obtain ⟨_,hranges,-⟩:=bind_ok.mp h
 intro r hr
 have hrange:=ensureAll_iff.mp hranges r hr
 rw [Bool.and_eq_true] at hrange
 exact of_decide_eq_true hrange.2

lemma redactionEdits_apart(hranges:∀r∈redactions,r.start<r.stop)(h:DisjointRanges redactions):
  Apart (redactionEdits redactions):=by
 have hperm:(fromTheRight redactions).reverse.Perm redactions:=
  (reverse_perm _).trans (mergeSort_perm _ _)
 have hdisjoint:(fromTheRight redactions).reverse.Pairwise fun a b=>
   a.stop≤b.start∨b.stop≤a.start:=by
  rw [hperm.pairwise_iff fun hab=>hab.symm]
  exact h
 have hascending:=redactionEdits_ascending redactions
 unfold Ascending redactionEdits at hascending
 rw [pairwise_map] at hascending
 unfold Apart redactionEdits
 rw [pairwise_map]
 refine (hdisjoint.and hascending).imp_of_mem fun {a b} _ hb hab=>?_
 have hlt:=hranges b (hperm.subset hb)
 rcases hab.1 with hstop|hstop
 · exact hstop
 · have hle:a.start≤b.start:=hab.2
   exact absurd hlt (by omega)

/-- A redaction keeps exactly the characters outside of its ranges, and replaces ranges that
are apart one by one, if and only if each character that lies outside of the ranges, and no
other, stays on the right of the ranges it is moved along with. Disjoint ranges are so. -/
theorem redaction_leaks_nothing_iff {g after : OutputDeliveryGate} (hg : Reachable g)
  {decision : OutputPolicyDecision} {occurredAt n : ℕ} {chunk : GenerationChunk}
  {update : OutputGateUpdate}
  (hdisposition : decision.disposition=.redact) (hchunk : g.pending[n]?=some chunk)
  (hother : ∀c∈decision.replacementChunks,c.sequence≠n)
  (h : g.applyDecision decision occurredAt=(.ok update,after)) {edits : List (Edit Char)}
  (hedits : edits=redactionEdits (decision.redactionsFor n)) :
  ∃result,(∀c,Ends after update.deliverable n c↔c=result) ∧
   result.text.toList=(traced edits chunk.text.toList).map Prod.fst ∧
   (((∀p∈copied edits chunk.text.toList,outside edits p=true) ∧
     ((List.range chunk.text.length).filter (outside edits)).Sublist
      (copied edits chunk.text.toList) ∧
     (DisjointRanges (decision.redactionsFor n) →
      result.text.toList=replacing chunk.text.toList 0 edits)) ↔
    ∀p<chunk.text.length,(outside edits p=true↔Survives edits p)) ∧
   (DisjointRanges (decision.redactionsFor n) →
    ∀p<chunk.text.length,(outside edits p=true↔Survives edits p)) := by
 obtain ⟨text,htext,hends⟩:=applyDecision_redacted hg.ordered hdisposition hchunk hother h
 have hsorted:Ascending edits:=hedits▸redactionEdits_ascending _
 obtain ⟨hfits,hresult⟩:Fits edits chunk.text.toList ∧
   text.toList=applyEdits edits chunk.text.toList:=by
  rw [hedits]
  exact redactText_ok.mp htext
 have hvalid:decision.validate=.ok ():=by
  unfold applyDecision at h
  split at h
  · cases h
  · next hchecks=>exact (decisionChecks_ok hchecks).2
 have hranges:∀r∈decision.redactionsFor n,r.start<r.stop:=
  fun r hr=>validate_redactions hvalid r (List.mem_of_mem_filter hr)
 have hapart:DisjointRanges (decision.redactionsFor n)→Apart edits:=
  fun hdisjoint=>hedits▸redactionEdits_apart hranges hdisjoint
 have hkept:=copied_outside_iff hsorted hfits
 rw [String.length_toList] at hkept
 refine ⟨{ chunk with text:=text },hends,?_,?_,?_⟩
 · rw [traced_fst]
   exact hresult
 · rw [←hkept,←and_assoc]
   refine and_iff_left fun hdisjoint=>hresult.trans ?_
   exact applyEdits_eq_replacing (hapart hdisjoint) (ranges_of_fits (hapart hdisjoint) hfits)
 · intro hdisjoint p _
   have hin:=ranges_of_fits (hapart hdisjoint) hfits
   exact (survives_iff_outside (hapart hdisjoint) (fun e he=>(hin e he).1) p).symm

def secretChunk : GenerationChunk := ⟨"stream-1","response-1",1,"secret"⟩

def secretGate : OutputDeliveryGate :=
 (step (new "stream-1" "response-1") (.recordChunk secretChunk)).2

def redactionOf (redactions:List RedactionInstruction) : OutputPolicyDecision :=
 { plainDecision .redact none with redactions:=redactions }

def wholeRange : RedactionInstruction := ⟨"/chunks/1/text",0,6,""⟩

def innerRange : RedactionInstruction := ⟨"/chunks/1/text",1,2,"XXXX"⟩

def headRange : RedactionInstruction := ⟨"/chunks/1/text", 0, 2, ""⟩

def tailRange : RedactionInstruction := ⟨"/chunks/1/text", 4, 6, "**"⟩

theorem two_ranges_are_removed : ∃ update after,
  secretGate.applyDecision (redactionOf [headRange, tailRange]) 1 = (.ok update, after) ∧
   ∀ p < 6, outside (redactionEdits [headRange, tailRange]) p = true ↔
    Survives (redactionEdits [headRange, tailRange]) p := by
 have hreachable:Reachable secretGate:=.call (.new _ _) _
 have hsorted:fromTheRight [headRange,tailRange]=[tailRange,headRange]:=by
  simp [fromTheRight,mergeSort,headRange,tailRange]
 have htext:redactText (fromTheRight (redactionOf [headRange,tailRange]).redactions)
   secretChunk.text = .ok "cr**" := by
  change redactText (fromTheRight [headRange,tailRange]) "secret" = .ok "cr**"
  rw [hsorted]
  rfl
 obtain ⟨update,after,happly⟩:∃update after,
   secretGate.applyDecision (redactionOf [headRange,tailRange]) 1=(.ok update,after):=
  applyDecision_redacts (by rfl) (by rfl) (by rfl) (fun _ h=>by cases h)
   (forall_mem_cons.mpr ⟨by rfl,forall_mem_singleton.mpr (by rfl)⟩) (by rfl)
   (by decide) (by decide) htext
 obtain ⟨-,-,-,-,hdisjoint⟩:=redaction_leaks_nothing_iff hreachable (by rfl)
  (by rfl:secretGate.pending[1]?=some secretChunk) (fun _ h=>by cases h) happly rfl
 exact ⟨_,_,happly,hdisjoint (pairwise_pair.mpr (.inl (by decide)))⟩

/-- The longer text put in the inner range pushes the end of the secret out of the outer one. -/
theorem nested_range_leaks : Reachable secretGate∧secretGate.pending[1]?=some secretChunk ∧
  copied (redactionEdits ((redactionOf [innerRange,wholeRange]).redactionsFor 1))
   secretChunk.text.toList=[3,4,5] ∧
  ∃update after,secretGate.applyDecision (redactionOf [innerRange,wholeRange]) 1 =
    (.ok update,after) ∧
   ∀c,Ends after update.deliverable 1 c↔c = { secretChunk with text := "ret" } := by
 have hreachable:Reachable secretGate:=.call (.new _ _) _
 have hsorted:fromTheRight [innerRange,wholeRange]=[innerRange,wholeRange]:=by
  apply mergeSort_of_pairwise
  decide
 have htext:redactText (fromTheRight [innerRange,wholeRange]) secretChunk.text = .ok "ret" := by
  rw [hsorted]
  rfl
 obtain ⟨update,after,happly⟩:∃update after,
   secretGate.applyDecision (redactionOf [innerRange,wholeRange]) 1=(.ok update,after):=
  applyDecision_redacts (by rfl) (by rfl) (by rfl) (fun _ h=>by cases h)
   (forall_mem_cons.mpr ⟨by rfl,forall_mem_singleton.mpr (by rfl)⟩) (by rfl)
   (by decide) (by decide) htext
 obtain ⟨text,hredacted,hends⟩:=applyDecision_redacted hreachable.ordered (by rfl)
  (by rfl:secretGate.pending[1]?=some secretChunk) (fun _ h=>by cases h) happly
 have hsame:redactText (fromTheRight [innerRange,wholeRange]) secretChunk.text=.ok text:=hredacted
 obtain rfl : "ret" = text:=Except.ok.inj (htext.symm.trans hsame)
 refine ⟨hreachable,by rfl,?_,update,after,happly,hends⟩
 change copied ((fromTheRight [innerRange,wholeRange]).reverse.map RedactionInstruction.edit)
  "secret".toList=_
 rw [hsorted]
 rfl

end GraphBlocks.OutputPolicy
