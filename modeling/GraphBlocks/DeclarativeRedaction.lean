import GraphBlocks.DeclarativeOutputPolicy
import GraphBlocks.SerdeInstance

namespace GraphBlocks.OutputPolicy
open Json CanonicalJson RustStd LiteralSearch StoredJson OutputDeliveryGate RangeEdits List Option

section
variable {α:Type} {le:α→α→Bool}

/-- A stable sort finds first the element that none of the earlier ones is before or level
with, and that is before or level with the later ones. -/
lemma find?_mergeSort(trans:∀a b c,le a b=true→le b c=true→le a c=true)
  (total:∀a b,(le a b||le b a)=true){P:α→Bool}{front back:List α}{a:α}(ha:P a=true)
  (hfront:∀b∈front,P b=true→le b a=false)(hback:∀b∈back,P b=true→le a b=true):
  ((front++a::back).mergeSort le).find? P=some a:=by
 induction front with
 | nil=>
  obtain ⟨before,after,hsorted,hrest,hbefore⟩:=mergeSort_cons trans total a back
  have hnone:before.find? P=none:=by
   rw [List.find?_eq_none]
   intro b hb hP
   have hmem:b∈back:=by
    have hsortedMem:b∈back.mergeSort le:=hrest▸mem_append_left _ hb
    exact mem_mergeSort.mp hsortedMem
   have hnot:=hbefore b hb
   rw [hback b hmem hP] at hnot
   cases hnot
  rw [nil_append,hsorted,List.find?_append,hnone,none_or,List.find?_cons_of_pos ha]
 | cons b front ih=>
  obtain ⟨hb,hrest⟩:=forall_mem_cons.mp hfront
  have hfound:=ih hrest
  obtain ⟨before,after,hsorted,hothers,-⟩:=mergeSort_cons trans total b (front++a::back)
  rw [cons_append,hsorted,List.find?_append]
  rw [hothers,List.find?_append] at hfound
  cases hbefore:before.find? P with
  | some c=>rwa [hbefore] at hfound
  | none=>
   rw [hbefore,none_or] at hfound
   rw [none_or]
   by_cases hP:P b=true
   · have hpairwise:=pairwise_mergeSort trans total (b::(front++a::back))
     rw [hsorted] at hpairwise
     have hafter:=(pairwise_cons.mp (pairwise_append.mp hpairwise).2.1).1 a
      (mem_of_find?_eq_some hfound)
     rw [hb hP] at hafter
     cases hafter
   · rw [List.find?_cons_of_neg hP]
     exact hfound
end

lemma decidesBefore_iff(a b:DeclarativeOutputPolicyRule):decidesBefore a b=true ↔
   b.priority<a.priority∨a.priority=b.priority∧a.ruleId≤b.ruleId:=by
 simp [decidesBefore]

lemma decidesBefore_trans(a b c:DeclarativeOutputPolicyRule)(hab:decidesBefore a b=true)
  (hbc:decidesBefore b c=true):decidesBefore a c=true:=by
 rw [decidesBefore_iff] at hab hbc ⊢
 rcases hab with hab|⟨hab,hid⟩
 · rcases hbc with hbc|⟨hbc,-⟩
   · exact .inl (hbc.trans hab)
   · exact .inl (hbc▸hab)
 · rcases hbc with hbc|⟨hbc,hid'⟩
   · exact .inl (hab▸hbc)
   · exact .inr ⟨hab.trans hbc,String.le_trans hid hid'⟩

lemma decidesBefore_total(a b:DeclarativeOutputPolicyRule):
  (decidesBefore a b||decidesBefore b a)=true:=by
 rw [Bool.or_eq_true,decidesBefore_iff,decidesBefore_iff]
 rcases Int.lt_trichotomy a.priority b.priority with h|h|h
 · exact .inr (.inl h)
 · rcases String.le_total a.ruleId b.ruleId with hid|hid
   · exact .inl (.inr ⟨h,hid⟩)
   · exact .inr (.inr ⟨h.symm,hid⟩)
 · exact .inl (.inl h)

/-- The rule has the greatest priority, then the least id, then the first place, among the
rules whose literal occurs in the chunk. -/
def Wins (rules:List DeclarativeOutputPolicyRule) (chunk:GenerationChunk)
  (rule:DeclarativeOutputPolicyRule) : Prop :=
 ∃front back,rules=front++rule::back∧containsLiteral chunk rule=true ∧
  (∀other∈front,containsLiteral chunk other=true→decidesBefore other rule=false) ∧
  (∀other∈back,containsLiteral chunk other=true→decidesBefore rule other=true)

variable {rules:List DeclarativeOutputPolicyRule} {rule:DeclarativeOutputPolicyRule}

lemma find?_winner{chunk:GenerationChunk}(h:Wins rules chunk rule):
  (rules.mergeSort decidesBefore).find? (containsLiteral chunk)=some rule:=by
 obtain ⟨front,back,rfl,hrule,hfront,hback⟩:=h
 exact find?_mergeSort decidesBefore_trans decidesBefore_total hrule hfront hback

section
variable {path replacement:String} {literal text:List Char}

lemma redactionsLoop_take(hliteral:literal≠[])(i:ℕ)(hi:i≤text.length):
  redactionsLoop path replacement literal text (byteLength (text.take i)) =
   (firstAt literal (text.drop i)).elim [] fun k=>
    ⟨path,i+k,i+k+literal.length,replacement⟩::redactionsLoop path replacement literal text
      (byteLength (text.take (i+k+literal.length))):=by
 rw [redactionsLoop,dif_neg hliteral]
 have hslice:dropWidth Char.utf8Size (byteLength (text.take i)) text=text.drop i:=
  dropWidth_take utf8Size_pos text i
 cases hfirst:firstAt literal (text.drop i) with
 | none=>
  have hnone:find Char.utf8Size literal
    (dropWidth Char.utf8Size (byteLength (text.take i)) text)=none:=by
   rw [hslice,find_eq,hfirst]
   rfl
  split
  · rfl
  · next offset hoffset=>
    rw [hnone] at hoffset
    cases hoffset
 | some k=>
  have hsome:find Char.utf8Size literal
    (dropWidth Char.utf8Size (byteLength (text.take i)) text) =
     some (byteLength ((text.drop i).take k)):=by
   rw [hslice,find_eq,hfirst]
   rfl
  have hlength:=firstAt_le hliteral hfirst
  rw [length_drop] at hlength
  have hstart:byteLength (text.take i)+byteLength ((text.drop i).take k) =
    byteLength (text.take (i+k)):=by
   rw [take_add,byteLength,byteLength,byteLength,width_append]
  have hstop:byteLength (text.take (i+k))+byteLength literal =
    byteLength (text.take (i+k+literal.length)):=by
   have hfound:=prefix_iff_eq_take.mp (firstAt_starts hfirst)
   rw [drop_drop] at hfound
   have hcut:text.take (i+k+literal.length)=text.take (i+k)++literal:=by rw [take_add,←hfound]
   rw [hcut,byteLength,byteLength,byteLength,width_append]
  have hchars:(takeWidth Char.utf8Size (byteLength (text.take (i+k))) text).length=i+k:=by
   have htake:takeWidth Char.utf8Size (byteLength (text.take (i+k))) text =
     text.take (i+k):=takeWidth_take utf8Size_pos text (i+k)
   rw [htake,length_take]
   omega
  split
  · next hnone=>
    rw [hsome] at hnone
    cases hnone
  · next offset hoffset=>
    rw [hsome] at hoffset
    obtain rfl:=some.inj hoffset
    simp only [elim_some,hstart,hchars,hstop]

/-- The ranges of the search are inside the text, in order and apart, and replacing them
replaces the occurrences of the literal. -/
structure Replaces (path replacement:String) (literal text:List Char) (i:ℕ)
  (redactions:List RedactionInstruction) : Prop where
 paths:∀r∈redactions,r.path=path
 ranges:∀r∈redactions,i≤r.start∧r.start<r.stop∧r.stop≤text.length
 apart:redactions.Pairwise fun a b=>a.stop≤b.start
 replaced:replacing text i (redactions.map RedactionInstruction.edit) =
  replaceLiteral literal replacement.toList (text.drop i)

lemma redactionsLoop_replaces(hliteral:literal≠[]){i:ℕ}(hi:i≤text.length):
  Replaces path replacement literal text i
   (redactionsLoop path replacement literal text (byteLength (text.take i))):=by
 obtain ⟨n,hn⟩:∃n,n=text.length-i:=⟨_,rfl⟩
 have hpos:=length_pos_of_ne_nil hliteral
 induction n using Nat.strong_induction_on generalizing i with
 | _ n ih=>
  rw [redactionsLoop_take hliteral i hi]
  have hreplace:=replaceLiteral_eq hliteral replacement.toList (text.drop i)
  cases hfirst:firstAt literal (text.drop i) with
  | none=>
   rw [hfirst] at hreplace
   refine ⟨by simp,by simp,List.Pairwise.nil,?_⟩
   rw [hreplace]
   rfl
  | some k=>
   rw [hfirst,elim_some,drop_drop] at hreplace
   have hlength:=firstAt_le hliteral hfirst
   rw [length_drop] at hlength
   have hrest:=ih (text.length-(i+k+literal.length)) (by omega)
    (i:=i+k+literal.length) (by omega) rfl
   rw [elim_some]
   constructor
   · exact forall_mem_cons.mpr ⟨rfl,hrest.paths⟩
   · refine forall_mem_cons.mpr ⟨by simp only;omega,fun r hr=>?_⟩
     have hrange:=hrest.ranges r hr
     omega
   · exact pairwise_cons.mpr ⟨fun r hr=>(hrest.ranges r hr).1,hrest.apart⟩
   · rw [hreplace,map_cons,replacing]
     change (text.take (i+k)).drop i++replacement.toList ++replacing text (i+k+literal.length) _=_
     rw [hrest.replaced,drop_take,Nat.add_sub_cancel_left,Nat.add_assoc i]
end

variable {redactions:List RedactionInstruction}

lemma redactionEdits_ordered(hranges:∀r∈redactions,r.start<r.stop)
  (hapart:redactions.Pairwise fun a b=>a.stop≤b.start):
  redactionEdits redactions=redactions.map RedactionInstruction.edit:=by
 have hdisjoint:DisjointRanges redactions:=hapart.imp .inl
 have hedits:=redactionEdits_apart hranges hdisjoint
 unfold redactionEdits
 congr 1
 have hperm:(fromTheRight redactions).reverse.Perm redactions:=
  (reverse_perm _).trans (mergeSort_perm _ _)
 unfold Apart redactionEdits at hedits
 rw [pairwise_map] at hedits
 refine hperm.eq_of_pairwise (fun a b ha hb hab hba=>?_) hedits hapart
 have ha':=hranges a (hperm.subset ha)
 have hb':=hranges b hb
 change a.stop≤b.start at hab
 change b.stop≤a.start at hba
 omega

lemma intToken_natCast(n:ℕ):intToken n=Nat.toDigits 10 n:=by
 have hpos:¬(n:ℤ)<0:=by omega
 rw [intToken,if_neg hpos,nil_append,Int.natAbs_natCast]

lemma plainDigits(n:ℕ):(!(intToken n).isEmpty&&(intToken n).all Char.isDigit &&
  (intToken n==['0']||(intToken n).head? != some '0'))=true:=by
 rw [intToken_natCast,Bool.and_eq_true,Bool.and_eq_true]
 refine ⟨⟨?_,?_⟩,?_⟩
 · simp
 · exact List.all_eq_true.mpr (DigitStrings.isDigits_toDigits n)
 · rcases Nat.eq_zero_or_pos n with rfl|hpos
   · rfl
   · rw [Bool.or_eq_true]
     exact .inr (by simpa using DigitStrings.head_toDigits_ne_zero hpos)

lemma redactionPath_toList(n:ℕ):
  (redactionPath n).toList="/chunks/".toList++(intToken n++"/text".toList):=by
 have hlist:(redactionPath n).toList="/chunks/".toList++intToken n++"/text".toList:=
  String.toList_ofList
 rw [hlist]
 exact append_assoc _ _ _

lemma redactionSequence_path{r:RedactionInstruction}{n:ℕ}(hn:n<u64Limit)
  (hpath:r.path=redactionPath n):redactionSequence r=.ok n:=by
 have hchars:r.path.toList="/chunks/".toList++(intToken n++"/text".toList):=by
  rw [hpath]
  exact redactionPath_toList n
 have hfront:r.path.toList.dropPrefix? "/chunks/".toList=some (intToken n++"/text".toList):=
  List.dropPrefix?_eq_some_iff.mpr ⟨"/chunks/".toList,hchars,beq_self_eq_true _⟩
 have hback:(intToken n++"/text".toList).dropSuffix? "/text".toList=some (intToken n):=
  List.dropSuffix?_eq_some_iff.mpr ⟨"/text".toList,rfl,beq_self_eq_true _⟩
 have hensured:ensure (!(intToken n).isEmpty&&(intToken n).all Char.isDigit &&
   (intToken n==['0']||(intToken n).head? != some '0'))
   (OutputGateError.invalidRedactionInstruction r.path)=.ok ():=
  ensure_ok.mpr (plainDigits n)
 unfold redactionSequence
 simp only [hfront,hback,hensured,ok_bind,parseU64_intToken hn]

variable {sha256:List Char→String}

lemma hashed_ok{d:StringDisplay}{value:Value}
  {text:String}(h:hashed d sha256 value=.ok text):∃hex,text="sha256:"++hex:=by
 unfold hashed Tools.canonicalHash at h
 obtain ⟨json,-,h⟩:=bind_ok.mp (Tools.mapError_ok.mp h)
 exact ⟨sha256 json,(Except.ok.inj h).symm⟩

lemma isBlank_append_of_head{head tail:String}{c:Char}(hmem:c∈head.toList)
  (hc:isWhitespace c=false):isBlank (head++tail)=false:=by
 apply isBlank_eq_false_of_mem _ c _ hc
 rw [String.toList_append]
 exact mem_append_left _ hmem

lemma ensureTexts_ok{error:String→DeclarativeOutputPolicyRuleError}{texts:List String}
  {u:Unit}(h:DeclarativeOutputPolicyRule.ensureTexts error texts=.ok u):
  ∀text∈texts,(!isBlank text)=true:=by
 induction texts with
 | nil=>exact fun _ h=>by cases h
 | cons text texts ih=>
  obtain ⟨_,htext,h⟩:=bind_ok.mp h
  exact forall_mem_cons.mpr ⟨ensure_ok.mp htext,ih h⟩

lemma validateRules_ok{u:Unit}(h:validateRules rules=.ok u):∀rule∈rules,rule.validate=.ok ():=by
 induction rules with
 | nil=>exact fun _ h=>by cases h
 | cons rule rules ih=>
  obtain ⟨_,hrule,h⟩:=bind_ok.mp h
  exact forall_mem_cons.mpr ⟨hrule,ih h⟩

lemma validate_redact_rule(h:rule.validate=.ok ())(hredact:rule.disposition=.redact):
  rule.literal.toList≠[]∧(∃replacement,rule.replacement=some replacement) ∧
   (∀code∈rule.reasonCodes,(!isBlank code)=true) ∧
   ∀ref∈rule.effectivePolicyRefs,(!isBlank ref)=true:=by
 unfold DeclarativeOutputPolicyRule.validate at h
 obtain ⟨_,hid,h⟩:=bind_ok.mp h
 obtain ⟨_,hliteral,h⟩:=bind_ok.mp h
 obtain ⟨_,hreplacement,h⟩:=bind_ok.mp h
 obtain ⟨_,hcodes,hrefs⟩:=bind_ok.mp h
 refine ⟨?_,?_,ensureTexts_ok hcodes,?_⟩
 · intro hempty
   have hne:=ensure_ok.mp hliteral
   rw [String.toList_eq_nil_iff.mp hempty] at hne
   cases hne
 · have hsome:=ensure_ok.mp hreplacement
   rw [hredact] at hsome
   cases hvalue:rule.replacement with
   | none=>rw [hvalue] at hsome;cases hsome
   | some replacement=>exact ⟨replacement,rfl⟩
 · unfold DeclarativeOutputPolicyRule.effectivePolicyRefs
   split
   · exact forall_mem_singleton.mpr (ensure_ok.mp hid)
   · exact ensureTexts_ok hrefs

variable {decision:OutputPolicyDecision}

lemma evaluateChunk_redact{d:StringDisplay}{chunk:GenerationChunk}{evaluatedAt:ℕ}
  (hwins:Wins rules chunk rule)(hredact:rule.disposition=.redact)
  (h:evaluateChunk d sha256 rules chunk evaluatedAt=.ok decision):
  evaluatedAt≠0∧rule.validate=.ok ()∧∃idHex digestHex,
   decision = { OutputPolicyDecision.redact ("output-decision:"++("sha256:"++idHex))
    (some chunk.sequence) [] ("sha256:"++digestHex) with
     redactions:=redactionsForRule rule chunk
     reasonCodes:=rule.reasonCodes
     policyRefs:=rule.effectivePolicyRefs
     evaluatedAtUnixMs:=some evaluatedAt }:=by
 unfold evaluateChunk at h
 obtain ⟨_,hevaluated,h⟩:=bind_ok.mp h
 obtain ⟨_,hvalid,h⟩:=bind_ok.mp h
 have hmem:rule∈rules:=by
  obtain ⟨front,back,rfl,-⟩:=hwins
  exact mem_append_right _ mem_cons_self
 unfold evaluateChunkUnchecked at h
 obtain ⟨digest,hdigest,h⟩:=bind_ok.mp h
 rw [find?_winner hwins] at h
 obtain ⟨ruled,hruled,h⟩:=bind_ok.mp h
 unfold decisionForRule at hruled
 obtain ⟨id,hid,hruled⟩:=bind_ok.mp hruled
 unfold decisionId at hid
 obtain ⟨idHash,hidHash,hidText⟩:=bind_ok.mp hid
 obtain ⟨idHex,hidHex⟩:=hashed_ok hidHash
 obtain ⟨digestHex,hdigestHex⟩:=hashed_ok hdigest
 have hidEq:id="output-decision:"++("sha256:"++idHex):=hidHex▸(Except.ok.inj hidText).symm
 have hruledEq:=(Except.ok.inj hruled).symm
 have hdecision:=(Except.ok.inj h).symm
 refine ⟨by simpa using ensure_ok.mp hevaluated,validateRules_ok hvalid rule hmem,idHex,
  digestHex,?_⟩
 rw [hdecision,hruledEq,hredact,hidEq,hdigestHex]

lemma redactionPath_not_blank(n:ℕ):isBlank (redactionPath n)=false:=by
 have hmem : '/' ∈ (redactionPath n).toList:=by
  rw [redactionPath_toList]
  exact mem_append_left _ (by decide)
 exact isBlank_eq_false_of_mem _ '/' hmem (by decide)

lemma validate_redaction{idHex digestHex:String}{sequence evaluatedAt:ℕ}
  {reasonCodes policyRefs:List String}
  (hdecision:decision = { OutputPolicyDecision.redact
   ("output-decision:"++("sha256:"++idHex)) (some sequence) [] ("sha256:"++digestHex) with
    redactions
    reasonCodes
    policyRefs
    evaluatedAtUnixMs:=some evaluatedAt })
  (hsequence:sequence≠0)(hevaluated:evaluatedAt≠0)
  (hranges:∀r∈decision.redactions,r.start<r.stop)
  (hpaths:∀r∈decision.redactions,isBlank r.path=false)
  (hcodes:∀code∈reasonCodes,(!isBlank code)=true)
  (hrefs:∀ref∈policyRefs,(!isBlank ref)=true):decision.validate=.ok ():=by
 subst hdecision
 have hid:isBlank ("output-decision:"++("sha256:"++idHex))=false:=
  isBlank_append_of_head (c := 'o') (by decide) (by decide)
 have hdigest:isBlank ("sha256:"++digestHex)=false:=
  isBlank_append_of_head (c := 's') (by decide) (by decide)
 have hrangesOk:ensureAll (fun r => !isBlank r.path&&decide (r.start<r.stop))
   (fun r=>.invalidRedactionInstruction r.path) redactions=.ok ():=by
  apply ensureAll_ok
  intro r hr
  rw [hpaths r hr,decide_eq_true (hranges r hr)]
  rfl
 have hsome:∀n,n≠0→(some n != some 0)=true:=by
  intro n hn
  simpa using hn
 unfold OutputPolicyDecision.validate
 simp only [OutputPolicyDecision.redact,OutputPolicyDecision.plain,hid,hdigest,
  hsome _ hsequence,hsome _ hevaluated,hrangesOk,ensureAll_ok hcodes,ensureAll_ok hrefs]
 rfl

/-- A pending chunk that a declarative redaction rule wins has the rule's literal replaced by
the rule's replacement, wherever it stands, once the decision is applied. -/
theorem declarative_redaction_replaces {d : StringDisplay} {sha256 : List Char→String}
  {g : OutputDeliveryGate} (hg : Reachable g) {rules : List DeclarativeOutputPolicyRule}
  {chunk : GenerationChunk} {rule : DeclarativeOutputPolicyRule} {decision : OutputPolicyDecision}
  {evaluatedAt occurredAt : ℕ} (hchunk : g.pending[chunk.sequence]?=some chunk)
  (hlimit : chunk.sequence<u64Limit) (hwins : Wins rules chunk rule)
  (hredact : rule.disposition=.redact)
  (hevaluated : evaluateChunk d sha256 rules chunk evaluatedAt=.ok decision)
  (hidentity : g.validateIdentity=.ok ()) (hoccurred : occurredAt≠0)
  (hundelivered : g.lastClientDeliveredSequence<chunk.sequence) :
  ∃update after replacement,rule.replacement=some replacement ∧
   g.applyDecision decision occurredAt=(.ok update,after) ∧
   ∀c,Ends after update.deliverable chunk.sequence c ↔
    c = { chunk with text:=String.ofList (replaceLiteral rule.literal.toList
     replacement.toList chunk.text.toList) } := by
 obtain ⟨hevaluatedAt,hvalid,idHex,digestHex,hdecision⟩:=
  evaluateChunk_redact hwins hredact hevaluated
 obtain ⟨hliteral,⟨replacement,hreplacement⟩,hcodes,hrefs⟩:=validate_redact_rule hvalid hredact
 have hkept:=hg.ordered.keys _ chunk hchunk
 have hloop:Replaces (redactionPath chunk.sequence) replacement rule.literal.toList
   chunk.text.toList 0 (redactionsForRule rule chunk):=by
  rw [redactionsForRule,hreplacement]
  exact redactionsLoop_replaces hliteral (Nat.zero_le _)
 have hredactions:decision.redactions=redactionsForRule rule chunk:=by rw [hdecision]
 have hdisposition:decision.disposition=.redact:=by rw [hdecision];rfl
 have hreplacements:decision.replacementChunks=[]:=by rw [hdecision];rfl
 have htargets:∀r∈decision.redactions,redactionSequence r=.ok chunk.sequence:=
  fun r hr=>redactionSequence_path hlimit (hloop.paths r (hredactions▸hr))
 have hranges:∀r∈decision.redactions,r.start<r.stop:=fun r hr=>(hloop.ranges r (hredactions▸hr)).2.1
 have hpaths:∀r∈decision.redactions,isBlank r.path=false:=by
  intro r hr
  rw [hloop.paths r (hredactions▸hr)]
  exact redactionPath_not_blank chunk.sequence
 have hchecks:g.decisionChecks decision occurredAt=.ok ():=by
  have hvalidDecision:decision.validate=.ok ():=
   validate_redaction hdecision (by omega) hevaluatedAt hranges hpaths hcodes hrefs
  rw [decisionChecks,hidentity,ok_bind,hkept.running,hvalidDecision]
  have hpositive:(occurredAt != 0)=true:=by simpa using hoccurred
  rw [hpositive]
  rfl
 have hedits:redactionEdits decision.redactions=decision.redactions.map RedactionInstruction.edit:=
  redactionEdits_ordered hranges (hredactions▸hloop.apart)
 have hapart:Apart (redactionEdits decision.redactions):=by
  rw [hedits,Apart,pairwise_map,hredactions]
  exact hloop.apart
 have hbounds:∀e∈redactionEdits decision.redactions,
   e.start≤e.stop∧e.stop≤chunk.text.toList.length:=by
  rw [hedits,hredactions]
  intro e he
  obtain ⟨r,hr,rfl⟩:=List.mem_map.mp he
  have hrange:=hloop.ranges r hr
  exact ⟨Nat.le_of_lt hrange.2.1,hrange.2.2⟩
 have hresult:applyEdits (redactionEdits decision.redactions) chunk.text.toList =
   replaceLiteral rule.literal.toList replacement.toList chunk.text.toList:=by
  rw [applyEdits_eq_replacing hapart hbounds,hedits,hredactions]
  exact hloop.replaced
 have htext:redactText (fromTheRight decision.redactions) chunk.text =
   .ok (String.ofList (replaceLiteral rule.literal.toList replacement.toList
    chunk.text.toList)):=by
  rw [redactText_ok,String.toList_ofList]
  exact ⟨fits_of_apart hapart hbounds,hresult.symm⟩
 have haccepted:∀m,decision.acceptedThroughSequence=some m→m≤g.lastGeneratedSequence:=by
  intro m hm
  rw [hdecision] at hm
  obtain rfl:=some.inj hm
  exact hkept.generated
 obtain ⟨update,after,happly⟩:=applyDecision_redacts hchecks hdisposition hreplacements
  haccepted htargets hchunk hkept.generated hundelivered htext
 refine ⟨update,after,replacement,hreplacement,happly,?_⟩
 obtain ⟨text,hredacted,hends⟩:=applyDecision_redacted hg.ordered hdisposition hchunk
  (by rw [hreplacements];exact fun _ h=>by cases h) happly
 have hfor:decision.redactionsFor chunk.sequence=decision.redactions:=by
  rw [OutputPolicyDecision.redactionsFor,filter_eq_self]
  intro r hr
  rw [targets,htargets r hr]
  exact beq_self_eq_true _
 rw [hfor,htext] at hredacted
 rw [←Except.ok.inj hredacted] at hends
 exact hends

def secretRule : DeclarativeOutputPolicyRule where
 ruleId := "secrets"
 literal := "cr"
 disposition:=.redact
 replacement:=some "*"
 reasonCodes:=[]
 policyRefs:=[]
 priority:=0

lemma secretRule_wins:Wins [secretRule] secretChunk secretRule:=by
 refine ⟨[],[],rfl,by decide,?_,?_⟩
 · exact fun _ h=>by cases h
 · exact fun _ h=>by cases h

lemma secretRule_evaluates:∃decision,
  evaluateChunk serdeDisplay (fun _=>"00") [secretRule] secretChunk 1=.ok decision:=by
 have hvalid:validateRules [secretRule]=.ok ():=by rfl
 have hdigest:inputDigest serdeDisplay (fun _=>"00") [secretRule] secretChunk =
   .ok "sha256:00" := by rfl
 rw [evaluateChunk,hvalid,evaluateChunkUnchecked,hdigest,ok_bind,find?_winner secretRule_wins]
 exact ⟨_,rfl⟩

theorem secretRule_replaces_once :
  ∃decision update after,secretGate.applyDecision decision 1=(.ok update,after) ∧
   ∀c,Ends after update.deliverable 1 c↔c = { secretChunk with text := "se*et" } := by
 obtain ⟨decision,hdecision⟩:=secretRule_evaluates
 obtain ⟨update,after,replacement,hreplacement,happly,hends⟩:=
  declarative_redaction_replaces (.call (.new _ _) _) (g:=secretGate) (by rfl) (by decide)
   secretRule_wins (by rfl) hdecision (by rfl) Nat.one_ne_zero (by decide)
 obtain rfl:=some.inj hreplacement
 have htext:String.ofList (replaceLiteral secretRule.literal.toList "*".toList
   secretChunk.text.toList) = "se*et" := by
  change String.ofList (replaceLiteral ['c','r'] ['*'] ['s','e','c','r','e','t']) = "se*et"
  simp [replaceLiteral]
 rw [htext] at hends
 exact ⟨decision,update,after,happly,hends⟩

lemma redactions_secret : redactionsForRule secretRule secretChunk =
  [⟨"/chunks/1/text", 2, 4, "*"⟩] := by
 have hsecond : redactionsLoop "/chunks/1/text" "*" "cr".toList "secret".toList 4 = [] := by
  rw [redactionsLoop]
  rfl
 change redactionsLoop "/chunks/1/text" "*" "cr".toList "secret".toList 0 = _
 rw [redactionsLoop]
 change RedactionInstruction.mk _ _ _ _ :: redactionsLoop _ _ _ _ 4 = _
 rw [hsecond]
 rfl

def secretDecision (idHex digestHex : String) : OutputPolicyDecision :=
 { OutputPolicyDecision.redact ("output-decision:" ++ ("sha256:" ++ idHex)) (some 1) []
    ("sha256:" ++ digestHex) with
   redactions := [⟨"/chunks/1/text", 2, 4, "*"⟩]
   policyRefs := ["secrets"]
   evaluatedAtUnixMs := some 1 }

/-- A chunk is held back, the gate becomes an immediate draft, and the next chunk is delivered. -/
def passedGate : OutputDeliveryGate :=
 (step { secretGate with deliveryPolicy := draftPolicy } (.recordChunk (chunkOf 2))).2

theorem passed_chunk_keeps_literal : Reachable passedGate ∧
  passedGate.pending[1]? = some secretChunk ∧ Wins [secretRule] secretChunk secretRule ∧
  ∃ decision, evaluateChunk serdeDisplay (fun _ => "00") [secretRule] secretChunk 1 =
    .ok decision ∧ passedGate.applyDecision decision 1 =
    (.error (.pendingChunkAlreadyDelivered 1 2), passedGate) := by
 have hpolicy : secretGate.withDeliveryPolicy draftPolicy =
   .ok { secretGate with deliveryPolicy := draftPolicy } := rfl
 have hbuilt : Reachable passedGate :=
  .call (.withDeliveryPolicy (.call (.new _ _) _) hpolicy) _
 obtain ⟨decision, hdecision⟩ := secretRule_evaluates
 refine ⟨hbuilt, by rfl, secretRule_wins, decision, hdecision, ?_⟩
 obtain ⟨-, -, idHex, digestHex, rfl⟩ := evaluateChunk_redact secretRule_wins rfl hdecision
 rw [redactions_secret]
 change passedGate.applyDecision (secretDecision idHex digestHex) 1 = _
 have hvalid : (secretDecision idHex digestHex).validate = .ok () :=
  validate_redaction rfl Nat.one_ne_zero Nat.one_ne_zero
   (forall_mem_singleton.mpr (by decide)) (forall_mem_singleton.mpr (by rfl))
   (forall_mem_nil _) (forall_mem_singleton.mpr (by rfl))
 have hchecks : passedGate.decisionChecks (secretDecision idHex digestHex) 1 = .ok () := by
  rw [decisionChecks, hvalid]
  rfl
 rw [applyDecision, hchecks]
 rfl

end GraphBlocks.OutputPolicy
