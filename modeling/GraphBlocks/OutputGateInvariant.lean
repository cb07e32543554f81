import GraphBlocks.OutputGateModel

namespace GraphBlocks.OutputPolicy
open Std OrderedMap RustStd OutputDeliveryGate List

def Holds (pending:Pending) (n:ℕ) : Prop := ∃chunk,pending[n]?=some chunk

structure Sound (g:OutputDeliveryGate) : Prop where
 streamId:isBlank g.streamId=false
 responseId:isBlank g.responseId=false
 policy:g.deliveryPolicy.validate=.ok ()
 generated_lt:g.lastGeneratedSequence<u64Limit
 delivered_le:g.lastClientDeliveredSequence≤g.lastGeneratedSequence
 accepted_le:g.lastPolicyAcceptedSequence≤g.lastGeneratedSequence
 held_back:g.deliveryPolicy.mode ≠ .immediateDraft →
  g.lastClientDeliveredSequence≤g.lastPolicyAcceptedSequence
 immediate:g.deliveryPolicy.mode=.immediateDraft →
  g.lastClientDeliveredSequence=g.lastGeneratedSequence
 keys:g.stopped=none → ∀n,Holds g.pending n ↔
  g.lastClientDeliveredSequence<n∧n≤g.lastGeneratedSequence
 chunks:∀(n:ℕ) chunk,g.pending[n]?=some chunk →
  chunk.sequence=n∧chunk.streamId=g.streamId∧chunk.responseId=g.responseId

/-- What no call changes. -/
structure SameGate (g g':OutputDeliveryGate) : Prop where
 streamId:g'.streamId=g.streamId
 responseId:g'.responseId=g.responseId
 turnId:g'.turnId=g.turnId
 policy:g'.deliveryPolicy=g.deliveryPolicy

lemma SameGate.refl(g:OutputDeliveryGate):SameGate g g:=⟨rfl,rfl,rfl,rfl⟩

lemma SameGate.trans{a b c:OutputDeliveryGate}(hab:SameGate a b)(hbc:SameGate b c):SameGate a c:=
 ⟨hbc.streamId.trans hab.streamId,hbc.responseId.trans hab.responseId,
  hbc.turnId.trans hab.turnId,hbc.policy.trans hab.policy⟩

/-- One call: the gate stays sound and the chunks handed out are the next sequences. -/
structure Advances (g g':OutputDeliveryGate) (handed:List GenerationChunk) : Prop where
 same:SameGate g g'
 sound:Sound g'
 delivered_le:g.lastClientDeliveredSequence≤g'.lastClientDeliveredSequence
 handed:handed.map GenerationChunk.sequence =
  sequencesAfter g.lastClientDeliveredSequence g'.lastClientDeliveredSequence

lemma sequencesAfter_self(n:ℕ):sequencesAfter n n=[]:=by simp [sequencesAfter]

variable {low high:ℕ}

lemma mem_sequencesAfter{n:ℕ}:n∈sequencesAfter low high↔low<n∧n≤high:=by
 unfold sequencesAfter
 rw [mem_range'_1]
 omega

lemma sequencesAfter_append{mid:ℕ}(h₁:low≤ mid)(h₂:mid≤high):
  sequencesAfter low mid++sequencesAfter mid high=sequencesAfter low high:=by
 unfold sequencesAfter
 have hstart:mid+1=low+1+1*(mid-low):=by omega
 rw [hstart,range'_append]
 congr 1
 omega

lemma sequencesAfter_succ(h:low<high):
  sequencesAfter low high=(low+1)::sequencesAfter (low+1) high:=by
 unfold sequencesAfter
 obtain ⟨k,hk⟩:∃k,high-low=k+1:=⟨high-low-1,by omega⟩
 rw [hk,range'_succ]
 congr 2
 omega

lemma Advances.refl{g:OutputDeliveryGate}(h:Sound g):Advances g g []:=
 ⟨.refl g,h,le_rfl,by rw [sequencesAfter_self];rfl⟩

lemma Advances.after{g g₁ g₂:OutputDeliveryGate}{handed:List GenerationChunk}
  (hsame:SameGate g g₁)(hdelivered:g₁.lastClientDeliveredSequence=g.lastClientDeliveredSequence)
  (h:Advances g₁ g₂ handed):Advances g g₂ handed:=
 ⟨hsame.trans h.same,h.sound,hdelivered▸h.delivered_le,hdelivered▸h.handed⟩

section
variable {g:OutputDeliveryGate}

lemma lookup_erase(pending:Pending)(k n:ℕ):
  (pending.erase k)[n]?=if k=n then none else pending[n]?:=by
 rw [ExtTreeMap.getElem?_erase]
 by_cases h:k=n
 · simp [h]
 · simp [h]

lemma deliver_spec(hle:g.lastClientDeliveredSequence≤high)
  (hheld:∀n,g.lastClientDeliveredSequence<n→n≤high→Holds g.pending n)
  (hseq:∀(n:ℕ) chunk,g.pending[n]?=some chunk→chunk.sequence=n):
  ∃pending,(deliver (sequencesAfter g.lastClientDeliveredSequence high) g).2 =
    { g with pending:=pending,lastClientDeliveredSequence:=high } ∧
   (∀n:ℕ,pending[n]?=if g.lastClientDeliveredSequence<n∧n≤high then none
    else g.pending[n]?) ∧
   (deliver (sequencesAfter g.lastClientDeliveredSequence high) g).1.map
    GenerationChunk.sequence=sequencesAfter g.lastClientDeliveredSequence high:=by
 obtain ⟨k,hk⟩:∃k,high=g.lastClientDeliveredSequence+k:=
  ⟨high-g.lastClientDeliveredSequence,by omega⟩
 induction k generalizing g with
 | zero=>
  obtain rfl:high=g.lastClientDeliveredSequence:=by omega
  rw [sequencesAfter_self]
  refine ⟨g.pending,rfl,fun n=>?_,rfl⟩
  rw [if_neg (by omega)]
 | succ k ih=>
  rw [sequencesAfter_succ (by omega)]
  obtain ⟨chunk,hchunk⟩:=hheld (g.lastClientDeliveredSequence+1) (by omega) (by omega)
  let g₁:OutputDeliveryGate:=
   { g with
     pending:=g.pending.erase (g.lastClientDeliveredSequence+1)
     lastClientDeliveredSequence:=g.lastClientDeliveredSequence+1 }
  have hother:∀n,n≠g.lastClientDeliveredSequence+1→ g₁.pending[n]?=g.pending[n]? := by
   intro n hn
   rw [lookup_erase,if_neg (Ne.symm hn)]
  obtain ⟨pending,hgate,hlookup,hsequences⟩:=ih (g:=g₁) (by change _+1≤high;omega)
   (by
    intro n hn hhigh
    change g.lastClientDeliveredSequence+1<n at hn
    obtain ⟨c,hc⟩:=hheld n (by omega) hhigh
    exact ⟨c,by rw [hother n (by omega),hc]⟩)
   (by
    intro n c hc
    rw [lookup_erase] at hc
    split at hc
    · cases hc
    · exact hseq n c hc)
   (by change high=g.lastClientDeliveredSequence+1+k;omega)
  have hstep:deliver ((g.lastClientDeliveredSequence+1) ::
    sequencesAfter (g.lastClientDeliveredSequence+1) high) g =
    (chunk::(deliver (sequencesAfter g₁.lastClientDeliveredSequence high) g₁).1,
     (deliver (sequencesAfter g₁.lastClientDeliveredSequence high) g₁).2):=by
   rw [deliver,hchunk]
  rw [hstep]
  refine ⟨pending,by rw [hgate],fun n=>?_,?_⟩
  · rw [hlookup]
    change (if g.lastClientDeliveredSequence+1<n∧n≤high then none else g₁.pending[n]?)=_
    by_cases hn:n=g.lastClientDeliveredSequence+1
    · subst hn
      rw [if_neg (by omega),if_pos (by omega),lookup_erase,if_pos rfl]
    · rw [hother n hn]
      by_cases hrange:g.lastClientDeliveredSequence<n∧n≤high
      · rw [if_pos hrange,if_pos (by omega)]
      · rw [if_neg hrange,if_neg (by omega)]
  · rw [map_cons,hsequences,hseq _ chunk hchunk]

lemma flushLoop_le{context:FlushContext}{sequences:List ℕ}{accumulated:String}
  {flushable bound:ℕ}(hstart:flushable≤bound)(hbound:∀n∈sequences,n≤bound):
  g.flushLoop context sequences accumulated flushable≤bound:=by
 induction sequences generalizing accumulated flushable with
 | nil=>exact hstart
 | cons sequence rest ih=>
  unfold flushLoop
  split
  · exact hstart
  · apply ih
    · split
      · exact hbound sequence mem_cons_self
      · exact hstart
    · intro n hn
      exact hbound n (mem_cons_of_mem _ hn)

lemma flushableAcceptedSequence_le(context:FlushContext):g.flushableAcceptedSequence context ≤
   max g.lastClientDeliveredSequence g.lastPolicyAcceptedSequence:=by
 unfold flushableAcceptedSequence
 split
 · exact le_max_right _ _
 · apply flushLoop_le (le_max_left _ _)
   intro n hn
   have hle:=(mem_sequencesAfter.mp hn).2
   omega

lemma Sound.release(h:Sound g)(context:FlushContext):
  Advances g (g.releaseAcceptedOutput context).2 (g.releaseAcceptedOutput context).1:=by
 unfold releaseAcceptedOutput
 split
 · exact .refl h
 · next hopen=>
   have hstopped:g.stopped=none:=by simpa using hopen
   have hkeys:=h.keys hstopped
   have hdelivered:=h.delivered_le
   have haccepted:=h.accepted_le
   have hflush:=flushableAcceptedSequence_le (g:=g) context
   -- nothing is released beyond what policy accepted
   let high:=max g.lastClientDeliveredSequence (g.flushableAcceptedSequence context)
   have hhigh:high≤g.lastGeneratedSequence:=by omega
   have hsame:sequencesAfter g.lastClientDeliveredSequence
     (g.flushableAcceptedSequence context) =
     sequencesAfter g.lastClientDeliveredSequence high:=by
    unfold sequencesAfter
    congr 1
    omega
   have hheld:∀n,g.lastClientDeliveredSequence<n→n≤high→Holds g.pending n:=
    fun n hlow hn=>(hkeys n).mpr ⟨hlow,by omega⟩
   have hwhile:(sequencesAfter g.lastClientDeliveredSequence high).takeWhile g.pending.contains =
     sequencesAfter g.lastClientDeliveredSequence high:=by
    rw [takeWhile_eq_self_iff]
    intro n hn
    have hrange:=mem_sequencesAfter.mp hn
    exact (contains_iff _).mpr (hheld n hrange.1 hrange.2)
   rw [hsame,hwhile]
   have hbelow:g.lastClientDeliveredSequence≤high:=by omega
   obtain ⟨pending,hgate,hlookup,hsequences⟩:=deliver_spec hbelow
    hheld (fun n chunk hc=>(h.chunks n chunk hc).1)
   rw [hgate]
   refine ⟨⟨rfl,rfl,rfl,rfl⟩,?_,by change _≤high;omega,hsequences⟩
   exact
    { streamId:=h.streamId
      responseId:=h.responseId
      policy:=h.policy
      generated_lt:=h.generated_lt
      delivered_le:=hhigh
      accepted_le:=haccepted
      held_back:=fun hmode=>by
       have hheld:=h.held_back hmode
       change high≤g.lastPolicyAcceptedSequence
       omega
      immediate:=fun hmode=>by
       have himmediate:=h.immediate hmode
       change high=g.lastGeneratedSequence
       omega
      keys:=fun _ n=>by
       change Holds pending n↔high<n∧n≤g.lastGeneratedSequence
       have hn:=hkeys n
       unfold Holds at hn ⊢
       rw [hlookup]
       split
       · simp only [reduceCtorEq,exists_false,false_iff]
         omega
       · rw [hn]
         omega
      chunks:=fun n chunk hc=>by
       change pending[n]?=some chunk at hc
       rw [hlookup] at hc
       split at hc
       · cases hc
       · exact h.chunks n chunk hc }

lemma Sound.releaseAfterDecision(h:Sound g):
  Advances g g.releaseAfterDecision.2 g.releaseAfterDecision.1:=by
 unfold OutputDeliveryGate.releaseAfterDecision
 split
 · exact .refl h
 · exact h.release _
 · exact h.release _
end

section
variable {g:OutputDeliveryGate} {chunk:GenerationChunk} {u:Unit}

lemma checkOwnChunk_ok(h:g.checkOwnChunk chunk=.ok u):
  chunk.streamId=g.streamId∧chunk.responseId=g.responseId:=by
 unfold checkOwnChunk at h
 obtain ⟨_,hstream,hresponse⟩:=bind_ok.mp h
 exact ⟨by simpa using ensure_ok.mp hstream,by simpa using ensure_ok.mp hresponse⟩

lemma recordChecks_ok(h:g.recordChecks chunk=.ok u):
  g.stopped=none∧chunk.streamId=g.streamId∧chunk.responseId=g.responseId ∧
   chunk.sequence=g.lastGeneratedSequence+1∧chunk.sequence<u64Limit:=by
 unfold recordChecks at h
 obtain ⟨_,-,h⟩:=bind_ok.mp h
 obtain ⟨_,-,h⟩:=bind_ok.mp h
 obtain ⟨_,hopen,h⟩:=bind_ok.mp h
 obtain ⟨_,hown,h⟩:=bind_ok.mp h
 obtain ⟨_,-,h⟩:=bind_ok.mp h
 obtain ⟨_,hnext,-⟩:=bind_ok.mp h
 obtain ⟨hstream,hresponse⟩:=checkOwnChunk_ok hown
 have hsucc:checkedSucc g.lastGeneratedSequence=some chunk.sequence:=by
  simpa using ensure_ok.mp hnext
 refine ⟨by simpa using ensure_ok.mp hopen,hstream,hresponse,checkedSucc_eq_some hsucc,?_⟩
 unfold checkedSucc at hsucc
 split at hsucc
 · next hlt=>
   rw [←Option.some.inj hsucc]
   exact hlt
 · cases hsucc

lemma Sound.storeChunk(h:Sound g)(hchecks:g.recordChecks chunk=.ok u)
  (hmode:g.deliveryPolicy.mode ≠ .immediateDraft):Advances g (g.storeChunk chunk) []:=by
 obtain ⟨hopen,hstream,hresponse,hsequence,hlimit⟩:=recordChecks_ok hchecks
 have hdelivered:=h.delivered_le
 have haccepted:=h.accepted_le
 refine ⟨⟨rfl,rfl,rfl,rfl⟩,?_,le_rfl,(sequencesAfter_self _).symm⟩
 exact
  { streamId:=h.streamId
    responseId:=h.responseId
    policy:=h.policy
    generated_lt:=hlimit
    delivered_le:=by
     change g.lastClientDeliveredSequence≤chunk.sequence
     omega
    accepted_le:=by
     change g.lastPolicyAcceptedSequence≤chunk.sequence
     omega
    held_back:=h.held_back
    immediate:=fun himmediate=>absurd himmediate hmode
    keys:=fun _ n=>by
     change Holds (g.pending.insert chunk.sequence chunk) n ↔ _∧n≤chunk.sequence
     have hn:=h.keys hopen n
     unfold Holds at hn ⊢
     rw [lookup_insert]
     split
     · next heq=>
       simp only [Option.some.injEq,exists_eq',true_iff]
       change g.lastClientDeliveredSequence<n∧n≤chunk.sequence
       omega
     · rw [hn]
       change _↔g.lastClientDeliveredSequence<n∧n≤chunk.sequence
       omega
    chunks:=fun n c hc=>by
     change (g.pending.insert chunk.sequence chunk)[n]?=some c at hc
     rw [lookup_insert] at hc
     split at hc
     · next heq=>
       cases hc
       exact ⟨heq,hstream,hresponse⟩
     · exact h.chunks n c hc }

lemma Sound.handChunk(h:Sound g)(hchecks:g.recordChecks chunk=.ok u)
  (hmode:g.deliveryPolicy.mode=.immediateDraft):
  Advances g { g.storeChunk chunk with
   pending:=(g.storeChunk chunk).pending.erase chunk.sequence
   lastClientDeliveredSequence:=chunk.sequence } [chunk]:=by
 obtain ⟨hopen,-,-,hsequence,hlimit⟩:=recordChecks_ok hchecks
 have hdelivered:=h.immediate hmode
 have haccepted:=h.accepted_le
 have hlookup:∀n:ℕ,((g.pending.insert chunk.sequence chunk).erase chunk.sequence)[n]? =
   if chunk.sequence=n then none else g.pending[n]? := by
  intro n
  rw [lookup_erase,lookup_insert]
  split <;>rfl
 have hempty:∀(n:ℕ) chunk',g.pending[n]?≠some chunk':=by
  intro n chunk' hc
  have hrange:=(h.keys hopen n).mp ⟨chunk',hc⟩
  omega
 refine ⟨⟨rfl,rfl,rfl,rfl⟩,?_,by change _≤chunk.sequence;omega,?_⟩
 · exact
    { streamId:=h.streamId
      responseId:=h.responseId
      policy:=h.policy
      generated_lt:=hlimit
      delivered_le:=le_rfl
      accepted_le:=by
       change g.lastPolicyAcceptedSequence≤chunk.sequence
       omega
      held_back:=fun hother=>absurd hmode hother
      immediate:=fun _=>rfl
      keys:=fun _ n=>by
       change Holds ((g.pending.insert chunk.sequence chunk).erase chunk.sequence) n ↔
        chunk.sequence<n∧n≤chunk.sequence
       constructor
       · rintro ⟨c,hc⟩
         rw [hlookup] at hc
         split at hc
         · cases hc
         · exact absurd hc (hempty n c)
       · omega
      chunks:=fun n c hc=>by
       change ((g.pending.insert chunk.sequence chunk).erase chunk.sequence)[n]?=some c at hc
       rw [hlookup] at hc
       split at hc
       · cases hc
       · exact absurd hc (hempty n c) }
 · change [chunk.sequence]=sequencesAfter g.lastClientDeliveredSequence chunk.sequence
   rw [hdelivered,hsequence,sequencesAfter_succ (by omega),sequencesAfter_self]

lemma Sound.recordChunk(h:Sound g)(chunk:GenerationChunk):
  Advances g (g.recordChunk chunk).2 (deliveredBy ((g.recordChunk chunk).1.map .chunks)):=by
 unfold OutputDeliveryGate.recordChunk
 cases hchecks:g.recordChecks chunk with
 | error e=>exact .refl h
 | ok u=>
  by_cases hmode:g.deliveryPolicy.mode=.immediateDraft
  · have hstored:(g.storeChunk chunk).pending[(g.storeChunk chunk).lastGeneratedSequence]? =
      some chunk:=lookup_insert_self _ _ _
    have hkept:(g.storeChunk chunk).deliveryPolicy.mode=.immediateDraft:=hmode
    simp only [hkept,ne_eq,not_true_eq_false,↓reduceIte,hstored]
    exact h.handChunk hchecks hmode
  · have hkept:(g.storeChunk chunk).deliveryPolicy.mode ≠ .immediateDraft:=hmode
    simp only [if_pos hkept]
    exact h.storeChunk hchecks hmode

variable {accepted:Option ℕ}

lemma checkAccepted_ok(h:g.checkAccepted accepted=.ok u):
  ∀n,accepted=some n→n≤g.lastGeneratedSequence:=by
 rintro n rfl
 exact of_decide_eq_true (ensure_ok.mp h)

lemma Sound.acceptThrough(h:Sound g)(hle:∀n,accepted=some n→n≤g.lastGeneratedSequence):
  Sound (g.acceptThrough accepted):=by
 cases accepted with
 | none=>exact h
 | some n=>
  have hn:=hle n rfl
  have haccepted:=h.accepted_le
  exact
   { streamId:=h.streamId
     responseId:=h.responseId
     policy:=h.policy
     generated_lt:=h.generated_lt
     delivered_le:=h.delivered_le
     accepted_le:=by
      change max g.lastPolicyAcceptedSequence n≤g.lastGeneratedSequence
      omega
     held_back:=fun hmode=>by
      have hheld:=h.held_back hmode
      change g.lastClientDeliveredSequence≤ max g.lastPolicyAcceptedSequence n
      omega
     immediate:=h.immediate
     keys:=h.keys
     chunks:=h.chunks }

lemma acceptThrough_same(g:OutputDeliveryGate)(accepted:Option ℕ):
  SameGate g (g.acceptThrough accepted) ∧
   (g.acceptThrough accepted).lastClientDeliveredSequence=g.lastClientDeliveredSequence:=by
 cases accepted <;>exact ⟨⟨rfl,rfl,rfl,rfl⟩,rfl⟩

lemma Sound.acceptAndRelease(h:Sound g)(hle:∀n,accepted=some n→n≤g.lastGeneratedSequence):
  Advances g (g.acceptThrough accepted).releaseAfterDecision.2
   (g.acceptThrough accepted).releaseAfterDecision.1:=
 .after (acceptThrough_same g accepted).1 (acceptThrough_same g accepted).2
  (h.acceptThrough hle).releaseAfterDecision

lemma Sound.applyAllow(h:Sound g)(decision:OutputPolicyDecision):
  Advances g (g.applyAllow decision).2
   (deliveredBy ((g.applyAllow decision).1.map .update)):=by
 unfold OutputDeliveryGate.applyAllow
 cases hchecked:g.checkAccepted decision.acceptedThroughSequence with
 | error e=>exact .refl h
 | ok u=>exact h.acceptAndRelease (checkAccepted_ok hchecked)

lemma Sound.applyStop(h:Sound g)(decision:OutputPolicyDecision)(occurredAt:ℕ):
  Advances g (g.applyStop decision occurredAt).2
   (deliveredBy ((g.applyStop decision occurredAt).1.map .update)):=by
 unfold OutputDeliveryGate.applyStop
 cases hchecked:g.checkAccepted decision.acceptedThroughSequence with
 | error e=>exact .refl h
 | ok u=>
  have hsound:=h.acceptThrough (checkAccepted_ok hchecked)
  obtain ⟨hsame,hdelivered⟩:=acceptThrough_same g decision.acceptedThroughSequence
  simp only
  cases ((g.acceptThrough decision.acceptedThroughSequence).cutoffOf decision occurredAt).validate with
  | error e=>exact .after hsame hdelivered (.refl hsound)
  | ok u=>
   refine .after hsame hdelivered ⟨⟨rfl,rfl,rfl,rfl⟩,?_,le_rfl,(sequencesAfter_self _).symm⟩
   exact
    { streamId:=hsound.streamId
      responseId:=hsound.responseId
      policy:=hsound.policy
      generated_lt:=hsound.generated_lt
      delivered_le:=hsound.delivered_le
      accepted_le:=hsound.accepted_le
      held_back:=hsound.held_back
      immediate:=hsound.immediate
      keys:=nofun
      chunks:=fun n c hc=>by simp at hc }
end
end GraphBlocks.OutputPolicy
