import GraphBlocks.OutputGateInvariant

namespace GraphBlocks.OutputPolicy
open OrderedMap RustStd OutputDeliveryGate

variable {chunk:GenerationChunk} {pending:Pending} {decision:OutputPolicyDecision}

section
variable {g:OutputDeliveryGate}

structure SamePending (a b:Pending) : Prop where
 holds:∀n,Holds b n↔Holds a n
 chunks:∀(n:ℕ) chunk,b[n]?=some chunk → ∃old,a[n]?=some old ∧
  chunk.sequence=old.sequence∧chunk.streamId=old.streamId∧chunk.responseId=old.responseId

lemma SamePending.refl(a:Pending):SamePending a a:=
 ⟨fun _=>Iff.rfl,fun _ chunk h=>⟨chunk,h,rfl,rfl,rfl⟩⟩

lemma SamePending.trans{a b c:Pending}(hab:SamePending a b)(hbc:SamePending b c):
  SamePending a c:=by
 refine ⟨fun n=>(hbc.holds n).trans (hab.holds n),fun n chunk hc=>?_⟩
 obtain ⟨mid,hmid,hsequence,hstream,hresponse⟩:=hbc.chunks n chunk hc
 obtain ⟨old,hold,hsequence',hstream',hresponse'⟩:=hab.chunks n mid hmid
 exact ⟨old,hold,hsequence.trans hsequence',hstream.trans hstream',hresponse.trans hresponse'⟩

lemma samePending_setText{sequence:ℕ}(hchunk:pending[sequence]?=some chunk)(text:String):
  SamePending pending (pending.insert sequence { chunk with text:=text }):=by
 constructor
 · intro n
   unfold Holds
   rw [lookup_insert]
   split
   · next heq=>
     subst heq
     simp [hchunk]
   · exact Iff.rfl
 · intro n c hc
   rw [lookup_insert] at hc
   split at hc
   · next heq=>
     subst heq
     cases hc
     exact ⟨chunk,hchunk,rfl,rfl,rfl⟩
   · exact ⟨c,hc,rfl,rfl,rfl⟩

lemma storeTexts_same(texts:List (ℕ×String))(pending:Pending):
  SamePending pending (storeTexts texts pending):=by
 induction texts generalizing pending with
 | nil=>exact .refl pending
 | cons entry rest ih=>
  obtain ⟨sequence,text⟩:=entry
  unfold storeTexts
  cases hchunk:pending[sequence]? with
  | none=>exact ih pending
  | some chunk=>exact (samePending_setText hchunk text).trans (ih _)

lemma Sound.withPending(h:Sound g)(hsame:SamePending g.pending pending):
  Sound { g with pending:=pending }:=
 { streamId:=h.streamId
   responseId:=h.responseId
   policy:=h.policy
   generated_lt:=h.generated_lt
   delivered_le:=h.delivered_le
   accepted_le:=h.accepted_le
   held_back:=h.held_back
   immediate:=h.immediate
   keys:=fun hopen n=>(hsame.holds n).trans (h.keys hopen n)
   chunks:=fun n chunk hc=>by
    obtain ⟨old,hold,hsequence,hstream,hresponse⟩:=hsame.chunks n chunk hc
    obtain ⟨hn,holdStream,holdResponse⟩:=h.chunks n old hold
    exact ⟨hsequence.trans hn,hstream.trans holdStream,hresponse.trans holdResponse⟩ }

lemma applyRedactions_ok{redacted:OutputDeliveryGate}(h:g.applyRedactions decision=.ok redacted):
  ∃pending,SamePending g.pending pending∧redacted = { g with pending:=pending }:=by
 unfold applyRedactions at h
 split at h
 · obtain ⟨groups,-,h⟩:=bind_ok.mp h
   obtain ⟨texts,-,h⟩:=bind_ok.mp h
   cases h
   exact ⟨_,storeTexts_same texts g.pending,rfl⟩
 · cases h
   exact ⟨g.pending,.refl _,rfl⟩
end

section
variable {g:OutputDeliveryGate}

/-- Chunks of the gate's stream with the sequences `expected`, `expected + 1`, .. -/
inductive Consecutive (g:OutputDeliveryGate) : ℕ→List GenerationChunk→Prop
 | nil {expected:ℕ} : Consecutive g expected []
 | cons {expected:ℕ} {chunk:GenerationChunk} {rest:List GenerationChunk}
   (valid:checkChunk chunk=.ok ()) (own:g.checkOwnChunk chunk=.ok ())
   (sequence:chunk.sequence=expected) (beyond:g.lastClientDeliveredSequence<expected)
   (limit:expected+1<u64Limit) (next:Consecutive g (expected+1) rest) :
   Consecutive g expected (chunk::rest)

variable {expected:ℕ} {chunks:List GenerationChunk} {u:Unit}

lemma checkReplacements_ok{previous:ℕ}
  (h:g.checkReplacements previous expected chunks=.ok u):Consecutive g expected chunks:=by
 induction chunks generalizing previous expected with
 | nil=>exact .nil
 | cons chunk rest ih=>
  unfold checkReplacements at h
  obtain ⟨_,hvalid,h⟩:=bind_ok.mp h
  obtain ⟨_,hown,h⟩:=bind_ok.mp h
  obtain ⟨_,hbeyond,h⟩:=bind_ok.mp h
  obtain ⟨_,hsequence,h⟩:=bind_ok.mp h
  have hseq:chunk.sequence=expected:=by simpa using ensure_ok.mp hsequence
  have hlow:g.lastClientDeliveredSequence<chunk.sequence:=by simpa using ensure_ok.mp hbeyond
  split at h
  · cases h
  · next next hnext=>
    have hlimit:expected+1<u64Limit:=by
     unfold checkedSucc at hnext
     split at hnext
     · assumption
     · cases hnext
    obtain rfl:=checkedSucc_eq_some hnext
    exact .cons hvalid hown hseq (hseq▸hlow) hlimit (ih h)

lemma Consecutive.congr{g':OutputDeliveryGate}(h:Consecutive g expected chunks)
  (hsame:SameGate g g')(hdelivered:g'.lastClientDeliveredSequence=g.lastClientDeliveredSequence):
  Consecutive g' expected chunks:=by
 induction h with
 | nil=>exact .nil
 | cons valid own sequence beyond limit next ih=>
  refine .cons valid ?_ sequence (hdelivered▸beyond) limit ih
  rw [←own]
  unfold checkOwnChunk
  rw [hsame.streamId,hsame.responseId]

def Complete (g:OutputDeliveryGate) : Prop :=
 ∀n,Holds g.pending n↔g.lastClientDeliveredSequence<n∧n≤g.lastGeneratedSequence

/-- The same but for one sequence that is about to be stored. -/
def CompleteExcept (g:OutputDeliveryGate) (hole:ℕ) : Prop :=
 ∀n,n≠hole→(Holds g.pending n↔g.lastClientDeliveredSequence<n∧n≤g.lastGeneratedSequence)

def OwnChunks (g:OutputDeliveryGate) : Prop :=
 ∀(n:ℕ) chunk,g.pending[n]?=some chunk →
  chunk.sequence=n∧chunk.streamId=g.streamId∧chunk.responseId=g.responseId

def withReplacement (g:OutputDeliveryGate) (chunk:GenerationChunk) : OutputDeliveryGate :=
 { g with
   lastGeneratedSequence:=max g.lastGeneratedSequence chunk.sequence
   pending:=g.pending.insert chunk.sequence chunk }

lemma CompleteExcept.store(h:CompleteExcept g chunk.sequence)
  (hlow:g.lastClientDeliveredSequence<chunk.sequence)
  (hnext:chunk.sequence≤g.lastGeneratedSequence+1):Complete (withReplacement g chunk):=by
 intro n
 change Holds (g.pending.insert chunk.sequence chunk) n ↔
  g.lastClientDeliveredSequence<n∧n≤ max g.lastGeneratedSequence chunk.sequence
 unfold Holds
 rw [lookup_insert]
 split
 · next heq=>
   subst heq
   simp only [Option.some.injEq,exists_eq',true_iff]
   omega
 · next hne=>
   have hn:=h n (Ne.symm hne)
   unfold Holds at hn
   rw [hn]
   omega

lemma OwnChunks.store(h:OwnChunks g)
  (hown:g.checkOwnChunk chunk=.ok ()):OwnChunks (withReplacement g chunk):=by
 obtain ⟨hstream,hresponse⟩:=checkOwnChunk_ok hown
 intro n c hc
 change (g.pending.insert chunk.sequence chunk)[n]?=some c at hc
 rw [lookup_insert] at hc
 split at hc
 · next heq=>
   cases hc
   exact ⟨heq,hstream,hresponse⟩
 · exact h n c hc

/-- The gate after a run of replacement chunks. -/
structure Replaced (g g':OutputDeliveryGate) (chunks:List GenerationChunk)
  (accepted:Option ℕ) : Prop where
 fields:g' = { g with pending:=g'.pending,lastGeneratedSequence:=g'.lastGeneratedSequence }
 grown:g.lastGeneratedSequence≤g'.lastGeneratedSequence
 limit:g'.lastGeneratedSequence<u64Limit
 accepted:∀n,accepted=some n→n≤g'.lastGeneratedSequence
 own:OwnChunks g'
 complete:chunks≠[] → Complete g'
 unchanged:chunks=[] → g'=g

lemma storeReplacements_ok(h:Consecutive g expected chunks)(hkeys:CompleteExcept g expected)
  (hown:OwnChunks g)(hexpected:expected≤g.lastGeneratedSequence+1)
  (hlimit:g.lastGeneratedSequence<u64Limit)(accepted:Option ℕ)
  (haccepted:∀n,accepted=some n→n≤g.lastGeneratedSequence):
  ∃accepted' g',storeReplacements chunks accepted g=(.ok accepted',g') ∧
   Replaced g g' chunks accepted':=by
 induction chunks generalizing g expected accepted with
 | nil=>exact ⟨accepted,g,rfl,rfl,le_rfl,hlimit,haccepted,hown,fun hne=>absurd rfl hne,fun _=>rfl⟩
 | cons chunk rest ih=>
  cases h with
  | cons valid own sequence beyond limit next=>
   subst sequence
   have hstored:=hkeys.store beyond hexpected
   have hgenerated:(withReplacement g chunk).lastGeneratedSequence =
     max g.lastGeneratedSequence chunk.sequence:=rfl
   obtain ⟨accepted',g',hstore,hreplaced⟩:=ih (g:=withReplacement g chunk)
    (next.congr ⟨rfl,rfl,rfl,rfl⟩ rfl) (fun n _=>hstored n) (hown.store own)
    (by omega) (by omega)
    (some (accepted.elim chunk.sequence fun a=>max a chunk.sequence))
    (by
     rintro n hn
     cases accepted with
     | none=>
      rw [←Option.some.inj hn,hgenerated]
      exact le_max_right _ _
     | some a=>
      have ha:=haccepted a rfl
      rw [←Option.some.inj hn,hgenerated]
      exact max_le_max ha le_rfl)
   have hgrown:=hreplaced.grown
   refine ⟨accepted',g',?_,hreplaced.fields,by omega,hreplaced.limit,hreplaced.accepted,
    hreplaced.own,fun _=>?_,nofun⟩
   · rw [storeReplacements,valid]
     simp only [own,beyond,↓reduceIte]
     exact hstore
   · by_cases hrest:rest=[]
     · rw [hreplaced.unchanged hrest]
       exact hstored
     · exact hreplaced.complete hrest

lemma decisionValidate_replace(h:decision.validate=.ok u)
  (hreplace:decision.disposition=.replace):decision.replacementChunks≠[]:=by
 unfold OutputPolicyDecision.validate at h
 iterate 6 obtain ⟨-,-,h⟩:=bind_ok.mp h
 obtain ⟨_,hcontent,-⟩:=bind_ok.mp h
 have hne:=ensure_ok.mp hcontent
 intro hempty
 simp [hreplace,hempty] at hne

lemma erase_completeExcept(h:Complete g)(hole:ℕ):
  CompleteExcept { g with pending:=g.pending.erase hole } hole:=by
 intro n hne
 change Holds (g.pending.erase hole) n ↔ _
 unfold Holds
 rw [lookup_erase,if_neg (Ne.symm hne)]
 exact h n

lemma erase_ownChunks(h:OwnChunks g)(hole:ℕ):OwnChunks { g with pending:=g.pending.erase hole }:=by
 intro n c hc
 change (g.pending.erase hole)[n]?=some c at hc
 rw [lookup_erase] at hc
 split at hc
 · cases hc
 · exact h n c hc

lemma dropReplaced_spec(hcomplete:Complete g)(hown:OwnChunks g)(hvalid:decision.validate=.ok u):
  ∃pending,g.dropReplaced decision = { g with pending:=pending } ∧
   CompleteExcept { g with pending:=pending }
    (decision.acceptedThroughSequence.getD g.lastGeneratedSequence) ∧
   OwnChunks { g with pending:=pending } ∧
   (decision.replacementChunks=[]→pending=g.pending):=by
 have hkept:CompleteExcept g (decision.acceptedThroughSequence.getD g.lastGeneratedSequence):=
  fun n _=>hcomplete n
 unfold dropReplaced
 split
 · next n hreplace haccepted=>
   rw [haccepted] at hkept ⊢
   split
   · exact ⟨g.pending.erase n,rfl,erase_completeExcept hcomplete n,erase_ownChunks hown n,
      fun hempty=>absurd hempty (decisionValidate_replace hvalid hreplace)⟩
   · exact ⟨g.pending,rfl,hkept,hown,fun _=>rfl⟩
 · exact ⟨g.pending,rfl,hkept,hown,fun _=>rfl⟩

lemma Sound.replaced(h:Sound g){g':OutputDeliveryGate}
  {accepted:Option ℕ}(hreplaced:Replaced { g with pending:=pending } g' chunks accepted)
  (himmediate:g.deliveryPolicy.mode=.immediateDraft→chunks=[])(hcomplete:Complete g'):
  Sound g':=by
 have hgrown:g.lastGeneratedSequence≤g'.lastGeneratedSequence:=hreplaced.grown
 have hfields:=hreplaced.fields
 have hdelivered:g'.lastClientDeliveredSequence=g.lastClientDeliveredSequence:=by rw [hfields]
 have haccepted:g'.lastPolicyAcceptedSequence=g.lastPolicyAcceptedSequence:=by rw [hfields]
 have hpolicy:g'.deliveryPolicy=g.deliveryPolicy:=by rw [hfields]
 have hle:=h.delivered_le
 have hle':=h.accepted_le
 exact
  { streamId:=by rw [hfields];exact h.streamId
    responseId:=by rw [hfields];exact h.responseId
    policy:=by rw [hpolicy];exact h.policy
    generated_lt:=hreplaced.limit
    delivered_le:=by omega
    accepted_le:=by omega
    held_back:=fun hmode=>by
     rw [hpolicy] at hmode
     rw [hdelivered,haccepted]
     exact h.held_back hmode
    immediate:=fun hmode=>by
     rw [hpolicy] at hmode
     rw [hreplaced.unchanged (himmediate hmode)]
     exact h.immediate hmode
    keys:=fun _=>hcomplete
    chunks:=hreplaced.own }
end

section
variable {g:OutputDeliveryGate} {decision:OutputPolicyDecision} {u:Unit}

lemma Sound.storeDecision(h:Sound g)(hopen:g.stopped=none){v:Unit}(hvalid:decision.validate=.ok u)
  (haccepted:g.checkAccepted decision.acceptedThroughSequence=.ok v)
  (hconsecutive:Consecutive g (decision.acceptedThroughSequence.getD g.lastGeneratedSequence)
   decision.replacementChunks):
  ∃accepted' g',storeReplacements decision.replacementChunks decision.acceptedThroughSequence
    (g.dropReplaced decision)=(.ok accepted',g')∧Sound g'∧SameGate g g' ∧
   g'.lastClientDeliveredSequence=g.lastClientDeliveredSequence ∧
   ∀n,accepted'=some n→n≤g'.lastGeneratedSequence:=by
 have hle:=checkAccepted_ok haccepted
 have hexpected:decision.acceptedThroughSequence.getD g.lastGeneratedSequence ≤
   g.lastGeneratedSequence:=by
  cases hcase:decision.acceptedThroughSequence with
  | none=>exact le_rfl
  | some n=>exact hle n hcase
 -- in the immediate mode everything is delivered, so there is nothing left to replace
 have himmediate:g.deliveryPolicy.mode=.immediateDraft→decision.replacementChunks=[]:=by
  intro hmode
  have hall:=h.immediate hmode
  cases hchunks:decision.replacementChunks with
  | nil=>rfl
  | cons chunk rest=>
   rw [hchunks] at hconsecutive
   cases hconsecutive with
   | cons valid own sequence beyond limit next=>omega
 have hcomplete:Complete g:=h.keys hopen
 have hown:OwnChunks g:=h.chunks
 obtain ⟨pending,hdropped,hexcept,hown',hsame⟩:=dropReplaced_spec hcomplete hown hvalid
 rw [hdropped]
 have hconsecutive':Consecutive { g with pending:=pending }
   (decision.acceptedThroughSequence.getD g.lastGeneratedSequence)
   decision.replacementChunks:=hconsecutive.congr ⟨rfl,rfl,rfl,rfl⟩ rfl
 obtain ⟨accepted',g',hstore,hreplaced⟩:=storeReplacements_ok hconsecutive' hexcept hown'
  (by change _≤g.lastGeneratedSequence+1;omega) h.generated_lt
  decision.acceptedThroughSequence hle
 have hcomplete':Complete g':=by
  by_cases hchunks:decision.replacementChunks=[]
  · rw [hreplaced.unchanged hchunks,hsame hchunks]
    exact hcomplete
  · exact hreplaced.complete hchunks
 refine ⟨accepted',g',hstore,h.replaced hreplaced himmediate hcomplete',?_,?_,hreplaced.accepted⟩
 · rw [hreplaced.fields]
   exact ⟨rfl,rfl,rfl,rfl⟩
 · rw [hreplaced.fields]

lemma Sound.applyRewrite(h:Sound g)(hopen:g.stopped=none)(hvalid:decision.validate=.ok u):
  Advances g (g.applyRewrite decision).2
   (deliveredBy ((g.applyRewrite decision).1.map .update)):=by
 unfold OutputDeliveryGate.applyRewrite
 split
 · exact .refl h
 · cases hchecks:g.rewriteChecks decision with
   | error e=>exact .refl h
   | ok redacted=>
    unfold rewriteChecks at hchecks
    obtain ⟨_,haccepted,hchecks⟩:=bind_ok.mp hchecks
    obtain ⟨_,hrange,hredacted⟩:=bind_ok.mp hchecks
    obtain ⟨pending,hsame,rfl⟩:=applyRedactions_ok hredacted
    obtain ⟨accepted',g',hstore,hsound,hgate,hdelivered,hbound⟩:=
     (h.withPending hsame).storeDecision hopen hvalid haccepted
      ((checkReplacements_ok hrange).congr ⟨rfl,rfl,rfl,rfl⟩ rfl)
    have hgate':SameGate g g':=⟨hgate.streamId,hgate.responseId,hgate.turnId,hgate.policy⟩
    simp only [hstore]
    exact .after hgate' hdelivered (hsound.acceptAndRelease hbound)

lemma decisionChecks_ok{occurredAt:ℕ}(h:g.decisionChecks decision occurredAt=.ok u):
  g.stopped=none∧decision.validate=.ok ():=by
 unfold decisionChecks at h
 obtain ⟨_,-,h⟩:=bind_ok.mp h
 obtain ⟨_,hopen,h⟩:=bind_ok.mp h
 obtain ⟨_,-,hvalid⟩:=bind_ok.mp h
 exact ⟨by simpa using ensure_ok.mp hopen,hvalid⟩

lemma Sound.applyDecision(h:Sound g)(decision:OutputPolicyDecision)(occurredAt:ℕ):
  Advances g (g.applyDecision decision occurredAt).2
   (deliveredBy ((g.applyDecision decision occurredAt).1.map .update)):=by
 unfold OutputDeliveryGate.applyDecision
 cases hchecks:g.decisionChecks decision occurredAt with
 | error e=>exact .refl h
 | ok u=>
  obtain ⟨hopen,hvalid⟩:=decisionChecks_ok hchecks
  cases decision.disposition with
  | allow=>exact h.applyAllow decision
  | hold=>exact .refl h
  | redact=>exact h.applyRewrite hopen hvalid
  | replace=>exact h.applyRewrite hopen hvalid
  | _=>exact h.applyStop decision occurredAt

lemma Sound.step(h:Sound g)(call:Call):Advances g (step g call).2 (deliveredBy (step g call).1):=by
 cases call with
 | recordChunk chunk=>
  simp only [OutputPolicy.step]
  exact h.recordChunk chunk
 | applyDecision decision occurredAt=>
  simp only [OutputPolicy.step]
  exact h.applyDecision decision occurredAt
 | commitAcceptedOutput=>exact h.release .explicitCommit
end
end GraphBlocks.OutputPolicy
