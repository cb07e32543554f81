import GraphBlocks.OutputGateGuarantees

namespace GraphBlocks.OutputPolicy
open OrderedMap RustStd MachineRuns OutputDeliveryGate List

namespace OutputDeliveryGate

def fromCutoff (cutoff:OutputCutoff) : Except OutputGateError OutputDeliveryGate := do
 cutoff.validate.mapError .invalidCutoff
 .ok { new cutoff.streamId cutoff.responseId with
       turnId:=cutoff.turnId,lastGeneratedSequence:=cutoff.lastGeneratedSequence
       lastPolicyAcceptedSequence:=cutoff.lastPolicyAcceptedSequence
       lastClientDeliveredSequence:=cutoff.lastClientDeliveredSequence,stopped:=some cutoff }

end OutputDeliveryGate

/-- The gates that the public functions of `OutputDeliveryGate` give. -/
inductive Reachable : OutputDeliveryGate→Prop
 | new (streamId responseId:String) : Reachable (new streamId responseId)
 | fromState {streamId responseId:String} {pending:List GenerationChunk}
   {generated accepted delivered:ℕ} {policy:OutputDeliveryPolicy} {g:OutputDeliveryGate}
   (h:fromStateWithDeliveryPolicy streamId responseId pending generated accepted delivered
    policy=.ok g) : Reachable g
 | fromCutoff {cutoff:OutputCutoff} {g:OutputDeliveryGate} (h:fromCutoff cutoff=.ok g) : Reachable g
 | withTurnId {g:OutputDeliveryGate} (h:Reachable g) (turnId:String) :
   Reachable (g.withTurnId turnId)
 | withDeliveryPolicy {g g':OutputDeliveryGate} (h:Reachable g) {policy:OutputDeliveryPolicy}
   (hpolicy:g.withDeliveryPolicy policy=.ok g') : Reachable g'
 | call {g:OutputDeliveryGate} (h:Reachable g) (call:Call) : Reachable (step g call).2

/-- A chunk that is pending under a key. -/
structure Keeps (g:OutputDeliveryGate) (n:ℕ) (chunk:GenerationChunk) : Prop where
 sequence:chunk.sequence=n
 generated:n≤g.lastGeneratedSequence
 running:g.stopped=none

/-- The counters are in order, and chunks are pending under their generated sequences while
the gate runs. -/
structure Ordered (g:OutputDeliveryGate) : Prop where
 delivered_le:g.lastClientDeliveredSequence≤g.lastGeneratedSequence
 accepted_le:g.lastPolicyAcceptedSequence≤g.lastGeneratedSequence
 keys:∀(n:ℕ) chunk,g.pending[n]?=some chunk→Keeps g n chunk

variable {chunks:List GenerationChunk} {pending:Pending} {g:OutputDeliveryGate}

section
variable {g:OutputDeliveryGate}

lemma Ordered.deliver(h:Ordered g){sequences:List ℕ}
  (hle:∀n∈sequences,n≤g.lastGeneratedSequence):Ordered (deliver sequences g).2:=by
 induction sequences generalizing g with
 | nil=>exact h
 | cons sequence rest ih=>
  have hrest:∀n∈rest,n≤g.lastGeneratedSequence:=fun n hn=>hle n (mem_cons_of_mem _ hn)
  rw [OutputDeliveryGate.deliver]
  cases hchunk:g.pending[sequence]? with
  | none=>exact ih h hrest
  | some chunk=>
   refine ih (g:={ g with
    pending:=g.pending.erase sequence,lastClientDeliveredSequence:=sequence }) ?_ hrest
   constructor
   · exact hle sequence mem_cons_self
   · exact h.accepted_le
   · intro n c hc
     rw [lookup_erase] at hc
     split at hc
     · cases hc
     · have hkept:=h.keys n c hc
       exact ⟨hkept.sequence,hkept.generated,hkept.running⟩

lemma Ordered.release(h:Ordered g)(context:FlushContext):
  Ordered (g.releaseAcceptedOutput context).2:=by
 unfold releaseAcceptedOutput
 split
 · exact h
 · apply h.deliver
   intro n hn
   have hrange:=mem_sequencesAfter.mp (takeWhile_subset _ hn)
   have hflush:=flushableAcceptedSequence_le (g:=g) context
   have hdelivered:=h.delivered_le
   have haccepted:=h.accepted_le
   omega

lemma Ordered.releaseAfterDecision(h:Ordered g):Ordered g.releaseAfterDecision.2:=by
 unfold OutputDeliveryGate.releaseAfterDecision
 split
 · exact h
 · exact h.release _
 · exact h.release _

lemma forall_insert{Q:ℕ→GenerationChunk→Prop}
  (h:∀(n:ℕ) chunk,pending[n]?=some chunk→Q n chunk){chunk:GenerationChunk}
  (hchunk:Q chunk.sequence chunk)(n:ℕ)(c:GenerationChunk)
  (hc:(pending.insert chunk.sequence chunk)[n]?=some c):Q n c:=by
 rw [lookup_insert] at hc
 split at hc
 · next heq=>
   cases hc
   exact heq▸hchunk
 · exact h n c hc

lemma Ordered.storeChunk(h:Ordered g){chunk:GenerationChunk}{u:Unit}
  (hchecks:g.recordChecks chunk=.ok u):Ordered (g.storeChunk chunk):=by
 obtain ⟨hopen,-,-,hsequence,-⟩:=recordChecks_ok hchecks
 have hdelivered:=h.delivered_le
 have haccepted:=h.accepted_le
 constructor
 · change g.lastClientDeliveredSequence≤chunk.sequence
   omega
 · change g.lastPolicyAcceptedSequence≤chunk.sequence
   omega
 · refine forall_insert (fun n c hc=>?_) ⟨rfl,Nat.le_refl _,hopen⟩
   have hkept:=h.keys n c hc
   refine ⟨hkept.sequence,?_,hopen⟩
   have hgenerated:=hkept.generated
   change n≤chunk.sequence
   omega

lemma Ordered.recordChunk(h:Ordered g)(chunk:GenerationChunk):Ordered (g.recordChunk chunk).2:=by
 unfold OutputDeliveryGate.recordChunk
 cases hchecks:g.recordChecks chunk with
 | error e=>exact h
 | ok u=>
  have hstored:=h.storeChunk hchecks
  simp only
  split
  · exact hstored
  · split
    · exact hstored
    · next deliverable hdeliverable=>
      have hsequence:=(hstored.keys _ _ hdeliverable).sequence
      constructor
      · change deliverable.sequence≤(g.storeChunk chunk).lastGeneratedSequence
        rw [hsequence]
      · exact hstored.accepted_le
      · intro n c hc
        rw [lookup_erase] at hc
        split at hc
        · cases hc
        · have hkept:=hstored.keys n c hc
          exact ⟨hkept.sequence,hkept.generated,hkept.running⟩

lemma Ordered.acceptThrough(h:Ordered g){accepted:Option ℕ}
  (hle:∀n,accepted=some n→n≤g.lastGeneratedSequence):Ordered (g.acceptThrough accepted):=by
 cases accepted with
 | none=>exact h
 | some n=>
  refine ⟨h.delivered_le,max_le h.accepted_le (hle n rfl),fun m c hc=>?_⟩
  have hkept:=h.keys m c hc
  exact ⟨hkept.sequence,hkept.generated,hkept.running⟩

lemma storeReplacements_total{expected:ℕ}(hchunks:Consecutive g expected chunks)(h:Ordered g)
  (hopen:g.stopped=none)(accepted:Option ℕ)
  (haccepted:∀n,accepted=some n→n≤g.lastGeneratedSequence):
  ∃accepted' g',storeReplacements chunks accepted g=(.ok accepted',g')∧Ordered g' ∧
   ∀n,accepted'=some n→n≤g'.lastGeneratedSequence:=by
 induction chunks generalizing g expected accepted with
 | nil=>exact ⟨accepted,g,rfl,h,haccepted⟩
 | cons chunk rest ih=>
  cases hchunks with
  | cons valid own sequence beyond limit next=>
   subst sequence
   obtain ⟨accepted',g',hstore,hordered,hbound⟩:=ih (g:=withReplacement g chunk)
    (next.congr ⟨rfl,rfl,rfl,rfl⟩ rfl)
    ⟨h.delivered_le.trans (le_max_left _ _),h.accepted_le.trans (le_max_left _ _),forall_insert
      (fun n c hc=>⟨(h.keys n c hc).sequence,
       (h.keys n c hc).generated.trans (le_max_left _ _),hopen⟩)
      ⟨rfl,le_max_right _ _,hopen⟩⟩
    hopen
    (some (accepted.elim chunk.sequence fun a=>max a chunk.sequence))
    (by
     rintro n hn
     have hgenerated:(withReplacement g chunk).lastGeneratedSequence =
       max g.lastGeneratedSequence chunk.sequence:=rfl
     rw [←Option.some.inj hn,hgenerated]
     cases accepted with
     | none=>exact le_max_right _ _
     | some a=>exact max_le_max (haccepted a rfl) le_rfl)
   refine ⟨accepted',g',?_,hordered,hbound⟩
   rw [storeReplacements,valid]
   simp only [own,beyond,↓reduceIte]
   exact hstore

lemma Ordered.withPending(h:Ordered g)
  (hsame:SamePending g.pending pending):Ordered { g with pending:=pending }:=by
 refine ⟨h.delivered_le,h.accepted_le,fun n chunk hc=>?_⟩
 obtain ⟨old,hold,hsequence,-,-⟩:=hsame.chunks n chunk hc
 have hkept:=h.keys n old hold
 exact ⟨hsequence.trans hkept.sequence,hkept.generated,hkept.running⟩

lemma dropReplaced_fields(g:OutputDeliveryGate)(decision:OutputPolicyDecision):
  ∃pending,g.dropReplaced decision = { g with pending:=pending } ∧
   ∀(n:ℕ) chunk,pending[n]?=some chunk→ g.pending[n]?=some chunk:=by
 unfold dropReplaced
 split
 · next accepted _ _=>
   split
   · refine ⟨_,rfl,fun n chunk hc=>?_⟩
     rw [lookup_erase] at hc
     split at hc
     · cases hc
     · exact hc
   · exact ⟨g.pending,rfl,fun _ _ hc=>hc⟩
 · exact ⟨g.pending,rfl,fun _ _ hc=>hc⟩

lemma Ordered.dropReplaced(h:Ordered g)(decision:OutputPolicyDecision):
  Ordered (g.dropReplaced decision):=by
 obtain ⟨pending,hgate,hpending⟩:=dropReplaced_fields g decision
 rw [hgate]
 refine ⟨h.delivered_le,h.accepted_le,fun n chunk hc=>?_⟩
 have hkept:=h.keys n chunk (hpending n chunk hc)
 exact ⟨hkept.sequence,hkept.generated,hkept.running⟩

lemma applyRewrite_cases(h:Ordered g)(hopen:g.stopped=none)(decision:OutputPolicyDecision):
  (∃e,g.applyRewrite decision=(.error e,g)) ∨
   ∃update g',g.applyRewrite decision=(.ok update,g')∧Ordered g':=by
 unfold OutputDeliveryGate.applyRewrite
 split
 · exact .inr ⟨_,g,rfl,h⟩
 · cases hchecks:g.rewriteChecks decision with
   | error e=>exact .inl ⟨e,rfl⟩
   | ok redacted=>
    unfold rewriteChecks at hchecks
    obtain ⟨_,haccepted,hchecks⟩:=bind_ok.mp hchecks
    obtain ⟨_,hrange,hredacted⟩:=bind_ok.mp hchecks
    obtain ⟨pending,hsame,rfl⟩:=applyRedactions_ok hredacted
    have hbefore:=(h.withPending hsame).dropReplaced decision
    obtain ⟨kept,hgate,-⟩:=dropReplaced_fields { g with pending:=pending } decision
    obtain ⟨accepted',g',hstore,hordered,hbound⟩:=storeReplacements_total
     (g:=dropReplaced { g with pending:=pending } decision)
     ((checkReplacements_ok hrange).congr
      ⟨by rw [hgate],by rw [hgate],by rw [hgate],by rw [hgate]⟩ (by rw [hgate]))
     hbefore (by rw [hgate];exact hopen) decision.acceptedThroughSequence
     (by
      rw [hgate]
      exact checkAccepted_ok haccepted)
    simp only [hstore]
    exact .inr ⟨_,_,rfl,(hordered.acceptThrough hbound).releaseAfterDecision⟩

lemma Ordered.applyStop(h:Ordered g)(decision:OutputPolicyDecision)(occurredAt:ℕ):
  Ordered (g.applyStop decision occurredAt).2:=by
 unfold OutputDeliveryGate.applyStop
 cases hchecked:g.checkAccepted decision.acceptedThroughSequence with
 | error e=>exact h
 | ok u=>
  have haccepted:=h.acceptThrough (checkAccepted_ok hchecked)
  simp only
  split
  · exact haccepted
  · exact ⟨haccepted.delivered_le,haccepted.accepted_le,fun n c hc=>by simp at hc⟩

lemma Ordered.applyAllow(h:Ordered g)(decision:OutputPolicyDecision):
  Ordered (g.applyAllow decision).2:=by
 unfold OutputDeliveryGate.applyAllow
 cases hchecked:g.checkAccepted decision.acceptedThroughSequence with
 | error e=>exact h
 | ok u=>exact (h.acceptThrough (checkAccepted_ok hchecked)).releaseAfterDecision

lemma Ordered.applyRewrite(h:Ordered g)(hopen:g.stopped=none)
  (decision:OutputPolicyDecision):Ordered (g.applyRewrite decision).2:=by
 rcases applyRewrite_cases h hopen decision with ⟨e,he⟩|⟨update,g',hok,hordered⟩
 · rw [he]
   exact h
 · rw [hok]
   exact hordered

lemma Ordered.applyDecision(h:Ordered g)(decision:OutputPolicyDecision)(occurredAt:ℕ):
  Ordered (g.applyDecision decision occurredAt).2:=by
 unfold OutputDeliveryGate.applyDecision
 cases hchecks:g.decisionChecks decision occurredAt with
 | error e=>exact h
 | ok u=>
  have hopen:=(decisionChecks_ok hchecks).1
  cases decision.disposition with
  | allow=>exact h.applyAllow decision
  | hold=>exact h
  | redact=>exact h.applyRewrite hopen decision
  | replace=>exact h.applyRewrite hopen decision
  | _=>exact h.applyStop decision occurredAt

lemma Ordered.step(h:Ordered g)(call:Call):Ordered (step g call).2:=by
 cases call <;>simp only [OutputPolicy.step]
 case recordChunk chunk=>exact h.recordChunk chunk
 case applyDecision decision occurredAt=>exact h.applyDecision decision occurredAt
 case commitAcceptedOutput=>exact h.release .explicitCommit
end

lemma restorePending_keys{generated delivered:ℕ}
  {restored:Pending}(h:g.restorePending generated delivered chunks pending=.ok restored)
  (hpending:∀(n:ℕ) chunk,pending[n]?=some chunk→chunk.sequence=n∧n≤generated):
  ∀(n:ℕ) chunk,restored[n]?=some chunk→chunk.sequence=n∧n≤generated:=by
 induction chunks generalizing pending with
 | nil=>
  cases h
  exact hpending
 | cons chunk rest ih=>
  unfold restorePending at h
  iterate 3 obtain ⟨-,-,h⟩:=bind_ok.mp h
  obtain ⟨_,hle,h⟩:=bind_ok.mp h
  obtain ⟨_,-,h⟩:=bind_ok.mp h
  exact ih h (forall_insert hpending ⟨rfl,of_decide_eq_true (ensure_ok.mp hle)⟩)

lemma Reachable.ordered(h:Reachable g):Ordered g:=by
 induction h with
 | new streamId responseId=>exact ⟨le_rfl,le_rfl,fun n c hc=>by simp [OutputDeliveryGate.new] at hc⟩
 | fromState h=>
  unfold fromStateWithDeliveryPolicy at h
  obtain ⟨gate,hgate,h⟩:=bind_ok.mp h
  obtain ⟨_,-,h⟩:=bind_ok.mp h
  obtain ⟨_,haccepted,h⟩:=bind_ok.mp h
  obtain ⟨_,hdelivered,h⟩:=bind_ok.mp h
  obtain ⟨_,-,h⟩:=bind_ok.mp h
  obtain ⟨chunks,hchunks,h⟩:=bind_ok.mp h
  obtain ⟨_,-,h⟩:=bind_ok.mp h
  cases h
  constructor
  · exact of_decide_eq_true (ensure_ok.mp hdelivered)
  · exact of_decide_eq_true (ensure_ok.mp haccepted)
  · intro n c hc
    obtain ⟨-,-,-,rfl⟩:=withDeliveryPolicy_eq hgate
    obtain ⟨hsequence,hle⟩:=restorePending_keys hchunks (fun n c hc=>by simp at hc) n c hc
    exact ⟨hsequence,hle,rfl⟩
 | fromCutoff h=>
  unfold OutputDeliveryGate.fromCutoff at h
  obtain ⟨_,hvalid,h⟩:=bind_ok.mp h
  cases h
  rename_i cutoff _
  cases hvalidate:cutoff.validate with
  | error e=>
   rw [hvalidate] at hvalid
   cases hvalid
  | ok u=>
   unfold OutputCutoff.validate at hvalidate
   iterate 4 obtain ⟨-,-,hvalidate⟩:=bind_ok.mp hvalidate
   obtain ⟨_,haccepted,hvalidate⟩:=bind_ok.mp hvalidate
   obtain ⟨_,hdelivered,-⟩:=bind_ok.mp hvalidate
   exact ⟨of_decide_eq_true (ensure_ok.mp hdelivered),of_decide_eq_true (ensure_ok.mp haccepted),
    fun n c hc=>by simp [OutputDeliveryGate.new] at hc⟩
 | withTurnId _ turnId ih=>
  refine ⟨ih.delivered_le,ih.accepted_le,fun n c hc=>?_⟩
  have hkept:=ih.keys n c hc
  refine ⟨hkept.sequence,hkept.generated,?_⟩
  change Option.map _ _=none
  rw [hkept.running]
  rfl
 | withDeliveryPolicy _ hpolicy ih=>
  unfold OutputDeliveryGate.withDeliveryPolicy at hpolicy
  obtain ⟨_,-,hpolicy⟩:=bind_ok.mp hpolicy
  obtain ⟨_,-,hpolicy⟩:=bind_ok.mp hpolicy
  cases hpolicy
  refine ⟨ih.delivered_le,ih.accepted_le,fun n c hc=>?_⟩
  have hkept:=ih.keys n c hc
  exact ⟨hkept.sequence,hkept.generated,hkept.running⟩
 | call _ call ih=>exact ih.step call

def KeepsUnacceptedDraft (g:OutputDeliveryGate) : Call→Prop
 | .applyDecision decision occurredAt=>
  g.decisionChecks decision occurredAt=.ok () ∧
   (decision.disposition=.abortResponse∨decision.disposition=.abortTurn ∨
    decision.disposition=.denyCommit) ∧
   decision.draftDisposition=.keep ∧
   ∃accepted,decision.acceptedThroughSequence=some accepted ∧
    g.lastPolicyAcceptedSequence<accepted∧accepted<g.lastClientDeliveredSequence
 | .recordChunk _=>False
 | .commitAcceptedOutput=>False

section
variable {g:OutputDeliveryGate} {decision:OutputPolicyDecision}

lemma cutoff_validate_iff(h:Ordered g){occurredAt:ℕ}
  (hchecks:g.decisionChecks decision occurredAt=.ok ()):
  (g.cutoffOf decision occurredAt).validate=.ok () ↔
   g.lastClientDeliveredSequence≤g.lastPolicyAcceptedSequence ∨
    decision.draftDisposition ≠ .keep:=by
 unfold decisionChecks at hchecks
 obtain ⟨_,hidentity,hchecks⟩:=bind_ok.mp hchecks
 obtain ⟨_,-,hchecks⟩:=bind_ok.mp hchecks
 obtain ⟨_,hoccurred,hdecision⟩:=bind_ok.mp hchecks
 unfold validateIdentity at hidentity
 obtain ⟨_,hstream,hidentity⟩:=bind_ok.mp hidentity
 obtain ⟨_,hresponse,hturn⟩:=bind_ok.mp hidentity
 unfold OutputPolicyDecision.validate at hdecision
 obtain ⟨_,hid,-⟩:=bind_ok.mp hdecision
 have hnotBlank:(!(some decision.decisionId).any isBlank)=true:=ensure_ok.mp hid
 unfold OutputCutoff.validate cutoffOf
 simp only [ensure_ok.mp hstream,ensure_ok.mp hresponse,ensure_ok.mp hturn,hnotBlank,
  decide_eq_true h.accepted_le,decide_eq_true h.delivered_le,ensure_ok.mp hoccurred]
 constructor
 · intro hvalid
   iterate 6 obtain ⟨-,-,hvalid⟩:=bind_ok.mp hvalid
   obtain ⟨_,hkept,-⟩:=bind_ok.mp hvalid
   simpa using ensure_ok.mp hkept
 · intro hkept
   have hcondition:(decide (g.lastClientDeliveredSequence≤g.lastPolicyAcceptedSequence) ||
     decision.draftDisposition != .keep)=true:=by simpa using hkept
   rw [hcondition]
   rfl

lemma acceptThrough_of_le{accepted:Option ℕ}
  (hle:∀n,accepted=some n→n≤g.lastPolicyAcceptedSequence):g.acceptThrough accepted=g:=by
 cases accepted with
 | none=>rfl
 | some n=>rw [acceptThrough,max_eq_left (hle n rfl)]

lemma decisionChecks_congr{g':OutputDeliveryGate}(hsame:SameGate g g')
  (hstopped:g'.stopped=g.stopped)(decision:OutputPolicyDecision)(occurredAt:ℕ):
  g'.decisionChecks decision occurredAt=g.decisionChecks decision occurredAt:=by
 unfold decisionChecks validateIdentity
 rw [hsame.streamId,hsame.responseId,hsame.turnId,hstopped]

lemma applyStop_failure_iff(h:Ordered g){occurredAt:ℕ}
  (hchecks:g.decisionChecks decision occurredAt=.ok ()):
  (∀e,(g.applyStop decision occurredAt).1=.error e→(g.applyStop decision occurredAt).2=g) ↔
   ¬(decision.draftDisposition=.keep∧∃accepted,decision.acceptedThroughSequence=some accepted ∧
     g.lastPolicyAcceptedSequence<accepted ∧
     accepted<g.lastClientDeliveredSequence):=by
 cases haccepted:g.checkAccepted decision.acceptedThroughSequence with
 | error e=>
  have hresult:g.applyStop decision occurredAt=(.error e,g):=by
   rw [OutputDeliveryGate.applyStop,haccepted]
  rw [hresult]
  refine iff_of_true (fun _ _=>rfl) ?_
  rintro ⟨-,accepted,hsome,-,hlt⟩
  have hle:accepted≤g.lastGeneratedSequence:=by
   have hdelivered:=h.delivered_le
   omega
  rw [hsome,checkAccepted,decide_eq_true hle] at haccepted
  cases haccepted
 | ok u=>
  have hbound:=checkAccepted_ok haccepted
  have hordered:=h.acceptThrough hbound
  obtain ⟨hsame,hdelivered⟩:=acceptThrough_same g decision.acceptedThroughSequence
  have hstopped:(g.acceptThrough decision.acceptedThroughSequence).stopped=g.stopped:=by
   cases decision.acceptedThroughSequence <;>rfl
  have hvalid:=cutoff_validate_iff hordered
   ((decisionChecks_congr hsame hstopped decision occurredAt).trans hchecks)
  rw [hdelivered] at hvalid
  cases hvalidate:((g.acceptThrough decision.acceptedThroughSequence).cutoffOf decision
    occurredAt).validate with
  | ok u=>
   have hresult:∃update,(g.applyStop decision occurredAt).1=.ok update:=by
    rw [OutputDeliveryGate.applyStop,haccepted]
    simp only [hvalidate]
    exact ⟨_,rfl⟩
   obtain ⟨update,hupdate⟩:=hresult
   refine iff_of_true (fun e he=>by rw [hupdate] at he;cases he) ?_
   rintro ⟨hkeep,accepted,hsome,hraised,hlt⟩
   rcases hvalid.mp hvalidate with hle|hne
   · rw [hsome,acceptThrough] at hle
     change g.lastClientDeliveredSequence≤ max g.lastPolicyAcceptedSequence accepted at hle
     omega
   · exact hne hkeep
  | error e=>
   have hresult:g.applyStop decision occurredAt =
     (.error (.invalidCutoff e),g.acceptThrough decision.acceptedThroughSequence):=by
    rw [OutputDeliveryGate.applyStop,haccepted]
    simp only [hvalidate]
   have hinvalid:¬(g.lastClientDeliveredSequence ≤
     (g.acceptThrough decision.acceptedThroughSequence).lastPolicyAcceptedSequence ∨
      decision.draftDisposition ≠ .keep):=by
    rw [←hvalid,hvalidate]
    exact nofun
   obtain ⟨hbeyond,hkeep⟩:=not_or.mp hinvalid
   rw [hresult]
   constructor
   · rintro hsameGate ⟨-,accepted,hsome,hraised,-⟩
     have hcounter:=congrArg OutputDeliveryGate.lastPolicyAcceptedSequence (hsameGate _ rfl)
     rw [hsome] at hcounter
     change max g.lastPolicyAcceptedSequence accepted=g.lastPolicyAcceptedSequence at hcounter
     omega
   · intro hnot _ _
     apply acceptThrough_of_le
     intro accepted hsome
     by_contra hraised
     apply hnot
     refine ⟨not_ne_iff.mp hkeep,accepted,hsome,by omega,?_⟩
     rw [hsome,acceptThrough] at hbeyond
     change ¬g.lastClientDeliveredSequence≤ max g.lastPolicyAcceptedSequence accepted
      at hbeyond
     omega
end

/-- In every gate that the public functions can give, a call that fails leaves the gate as it
was, unless it is a stop that keeps a draft of which it accepts a part. -/
theorem failed_call_leaves_gate_iff {g : OutputDeliveryGate} (h : Reachable g) (call : Call) :
  (∀e,(step g call).1=.error e→(step g call).2=g)↔¬KeepsUnacceptedDraft g call := by
 have hordered:=h.ordered
 cases call with
 | commitAcceptedOutput=>exact iff_of_true (fun e he=>by cases he) id
 | recordChunk chunk=>
  refine iff_of_true (fun e he => ?_) id
  simp only [step,OutputDeliveryGate.recordChunk] at he ⊢
  cases hchecks:g.recordChecks chunk with
  | error e=>rfl
  | ok u=>
   rw [hchecks] at he
   simp only at he
   split at he
   · cases he
   · split at he
     · cases he
     · cases he
 | applyDecision decision occurredAt=>
  simp only [step,OutputDeliveryGate.applyDecision,KeepsUnacceptedDraft]
  cases hchecks:g.decisionChecks decision occurredAt with
  | error e=>exact iff_of_true (fun _ _=>rfl) fun hnot=>by cases hnot.1
  | ok u=>
   have hrewrite:∀e,(g.applyRewrite decision).1.map Response.update=.error e →
     (g.applyRewrite decision).2=g:=by
    intro e he
    have hopen:=(decisionChecks_ok hchecks).1
    rcases applyRewrite_cases hordered hopen decision with
     ⟨e',hfailed⟩ | ⟨update,g',hok,-⟩
    · rw [hfailed]
    · rw [hok] at he
      cases he
   have hstop:(∀e,(g.applyStop decision occurredAt).1.map Response.update=.error e →
     (g.applyStop decision occurredAt).2=g) ↔
     ¬(decision.draftDisposition=.keep ∧ ∃accepted,decision.acceptedThroughSequence=some accepted ∧
       g.lastPolicyAcceptedSequence<accepted ∧
       accepted<g.lastClientDeliveredSequence):=by
    rw [←applyStop_failure_iff hordered hchecks]
    cases (g.applyStop decision occurredAt).1 with
    | error e'=>simp [Except.map]
    | ok update=>simp [Except.map]
   cases decision.disposition with
   | allow=>
    refine iff_of_true (fun e he => ?_) (by simp)
    simp only [OutputDeliveryGate.applyAllow] at he ⊢
    cases haccepted:g.checkAccepted decision.acceptedThroughSequence with
    | error e=>rfl
    | ok u=>
     rw [haccepted] at he
     cases he
   | hold=>exact iff_of_true (fun e he=>by cases he) (by simp)
   | redact=>exact iff_of_true hrewrite (by simp)
   | replace=>exact iff_of_true hrewrite (by simp)
   | abortResponse=>simpa using hstop
   | abortTurn=>simpa using hstop
   | denyCommit=>simpa using hstop

/-- A stop that accepts the first of two delivered chunks and keeps the draft. -/
def partialStop : Call :=
 .applyDecision { plainDecision .abortResponse (some 1) with draftDisposition:=.keep } 1

def draftPolicy : OutputDeliveryPolicy where
 mode:=.immediateDraft
 holdbackMaxTokens:=none
 holdbackMaxBytes:=none
 holdbackMaxDurationMs:=none
 flushBoundaries:=[]
 onViolation:=.abortResponse
 deliveredDraftDisposition:=.retract

def draftGate : OutputDeliveryGate :=
 execute step { new "stream-1" "response-1" with deliveryPolicy:=draftPolicy }
  [.recordChunk (chunkOf 1),.recordChunk (chunkOf 2)]

lemma reachable_execute(h:Reachable g)(calls:List Call):Reachable (execute step g calls):=
 execute_invariant step h (fun _ call hgate=>hgate.call call) calls

/-- Three chunks, of which the policy accepts the first two and releases them. -/
def heldGate : OutputDeliveryGate :=
 execute step { new "stream-1" "response-1" with deliveryPolicy := .standard }
  [.recordChunk (chunkOf 1), .recordChunk (chunkOf 2), .recordChunk (chunkOf 3),
   .applyDecision (plainDecision .allow (some 2)) 1]

def lateStop : Call :=
 .applyDecision { plainDecision .abortResponse (some 4) with draftDisposition := .keep } 1

theorem late_stop_leaves_gate : heldGate.lastClientDeliveredSequence = 2 ∧
  heldGate.pending[3]? = some (chunkOf 3) ∧ (step heldGate lateStop).2 = heldGate := by
 refine ⟨by decide +kernel,by decide +kernel,?_⟩
 have hpolicy:(new "stream-1" "response-1").withDeliveryPolicy .standard =
   .ok { new "stream-1" "response-1" with deliveryPolicy:=.standard }:=rfl
 have hreachable:Reachable heldGate:=
  reachable_execute (.withDeliveryPolicy (.new "stream-1" "response-1") hpolicy) _
 apply (failed_call_leaves_gate_iff hreachable lateStop).mpr
  (e:=.acceptedSequenceBeyondGenerated 3 4)
 · rintro ⟨-,-,-,accepted,haccepted,-,hlt⟩
   cases haccepted
   revert hlt
   decide +kernel
 · decide +kernel

theorem partial_stop_raises_acceptance : Reachable draftGate∧(step draftGate partialStop).1 =
   .error (.invalidCutoff (.deliveredDraftBeyondPolicyAcceptanceKept 1 2)) ∧
  draftGate.lastPolicyAcceptedSequence=0 ∧
  (step draftGate partialStop).2.lastPolicyAcceptedSequence=1 := by
 have hpolicy:(new "stream-1" "response-1").withDeliveryPolicy draftPolicy =
   .ok { new "stream-1" "response-1" with deliveryPolicy:=draftPolicy }:=rfl
 have hbuilt:=Reachable.withDeliveryPolicy (.new "stream-1" "response-1") hpolicy
 refine ⟨reachable_execute hbuilt _,?_⟩
 decide +kernel

end GraphBlocks.OutputPolicy
