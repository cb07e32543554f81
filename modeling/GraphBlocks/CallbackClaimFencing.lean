import GraphBlocks.CallbackQueueSteps

namespace GraphBlocks.CallbackDeliveries
open Std Json OrderedMap RustStd CanonicalJson MachineRuns List
open SqliteCallbackDeliveryQueue

abbrev QueueTransition := Transition SqliteCallbackDeliveryQueue QueueCall (Outcome QueueResponse)

def grantsOf (id:String) (past:List QueueTransition) : List ClaimedCallbackDelivery :=
 past.flatMap fun t=>grantsIn id t.response

lemma grantsOf_concat(id:String)(past:List QueueTransition)(t:QueueTransition):
  grantsOf id (past++[t])=grantsOf id past++grantsIn id t.response:=by
 simp [grantsOf]

section
variable {d:StringDisplay} (reader:JsonReader d)

def HeldBy (entry:Entry) (claim:ClaimedCallbackDelivery) : Prop :=
 entry.generation=claim.claimGeneration ∧
  entry.interval=some (claim.claimStartedAtUnixMs,claim.claimExpiresAtUnixMs)

def Ends (id:String) (claim:ClaimedCallbackDelivery) (t:QueueTransition) : Prop :=
 Completes id claim.claimGeneration t.call t.response ∨
  ∃now entry,t.call=.recover now∧claim.claimExpiresAtUnixMs≤now ∧
   entryAt reader t.before id=some entry∧HeldBy entry claim

def Presented (queue:SqliteCallbackDeliveryQueue) : QueueCall→Prop
 | .complete claim delivery _ _=>
  ∀entry,entryAt reader queue delivery.deliveryId=some entry→HeldBy entry claim →
   sameMetadata claim.delivery entry.delivery=true∧entry.delivery.attempt≤claim.delivery.attempt
 | _=>True

variable {reader} {id:String} {call:QueueCall} {response:Outcome QueueResponse}
 {entry entry':Option Entry}

/-- What a call may do to a delivery that is in the queue. -/
structure Kept (delivery delivery':CallbackDelivery) : Prop where
 terminal:callbackDeliveryStatusIsTerminal delivery.status=true→delivery'=delivery ∨
  delivery.status=.deadLettered∧delivery'.status=.pending ∧
   delivery.redriveCount<delivery'.redriveCount
 attempt:delivery.attempt≤delivery'.attempt
 metadata:sameMetadata delivery' delivery=true

lemma sameMetadata_iff(a b:CallbackDelivery):sameMetadata a b=true ↔
  a.subscriptionId=b.subscriptionId∧a.eventId=b.eventId∧a.runId=b.runId ∧
   a.sequence=b.sequence∧a.cursor=b.cursor∧a.idempotencyKey=b.idempotencyKey ∧
   a.failurePolicy=b.failurePolicy:=by
 simp only [sameMetadata,Bool.and_eq_true,beq_iff_eq,and_assoc]

lemma sameMetadata_refl(a:CallbackDelivery):sameMetadata a a=true:=
 (sameMetadata_iff a a).mpr ⟨rfl,rfl,rfl,rfl,rfl,rfl,rfl⟩

lemma sameMetadata_trans{a b c:CallbackDelivery}(h:sameMetadata a b=true)
  (h':sameMetadata b c=true):sameMetadata a c=true:=by
 rw [sameMetadata_iff] at h h' ⊢
 obtain ⟨h1,h2,h3,h4,h5,h6,h7⟩:=h
 obtain ⟨g1,g2,g3,g4,g5,g6,g7⟩:=h'
 exact ⟨h1.trans g1,h2.trans g2,h3.trans g3,h4.trans g4,h5.trans g5,h6.trans g6,h7.trans g7⟩

lemma Kept.refl(delivery:CallbackDelivery):Kept delivery delivery:=
 ⟨fun _=>.inl rfl,Nat.le_refl _,sameMetadata_refl delivery⟩

variable {delivery:CallbackDelivery}

lemma Kept.of_open{delivery':CallbackDelivery}
  (hopen:callbackDeliveryStatusIsTerminal delivery.status=false)
  (hattempt:delivery.attempt≤delivery'.attempt)
  (hmetadata:sameMetadata delivery' delivery=true):Kept delivery delivery':=
 ⟨fun hterminal=>absurd (hopen.symm.trans hterminal) Bool.false_ne_true,hattempt,hmetadata⟩

variable {queue:SqliteCallbackDeliveryQueue} {e:Entry}

lemma Moves.kept(h:Moves id call response (some e) entry')(hpresented:Presented reader queue call)
  (hentry:entryAt reader queue id=some e):∃e',entry'=some e'∧Kept e.delivery e'.delivery:=by
 cases h with
 | stays ungranted incomplete=>exact ⟨e,rfl,.refl _⟩
 | redriven deliveryId redrive attempt=>
  obtain ⟨hdead,hpending,hcount,hmetadata⟩:=validRedrive_status redrive
  exact ⟨_,rfl,fun _=>.inr ⟨hdead,hpending,hcount⟩,attempt,hmetadata⟩
 | granted status lease claims=>
  refine ⟨_,rfl,.of_open ?_ (Nat.le_refl _) (sameMetadata_refl e.delivery)⟩
  rw [status]
  rfl
 | completed deliveryId claimId fenced inTime status metadata attempt=>
  subst deliveryId
  obtain ⟨hsame,hattempt⟩:=hpresented e hentry ⟨fenced.2.1,fenced.2.2⟩
  refine ⟨_,rfl,.of_open ?_ (hattempt.trans attempt) (sameMetadata_trans metadata hsame)⟩
  rw [fenced.1]
  rfl
 | released counted status interval lapsed=>
  refine ⟨_,rfl,.of_open ?_ (Nat.le_refl _) (sameMetadata_refl e.delivery)⟩
  rw [status]
  rfl
 | withdrawn counted status=>
  refine ⟨_,rfl,.of_open ?_ (Nat.le_refl _) (sameMetadata_refl e.delivery)⟩
  rw [status]
  rfl

lemma concat_split{α:Type}{past before after:List α}{t u:α}(h:past++[t]=before++u::after):
  after=[]∧before=past∧u=t ∨ ∃rest,after=rest++[t]∧past=before++u::rest:=by
 rcases eq_nil_or_concat after with rfl|⟨rest,last,rfl⟩
 · obtain ⟨hpast,ht⟩:=append_inj' h rfl
   exact .inl ⟨rfl,hpast.symm,(singleton_inj.mp ht).symm⟩
 · have hsplit:past++[t]=(before++u::rest)++[last]:=by simpa using h
   obtain ⟨hpast,ht⟩:=append_inj' hsplit rfl
   exact .inr ⟨rest,by rw [singleton_inj.mp ht,concat_eq_append],hpast⟩

/-- What the past of a run says about the claims of a delivery, given the entry it has now. -/
structure Fenced (reader:JsonReader d) (id:String) (past:List QueueTransition)
  (entry:Option Entry) : Prop where
 increasing:(grantsOf id past).Pairwise fun a b=>a.claimGeneration<b.claimGeneration
 bounded:∀claim∈grantsOf id past,∃e,entry=some e∧claim.claimGeneration≤e.generation
 held:∀e start expiry,entry=some e→e.interval=some (start,expiry) →
  ∃claim,(grantsOf id past).getLast?=some claim∧HeldBy e claim
 ended:∀before t after claim,past=before++t::after→claim∈grantsIn id t.response →
  (∃e,entry=some e∧HeldBy e claim) ∨ ∃u∈after,Ends reader id claim u
 separated:∀before t between u after first second,
  past=(before++t::between)++u::after→first∈grantsIn id t.response →
  second∈grantsIn id u.response → ∃v∈between,Ends reader id first v
 completed:∀t∈past,∀generation,Completes id generation t.call t.response →
  ∃e,entry=some e∧generation≤e.generation∧(generation=e.generation→e.interval=none)
 once:past.Pairwise fun t u=>∀generation,Completes id generation t.call t.response →
  ¬Completes id generation u.call u.response
 latest:∀before t after,past=before++t::after → ∀claim delivery sized completedAt,
  t.call=.complete claim delivery sized completedAt→delivery.deliveryId=id →
  t.response=.ok .done →
  (claim.claimStartedAtUnixMs≤completedAt∧completedAt<claim.claimExpiresAtUnixMs) ∧
   ∃granted,(grantsOf id before).getLast?=some granted ∧
    granted.claimGeneration=claim.claimGeneration ∧
    granted.claimStartedAtUnixMs=claim.claimStartedAtUnixMs ∧
    granted.claimExpiresAtUnixMs=claim.claimExpiresAtUnixMs

section
variable {past:List QueueTransition} {t:QueueTransition} {claim:ClaimedCallbackDelivery}

lemma Completes.generation_eq{generation:ℕ}{sized:delivery.Sized}{completedAt:ℕ}
  (h:Completes id generation (.complete claim delivery sized completedAt) response):
  generation=claim.claimGeneration:=by
 obtain ⟨⟨other,done,hsized,at',hcall,-,hgeneration⟩,-⟩:=h
 cases hcall
 exact hgeneration.symm

lemma Fenced.quiet(h:Fenced reader id past entry)(hungranted:grantsIn id t.response=[])
  (hincomplete:∀generation,¬Completes id generation t.call t.response)
  (hgeneration:∀e,entry=some e→∃e',entry'=some e'∧e'.generation=e.generation)
  (hinterval:∀e' start expiry,entry'=some e'→e'.interval=some (start,expiry)→entry=some e')
  (hfreed:∀e start expiry,entry=some e→e.interval=some (start,expiry) →
   entry'=some e ∨ ∀claim,HeldBy e claim→Ends reader id claim t)
  (hunclaimed:∀e e',entry=some e→entry'=some e'→e.interval=none→e'.interval=none):
  Fenced reader id (past++[t]) entry':=by
 have hgrants:grantsOf id (past++[t])=grantsOf id past:=by
  rw [grantsOf_concat,hungranted,append_nil]
 constructor
 · rw [hgrants]
   exact h.increasing
 · rw [hgrants]
   intro claim hclaim
   obtain ⟨e,he,hle⟩:=h.bounded claim hclaim
   obtain ⟨e',he',hsame⟩:=hgeneration e he
   exact ⟨e',he',hsame▸hle⟩
 · rw [hgrants]
   intro e' start expiry he' hheld
   exact h.held e' start expiry (hinterval e' start expiry he' hheld) hheld
 · intro before u after claim hsplit hclaim
   rcases concat_split hsplit with ⟨rfl,rfl,rfl⟩|⟨rest,rfl,hpast⟩
   · rw [hungranted] at hclaim
     cases hclaim
   · rcases h.ended before u rest claim hpast hclaim with ⟨e,he,hheld⟩|⟨v,hv,hends⟩
     · rcases hfreed e _ _ he hheld.2 with he'|hends
       · exact .inl ⟨e,he',hheld⟩
       · exact .inr ⟨t,mem_append_right _ (mem_singleton_self _),hends claim hheld⟩
     · exact .inr ⟨v,mem_append_left _ hv,hends⟩
 · intro before t' between u after first second hsplit hfirst hsecond
   rcases concat_split hsplit with ⟨rfl,-,rfl⟩|⟨rest,rfl,hpast⟩
   · rw [hungranted] at hsecond
     cases hsecond
   · exact h.separated before t' between u rest first second hpast hfirst hsecond
 · intro u hu generation hcompletes
   rcases mem_append.mp hu with hold|hnew
   · obtain ⟨e,he,hle,hnone⟩:=h.completed u hold generation hcompletes
     obtain ⟨e',he',hsame⟩:=hgeneration e he
     refine ⟨e',he',hsame▸hle,fun hlatest=>?_⟩
     exact hunclaimed e e' he he' (hnone (hlatest.trans hsame))
   · cases mem_singleton.mp hnew
     exact absurd hcompletes (hincomplete generation)
 · rw [pairwise_append]
   refine ⟨h.once,pairwise_singleton _ _,?_⟩
   intro u hu v hv generation _ hcompletes
   cases mem_singleton.mp hv
   exact hincomplete generation hcompletes
 · intro before u after hsplit claim delivery sized completedAt hcall howner hresponse
   rcases concat_split hsplit with ⟨rfl,rfl,rfl⟩|⟨rest,rfl,hpast⟩
   · exact absurd ⟨⟨claim,delivery,sized,completedAt,hcall,howner,rfl⟩,hresponse⟩
      (hincomplete _)
   · exact h.latest before u rest hpast claim delivery sized completedAt hcall howner hresponse

lemma Fenced.grant{claimedDelivery:CallbackDelivery}(h:Fenced reader id past (some e))
  (hunclaimed:e.interval=none)(hgrants:grantsIn id t.response=[claim])
  (hgeneration:claim.claimGeneration=e.generation+1)
  (hincomplete:∀generation,¬Completes id generation t.call t.response):
  Fenced reader id (past++[t]) (some ⟨claimedDelivery,e.generation+1,
   some (claim.claimStartedAtUnixMs,claim.claimExpiresAtUnixMs)⟩):=by
 have hbounded:∀earlier∈grantsOf id past,earlier.claimGeneration≤e.generation:=by
  intro earlier hearlier
  obtain ⟨e',he',hle⟩:=h.bounded earlier hearlier
  cases he'
  exact hle
 have hnew:HeldBy ⟨claimedDelivery,e.generation+1,
   some (claim.claimStartedAtUnixMs,claim.claimExpiresAtUnixMs)⟩ claim:=
  ⟨hgeneration.symm,rfl⟩
 constructor
 · rw [grantsOf_concat,hgrants,pairwise_append]
   refine ⟨h.increasing,pairwise_singleton _ _,?_⟩
   intro earlier hearlier later hlater
   cases mem_singleton.mp hlater
   have hle:=hbounded earlier hearlier
   omega
 · rw [grantsOf_concat,hgrants]
   intro earlier hearlier
   refine ⟨_,rfl,?_⟩
   rcases mem_append.mp hearlier with hold|hnew
   · exact (hbounded earlier hold).trans (Nat.le_succ _)
   · cases mem_singleton.mp hnew
     exact hgeneration.le
 · rw [grantsOf_concat,hgrants]
   intro e' start expiry he' _
   cases he'
   exact ⟨claim,List.getLast?_concat,hnew⟩
 · intro before u after earlier hsplit hearlier
   rcases concat_split hsplit with ⟨rfl,rfl,rfl⟩|⟨rest,rfl,hpast⟩
   · rw [hgrants] at hearlier
     cases mem_singleton.mp hearlier
     exact .inl ⟨_,rfl,hnew⟩
   · -- an earlier claim is over, since the delivery was under none
     rcases h.ended before u rest earlier hpast hearlier with ⟨e',he',hheld⟩|⟨v,hv,hends⟩
     · cases he'
       rw [hheld.2] at hunclaimed
       cases hunclaimed
     · exact .inr ⟨v,mem_append_left _ hv,hends⟩
 · intro before t' between u after first second hsplit hfirst hsecond
   rcases concat_split hsplit with ⟨rfl,hpast,rfl⟩|⟨rest,rfl,hpast⟩
   · rcases h.ended before t' between first hpast.symm hfirst with ⟨e',he',hheld⟩|hends
     · cases he'
       rw [hheld.2] at hunclaimed
       cases hunclaimed
     · exact hends
   · exact h.separated before t' between u rest first second hpast hfirst hsecond
 · intro u hu generation hcompletes
   rcases mem_append.mp hu with hold|hnew
   · obtain ⟨e',he',hle,-⟩:=h.completed u hold generation hcompletes
     cases he'
     refine ⟨_,rfl,hle.trans (Nat.le_succ _),fun hlatest=>?_⟩
     simp only at hlatest
     omega
   · cases mem_singleton.mp hnew
     exact absurd hcompletes (hincomplete generation)
 · rw [pairwise_append]
   refine ⟨h.once,pairwise_singleton _ _,?_⟩
   intro u hu v hv generation _ hcompletes
   cases mem_singleton.mp hv
   exact hincomplete generation hcompletes
 · intro before u after hsplit other delivery sized completedAt hcall howner hresponse
   rcases concat_split hsplit with ⟨rfl,rfl,rfl⟩|⟨rest,rfl,hpast⟩
   · exact absurd ⟨⟨other,delivery,sized,completedAt,hcall,howner,rfl⟩,hresponse⟩
      (hincomplete _)
   · exact h.latest before u rest hpast other delivery sized completedAt hcall howner hresponse

lemma Fenced.complete{sized:delivery.Sized}{completedAt:ℕ}
  (h:Fenced reader id past (some e))(hcall:t.call=.complete claim delivery sized completedAt)
  (howner:delivery.deliveryId=id)(hresponse:t.response=.ok .done)(hheld:HeldBy e claim)
  (hinTime:claim.claimStartedAtUnixMs≤completedAt∧completedAt<claim.claimExpiresAtUnixMs):
  Fenced reader id (past++[t]) (some ⟨delivery,e.generation,none⟩):=by
 have hcompletes:Completes id claim.claimGeneration t.call t.response:=
  ⟨⟨claim,delivery,sized,completedAt,hcall,howner,rfl⟩,hresponse⟩
 have honly:∀generation,Completes id generation t.call t.response→ generation=e.generation:=by
  intro generation hother
  rw [hcall] at hother
  exact hother.generation_eq.trans hheld.1.symm
 have hgrants:grantsOf id (past++[t])=grantsOf id past:=by
  rw [grantsOf_concat,hresponse]
  exact append_nil _
 constructor
 · rw [hgrants]
   exact h.increasing
 · rw [hgrants]
   intro earlier hearlier
   obtain ⟨e',he',hle⟩:=h.bounded earlier hearlier
   cases he'
   exact ⟨_,rfl,hle⟩
 · intro e' start expiry he' hinterval
   cases he'
   cases hinterval
 · intro before u after earlier hsplit hearlier
   rcases concat_split hsplit with ⟨rfl,rfl,rfl⟩|⟨rest,rfl,hpast⟩
   · rw [hresponse] at hearlier
     cases hearlier
   · rcases h.ended before u rest earlier hpast hearlier with ⟨e',he',hother⟩|⟨v,hv,hends⟩
     · cases he'
       refine .inr ⟨t,mem_append_right _ (mem_singleton_self _),.inl ?_⟩
       rw [←hother.1,hheld.1]
       exact hcompletes
     · exact .inr ⟨v,mem_append_left _ hv,hends⟩
 · intro before t' between u after first second hsplit hfirst hsecond
   rcases concat_split hsplit with ⟨rfl,-,rfl⟩|⟨rest,rfl,hpast⟩
   · rw [hresponse] at hsecond
     cases hsecond
   · exact h.separated before t' between u rest first second hpast hfirst hsecond
 · intro u hu generation hother
   rcases mem_append.mp hu with hold|hnew
   · obtain ⟨e',he',hle,-⟩:=h.completed u hold generation hother
     cases he'
     exact ⟨_,rfl,hle,fun _=>rfl⟩
   · cases mem_singleton.mp hnew
     exact ⟨_,rfl,(honly generation hother).le,fun _=>rfl⟩
 · rw [pairwise_append]
   refine ⟨h.once,pairwise_singleton _ _,?_⟩
   intro u hu v hv generation hearlier hlater
   cases mem_singleton.mp hv
   -- the earlier completion left the delivery without the claim
   obtain ⟨e',he',-,hnone⟩:=h.completed u hu generation hearlier
   cases he'
   have hinterval:=hnone (honly generation hlater)
   rw [hheld.2] at hinterval
   cases hinterval
 · intro before u after hsplit other done sized' completedAt' hcall' howner' hresponse'
   rcases concat_split hsplit with ⟨rfl,rfl,rfl⟩|⟨rest,rfl,hpast⟩
   · rw [hcall] at hcall'
     cases hcall'
     obtain ⟨granted,hlast,hgranted⟩:=h.held e _ _ rfl hheld.2
     have hinterval:=hgranted.2.symm.trans hheld.2
     rw [Option.some.injEq,Prod.mk.injEq] at hinterval
     exact ⟨hinTime,granted,hlast,hgranted.1.symm.trans hheld.1,hinterval.1,hinterval.2⟩
   · exact h.latest before u rest hpast other done sized' completedAt' hcall' howner' hresponse'

lemma Fenced.unclaim(h:Fenced reader id past (some e))(hungranted:grantsIn id t.response=[])
  (hincomplete:∀generation,¬Completes id generation t.call t.response)
  (hends:∀claim,HeldBy e claim→Ends reader id claim t):
  Fenced reader id (past++[t]) (some ⟨delivery,e.generation,none⟩):=by
 apply h.quiet hungranted hincomplete
 · intro e' he'
   cases he'
   exact ⟨_,rfl,rfl⟩
 · intro e' start expiry he' hinterval
   cases he'
   cases hinterval
 · intro e' start expiry he' _
   cases he'
   exact .inr hends
 · intro e₁ e₂ _ he₂ _
   cases he₂
   rfl

lemma not_heldBy(h:e.interval=none):¬HeldBy e claim:=by
 rintro ⟨-,hinterval⟩
 rw [h] at hinterval
 cases hinterval

lemma Fenced.step(h:Fenced reader id past entry)
  (hunclaimed:∀e,entry=some e→e.delivery.status ≠ .delivering→e.interval=none)
  (hbefore:entryAt reader t.before id=entry)
  (hmoves:Moves id t.call t.response entry entry'):Fenced reader id (past++[t]) entry':=by
 obtain ⟨before,call,response,after⟩:=t
 cases hmoves with
 | stays ungranted incomplete=>
  exact h.quiet ungranted incomplete (fun e he=>⟨e,he,rfl⟩) (fun _ _ _ he _=>he)
   (fun e _ _ he _=>.inl he) fun e e' he he' hnone=>by
    rw [he] at he'
    cases he'
    exact hnone
 | inserted deliveryId status=>
  refine h.quiet rfl ?_ (fun e he=>by cases he) ?_ (fun e _ _ he=>by cases he)
   fun e e' he=>by cases he
  · rintro generation ⟨⟨_,_,_,_,hcall,-⟩,-⟩
    cases hcall
  · intro e' start expiry he' hinterval
    cases he'
    cases hinterval
 | @redriven delivery sized e deliveryId redrive attempt=>
  have hnone:=hunclaimed e rfl (by rw [(validRedrive_status redrive).1];decide)
  apply h.unclaim rfl
  · rintro generation ⟨⟨_,_,_,_,hcall,-⟩,-⟩
    cases hcall
  · exact fun claim hheld=>absurd hheld (not_heldBy hnone)
 | @granted now claimLease limit response e status lease claims=>
  refine Fenced.grant h (hunclaimed e rfl (by rw [status];decide)) claims rfl ?_
  rintro generation ⟨⟨_,_,_,_,hcall,-⟩,-⟩
  cases hcall
 | completed deliveryId claimId fenced inTime status metadata attempt=>
  exact h.complete rfl deliveryId rfl ⟨fenced.2.1,fenced.2.2⟩ inTime
 | @released now response e start expiry counted status interval lapsed=>
  obtain ⟨n,rfl⟩:=counted
  apply h.unclaim rfl
  · rintro generation ⟨-,hresponse⟩
    cases hresponse
  · intro claim hheld
    have hinterval:=interval.symm.trans hheld.2
    rw [Option.some.injEq,Prod.mk.injEq] at hinterval
    exact .inr ⟨now,e,rfl,hinterval.2▸lapsed,hbefore,hheld⟩
 | @withdrawn subscriptionId reason response e counted status=>
  obtain ⟨n,rfl⟩:=counted
  have hnone:=hunclaimed e rfl (by rw [status];decide)
  apply h.unclaim rfl
  · rintro generation ⟨-,hresponse⟩
    cases hresponse
  · exact fun claim hheld=>absurd hheld (not_heldBy hnone)

lemma Fenced.empty : Fenced reader id [] none where
 increasing:=.nil
 bounded:=fun _ hclaim=>absurd hclaim not_mem_nil
 held:=fun _ _ _ he=>by cases he
 ended:=fun before t after claim hsplit=>by simp at hsplit
 separated:=fun before t between u after first second hsplit=>by simp at hsplit
 completed:=fun _ ht=>absurd ht not_mem_nil
 once:=.nil
 latest:=fun before t after hsplit=>by simp at hsplit
end

lemma Entry.WellFormed.unclaimed(h:e.WellFormed id)(hstatus:e.delivery.status ≠ .delivering):
  e.interval=none:=by
 cases hinterval:e.interval with
 | none=>rfl
 | some interval=>exact absurd (h.claimed.mp (by rw [hinterval];rfl)) hstatus

lemma run_fenced(calls:List QueueCall):Sound d (execute (queueStep reader) ∅ calls) ∧
   ∀id,Fenced reader id (history (queueStep reader) ∅ calls)
    (entryAt reader (execute (queueStep reader) ∅ calls) id):=by
 apply history_invariant (queueStep reader)
  (P:=fun past queue=>Sound d queue∧∀id,Fenced reader id past (entryAt reader queue id))
 · refine ⟨fun id row hrow=>by simp at hrow,fun id=>?_⟩
   rw [entryAt_none (by simp)]
   exact .empty
 · rintro past queue call ⟨hsound,hfenced⟩
   obtain ⟨hsound',hmoves⟩:=queueStep_moves hsound call
   refine ⟨hsound',fun id=>(hfenced id).step ?_ rfl (hmoves id)⟩
   intro e he hstatus
   exact (hsound.row_of_entry he).1.unclaimed hstatus

lemma entryAt_of_getDelivery(hsound:Sound d queue)
  (h:queue.getDelivery reader id=.ok (some delivery)):
  ∃e,entryAt reader queue id=some e∧e.delivery=delivery:=by
 unfold getDelivery at h
 cases hrow:queue[id]? with
 | none=>
  rw [hrow] at h
  cases h
 | some row=>
  obtain ⟨e,hwell,rfl⟩:=hsound id row hrow
  simp only [hrow,deliveryFromRowValue_rowOf hwell] at h
  refine ⟨e,entryAt_of_row hrow hwell,?_⟩
  simpa [Except.map] using h

lemma getDelivery_of_entryAt(hsound:Sound d queue)(h:entryAt reader queue id=some e):
  queue.getDelivery reader id=.ok (some e.delivery):=by
 obtain ⟨hwell,hrow⟩:=hsound.row_of_entry h
 simp only [getDelivery,hrow,deliveryFromRowValue_rowOf hwell]
 rfl

/-- What holds of a run of the queue and of the state it reaches. -/
structure ClaimsFenced (reader:JsonReader d) (past:List QueueTransition)
  (reached:SqliteCallbackDeliveryQueue) : Prop where
 claimColumns:∀(id:String) row,reached[id]?=some row →
  (row.status=callbackDeliveryStatusAsStr .delivering↔row.claimStartedAtUnixMs≠none) ∧
  (row.status=callbackDeliveryStatusAsStr .delivering↔row.claimExpiresAtUnixMs≠none)
 rowsAccepted:∀(id:String) row,reached[id]?=some row →
  ∃delivery,deliveryFromRowValue reader id row=.ok delivery
 generationsIncrease:∀id,(grantsOf id past).Pairwise fun a b=>a.claimGeneration<b.claimGeneration
 grantedAfterEnd:∀id before t between u after first second,
  past=(before++t::between)++u::after→first∈grantsIn id t.response →
  second∈grantsIn id u.response → ∃v∈between,Ends reader id first v
 completesLatest:∀before t after claim delivery sized completedAt,
  past=before++t::after→t.call=.complete claim delivery sized completedAt →
  t.response=.ok .done →
  (claim.claimStartedAtUnixMs≤completedAt∧completedAt<claim.claimExpiresAtUnixMs) ∧
   ∃granted,(grantsOf delivery.deliveryId before).getLast?=some granted ∧
    granted.claimGeneration=claim.claimGeneration ∧
    granted.claimStartedAtUnixMs=claim.claimStartedAtUnixMs ∧
    granted.claimExpiresAtUnixMs=claim.claimExpiresAtUnixMs
 completesOnce:∀id,past.Pairwise fun t u=>∀generation,
  Completes id generation t.call t.response→¬Completes id generation u.call u.response
 deliveriesKept:∀t∈past,∀id delivery,t.before.getDelivery reader id=.ok (some delivery) →
  ∃delivery',t.after.getDelivery reader id=.ok (some delivery')∧Kept delivery delivery'

lemma Sound.claimColumns{row:DeliveryRow}(hsound:Sound d queue)(hrow:queue[id]?=some row):
  (row.status=callbackDeliveryStatusAsStr .delivering↔row.claimStartedAtUnixMs≠none) ∧
  (row.status=callbackDeliveryStatusAsStr .delivering↔row.claimExpiresAtUnixMs≠none):=by
 obtain ⟨e,hwell,rfl⟩:=hsound id row hrow
 have hstatus:(rowOf d e).status=callbackDeliveryStatusAsStr .delivering ↔
   e.delivery.status=.delivering:=
  ⟨statusAsStr_injective,fun h=>congrArg callbackDeliveryStatusAsStr h⟩
 rw [hstatus,←hwell.claimed]
 cases hinterval:e.interval <;>simp [rowOf,hinterval]

lemma step_kept{t:QueueTransition}{calls:List QueueCall}
  (ht:t∈history (queueStep reader) ∅ calls)(hpresented:Presented reader t.before t.call)
  (h:t.before.getDelivery reader id=.ok (some delivery)):
  ∃delivery',t.after.getDelivery reader id=.ok (some delivery')∧Kept delivery delivery':=by
 obtain ⟨before,call,after,-,rfl⟩:=mem_history _ ht
 have hsound:Sound d (execute (queueStep reader) ∅ before):=(run_fenced before).1
 obtain ⟨e,he,rfl⟩:=entryAt_of_getDelivery hsound h
 obtain ⟨hsound',hmoves⟩:=queueStep_moves hsound call
 have hmove:=hmoves id
 rw [he] at hmove
 obtain ⟨e',he',hkept⟩:=hmove.kept hpresented he
 exact ⟨e'.delivery,getDelivery_of_entryAt hsound' he',hkept⟩

/-- Every run of calls on an empty queue in which claims are presented with the delivery they were
granted for keeps the claims fenced and the deliveries what they are. -/
theorem callback_claims_fenced {d : StringDisplay} (reader : JsonReader d) (calls : List QueueCall)
  (hpresented : ∀t∈history (queueStep reader) ∅ calls,Presented reader t.before t.call) :
  ClaimsFenced reader (history (queueStep reader) ∅ calls)
   (execute (queueStep reader) ∅ calls) := by
 have hrun:Sound d (execute (queueStep reader) ∅ calls) ∧
   ∀id,Fenced reader id (history (queueStep reader) ∅ calls)
    (entryAt reader (execute (queueStep reader) ∅ calls) id):=run_fenced calls
 obtain ⟨hsound,hfenced⟩:=hrun
 exact
  { claimColumns:=fun id row hrow=>hsound.claimColumns hrow
    rowsAccepted:=by
     intro id row hrow
     obtain ⟨e,hwell,rfl⟩:=hsound id row hrow
     exact ⟨e.delivery,deliveryFromRowValue_rowOf hwell⟩
    generationsIncrease:=fun id=>(hfenced id).increasing
    grantedAfterEnd:=fun id=>(hfenced id).separated
    completesLatest:=by
     intro before t after claim delivery sized completedAt hsplit hcall hresponse
     exact (hfenced delivery.deliveryId).latest before t after hsplit claim delivery sized
      completedAt hcall rfl hresponse
    completesOnce:=fun id=>(hfenced id).once
    deliveriesKept:=fun t ht id delivery h=>step_kept ht (hpresented t ht) h }
end

def pendingDelivery : CallbackDelivery where
 deliveryId := "delivery-1"
 subscriptionId := "subscription-1"
 eventId := "event-1"
 runId := "run-1"
 sequence:=1
 cursor := "1"
 attempt:=2
 idempotencyKey := "key-1"
 failurePolicy:=.bestEffort
 status:=.pending
 nextRetryAtUnixMs:=none
 deliveredAtUnixMs:=none
 acknowledgedAtUnixMs:=none
 lastError:=none
 redriveCount:=0
 lastRedriveOperator:=none
 lastRedriveReason:=none

lemma pendingDelivery_sized:pendingDelivery.Sized:=by
 constructor <;>simp [pendingDelivery,u64Limit,u32Limit]

/-- The delivery of the worker that has a success to report. -/
def deliveredDelivery : CallbackDelivery :=
 { pendingDelivery with status:=.delivered,deliveredAtUnixMs:=some 5 }

lemma deliveredDelivery_sized:deliveredDelivery.Sized:=by
 constructor <;>simp [deliveredDelivery,pendingDelivery,u64Limit,u32Limit]

def grantedClaim : ClaimedCallbackDelivery := claimOf 1 11 (pendingDelivery,0)

def alteredClaim : ClaimedCallbackDelivery :=
 { grantedClaim with
   delivery:=
    { claimed pendingDelivery with subscriptionId := "subscription-2",attempt:=1 } }

def misdelivered : CallbackDelivery :=
 { deliveredDelivery with subscriptionId := "subscription-2",attempt:=1 }

lemma misdelivered_sized:misdelivered.Sized:=by
 constructor <;>simp [misdelivered,deliveredDelivery,pendingDelivery,u64Limit,u32Limit]

def claimFirst : List QueueCall := [.upsert pendingDelivery pendingDelivery_sized,.claim 1 10 1]

def presentedRun : List QueueCall :=
 claimFirst++[.complete grantedClaim deliveredDelivery deliveredDelivery_sized 5]

def alteredRun : List QueueCall :=
 claimFirst++[.complete alteredClaim misdelivered misdelivered_sized 5]

section
variable (reader:JsonReader serdeDisplay)

def pendingQueue : SqliteCallbackDeliveryQueue :=
 (∅:SqliteCallbackDeliveryQueue).insert "delivery-1"
  (rowOf serdeDisplay ⟨pendingDelivery,0,none⟩)

def claimedQueue : SqliteCallbackDeliveryQueue :=
 pendingQueue.insert "delivery-1" (rowOf serdeDisplay (claimedEntry 1 11 (pendingDelivery,0)))

def misdeliveredQueue : SqliteCallbackDeliveryQueue :=
 claimedQueue.insert "delivery-1" (rowOf serdeDisplay ⟨misdelivered,1,none⟩)

lemma pendingDelivery_valid:validateCallbackDelivery pendingDelivery=.ok ():=by decide +kernel

lemma pendingEntry_wellFormed:Entry.WellFormed "delivery-1" ⟨pendingDelivery,0,none⟩:=
 unclaimed_wellFormed pendingDelivery_valid pendingDelivery_sized (by decide) (by decide) 0

lemma claimedEntry_wellFormed :
  (claimedEntry 1 11 (pendingDelivery,0)).WellFormed "delivery-1" where
 deliveryId:=rfl
 valid:=claimed_valid pendingDelivery_valid rfl
 sized:=claimed_sized pendingDelivery_sized
 inRange:=by decide
 claimed:=⟨fun _=>rfl,fun _=>rfl⟩
 nonempty:=by
  intro start expiry h
  cases h
  decide

lemma upsert_pendingDelivery:
  queueStep reader ∅ (.upsert pendingDelivery pendingDelivery_sized)=(.ok .done,pendingQueue):=by
 have hinsert:insertNew ∅ serdeDisplay pendingDelivery=.ok pendingQueue:=rfl
 have hupsert:upsertDelivery ∅ reader pendingDelivery=.ok pendingQueue:=by
  rw [upsertDelivery,pendingDelivery_valid,ok_bind,ExtTreeMap.getElem?_empty]
  exact hinsert
 rw [queueStep,perform,hupsert]
 rfl

lemma claim_pendingDelivery:queueStep reader pendingQueue (.claim 1 10 1) =
   (.ok (.claims [grantedClaim]),claimedQueue):=by
 have hselect:pendingQueue.select (isDue 1) =
   [("delivery-1",rowOf serdeDisplay ⟨pendingDelivery,0,none⟩)]:=
  select_insert_empty (by decide)
 have hread:collect (readWithGeneration reader) ((pendingQueue.select (isDue 1)).take 1) =
   .ok [(pendingDelivery,0)]:=by
  rw [hselect]
  simp only [take_succ_cons,take_zero,collect,
   readWithGeneration_rowOf pendingEntry_wellFormed,ok_bind]
  rfl
 have hclaim:claimAll serdeDisplay 1 11 [(pendingDelivery,0)] pendingQueue =
   .ok ([grantedClaim],claimedQueue):=rfl
 have hdue:pendingQueue.claimDueDeliveries reader 1 10 1=.ok ([grantedClaim],claimedQueue):=by
  change (collect (readWithGeneration reader) ((pendingQueue.select (isDue 1)).take 1) >>=
   fun items=>claimAll serdeDisplay 1 11 items pendingQueue)=_
  rw [hread,ok_bind,hclaim]
 rw [queueStep,perform,hdue]
 rfl

lemma complete_altered:
  queueStep reader claimedQueue (.complete alteredClaim misdelivered misdelivered_sized 5) =
   (.ok .done,misdeliveredQueue):=by
 have hcomplete:claimedQueue.completeClaimedDelivery serdeDisplay alteredClaim misdelivered 5 =
   .ok misdeliveredQueue:=rfl
 rw [queueStep,perform,hcomplete]
 rfl

lemma execute_claimFirst:execute (queueStep reader) ∅ claimFirst=claimedQueue:=by
 rw [claimFirst,execute_cons,upsert_pendingDelivery,execute_cons,claim_pendingDelivery]
 rfl

lemma getDelivery_claimedQueue:
  claimedQueue.getDelivery reader "delivery-1"=.ok (some (claimed pendingDelivery)):=by
 have hrow:claimedQueue["delivery-1"]? =
   some (rowOf serdeDisplay (claimedEntry 1 11 (pendingDelivery,0))):=
  lookup_insert_self _ _ _
 rw [getDelivery,hrow]
 simp only [deliveryFromRowValue_rowOf claimedEntry_wellFormed]
 rfl

lemma getDelivery_misdelivered:
  misdeliveredQueue.getDelivery reader "delivery-1"=.ok (some misdelivered):=by
 have hwell:Entry.WellFormed "delivery-1" ⟨misdelivered,1,none⟩:=
  unclaimed_wellFormed (by decide +kernel) misdelivered_sized (by decide) (by decide) 1
 have hrow:misdeliveredQueue["delivery-1"]? =
   some (rowOf serdeDisplay ⟨misdelivered,1,none⟩):=lookup_insert_self _ _ _
 rw [getDelivery,hrow]
 simp only [deliveryFromRowValue_rowOf hwell]
 rfl

lemma presentedRun_presented:
  ∀t∈history (queueStep reader) ∅ presentedRun,Presented reader t.before t.call:=by
 intro t ht
 rw [presentedRun,history_concat,execute_claimFirst,mem_append,mem_singleton] at ht
 rcases ht with ht|rfl
 · simp only [claimFirst,history,mem_cons,not_mem_nil,or_false] at ht
   rcases ht with rfl|rfl <;>trivial
 · intro entry hentry _
   have hclaimed:entryAt reader claimedQueue "delivery-1" =
     some (claimedEntry 1 11 (pendingDelivery,0)):=
    entryAt_of_row (lookup_insert_self _ _ _) claimedEntry_wellFormed
   have hsame:some (claimedEntry 1 11 (pendingDelivery,0))=some entry:=hclaimed.symm.trans hentry
   cases hsame
   exact ⟨sameMetadata_refl _,Nat.le_refl _⟩
end

/-- The queue takes a completion for a claim whose delivery was altered: the delivery changes its
subscription and goes back to an earlier attempt. -/
theorem altered_claim_changes_delivery : ¬ClaimsFenced (compactReader serdeDisplay)
   (history (queueStep (compactReader serdeDisplay)) ∅ alteredRun)
   (execute (queueStep (compactReader serdeDisplay)) ∅ alteredRun) := by
 intro h
 have hmem:takeStep (queueStep (compactReader serdeDisplay)) claimedQueue
   (.complete alteredClaim misdelivered misdelivered_sized 5) ∈
   history (queueStep (compactReader serdeDisplay)) ∅ alteredRun:=by
  rw [alteredRun,history_concat,execute_claimFirst]
  exact mem_append_right _ (mem_singleton_self _)
 obtain ⟨delivery,hafter,hkept⟩:=h.deliveriesKept _ hmem "delivery-1" _
  (getDelivery_claimedQueue _)
 have hdelivery:delivery=misdelivered:=by
  simp only [takeStep,complete_altered] at hafter
  rw [getDelivery_misdelivered] at hafter
  exact (Option.some.inj (Except.ok.inj hafter)).symm
 subst hdelivery
 exact absurd hkept.metadata (by decide +kernel)

theorem presented_claim_is_fenced :
  (∀t∈history (queueStep (compactReader serdeDisplay)) ∅ presentedRun,
   Presented (compactReader serdeDisplay) t.before t.call) ∧
  ClaimsFenced (compactReader serdeDisplay)
   (history (queueStep (compactReader serdeDisplay)) ∅ presentedRun)
   (execute (queueStep (compactReader serdeDisplay)) ∅ presentedRun) :=
 ⟨presentedRun_presented _,callback_claims_fenced _ presentedRun (presentedRun_presented _)⟩

end GraphBlocks.CallbackDeliveries
