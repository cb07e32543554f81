import GraphBlocks.CallbackRedriveSteps

namespace GraphBlocks.CallbackDeliveries
open Std Json OrderedMap RustStd CanonicalJson Usage MachineRuns List Option
open SqliteCallbackDeliveryQueue SqliteCallbackDeadLetterStore

structure Lifecycle where
 queue:SqliteCallbackDeliveryQueue
 letters:SqliteCallbackDeadLetterStore
 /-- The claims that were handed out. -/
 granted:List ClaimedCallbackDelivery
 /-- The deliveries whose dead letter has been offered since they were last redriven. -/
 offered:List String

def Lifecycle.new : Lifecycle := ⟨∅,∅,[],[]⟩

inductive LifecycleCall where
 | schedule (delivery:CallbackDelivery) (sized:delivery.Sized)
   (scheduled:∃subscription event,scheduleEvent subscription event=some delivery)
 | claim (now claimLease limit:ℕ)
 /-- The response to the delivery of the `n`th claim, under a retry policy. -/
 | respond (n:ℕ) (policy:CallbackRetryPolicy) (response:CallbackDeliveryResponse) (now:ℕ)
   (sized:now<u64Limit) (completedAt:ℕ)
 | recover (now:ℕ)
 | cancel (subscriptionId reason:String)
 | offer (deliveryId:String) (deadLetteredAt:ℕ) (sized:deadLetteredAt<u64Limit)
 | redrive (deliveryId operator reason:String) (redrivenAt:ℕ)

inductive LifecycleResponse where
 | idle
 | queue (response:Outcome QueueResponse)
 | refused (error:CallbackDeliveryError)
 | inserted (result:Outcome Unit)
 | redriven (delivery:CallbackDelivery) (upserted:Outcome Unit)

def claimsIn : QueueResponse→List ClaimedCallbackDelivery
 | .claims claims=>claims
 | _=>[]

namespace Lifecycle

variable {d:StringDisplay} (reader:JsonReader d) (s:Lifecycle)

def transact : Outcome (QueueResponse×SqliteCallbackDeliveryQueue)→LifecycleResponse×Lifecycle
 | .error e=>(.queue (.error e),s)
 | .ok (response,queue)=>
  (.queue (.ok response),{ s with queue:=queue,granted:=s.granted++claimsIn response })

def offer (deliveryId:String) (deadLetteredAt:ℕ) : LifecycleResponse×Lifecycle :=
 match s.queue.getDelivery reader deliveryId with
 | .error e=>(.refused e,s)
 | .ok none=>(.idle,s)
 | .ok (some delivery)=>
  match CallbackDeadLetter.fromDelivery delivery deadLetteredAt with
  | .error e=>(.refused e,s)
  | .ok letter=>
   match s.letters.insertDeadLetter reader letter with
   | .error e=>(.inserted (.error e),{ s with offered:=deliveryId::s.offered })
   | .ok letters=>(.inserted (.ok ()),{ s with letters:=letters,offered:=deliveryId::s.offered })

def redrive (deliveryId operator reason:String) (redrivenAt:ℕ) : LifecycleResponse×Lifecycle :=
 match s.letters.redriveDeadLetter reader deliveryId operator reason redrivenAt with
 | .error e=>(.refused e,s)
 | .ok (delivery,letters)=>
  let offered:=s.offered.filter fun other=>other != deliveryId
  match s.queue.upsertDelivery reader delivery with
  | .error e=>(.redriven delivery (.error e),{ s with letters:=letters,offered:=offered })
  | .ok queue=>
   (.redriven delivery (.ok ()),
    { s with queue:=queue,letters:=letters,offered:=offered })

def step : LifecycleCall→LifecycleResponse×Lifecycle
 | .schedule delivery sized _=>s.transact (perform reader s.queue (.upsert delivery sized))
 | .claim now claimLease limit=>s.transact (perform reader s.queue (.claim now claimLease limit))
 | .respond n policy response now _ completedAt=>
  match s.granted[n]? with
  | none=>(.idle,s)
  | some claim=>
   s.transact ((s.queue.completeClaimedDelivery d claim
    (recordResponse policy claim.delivery response now) completedAt).map fun q=>(.done,q))
 | .recover now=>s.transact (perform reader s.queue (.recover now))
 | .cancel subscriptionId reason=>
  s.transact (perform reader s.queue (.cancel subscriptionId reason))
 | .offer deliveryId deadLetteredAt _=>s.offer reader deliveryId deadLetteredAt
 | .redrive deliveryId operator reason redrivenAt=>
  s.redrive reader deliveryId operator reason redrivenAt

end Lifecycle

abbrev LifecycleTransition := Transition Lifecycle LifecycleCall LifecycleResponse

section
variable {d:StringDisplay} (reader:JsonReader d)

/-- A delivery is redriven only while the queue shows it dead-lettered and after its dead letter
was offered, with counters that have not run out. -/
def Permitted (s:Lifecycle) : LifecycleCall→Prop
 | .redrive deliveryId _ _ _=>deliveryId∈s.offered ∧
  ∃delivery,s.queue.getDelivery reader deliveryId=.ok (some delivery) ∧
   delivery.status=.deadLettered∧delivery.attempt+1<u32Limit ∧
   delivery.redriveCount+1<u32Limit
 | _=>True

def Restates (s:Lifecycle) : LifecycleCall→Prop
 | .offer deliveryId deadLetteredAt _=>∀letter delivery,
  s.letters.getDeadLetter reader deliveryId=.ok (some letter) →
  s.queue.getDelivery reader deliveryId=.ok (some delivery) →
  letter.lastError=delivery.lastError∧letter.deadLetteredAtUnixMs=deadLetteredAt
 | _=>True

/-- What holds of a run and of the state that it reaches. -/
structure Redrivable (past:List LifecycleTransition) (reached:Lifecycle) : Prop where
 inserted:∀t∈past,∀deliveryId deadLetteredAt sized delivery,
  t.call=.offer deliveryId deadLetteredAt sized →
  t.before.queue.getDelivery reader deliveryId=.ok (some delivery) →
  delivery.status=.deadLettered→deadLetteredAt≠0→t.response=.inserted (.ok ())
 redriven:∀t∈past,∀deliveryId operator reason redrivenAt,
  t.call=.redrive deliveryId operator reason redrivenAt→isBlank operator=false →
  isBlank reason=false →
  (∀letter,t.before.letters.getDeadLetter reader deliveryId=.ok (some letter) →
   letter.deadLetteredAtUnixMs≤redrivenAt) →
  ∃delivery redriven,t.before.queue.getDelivery reader deliveryId=.ok (some delivery) ∧
   t.response=.redriven redriven (.ok ())∧redriven.attempt=delivery.attempt+1 ∧
   t.after.queue.getDelivery reader deliveryId=.ok (some redriven)
 histories:∀deliveryId,∃found,reached.letters.getDeadLetter reader deliveryId=.ok found ∧
  ∀letter∈found,∃n,0<n∧letter.attemptHistory=List.range' 1 n

def Backs (entry:Entry) (claim:ClaimedCallbackDelivery) : Prop :=
 claim.claimGeneration≤entry.generation∧(HeldBy entry claim→claim.delivery=entry.delivery)

def FiledAs (d:StringDisplay) (delivery:CallbackDelivery) (offered:Prop) (text:String) : Prop :=
 ∃attempts lastError deadLetteredAt,Fileable delivery attempts lastError deadLetteredAt ∧
  attempts≤delivery.attempt ∧
  (offered→delivery.status=.deadLettered∧attempts=delivery.attempt) ∧
  text=letterText d delivery attempts lastError deadLetteredAt

structure Orderly (s:Lifecycle) : Prop where
 sound:Sound d s.queue
 granted:∀claim∈s.granted,claim.delivery.Sized ∧ ∃entry,
  entryAt reader s.queue claim.delivery.deliveryId=some entry∧Backs entry claim
 filed:∀(id:String) text,s.letters[id]?=some text → ∃entry,
  entryAt reader s.queue id=some entry∧FiledAs d entry.delivery (id∈s.offered) text
 offered:∀id∈s.offered,s.letters[id]?≠none

def Ordinary (granted:List ClaimedCallbackDelivery) : QueueCall→Prop
 | .upsert delivery _=>delivery.redriveCount=0
 | .complete claim delivery _ _=>claim∈granted∧Carried claim.delivery delivery
 | _=>True

variable {reader} {id:String} {call:QueueCall} {response:Outcome QueueResponse}
 {e:Entry} {entry entry':Option Entry} {claim:ClaimedCallbackDelivery} {delivery:CallbackDelivery}

lemma not_heldBy_unclaimed{generation:ℕ}:
  ¬HeldBy ⟨delivery,generation,none⟩ claim:=fun h=>by cases h.2

lemma Moves.backs(h:Moves id call response (some e) entry')(hbacks:Backs e claim):
  ∃e',entry'=some e'∧Backs e' claim:=by
 cases h with
 | stays ungranted incomplete=>exact ⟨e,rfl,hbacks⟩
 | redriven deliveryId redrive attempt=>
  exact ⟨_,rfl,hbacks.1,fun held=>absurd held not_heldBy_unclaimed⟩
 | granted status lease claims=>
  refine ⟨_,rfl,hbacks.1.trans (Nat.le_succ _),fun held=>?_⟩
  have hgeneration:e.generation+1=claim.claimGeneration:=held.1
  have hle:=hbacks.1
  omega
 | completed deliveryId claimId fenced inTime status metadata attempt=>
  exact ⟨_,rfl,hbacks.1,fun held=>absurd held not_heldBy_unclaimed⟩
 | released counted status interval lapsed=>
  exact ⟨_,rfl,hbacks.1,fun held=>absurd held not_heldBy_unclaimed⟩
 | withdrawn counted status=>exact ⟨_,rfl,hbacks.1,fun held=>absurd held not_heldBy_unclaimed⟩

lemma Moves.backs_granted(h:Moves id call response entry entry')
  (hclaim:claim∈grantsIn id response):
  ∃e',entry'=some e'∧claim.delivery=e'.delivery∧Backs e' claim:=by
 cases h with
 | stays ungranted incomplete=>
  rw [ungranted] at hclaim
  cases hclaim
 | inserted deliveryId status=>cases hclaim
 | redriven deliveryId redrive attempt=>cases hclaim
 | granted status lease claims=>
  rw [claims,mem_singleton] at hclaim
  subst hclaim
  exact ⟨_,rfl,rfl,Nat.le_refl _,fun _=>rfl⟩
 | completed deliveryId claimId fenced inTime status metadata attempt=>cases hclaim
 | released counted status interval lapsed=>
  obtain ⟨n,rfl⟩:=counted
  cases hclaim
 | withdrawn counted status=>
  obtain ⟨n,rfl⟩:=counted
  cases hclaim

lemma Moves.carried{granted:List ClaimedCallbackDelivery}
  (h:Moves id call response (some e) entry')(hordinary:Ordinary granted call)
  (hbacks:∀claim∈granted,claim.delivery.deliveryId=id→Backs e claim):
  ∃e',entry'=some e'∧Carried e.delivery e'.delivery∧(e.delivery.status=.deadLettered→e'=e):=by
 cases h with
 | stays ungranted incomplete=>exact ⟨e,rfl,.of_status rfl (Nat.le_refl _),fun _=>rfl⟩
 | redriven deliveryId redrive attempt=>
  obtain ⟨-,-,hcount,-⟩:=validRedrive_status redrive
  rw [show _=0 from hordinary] at hcount
  exact absurd hcount (Nat.not_lt_zero _)
 | granted status lease claims=>
  refine ⟨_,rfl,.of_status rfl (Nat.le_refl _),fun hdead=>?_⟩
  rw [status] at hdead
  cases hdead
 | completed deliveryId claimId fenced inTime status metadata attempt=>
  obtain ⟨hgranted,hcarried⟩:=hordinary
  have hsame:=(hbacks _ hgranted claimId).2 ⟨fenced.2.1,fenced.2.2⟩
  refine ⟨_,rfl,hsame▸hcarried,fun hdead=>?_⟩
  rw [fenced.1] at hdead
  cases hdead
 | released counted status interval lapsed=>
  refine ⟨_,rfl,.of_status rfl (Nat.le_refl _),fun hdead=>?_⟩
  rw [status] at hdead
  cases hdead
 | withdrawn counted status=>
  refine ⟨_,rfl,.of_status rfl (Nat.le_refl _),fun hdead=>?_⟩
  rw [status] at hdead
  cases hdead

section
variable {s:Lifecycle}

lemma FiledAs.carry{delivery':CallbackDelivery}{offered offered':Prop}{text:String}
  (h:FiledAs d delivery offered text)(hcarried:Carried delivery delivery')(hsized:delivery'.Sized)
  (hoffered:offered' → offered∧(delivery.status=.deadLettered→delivery'=delivery)):
  FiledAs d delivery' offered' text:=by
 obtain ⟨attempts,lastError,deadLetteredAt,hfileable,hle,hlatest,htext⟩:=h
 refine ⟨attempts,lastError,deadLetteredAt,hcarried.fileable hsized hfileable,
  hle.trans hcarried.attempt,?_,?_⟩
 · intro h'
   obtain ⟨hbefore,hsame⟩:=hoffered h'
   obtain ⟨hdead,hattempts⟩:=hlatest hbefore
   rw [hsame hdead]
   exact ⟨hdead,hattempts⟩
 · rw [htext,letterText,letterText,hcarried.letterOf_eq]

lemma Orderly.backs(h:Orderly reader s){entry:Entry}(hentry:entryAt reader s.queue id=some entry)
  (hclaim:claim∈s.granted)(hid:claim.delivery.deliveryId=id):Backs entry claim:=by
 obtain ⟨-,found,hfound,hbacks⟩:=h.granted claim hclaim
 rw [hid,hentry] at hfound
 cases hfound
 exact hbacks

lemma mem_grantsIn{response:QueueResponse}
  (h:claim∈claimsIn response):claim∈grantsIn claim.delivery.deliveryId (.ok response):=by
 cases response with
 | claims claims=>exact mem_filter.mpr ⟨h,beq_self_eq_true _⟩
 | done=>cases h
 | count n=>cases h

lemma Orderly.transact(h:Orderly reader s)(hordinary:Ordinary s.granted call):
  Orderly reader (s.transact (perform reader s.queue call)).2:=by
 cases hperform:perform reader s.queue call with
 | error e=>exact h
 | ok result=>
  obtain ⟨response,queue⟩:=result
  have hperformed:Performed reader s.queue call response queue:=perform_performed h.sound hperform
  refine ⟨hperformed.sound,?_,?_,h.offered⟩
  · intro claim hclaim
    have hmoves:=hperformed.moves claim.delivery.deliveryId
    rcases mem_append.mp hclaim with hold|hnew
    · obtain ⟨hsized,entry,hentry,hbacks⟩:=h.granted claim hold
      rw [hentry] at hmoves
      exact ⟨hsized,hmoves.backs hbacks⟩
    · obtain ⟨entry,hentry,hsame,hbacks⟩:=hmoves.backs_granted (mem_grantsIn hnew)
      obtain ⟨hwell,-⟩:=hperformed.sound.row_of_entry hentry
      exact ⟨hsame▸hwell.sized,entry,hentry,hbacks⟩
  · intro id text htext
    obtain ⟨entry,hentry,hfiled⟩:=h.filed id text htext
    have hmoves:=hperformed.moves id
    rw [hentry] at hmoves
    obtain ⟨entry',hentry',hcarried,hstays⟩:=hmoves.carried hordinary
     fun claim hclaim hid=>h.backs hentry hclaim hid
    obtain ⟨hwell,-⟩:=hperformed.sound.row_of_entry hentry'
    refine ⟨entry',hentry',hfiled.carry hcarried hwell.sized fun hoffered=>?_⟩
    exact ⟨hoffered,fun hdead=>by rw [hstays hdead]⟩

lemma Orderly.respond(h:Orderly reader s)(hclaim:claim∈s.granted)(policy:CallbackRetryPolicy)
  (response:CallbackDeliveryResponse){now:ℕ}(hnow:now<u64Limit)(completedAt:ℕ):
  Orderly reader (s.transact ((s.queue.completeClaimedDelivery d claim
   (recordResponse policy claim.delivery response now) completedAt).map
    fun q=>(.done,q))).2:=by
 obtain ⟨hsized,-⟩:=h.granted claim hclaim
 obtain ⟨hcarried,hsized'⟩:=recordResponse_carried policy hsized response hnow
 have hordinary:Ordinary s.granted (.complete claim
   (recordResponse policy claim.delivery response now) hsized' completedAt):=
  ⟨hclaim,hcarried⟩
 have hdone:=h.transact hordinary
 rw [perform] at hdone
 exact hdone

lemma scheduleEvent_fresh(h:∃subscription event,scheduleEvent subscription event=some delivery):
  delivery.redriveCount=0:=by
 obtain ⟨subscription,event,h⟩:=h
 unfold scheduleEvent at h
 split at h
 · cases h
 · cases h
   rfl

lemma Orderly.getDeadLetter(h:Orderly reader s){text:String}
  (htext:s.letters[id]?=some text):∃entry attempts lastError deadLetteredAt,
   entryAt reader s.queue id=some entry∧entry.delivery.deliveryId=id ∧
   Fileable entry.delivery attempts lastError deadLetteredAt ∧
   attempts≤entry.delivery.attempt ∧
   (id∈s.offered→attempts=entry.delivery.attempt) ∧
   s.letters[entry.delivery.deliveryId]? =
    some (letterText d entry.delivery attempts lastError deadLetteredAt) ∧
   s.letters.getDeadLetter reader id =
    .ok (some (letterOf entry.delivery attempts lastError deadLetteredAt)):=by
 obtain ⟨entry,hentry,attempts,lastError,deadLetteredAt,hfileable,hle,hlatest,rfl⟩:=
  h.filed id text htext
 obtain ⟨hwell,-⟩:=h.sound.row_of_entry hentry
 have hid:=hwell.deliveryId
 have hstored:s.letters[entry.delivery.deliveryId]? =
   some (letterText d entry.delivery attempts lastError deadLetteredAt):=hid▸htext
 have hread:s.letters.getDeadLetter reader entry.delivery.deliveryId =
   .ok (some (letterOf entry.delivery attempts lastError deadLetteredAt)):=
  getDeadLetter_letterText hfileable hstored
 rw [hid] at hread
 exact ⟨entry,attempts,lastError,deadLetteredAt,hentry,hid,hfileable,hle,
  fun hoffered=>(hlatest hoffered).2,hstored,hread⟩

lemma Orderly.offer_dead(h:Orderly reader s){entry:Entry}{deadLetteredAt:ℕ}
  (hsized:deadLetteredAt<u64Limit)(hentry:entryAt reader s.queue id=some entry)
  (hdead:entry.delivery.status=.deadLettered)(htimed:deadLetteredAt≠0)
  (hrestates:Restates reader s (.offer id deadLetteredAt hsized)):
  s.offer reader id deadLetteredAt=(.inserted (.ok ()),
   { s with
     letters:=s.letters.insert id (letterText d entry.delivery entry.delivery.attempt
      entry.delivery.lastError deadLetteredAt)
     offered:=id::s.offered }):=by
 obtain ⟨hwell,-⟩:=h.sound.row_of_entry hentry
 have hshown:=getDelivery_of_entryAt h.sound hentry
 have hfileable:=fileable_of_dead hwell hdead htimed hsized
 have hinsert:s.letters.insertDeadLetter reader (letterOf entry.delivery entry.delivery.attempt
   entry.delivery.lastError deadLetteredAt)=.ok (s.letters.insert entry.delivery.deliveryId
    (letterText d entry.delivery entry.delivery.attempt entry.delivery.lastError
     deadLetteredAt)):=by
  cases hstored:s.letters[id]? with
  | none=>exact insert_first hfileable (hwell.deliveryId▸hstored)
  | some text=>
   obtain ⟨found,attempts,lastError,storedAt,hfound,-,hfiled,hle,-,hcolumn,hread⟩:=
    h.getDeadLetter hstored
   rw [hentry] at hfound
   cases hfound
   obtain ⟨herror,htime⟩:=hrestates _ _ hread hshown
   have herror':lastError=entry.delivery.lastError:=herror
   have htime':storedAt=deadLetteredAt:=htime
   subst herror' htime'
   exact insert_again hfileable hcolumn hfiled hle
 simp only [Lifecycle.offer,hshown,fromDelivery_dead hwell.valid hdead htimed,hinsert,
  hwell.deliveryId]

lemma Orderly.offer(h:Orderly reader s){deadLetteredAt:ℕ}(hsized:deadLetteredAt<u64Limit)
  (hrestates:Restates reader s (.offer id deadLetteredAt hsized)):
  Orderly reader (s.offer reader id deadLetteredAt).2:=by
 cases hshown:s.queue.getDelivery reader id with
 | error e=>simpa only [Lifecycle.offer,hshown] using h
 | ok found=>
  cases found with
  | none=>simpa only [Lifecycle.offer,hshown] using h
  | some delivery=>
   cases hletter:CallbackDeadLetter.fromDelivery delivery deadLetteredAt with
   | error e=>simpa only [Lifecycle.offer,hshown,hletter] using h
   | ok letter=>
    obtain ⟨hdead,htimed⟩:=fromDelivery_ok hletter
    obtain ⟨entry,hentry,rfl⟩:=entryAt_of_getDelivery h.sound hshown
    obtain ⟨hwell,-⟩:=h.sound.row_of_entry hentry
    rw [h.offer_dead hsized hentry hdead htimed hrestates]
    refine ⟨h.sound,h.granted,?_,?_⟩
    · intro other text htext
      rw [lookup_insert] at htext
      by_cases hother:id=other
      · subst hother
        rw [if_pos rfl,Option.some.injEq] at htext
        exact ⟨entry,hentry,_,_,_,fileable_of_dead hwell hdead htimed hsized,
         Nat.le_refl _,fun _=>⟨hdead,rfl⟩,htext.symm⟩
      · rw [if_neg hother] at htext
        obtain ⟨found,hfound,hfiled⟩:=h.filed other text htext
        obtain ⟨hwell',-⟩:=h.sound.row_of_entry hfound
        refine ⟨found,hfound,hfiled.carry (.of_status rfl (Nat.le_refl _)) hwell'.sized ?_⟩
        intro hoffered
        rcases mem_cons.mp hoffered with rfl|hoffered
        · exact absurd rfl hother
        · exact ⟨hoffered,fun _=>rfl⟩
    · intro other hoffered
      rw [lookup_insert]
      by_cases hother:id=other
      · rw [if_pos hother]
        exact some_ne_none _
      · rw [if_neg hother]
        rcases mem_cons.mp hoffered with rfl|hoffered
        · exact absurd rfl hother
        · exact h.offered other hoffered

lemma Orderly.redrive_filed(h:Orderly reader s){operator reason:String}{redrivenAt:ℕ}
  (hpermitted:Permitted reader s (.redrive id operator reason redrivenAt)):
  ∃entry lastError deadLetteredAt,entryAt reader s.queue id=some entry ∧
   entry.delivery.status=.deadLettered ∧
   Fileable entry.delivery entry.delivery.attempt lastError deadLetteredAt ∧
   entry.delivery.attempt+1<u32Limit∧entry.delivery.redriveCount+1<u32Limit ∧
   s.letters[entry.delivery.deliveryId]? =
    some (letterText d entry.delivery entry.delivery.attempt lastError deadLetteredAt) ∧
   s.letters.getDeadLetter reader id =
    .ok (some (letterOf entry.delivery entry.delivery.attempt lastError deadLetteredAt)):=by
 obtain ⟨hoffered,delivery,hshown,hdead,hattempts,hcount⟩:=hpermitted
 obtain ⟨text,htext⟩:=ne_none_iff_exists'.mp (h.offered id hoffered)
 obtain ⟨entry,attempts,lastError,deadLetteredAt,hentry,-,hfiled,-,hlatest,hcolumn,
  hread⟩:=h.getDeadLetter htext
 obtain ⟨found,hfound,rfl⟩:=entryAt_of_getDelivery h.sound hshown
 rw [hentry] at hfound
 cases hfound
 have hattempt:=hlatest hoffered
 subst hattempt
 exact ⟨entry,lastError,deadLetteredAt,hentry,hdead,hfiled,hattempts,hcount,hcolumn,hread⟩

/-- The state after a redrive. -/
def redrivenState (d:StringDisplay) (s:Lifecycle) (entry:Entry) (lastError:Option String)
  (deadLetteredAt:ℕ) (operator reason:String) : Lifecycle :=
 let delivery:=redriven entry.delivery entry.delivery.attempt lastError operator reason
 { s with
   queue:=s.queue.insert entry.delivery.deliveryId
    (rowOf d ⟨delivery,entry.generation,none⟩)
   letters:=s.letters.insert entry.delivery.deliveryId (letterText d delivery
    (entry.delivery.attempt+1) lastError deadLetteredAt)
   offered:=s.offered.filter fun other=>other != entry.delivery.deliveryId }

section
variable {entry:Entry} {lastError:Option String} {deadLetteredAt redrivenAt:ℕ}
 {operator reason:String}

lemma redriven_wellFormed(hwell:entry.WellFormed id)
  (hfiled:Fileable entry.delivery entry.delivery.attempt lastError deadLetteredAt)
  (hattempts:entry.delivery.attempt+1<u32Limit)(hcount:entry.delivery.redriveCount+1<u32Limit)
  (hoperator:isBlank operator=false)(hreason:isBlank reason=false):
  Entry.WellFormed entry.delivery.deliveryId
   ⟨redriven entry.delivery entry.delivery.attempt lastError operator reason,
    entry.generation,none⟩:=
 unclaimed_wellFormed (redriven_valid hfiled.identity hoperator hreason)
  (redriven_fileable hfiled hattempts hcount).sized hwell.inRange nofun _

lemma Orderly.redrive_done(h:Orderly reader s)
  (hentry:entryAt reader s.queue entry.delivery.deliveryId=some entry)
  (hdead:entry.delivery.status=.deadLettered)
  (hfiled:Fileable entry.delivery entry.delivery.attempt lastError deadLetteredAt)
  (hattempts:entry.delivery.attempt+1<u32Limit)
  (hcount:entry.delivery.redriveCount+1<u32Limit)
  (hcolumn:s.letters[entry.delivery.deliveryId]? =
   some (letterText d entry.delivery entry.delivery.attempt lastError deadLetteredAt))
  (hoperator:isBlank operator=false)(hreason:isBlank reason=false)
  (hafter:deadLetteredAt≤redrivenAt):
  s.redrive reader entry.delivery.deliveryId operator reason redrivenAt =
   (.redriven (redriven entry.delivery entry.delivery.attempt lastError operator reason) (.ok ()),
    redrivenState d s entry lastError deadLetteredAt operator reason):=by
 obtain ⟨hwell,hrow⟩:=h.sound.row_of_entry hentry
 have hvalid:validRedrive entry.delivery
   (redriven entry.delivery entry.delivery.attempt lastError operator reason)=true:=by
  simp only [validRedrive,hdead,redriven,sameMetadata,beq_self_eq_true,Bool.and_true]
  exact decide_eq_true (Nat.lt_succ_self _)
 have hupsert:s.queue.upsertDelivery reader
   (redriven entry.delivery entry.delivery.attempt lastError operator reason) =
   .ok (s.queue.insert entry.delivery.deliveryId
    (rowOf d ⟨redriven entry.delivery entry.delivery.attempt lastError operator reason,
     entry.generation,none⟩)):=by
  have haccepted:validateCallbackDelivery
    (redriven entry.delivery entry.delivery.attempt lastError operator reason)=.ok ():=
   redriven_valid hfiled.identity hoperator hreason
  exact upsert_redriven hwell hrow haccepted hvalid rfl (Nat.le_succ _)
 rw [Lifecycle.redrive,redriveDeadLetter_letterText hfiled hcolumn hoperator hreason hafter
  hattempts hcount]
 simp only [hupsert]
 rfl

variable (h:Orderly reader s)
 (hentry:entryAt reader s.queue entry.delivery.deliveryId=some entry)
 (hfiled:Fileable entry.delivery entry.delivery.attempt lastError deadLetteredAt)
 (hattempts:entry.delivery.attempt+1<u32Limit) (hcount:entry.delivery.redriveCount+1<u32Limit)
 (hoperator:isBlank operator=false) (hreason:isBlank reason=false)
include h hentry hfiled hattempts hcount hoperator hreason

lemma Orderly.redriven_orderly:
  Orderly reader (redrivenState d s entry lastError deadLetteredAt operator reason):=by
 obtain ⟨hwell,-⟩:=h.sound.row_of_entry hentry
 have hwell':=redriven_wellFormed hwell hfiled hattempts hcount hoperator hreason
 refine ⟨h.sound.insert hwell',?_,?_,?_⟩
 · intro claim hclaim
   obtain ⟨hsized,found,hfound,hbacks⟩:=h.granted claim hclaim
   refine ⟨hsized,?_⟩
   simp only [redrivenState]
   rw [entryAt_insert hwell']
   by_cases hid:entry.delivery.deliveryId=claim.delivery.deliveryId
   · rw [if_pos hid]
     rw [←hid,hentry] at hfound
     cases hfound
     exact ⟨_,rfl,hbacks.1,fun held=>absurd held not_heldBy_unclaimed⟩
   · rw [if_neg hid]
     exact ⟨found,hfound,hbacks⟩
 · intro other text htext
   simp only [redrivenState] at htext ⊢
   rw [lookup_insert] at htext
   rw [entryAt_insert hwell']
   by_cases hother:entry.delivery.deliveryId=other
   · rw [if_pos hother,Option.some.injEq] at htext
     rw [if_pos hother]
     refine ⟨_,rfl,_,_,_,redriven_fileable hfiled hattempts hcount,Nat.le_refl _,?_,htext.symm⟩
     intro hoffered
     simp [hother] at hoffered
   · rw [if_neg hother] at htext ⊢
     obtain ⟨found,hfound,hfile⟩:=h.filed other text htext
     obtain ⟨hwell'',-⟩:=h.sound.row_of_entry hfound
     refine ⟨found,hfound,hfile.carry (.of_status rfl (Nat.le_refl _)) hwell''.sized ?_⟩
     intro hoffered
     exact ⟨mem_of_mem_filter hoffered,fun _=>rfl⟩
 · intro other hoffered
   simp only [redrivenState] at hoffered ⊢
   rw [lookup_insert]
   by_cases hother:entry.delivery.deliveryId=other
   · rw [if_pos hother]
     exact some_ne_none _
   · rw [if_neg hother]
     exact h.offered other (mem_of_mem_filter hoffered)

lemma Orderly.redriven_shown:
  (redrivenState d s entry lastError deadLetteredAt operator reason).queue.getDelivery
    reader entry.delivery.deliveryId =
   .ok (some (redriven entry.delivery entry.delivery.attempt lastError operator reason)):=by
 obtain ⟨hwell,-⟩:=h.sound.row_of_entry hentry
 have hwell':=redriven_wellFormed hwell hfiled hattempts hcount hoperator hreason
 have hshown:entryAt reader (redrivenState d s entry lastError deadLetteredAt operator
   reason).queue entry.delivery.deliveryId=some
    ⟨redriven entry.delivery entry.delivery.attempt lastError operator reason,
     entry.generation,none⟩:=
  entryAt_of_row (lookup_insert_self _ _ _) hwell'
 exact getDelivery_of_entryAt (h.sound.insert hwell') hshown
end

lemma Orderly.redrive(h:Orderly reader s){operator reason:String}{redrivenAt:ℕ}
  (hpermitted:Permitted reader s (.redrive id operator reason redrivenAt)):
  Orderly reader (s.redrive reader id operator reason redrivenAt).2:=by
 obtain ⟨entry,lastError,deadLetteredAt,hentry,hdead,hfiled,hattempts,hcount,hcolumn,-⟩:=
  h.redrive_filed hpermitted
 obtain ⟨hwell,-⟩:=h.sound.row_of_entry hentry
 have hid:=hwell.deliveryId
 subst hid
 cases hresult:s.letters.redriveDeadLetter reader entry.delivery.deliveryId operator reason
   redrivenAt with
 | error e=>simpa only [Lifecycle.redrive,hresult] using h
 | ok result=>
  obtain ⟨hoperator,hreason,hafter⟩:=redriveDeadLetter_ok hfiled hcolumn hresult
  rw [h.redrive_done hentry hdead hfiled hattempts hcount hcolumn hoperator hreason hafter]
  exact h.redriven_orderly hentry hfiled hattempts hcount hoperator hreason

lemma Orderly.step(h:Orderly reader s)(call:LifecycleCall)(hpermitted:Permitted reader s call)
  (hrestates:Restates reader s call):Orderly reader (s.step reader call).2:=by
 cases call with
 | schedule delivery sized scheduled=>
  have hordinary:Ordinary s.granted (.upsert delivery sized):=scheduleEvent_fresh scheduled
  exact h.transact hordinary
 | claim now claimLease limit=>exact h.transact trivial
 | respond n policy response now sized completedAt=>
  simp only [Lifecycle.step]
  cases hclaim:s.granted[n]? with
  | none=>exact h
  | some claim=>exact h.respond (mem_of_getElem? hclaim) policy response sized completedAt
 | recover now=>exact h.transact trivial
 | cancel subscriptionId reason=>exact h.transact trivial
 | offer deliveryId deadLetteredAt sized=>exact h.offer sized hrestates
 | redrive deliveryId operator reason redrivenAt=>exact h.redrive hpermitted
end

lemma Orderly.start : Orderly reader Lifecycle.new where
 sound:=by
  intro id row hrow
  rw [Lifecycle.new,ExtTreeMap.getElem?_empty] at hrow
  cases hrow
 granted:=by
  intro claim hclaim
  cases hclaim
 filed:=by
  intro id text htext
  rw [Lifecycle.new,ExtTreeMap.getElem?_empty] at htext
  cases htext
 offered:=by
  intro id hoffered
  cases hoffered

lemma run_orderly(calls:List LifecycleCall)
  (hpermitted:∀t∈history (Lifecycle.step reader) .new calls,Permitted reader t.before t.call)
  (hrestates:∀t∈history (Lifecycle.step reader) .new calls,Restates reader t.before t.call):
  Orderly reader (execute (Lifecycle.step reader) .new calls) ∧
   ∀t∈history (Lifecycle.step reader) .new calls,Orderly reader t.before:=by
 induction calls using List.reverseRecOn with
 | nil=>exact ⟨.start,fun t ht=>by cases ht⟩
 | append_singleton calls call ih=>
  rw [history_concat] at hpermitted hrestates ⊢
  rw [execute_concat]
  have hlast:=mem_append_right (history (Lifecycle.step reader) .new calls)
   (mem_singleton_self (takeStep (Lifecycle.step reader)
    (execute (Lifecycle.step reader) .new calls) call))
  obtain ⟨hreached,hbefore⟩:=ih (fun t ht=>hpermitted t (mem_append_left _ ht))
   (fun t ht=>hrestates t (mem_append_left _ ht))
  refine ⟨hreached.step call (hpermitted _ hlast) (hrestates _ hlast),?_⟩
  intro t ht
  rcases mem_append.mp ht with ht|ht
  · exact hbefore t ht
  · rw [mem_singleton.mp ht]
    exact hreached

/-- In every run in which offers restate the stored dead letter of their delivery, dead letters stay
redrivable. -/
theorem dead_letters_redrivable {d : StringDisplay} (reader : JsonReader d)
  (calls : List LifecycleCall)
  (hpermitted : ∀t∈history (Lifecycle.step reader) .new calls,Permitted reader t.before t.call)
  (hrestates : ∀t∈history (Lifecycle.step reader) .new calls,Restates reader t.before t.call) :
  Redrivable reader (history (Lifecycle.step reader) .new calls)
   (execute (Lifecycle.step reader) .new calls) := by
 obtain ⟨hreached,hbefore⟩:=run_orderly calls hpermitted hrestates
 refine ⟨?_,?_,?_⟩
 · intro t ht deliveryId deadLetteredAt sized delivery hcall hshown hdead htimed
   have horderly:=hbefore t ht
   have hoffer:=hrestates t ht
   rw [hcall] at hoffer
   obtain ⟨before,call,after,-,rfl⟩:=mem_history _ ht
   obtain rfl:call=.offer deliveryId deadLetteredAt sized:=hcall
   obtain ⟨entry,hentry,rfl⟩:=entryAt_of_getDelivery horderly.sound hshown
   have hdone:=horderly.offer_dead sized hentry hdead htimed hoffer
   exact congrArg Prod.fst hdone
 · intro t ht deliveryId operator reason redrivenAt hcall hoperator hreason hafter
   have horderly:=hbefore t ht
   have hredrive:=hpermitted t ht
   rw [hcall] at hredrive
   obtain ⟨before,call,after,-,rfl⟩:=mem_history _ ht
   obtain rfl:call=.redrive deliveryId operator reason redrivenAt:=hcall
   obtain ⟨entry,lastError,deadLetteredAt,hentry,hdead,hfiled,hattempts,hcount,hcolumn,
    hread⟩:=horderly.redrive_filed hredrive
   obtain ⟨hwell,-⟩:=horderly.sound.row_of_entry hentry
   have hid:=hwell.deliveryId
   subst hid
   have hdone:=horderly.redrive_done hentry hdead hfiled hattempts hcount hcolumn hoperator hreason
    (hafter _ hread)
   refine ⟨entry.delivery,_,getDelivery_of_entryAt horderly.sound hentry,
    congrArg Prod.fst hdone,rfl,?_⟩
   have hstate:(takeStep (Lifecycle.step reader) (execute (Lifecycle.step reader) .new before)
     (.redrive entry.delivery.deliveryId operator reason redrivenAt)).after =
     redrivenState d (execute (Lifecycle.step reader) .new before) entry lastError deadLetteredAt
      operator reason:=congrArg Prod.snd hdone
   rw [hstate]
   exact horderly.redriven_shown hentry hfiled hattempts hcount hoperator hreason
 · intro deliveryId
   cases hstored:(execute (Lifecycle.step reader) .new calls).letters[deliveryId]? with
   | none=>exact ⟨none,by rw [getDeadLetter,hstored],fun letter hletter=>by cases hletter⟩
   | some text=>
    obtain ⟨entry,attempts,lastError,deadLetteredAt,-,-,hfiled,-,-,-,hread⟩:=
     hreached.getDeadLetter hstored
    refine ⟨_,hread,?_⟩
    intro letter hletter
    cases hletter
    exact ⟨attempts,hfiled.attempted,rfl⟩
end

def scheduledDelivery : CallbackDelivery := { firstDelivered with status:=.pending }

def giveUpAtOnce : CallbackRetryPolicy := .new 1 1 1

def givenUp (delivery:CallbackDelivery) : CallbackDelivery :=
 finishedWith (claimed delivery) .deadLettered "server_error:503"

def redrivenDelivery : CallbackDelivery :=
 redriven (givenUp scheduledDelivery) 1 (some "server_error:503") "operator" "target is back"

def queueOf (entry:Entry) : SqliteCallbackDeliveryQueue :=
 (∅:SqliteCallbackDeliveryQueue).insert "del_sub_a" (rowOf serdeDisplay entry)

section
variable (reader:JsonReader serdeDisplay) {entry entry':Entry}

lemma scheduledDelivery_sized:scheduledDelivery.Sized:=by
 constructor <;>simp [scheduledDelivery,firstDelivered,u64Limit,u32Limit]

lemma redrivenDelivery_sized:redrivenDelivery.Sized:=by
 constructor <;>
  simp [redrivenDelivery,redriven,givenUp,finishedWith,claimed,scheduledDelivery,
   firstDelivered,u64Limit,u32Limit]

/-- What the checks of the queue and the store compute on the deliveries of the run. -/
structure SampleChecks : Prop where
 scheduled:scheduleEvent orderedSubscription (runProgress 1 "a")=some scheduledDelivery
 valid:∀delivery∈[scheduledDelivery,givenUp scheduledDelivery,redrivenDelivery,
  givenUp redrivenDelivery],validateCallbackDelivery delivery=.ok ()
 responded:∀delivery∈[scheduledDelivery,redrivenDelivery],
  recordResponse giveUpAtOnce (claimed delivery) (.serverError 503) 5=givenUp delivery
 completed:∀item∈[(scheduledDelivery,0),(redrivenDelivery,1)],
  completionChecks (claimOf 1 11 item) (givenUp item.1) 5=.ok ()
 operator:isBlank "operator" = false
 reason:isBlank "target is back" = false
 redrive:validRedrive (givenUp scheduledDelivery) redrivenDelivery=true

lemma sampleChecks : SampleChecks where
 scheduled:=by decide +kernel
 valid:=by decide +kernel
 responded:=by decide +kernel
 completed:=by decide +kernel
 operator:=by decide +kernel
 reason:=by decide +kernel
 redrive:=by decide +kernel

lemma scheduledDelivery_scheduled:∃subscription event,
  scheduleEvent subscription event=some scheduledDelivery:=
 ⟨orderedSubscription,runProgress 1 "a",SampleChecks.scheduled sampleChecks⟩

lemma queueOf_insert:
  (queueOf entry).insert "del_sub_a" (rowOf serdeDisplay entry')=queueOf entry':=by
 apply ExtTreeMap.ext_getElem?
 intro id
 rw [queueOf,queueOf,lookup_insert,lookup_insert,lookup_insert]
 by_cases hid : "del_sub_a"=id
 · rw [if_pos hid,if_pos hid]
 · rw [if_neg hid,if_neg hid,if_neg hid]

lemma getDelivery_queueOf(hwell:entry.WellFormed "del_sub_a"):
  (queueOf entry).getDelivery reader "del_sub_a"=.ok (some entry.delivery):=by
 have hrow:(queueOf entry)["del_sub_a"]?=some (rowOf serdeDisplay entry):=lookup_insert_self _ _ _
 simp only [getDelivery,hrow,deliveryFromRowValue_rowOf hwell]
 rfl

lemma select_queueOf{condition:DeliveryRow→Bool}(h:condition (rowOf serdeDisplay entry)=true):
  (queueOf entry).select condition=[("del_sub_a",rowOf serdeDisplay entry)]:=
 select_insert_empty h

lemma smallColumn{n:ℕ}{label:String}(h:n≤11):callbackU64ToI64 n label=.ok (n:ℤ):=by
 rw [callbackU64ToI64,if_pos]
 unfold i64Max
 omega

variable {delivery:CallbackDelivery} {generation:ℕ}

lemma claimAll_queueOf(hid:delivery.deliveryId="del_sub_a")
  (hpending:delivery.status=.pending)(hgeneration:generation<10):
  claimAll serdeDisplay 1 11 [(delivery,generation)] (queueOf ⟨delivery,generation,none⟩) =
   .ok ([claimOf 1 11 (delivery,generation)],
    queueOf (claimedEntry 1 11 (delivery,generation))):=by
 have hsucc:checkedSucc generation=some (generation+1):=by
  rw [checkedSucc,if_pos]
  unfold u64Limit
  omega
 have hrow:(queueOf ⟨delivery,generation,none⟩)[delivery.deliveryId]? =
   some (rowOf serdeDisplay ⟨delivery,generation,none⟩):=by
  rw [hid]
  exact lookup_insert_self _ _ _
 have hupdate:∀(set:DeliveryRow→DeliveryRow) (message:String),
   (queueOf ⟨delivery,generation,none⟩).updateOne delivery.deliveryId
    (fun row=>row.status==callbackDeliveryStatusAsStr .pending &&
     row.claimGeneration==(generation:ℤ)) set message =
    .ok ((queueOf ⟨delivery,generation,none⟩).insert delivery.deliveryId
     (set (rowOf serdeDisplay ⟨delivery,generation,none⟩))):=by
  intro set message
  rw [updateOne,hrow]
  exact if_pos (by simp [rowOf,hpending])
 have hone:claimOne (queueOf ⟨delivery,generation,none⟩) serdeDisplay 1 11 delivery generation =
   .ok (claimOf 1 11 (delivery,generation),
    (queueOf ⟨delivery,generation,none⟩).insert delivery.deliveryId
     (rowOf serdeDisplay (claimedEntry 1 11 (delivery,generation)))):=by
  simp only [claimOne,bind_ok]
  exact ⟨generation+1,by rw [hsucc];rfl,_,smallColumn (by omega),_,smallColumn (by omega),_,
   smallColumn (by omega),_,smallColumn (by omega),_,hupdate _ _,rfl⟩
 simp only [claimAll,hone,ok_bind,hid,queueOf_insert]

lemma claim_queueOf(hwell:Entry.WellFormed "del_sub_a" ⟨delivery,generation,none⟩)
  (hpending:delivery.status=.pending)(hdue:delivery.nextRetryAtUnixMs=none)
  (hgeneration:generation<10):
  (queueOf ⟨delivery,generation,none⟩).claimDueDeliveries reader 1 10 1 =
   .ok ([claimOf 1 11 (delivery,generation)],
    queueOf (claimedEntry 1 11 (delivery,generation))):=by
 have hselect:(queueOf ⟨delivery,generation,none⟩).select (isDue 1) =
   [("del_sub_a",rowOf serdeDisplay ⟨delivery,generation,none⟩)]:=by
  apply select_queueOf
  simp [isDue,rowOf,hpending,hdue,toColumn]
 have hread:collect (readWithGeneration reader)
   (((queueOf ⟨delivery,generation,none⟩).select (isDue 1)).take 1) =
   .ok [(delivery,generation)]:=by
  rw [hselect]
  simp only [take_succ_cons,take_zero,collect,readWithGeneration_rowOf hwell,ok_bind]
  rfl
 change (collect (readWithGeneration reader)
  (((queueOf ⟨delivery,generation,none⟩).select (isDue 1)).take 1) >>=
   fun items=>claimAll serdeDisplay 1 11 items (queueOf ⟨delivery,generation,none⟩))=_
 rw [hread,ok_bind,claimAll_queueOf hwell.deliveryId hpending hgeneration]

lemma complete_queueOf{done:CallbackDelivery}
  (hchecks:completionChecks (claimOf 1 11 (delivery,generation)) done 5=.ok ())
  (hid:done.deliveryId="del_sub_a")(hretry:done.nextRetryAtUnixMs=none)
  (hsequence:done.sequence<10)(hgeneration:generation<10):
  (queueOf (claimedEntry 1 11 (delivery,generation))).completeClaimedDelivery serdeDisplay
    (claimOf 1 11 (delivery,generation)) done 5 =
   .ok (queueOf ⟨done,generation+1,none⟩):=by
 have hrow:(queueOf (claimedEntry 1 11 (delivery,generation)))[done.deliveryId]? =
   some (rowOf serdeDisplay (claimedEntry 1 11 (delivery,generation))):=by
  rw [hid]
  exact lookup_insert_self _ _ _
 obtain ⟨set,hset⟩:∃set,transitionColumns serdeDisplay done=.ok set:=by
  simp only [transitionColumns,hretry,optionalCallbackU64ToI64,transposed,ok_bind,
   smallColumn (show done.sequence≤11 by omega)]
  exact ⟨_,rfl⟩
 have hgenerationColumn:callbackU64ToI64 (claimOf 1 11 (delivery,generation)).claimGeneration
   "callback delivery claim generation"=.ok ((generation+1:ℕ):ℤ):=
  smallColumn (show generation+1≤11 by omega)
 have hstartColumn:callbackU64ToI64 (claimOf 1 11 (delivery,generation)).claimStartedAtUnixMs
   "callback delivery claim start"=.ok ((1:ℕ):ℤ):=smallColumn (show 1≤11 by decide)
 have hexpiryColumn:callbackU64ToI64 (claimOf 1 11 (delivery,generation)).claimExpiresAtUnixMs
   "callback delivery claim expiration"=.ok ((11:ℕ):ℤ):=smallColumn (Nat.le_refl 11)
 have hfenced:((rowOf serdeDisplay (claimedEntry 1 11 (delivery,generation))).status ==
   callbackDeliveryStatusAsStr .delivering &&
   (rowOf serdeDisplay (claimedEntry 1 11 (delivery,generation))).claimGeneration ==
    ((generation+1:ℕ):ℤ) &&
   (rowOf serdeDisplay (claimedEntry 1 11 (delivery,generation))).claimStartedAtUnixMs ==
    some ((1:ℕ):ℤ) &&
   (rowOf serdeDisplay (claimedEntry 1 11 (delivery,generation))).claimExpiresAtUnixMs ==
    some ((11:ℕ):ℤ))=true:=by
  simp [rowOf,claimedEntry,claimed]
 rw [completeClaimedDelivery,hchecks]
 simp only [ok_bind,hset,hgenerationColumn,hstartColumn,hexpiryColumn,updateOne,hrow,if_pos hfenced]
 rw [transitionColumns_ok hset rfl,hid]
 exact congrArg Except.ok queueOf_insert

def firstClaim : ClaimedCallbackDelivery := claimOf 1 11 (scheduledDelivery,0)

def secondClaim : ClaimedCallbackDelivery := claimOf 1 11 (redrivenDelivery,1)

def scheduledState : Lifecycle := ⟨queueOf ⟨scheduledDelivery,0,none⟩,∅,[],[]⟩

def claimedState : Lifecycle :=
 ⟨queueOf (claimedEntry 1 11 (scheduledDelivery,0)),∅,[firstClaim],[]⟩

def deadState : Lifecycle := ⟨queueOf ⟨givenUp scheduledDelivery,1,none⟩,∅,[firstClaim],[]⟩

def filedState : Lifecycle :=
 { deadState with
   letters:=(∅:SqliteCallbackDeadLetterStore).insert "del_sub_a"
    (letterText serdeDisplay (givenUp scheduledDelivery) 1 (some "server_error:503") 10)
   offered:=["del_sub_a"] }

def redriveState : Lifecycle where
 queue:=queueOf ⟨redrivenDelivery,1,none⟩
 letters:=filedState.letters.insert "del_sub_a"
  (letterText serdeDisplay redrivenDelivery 2 (some "server_error:503") 10)
 granted:=[firstClaim]
 offered:=[]

def reclaimedState : Lifecycle :=
 { redriveState with
   queue:=queueOf (claimedEntry 1 11 (redrivenDelivery,1)),granted:=[firstClaim,secondClaim] }

def deadAgainState : Lifecycle :=
 { redriveState with
   queue:=queueOf ⟨givenUp redrivenDelivery,2,none⟩,granted:=[firstClaim,secondClaim] }

lemma transact_claim{s:Lifecycle}(hqueue:s.queue=queueOf ⟨delivery,generation,none⟩)
  (hwell:Entry.WellFormed "del_sub_a" ⟨delivery,generation,none⟩)
  (hpending:delivery.status=.pending)(hdue:delivery.nextRetryAtUnixMs=none)
  (hgeneration:generation<10):
  s.step reader (.claim 1 10 1)=(.queue (.ok (.claims [claimOf 1 11 (delivery,generation)])),
    { s with
      queue:=queueOf (claimedEntry 1 11 (delivery,generation))
      granted:=s.granted++[claimOf 1 11 (delivery,generation)] }):=by
 rw [Lifecycle.step,hqueue,perform,claim_queueOf reader hwell hpending hdue hgeneration]
 rfl

lemma transact_respond{s:Lifecycle}{n:ℕ}
  (hqueue:s.queue=queueOf (claimedEntry 1 11 (delivery,generation)))
  (hclaim:s.granted[n]?=some (claimOf 1 11 (delivery,generation)))
  (hdone:recordResponse giveUpAtOnce (claimed delivery) (.serverError 503) 5=givenUp delivery)
  (hchecks:completionChecks (claimOf 1 11 (delivery,generation)) (givenUp delivery) 5=.ok ())
  (hid:delivery.deliveryId="del_sub_a")(hsequence:delivery.sequence<10)
  (hgeneration:generation<10):
  s.step reader (.respond n giveUpAtOnce (.serverError 503) 5 (by decide) 5) =
   (.queue (.ok .done),{ s with queue:=queueOf ⟨givenUp delivery,generation+1,none⟩ }):=by
 have hdone':recordResponse giveUpAtOnce (claimOf 1 11 (delivery,generation)).delivery
   (.serverError 503) 5=givenUp delivery:=hdone
 simp only [Lifecycle.step,hclaim,hdone',hqueue]
 rw [complete_queueOf hchecks hid rfl hsequence hgeneration]
 simp [Lifecycle.transact,Except.map,claimsIn]

lemma scheduledEntry_wellFormed:Entry.WellFormed "del_sub_a" ⟨scheduledDelivery,0,none⟩:=
 unclaimed_wellFormed (SampleChecks.valid sampleChecks _ (by simp)) scheduledDelivery_sized
  (by decide) (by decide) 0

lemma deadEntry_wellFormed:Entry.WellFormed "del_sub_a" ⟨givenUp scheduledDelivery,1,none⟩:=
 unclaimed_wellFormed (SampleChecks.valid sampleChecks (givenUp scheduledDelivery) (by simp))
  (finishedWith_sized (claimed_sized scheduledDelivery_sized) _ _) (by decide) (by decide) 1

lemma redrivenEntry_wellFormed:Entry.WellFormed "del_sub_a" ⟨redrivenDelivery,1,none⟩:=
 unclaimed_wellFormed (SampleChecks.valid sampleChecks _ (by simp)) redrivenDelivery_sized
  (by decide) (by decide) 1

lemma deadAgainEntry_wellFormed:Entry.WellFormed "del_sub_a" ⟨givenUp redrivenDelivery,2,none⟩:=
 unclaimed_wellFormed (SampleChecks.valid sampleChecks (givenUp redrivenDelivery) (by simp))
  (finishedWith_sized (claimed_sized redrivenDelivery_sized) _ _) (by decide) (by decide) 2

lemma step_schedule:Lifecycle.new.step reader (.schedule scheduledDelivery scheduledDelivery_sized
   scheduledDelivery_scheduled)=(.queue (.ok .done),scheduledState):=by
 have hinsert:insertNew ∅ serdeDisplay scheduledDelivery=.ok scheduledState.queue:=rfl
 have hupsert:upsertDelivery ∅ reader scheduledDelivery=.ok scheduledState.queue:=by
  rw [upsertDelivery,SampleChecks.valid sampleChecks scheduledDelivery (by simp),ok_bind,
   ExtTreeMap.getElem?_empty]
  exact hinsert
 rw [Lifecycle.step,Lifecycle.new,perform,hupsert]
 rfl

lemma step_claim:scheduledState.step reader (.claim 1 10 1) =
  (.queue (.ok (.claims [firstClaim])),claimedState):=
 transact_claim reader rfl scheduledEntry_wellFormed rfl rfl (by decide)

lemma step_respond:
  claimedState.step reader (.respond 0 giveUpAtOnce (.serverError 503) 5 (by decide) 5) =
   (.queue (.ok .done),deadState):=
 transact_respond reader rfl rfl (SampleChecks.responded sampleChecks _ (by simp))
  (SampleChecks.completed sampleChecks _ (by simp)) rfl (by decide) (by decide)

lemma step_reclaim:redriveState.step reader (.claim 1 10 1) =
  (.queue (.ok (.claims [secondClaim])),reclaimedState):=
 transact_claim reader rfl redrivenEntry_wellFormed rfl rfl (by decide)

lemma step_respond_again:
  reclaimedState.step reader (.respond 1 giveUpAtOnce (.serverError 503) 5 (by decide) 5) =
   (.queue (.ok .done),deadAgainState):=
 transact_respond reader rfl rfl (SampleChecks.responded sampleChecks _ (by simp))
  (SampleChecks.completed sampleChecks _ (by simp)) rfl (by decide) (by decide)

lemma dead_fileable:Fileable (givenUp scheduledDelivery) 1 (some "server_error:503") 10:=
 fileable_of_dead deadEntry_wellFormed rfl (by decide) (by decide)

lemma step_offer:
  deadState.step reader (.offer "del_sub_a" 10 (by decide))=(.inserted (.ok ()),filedState):=by
 have hinsert:deadState.letters.insertDeadLetter reader
   (letterOf (givenUp scheduledDelivery) 1 (some "server_error:503") 10) =
   .ok filedState.letters:=
  insert_first dead_fileable ExtTreeMap.getElem?_empty
 have hletter:CallbackDeadLetter.fromDelivery (givenUp scheduledDelivery) 10 =
   .ok (letterOf (givenUp scheduledDelivery) 1 (some "server_error:503") 10):=
  fromDelivery_dead (SampleChecks.valid sampleChecks _ (by simp)) rfl (by decide)
 have hshown:deadState.queue.getDelivery reader "del_sub_a" =
   .ok (some (givenUp scheduledDelivery)):=getDelivery_queueOf reader deadEntry_wellFormed
 simp only [Lifecycle.step,Lifecycle.offer,hshown,hletter,hinsert]
 rfl

lemma step_redrive:filedState.step reader (.redrive "del_sub_a" "operator" "target is back" 20) =
   (.redriven redrivenDelivery (.ok ()),redriveState):=by
 have hredrive:filedState.letters.redriveDeadLetter reader "del_sub_a" "operator"
   "target is back" 20=.ok (redrivenDelivery,redriveState.letters):=
  redriveDeadLetter_letterText dead_fileable (lookup_insert_self _ _ _)
   (SampleChecks.operator sampleChecks) (SampleChecks.reason sampleChecks) (by decide)
   (by decide) (by decide)
 have hrow:filedState.queue["del_sub_a"]? =
   some (rowOf serdeDisplay ⟨givenUp scheduledDelivery,1,none⟩):=lookup_insert_self _ _ _
 have hupsert:∀entry:Entry,entry=⟨givenUp scheduledDelivery,1,none⟩ →
   filedState.queue.upsertDelivery reader redrivenDelivery =
    .ok (filedState.queue.insert "del_sub_a"
     (rowOf serdeDisplay ⟨redrivenDelivery,entry.generation,none⟩)):=by
  rintro entry rfl
  exact upsert_redriven deadEntry_wellFormed hrow
   (SampleChecks.valid sampleChecks redrivenDelivery (by simp))
   (SampleChecks.redrive sampleChecks) rfl (by decide)
 have hqueue:filedState.queue.insert "del_sub_a"
   (rowOf serdeDisplay ⟨redrivenDelivery,1,none⟩)=redriveState.queue:=queueOf_insert
 simp only [Lifecycle.step,Lifecycle.redrive,hredrive,hupsert _ rfl,hqueue]
 rfl

lemma step_offer_again:∃e,deadAgainState.step reader (.offer "del_sub_a" 30 (by decide)) =
  (.inserted (.error e),{ deadAgainState with offered:=["del_sub_a"] }):=by
 have hcarried:Carried redrivenDelivery (givenUp redrivenDelivery):=.of_status rfl (Nat.le_refl _)
 have hfiled:Fileable redrivenDelivery 2 (some "server_error:503") 10:=
  redriven_fileable dead_fileable (by decide) (by decide)
 have hstored:deadAgainState.letters["del_sub_a"]? =
   some (letterText serdeDisplay (givenUp redrivenDelivery) 2 (some "server_error:503") 10):=by
  rw [letterText,hcarried.letterOf_eq]
  exact lookup_insert_self _ _ _
 have hfileable:Fileable (givenUp redrivenDelivery) 2 (some "server_error:503") 30:=
  fileable_of_dead deadAgainEntry_wellFormed rfl (by decide) (by decide)
 obtain ⟨e,hconflict⟩:∃e,deadAgainState.letters.insertDeadLetter reader
   (letterOf (givenUp redrivenDelivery) 2 (some "server_error:503") 30)=.error e:=
  insert_conflict hfileable hstored
   (hcarried.fileable (Entry.WellFormed.sized deadAgainEntry_wellFormed) hfiled)
   (by decide)
 have hletter:CallbackDeadLetter.fromDelivery (givenUp redrivenDelivery) 30 =
   .ok (letterOf (givenUp redrivenDelivery) 2 (some "server_error:503") 30):=
  fromDelivery_dead (SampleChecks.valid sampleChecks _ (by simp)) rfl (by decide)
 have hshown:deadAgainState.queue.getDelivery reader "del_sub_a" =
   .ok (some (givenUp redrivenDelivery)):=
  getDelivery_queueOf reader deadAgainEntry_wellFormed
 refine ⟨e,?_⟩
 simp only [Lifecycle.step,Lifecycle.offer,hshown,hletter,hconflict]
 rfl

/-- The delivery is given up, its dead letter filed and redriven. -/
def redriveRun : List LifecycleCall :=
 [.schedule scheduledDelivery scheduledDelivery_sized scheduledDelivery_scheduled,
  .claim 1 10 1,.respond 0 giveUpAtOnce (.serverError 503) 5 (by decide) 5,
  .offer "del_sub_a" 10 (by decide),.redrive "del_sub_a" "operator" "target is back" 20]

/-- The redriven delivery is given up once more. -/
def secondFailure : List LifecycleCall :=
 redriveRun++[.claim 1 10 1,.respond 1 giveUpAtOnce (.serverError 503) 5 (by decide) 5,
  .offer "del_sub_a" 30 (by decide)]

lemma execute_redriveRun:execute (Lifecycle.step reader) .new redriveRun=redriveState:=by
 simp only [redriveRun,execute_cons,step_schedule,step_claim,step_respond,step_offer,
  step_redrive,execute_nil]

lemma redriveRun_permitted:
  ∀t∈history (Lifecycle.step reader) .new redriveRun,Permitted reader t.before t.call:=by
 simp only [redriveRun,history,step_schedule,step_claim,step_respond,step_offer,
  forall_mem_cons,not_mem_nil,false_imp_iff,implies_true,and_true]
 refine ⟨trivial,trivial,trivial,trivial,mem_singleton_self _,?_⟩
 exact ⟨_,getDelivery_queueOf reader deadEntry_wellFormed,rfl,by decide,by decide⟩

lemma redriveRun_restates:
  ∀t∈history (Lifecycle.step reader) .new redriveRun,Restates reader t.before t.call:=by
 simp only [redriveRun,history,step_schedule,step_claim,step_respond,step_offer,
  forall_mem_cons,not_mem_nil,false_imp_iff,implies_true,and_true]
 refine ⟨trivial,trivial,trivial,?_,trivial⟩
 intro letter delivery hletter
 have hnone:deadState.letters.getDeadLetter reader "del_sub_a"=.ok none:=by
  have hempty:deadState.letters["del_sub_a"]?=none:=ExtTreeMap.getElem?_empty
  rw [getDeadLetter,hempty]
 have hsame:(.ok none:Outcome (Option CallbackDeadLetter))=.ok (some letter):=
  hnone.symm.trans hletter
 cases hsame

lemma secondFailure_permitted:∀t∈history (Lifecycle.step reader) .new secondFailure,
   Permitted reader t.before t.call:=by
 rw [secondFailure,history_append,execute_redriveRun]
 intro t ht
 rcases mem_append.mp ht with ht|ht
 · exact redriveRun_permitted reader t ht
 · simp only [history,mem_cons,not_mem_nil,or_false] at ht
   rcases ht with rfl|rfl|rfl <;>trivial
end

theorem filed_letter_redriven :
  (∀t∈history (Lifecycle.step (compactReader serdeDisplay)) .new redriveRun,
   Permitted (compactReader serdeDisplay) t.before t.call) ∧
  (∀t∈history (Lifecycle.step (compactReader serdeDisplay)) .new redriveRun,
   Restates (compactReader serdeDisplay) t.before t.call) ∧
  Redrivable (compactReader serdeDisplay)
   (history (Lifecycle.step (compactReader serdeDisplay)) .new redriveRun)
   (execute (Lifecycle.step (compactReader serdeDisplay)) .new redriveRun) :=
 ⟨redriveRun_permitted _,redriveRun_restates _,
  dead_letters_redrivable _ redriveRun (redriveRun_permitted _) (redriveRun_restates _)⟩

/-- A redriven delivery that is given up again leaves no dead letter to redrive it from. -/
theorem second_dead_letter_refused : ¬ ∀calls : List LifecycleCall,
   (∀t∈history (Lifecycle.step (compactReader serdeDisplay)) .new calls,
    Permitted (compactReader serdeDisplay) t.before t.call) →
   Redrivable (compactReader serdeDisplay)
    (history (Lifecycle.step (compactReader serdeDisplay)) .new calls)
    (execute (Lifecycle.step (compactReader serdeDisplay)) .new calls) := by
 intro h
 have hredrivable:=h secondFailure (secondFailure_permitted _)
 have hlast:takeStep (Lifecycle.step (compactReader serdeDisplay)) deadAgainState
   (.offer "del_sub_a" 30 (by decide)) ∈
   history (Lifecycle.step (compactReader serdeDisplay)) .new secondFailure:=by
  rw [secondFailure,history_append,execute_redriveRun]
  simp only [history,step_reclaim,step_respond_again,mem_append,mem_cons,true_or,or_true]
 have hinserted:=hredrivable.inserted _ hlast "del_sub_a" 30 (by decide)
  (givenUp redrivenDelivery) rfl (getDelivery_queueOf _ deadAgainEntry_wellFormed) rfl (by decide)
 obtain ⟨e,hrefused⟩:=step_offer_again (compactReader serdeDisplay)
 have hresponse:LifecycleResponse.inserted (.error e)=.inserted (.ok ()):=
  (congrArg Prod.fst hrefused).symm.trans hinserted
 cases hresponse

end GraphBlocks.CallbackDeliveries
