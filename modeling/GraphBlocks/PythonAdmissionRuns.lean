import GraphBlocks.PythonAdmissionSubmissions

namespace GraphBlocks.PythonAdmission
open RustStd RaisingMethods MachineRuns List

variable {nowMs units:ℤ} {q s:AdmissionTicketQueue} {runId requestId ownerId:String}
 {tenantId:Option String}

lemma submitWithin_ends(hq:Consistent q)(hrun:Text runId)(hrequest:Text requestId)
  (howner:Text ownerId)(htenant:∀tenant,tenantId=some tenant→Text tenant)
  (h:Submittable nowMs.toNat units.toNat q (tenantId,ownerId,requestId)):
  Ends (submitWithin runId requestId ownerId tenantId nowMs units) q
   (fun submission s=>Advances q s (issuedBy submission)) (Fails nowMs.toNat q):=by
 simp only [submitWithin,ends_bind,ends_get]
 refine ends_check .refl fun now hnow=>?_
 obtain ⟨rfl,hwithin⟩:=nonNegativeInteger_ok.mp hnow
 refine ends_check .refl fun n hn=>?_
 obtain ⟨rfl,hunits⟩:=positiveInteger_ok.mp hn
 rw [Int.toNat_natCast,Int.toNat_natCast] at h
 rw [Int.toNat_natCast]
 refine ends_check .refl fun _ _=>?_
 refine ends_check .refl fun _ hexpiry=>?_
 have hexpiry':(now:ℤ)≤ maxAdmissionInteger-q.ticketTtlMs:=by simpa using ensure_ok.mp hexpiry
 have hr:Requestable q ⟨runId,requestId,ownerId,tenantId,now,n⟩:=by
  refine ⟨hrun,hrequest,howner,htenant,hwithin,hunits,?_⟩
  change now+q.ticketTtlMs≤ maxAdmissionInteger
  omega
 exact submitLocked_ends hq hr h

lemma submit_ends(hq:Consistent q)
  (h:Submittable nowMs.toNat units.toNat q (tenantId,ownerId,requestId)):
  Ends (submit runId requestId ownerId tenantId nowMs units) q
   (fun submission s=>Advances q s (issuedBy submission)) (Fails nowMs.toNat q):=by
 simp only [submit,ends_bind]
 refine ends_check .refl fun _ hrun=>?_
 obtain ⟨hrun',rfl⟩:=nonEmptyString_ok.mp hrun
 refine ends_check .refl fun _ hrequest=>?_
 obtain ⟨hrequest',rfl⟩:=nonEmptyString_ok.mp hrequest
 refine ends_check .refl fun _ howner=>?_
 obtain ⟨howner',rfl⟩:=nonEmptyString_ok.mp howner
 cases tenantId with
 | none=>
  simp only [ends_bind,ends_pure]
  exact submitWithin_ends hq hrun' hrequest' howner' (fun _ hnone=>nomatch hnone) h
 | some tenant=>
  simp only [ends_bind,ends_map]
  refine ends_check .refl fun _ hgiven=>?_
  obtain ⟨htenant,rfl⟩:=nonEmptyString_ok.mp hgiven
  refine submitWithin_ends hq hrun' hrequest' howner' ?_ h
  intro other hother
  cases hother
  exact htenant

/-- The call finds room for its own change in the queue. -/
def Ready (q:AdmissionTicketQueue) : Call→Prop
 | .submit _ requestId ownerId tenantId nowMs units=>
  Submittable nowMs.toNat units.toNat q (tenantId,ownerId,requestId)
 | .promote _=>True
 | .markRunning _ _ _=>True
 | .complete _ _ _ _=>Versions 2 q∧Tokens 0 q
 | .cancel ticketId nowMs state fencingToken=>
  Versions 3 q∧Tokens 0 q∧Cancellable nowMs.toNat q ticketId state fencingToken
 | .expire _=>True

def Reply.issued : Reply→List String
 | .submission reply=>issuedBy reply
 | .ticket _=>[]
 | .tickets _=>[]
 | .settled _ _=>[]

lemma perform_ends(hq:Consistent q){call:Call}(ready:Ready q call):
  Ends (perform call) q (fun reply s=>Advances q s reply.issued)
   (Fails call.nowMs.toNat q):=by
 cases call with
 | submit runId requestId ownerId tenantId nowMs units=>
  exact (ends_map _ _).mpr (submit_ends hq ready)
 | promote nowMs=>exact (ends_map _ _).mpr (promote_ends hq)
 | markRunning ticketId fencingToken nowMs=>
  exact (ends_map _ _).mpr (markRunning_ends hq ticketId fencingToken)
 | complete ticketId fencingToken state nowMs=>
  exact (ends_map _ _).mpr (complete_ends hq ready.1 ready.2 ticketId fencingToken state)
 | cancel ticketId nowMs state fencingToken=>
  exact (ends_map _ _).mpr (cancel_ends hq ready.1 ready.2.1 ready.2.2)
 | expire nowMs=>exact (ends_map _ _).mpr (expire_ends hq)

def issuedIn (t:Transition AdmissionTicketQueue Call (Except Raised Reply)) : List String :=
 match t.response with
 | .ok reply=>reply.issued
 | .error _=>[]

/-- The ids of the tickets in the order of their submissions. -/
def submittedIn (past:List (Transition AdmissionTicketQueue Call (Except Raised Reply))) :
  List String :=
 past.flatMap issuedIn

def Harmless (t:Transition AdmissionTicketQueue Call (Except Raised Reply)) : Prop :=
 ∀raised,t.response=.error raised→Fails t.call.nowMs.toNat t.before raised t.after

lemma step_advances(hq:Consistent q){call:Call}(ready:Ready q call):
  Advances q (step q call).2 (issuedIn (takeStep step q call))∧Harmless (takeStep step q call):=by
 rcases (perform_ends hq ready).call with ⟨reply,hreply,hadvances⟩|⟨raised,hraised,hfails⟩
 · have hreply':(step q call).1=.ok reply:=hreply
   refine ⟨?_,?_⟩
   · simp only [issuedIn,takeStep,hreply']
     exact hadvances
   · intro raised hraised
     rw [takeStep,hreply'] at hraised
     cases hraised
 · have hraised':(step q call).1=.error raised:=hraised
   refine ⟨?_,?_⟩
   · simp only [issuedIn,takeStep,hraised']
     exact hfails.2.advances hq
   · intro other hother
     rw [takeStep,hraised'] at hother
     cases hother
     exact hfails

/-- Every call of a run from `q` finds room for its own change. -/
def ReadyRun (q:AdmissionTicketQueue) : List Call→Prop
 | []=>True
 | call::calls=>Ready q call∧ReadyRun (step q call).2 calls

lemma readyRun_append(xs ys:List Call):
  ReadyRun q (xs++ys)↔ReadyRun q xs∧ReadyRun (execute step q xs) ys:=by
 induction xs generalizing q with
 | nil=>simp [ReadyRun]
 | cons call xs ih=>simp only [cons_append,ReadyRun,ih,execute_cons,and_assoc]

lemma run_advances(hq:Consistent q){calls:List Call}(ready:ReadyRun q calls):
  Advances q (execute step q calls) (submittedIn (history step q calls)) ∧
   ∀t∈history step q calls,Harmless t:=by
 induction calls generalizing q with
 | nil=>
  have hstart:Tidied 0 q q:=.refl
  exact ⟨hstart.advances hq,fun t ht=>absurd ht not_mem_nil⟩
 | cons call calls ih=>
  obtain ⟨hadvances,hharmless⟩:=step_advances hq ready.1
  obtain ⟨hrest,hall⟩:=ih hadvances.consistent ready.2
  refine ⟨hadvances.trans hrest,?_⟩
  intro t ht
  rw [history,mem_cons] at ht
  rcases ht with rfl|ht
  · exact hharmless
  · exact hall t ht

lemma Fences.unique(h:Fences q s)(hq:Consistent q){i j:String}{t u:AdmissionTicket}
  {token:ℕ}(ht:q.tickets.get? i=some t)(hu:s.tickets.get? j=some u)
  (htoken:t.fencingToken=some token)(hutoken:u.fencingToken=some token):i=j:=by
 rcases h.token j u token hu hutoken with ⟨v,hv,hvtoken⟩|hnew
 · exact hq.tokens i j t v token ht hv htoken hvtoken
 · exact absurd (hq.fenced i t token ht htoken) (by omega)

lemma consistent_new (fields:QueueFields) (accepted:fields.check=.ok ()) :
  Consistent (.new fields accepted) where
 pending_nodup:=nodup_nil
 pending_iff id:=by simp [AdmissionTicketQueue.new]
 pending_length:=Nat.zero_le _
 active_iff id:=by simp [AdmissionTicketQueue.new]
 active_card:=Nat.zero_le _
 windowUsed_le:=Nat.zero_le _
 inverse key id:=by simp [AdmissionTicketQueue.new]
 ownId id t ht:=by simp [AdmissionTicketQueue.new] at ht
 numbered id t ht:=by simp [AdmissionTicketQueue.new] at ht
 fenced id t token ht:=by simp [AdmissionTicketQueue.new] at ht
 tokens i j t u token ht:=by simp [AdmissionTicketQueue.new] at ht
 nextFencingToken_pos:=Nat.one_pos
 nextSequence_pos:=Nat.one_pos

/-- What the queue promises of a run. -/
structure Sound (q:AdmissionTicketQueue) (calls:List Call) : Prop where
 consistent:Consistent (execute step q calls)
 submission_order:(execute step q calls).pending.Sublist (submittedIn (history step q calls))
 submitted_nodup:(submittedIn (history step q calls)).Nodup
 tokens:∀earlier later,calls=earlier++later → ∀i j t u token,
  (execute step q earlier).tickets.get? i=some t →
  (execute step q calls).tickets.get? j=some u →
  t.fencingToken=some token→u.fencingToken=some token→i=j
 harmless:∀t∈history step q calls,Harmless t

theorem admission_queue_sound (fields : QueueFields) (accepted : fields.check=.ok ())
  (calls : List Call)
  (ready : ReadyRun (.new fields accepted) calls) : Sound (.new fields accepted) calls := by
 obtain ⟨hadvances,hharmless⟩:=run_advances (consistent_new fields accepted) ready
 refine ⟨hadvances.consistent,hadvances.pending,?_,?_,hharmless⟩
 · rw [hadvances.issued_eq]
   exact (nodup_range' 1).map (ticketIdOf_injective _)
 · rintro earlier later rfl i j t u token ht hu htoken hutoken
   rw [readyRun_append] at ready
   have hbefore:=(run_advances (consistent_new fields accepted) ready.1).1.consistent
   rw [execute_append] at hu
   exact (run_advances hbefore ready.2).1.fences.unique hbefore ht hu htoken hutoken

lemma not_sound_of_valueError{calls:List Call}{call:Call}
  (h:(step (execute step q calls) call).1=.error .valueError):¬Sound q (calls++[call]):=by
 intro hsound
 have hlast:takeStep step (execute step q calls) call∈history step q (calls++[call]):=by
  rw [history_concat]
  exact mem_append_right _ (mem_singleton_self _)
 obtain ⟨⟨error,herror⟩,-⟩:=hsound.harmless _ hlast .valueError h
 cases herror

lemma submittable_of_idle{now units:ℕ}{key:RequestKey}(hidle:q.pending=[])
  (hfits:q.windowUsed+units≤q.rateLimit)(hkey:q.requestTickets.get? key=none):
  Submittable now units q key:=by
 refine ⟨?_,.inl ?_,?_⟩
 · intro id t hmem
   rw [hidle] at hmem
   exact absurd hmem not_mem_nil
 · rw [hidle]
   exact hfits
 · rintro ⟨id,t,hheld,-⟩
   rw [hkey] at hheld
   cases hheld

def sampleFields : QueueFields where
 limiterId := "tenant"
 maxConcurrent:=1
 rateLimit:=10
 windowMs:=1000
 maxPending:=4
 ticketTtlMs:=100
 maxTerminalTickets:=8

lemma sample_accepted:sampleFields.check=.ok ():=by decide +kernel

def sampleQueue : AdmissionTicketQueue := .new sampleFields sample_accepted

/-- The second ticket waits, and its cancellation as expired comes before it expires. -/
def wedging : List Call :=
 [.submit "run-1" "request-1" "owner" none 0 1,.submit "run-2" "request-2" "owner" none 0 1,
  .cancel "tenant-ticket-000002" 1 .expired none]

lemma wedging_run:(execute step sampleQueue wedging).pending=[] ∧
  ((execute step sampleQueue wedging).tickets.get? "tenant-ticket-000002").map
   (fun t=>t.state)=some .queued ∧
  (step (execute step sampleQueue wedging) (.expire 100)).1=.error .valueError:=by
 decide +kernel

theorem wedging_not_sound : ¬Sound sampleQueue (wedging++[.expire 100]) :=
 not_sound_of_valueError wedging_run.2.2

/-- Calls that all find room: the second ticket is promoted when the first has expired. -/
theorem promoting_sound : Sound sampleQueue
  [.submit "run-1" "request-1" "owner" none 0 1,.submit "run-2" "request-2" "owner" none 1 1,
   .markRunning "tenant-ticket-000001" 1 2,.expire 100,.promote 100] := by
 refine admission_queue_sound sampleFields sample_accepted _ ⟨?_,?_,trivial,trivial,trivial,trivial⟩
 · exact submittable_of_idle rfl (by decide) rfl
 · have hidle:(step sampleQueue (.submit "run-1" "request-1" "owner" none 0 1)).2.pending=[] ∧
     (step sampleQueue (.submit "run-1" "request-1" "owner" none 0 1)).2.windowUsed+1 ≤
      (step sampleQueue (.submit "run-1" "request-1" "owner" none 0 1)).2.rateLimit ∧
     (step sampleQueue (.submit "run-1" "request-1" "owner" none 0 1)).2.requestTickets.get?
      (none, "owner", "request-2")=none:=by decide +kernel
   exact submittable_of_idle hidle.1 hidle.2.1 hidle.2.2

end GraphBlocks.PythonAdmission
