import GraphBlocks.PythonAdmission

/-! What `AdmissionTicket.__post_init__` accepts, and the records that the queue builds from an
accepted one. -/
namespace GraphBlocks.PythonAdmission
open RustStd PythonStd List

/-- A text that `_non_empty_string` accepts. -/
structure Text (value:String) : Prop where
 nonempty:strip value ≠ ""
 stripped:value=strip value
 printable:∀c∈value.toList,¬(c.toNat<0x20∨c.toNat=0x7F)

variable {owner fieldName:String}

lemma nonEmptyString_ok{value parsed:String}:
  nonEmptyString owner fieldName value=.ok parsed↔Text value∧parsed=value:=by
 simp only [nonEmptyString,bind_ok,ensure_ok]
 constructor
 · rintro ⟨_,h1,_,h2,_,h3,h⟩
   refine ⟨⟨by simpa using h1,by simpa using h2,?_⟩,by cases h;rfl⟩
   simpa [all_eq_true] using h3
 · rintro ⟨⟨h1,h2,h3⟩,rfl⟩
   refine ⟨(),by simpa using h1,(),by simpa using h2,(),?_,rfl⟩
   simpa [all_eq_true] using h3

/-- A number in the range of the contract. -/
def Within (n:ℕ) : Prop := n≤ maxAdmissionInteger

variable {n:ℕ}

lemma nonNegativeInteger_ok{value:ℤ}:
  nonNegativeInteger owner fieldName value=.ok n↔value=n∧Within n:=by
 simp only [nonNegativeInteger,bind_ok,ensure_ok,decide_eq_true_eq,Within]
 constructor
 · rintro ⟨_,⟨h0,hmax⟩,h⟩
   cases h
   omega
 · rintro ⟨rfl,hn⟩
   exact ⟨(),⟨by omega,by omega⟩,by rw [Int.toNat_natCast];rfl⟩

lemma positiveInteger_ok{value:ℤ}:
  positiveInteger owner fieldName value=.ok n↔value=n∧0<n∧Within n:=by
 simp only [positiveInteger,bind_ok,nonNegativeInteger_ok,ensure_ok]
 constructor
 · rintro ⟨m,⟨rfl,hm⟩,_,hne,h⟩
   cases h
   have hpos:n≠0:=by simpa using hne
   exact ⟨rfl,Nat.pos_of_ne_zero hpos,hm⟩
 · rintro ⟨rfl,hpos,hn⟩
   exact ⟨n,⟨rfl,hn⟩,(),by simpa using hpos.ne',rfl⟩

variable {m:ℕ}

lemma incrementAdmissionCounter_ok:
  incrementAdmissionCounter fieldName n=.ok m↔n< maxAdmissionInteger∧m=n+1:=by
 simp only [incrementAdmissionCounter,bind_ok,ensure_ok,decide_eq_true_eq]
 constructor
 · rintro ⟨_,h,hm⟩
   cases hm
   exact ⟨h,rfl⟩
 · rintro ⟨h,rfl⟩
   exact ⟨(),h,rfl⟩

/-- The records that the constructor accepts. -/
structure TicketFields.Wellformed (t:TicketFields) : Prop where
 ticketId:Text t.ticketId
 runId:Text t.runId
 requestId:Text t.requestId
 ownerId:Text t.ownerId
 limiterId:Text t.limiterId
 tenantId:∀tenant,t.tenantId=some tenant→Text tenant
 units:0<t.units∧Within t.units
 sequence:0<t.sequence∧Within t.sequence
 stateVersion:0<t.stateVersion∧Within t.stateVersion
 issuedAtMs:Within t.issuedAtMs
 expiresAtMs:Within t.expiresAtMs
 ordered:t.issuedAtMs<t.expiresAtMs
 queuePosition:∀n,t.queuePosition=some n→0<n∧Within n
 retryAfterMs:∀n,t.retryAfterMs=some n→Within n
 fencingToken:∀n,t.fencingToken=some n→0<n∧Within n
 startedAtMs:∀n,t.startedAtMs=some n→Within n
 completedAtMs:∀n,t.completedAtMs=some n→Within n
 queued:t.state=.queued→t.queuePosition.isSome=true∧t.fencingToken=none
 unqueued:t.state ≠ .queued→t.queuePosition=none∧t.retryAfterMs=none
 occupying:t.state=.admitted∨t.state=.running→t.fencingToken.isSome=true
 running:t.state=.running→t.startedAtMs.isSome=true
 terminal:t.state.isTerminal=true→t.completedAtMs.isSome=true
 unstarted:t.state=.queued∨t.state=.admitted→t.startedAtMs=none
 live:t.state.isTerminal=false→t.completedAtMs=none
 started:∀n,t.startedAtMs=some n→t.issuedAtMs≤n∧n<t.expiresAtMs
 completed:∀n,t.completedAtMs=some n→t.startedAtMs.getD t.issuedAtMs≤n ∧
  (t.state=.expired→t.expiresAtMs≤n)∧(t.state ≠ .expired→n<t.expiresAtMs)

variable {u:Unit}

lemma optionalText_ok{value:Option String}:
  optionalText fieldName value=.ok u ↔ ∀text,value=some text→Text text:=by
 cases value with
 | none=>simp [optionalText]
 | some text=>
  simp only [optionalText,bind_ok,nonEmptyString_ok,Option.some.injEq,forall_eq']
  exact ⟨fun ⟨_,h,_⟩=>h.1,fun h=>⟨text,⟨h,rfl⟩,rfl⟩⟩

variable {t:TicketFields}

lemma checkTexts_ok:t.checkTexts=.ok u ↔
  Text t.ticketId∧Text t.runId∧Text t.requestId∧Text t.ownerId∧Text t.limiterId ∧
   ∀tenant,t.tenantId=some tenant→Text tenant:=by
 simp only [TicketFields.checkTexts,bind_ok,nonEmptyString_ok,optionalText_ok]
 constructor
 · rintro ⟨_,⟨h1,-⟩,_,⟨h2,-⟩,_,⟨h3,-⟩,_,⟨h4,-⟩,_,⟨h5,-⟩,h6⟩
   exact ⟨h1,h2,h3,h4,h5,h6⟩
 · rintro ⟨h1,h2,h3,h4,h5,h6⟩
   exact ⟨_,⟨h1,rfl⟩,_,⟨h2,rfl⟩,_,⟨h3,rfl⟩,_,⟨h4,rfl⟩,_,⟨h5,rfl⟩,h6⟩

lemma optionalInteger_positive{value:Option ℕ}:
  optionalInteger positiveInteger fieldName value=.ok u ↔ ∀n,value=some n→0<n∧Within n:=by
 cases value with
 | none=>simp [optionalInteger]
 | some m=>
  simp only [optionalInteger,bind_ok,positiveInteger_ok,Option.some.injEq,forall_eq']
  constructor
  · rintro ⟨n,⟨hn,h⟩,-⟩
    obtain rfl:m=n:=by exact_mod_cast hn
    exact h
  · intro h
    exact ⟨m,⟨rfl,h⟩,rfl⟩

lemma optionalInteger_nonNegative{value:Option ℕ}:
  optionalInteger nonNegativeInteger fieldName value=.ok u ↔ ∀n,value=some n→Within n:=by
 cases value with
 | none=>simp [optionalInteger]
 | some m=>
  simp only [optionalInteger,bind_ok,nonNegativeInteger_ok,Option.some.injEq,forall_eq']
  constructor
  · rintro ⟨n,⟨hn,h⟩,-⟩
    obtain rfl:m=n:=by exact_mod_cast hn
    exact h
  · intro h
    exact ⟨m,⟨rfl,h⟩,rfl⟩

lemma positiveInteger_natCast:positiveInteger owner fieldName (m:ℤ)=.ok n↔m=n∧0< m∧Within m:=by
 rw [positiveInteger_ok,Nat.cast_inj]
 constructor
 · rintro ⟨rfl,h⟩
   exact ⟨rfl,h⟩
 · rintro ⟨rfl,h⟩
   exact ⟨rfl,h⟩

lemma nonNegativeInteger_natCast:nonNegativeInteger owner fieldName (m:ℤ)=.ok n↔m=n∧Within m:=by
 rw [nonNegativeInteger_ok,Nat.cast_inj]
 constructor
 · rintro ⟨rfl,h⟩
   exact ⟨rfl,h⟩
 · rintro ⟨rfl,h⟩
   exact ⟨rfl,h⟩

lemma checkIntegers_ok:t.checkIntegers=.ok u ↔
  (0<t.units∧Within t.units)∧(0<t.sequence∧Within t.sequence) ∧
   (0<t.stateVersion∧Within t.stateVersion)∧Within t.issuedAtMs∧Within t.expiresAtMs ∧
   t.issuedAtMs<t.expiresAtMs∧(∀n,t.queuePosition=some n→0<n∧Within n) ∧
   (∀n,t.retryAfterMs=some n→Within n) ∧
   (∀n,t.fencingToken=some n→0<n∧Within n) ∧
   (∀n,t.startedAtMs=some n→Within n)∧∀n,t.completedAtMs=some n→Within n:=by
 simp only [TicketFields.checkIntegers,bind_ok,positiveInteger_natCast,
  nonNegativeInteger_natCast,ensure_ok,decide_eq_true_eq,optionalInteger_positive,
  optionalInteger_nonNegative]
 constructor
 · rintro ⟨_,⟨-,h1⟩,_,⟨-,h2⟩,_,⟨-,h3⟩,_,⟨-,h4⟩,_,⟨-,h5⟩,_,h6,_,h7,_,h8,_,h9,_,h10,h11⟩
   exact ⟨h1,h2,h3,h4,h5,h6,h7,h8,h9,h10,h11⟩
 · rintro ⟨h1,h2,h3,h4,h5,h6,h7,h8,h9,h10,h11⟩
   exact ⟨_,⟨rfl,h1⟩,_,⟨rfl,h2⟩,_,⟨rfl,h3⟩,_,⟨rfl,h4⟩,_,⟨rfl,h5⟩,(),h6,(),h7,(),h8,(),h9,(),h10,h11⟩

lemma checkState_ok:t.checkState=.ok u ↔
  (t.state=.queued→t.queuePosition.isSome=true∧t.fencingToken=none) ∧
   (t.state ≠ .queued→t.queuePosition=none∧t.retryAfterMs=none) ∧
   (t.state=.admitted∨t.state=.running→t.fencingToken.isSome=true) ∧
   (t.state=.running→t.startedAtMs.isSome=true) ∧
   (t.state.isTerminal=true→t.completedAtMs.isSome=true) ∧
   (t.state=.queued∨t.state=.admitted→t.startedAtMs=none) ∧
   (t.state.isTerminal=false→t.completedAtMs=none):=by
 cases hstate:t.state <;>
  simp [TicketFields.checkState,hstate,bind_ok,ensure_ok,
   AdmissionTicketState.isTerminal,and_assoc]

lemma checkTimes_ok:t.checkTimes=.ok u ↔
  (∀n,t.startedAtMs=some n→t.issuedAtMs≤n∧n<t.expiresAtMs) ∧
   ∀n,t.completedAtMs=some n→t.startedAtMs.getD t.issuedAtMs≤n ∧
    (t.state=.expired→t.expiresAtMs≤n)∧(t.state ≠ .expired→n<t.expiresAtMs):=by
 simp only [TicketFields.checkTimes,bind_ok,ensure_ok]
 cases t.startedAtMs <;>cases t.completedAtMs <;>cases hstate:t.state <;>simp <;>omega

lemma check_ok_iff:t.check=.ok ()↔t.Wellformed:=by
 simp only [TicketFields.check,bind_ok,checkTexts_ok,checkIntegers_ok,checkState_ok,
  checkTimes_ok]
 constructor
 · rintro ⟨_,⟨h1,h2,h3,h4,h5,h6⟩,_,⟨h7,h8,h9,h10,h11,h12,h13,h14,h15,h16,h17⟩,_,
    ⟨h18,h19,h20,h21,h22,h23,h24⟩,h25,h26⟩
   exact ⟨h1,h2,h3,h4,h5,h6,h7,h8,h9,h10,h11,h12,h13,h14,h15,h16,h17,h18,h19,h20,
    h21,h22,h23,h24,h25,h26⟩
 · rintro ⟨h1,h2,h3,h4,h5,h6,h7,h8,h9,h10,h11,h12,h13,h14,h15,h16,h17,h18,h19,
    h20,h21,h22,h23,h24,h25,h26⟩
   exact ⟨(),⟨h1,h2,h3,h4,h5,h6⟩,(),⟨h7,h8,h9,h10,h11,h12,h13,h14,h15,h16,h17⟩,
    (),⟨h18,h19,h20,h21,h22,h23,h24⟩,h25,h26⟩

lemma AdmissionTicket.wellformed(t:AdmissionTicket):t.toTicketFields.Wellformed:=
 check_ok_iff.mp t.checked

lemma AdmissionTicket.new_ok{fields:TicketFields}{t:AdmissionTicket}:
  AdmissionTicket.new fields=.ok t↔t.toTicketFields=fields:=by
 unfold AdmissionTicket.new
 split
 · next h=>
   constructor
   · intro ht
     cases ht
     rfl
   · rintro rfl
     rfl
 · next e h=>
   constructor
   · intro ht
     cases ht
   · rintro rfl
     rw [t.checked] at h
     cases h

lemma TicketFields.Wellformed.new{fields:TicketFields}(h:fields.Wellformed):
  ∃t : AdmissionTicket,AdmissionTicket.new fields=.ok t∧t.toTicketFields=fields:=
 ⟨⟨fields,check_ok_iff.mpr h⟩,AdmissionTicket.new_ok.mpr rfl,rfl⟩

variable {t:TicketFields}

/-- The record of `_reindex_locked`. -/
def TicketFields.placed (t:TicketFields) (position:ℕ) (retryAfterMs:Option ℕ) : TicketFields :=
 { t with stateVersion:=t.stateVersion+1,queuePosition:=some position,retryAfterMs }

/-- The record of `_promote_locked`. -/
def TicketFields.promoted (t:TicketFields) (fencingToken:ℕ) : TicketFields :=
 { t with
   state:=.admitted,stateVersion:=t.stateVersion+1,queuePosition:=none,retryAfterMs:=none
   fencingToken:=some fencingToken }

/-- The record of `_expire_locked` and of `cancel`. -/
def TicketFields.ended (t:TicketFields) (state:AdmissionTicketState) (now:ℕ) : TicketFields :=
 { t with
   state,stateVersion:=t.stateVersion+1,queuePosition:=none,retryAfterMs:=none
   completedAtMs:=some now }

lemma TicketFields.Wellformed.placed(h:t.Wellformed)(hqueued:t.state=.queued)
  (hversion:t.stateVersion< maxAdmissionInteger){position:ℕ}(hpos:0<position)
  (hposition:Within position){retryAfterMs:Option ℕ}
  (hretry:∀n,retryAfterMs=some n→Within n):(t.placed position retryAfterMs).Wellformed:=
 { h with
   stateVersion:=⟨Nat.succ_pos _,hversion⟩
   queuePosition:=by
    intro n hn
    cases hn
    exact ⟨hpos,hposition⟩
   retryAfterMs:=hretry
   queued:=fun hstate=>⟨rfl,(h.queued hstate).2⟩
   unqueued:=fun hstate=>absurd hqueued hstate }

lemma TicketFields.Wellformed.promoted(h:t.Wellformed)(hqueued:t.state=.queued)
  (hversion:t.stateVersion< maxAdmissionInteger){token:ℕ}(hpos:0<token)
  (htoken:Within token):(t.promoted token).Wellformed:=
 { h with
   stateVersion:=⟨Nat.succ_pos _,hversion⟩
   queuePosition:=fun n hn=>nomatch hn
   retryAfterMs:=fun n hn=>nomatch hn
   fencingToken:=by
    intro n hn
    cases hn
    exact ⟨hpos,htoken⟩
   queued:=fun hstate=>nomatch hstate
   unqueued:=fun _=>⟨rfl,rfl⟩
   occupying:=fun _=>rfl
   running:=fun hstate=>nomatch hstate
   terminal:=fun hstate=>nomatch hstate
   unstarted:=fun _=>h.unstarted (.inl hqueued)
   live:=fun _=>h.live (by rw [hqueued];rfl)
   completed:=by
    intro n hn
    have hnone:=h.live (by rw [hqueued];rfl)
    have hsome:t.completedAtMs=some n:=hn
    rw [hnone] at hsome
    cases hsome }

lemma TicketFields.Wellformed.ended(h:t.Wellformed)(hversion:t.stateVersion< maxAdmissionInteger)
  {state:AdmissionTicketState}{now:ℕ}(hstate:state.isTerminal=true)(hnow:Within now)
  (hbegun:t.startedAtMs.getD t.issuedAtMs≤now)(hexpired:state=.expired→t.expiresAtMs≤now)
  (hended:state ≠ .expired→now<t.expiresAtMs):(t.ended state now).Wellformed:=
 { h with
   stateVersion:=⟨Nat.succ_pos _,hversion⟩
   queuePosition:=fun n hn=>nomatch hn
   retryAfterMs:=fun n hn=>nomatch hn
   completedAtMs:=by
    intro n hn
    cases hn
    exact hnow
   queued:=by
    rintro (rfl:state=.queued)
    cases hstate
   unqueued:=fun _=>⟨rfl,rfl⟩
   occupying:=by rintro (rfl|rfl:state=.admitted∨state=.running) <;>cases hstate
   running:=by
    rintro (rfl:state=.running)
    cases hstate
   terminal:=fun _=>rfl
   unstarted:=by rintro (rfl|rfl:state=.queued∨state=.admitted) <;>cases hstate
   live:=by
    intro hlive
    have hlive':state.isTerminal=false:=hlive
    rw [hstate] at hlive'
    cases hlive'
   completed:=by
    intro n hn
    cases hn
    exact ⟨hbegun,hexpired,hended⟩ }

lemma text_ticketIdOf{limiterId:String}(h:Text limiterId)(number:ℕ):
  Text (ticketIdOf limiterId number):=by
 have hne:limiterId≠"" := by
  rintro rfl
  exact h.nonempty rfl
 have hdigits:∀c∈(zeroPadded 6 number).toList,c.isDigit=true:=by
  intro c hc
  rw [zeroPadded,String.toList_ofList,mem_append] at hc
  rcases hc with hc|hc
  · rw [eq_of_mem_replicate hc]
    rfl
  · exact DigitStrings.isDigits_toDigits number c hc
 have htail:("-ticket-"++zeroPadded 6 number).toList≠[]:=by
  rw [String.toList_append]
  simp
 have heq:ticketIdOf limiterId number=limiterId++("-ticket-"++zeroPadded 6 number):=by
  rw [ticketIdOf,String.append_assoc]
 have hstrip:strip (ticketIdOf limiterId number)=ticketIdOf limiterId number:=by
  rw [heq]
  apply strip_append hne h.stripped.symm
  · intro hempty
    rw [hempty] at htail
    exact htail rfl
  · intro c hc
    have hnumber:(zeroPadded 6 number).toList≠[]:=by
     rw [zeroPadded,String.toList_ofList]
     simp [Nat.toDigits_ne_nil]
    rw [String.toList_append,List.getLast?_append_of_ne_nil _ hnumber] at hc
    exact isSpace_of_isDigit (hdigits c (mem_of_getLast? hc))
 refine ⟨?_,hstrip.symm,?_⟩
 · rw [hstrip,heq]
   intro hempty
   have hlist:=congrArg String.toList hempty
   rw [String.toList_append] at hlist
   exact htail (append_eq_nil_iff.mp hlist).2
 · intro c hc
   rw [heq,String.toList_append,String.toList_append,mem_append,mem_append] at hc
   rcases hc with hc|hc|hc
   · exact h.printable c hc
   · have hall : "-ticket-".toList.all
       (fun c=>decide (¬(c.toNat<0x20∨c.toNat=0x7F)))=true:=by decide
     exact of_decide_eq_true (all_eq_true.mp hall c hc)
   · have hrange:=DigitStrings.toNat_of_isDigit (hdigits c hc)
     omega

end GraphBlocks.PythonAdmission
