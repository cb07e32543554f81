import GraphBlocks.CheckpointModel

namespace GraphBlocks.Checkpoints
open FiniteMap RustStd List

def Event.registers (id:String) : Event→Bool
 | .registered _ checkpointId _=>checkpointId==id
 | .resumed _ _=>false

def Event.issues (id:String) : Event→Bool
 | .registered .issued checkpointId _=>checkpointId==id
 | _=>false

def Event.resumes (id:String) : Event→Bool
 | .registered _ _ _=>false
 | .resumed _ checkpointId=>checkpointId==id

def Phase.holds (id:String) : Phase→Bool
 | .claimed call=>call.checkpoint.checkpointId==id
 | _=>false

/-- The call is about to issue the checkpoint. -/
def Phase.prepares (id:String) : Phase→Bool
 | .materializing runId node sequence=>checkpointIdOf runId node sequence==id
 | _=>false

def Phase.presents : Phase→Option (ResumeCall×Plan)
 | .entered call plan=>some (call,plan)
 | .restoring call plan=>some (call,plan)
 | .admitting call plan _=>some (call,plan)
 | _=>none

def isOpen (s:Runtime) (id:String) : ℕ :=
 if (s.checkpointStateDigests.lookup id).isSome then 1 else 0

def holders (s:Runtime) (id:String) : ℕ := s.calls.countP (Phase.holds id)

def resumptions (s:Runtime) (id:String) : ℕ := s.log.countP (Event.resumes id)

def registrations (s:Runtime) (id:String) : ℕ := s.log.countP (Event.registers id)

def Registered (s:Runtime) (id digest:String) : Prop :=
 ∃origin,Event.registered origin id digest∈s.log

structure Inv (s:Runtime) : Prop where
 tokens:∀id,isOpen s id+holders s id+resumptions s id≤1
 unique:∀id,registrations s id≤1
 opened:∀id digest,s.checkpointStateDigests.lookup id=some digest→Registered s id digest
 held:∀call,Phase.claimed call∈s.calls →
  Registered s call.checkpoint.checkpointId call.checkpoint.stateDigest
 found:∀call plan digest,Phase.admitting call plan (some digest)∈s.calls →
  Registered s call.checkpoint.checkpointId digest
 past:∀index id,Event.resumed index id∈s.log → ∃digest,Registered s id digest
 issued:∀id,s.calls.countP (Phase.prepares id)+s.log.countP (Event.issues id)≤1
 pending:∀runId node sequence,Phase.materializing runId node sequence∈s.calls →
  sequence<s.nextCheckpointSequence
 numbered:∀id digest,Event.registered .issued id digest∈s.log →
  ∃runId node sequence,sequence<s.nextCheckpointSequence∧id=checkpointIdOf runId node sequence
 graph:∀phase∈s.calls,∀call plan,phase.presents=some (call,plan) →
  call.checkpoint.graphHash=plan.graphHash

lemma countP_set_of{α:Type}{l:List α}{i:ℕ}{before:α}(h:l[i]?=some before)(p:α→Bool)(after:α):
  (l.set i after).countP p+(if p before then 1 else 0)=l.countP p+(if p after then 1 else 0):=by
 induction l generalizing i with
 | nil=>simp at h
 | cons a l ih=>
  cases i with
  | zero=>
   have ha:a=before:=by simpa using h
   subst ha
   simp only [set_cons_zero,countP_cons]
   omega
  | succ i=>
   have hrest:=ih (by simpa using h)
   simp only [set_cons_succ,countP_cons]
   omega

lemma eq_of_countP_le_one{α:Type}{l:List α}{p:α→Bool}(h:l.countP p≤1){a b:α}
  (ha:a∈l)(hb:b∈l)(hpa:p a=true)(hpb:p b=true):a=b:=by
 induction l with
 | nil=>cases ha
 | cons c l ih=>
  rw [countP_cons] at h
  have hzero:∀x∈l,p x=true→p c=true→False:=by
   intro x hx hpx hpc
   have hpos:0<l.countP p:=countP_pos_iff.mpr ⟨x,hx,hpx⟩
   rw [if_pos hpc] at h
   omega
  rcases mem_cons.mp ha with hac|hal
  · rcases mem_cons.mp hb with hbc|hbl
    · rw [hac,hbc]
    · rw [hac] at hpa
      exact (hzero b hbl hpb hpa).elim
  · rcases mem_cons.mp hb with hbc|hbl
    · rw [hbc] at hpb
      exact (hzero a hal hpa hpb).elim
    · exact ih (by omega) hal hbl

section
variable {s:Runtime} {id digest:String}

lemma Inv.agree(h:Inv s){digest':String}(hd:Registered s id digest)
  (hd':Registered s id digest'):digest=digest':=by
 obtain ⟨origin,ho⟩:=hd
 obtain ⟨origin',ho'⟩:=hd'
 have heq:=eq_of_countP_le_one (h.unique id) ho ho' (by simp [Event.registers])
  (by simp [Event.registers])
 cases heq
 rfl

lemma Inv.unregistered(h:Inv s)(hid:registrations s id=0):
  isOpen s id=0∧holders s id=0∧resumptions s id=0:=by
 have hnone:∀digest,¬Registered s id digest:=by
  rintro digest ⟨origin,ho⟩
  have hpos:0<registrations s id:=countP_pos_iff.mpr ⟨_,ho,by simp [Event.registers]⟩
  omega
 refine ⟨?_,?_,?_⟩
 · unfold isOpen
   cases hl:s.checkpointStateDigests.lookup id with
   | none=>rfl
   | some digest=>exact absurd (h.opened id digest hl) (hnone digest)
 · apply countP_eq_zero.mpr
   intro phase hphase hholds
   cases phase with
   | claimed call=>
    have hcall:call.checkpoint.checkpointId=id:=by simpa [Phase.holds] using hholds
    have hregistered:=h.held call hphase
    rw [hcall] at hregistered
    exact hnone _ hregistered
   | _=>cases hholds
 · apply countP_eq_zero.mpr
   intro event hevent hresumes
   cases event with
   | registered origin checkpointId digest=>cases hresumes
   | resumed index checkpointId=>
    have hevent':checkpointId=id:=by simpa [Event.resumes] using hresumes
    obtain ⟨digest,hregistered⟩:=h.past index checkpointId hevent
    rw [hevent'] at hregistered
    exact hnone digest hregistered

variable {key:String}

lemma lookup_erase_some{m:FMap String String}(h:(m.erase key).lookup id=some digest):
  m.lookup id=some digest:=by
 rw [lookup_erase_eq] at h
 by_cases hid:id=key
 · rw [if_pos hid] at h
   cases h
 · rwa [if_neg hid] at h

lemma Inv.erase(h:Inv s)(key:String):
  Inv { s with checkpointStateDigests:=s.checkpointStateDigests.erase key }:=by
 refine ⟨?_,h.unique,?_,h.held,h.found,h.past,h.issued,h.pending,h.numbered,h.graph⟩
 · intro id
   have htokens:=h.tokens id
   have hless:isOpen { s with checkpointStateDigests:=s.checkpointStateDigests.erase key } id ≤
     isOpen s id:=by
    unfold isOpen
    cases hl:(s.checkpointStateDigests.erase key).lookup id with
    | none=>simp
    | some digest=>simp [lookup_erase_some hl]
   simp only [holders,resumptions] at htokens ⊢
   omega
 · intro id digest hl
   exact h.opened id digest (lookup_erase_some hl)

variable {before:Phase} {index:ℕ}

lemma Inv.move(h:Inv s){after:Phase}(hbefore:s.calls[index]?=some before)
  (hholds:∀id,after.holds id=false)(hprepares:∀id,after.prepares id=false)
  (hfound:∀call plan digest,after=.admitting call plan (some digest) →
   Registered s call.checkpoint.checkpointId digest)
  (hgraph:∀call plan,after.presents=some (call,plan) →
   call.checkpoint.graphHash=plan.graphHash):Inv (s.setCall index after):=by
 have hmem:∀phase,phase∈s.calls.set index after→phase∈s.calls∨phase=after:=
  fun phase=>mem_or_eq_of_mem_set
 refine ⟨?_,h.unique,h.opened,?_,?_,h.past,?_,?_,h.numbered,?_⟩
 · intro id
   have htokens:=h.tokens id
   have hcount:=countP_set_of hbefore (Phase.holds id) after
   simp only [hholds,Bool.false_eq_true,if_false] at hcount
   change isOpen s id+(s.calls.set index after).countP (Phase.holds id)+resumptions s id≤1
   unfold holders at htokens
   omega
 · intro call hcall
   rcases hmem _ hcall with hold|hnew
   · exact h.held call hold
   · have hclaimed:=hholds call.checkpoint.checkpointId
     rw [←hnew] at hclaimed
     simp [Phase.holds] at hclaimed
 · intro call plan digest hcall
   rcases hmem _ hcall with hold|hnew
   · exact h.found call plan digest hold
   · exact hfound call plan digest hnew.symm
 · intro id
   have hissued:=h.issued id
   have hcount:=countP_set_of hbefore (Phase.prepares id) after
   simp only [hprepares,Bool.false_eq_true,if_false] at hcount
   simp only [Runtime.setCall]
   omega
 · intro runId node sequence hphase
   rcases hmem _ hphase with hold|hnew
   · exact h.pending runId node sequence hold
   · have hprepared:=hprepares (checkpointIdOf runId node sequence)
     rw [←hnew] at hprepared
     simp [Phase.prepares] at hprepared
 · intro phase hphase call plan hpresents
   rcases hmem _ hphase with hold|rfl
   · exact h.graph phase hold call plan hpresents
   · exact hgraph call plan hpresents

lemma Inv.finish(h:Inv s)(hbefore:s.calls[index]?=some before)(outcome:Outcome):
  Inv (s.setCall index (.returned outcome)):=
 h.move hbefore (fun _=>rfl) (fun _=>rfl) nofun nofun

lemma Inv.claim(h:Inv s){call:ResumeCall}(hbefore:s.calls[index]?=some before)
  (hlookup:s.checkpointStateDigests.lookup call.checkpoint.checkpointId =
   some call.checkpoint.stateDigest):
  Inv ({ s with checkpointStateDigests :=
   s.checkpointStateDigests.erase call.checkpoint.checkpointId }.setCall index
   (.claimed call)):=by
 have herased:=h.erase call.checkpoint.checkpointId
 have hmem:∀phase,phase∈s.calls.set index (.claimed call) →
   phase∈s.calls∨phase=.claimed call:=fun phase=>mem_or_eq_of_mem_set
 refine ⟨?_,h.unique,herased.opened,?_,?_,h.past,?_,?_,h.numbered,?_⟩
 · intro id
   have htokens:=h.tokens id
   have hcount:=countP_set_of hbefore (Phase.holds id) (.claimed call)
   change isOpen { s with checkpointStateDigests:=
     s.checkpointStateDigests.erase call.checkpoint.checkpointId } id +
    (s.calls.set index (.claimed call)).countP (Phase.holds id)+resumptions s id≤1
   unfold holders at htokens
   by_cases hid:call.checkpoint.checkpointId=id
   · subst hid
     have hopen:isOpen s call.checkpoint.checkpointId=1:=by simp [isOpen,hlookup]
     have hclosed:isOpen { s with checkpointStateDigests:=
       s.checkpointStateDigests.erase call.checkpoint.checkpointId }
       call.checkpoint.checkpointId=0:=by
      simp [isOpen]
     rw [show Phase.holds call.checkpoint.checkpointId (.claimed call)=true from
      beq_self_eq_true _,if_pos rfl] at hcount
     omega
   · have htokens':=herased.tokens id
     rw [show Phase.holds id (.claimed call)=false from beq_eq_false_iff_ne.mpr hid] at hcount
     simp only [Bool.false_eq_true,if_false] at hcount
     simp only [holders,resumptions] at htokens' ⊢
     omega
 · intro call' hcall
   rcases hmem _ hcall with hold|hnew
   · exact h.held call' hold
   · cases hnew
     exact h.opened _ _ hlookup
 · intro call' plan digest hcall
   rcases hmem _ hcall with hold|hnew
   · exact h.found call' plan digest hold
   · cases hnew
 · intro id
   have hissued:=h.issued id
   have hcount:=countP_set_of hbefore (Phase.prepares id) (.claimed call)
   simp only [Phase.prepares,Bool.false_eq_true,if_false] at hcount
   simp only [Runtime.setCall]
   omega
 · intro runId node sequence hphase
   rcases hmem _ hphase with hold|hnew
   · exact h.pending runId node sequence hold
   · cases hnew
 · intro phase hphase call' plan hpresents
   rcases hmem _ hphase with hold|rfl
   · exact h.graph phase hold call' plan hpresents
   · cases hpresents

lemma Inv.open_again(h:Inv s)(hregistered:Registered s key digest)
  (hfree:isOpen s key+holders s key+resumptions s key=0):
  Inv { s with checkpointStateDigests:=s.checkpointStateDigests.insert key digest }:=by
 refine ⟨?_,h.unique,?_,h.held,h.found,h.past,h.issued,h.pending,h.numbered,h.graph⟩
 · intro id
   have htokens:=h.tokens id
   by_cases hid:id=key
   · subst hid
     have hopen:isOpen { s with checkpointStateDigests:=
       s.checkpointStateDigests.insert id digest } id=1:=by
      simp [isOpen]
     simp only [holders,resumptions] at hfree ⊢
     omega
   · have hsame:isOpen { s with checkpointStateDigests:=
       s.checkpointStateDigests.insert key digest } id=isOpen s id:=by
      simp [isOpen,hid]
     simp only [holders,resumptions] at htokens ⊢
     omega
 · intro id digest' hl
   change (s.checkpointStateDigests.insert key digest).lookup id=some digest' at hl
   rw [lookup_insert_eq] at hl
   by_cases hid:id=key
   · rw [if_pos hid] at hl
     cases hl
     rw [hid]
     exact hregistered
   · rw [if_neg hid] at hl
     exact h.opened id digest' hl

lemma Registered.concat(h:Registered s id digest)(event:Event):
  Registered { s with log:=s.log++[event] } id digest:=by
 obtain ⟨origin,ho⟩:=h
 exact ⟨origin,mem_append_left _ ho⟩

lemma Inv.resume(h:Inv s)(hregistered:Registered s key digest)
  (hfree:isOpen s key+holders s key+resumptions s key=0):
  Inv { s with log:=s.log++[.resumed index key] }:=by
 refine ⟨?_,?_,?_,?_,?_,?_,?_,h.pending,?_,h.graph⟩
 · intro id
   have htokens:=h.tokens id
   have hcount:resumptions { s with log:=s.log++[.resumed index key] } id =
     resumptions s id+if key=id then 1 else 0:=by
    simp [resumptions,countP_append,countP_cons,Event.resumes]
   have hopen:isOpen { s with log:=s.log++[.resumed index key] } id=isOpen s id:=rfl
   have hholders:holders { s with log:=s.log++[.resumed index key] } id=holders s id:=rfl
   rw [hcount,hopen,hholders]
   by_cases hid:key=id
   · subst hid
     simp only [if_true]
     omega
   · simp only [if_neg hid]
     omega
 · intro id
   have hcount:registrations { s with log:=s.log++[.resumed index key] } id=registrations s id:=by
    simp [registrations,countP_append,Event.registers]
   rw [hcount]
   exact h.unique id
 · intro id digest' hl
   exact (h.opened id digest' hl).concat _
 · intro call hcall
   exact (h.held call hcall).concat _
 · intro call plan digest' hcall
   exact (h.found call plan digest' hcall).concat _
 · intro index' id hevent
   rcases mem_append.mp hevent with hold|hnew
   · obtain ⟨digest',hreg⟩:=h.past index' id hold
     exact ⟨digest',hreg.concat _⟩
   · rw [mem_singleton] at hnew
     cases hnew
     exact ⟨digest,hregistered.concat _⟩
 · intro id
   have hissued:=h.issued id
   simp only [countP_append,countP_cons,countP_nil,Event.issues]
   simpa using hissued
 · intro id digest' hevent
   rcases mem_append.mp hevent with hold|hnew
   · exact h.numbered id digest' hold
   · rw [mem_singleton] at hnew
     cases hnew

lemma Inv.register(h:Inv s){origin:Origin}(hnew:registrations s key=0)
  (hissued:origin=.issued→s.calls.countP (Phase.prepares key)=0 ∧
   ∃runId node sequence,sequence<s.nextCheckpointSequence∧key=checkpointIdOf runId node sequence):
  Inv { s with
   checkpointStateDigests:=s.checkpointStateDigests.insert key digest
   log:=s.log++[.registered origin key digest] }:=by
 obtain ⟨hopen,hholders,hresumptions⟩:=h.unregistered hnew
 have hlogged:Inv { s with log:=s.log++[.registered origin key digest] }:=by
  refine ⟨?_,?_,?_,?_,?_,?_,?_,h.pending,?_,h.graph⟩
  · intro id
    have htokens:=h.tokens id
    have hcount:resumptions { s with log:=s.log++[.registered origin key digest] } id =
      resumptions s id:=by
     simp [resumptions,countP_append,Event.resumes]
    rw [hcount]
    exact htokens
  · intro id
    have hunique:=h.unique id
    have hcount:registrations { s with log:=s.log++[.registered origin key digest] } id =
      registrations s id+if key=id then 1 else 0:=by
     simp [registrations,countP_append,countP_cons,Event.registers]
    rw [hcount]
    by_cases hid:key=id
    · subst hid
      rw [if_pos rfl,hnew]
    · rw [if_neg hid]
      exact hunique
  · intro id digest' hl
    exact (h.opened id digest' hl).concat _
  · intro call hcall
    exact (h.held call hcall).concat _
  · intro call plan digest' hcall
    exact (h.found call plan digest' hcall).concat _
  · intro index id hevent
    rcases mem_append.mp hevent with hold|hnew'
    · obtain ⟨digest',hreg⟩:=h.past index id hold
      exact ⟨digest',hreg.concat _⟩
    · rw [mem_singleton] at hnew'
      cases hnew'
  · intro id
    have hbefore:=h.issued id
    simp only [countP_append,countP_cons,countP_nil]
    cases origin with
    | vouched=>simpa [Event.issues] using hbefore
    | issued=>
     by_cases hid:key=id
     · subst hid
       have hle:s.log.countP (Event.issues key)≤registrations s key:=by
        apply countP_mono_left
        intro event _ hevent
        cases event with
        | registered origin id digest=>cases origin <;>first | exact hevent | cases hevent
        | resumed index id=>cases hevent
       rw [(hissued rfl).1]
       simp only [Event.issues,beq_self_eq_true,if_true]
       omega
     · simpa [Event.issues,hid] using hbefore
  · intro id digest' hevent
    rcases mem_append.mp hevent with hold|hnew'
    · exact h.numbered id digest' hold
    · rw [mem_singleton] at hnew'
      cases hnew'
      exact (hissued rfl).2
 refine hlogged.open_again ⟨origin,by simp⟩ ?_
 have hcount:resumptions { s with log:=s.log++[.registered origin key digest] } key =
   resumptions s key:=by
  simp [resumptions,countP_append,Event.resumes]
 rw [hcount,hresumptions]
 exact Nat.add_eq_zero_iff.mpr ⟨Nat.add_eq_zero_iff.mpr ⟨hopen,hholders⟩,rfl⟩

lemma checkpointIdOf_sequence{runId node runId' node':String}{k k':ℕ}
  (h:checkpointIdOf runId node k=checkpointIdOf runId' node' k'):k=k':=by
 have hlast:∀(r n:String) (j:ℕ),(((checkpointIdOf r n j).toList.reverse.takeWhile
   (· ≠ ':')).reverse)=Nat.toDigits 10 j:=by
  intro r n j
  have hsplit:(checkpointIdOf r n j).toList.reverse =
    (Nat.toDigits 10 j).reverse ++ ':' :: (r ++ ":" ++ n).toList.reverse:=by
   simp [checkpointIdOf,String.toList_append]
  have hno:∀c∈(Nat.toDigits 10 j).reverse,decide (c ≠ ':')=true:=by
   intro c hc
   have hdigit:=DigitStrings.isDigits_toDigits j c (mem_reverse.mp hc)
   rw [decide_eq_true_eq]
   rintro rfl
   exact absurd hdigit (by decide)
  rw [hsplit,takeWhile_append_of_pos hno]
  simp
 have hdigits:Nat.toDigits 10 k=Nat.toDigits 10 k':=by rw [←hlast runId node k,h,hlast]
 have hvalue:=congrArg (fun ds=>Nat.ofDigitChars 10 ds 0) hdigits
 simpa using hvalue

lemma Inv.take(h:Inv s)(hbefore:s.calls[index]?=some before)(runId node:String):
  Inv ({ s with nextCheckpointSequence:=s.nextCheckpointSequence+1 }.setCall index
   (.materializing runId node s.nextCheckpointSequence)):=by
 have hmem:∀phase,phase∈s.calls.set index (.materializing runId node s.nextCheckpointSequence) →
   phase∈s.calls∨phase=.materializing runId node s.nextCheckpointSequence:=
  fun phase=>mem_or_eq_of_mem_set
 refine ⟨?_,h.unique,h.opened,?_,?_,h.past,?_,?_,?_,?_⟩
 · intro id
   have htokens:=h.tokens id
   have hcount:=countP_set_of hbefore (Phase.holds id)
    (.materializing runId node s.nextCheckpointSequence)
   simp only [show Phase.holds id (.materializing runId node s.nextCheckpointSequence)=false
    from rfl,Bool.false_eq_true,if_false] at hcount
   change isOpen s id+(s.calls.set index _).countP (Phase.holds id)+resumptions s id≤1
   unfold holders at htokens
   omega
 · intro call hcall
   rcases hmem _ hcall with hold|hnew
   · exact h.held call hold
   · cases hnew
 · intro call plan digest hcall
   rcases hmem _ hcall with hold|hnew
   · exact h.found call plan digest hold
   · cases hnew
 · intro id
   have hissued:=h.issued id
   have hcount:=countP_set_of hbefore (Phase.prepares id)
    (.materializing runId node s.nextCheckpointSequence)
   change (s.calls.set index _).countP (Phase.prepares id)+s.log.countP (Event.issues id)≤1
   by_cases hid:checkpointIdOf runId node s.nextCheckpointSequence=id
   · -- no earlier checkpoint has this number
     have hcalls:s.calls.countP (Phase.prepares id)=0:=by
      apply countP_eq_zero.mpr
      intro phase hphase hprepares
      cases phase with
      | materializing runId' node' sequence=>
       have hsame:checkpointIdOf runId' node' sequence=id:=by simpa [Phase.prepares] using hprepares
       have hless:=h.pending runId' node' sequence hphase
       have hequal:=checkpointIdOf_sequence (hsame.trans hid.symm)
       omega
      | _=>cases hprepares
     have hlog:s.log.countP (Event.issues id)=0:=by
      apply countP_eq_zero.mpr
      intro event hevent hissues
      cases event with
      | resumed index' id'=>cases hissues
      | registered origin id' digest=>
       cases origin with
       | vouched=>cases hissues
       | issued=>
        have hsame:id'=id:=by simpa [Event.issues] using hissues
        obtain ⟨runId',node',sequence,hless,heq⟩:=h.numbered id' digest hevent
        have hequal:=checkpointIdOf_sequence (heq.symm.trans (hsame.trans hid.symm))
        omega
     simp only [Phase.prepares,hid,beq_self_eq_true,if_true] at hcount
     omega
   · have hnot:Phase.prepares id (.materializing runId node s.nextCheckpointSequence)=false:=
      beq_eq_false_iff_ne.mpr hid
     simp only [hnot,Bool.false_eq_true,if_false] at hcount
     omega
 · intro runId' node' sequence hphase
   change sequence<s.nextCheckpointSequence+1
   rcases hmem _ hphase with hold|hnew
   · have hless:=h.pending runId' node' sequence hold
     omega
   · cases hnew
     omega
 · intro id digest hevent
   obtain ⟨runId',node',sequence,hless,heq⟩:=h.numbered id digest hevent
   refine ⟨runId',node',sequence,?_,heq⟩
   change sequence<s.nextCheckpointSequence+1
   omega
 · intro phase hphase call plan hpresents
   rcases hmem _ hphase with hold|rfl
   · exact h.graph phase hold call plan hpresents
   · cases hpresents

lemma Inv.enter(h:Inv s){phase:Phase}(hholds:∀id,phase.holds id=false)
  (hprepares:∀id,phase.prepares id=false)
  (hfound:∀call plan expected,phase ≠ .admitting call plan expected)
  (hgraph:∀call plan,phase.presents=some (call,plan)→call.checkpoint.graphHash=plan.graphHash):
  Inv { s with calls:=s.calls++[phase] }:=by
 have hmem:∀phase',phase'∈s.calls++[phase]→phase'∈s.calls∨phase'=phase:=by
  intro phase' hphase
  rcases mem_append.mp hphase with hold|hnew
  · exact .inl hold
  · exact .inr (mem_singleton.mp hnew)
 refine ⟨?_,h.unique,h.opened,?_,?_,h.past,?_,?_,h.numbered,?_⟩
 · intro id
   have htokens:=h.tokens id
   have hcount:holders { s with calls:=s.calls++[phase] } id=holders s id:=by
    simp [holders,countP_append,hholds]
   rw [hcount]
   exact htokens
 · intro call hcall
   rcases hmem _ hcall with hold|hnew
   · exact h.held call hold
   · have hclaimed:=hholds call.checkpoint.checkpointId
     rw [←hnew] at hclaimed
     simp [Phase.holds] at hclaimed
 · intro call plan digest hcall
   rcases hmem _ hcall with hold|hnew
   · exact h.found call plan digest hold
   · exact absurd hnew.symm (hfound call plan (some digest))
 · intro id
   have hissued:=h.issued id
   simpa [countP_append,hprepares] using hissued
 · intro runId node sequence hphase
   rcases hmem _ hphase with hold|hnew
   · exact h.pending runId node sequence hold
   · have hprepared:=hprepares (checkpointIdOf runId node sequence)
     rw [←hnew] at hprepared
     simp [Phase.prepares] at hprepared
 · intro phase' hphase call plan hpresents
   rcases hmem _ hphase with hold|rfl
   · exact h.graph phase' hold call plan hpresents
   · exact hgraph call plan hpresents
end

def vouches (collaborators:Collaborators) (call:ResumeCall) (plan:Plan) : Bool :=
 (collaborators.checkpointAuthorityVerifier.bind fun verifier=>
  verifier call.checkpoint plan.graphHash)==some true

/-- The checkpoint that a step registers, and on whose word. -/
def registration (collaborators:Collaborators) (s:Runtime) : Action→Option (Origin×String)
 | .proceed index choice=>
  match s.calls[index]?, choice with
  | some (.restoring call plan), _=>
   if vouches collaborators call plan &&
     (s.checkpointStateDigests.lookup call.checkpoint.checkpointId).isNone then
    some (.vouched,call.checkpoint.checkpointId)
   else none
  | some (.materializing runId node sequence), .digestIs _=>
   some (.issued,checkpointIdOf runId node sequence)
  | _, _=>none
 | _=>none

/-- The authority does not vouch for an identifier that this runtime has registered before, and
no run issues one that the authority has vouched for. -/
def Fresh (collaborators:Collaborators) (s:Runtime) (action:Action) : Prop :=
 (∀id,registration collaborators s action=some (.vouched,id) → registrations s id=0) ∧
 ∀id,registration collaborators s action=some (.issued,id) →
  ∀digest,Event.registered .vouched id digest∉s.log

section
variable {collaborators:Collaborators} {s:Runtime} {index:ℕ}

lemma inv_new:Inv .new:=by
 refine ⟨?_,?_,?_,?_,?_,?_,?_,?_,?_,?_⟩
 · intro id
   simp [isOpen,holders,resumptions,Runtime.new]
 · intro id
   simp [registrations,Runtime.new]
 · intro id digest hl
   cases hl
 · intro call hcall
   cases hcall
 · intro call plan digest hcall
   cases hcall
 · intro index id hevent
   cases hevent
 · intro id
   simp [Runtime.new]
 · intro runId node sequence hphase
   cases hphase
 · intro id digest hevent
   cases hevent
 · intro phase hphase
   cases hphase

lemma mem_of_call{phase:Phase}(h:s.calls[index]?=some phase):phase∈s.calls:=mem_of_getElem? h

variable {call:ResumeCall} {plan:Plan}

lemma readDigest_inv(h:Inv s)(hphase:s.calls[index]?=some (.entered call plan)):
  Inv (s.readDigest collaborators index call plan):=by
 have hgraph:=h.graph _ (mem_of_call hphase) call plan rfl
 have hadmit:∀expected,s.checkpointStateDigests.lookup call.checkpoint.checkpointId=expected →
   Inv (s.setCall index (.admitting call plan expected)):=by
  intro expected hexpected
  refine h.move hphase (fun _=>rfl) (fun _=>rfl) ?_ ?_
  · intro call' plan' digest heq
    cases heq
    exact h.opened _ _ hexpected
  · intro call' plan' heq
    cases heq
    exact hgraph
 unfold Runtime.readDigest
 cases hl:s.checkpointStateDigests.lookup call.checkpoint.checkpointId with
 | some digest=>exact hadmit _ hl
 | none=>
  cases collaborators.checkpointAuthorityVerifier with
  | none=>exact hadmit _ hl
  | some verifier=>
   show Inv (s.setCall index (.restoring call plan))
   refine h.move hphase (fun _=>rfl) (fun _=>rfl) nofun ?_
   intro call' plan' heq
   cases heq
   exact hgraph

lemma restore_inv(h:Inv s)(hphase:s.calls[index]?=some (.restoring call plan))
  (hfresh:s.checkpointStateDigests.lookup call.checkpoint.checkpointId=none →
   registrations s call.checkpoint.checkpointId=0):
  Inv (s.restore index call plan):=by
 have hgraph:=h.graph _ (mem_of_call hphase) call plan rfl
 unfold Runtime.restore
 simp only
 cases hl:s.checkpointStateDigests.lookup call.checkpoint.checkpointId with
 | some digest=>
  show Inv (s.setCall index (.admitting call plan (some digest)))
  refine h.move hphase (fun _=>rfl) (fun _=>rfl) ?_ ?_
  · intro call' plan' digest' heq
    cases heq
    exact h.opened _ _ hl
  · intro call' plan' heq
    cases heq
    exact hgraph
 | none=>
  simp only
  have hregistered:Inv { s with
    checkpointStateDigests:=s.checkpointStateDigests.insert call.checkpoint.checkpointId
     call.checkpoint.stateDigest
    log:=s.log++[.registered .vouched call.checkpoint.checkpointId
     call.checkpoint.stateDigest] }:=h.register (hfresh hl) nofun
  refine hregistered.move hphase (fun _=>rfl) (fun _=>rfl) ?_ ?_
  · intro call' plan' digest' heq
    cases heq
    exact ⟨.vouched,by simp⟩
  · intro call' plan' heq
    cases heq
    exact hgraph

lemma askAuthority_inv(h:Inv s)(hphase:s.calls[index]?=some (.restoring call plan))
  (hfresh:vouches collaborators call plan=true →
   s.checkpointStateDigests.lookup call.checkpoint.checkpointId=none →
   registrations s call.checkpoint.checkpointId=0):
  Inv (s.askAuthority collaborators index call plan):=by
 unfold Runtime.askAuthority
 unfold vouches at hfresh
 cases hanswer:collaborators.checkpointAuthorityVerifier.bind fun verifier=>
   verifier call.checkpoint plan.graphHash with
 | none=>exact h.finish hphase _
 | some answer=>
  cases answer with
  | false=>exact h.finish hphase _
  | true=>exact restore_inv h hphase (hfresh (by rw [hanswer];rfl))

lemma claim_inv(h:Inv s){before:Phase}(hphase:s.calls[index]?=some before):
  Inv (s.claim index call):=by
 unfold Runtime.claim
 simp only
 split_ifs with hl
 · exact h.claim hphase hl
 · exact (h.erase call.checkpoint.checkpointId).finish hphase _

lemma admitResume_inv(h:Inv s){expected:Option String}
  (hphase:s.calls[index]?=some (.admitting call plan expected))(choice:Choice):
  Inv (s.admitResume collaborators index call plan expected choice):=by
 unfold Runtime.admitResume
 cases checkpointChecks collaborators call plan expected with
 | error message=>exact h.finish hphase _
 | ok u=>
  cases receiptChecks collaborators call plan with
  | error message=>cases choice <;>exact h.finish hphase _
  | ok u=>
   have hclaim:Inv (s.claim index call):=claim_inv h hphase
   cases choice with
   | fails=>exact h.finish hphase _
   | _=>exact hclaim

lemma released(h:Inv s)(hphase:s.calls[index]?=some (.claimed call)){after:Phase}
  (hafter:∀id,after.holds id=false):
  isOpen (s.setCall index after) call.checkpoint.checkpointId +
   holders (s.setCall index after) call.checkpoint.checkpointId +
   resumptions (s.setCall index after) call.checkpoint.checkpointId=0:=by
 have htokens:=h.tokens call.checkpoint.checkpointId
 have hcount:=countP_set_of hphase (Phase.holds call.checkpoint.checkpointId) after
 have hheld:Phase.holds call.checkpoint.checkpointId (.claimed call)=true:=beq_self_eq_true _
 simp only [hafter,hheld,Bool.false_eq_true,if_false,if_true] at hcount
 change isOpen s call.checkpoint.checkpointId +
  (s.calls.set index after).countP (Phase.holds call.checkpoint.checkpointId) +
  resumptions s call.checkpoint.checkpointId=0
 unfold holders at htokens
 omega

lemma resumeClaimed_inv(h:Inv s)(hphase:s.calls[index]?=some (.claimed call))(choice:Choice):
  Inv (s.resumeClaimed index call choice):=by
 have hregistered:=h.held call (mem_of_call hphase)
 have hreturned:=h.finish hphase .finished
 cases choice with
 | succeeds=>
  have hrunning:Inv (s.setCall index (.running call.runId)):=
   h.move hphase (fun _=>rfl) (fun _=>rfl) nofun nofun
  exact hrunning.resume hregistered (released h hphase fun _=>rfl)
 | storeFails=>
  have hraised:Inv (s.setCall index (.returned .raised)):=h.finish hphase .raised
  have hfree:isOpen (s.setCall index (.returned .raised)) call.checkpoint.checkpointId +
    holders (s.setCall index (.returned .raised)) call.checkpoint.checkpointId +
    resumptions (s.setCall index (.returned .raised)) call.checkpoint.checkpointId=0:=
   released h hphase fun _=>rfl
  have hclosed:s.checkpointStateDigests.lookup call.checkpoint.checkpointId=none:=by
   have hzero:isOpen s call.checkpoint.checkpointId=0:=
    (Nat.add_eq_zero_iff.mp (Nat.add_eq_zero_iff.mp hfree).1).1
   cases hl:s.checkpointStateDigests.lookup call.checkpoint.checkpointId with
   | none=>rfl
   | some digest=>simp [isOpen,hl] at hzero
  have heq:s.resumeClaimed index call .storeFails={ s.setCall index (.returned .raised) with
    checkpointStateDigests:=s.checkpointStateDigests.insert call.checkpoint.checkpointId
     call.checkpoint.stateDigest }:=by
   simp [Runtime.resumeClaimed,setDefault,hclosed,Runtime.setCall]
  rw [heq]
  exact hraised.open_again hregistered hfree
 | _=>exact hreturned

variable {runId:String}

lemma runLoop_inv(h:Inv s)(hphase:s.calls[index]?=some (.running runId))(choice:Choice):
  Inv (s.runLoop index runId choice):=by
 have hreturned:=h.finish hphase .finished
 cases choice with
 | waitsAt node=>exact h.take hphase runId node
 | _=>exact hreturned

lemma materialize_inv(h:Inv s){node:String}{sequence:ℕ}
  (hphase:s.calls[index]?=some (.materializing runId node sequence))(choice:Choice)
  (hfresh:∀digest,choice=.digestIs digest →
   ∀digest',Event.registered .vouched (checkpointIdOf runId node sequence) digest'∉s.log):
  Inv (s.materialize index runId node sequence choice):=by
 have hwithdrawn:=(h.erase (checkpointIdOf runId node sequence)).finish hphase .finished
 cases choice with
 | digestIs digest=>
  have hmoved:Inv (s.setCall index (.suspended runId node sequence)):=
   h.move hphase (fun _=>rfl) (fun _=>rfl) nofun nofun
  have hcount:=countP_set_of hphase (Phase.prepares (checkpointIdOf runId node sequence))
   (.suspended runId node sequence)
  have hissued:=h.issued (checkpointIdOf runId node sequence)
  simp only [Phase.prepares,beq_self_eq_true,if_true,Bool.false_eq_true,if_false] at hcount
  -- neither issued before, since its number is still pending, nor vouched for
  have hnew:registrations s (checkpointIdOf runId node sequence)=0:=by
   apply countP_eq_zero.mpr
   intro event hevent hregisters
   cases event with
   | resumed index' id=>cases hregisters
   | registered origin id digest'=>
    have hid:id=checkpointIdOf runId node sequence:=by simpa [Event.registers] using hregisters
    subst hid
    cases origin with
    | vouched=>exact hfresh digest rfl digest' hevent
    | issued=>
     have hpos:0<s.log.countP (Event.issues (checkpointIdOf runId node sequence)):=
      countP_pos_iff.mpr ⟨_,hevent,by simp [Event.issues]⟩
     omega
  refine hmoved.register hnew ?_
  intro _
  refine ⟨?_,runId,node,sequence,h.pending runId node sequence (mem_of_call hphase),rfl⟩
  change (s.calls.set index _).countP _=0
  omega
 | _=>exact hwithdrawn

lemma suspend_inv(h:Inv s){node:String}{sequence:ℕ}
  (hphase:s.calls[index]?=some (.suspended runId node sequence))(choice:Choice):
  Inv (s.suspend index runId node sequence choice):=by
 have hwithdrawn:=(h.erase (checkpointIdOf runId node sequence)).finish hphase .finished
 cases choice with
 | succeeds=>exact h.finish hphase .finished
 | _=>exact hwithdrawn

lemma identityChecks_graph(h:identityChecks call=.ok plan):
  call.checkpoint.graphHash=plan.graphHash:=by
 unfold identityChecks at h
 obtain ⟨plan',-,h⟩:=bind_ok.mp h
 obtain ⟨_,-,h⟩:=bind_ok.mp h
 obtain ⟨_,hgraph,h⟩:=bind_ok.mp h
 obtain ⟨_,-,h⟩:=bind_ok.mp h
 cases h
 simpa using ensure_ok.mp hgraph

lemma step_inv(h:Inv s){action:Action}(hfresh:Fresh collaborators s action):
  Inv (step collaborators s action):=by
 cases action with
 | run runId=>exact h.enter (fun _=>rfl) (fun _=>rfl) nofun nofun
 | resume call=>
  simp only [step]
  cases hchecks:identityChecks call with
  | error message=>exact h.enter (fun _=>rfl) (fun _=>rfl) nofun nofun
  | ok plan=>
   refine h.enter (fun _=>rfl) (fun _=>rfl) nofun ?_
   intro call' plan' heq
   cases heq
   exact identityChecks_graph hchecks
 | proceed index choice=>
  simp only [step]
  unfold Runtime.proceed
  cases hphase:s.calls[index]? with
  | none=>exact h
  | some phase=>
   cases phase with
   | entered call plan=>exact readDigest_inv h hphase
   | restoring call plan=>
    refine askAuthority_inv h hphase ?_
    intro hvouches hnone
    exact hfresh.1 _ (by simp [registration,hphase,hvouches,hnone])
   | admitting call plan expected=>exact admitResume_inv h hphase choice
   | claimed call=>exact resumeClaimed_inv h hphase choice
   | running runId=>exact runLoop_inv h hphase choice
   | materializing runId node sequence=>
    refine materialize_inv h hphase choice ?_
    rintro digest rfl
    exact hfresh.2 _ (by simp [registration,hphase])
   | suspended runId node sequence=>exact suspend_inv h hphase choice
   | returned outcome=>exact h
end

end GraphBlocks.Checkpoints
