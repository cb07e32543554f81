import GraphBlocks.FusionLaws

namespace GraphBlocks.Rag
open Json CanonicalJson List

variable {σ:Type}

def Allowed (auth:Option AuthContext) (hit:SearchHit σ) : Prop :=
 aclAllows hit.hitId hit.item.acl auth=.ok true

/-- What the caller sees stands in a hit that the caller may see. -/
def SourcesAuthorized (hits:List (SearchHit σ)) (auth:Option AuthContext)
  (shown:List (SearchHit σ)) : Prop :=
 ∀hit∈shown,(∃h∈hits,Allowed auth h∧h.item=hit.item) ∧
  ∀source∈hit.highlights,∃h∈hits,Allowed auth h∧source∈h.sources

/-- A hit that the caller may not see, in a group whose first hit the caller may see, is the
first of the group to show a source id, with a source that no allowed hit has. -/
def Laundered (hits:List (SearchHit σ)) (auth:Option AuthContext) : Prop :=
 ∃before hit after earlier source later first,
  hits=before++hit::after∧shownSources hit=earlier++source::later ∧
  ¬Allowed auth hit∧hits.find? (fun h=>decide (label h=label hit))=some first ∧
  Allowed auth first ∧
  (∀s∈(before.filter fun h=>decide (label h=label hit)).flatMap shownSources++earlier,
   s.sourceId≠source.sourceId) ∧
  ∀h∈hits,Allowed auth h→source∉h.sources

lemma aclAllows_congr{acl:Option Value}{auth:Option AuthContext}(a b:String)
  (h:aclAllows a acl auth=.ok true):aclAllows b acl auth=.ok true:=by
 match acl, auth, h with
 | none, _, _=>rfl
 | some .null, _, _=>rfl
 | some (.object members), some caller, h=>
  rw [aclAllows_members] at h ⊢
  exact h
 | some (.object members), none, h=>
  simp only [aclAllows] at h ⊢
  split at h
  · next hpublic=>rw [if_pos hpublic]
  · cases h

lemma mem_authorizeSearchHits{auth:Option AuthContext}{hits shown:List (SearchHit σ)}
  (h:authorizeSearchHits auth hits=.ok shown)(hit:SearchHit σ):
  hit∈shown↔hit∈hits∧Allowed auth hit:=by
 induction hits generalizing shown with
 | nil=>
  rw [←Except.ok.inj h]
  simp
 | cons first hits ih=>
  unfold authorizeSearchHits at h
  obtain ⟨allowed,hallowed,h⟩:=RustStd.bind_ok.mp h
  obtain ⟨rest,hrest,h⟩:=RustStd.bind_ok.mp h
  rw [←Except.ok.inj h]
  have hfirst:Allowed auth first↔allowed=true:=by rw [Allowed,hallowed,Except.ok.injEq]
  cases allowed with
  | true=>
   simp only [if_true,mem_cons,ih hrest]
   constructor
   · rintro (rfl|⟨hmem,hit⟩)
     · exact ⟨.inl rfl,hfirst.mpr rfl⟩
     · exact ⟨.inr hmem,hit⟩
   · rintro ⟨rfl|hmem,hit⟩
     · exact .inl rfl
     · exact .inr ⟨hmem,hit⟩
  | false=>
   simp only [Bool.false_eq_true,if_false,ih hrest,mem_cons]
   constructor
   · exact fun ⟨hmem,hit⟩=>⟨.inr hmem,hit⟩
   · rintro ⟨rfl|hmem,hit⟩
     · exact absurd (hfirst.mp hit) (by simp)
     · exact ⟨hmem,hit⟩

lemma mem_highlights(sources kept:List SourceRef)(source:SourceRef):
  source∈sources.foldl pushHighlight kept↔source∈kept ∨
   ∃earlier later,sources=earlier++source::later∧∀s∈kept++earlier,s.sourceId≠source.sourceId:=by
 induction sources generalizing kept with
 | nil=>simp
 | cons first sources ih=>
  have hseen:(kept.any fun s=>decide (s.sourceId=first.sourceId))=true ↔
    ∃s∈kept,s.sourceId=first.sourceId:=by simp
  rw [foldl_cons,ih]
  unfold pushHighlight
  by_cases hfirst:(kept.any fun s=>decide (s.sourceId=first.sourceId))=true
  · rw [if_pos hfirst]
    obtain ⟨old,hold,hid⟩:=hseen.mp hfirst
    refine or_congr Iff.rfl ⟨?_,?_⟩
    · rintro ⟨earlier,later,rfl,hnew⟩
      refine ⟨first::earlier,later,rfl,?_⟩
      intro s hs
      rcases mem_append.mp hs with hs|hs
      · exact hnew s (mem_append_left _ hs)
      · rcases mem_cons.mp hs with rfl|hs
        · rw [←hid]
          exact hnew old (mem_append_left _ hold)
        · exact hnew s (mem_append_right _ hs)
    · rintro ⟨earlier,later,heq,hnew⟩
      cases earlier with
      | nil=>
       rw [nil_append,List.cons.injEq] at heq
       rw [←heq.1] at hnew
       exact absurd hid (hnew old (mem_append_left _ hold))
      | cons s earlier=>
       rw [cons_append,List.cons.injEq] at heq
       refine ⟨earlier,later,heq.2,fun t ht=>hnew t ?_⟩
       rcases mem_append.mp ht with ht|ht
       · exact mem_append_left _ ht
       · exact mem_append_right _ (mem_cons_of_mem _ ht)
  · rw [if_neg hfirst,mem_append,mem_singleton]
    constructor
    · rintro ((hmem|rfl)|⟨earlier,later,rfl,hnew⟩)
      · exact .inl hmem
      · refine .inr ⟨[],sources,rfl,fun s hs hid=>hfirst (hseen.mpr ⟨s,?_,hid⟩)⟩
        rwa [append_nil] at hs
      · exact .inr ⟨first::earlier,later,rfl,by simpa using hnew⟩
    · rintro (hmem|⟨earlier,later,heq,hnew⟩)
      · exact .inl (.inl hmem)
      · cases earlier with
        | nil=>
         rw [nil_append,List.cons.injEq] at heq
         exact .inl (.inr heq.1.symm)
        | cons s earlier=>
         rw [cons_append,List.cons.injEq] at heq
         rw [←heq.1] at hnew
         exact .inr ⟨earlier,later,heq.2,by simpa using hnew⟩

lemma flatMap_eq_append_cons{α β:Type}{f:α→List β}{l:List α}{pre post:List β}{b:β}
  (h:l.flatMap f=pre++b::post):∃l₁ a l₂ p q,l=l₁++a::l₂∧f a=p++b::q∧pre=l₁.flatMap f++p:=by
 induction l generalizing pre with
 | nil=>simp at h
 | cons a l ih=>
  rw [flatMap_cons,append_eq_append_iff] at h
  rcases h with ⟨mid,hpre,hrest⟩|⟨mid,hfirst,hrest⟩
  · obtain ⟨l₁,c,l₂,p,q,rfl,hc,hmid⟩:=ih hrest
    exact ⟨a::l₁,c,l₂,p,q,rfl,hc,by rw [hpre,hmid,flatMap_cons,append_assoc]⟩
  · cases mid with
    | nil=>
     obtain ⟨l₁,c,l₂,p,q,rfl,hc,hmid⟩:=@ih [] (by simpa using hrest.symm)
     rw [append_nil] at hfirst
     refine ⟨a::l₁,c,l₂,p,q,rfl,hc,?_⟩
     rw [flatMap_cons,append_assoc,←hmid,append_nil,hfirst]
    | cons first mid=>
     rw [cons_append,List.cons.injEq] at hrest
     rw [←hrest.1] at hfirst
     exact ⟨[],a,l,pre,mid,rfl,hfirst,rfl⟩

lemma shownSources_subset(hit:SearchHit σ):shownSources hit ⊆ hit.sources:=by
 unfold shownSources SearchHit.sources
 split
 · intro s hs
   rw [mem_singleton.mp hs]
   exact mem_cons_self
 · exact fun s hs=>mem_cons_of_mem _ hs

lemma label_test(d:StringDisplay)(hit:SearchHit σ):
  (fun h:SearchHit σ=>decide (dedupeKeyFor d h=dedupeKeyFor d hit)) =
   fun h=>decide (label h=label hit):=by
 funext h
 rw [decide_eq_decide]
 exact dedupeKeyFor_eq_iff d h hit

section
variable {d:StringDisplay} {hits fused shown:List (SearchHit σ)} {auth:Option AuthContext}
 {retrieverId:String} {keys:List String}

lemma laundered_shown(hkeys:∀key,key∈keys ↔ ∃hit∈hits,dedupeKeyFor d hit=key)
  (groups:List.Forall₂ (Fused d hits retrieverId) keys.zipIdx fused)
  (h:authorizeSearchHits auth fused=.ok shown)(laundered:Laundered hits auth):
  ¬SourcesAuthorized hits auth shown:=by
 obtain ⟨before,hit,after,earlier,source,later,first,rfl,hshown,-,hfind,hallowed,hnew,hnone⟩:=
  laundered
 intro authorized
 have hkey:=(hkeys (dedupeKeyFor d hit)).mpr ⟨hit,by simp,rfl⟩
 obtain ⟨rank,hlt,hget⟩:=getElem_of_mem hkey
 have hplace:(dedupeKeyFor d hit,rank)∈keys.zipIdx:=
  mem_zipIdx_iff_getElem?.mpr (List.getElem?_eq_some_iff.mpr ⟨hlt,hget⟩)
 obtain ⟨answer,hanswer,hfused⟩:=(exists_of_forall₂ groups).2 _ hplace
 obtain ⟨representative,hrepresentative,hitem,-⟩:=hfused.first
 rw [label_test,hfind] at hrepresentative
 obtain rfl:=Option.some.inj hrepresentative
 have hvisible:Allowed auth answer:=by
  unfold Allowed at hallowed ⊢
  rw [hitem]
  exact aclAllows_congr _ _ hallowed
 have hmem:=(mem_authorizeSearchHits h answer).mpr ⟨hanswer,hvisible⟩
 have hsource:source∈answer.highlights:=by
  rw [hfused.highlights,label_test,mem_highlights]
  refine .inr
   ⟨(before.filter fun h=>decide (label h=label hit)).flatMap shownSources++earlier,
    later++(after.filter fun h=>decide (label h=label hit)).flatMap shownSources,?_,hnew⟩
  simp [filter_append,hshown]
 obtain ⟨seen,hseen,hallows,hsources⟩:=(authorized answer hmem).2 source hsource
 exact hnone seen hseen hallows hsources

lemma shown_authorized(hkeys:∀key,key∈keys ↔ ∃hit∈hits,dedupeKeyFor d hit=key)
  (groups:List.Forall₂ (Fused d hits retrieverId) keys.zipIdx fused)
  (h:authorizeSearchHits auth fused=.ok shown)(clean:¬Laundered hits auth):
  SourcesAuthorized hits auth shown:=by
 intro answer hanswer
 obtain ⟨hmem,hvisible⟩:=(mem_authorizeSearchHits h answer).mp hanswer
 obtain ⟨⟨key,rank⟩,hplace,hfused⟩:=(exists_of_forall₂ groups).1 answer hmem
 obtain ⟨first,hfind,hitem,-⟩:=hfused.first
 have hfirst:=mem_of_find?_eq_some hfind
 have hallowed:Allowed auth first:=by
  unfold Allowed at hvisible ⊢
  rw [←hitem]
  exact aclAllows_congr _ _ hvisible
 refine ⟨⟨first,hfirst,hallowed,hitem.symm⟩,fun source hsource=>?_⟩
 by_contra hnone
 rw [hfused.highlights,mem_highlights] at hsource
 obtain ⟨earlier,later,hsplit,hnew⟩:=hsource.resolve_left (by simp)
 obtain ⟨l₁,hit,l₂,p,q,hgroup,hshown,rfl⟩:=flatMap_eq_append_cons hsplit
 obtain ⟨front,back,rfl,hfront,hback⟩:=filter_eq_append_iff.mp hgroup
 obtain ⟨skipped,after,rfl,hskipped,hkey,-⟩:=filter_eq_cons_iff.mp hback
 have hsame:dedupeKeyFor d hit=key:=by simpa using hkey
 rw [←hsame] at hfind hfront hskipped
 rw [label_test] at hfind hfront
 apply clean
 refine ⟨front++skipped,hit,after,p,source,q,first,by simp,hshown,?_,hfind,hallowed,?_,?_⟩
 · exact fun hallows=>hnone ⟨hit,by simp,hallows,shownSources_subset hit (by rw [hshown];simp)⟩
 · have hnothing:skipped.filter (fun h=>decide (label h=label hit))=[]:=by
    rw [←label_test d]
    exact filter_eq_nil_iff.mpr hskipped
   rw [filter_append,hnothing,append_nil,hfront]
   simpa using hnew
 · exact fun seen hseen hallows hsources=>hnone ⟨seen,hseen,hallows,hsources⟩
end

/-- Fused and then authorized hits show authorized sources exactly when nothing is laundered. -/
theorem fused_sources_authorized_iff (d : StringDisplay) (scores : Scores σ)
  (hitSets : List (List (SearchHit σ))) (options : FusionOptions σ) (auth : Option AuthContext)
  (fused shown : List (SearchHit σ)) (hfuse : fuseSearchHits d scores hitSets options=.ok fused)
  (hauthorize : authorizeSearchHits auth fused=.ok shown) :
  SourcesAuthorized hitSets.flatten auth shown↔¬Laundered hitSets.flatten auth := by
 obtain ⟨keys,-,hkeys,groups⟩:=fuseSearchHits_ok scores hfuse
 constructor
 · exact fun authorized laundered=>laundered_shown hkeys groups hauthorize laundered authorized
 · exact shown_authorized hkeys groups hauthorize

def sourceNamed (name:String) : SourceRef :=
 ⟨name,"document",none,none,none,none,none,"retrieved",none,∅⟩

def hitShowing (hitId name:String) (acl:Option Value) : SearchHit ℕ :=
 let hit:=tideHit hitId none
 { hit with item:={ hit.item with acl:=acl },highlights:=[sourceNamed name] }

def ownerOnly : Value := .object [("principals",.array [.string "owner"])]

def guest : Option AuthContext := some ⟨"acme","guest",∅,∅,∅⟩

def openHit : SearchHit ℕ := hitShowing "a" "open" none

def secretHit : SearchHit ℕ := hitShowing "b" "secret" (some ownerOnly)

def sharedHit : SearchHit ℕ := hitShowing "b" "shared" none

theorem open_sources_authorized : ∃ fused shown,
  fuseSearchHits serdeDisplay naturals [[openHit], [sharedHit]] ranked = .ok fused ∧
   fused.length = 1 ∧ authorizeSearchHits guest fused = .ok shown ∧
   SourcesAuthorized [openHit, sharedHit] guest shown := by
 have iff:=fused_sources_authorized_iff serdeDisplay naturals [[openHit],[sharedHit]] ranked guest
  _ _ rfl rfl
 refine ⟨_,_,rfl,rfl,rfl,iff.mpr ?_⟩
 rintro ⟨before,hit,after,-,-,-,-,hhits,-,hdenied,-⟩
 have hmem:hit∈[openHit,sharedHit]:=by
  change hit∈[[openHit],[sharedHit]].flatten
  rw [hhits]
  simp
 apply hdenied
 rcases mem_pair.mp hmem with rfl|rfl
 · rfl
 · rfl

theorem secret_source_shown : ¬ ∀(hitSets:List (List (SearchHit ℕ))) (options:FusionOptions ℕ)
  (auth:Option AuthContext) (fused shown:List (SearchHit ℕ)),
  fuseSearchHits serdeDisplay naturals hitSets options=.ok fused →
   authorizeSearchHits auth fused=.ok shown→SourcesAuthorized hitSets.flatten auth shown := by
 intro authorized
 have ok:fuseSearchHits serdeDisplay naturals [[openHit],[secretHit]] ranked=.ok _:=rfl
 obtain ⟨keys,-,hkeys,groups⟩:=fuseSearchHits_ok naturals ok
 have denied:¬Allowed guest secretHit:=fun h=>by cases h
 have shown:=authorized _ _ guest _ _ ok rfl
 refine laundered_shown hkeys groups rfl ?_ shown
 refine ⟨[openHit],secretHit,[],[],sourceNamed "secret",[],openHit,rfl,rfl,denied,rfl,rfl,?_,?_⟩
 · intro s hs
   have hopen:s=sourceNamed "open" := mem_singleton.mp hs
   rw [hopen]
   decide
 · intro hit hmem hallowed hsource
   have hits:hit=openHit∨hit=secretHit:=by simpa using hmem
   rcases hits with rfl|rfl
   · have hnames:∀s∈openHit.sources,s.sourceId ≠ "secret" := by decide
     exact hnames _ hsource rfl
   · exact denied hallowed

end GraphBlocks.Rag
