import GraphBlocks.AccessLists
import GraphBlocks.SearchFusion
import GraphBlocks.SerdeInstance

namespace GraphBlocks.Rag
open Json StoredJson CanonicalJson List

abbrev Subject := DocumentSpan ⊕ String

/-- A bounding box `null` is printed as an absent one. -/
def spanLabel (span:DocumentSpan) : DocumentSpan :=
 { span with bbox:=span.bbox.filter fun box=>decide (box.1 ≠ .null) }

section
variable {σ:Type}

def subject (hit:SearchHit σ) : Subject :=
 match firstLocator hit with
 | none=>.inr hit.item.itemId
 | some span=>.inl span

def label (hit:SearchHit σ) : Subject := (subject hit).map spanLabel id
end

lemma orNull_injective{α:Type}{write:α→Value}(h:Function.Injective write)
  (hnull:∀a,write a ≠ .null):Function.Injective (orNull write):=by
 intro a b hab
 cases a with
 | none=>
  cases b with
  | none=>rfl
  | some b=>exact absurd hab.symm (hnull b)
 | some a=>
  cases b with
  | none=>exact absurd hab (hnull a)
  | some b=>exact congrArg some (h hab)

lemma numberValue_injective:Function.Injective numberValue:=
 fun _ _ h=>legible_number (congrArg canonicalize h)

lemma orNull_bbox_iff(a b:Option JsonValue):orNull Subtype.val a=orNull Subtype.val b ↔
   a.filter (fun box=>decide (box.1 ≠ .null))=b.filter fun box=>decide (box.1 ≠ .null):=by
 have printed:∀o:Option JsonValue,
   orNull Subtype.val (o.filter fun box=>decide (box.1 ≠ .null))=orNull Subtype.val o:=by
  intro o
  cases o with
  | none=>rfl
  | some box=>
   by_cases hnull:box.1=.null
   · simp [Option.filter,hnull,orNull]
   · simp [Option.filter,hnull]
 constructor
 · intro h
   rw [←printed a,←printed b] at h
   generalize hleft:a.filter (fun box=>decide (box.1 ≠ .null))=left at h ⊢
   generalize hright:b.filter (fun box=>decide (box.1 ≠ .null))=right at h ⊢
   have hfull:∀(o:Option JsonValue) (box:JsonValue),
     o.filter (fun box=>decide (box.1 ≠ .null))=some box→box.1 ≠ .null:=by
    intro o box hbox
    simpa using (Option.filter_eq_some_iff.mp hbox).2
   cases left with
   | none=>
    cases right with
    | none=>rfl
    | some box=>exact absurd h.symm (hfull b box hright)
   | some box=>
    cases right with
    | none=>exact absurd h (hfull a box hleft)
    | some other=>exact congrArg some (Subtype.ext h)
 · intro h
   rw [←printed a,←printed b,h]

lemma locatorValue_eq_iff(a b:DocumentSpan):
  locatorValue a=locatorValue b↔spanLabel a=spanLabel b:=by
 have text:=orNull_injective (fun _ _ h=>Value.string.inj h) fun s:String=>by simp
 have number:=orNull_injective numberValue_injective fun n h=>by cases h
 obtain ⟨_,_,_,_,_,_,_,_,_,_,_,_⟩:=a
 obtain ⟨_,_,_,_,_,_,_,_,_,_,_,_⟩:=b
 simp only [locatorValue,spanLabel,Value.object.injEq,List.cons.injEq,Prod.mk.injEq,true_and,
  and_true,Value.string.injEq,orNull_bbox_iff,text.eq_iff,number.eq_iff,DocumentSpan.mk.injEq]
 tauto

lemma allNumbers_orNull{α:Type}(write:α→Value)(h:∀a,AllNumbers IsNumberToken (write a))
  (o:Option α):AllNumbers IsNumberToken (orNull write o):=by
 cases o with
 | none=>exact trivial
 | some a=>exact h a

lemma allNumbers_locatorValue(span:DocumentSpan):AllNumbers IsNumberToken (locatorValue span):=by
 have text:=allNumbers_orNull Value.string fun _=>trivial
 have number:=allNumbers_orNull numberValue fun n=>isNumberToken_intToken n
 have box:=allNumbers_orNull Subtype.val fun box:JsonValue=>box.2
 simp only [locatorValue,AllNumbers,AllNumbersMembers,text,number,box,and_self]

section
variable {σ:Type} (d:StringDisplay)

def keyOf (s:Subject) : String :=
 s.elim (fun span => "source_span:" ++ String.ofList (compact d (locatorValue span))) ("item:" ++ ·)

lemma dedupeKeyFor_eq(hit:SearchHit σ):dedupeKeyFor d hit=keyOf d (subject hit):=by
 unfold dedupeKeyFor subject keyOf
 cases firstLocator hit <;>rfl

lemma keyOf_eq_iff(s t:Subject):keyOf d s=keyOf d t↔s.map spanLabel id=t.map spanLabel id:=by
 have apart:∀(span:DocumentSpan) (item:String),
   "source_span:"++String.ofList (compact d (locatorValue span))≠"item:"++item:=by
  intro span item h
  have hfirst:=congrArg (fun s:String=>s.toList.head?) h
  simp at hfirst
 cases s with
 | inl a=>
  cases t with
  | inl b=>
   simp only [keyOf,Sum.elim_inl,Sum.map_inl,Sum.inl.injEq]
   rw [(RustStd.append_left_injective _).eq_iff,←locatorValue_eq_iff]
   constructor
   · intro h
     exact compact_injective d (allNumbers_locatorValue a) (allNumbers_locatorValue b)
      (String.ofList_injective h)
   · exact fun h=>by rw [h]
  | inr b=>simpa [keyOf] using apart a b
 | inr a=>
  cases t with
  | inl b=>simpa [keyOf] using (apart b a).symm
  | inr b=>
   simp only [keyOf,Sum.elim_inr,Sum.map_inr,id_eq,Sum.inr.injEq]
   exact (RustStd.append_left_injective _).eq_iff

lemma dedupeKeyFor_eq_iff(a b:SearchHit σ):dedupeKeyFor d a=dedupeKeyFor d b↔label a=label b:=by
 rw [dedupeKeyFor_eq,dedupeKeyFor_eq,keyOf_eq_iff]
 rfl
end

section
variable {σ:Type} {d:StringDisplay} {hits fused:List (SearchHit σ)} {retrieverId:String}
 {keys:List String}

lemma map_eq_of_forall₂{α β γ:Type}{R:α→β→Prop}{f:α→γ}{g:β→γ}{l:List α}
  {l':List β}(h:List.Forall₂ R l l')(hR:∀a b,R a b→f a=g b):l.map f=l'.map g:=by
 induction h with
 | nil=>rfl
 | cons hab _ ih=>rw [map_cons,map_cons,hR _ _ hab,ih]

lemma exists_of_forall₂{α β:Type}{R:α→β→Prop}{l:List α}{l':List β}
  (h:List.Forall₂ R l l'):(∀b∈l',∃a∈l,R a b)∧∀a∈l,∃b∈l',R a b:=by
 induction h with
 | nil=>simp
 | cons hab _ ih=>
  simp only [mem_cons,forall_eq_or_imp,exists_eq_or_imp]
  exact ⟨⟨.inl hab,fun b hb=>.inr (ih.1 b hb)⟩,.inl hab,fun a ha=>.inr (ih.2 a ha)⟩

def firstItem (hits:List (SearchHit σ)) (s:Subject) : Option String :=
 (hits.find? fun hit=>decide (subject hit=s)).map (·.item.itemId)

/-- What the result must say about its input. -/
structure LosesNothing (hits fused:List (SearchHit σ)) : Prop where
 groups:∃subjects : List Subject,subjects.Nodup∧(∀s,s∈subjects ↔ ∃hit∈hits,subject hit=s) ∧
  fused.map (·.metadata["source_hit_ids"]?)=subjects.map fun s=>
   some (.array ((hits.filter fun hit=>decide (subject hit=s)).map (.string ·.hitId)))
 ranks:fused.map (·.rank)=List.range' 1 fused.length
 ids:(fused.map (·.hitId)).Nodup

/-- Subjects can be told apart by their labels and by the items of their first hits. -/
structure Distinguished (hits:List (SearchHit σ)) : Prop where
 labels:∀a∈hits,∀b∈hits,label a=label b→subject a=subject b
 items:∀a∈hits,∀b∈hits,firstItem hits (subject a)=firstItem hits (subject b)→subject a=subject b

def itemOf (d:StringDisplay) (hits:List (SearchHit σ)) (key:String) : String :=
 ((hits.find? fun hit=>decide (dedupeKeyFor d hit=key)).map (·.item.itemId)).getD ""

lemma map_fst_zipIdx{γ:Type}(f:String→γ)(keys:List String):
  keys.zipIdx.map (fun place=>f place.1)=keys.map f:=by
 have hmap:keys.zipIdx.map (f ∘ Prod.fst)=(keys.zipIdx.map Prod.fst).map f:=map_map.symm
 rw [zipIdx_map_fst] at hmap
 exact hmap

section
variable (h:List.Forall₂ (Fused d hits retrieverId) keys.zipIdx fused)
include h

lemma fused_ids:fused.map (·.hitId)=keys.map fun key=>retrieverId++":"++itemOf d hits key:=by
 rw [←map_fst_zipIdx]
 refine (map_eq_of_forall₂ h ?_).symm
 intro place hit hfused
 obtain ⟨representative,hfind,-,hid⟩:=hfused.first
 rw [hid,itemOf,hfind]
 rfl

lemma fused_sources:
  fused.map (·.metadata["source_hit_ids"]?)=keys.map fun key=>
   some (.array ((hits.filter fun hit=>
    decide (dedupeKeyFor d hit=key)).map (.string ·.hitId))):=by
 rw [←map_fst_zipIdx]
 exact (map_eq_of_forall₂ h fun place hit hfused=>hfused.sources.symm).symm

lemma fused_length:fused.length=keys.length:=by
 rw [←h.length_eq,length_zipIdx]

lemma fused_ranks:fused.map (·.rank)=List.range' 1 fused.length:=by
 have hranks:=map_eq_of_forall₂ (f:=fun place:String×ℕ=>place.2+1) h
  fun place hit hfused=>hfused.rank.symm
 rw [←hranks,fused_length h]
 apply ext_getElem
 · simp
 · intro i _ _
   simp [Nat.add_comm]

end

lemma itemOf_subject(labels:∀a∈hits,∀b∈hits,label a=label b→subject a=subject b){a:SearchHit σ}
  (ha:a∈hits):firstItem hits (subject a)=some (itemOf d hits (dedupeKeyFor d a)):=by
 have hsame:hits.find? (fun hit=>decide (dedupeKeyFor d hit=dedupeKeyFor d a)) =
   hits.find? fun hit=>decide (subject hit=subject a):=by
  apply List.find?_congr
  intro hit hhit
  rw [Bool.eq_iff_iff,decide_eq_true_eq,decide_eq_true_eq,dedupeKeyFor_eq_iff]
  exact ⟨labels hit hhit a ha,fun h=>by rw [label,label,h]⟩
 unfold firstItem itemOf
 rw [hsame]
 cases hfind:hits.find? fun hit=>decide (subject hit=subject a) with
 | none=>exact absurd (decide_eq_true rfl) (List.find?_eq_none.mp hfind a ha)
 | some representative=>rfl


def subjectOf (d:StringDisplay) (hits:List (SearchHit σ)) (key:String) : Subject :=
 ((hits.find? fun hit=>decide (dedupeKeyFor d hit=key)).map subject).getD (.inr "")

lemma subjectOf_key(labels:∀a∈hits,∀b∈hits,label a=label b→subject a=subject b)
  {a:SearchHit σ}(ha:a∈hits):subjectOf d hits (dedupeKeyFor d a)=subject a:=by
 unfold subjectOf
 cases hfind:hits.find? fun hit=>decide (dedupeKeyFor d hit=dedupeKeyFor d a) with
 | none=>exact absurd (decide_eq_true rfl) (List.find?_eq_none.mp hfind a ha)
 | some found=>
  have hkey:dedupeKeyFor d found=dedupeKeyFor d a:=by simpa using List.find?_some hfind
  exact labels found (mem_of_find?_eq_some hfind) a ha ((dedupeKeyFor_eq_iff d _ _).mp hkey)

lemma losesNothing_iff(nodup:keys.Nodup)(hkeys:∀key,key∈keys ↔ ∃hit∈hits,dedupeKeyFor d hit=key)
  (h:List.Forall₂ (Fused d hits retrieverId) keys.zipIdx fused):
  LosesNothing hits fused↔Distinguished hits:=by
 have sameId:∀{a b:String},retrieverId++":"++a=retrieverId++":"++b↔a=b:=
  (RustStd.append_left_injective _).eq_iff
 constructor
 · intro loses
   have labels:∀a∈hits,∀b∈hits,label a=label b→subject a=subject b:=by
    obtain ⟨subjects,distinct,hsubjects,hgroups⟩:=loses.groups
    have hlength:subjects.length=keys.length:=by
     have sameLength:=congrArg List.length hgroups
     rw [length_map,length_map] at sameLength
     rw [←fused_length h,sameLength]
    have image:keys.toFinset=subjects.toFinset.image (keyOf d):=by
     ext key
     simp only [mem_toFinset,Finset.mem_image,hkeys,hsubjects,dedupeKeyFor_eq]
     constructor
     · rintro ⟨hit,hhit,rfl⟩
       exact ⟨subject hit,⟨hit,hhit,rfl⟩,rfl⟩
     · rintro ⟨s,⟨hit,hhit,rfl⟩,rfl⟩
       exact ⟨hit,hhit,rfl⟩
    have injective:Set.InjOn (keyOf d) subjects.toFinset:=by
     rw [←Finset.card_image_iff,←image,toFinset_card_of_nodup nodup,
      toFinset_card_of_nodup distinct,hlength]
    intro a ha b hb hlabel
    refine injective ?_ ?_ ((keyOf_eq_iff d _ _).mpr hlabel)
    · simpa using (hsubjects _).mpr ⟨a,ha,rfl⟩
    · simpa using (hsubjects _).mpr ⟨b,hb,rfl⟩
   refine ⟨labels,?_⟩
   intro a ha b hb hitem
   rw [itemOf_subject (d:=d) labels ha,itemOf_subject (d:=d) labels hb] at hitem
   have ids:=loses.ids
   rw [fused_ids h] at ids
   have hkey:=inj_on_of_nodup_map ids ((hkeys _).mpr ⟨a,ha,rfl⟩) ((hkeys _).mpr ⟨b,hb,rfl⟩)
    (sameId.mpr (Option.some.inj hitem))
   exact labels a ha b hb ((dedupeKeyFor_eq_iff d a b).mp hkey)
 · rintro ⟨labels,items⟩
   have hsubject:∀a∈hits,∀b∈hits,dedupeKeyFor d a=dedupeKeyFor d b↔subject a=subject b:=by
    intro a ha b hb
    rw [dedupeKeyFor_eq_iff]
    exact ⟨labels a ha b hb,fun h=>by rw [label,label,h]⟩
   refine ⟨?_,fused_ranks h,?_⟩
   · refine ⟨keys.map (subjectOf d hits),?_,?_,?_⟩
     · refine (nodup_map_iff_inj_on nodup).mpr fun key hk other ho hsame=>?_
       obtain ⟨a,ha,rfl⟩:=(hkeys key).mp hk
       obtain ⟨b,hb,rfl⟩:=(hkeys other).mp ho
       rw [subjectOf_key labels ha,subjectOf_key labels hb] at hsame
       exact (hsubject a ha b hb).mpr hsame
     · intro s
       rw [mem_map]
       constructor
       · rintro ⟨key,hk,rfl⟩
         obtain ⟨a,ha,rfl⟩:=(hkeys key).mp hk
         exact ⟨a,ha,(subjectOf_key labels ha).symm⟩
       · rintro ⟨a,ha,rfl⟩
         exact ⟨_,(hkeys _).mpr ⟨a,ha,rfl⟩,subjectOf_key labels ha⟩
     · rw [fused_sources h,map_map]
       apply map_congr_left
       intro key hk
       obtain ⟨a,ha,rfl⟩:=(hkeys key).mp hk
       simp only [Function.comp_apply,subjectOf_key labels ha]
       congr 3
       apply filter_congr
       intro hit hhit
       rw [Bool.eq_iff_iff,decide_eq_true_eq,decide_eq_true_eq]
       exact hsubject hit hhit a ha
   · rw [fused_ids h]
     refine (nodup_map_iff_inj_on nodup).mpr fun key hk other ho hsame=>?_
     obtain ⟨a,ha,rfl⟩:=(hkeys key).mp hk
     obtain ⟨b,hb,rfl⟩:=(hkeys other).mp ho
     refine (hsubject a ha b hb).mpr (items a ha b hb ?_)
     rw [itemOf_subject (d:=d) labels ha,itemOf_subject (d:=d) labels hb,sameId.mp hsame]

/-- Fusion loses and duplicates nothing exactly when no two subjects share a label
or the item of their first hits. -/
theorem fusion_loses_nothing_iff (d : StringDisplay) (scores : Scores σ)
  (hitSets : List (List (SearchHit σ))) (options : FusionOptions σ) (fused : List (SearchHit σ))
  (h : fuseSearchHits d scores hitSets options=.ok fused) :
  LosesNothing hitSets.flatten fused↔Distinguished hitSets.flatten := by
 obtain ⟨keys,nodup,hkeys,groups⟩:=fuseSearchHits_ok scores h
 exact losesNothing_iff nodup hkeys groups
end

def naturals : Scores ℕ where
 zero:=0
 one:=1
 ofUsize n:=n
 add:=(·+·)
 mul:=(· * ·)
 div:=(· / ·)
 compare
 isPositive n:=decide (0<n)
 toValue:=numberValue

def pageOf (page:ℕ) : DocumentSpan :=
 ⟨"asset","1","almanac",none,none,some page,none,none,none,none,none,none⟩

def tideHit (hitId:String) (page:Option ℕ) : SearchHit ℕ where
 hitId
 item:=⟨"tides","chunk",⟨"almanac","document",none,none,page.map pageOf,none,none,"retrieved",
  none,∅⟩,none,none,[],none,∅⟩
 rank:=1
 retriever:=hitId
 rawScore:=none
 normalizedScore:=none
 scoreKind:=none
 highlights:=[]
 metadata:=∅

def ranked : FusionOptions ℕ := ⟨.reciprocalRankFusion,60,none,"fused"⟩

theorem same_item_fused : ∃fused,
  fuseSearchHits serdeDisplay naturals [[tideHit "a" none],[tideHit "b" none]] ranked=.ok fused ∧
   LosesNothing [tideHit "a" none,tideHit "b" none] fused := by
 have sameSubject:∀hit∈[tideHit "a" none,tideHit "b" none],subject hit=.inr "tides" := by
  intro hit hmem
  simp only [mem_cons,not_mem_nil,or_false] at hmem
  rcases hmem with rfl|rfl <;>rfl
 have distinguished:Distinguished [tideHit "a" none,tideHit "b" none]:=by
  constructor
  · intro a ha b hb _
    rw [sameSubject a ha,sameSubject b hb]
  · intro a ha b hb _
    rw [sameSubject a ha,sameSubject b hb]
 have iff:=fusion_loses_nothing_iff serdeDisplay naturals
  [[tideHit "a" none],[tideHit "b" none]] ranked _ rfl
 exact ⟨_,rfl,iff.mpr distinguished⟩

theorem pages_share_id : ¬ ∀(hitSets:List (List (SearchHit ℕ))) (options:FusionOptions ℕ)
  (fused:List (SearchHit ℕ)),fuseSearchHits serdeDisplay naturals hitSets options=.ok fused →
   LosesNothing hitSets.flatten fused := by
 intro loses
 have ok:fuseSearchHits serdeDisplay naturals
   [[tideHit "a" (some 1)],[tideHit "b" (some 2)]] ranked=.ok _:=rfl
 obtain ⟨keys,nodup,hkeys,groups⟩:=fuseSearchHits_ok naturals ok
 have distinguished:=(losesNothing_iff nodup hkeys groups).mp (loses _ _ _ ok)
 have same:=distinguished.items (tideHit "a" (some 1)) (by simp) (tideHit "b" (some 2)) (by simp)
  (by decide +kernel)
 exact absurd same (by decide)

end GraphBlocks.Rag
