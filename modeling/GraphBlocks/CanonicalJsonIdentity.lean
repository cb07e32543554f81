import GraphBlocks.CanonicalJson
import GraphBlocks.NumberRoundTrip

namespace GraphBlocks.CanonicalJson

open Json DigitStrings JsonNumber NumberEncoding List Option

/-- The normal form of a value. -/
def canonicalize (v:Value) : Value := rewriteNumbers canonicalNumber sortMembers v

def canonicalizeMembers (members:Members) : Members :=
 rewriteMembers canonicalNumber sortMembers members

lemma canonicalize_array(items:List Value):
  canonicalize (.array items)=.array (items.map canonicalize):=
 congrArg Value.array (rewriteItems_eq canonicalNumber sortMembers items)

lemma canonicalize_object(members:Members):
  canonicalize (.object members)=.object (sortMembers (canonicalizeMembers members)):=rfl

lemma canonicalizeMembers_eq(members:Members):
  canonicalizeMembers members=members.map (fun e=>(e.1,canonicalize e.2)):=
 rewriteMembers_eq canonicalNumber sortMembers members

lemma nodup_canonicalizeMembers{members:Members}(h:(keys members).Nodup):
  (keys (canonicalizeMembers members)).Nodup:=by
 unfold canonicalizeMembers
 rwa [keys_rewriteMembers]

lemma lookup_canonicalizeMembers(members:Members)(k:String):
  (canonicalizeMembers members).lookup k=(members.lookup k).map canonicalize:=
 lookup_rewriteMembers canonicalNumber sortMembers members k

section
variable (d:StringDisplay)

lemma joinEntries_items(items:List Value):
  joinEntries (items.map (compact d))=compactItems d items:=by
 cases items with
 | nil=>rfl
 | cons v items=>
  rw [map_cons,compactItems]
  induction items generalizing v with
  | nil=>simp [joinEntries,compactItemsTail]
  | cons w items ih=>rw [map_cons,joinEntries,ih,compactItemsTail]

lemma joinEntries_members(members:Members):
  joinEntries (members.map (fun e=>d.display e.1 ++ ':' :: compact d e.2)) =
   compactMembers d members:=by
 cases members with
 | nil=>rfl
 | cons e members=>
  obtain ⟨k,v⟩:=e
  rw [map_cons,compactMembers]
  induction members generalizing k v with
  | nil=>simp [joinEntries,compactMembersTail]
  | cons f members ih=>
   obtain ⟨j,w⟩:=f
   rw [map_cons,joinEntries,ih,compactMembersTail]
   simp

lemma encodedItems_eq(items:List Value):
  encodedItems d items=items.map (canonicalJsonUnchecked d):=by
 induction items with
 | nil=>rfl
 | cons v items ih=>simp [encodedItems,ih]

lemma encodedMembers_eq(members:Members):
  encodedMembers d members=members.map (fun e=>(e.1,canonicalJsonUnchecked d e.2)):=by
 induction members with
 | nil=>rfl
 | cons e members ih=>simp [encodedMembers,ih]

lemma canonicalJsonUnchecked_eq(v:Value):canonicalJsonUnchecked d v=compact d (canonicalize v):=by
 apply InductionCases.value
  (P:=fun v=>canonicalJsonUnchecked d v=compact d (canonicalize v))
 constructor
 · rfl
 · intro b
   cases b <;>rfl
 · intro token
   rfl
 · intro s
   rfl
 · intro items ih
   have hitems:items.map (canonicalJsonUnchecked d)=(items.map canonicalize).map (compact d):=by
    rw [List.map_map]
    exact map_congr_left ih
   rw [canonicalJsonUnchecked,canonicalize_array,compact,encodedItems_eq,hitems,joinEntries_items]
 · intro members ih
   have hmembers:members.map (fun e=>(e.1,canonicalJsonUnchecked d e.2)) =
     (canonicalizeMembers members).map (fun e=>(e.1,compact d e.2)):=by
    rw [canonicalizeMembers_eq,List.map_map]
    apply map_congr_left
    intro e he
    simp [ih e he]
   have hsort:(members.map (fun e=>(e.1,canonicalJsonUnchecked d e.2))).insertionSort
     (fun a b=>a.1≤b.1) =
      (sortMembers (canonicalizeMembers members)).map (fun e=>(e.1,compact d e.2)):=by
    rw [hmembers,sortMembers]
    exact (map_insertionSort (fun a b:String×Value=>a.1≤b.1)
     (fun a b:String×List Char=>a.1≤b.1) _ _ (fun a _ b _=>Iff.rfl)).symm
   simp only [canonicalJsonUnchecked]
   rw [canonicalize_object,compact,encodedMembers_eq,hsort,List.map_map,←joinEntries_members]
   rfl
end

def pendingWeight (pending:List Pending) : ℕ := weightItems (pending.map Prod.fst)

lemma weightItems_eq_sum(items:List Value):weightItems items=(items.map weight).sum:=by
 induction items with
 | nil=>rfl
 | cons v items ih=>simp [weightItems,ih]

lemma weightMembers_eq_sum(members:Members):
  weightMembers members=(members.map (fun e=>weight e.2)).sum:=by
 induction members with
 | nil=>rfl
 | cons e members ih=>simp [weightMembers,ih]

lemma pendingItems_values(path:List PathSegment)(depth index:ℕ)(values:List Value):
  (pendingItems path depth index values).map Prod.fst=values:=by
 induction values generalizing index with
 | nil=>rfl
 | cons v values ih=>simp [pendingItems,ih]

lemma pendingItems_depth(path:List PathSegment)(depth index:ℕ)(values:List Value):
  ∀p∈pendingItems path depth index values,p.2.2=depth+1:=by
 induction values generalizing index with
 | nil=>simp [pendingItems]
 | cons v values ih=>
  rw [pendingItems]
  exact forall_mem_cons.mpr ⟨rfl,ih (index+1)⟩

lemma pendingChildren_spec(value:Value)(path:List PathSegment)(depth:ℕ):
  pendingWeight (pendingChildren value path depth)+1=weight value ∧
   (∀p∈pendingChildren value path depth,p.2.2=depth+1) ∧
   ∀n,(∀p∈pendingChildren value path depth,height p.1+1≤n)↔height value≤n:=by
 cases value with
 | array values=>
  have hvalues:=pendingItems_values path depth 0 values
  refine ⟨?_,pendingItems_depth path depth 0 values,fun n=>?_⟩
  · rw [pendingWeight,pendingChildren,hvalues,weight]
    omega
  · have hall:(∀v∈values,height v+1≤n) ↔ ∀p∈pendingItems path depth 0 values,height p.1+1≤n:=by
     conv_lhs=>rw [←hvalues]
     simp only [List.forall_mem_map]
    rw [height,heightItems_le_iff,hall]
    rfl
 | object values=>
  have hperm:=perm_insertionSort (fun a b:String×Value=>b.1≤a.1) values
  refine ⟨?_,?_,fun n=>?_⟩
  · have hsum:=(hperm.map (fun e=>weight e.2)).sum_eq
    rw [pendingWeight,pendingChildren,pendingMembers,weightItems_eq_sum,List.map_map,
     List.map_map,weight,weightMembers_eq_sum,←hsum]
    simp only [Function.comp_def]
    omega
  · intro p hp
    obtain ⟨e,-,rfl⟩:=List.mem_map.mp hp
    rfl
  · rw [height,heightMembers_le_iff,pendingChildren,pendingMembers]
    simp only [List.forall_mem_map,hperm.mem_iff]
 | _=>simp [pendingChildren,pendingWeight,weightItems,weight,height]

lemma pendingWeight_append(a b:List Pending):
  pendingWeight (a.reverse++b)=pendingWeight a+pendingWeight b:=by
 simp only [pendingWeight,weightItems_eq_sum,map_append,map_reverse,sum_append,sum_reverse]

lemma nestingLoop_eq_none_iff(maxDepth fuel:ℕ)(pending:List Pending)
  (hw:pendingWeight pending≤fuel):
  nestingLoop maxDepth fuel pending=none ↔ ∀p∈pending,p.2.2+height p.1≤ maxDepth:=by
 induction fuel generalizing pending with
 | zero=>
  cases pending with
  | nil=>simp [nestingLoop]
  | cons p pending=>
   have hpos:=weight_pos p.1
   simp only [pendingWeight,map_cons,weightItems] at hw
   omega
 | succ fuel ih=>
  cases pending with
  | nil=>simp [nestingLoop]
  | cons p pending=>
   obtain ⟨value,path,depth⟩:=p
   obtain ⟨hweight,hdepth,hheight⟩:=pendingChildren_spec value path depth
   rw [nestingLoop,forall_mem_cons]
   split
   · next hdeep=>
     simp only [reduceCtorEq,false_iff,not_and]
     intro h
     omega
   · next hshallow=>
     have hle:pendingWeight ((pendingChildren value path depth).reverse++pending)≤fuel:=by
      rw [pendingWeight_append]
      simp only [pendingWeight,map_cons,weightItems] at hw hweight ⊢
      omega
     rw [ih _ hle,forall_mem_append]
     apply and_congr_left
     intro _
     have hchildren:=hheight (maxDepth-depth)
     constructor
     · intro h
       have hle:height value≤ maxDepth-depth:=by
        apply hchildren.mp
        intro p hp
        have h₁:=h p (by simpa using hp)
        have h₂:=hdepth p hp
        omega
       dsimp only
       omega
     · intro h p hp
       have hp':p∈pendingChildren value path depth:=by simpa using hp
       have h₁:=hchildren.mpr (by dsimp only at h;omega) p hp'
       have h₂:=hdepth p hp'
       omega

lemma validateCanonicalJsonDepth_ok_iff(v:Value):
  validateCanonicalJsonDepth v=.ok ()↔height v≤ maxCanonicalJsonDepth:=by
 have hloop:=nestingLoop_eq_none_iff maxCanonicalJsonDepth (weight v) [(v,[],0)]
  (by simp [pendingWeight,weightItems])
 simp only [forall_mem_singleton,Nat.zero_add] at hloop
 rw [←hloop]
 unfold validateCanonicalJsonDepth validateJsonDepthFrom excessiveJsonNestingPath
 cases nestingLoop maxCanonicalJsonDepth (weight v) [(v,[],0)] <;>simp

lemma integerLoop_ok_iff(fuel:ℕ)(pending:List Value)(hw:weightItems pending≤fuel):
  integerLoop fuel pending=.ok () ↔
   ∀v∈pending,AllNumbers (fun token=>integerTooLong token=false) v:=by
 induction fuel generalizing pending with
 | zero=>
  cases pending with
  | nil=>simp [integerLoop]
  | cons v pending=>
   have hpos:=weight_pos v
   simp only [weightItems] at hw
   omega
 | succ fuel ih=>
  cases pending with
  | nil=>simp [integerLoop]
  | cons v pending=>
   have hscalar (h:weight v=1):weightItems pending≤fuel:=by
    simp only [weightItems] at hw
    omega
   have hpush (children:List Value) (hc:weightItems children+1=weight v) :
     weightItems (children.reverse++pending)≤fuel:=by
    simp only [weightItems_eq_sum,map_append,map_reverse,sum_append,
     sum_reverse,map_cons,sum_cons] at hw hc ⊢
    omega
   rw [forall_mem_cons]
   cases v with
   | null=>simpa [integerLoop,AllNumbers] using ih pending (hscalar rfl)
   | bool b=>simpa [integerLoop,AllNumbers] using ih pending (hscalar rfl)
   | string s=>simpa [integerLoop,AllNumbers] using ih pending (hscalar rfl)
   | number token=>
    rw [integerLoop,AllNumbers]
    cases htoken:integerTooLong token with
    | true=>simp
    | false=>simpa using ih pending (hscalar rfl)
   | array values=>
    have hle:=hpush values (by rw [weight];omega)
    rw [integerLoop,ih _ hle,forall_mem_append,AllNumbers,allNumbersItems_iff]
    simp only [mem_reverse]
   | object values=>
    have hle:=hpush (values.map Prod.snd) (by
     rw [weight,weightItems_eq_sum,weightMembers_eq_sum,List.map_map]
     simp only [Function.comp_def]
     omega)
    rw [integerLoop,ih _ hle,forall_mem_append,AllNumbers,allNumbersMembers_iff]
    simp only [mem_reverse,List.forall_mem_map]

lemma validateCanonicalJson_ok_iff(v:Value):
  validateCanonicalJson v=.ok ()↔height v≤ maxCanonicalJsonDepth ∧
   AllNumbers (fun token=>integerTooLong token=false) v:=by
 have hloop:=integerLoop_ok_iff (weight v) [v] (by simp [weightItems])
 rw [forall_mem_singleton] at hloop
 rw [←validateCanonicalJsonDepth_ok_iff,←hloop]
 unfold validateCanonicalJson
 cases hdepth:validateCanonicalJsonDepth v with
 | error e=>simp [bind,Except.bind]
 | ok u=>simp [bind,Except.bind]

lemma canonicalJson_ok(d:StringDisplay){v:Value}(h:validateCanonicalJson v=.ok ()):
  canonicalJson d v=.ok (compact d (canonicalize v)):=by
 unfold canonicalJson tryCanonicalJson
 rw [h,←canonicalJsonUnchecked_eq]
 rfl

/-- Equal integer tokens, or two other tokens for one signed rational. -/
def SameNumber (token token':List Char) : Prop :=
 token=token' ∨ ∃t u : NumberToken,t.text=token∧u.text=token'∧t.isInteger=false∧u.isInteger=false ∧
  t.negative=u.negative∧t.magnitude=u.magnitude

lemma canonicalNumber_eq_iff{token token':List Char}(h:IsNumberToken token)
  (h':IsNumberToken token'):
  canonicalNumber token=canonicalNumber token'↔SameNumber token token':=by
 obtain ⟨t,rfl⟩:=h
 obtain ⟨u,rfl⟩:=h'
 constructor
 · intro heq
   cases ht:t.isInteger with
   | true=>
    rw [canonicalNumber_integer t ht] at heq
    cases hu:u.isInteger with
    | true=>
     rw [canonicalNumber_integer u hu] at heq
     exact .inl heq
    | false=>
     rw [canonicalNumber_text u hu] at heq
     obtain ⟨a,ha,-⟩:=exists_spells_normalText u
     have hint:=isInteger_of_text (heq.trans ha.text_eq.symm)
     rw [ht,ha.decimal] at hint
     exact absurd hint (by decide)
   | false=>
    rw [canonicalNumber_text t ht] at heq
    cases hu:u.isInteger with
    | true=>
     rw [canonicalNumber_integer u hu] at heq
     obtain ⟨a,ha,-⟩:=exists_spells_normalText t
     have hint:=isInteger_of_text (ha.text_eq.trans heq)
     rw [hu,ha.decimal] at hint
     exact absurd hint (by decide)
    | false=>
     rw [canonicalNumber_text u hu,normalText_eq_iff] at heq
     exact .inr ⟨t,u,rfl,rfl,ht,hu,heq.1,heq.2⟩
 · rintro (heq|⟨a,b,ha,hb,hai,hbi,hn,hm⟩)
   · rw [heq]
   · rw [←ha,←hb,canonicalNumber_text a hai,canonicalNumber_text b hbi,normalText_eq_iff]
     exact ⟨hn,hm⟩

lemma isNumberToken_canonicalNumber{token:List Char}(h:IsNumberToken token):
  IsNumberToken (canonicalNumber token):=by
 obtain ⟨t,rfl⟩:=h
 cases ht:t.isInteger with
 | true=>exact ⟨t,(canonicalNumber_integer t ht).symm⟩
 | false=>
  obtain ⟨u,hu,-⟩:=exists_spells_normalText t
  exact ⟨u,by rw [hu.text_eq,canonicalNumber_text t ht]⟩

lemma allNumbers_canonicalize{P Q:List Char→Prop}(hPQ:∀token,P token→Q (canonicalNumber token))
  {v:Value}(hv:AllNumbers P v):AllNumbers Q (canonicalize v):=
 allNumbers_rewriteNumbers sortMembers_perm hPQ hv

lemma map_eq_map_iff{α β:Type}{f:α→β}{R:α→α→Prop}(a b:List α)
  (h:∀v∈a,∀w∈b,(f v=f w↔R v w)):a.map f=b.map f↔List.Forall₂ R a b:=by
 induction a generalizing b with
 | nil=>cases b <;>simp
 | cons v a ih=>
  cases b with
  | nil=>simp
  | cons w b=>
   rw [map_cons,map_cons,List.cons.injEq,forall₂_cons,h v (by simp) w (by simp),
    ih b (fun x hx y hy=>h x (by simp [hx]) y (by simp [hy]))]

lemma canonicalize_eq_iff(v:Value)(w:Value)(hv:v.UniqueKeys)(hw:w.UniqueKeys)
  (hvn:AllNumbers IsNumberToken v)(hwn:AllNumbers IsNumberToken w):
  canonicalize v=canonicalize w↔Same SameNumber v w:=by
 revert w
 revert hv hvn
 apply InductionCases.value (P:=fun v=>v.UniqueKeys→AllNumbers IsNumberToken v →
  ∀w:Value,w.UniqueKeys→AllNumbers IsNumberToken w →
   (canonicalize v=canonicalize w↔Same SameNumber v w))
 constructor
 · intro _ _ w _ _
   cases w <;>simp [canonicalize,rewriteNumbers,Same]
 · intro b _ _ w _ _
   cases w <;>simp [canonicalize,rewriteNumbers,Same]
 · intro token _ hvn w _ hwn
   cases w with
   | number token'=>
    simp only [canonicalize,rewriteNumbers,Same,Value.number.injEq]
    exact canonicalNumber_eq_iff hvn hwn
   | _=>simp [canonicalize,rewriteNumbers,Same]
 · intro s _ _ w _ _
   cases w <;>simp [canonicalize,rewriteNumbers,Same]
 · intro items ih hv hvn w hw hwn
   cases w with
   | array items'=>
    have hu:=(uniqueItems_iff items).mp hv
    have hn:=(allNumbersItems_iff _ items).mp hvn
    have hu':=(uniqueItems_iff items').mp hw
    have hn':=(allNumbersItems_iff _ items').mp hwn
    rw [canonicalize_array,canonicalize_array,Value.array.injEq,Same,sameItems_iff]
    apply map_eq_map_iff
    intro v hmem w hmem'
    exact ih v hmem (hu v hmem) (hn v hmem) w (hu' w hmem') (hn' w hmem')
   | _=>simp [canonicalize,rewriteNumbers,Same]
 · intro members ih hv hvn w hw hwn
   cases w with
   | object members'=>
    have hn:=(allNumbersMembers_iff _ members).mp hvn
    have hn':=(allNumbersMembers_iff _ members').mp hwn
    rw [same_object_iff SameNumber hv.1,canonicalize_object,canonicalize_object,
     Value.object.injEq,sortMembers_eq_iff (nodup_canonicalizeMembers hv.1)
      (nodup_canonicalizeMembers hw.1)]
    apply forall_congr'
    intro k
    rw [lookup_canonicalizeMembers,lookup_canonicalizeMembers]
    cases hk:members.lookup k with
    | none=>cases members'.lookup k <;>simp
    | some v=>
     cases hk':members'.lookup k with
     | none=>simp
     | some v'=>
      have hmem:=mem_of_lookup hk
      have hmem':=mem_of_lookup hk'
      have hiff:=ih (k,v) hmem (hv.2.lookup hk) (hn _ hmem) v' (hw.2.lookup hk') (hn' _ hmem')
      rw [map_some,map_some,Option.some.injEq,hiff,optionRel_some_iff]
   | _=>simp [canonicalize,rewriteNumbers,Same]

/-- A JSON value within the bounds of the canonical domain. -/
structure CanonicalValue where
 value:Value
 unique:value.UniqueKeys
 numbers:AllNumbers IsNumberToken value
 nesting:height value≤ maxCanonicalJsonDepth
 integers:AllNumbers (fun token=>hasDecimalMark token=false →
  (unsignedToken token).length≤ maxCanonicalIntegerDigits) value

lemma integerTooLong_eq_false_iff(token:List Char):
  integerTooLong token=false↔(hasDecimalMark token=false →
   (unsignedToken token).length≤ maxCanonicalIntegerDigits):=by
 unfold integerTooLong
 cases hasDecimalMark token <;>simp

lemma CanonicalValue.validates(v:CanonicalValue):validateCanonicalJson v.value=.ok ():=by
 rw [validateCanonicalJson_ok_iff]
 simp only [integerTooLong_eq_false_iff]
 exact ⟨v.nesting,v.integers⟩

theorem canonical_json_complete_invariant (d : StringDisplay) (v w : CanonicalValue) :
  canonicalJson d v.value=canonicalJson d w.value↔Same SameNumber v.value w.value := by
 rw [canonicalJson_ok d v.validates,canonicalJson_ok d w.validates,Except.ok.injEq,
  ← canonicalize_eq_iff v.value w.value v.unique w.unique v.numbers w.numbers]
 have hv:=allNumbers_canonicalize (fun _=>isNumberToken_canonicalNumber) v.numbers
 have hw:=allNumbers_canonicalize (fun _=>isNumberToken_canonicalNumber) w.numbers
 constructor
 · exact compact_injective d hv hw
 · intro h
   rw [h]

end GraphBlocks.CanonicalJson
