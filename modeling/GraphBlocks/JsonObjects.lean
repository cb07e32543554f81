import GraphBlocks.JsonValue
import Mathlib.Data.List.Sort
import Mathlib.Data.String.Basic

namespace GraphBlocks.Json
open List

def keys (m:Members) : List String := m.map Prod.fst

def hasKey (m:Members) (key:String) : Bool := (m.lookup key).isSome

def removeKey (m:Members) (key:String) : Members := m.filter (fun e=>e.1 != key)

/-- Replaces the value in place, or adds a member at the end. -/
def insertKey (m:Members) (key:String) (v:Value) : Members :=
 if hasKey m key then m.map (fun e=>if e.1=key then (key,v) else e) else m++[(key,v)]

lemma lookup_cons_eq(m:Members)(k j:String)(v:Value):
  ((k,v)::m).lookup j=if j=k then some v else m.lookup j:=by
 rw [lookup_cons]
 by_cases h:j=k
 · simp [h]
 · simp [h,beq_eq_false_iff_ne.mpr h]

variable {m:Members}

lemma mem_keys_of_mem{e:String×Value}(he:e∈m):e.1∈keys m:=mem_map_of_mem he

lemma lookup_eq_none_iff_notMem(m:Members)(k:String):m.lookup k=none↔k∉keys m:=by
 induction m with
 | nil=>simp [keys]
 | cons e m ih=>
  obtain ⟨j,v⟩:=e
  rw [lookup_cons_eq]
  by_cases h:k=j
  · simp [h,keys]
  · simp only [h,if_false,ih]
    simp [keys,h]

lemma hasKey_iff_mem(m:Members)(k:String):hasKey m k=true↔k∈keys m:=by
 have h:=lookup_eq_none_iff_notMem m k
 unfold hasKey
 rw [Option.isSome_iff_ne_none,Ne,h,not_not]

variable {k:String} {v:Value}

lemma mem_of_lookup(h:m.lookup k=some v):(k,v)∈m:=by
 induction m with
 | nil=>simp at h
 | cons e m ih=>
  obtain ⟨j,w⟩:=e
  rw [lookup_cons_eq] at h
  split at h
  · next hk=>
    simp only [Option.some.injEq] at h
    simp [hk,h]
  · exact mem_cons_of_mem _ (ih h)

lemma lookup_eq_some_iff_mem(hm:(keys m).Nodup)(k:String)(v:Value):m.lookup k=some v↔(k,v)∈m:=by
 refine ⟨mem_of_lookup,fun h=>?_⟩
 induction m with
 | nil=>simp at h
 | cons e m ih=>
  obtain ⟨j,w⟩:=e
  simp only [keys,map_cons,nodup_cons] at hm
  rw [lookup_cons_eq]
  rcases mem_cons.mp h with h|h
  · simp only [Prod.mk.injEq] at h
    simp [h.1,h.2]
  · have hne:k≠j:=by
     intro hk
     exact hm.1 (hk▸mem_keys_of_mem h)
    simp only [hne,if_false]
    exact ih hm.2 h

variable {a b:Members}

lemma lookup_perm(hp:a.Perm b)(ha:(keys a).Nodup)(k:String):a.lookup k=b.lookup k:=by
 have hb:(keys b).Nodup:=(hp.map Prod.fst).nodup_iff.mp ha
 apply Option.ext
 intro v
 rw [lookup_eq_some_iff_mem ha,lookup_eq_some_iff_mem hb,hp.mem_iff]

lemma keys_removeKey(m:Members)(key:String):
  keys (removeKey m key)=(keys m).filter (fun k=>k != key):=by
 simp [keys,removeKey,filter_map,Function.comp_def]

lemma nodup_removeKey(hm:(keys m).Nodup)(key:String):(keys (removeKey m key)).Nodup:=by
 rw [keys_removeKey]
 exact hm.filter _

lemma lookup_removeKey(m:Members)(key j:String):
  (removeKey m key).lookup j=if j=key then none else m.lookup j:=by
 induction m with
 | nil=>simp [removeKey]
 | cons e m ih=>
  obtain ⟨k,v⟩:=e
  simp only [removeKey,filter_cons] at ih ⊢
  by_cases hk:k=key
  · subst hk
    simp only [bne_self_eq_false,Bool.false_eq_true,if_false,ih,lookup_cons_eq]
    by_cases hj:j=k <;>simp [hj]
  · simp only [bne_iff_ne,ne_eq,hk,not_false_eq_true,if_true,lookup_cons_eq,ih]
    by_cases hj:j=k
    · simp [hj,hk]
    · simp [hj]

lemma keys_insertKey(m:Members)(key:String)(v:Value):
  keys (insertKey m key v)=if key∈keys m then keys m else keys m++[key]:=by
 unfold insertKey
 simp only [hasKey_iff_mem]
 split
 · simp only [keys,map_map]
   apply map_congr_left
   intro e he
   by_cases h:e.1=key <;>simp [h]
 · simp [keys]

lemma nodup_insertKey(hm:(keys m).Nodup)(key:String)(v:Value):(keys (insertKey m key v)).Nodup:=by
 rw [keys_insertKey]
 split
 · exact hm
 · next h=>exact nodup_append.mpr ⟨hm,by simp,by grind⟩

lemma lookup_replace(m:Members)(key j:String)(v:Value):
  (m.map (fun e=>if e.1=key then (key,v) else e)).lookup j =
   if j=key then (if key∈keys m then some v else none) else m.lookup j:=by
 induction m with
 | nil=>simp [keys]
 | cons e m ih=>
  obtain ⟨k,w⟩:=e
  have hkeys:keys ((k,w)::m)=k::keys m:=rfl
  rw [map_cons,hkeys,lookup_cons_eq]
  by_cases hk:k=key
  · subst hk
    by_cases hj:j=k <;>simp [hj,lookup_cons_eq,ih]
  · have hne:key≠k:=fun h=>hk h.symm
    by_cases hj:j=k
    · simp [hj,hk]
    · rw [if_neg hk,lookup_cons_eq,if_neg hj,ih]
      simp [hj,hne]

lemma lookup_insertKey(m:Members)(key j:String)(v:Value):
  (insertKey m key v).lookup j=if j=key then some v else m.lookup j:=by
 unfold insertKey
 simp only [hasKey_iff_mem]
 split
 · next h=>simp [lookup_replace,h]
 · next h=>
   have hnone:=(lookup_eq_none_iff_notMem m key).mpr h
   rw [lookup_append,lookup_cons_eq]
   by_cases hj:j=key
   · simp [hj,hnone]
   · simp [hj]

lemma insertKey_insertKey(m:Members)(key:String)(v w:Value):
  insertKey (insertKey m key v) key w=insertKey m key w:=by
 have hmem:hasKey (insertKey m key v) key=true:=by
  rw [hasKey,lookup_insertKey,if_pos rfl]
  rfl
 rw [insertKey,if_pos hmem]
 unfold insertKey
 simp only [hasKey_iff_mem]
 split
 · rw [map_map]
   apply map_congr_left
   intro e _
   by_cases h:e.1=key <;>simp [h]
 · next hnot=>
   rw [map_append]
   congr 1
   · conv_rhs=>rw [←map_id m]
     apply map_congr_left
     intro e he
     have hne:e.1≠key:=fun heq=>hnot (heq▸mem_keys_of_mem he)
     simp [hne]
   · simp

mutual

def weight : Value→ℕ
 | .array items=>1+weightItems items
 | .object members=>1+weightMembers members
 | .null | .bool _ | .number _ | .string _=>1

def weightItems : List Value→ℕ
 | []=>0
 | v::items=>weight v+weightItems items

def weightMembers : Members→ℕ
 | []=>0
 | (_,v)::members=>weight v+weightMembers members
end

lemma weight_pos(v:Value):0<weight v:=by cases v <;>simp [weight]

lemma weightMembers_append(a b:Members):weightMembers (a++b)=weightMembers a+weightMembers b:=by
 induction a with
 | nil=>simp [weightMembers]
 | cons e a ih=>simp only [cons_append,weightMembers,ih];omega

lemma weightMembers_perm(h:a.Perm b):weightMembers a=weightMembers b:=by
 induction h with
 | nil=>rfl
 | cons e h ih=>simp [weightMembers,ih]
 | swap e f l=>simp only [weightMembers];omega
 | trans h₁ h₂ ih₁ ih₂=>exact ih₁.trans ih₂

mutual

/-- How deep the value is nested; a container without children counts as a leaf. -/
def height : Value→ℕ
 | .array items=>heightItems items
 | .object members=>heightMembers members
 | .null | .bool _ | .number _ | .string _=>0

def heightItems : List Value→ℕ
 | []=>0
 | v::items=>max (height v+1) (heightItems items)

def heightMembers : Members→ℕ
 | []=>0
 | (_,v)::members=>max (height v+1) (heightMembers members)
end

lemma heightItems_le_iff(items:List Value)(n:ℕ):heightItems items≤n ↔ ∀v∈items,height v+1≤n:=by
 induction items with
 | nil=>simp [heightItems]
 | cons v items ih=>simp [heightItems,ih]

lemma heightMembers_le_iff(members:Members)(n:ℕ):
  heightMembers members≤n ↔ ∀e∈members,height e.2+1≤n:=by
 induction members with
 | nil=>simp [heightMembers]
 | cons e members ih=>simp [heightMembers,ih]

section
variable (P:List Char→Prop)

mutual

/-- Every number token inside the value satisfies `P`. -/
def AllNumbers : Value→Prop
 | .number token=>P token
 | .array items=>AllNumbersItems items
 | .object members=>AllNumbersMembers members
 | .null | .bool _ | .string _=>True

def AllNumbersItems : List Value→Prop
 | []=>True
 | v::items=>AllNumbers v∧AllNumbersItems items

def AllNumbersMembers : Members→Prop
 | []=>True
 | (_,v)::members=>AllNumbers v∧AllNumbersMembers members
end

lemma allNumbersItems_iff(items:List Value):AllNumbersItems P items ↔ ∀v∈items,AllNumbers P v:=by
 induction items with
 | nil=>simp [AllNumbersItems]
 | cons v items ih=>simp [AllNumbersItems,ih]

lemma allNumbersMembers_iff(members:Members):
  AllNumbersMembers P members ↔ ∀e∈members,AllNumbers P e.2:=by
 induction members with
 | nil=>simp [AllNumbersMembers]
 | cons e members ih=>simp [AllNumbersMembers,ih]
end

/-- The cases of an induction over values, with a hypothesis for every item and
every member. -/
structure InductionCases (P:Value→Prop) : Prop where
 null:P .null
 bool:∀b,P (.bool b)
 number:∀token,P (.number token)
 string:∀s,P (.string s)
 array:∀items,(∀v∈items,P v)→P (.array items)
 object:∀members : Members,(∀e∈members,P e.2)→P (.object members)

mutual

variable {P:Value→Prop}

lemma InductionCases.value (h:InductionCases P) : (v:Value)→P v
 | .null=>h.null
 | .bool b=>h.bool b
 | .number token=>h.number token
 | .string s=>h.string s
 | .array items=>h.array items (InductionCases.items h items)
 | .object members=>h.object members (InductionCases.members h members)

lemma InductionCases.items (h:InductionCases P) : (items:List Value)→∀v∈items,P v
 | []=>by simp
 | v::items=>forall_mem_cons.mpr ⟨InductionCases.value h v,InductionCases.items h items⟩

lemma InductionCases.members (h:InductionCases P) :
  (members:Members)→∀e∈members,P e.2
 | []=>by simp
 | (_,v)::members=>forall_mem_cons.mpr ⟨InductionCases.value h v,InductionCases.members h members⟩
end

lemma AllNumbers.map{P Q S:List Char→Prop}(hPQ:∀token,P token→Q token→S token)
  (v:Value):AllNumbers P v→AllNumbers Q v→AllNumbers S v:=by
 apply InductionCases.value (P:=fun v=>AllNumbers P v→AllNumbers Q v→AllNumbers S v)
 constructor
 · exact fun _ _=>trivial
 · exact fun _ _ _=>trivial
 · exact fun token hp hq=>hPQ token hp hq
 · exact fun _ _ _=>trivial
 · intro items ih hp hq
   rw [AllNumbers,allNumbersItems_iff] at hp hq ⊢
   exact fun w hw=>ih w hw (hp w hw) (hq w hw)
 · intro members ih hp hq
   rw [AllNumbers,allNumbersMembers_iff] at hp hq ⊢
   exact fun e he=>ih e he (hp e he) (hq e he)

mutual

def Value.UniqueKeys : Value→Prop
 | .array items=>UniqueItems items
 | .object members=>(keys members).Nodup∧UniqueMembers members
 | .null | .bool _ | .number _ | .string _=>True

def UniqueItems : List Value→Prop
 | []=>True
 | v::items=>v.UniqueKeys∧UniqueItems items

def UniqueMembers : Members→Prop
 | []=>True
 | (_,v)::members=>v.UniqueKeys∧UniqueMembers members
end

lemma uniqueItems_iff(items:List Value):UniqueItems items ↔ ∀v∈items,v.UniqueKeys:=by
 induction items with
 | nil=>simp [UniqueItems]
 | cons v items ih=>simp [UniqueItems,ih]

lemma uniqueMembers_iff(members:Members):UniqueMembers members ↔ ∀e∈members,e.2.UniqueKeys:=by
 induction members with
 | nil=>simp [UniqueMembers]
 | cons e members ih=>simp [UniqueMembers,ih]

lemma UniqueMembers.lookup(h:UniqueMembers m)(hv:m.lookup k=some v):v.UniqueKeys:=
 (uniqueMembers_iff m).mp h _ (mem_of_lookup hv)

lemma uniqueKeys_removeKey(h:(Value.object m).UniqueKeys)(key:String):
  (Value.object (removeKey m key)).UniqueKeys:=by
 refine ⟨nodup_removeKey h.1 key,(uniqueMembers_iff _).mpr fun e he=>?_⟩
 exact (uniqueMembers_iff m).mp h.2 e (mem_of_mem_filter he)

lemma uniqueKeys_insertKey(h:(Value.object m).UniqueKeys)(key:String)(hv:v.UniqueKeys):
  (Value.object (insertKey m key v)).UniqueKeys:=by
 have hm:=nodup_insertKey h.1 key v
 refine ⟨hm,(uniqueMembers_iff _).mpr fun e he=>?_⟩
 have hl:=(lookup_eq_some_iff_mem hm e.1 e.2).mpr he
 rw [lookup_insertKey] at hl
 split at hl
 · simp only [Option.some.injEq] at hl
   rwa [←hl]
 · exact h.2.lookup hl

def sortMembers (m:Members) : Members := m.insertionSort (fun a b=>a.1≤b.1)

lemma sortMembers_perm(m:Members):(sortMembers m).Perm m:=perm_insertionSort _ m

lemma mem_sortMembers(m:Members)(e:String×Value):e∈sortMembers m↔e∈m:=
 (sortMembers_perm m).mem_iff

lemma nodup_sortMembers(h:(keys m).Nodup):(keys (sortMembers m)).Nodup:=
 ((sortMembers_perm m).map Prod.fst).nodup_iff.mpr h

lemma lookup_sortMembers(h:(keys m).Nodup)(k:String):(sortMembers m).lookup k=m.lookup k:=
 lookup_perm (sortMembers_perm m) (nodup_sortMembers h) k

lemma members_nodup(h:(keys m).Nodup):m.Nodup:=List.Nodup.of_map Prod.fst h

lemma sortMembers_eq_iff(ha:(keys a).Nodup)(hb:(keys b).Nodup):
  sortMembers a=sortMembers b ↔ ∀k,a.lookup k=b.lookup k:=by
 constructor
 · intro h k
   rw [←lookup_sortMembers ha,←lookup_sortMembers hb,h]
 · intro h
   have hmem (e:String×Value):e∈a↔e∈b:=by
    rw [←lookup_eq_some_iff_mem ha,←lookup_eq_some_iff_mem hb,h]
   have hp:a.Perm b:=(perm_ext_iff_of_nodup (members_nodup ha) (members_nodup hb)).mpr hmem
   have htotal:Std.Total (fun x y:String×Value=>x.1≤y.1):=⟨fun x y=>le_total x.1 y.1⟩
   have htrans:IsTrans (String×Value) (fun x y=>x.1≤y.1):=⟨fun x y z hxy hyz=>le_trans hxy hyz⟩
   have hsorted (m:Members):(sortMembers m).Pairwise (fun x y=>x.1≤y.1):=pairwise_insertionSort _ m
   have hanti (x y:String×Value) (hx:x∈sortMembers a) (hy:y∈sortMembers b)
     (hxy:x.1≤y.1) (hyx:y.1≤x.1):x=y:=by
    have hkey:x.1=y.1:=le_antisymm hxy hyx
    have hxb:=(lookup_eq_some_iff_mem hb x.1 x.2).mpr
     ((hmem x).mp ((mem_sortMembers a x).mp hx))
    have hyb:=(lookup_eq_some_iff_mem hb y.1 y.2).mpr ((mem_sortMembers b y).mp hy)
    rw [hkey,hyb] at hxb
    exact Prod.ext hkey (Option.some.inj hxb).symm
   exact List.Perm.eq_of_pairwise hanti (hsorted a) (hsorted b)
    (((sortMembers_perm a).trans hp).trans (sortMembers_perm b).symm)

section
variable (f:List Char→List Char) (order:Members→Members)

mutual

/-- Rewrites every number token by `f` and rearranges the members of every object. -/
def rewriteNumbers : Value→Value
 | .null=>.null
 | .bool b=>.bool b
 | .number token=>.number (f token)
 | .string s=>.string s
 | .array items=>.array (rewriteItems items)
 | .object members=>.object (order (rewriteMembers members))

def rewriteItems : List Value→List Value
 | []=>[]
 | v::items=>rewriteNumbers v::rewriteItems items

def rewriteMembers : Members→Members
 | []=>[]
 | (k,v)::members=>(k,rewriteNumbers v)::rewriteMembers members
end

lemma rewriteItems_eq(items:List Value):
  rewriteItems f order items=items.map (rewriteNumbers f order):=by
 induction items with
 | nil=>rfl
 | cons v items ih=>simp [rewriteItems,ih]

lemma rewriteMembers_eq(members:Members):
  rewriteMembers f order members=members.map (fun e=>(e.1,rewriteNumbers f order e.2)):=by
 induction members with
 | nil=>rfl
 | cons e members ih=>simp [rewriteMembers,ih]

lemma keys_rewriteMembers(members:Members):keys (rewriteMembers f order members)=keys members:=by
 rw [rewriteMembers_eq]
 simp [keys]

lemma lookup_rewriteMembers(members:Members)(k:String):
  (rewriteMembers f order members).lookup k=(members.lookup k).map (rewriteNumbers f order):=by
 induction members with
 | nil=>rfl
 | cons e members ih=>
  obtain ⟨j,v⟩:=e
  simp only [rewriteMembers,lookup_cons_eq,ih]
  split <;>rfl

lemma rewriteNumbers_eq_self(hv:AllNumbers (fun token=>f token=token) v):
  rewriteNumbers f id v=v:=by
 revert hv
 apply InductionCases.value
  (P:=fun v=>AllNumbers (fun token=>f token=token) v→ rewriteNumbers f id v=v)
 constructor
 · exact fun _=>rfl
 · exact fun _ _=>rfl
 · exact fun token h=>congrArg Value.number h
 · exact fun _ _=>rfl
 · intro items ih h
   have hitems:=(allNumbersItems_iff _ items).mp h
   rw [rewriteNumbers,rewriteItems_eq]
   apply congrArg Value.array
   conv_rhs=>rw [←map_id items]
   exact map_congr_left (fun w hw=>ih w hw (hitems w hw))
 · intro members ih h
   have hmembers:=(allNumbersMembers_iff _ members).mp h
   rw [rewriteNumbers,rewriteMembers_eq]
   apply congrArg Value.object
   conv_rhs=>rw [←map_id members]
   exact map_congr_left (fun e he=>Prod.ext rfl (ih e he (hmembers e he)))

variable {f order} (horder:∀m,(order m).Perm m)

include horder

lemma allNumbers_rewriteNumbers{P Q:List Char→Prop}(hPQ:∀token,P token→Q (f token))
  (hv:AllNumbers P v):AllNumbers Q (rewriteNumbers f order v):=by
 revert hv
 apply InductionCases.value
  (P:=fun v=>AllNumbers P v→AllNumbers Q (rewriteNumbers f order v))
 constructor
 · exact fun _=>trivial
 · exact fun _ _=>trivial
 · exact fun token h=>hPQ token h
 · exact fun _ _=>trivial
 · intro items ih h
   have hitems:=(allNumbersItems_iff P items).mp h
   rw [rewriteNumbers,rewriteItems_eq]
   apply (allNumbersItems_iff Q _).mpr
   simp only [forall_mem_map]
   exact fun w hw=>ih w hw (hitems w hw)
 · intro members ih h
   have hmembers:=(allNumbersMembers_iff P members).mp h
   rw [rewriteNumbers,rewriteMembers_eq]
   apply (allNumbersMembers_iff Q _).mpr
   simp only [(horder _).mem_iff,forall_mem_map]
   exact fun e he=>ih e he (hmembers e he)

lemma uniqueKeys_rewriteNumbers(hv:v.UniqueKeys):(rewriteNumbers f order v).UniqueKeys:=by
 revert hv
 apply InductionCases.value (P:=fun v=>v.UniqueKeys→(rewriteNumbers f order v).UniqueKeys)
 constructor
 · exact fun h=>h
 · exact fun _ h=>h
 · exact fun _ _=>trivial
 · exact fun _ h=>h
 · intro items ih h
   have hitems:=(uniqueItems_iff items).mp h
   rw [rewriteNumbers,rewriteItems_eq]
   apply (uniqueItems_iff _).mpr
   simp only [forall_mem_map]
   exact fun w hw=>ih w hw (hitems w hw)
 · intro members ih h
   have hmembers:=(uniqueMembers_iff members).mp h.2
   rw [rewriteNumbers]
   constructor
   · apply ((horder _).map Prod.fst).nodup_iff.mpr
     change (keys (rewriteMembers f order members)).Nodup
     rw [keys_rewriteMembers]
     exact h.1
   · apply (uniqueMembers_iff _).mpr
     simp only [(horder _).mem_iff,rewriteMembers_eq,forall_mem_map]
     exact fun e he=>ih e he (hmembers e he)

lemma height_rewriteNumbers(v:Value):height (rewriteNumbers f order v)=height v:=by
 apply InductionCases.value (P:=fun v=>height (rewriteNumbers f order v)=height v)
 constructor
 · rfl
 · exact fun _=>rfl
 · exact fun _=>rfl
 · exact fun _=>rfl
 · intro items ih
   apply eq_of_forall_ge_iff
   intro n
   rw [rewriteNumbers,height,height,heightItems_le_iff,heightItems_le_iff,rewriteItems_eq,
    forall_mem_map]
   exact forall₂_congr (fun w hw=>by rw [ih w hw])
 · intro members ih
   apply eq_of_forall_ge_iff
   intro n
   rw [rewriteNumbers,height,height,heightMembers_le_iff,heightMembers_le_iff]
   simp only [(horder _).mem_iff,rewriteMembers_eq,forall_mem_map]
   exact forall₂_congr (fun e he=>by rw [ih e he])
end

section
variable (R:List Char→List Char→Prop)

mutual

/-- Equality of values regardless of the order of object members, with number
tokens compared by `R`. -/
def Same : Value→Value→Prop
 | .null, .null=>True
 | .bool a, .bool b=>a=b
 | .number a, .number b=>R a b
 | .string a, .string b=>a=b
 | .array a, .array b=>SameItems a b
 | .object a, .object b=>SameMembers a b ∧ ∀k∈keys b,k∈keys a
 | _, _=>False

def SameItems : List Value→List Value→Prop
 | [], []=>True
 | v::a, w::b=>Same v w∧SameItems a b
 | _, _=>False

def SameMembers : Members→Members→Prop
 | [], _=>True
 | (k,v)::a, b=>(∃w,b.lookup k=some w∧Same v w)∧SameMembers a b
end

lemma sameItems_iff(a b:List Value):SameItems R a b↔List.Forall₂ (Same R) a b:=by
 induction a generalizing b with
 | nil=>cases b <;>simp [SameItems]
 | cons v a ih=>cases b <;>simp [SameItems,ih]

lemma sameMembers_iff(a b:Members):SameMembers R a b ↔ ∀e∈a,∃w,b.lookup e.1=some w∧Same R e.2 w:=by
 induction a with
 | nil=>simp [SameMembers]
 | cons e a ih=>
  obtain ⟨k,v⟩:=e
  simp [SameMembers,ih]

lemma same_object_iff(ha:(keys a).Nodup):Same R (.object a) (.object b) ↔
   ∀k,Option.Rel (Same R) (a.lookup k) (b.lookup k):=by
 rw [Same,sameMembers_iff]
 constructor
 · rintro ⟨hmem,hkeys⟩ k
   cases hk:a.lookup k with
   | none=>
    have hb:b.lookup k=none:=by
     rw [lookup_eq_none_iff_notMem] at hk ⊢
     exact fun h=>hk (hkeys k h)
    rw [hb]
    exact .none
   | some v=>
    obtain ⟨w,hw,hs⟩:=hmem _ (mem_of_lookup hk)
    rw [hw]
    exact .some hs
 · intro h
   constructor
   · rintro ⟨k,v⟩ he
     have hk:=h k
     rw [(lookup_eq_some_iff_mem ha k v).mpr he] at hk
     cases hb:b.lookup k with
     | none=>
      rw [hb] at hk
      cases hk
     | some w=>
      rw [hb] at hk
      cases hk with
      | some hs=>exact ⟨w,rfl,hs⟩
   · intro k hk
     by_contra hn
     have hr:=h k
     rw [(lookup_eq_none_iff_notMem a k).mpr hn] at hr
     cases hb:b.lookup k with
     | none=>exact (lookup_eq_none_iff_notMem b k).mp hb hk
     | some w=>
      rw [hb] at hr
      cases hr

variable {R}

lemma optionRel_some_iff{w:Value}:Option.Rel (Same R) (some v) (some w)↔Same R v w:=by
 constructor
 · intro h
   cases h with
   | some hs=>exact hs
 · exact .some

lemma Same.lookup(h:Same R (.object a) (.object b))(hk:a.lookup k=some v):
  ∃w,b.lookup k=some w∧Same R v w:=by
 rw [Same,sameMembers_iff] at h
 exact h.1 _ (mem_of_lookup hk)

mutual

lemma Same.refl (hR:∀t,R t t) : (v:Value)→v.UniqueKeys→Same R v v
 | .null, _=>trivial
 | .bool _, _=>rfl
 | .number t, _=>hR t
 | .string _, _=>rfl
 | .array items, h=>sameItems_refl hR items h
 | .object members, h=>
  ⟨sameMembers_refl hR members members h.2
   (fun e he=>(lookup_eq_some_iff_mem h.1 e.1 e.2).mpr he),fun _ hk=>hk⟩

lemma sameItems_refl (hR:∀t,R t t) : (a:List Value)→UniqueItems a→SameItems R a a
 | [], _=>trivial
 | v::a, h=>⟨Same.refl hR v h.1,sameItems_refl hR a h.2⟩

lemma sameMembers_refl (hR:∀t,R t t) : (a b:Members)→UniqueMembers a →
  (∀e∈a,b.lookup e.1=some e.2)→SameMembers R a b
 | [], _, _, _=>trivial
 | (k,v)::a, b, h, hb=>
  ⟨⟨v,hb (k,v) (by simp),Same.refl hR v h.1⟩,
   sameMembers_refl hR a b h.2 (fun e he=>hb e (mem_cons_of_mem _ he))⟩
end

lemma optionRel_refl(hR:∀t,R t t){o:Option Value}(h:∀v,o=some v→v.UniqueKeys):
  Option.Rel (Same R) o o:=by
 cases o with
 | none=>exact .none
 | some v=>exact .some (Same.refl hR v (h v rfl))

lemma same_insertKey_iff(hR:∀t,R t t)(h:(Value.object m).UniqueKeys)(key:String)(v w:Value):
  Same R (.object (insertKey m key v)) (.object (insertKey m key w))↔Same R v w:=by
 rw [same_object_iff R (nodup_insertKey h.1 key v)]
 simp only [lookup_insertKey]
 constructor
 · intro hall
   have hkey:=hall key
   simp only [if_true] at hkey
   cases hkey with
   | some hs=>exact hs
 · intro hs k
   split
   · exact .some hs
   · exact optionRel_refl hR (fun u hu=>h.2.lookup hu)
end

end GraphBlocks.Json
