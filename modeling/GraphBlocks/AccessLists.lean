import GraphBlocks.SearchHits

/-! An ACL is an arbitrary JSON value, read member by member: `public`, `tenant_id` and four
selectors, of which the first that matches lets the caller in. -/
namespace GraphBlocks.Rag
open Json StoredJson Option

structure AuthContext where
 tenantId:String
 principalId:String
 groups:Finset String
 roles:Finset String
 attributes:StringMap Value

/-- More groups, roles and attributes for the same principal of the same tenant. -/
structure AuthContext.Enlarges (bigger auth:AuthContext) : Prop where
 tenant:bigger.tenantId=auth.tenantId
 principal:bigger.principalId=auth.principalId
 groups:auth.groups ⊆ bigger.groups
 roles:auth.roles ⊆ bigger.roles
 attributes:∀(name:String) (v:Value),auth.attributes[name]?=some v→bigger.attributes[name]?=some v

section
variable (resourceId:String) (acl:Members)

/-- The entries of a selector, up to the first that grants access. -/
def matchEntries (name:String) (granted:String→Bool) : List Value→Except RagError Bool
 | []=>.ok false
 | .string entry::entries=>if granted entry then .ok true else matchEntries name granted entries
 | _::_=>.error (.invalidAcl resourceId (name ++ " entries must be strings"))

/-- A selector of names: `none` when the member is absent. -/
def matchNames (name:String) (granted:String→Bool) : Except RagError (Option Bool) :=
 match acl.lookup name with
 | none=>.ok none
 | some (.array entries)=>some <$> matchEntries resourceId name granted entries
 | some _=>.error (.invalidAcl resourceId (name ++ " must be an array"))

def matchPrincipals (auth:AuthContext) : Except RagError (Option Bool) :=
 matchNames resourceId acl "principals" (· == auth.principalId)

def matchGroups (auth:AuthContext) : Except RagError (Option Bool) :=
 matchNames resourceId acl "groups" (decide <| · ∈ auth.groups)

def matchRoles (auth:AuthContext) : Except RagError (Option Bool) :=
 matchNames resourceId acl "roles" (decide <| · ∈ auth.roles)

def matchAttributes (auth:AuthContext) : Except RagError (Option Bool) :=
 match acl.lookup "attributes" with
 | none=>.ok none
 | some (.object attributes)=>
  .ok (some (!attributes.isEmpty&&attributes.all fun e=>auth.attributes[e.1]?==some e.2))
 | some _=>.error (.invalidAcl resourceId "attributes must be an object")

/-- The selectors in order; `hasSelector` says whether one of them was present. -/
def matchSelectors (hasSelector:Bool) : List (Except RagError (Option Bool))→Except RagError Bool
 | []=>.ok !hasSelector
 | .error e::_=>.error e
 | .ok none::checks=>matchSelectors hasSelector checks
 | .ok (some true)::_=>.ok true
 | .ok (some false)::checks=>matchSelectors true checks

def aclAllows (resourceId:String) (acl:Option Value) (auth:Option AuthContext) :
  Except RagError Bool :=
 match acl with
 | none=>.ok true
 | some .null=>.ok true
 | some (.object acl)=>
  if (acl.lookup "public").bind Value.asBool=some true then .ok true else
  match auth with
  | none=>.error (.authContextRequired resourceId)
  | some auth=>
   if ((acl.lookup "tenant_id").bind asString).any (· != auth.tenantId) then .ok false else
   matchSelectors false [matchPrincipals resourceId acl auth,matchGroups resourceId acl auth,
    matchRoles resourceId acl auth,matchAttributes resourceId acl auth]
 | some _=>.error (.invalidAcl resourceId "ACL must be an object")

/-- The hits a caller may see; the first ACL that cannot be read fails the call. -/
def authorizeSearchHits {σ:Type} (auth:Option AuthContext) :
  List (SearchHit σ)→Except RagError (List (SearchHit σ))
 | []=>.ok []
 | hit::hits=>do
  let allowed ← aclAllows hit.hitId hit.item.acl auth
  let authorized ← authorizeSearchHits auth hits
  return if allowed then hit::authorized else authorized
end

def selectorNames : List String := ["principals","groups","roles","attributes"]

section
variable (acl:Members)

/-- The member, if present, is an array of strings. -/
def ListsNames (name:String) : Prop :=
 ∀v,acl.lookup name=some v → ∃entries : List String,v=.array (entries.map .string)

def Matches (name:String) (granted:String→Prop) : Prop :=
 ∃entries entry,acl.lookup name=some (.array entries) ∧ .string entry∈entries∧granted entry

def MatchesFirst (name:String) (granted:String→Prop) : Prop :=
 ∃(before:List String) (entry:String) (after:List Value),
  acl.lookup name=some (.array (before.map .string++.string entry::after))∧granted entry

/-- The member is a non-empty object of attributes of the caller. -/
def MatchesAttributes (auth:AuthContext) : Prop :=
 ∃attributes,acl.lookup "attributes" = some (.object attributes)∧attributes≠[] ∧
  ∀e∈attributes,auth.attributes[e.1]?=some e.2

def SomeSelectorMatches (auth:AuthContext) : Prop :=
 Matches acl "principals" (· = auth.principalId)∨Matches acl "groups" (· ∈ auth.groups) ∨
 Matches acl "roles" (· ∈ auth.roles)∨MatchesAttributes acl auth

/-- The selectors let the caller in: there is none, or one matches and what
stands before it can be read. -/
def Admitted (auth:AuthContext) : Prop :=
 (∀name∈selectorNames,acl.lookup name=none) ∨
 MatchesFirst acl "principals" (· = auth.principalId) ∨
 (ListsNames acl "principals" ∧ (MatchesFirst acl "groups" (· ∈ auth.groups) ∨
 (ListsNames acl "groups" ∧ (MatchesFirst acl "roles" (· ∈ auth.roles) ∨
 (ListsNames acl "roles" ∧ MatchesAttributes acl auth)))))
end

/-- What an answer `true` has to rest on. -/
def Justified (acl:Option Value) (auth:Option AuthContext) : Prop :=
 acl=none∨acl=some .null ∨ ∃members,acl=some (.object members) ∧
  (members.lookup "public" = some (.bool true) ∨ ∃caller,auth=some caller ∧
   (∀v,members.lookup "tenant_id" = some v→v=.string caller.tenantId) ∧
   ((∀name∈selectorNames,members.lookup name=none)∨SomeSelectorMatches members caller))

structure FailsClosed (acl:Option Value) (auth:Option AuthContext) : Prop where
 justified:∀resourceId,aclAllows resourceId acl auth=.ok true→Justified acl auth
 monotone:∀resourceId caller bigger,auth=some caller→bigger.Enlarges caller →
  aclAllows resourceId acl auth=.ok true→aclAllows resourceId acl (some bigger)=.ok true

/-- A tenant that is no string restricts nobody. -/
def UntypedTenant (acl:Option Value) (auth:Option AuthContext) : Prop :=
 ∃members caller tenant,acl=some (.object members)∧auth=some caller ∧
  members.lookup "public" ≠ some (.bool true)∧members.lookup "tenant_id" = some tenant ∧
  asString tenant=none∧Admitted members caller

lemma matchEntries_true(resourceId name:String)(granted:String→Bool)(entries:List Value):
  matchEntries resourceId name granted entries=.ok true ↔
   ∃(before:List String) (entry:String) (after:List Value),
    entries=before.map .string++.string entry::after∧granted entry=true:=by
 fun_induction matchEntries resourceId name granted entries with
 | case1=>simp
 | case2 entry entries hgranted=>
  simp only [true_iff]
  exact ⟨[],entry,entries,rfl,hgranted⟩
 | case3 entry entries hgranted ih=>
  rw [ih]
  constructor
  · rintro ⟨before,found,after,rfl,h⟩
    exact ⟨entry::before,found,after,rfl,h⟩
  · rintro ⟨before,found,after,heq,h⟩
    cases before with
    | nil=>
     simp only [List.map_nil,List.nil_append,List.cons.injEq,Value.string.injEq] at heq
     rw [←heq.1] at h
     exact absurd h hgranted
    | cons first before=>
     simp only [List.map_cons,List.cons_append,List.cons.injEq] at heq
     exact ⟨before,found,after,heq.2,h⟩
 | case4 v entries hstring=>
  simp only [reduceCtorEq,false_iff]
  rintro ⟨before,found,after,heq,-⟩
  cases before with
  | nil=>exact hstring found (by simp_all)
  | cons first before=>exact hstring first (by simp_all)

lemma matchEntries_reads(resourceId name:String)(granted:String→Bool)(entries:List Value):
  (∃found,matchEntries resourceId name granted entries=.ok found) ↔
   matchEntries resourceId name granted entries=.ok true ∨
    ∃names : List String,entries=names.map .string:=by
 fun_induction matchEntries resourceId name granted entries with
 | case1=>simp
 | case2 entry entries hgranted=>simp
 | case3 entry entries hgranted ih=>
  rw [ih]
  refine or_congr Iff.rfl ⟨?_,?_⟩
  · rintro ⟨names,rfl⟩
    exact ⟨entry::names,rfl⟩
  · rintro ⟨names,h⟩
    cases names with
    | nil=>simp at h
    | cons first names=>exact ⟨names,by simp_all⟩
 | case4 v entries hstring=>
  simp only [reduceCtorEq,exists_false,false_or,false_iff]
  rintro ⟨names,h⟩
  cases names with
  | nil=>simp at h
  | cons first names=>exact hstring first (by simp_all)

section
variable {acl:Members} (resourceId name:String) (granted:String→Bool)

lemma matchNames_none:matchNames resourceId acl name granted=.ok none↔acl.lookup name=none:=by
 unfold matchNames
 split
 · next h=>simp [h]
 · next entries h=>cases matchEntries resourceId name granted entries <;>simp [h]
 · next h=>simp [h]

lemma matchNames_true:matchNames resourceId acl name granted=.ok (some true) ↔
   MatchesFirst acl name (granted · = true):=by
 unfold matchNames MatchesFirst
 split
 · next h=>simp [h]
 · next entries h=>
  have hentries:=matchEntries_true resourceId name granted entries
  simp only [h,Option.some.injEq,Value.array.injEq]
  rw [←hentries]
  cases matchEntries resourceId name granted entries <;>simp
 · next v hv h=>
  simp only [reduceCtorEq,false_iff]
  rintro ⟨before,entry,after,hlookup,-⟩
  exact hv _ (some.inj (h.symm.trans hlookup))

lemma matchNames_reads:(∃found,matchNames resourceId acl name granted=.ok found) ↔
   MatchesFirst acl name (granted · = true)∨ListsNames acl name:=by
 rw [←matchNames_true resourceId name granted]
 unfold matchNames ListsNames
 split
 · next h=>simp [h]
 · next entries h=>
  have hreads:=matchEntries_reads resourceId name granted entries
  simp only [h,Option.some.injEq,forall_eq',Value.array.injEq]
  cases hfound:matchEntries resourceId name granted entries with
  | error e=>simpa [hfound] using hreads
  | ok found=>simpa [hfound] using hreads
 · next v hv h=>
  simp only [reduceCtorEq,exists_false,false_or,false_iff,h,Option.some.injEq,forall_eq']
  rintro ⟨names,rfl⟩
  exact hv _ rfl

lemma matchAttributes_true(auth:AuthContext):
  matchAttributes resourceId acl auth=.ok (some true)↔MatchesAttributes acl auth:=by
 unfold matchAttributes MatchesAttributes
 split
 · next h=>simp [h]
 · next attributes h=>simp [h]
 · next v hv h=>
  simp only [reduceCtorEq,false_iff]
  rintro ⟨attributes,hlookup,-⟩
  exact hv _ (some.inj (h.symm.trans hlookup))

lemma matchAttributes_none(auth:AuthContext):
  matchAttributes resourceId acl auth=.ok none↔acl.lookup "attributes"=none:=by
 unfold matchAttributes
 split
 · next h=>simp only [h]
 · next attributes h=>simp [h]
 · next v hv h=>simp [h]

/-- A check that matches, with readable checks before it. -/
def Grants : List (Except RagError (Option Bool))→Prop
 | []=>False
 | check::checks=>check=.ok (some true)∨(∃found,check=.ok found)∧Grants checks

lemma matchSelectors_true(checks:List (Except RagError (Option Bool)))(hasSelector:Bool):
  matchSelectors hasSelector checks=.ok true ↔
   (hasSelector=false∧∀check∈checks,check=.ok none)∨Grants checks:=by
 induction checks generalizing hasSelector with
 | nil=>simp [matchSelectors,Grants]
 | cons check checks ih=>
  match check with
  | .error e=>simp [matchSelectors,Grants]
  | .ok none=>simp [matchSelectors,Grants,ih]
  | .ok (some true)=>simp [matchSelectors,Grants]
  | .ok (some false)=>simp [matchSelectors,Grants,ih]

lemma selectors_admit(auth:AuthContext):
  matchSelectors false [matchPrincipals resourceId acl auth,matchGroups resourceId acl auth,
   matchRoles resourceId acl auth,matchAttributes resourceId acl auth]=.ok true ↔
    Admitted acl auth:=by
 rw [matchSelectors_true]
 simp only [Grants,matchPrincipals,matchGroups,matchRoles,List.mem_cons,List.not_mem_nil,or_false,
  forall_eq_or_imp,forall_eq,true_and,and_false,matchNames_none,matchAttributes_none,
  matchNames_true,matchNames_reads,matchAttributes_true,beq_iff_eq,decide_eq_true_eq,Admitted,
  selectorNames]
 tauto

lemma Admitted.enlarge{auth bigger:AuthContext}(h:Admitted acl auth)
  (henlarges:bigger.Enlarges auth):Admitted acl bigger:=by
 have hfirst:∀{name:String} {p q:String→Prop},(∀s,p s→q s) →
   MatchesFirst acl name p→MatchesFirst acl name q:=by
  rintro name p q hpq ⟨before,entry,after,hlookup,hp⟩
  exact ⟨before,entry,after,hlookup,hpq entry hp⟩
 have hgroups:=@hfirst "groups" (· ∈ auth.groups) (· ∈ bigger.groups) fun s hs=>henlarges.groups hs
 have hroles:=@hfirst "roles" (· ∈ auth.roles) (· ∈ bigger.roles) fun s hs=>henlarges.roles hs
 have hattributes:MatchesAttributes acl auth→MatchesAttributes acl bigger:=by
  rintro ⟨attributes,hlookup,hne,hall⟩
  exact ⟨attributes,hlookup,hne,fun e he=>henlarges.attributes _ _ (hall e he)⟩
 unfold Admitted at h ⊢
 rw [henlarges.principal]
 tauto

lemma Admitted.matches{auth:AuthContext}(h:Admitted acl auth):
  (∀name∈selectorNames,acl.lookup name=none)∨SomeSelectorMatches acl auth:=by
 have hfirst:∀{name:String} {p:String→Prop},MatchesFirst acl name p→Matches acl name p:=by
  rintro name p ⟨before,entry,after,hlookup,hp⟩
  exact ⟨_,entry,hlookup,by simp,hp⟩
 unfold SomeSelectorMatches
 rcases h with h|h|⟨-,h|⟨-,h|⟨-,h⟩⟩⟩
 · exact .inl h
 · exact .inr (.inl (hfirst h))
 · exact .inr (.inr (.inl (hfirst h)))
 · exact .inr (.inr (.inr (.inl (hfirst h))))
 · exact .inr (.inr (.inr (.inr h)))
end

section
variable {members:Members} {auth:AuthContext} (resourceId:String)

/-- The tenant test of the code: only a text can differ. -/
def TenantAgrees (members:Members) (auth:AuthContext) : Prop :=
 ∀tenant,members.lookup "tenant_id" = some tenant → ∀s,asString tenant=some s→s=auth.tenantId

lemma public_iff:(members.lookup "public").bind Value.asBool=some true ↔
  members.lookup "public"=some (.bool true):=by
 cases members.lookup "public" with
 | none=>simp
 | some v=>cases v <;>simp [Value.asBool]

lemma aclAllows_members:aclAllows resourceId (some (.object members)) (some auth)=.ok true ↔
   members.lookup "public"=some (.bool true)∨TenantAgrees members auth∧Admitted members auth:=by
 simp only [aclAllows,public_iff]
 by_cases hpublic:members.lookup "public"=some (.bool true)
 · simp [hpublic]
 rw [if_neg hpublic]
 by_cases htenant:((members.lookup "tenant_id").bind asString).any (· != auth.tenantId)=true
 · rw [if_pos htenant]
   simp only [Except.ok.injEq,Bool.false_eq_true,hpublic,false_or,false_iff]
   rintro ⟨h,-⟩
   obtain ⟨s,hs,hne⟩:=(Option.any_eq_true _ _).mp htenant
   obtain ⟨tenant,hlookup,hstring⟩:=bind_eq_some_iff.mp hs
   exact absurd (h tenant hlookup s hstring) (by simpa using hne)
 · rw [if_neg htenant, selectors_admit]
   have hagrees:TenantAgrees members auth:=by
    intro tenant hlookup s hstring
    by_contra hne
    exact htenant (by simp [hlookup,hstring,hne])
   simp [hpublic,hagrees]

lemma aclAllows_monotone{acl:Option Value}{bigger:AuthContext}(h:bigger.Enlarges auth)
  (allowed:aclAllows resourceId acl (some auth)=.ok true):
  aclAllows resourceId acl (some bigger)=.ok true:=by
 match acl, allowed with
 | none, _=>rfl
 | some .null, _=>rfl
 | some (.object members), allowed=>
  rw [aclAllows_members] at allowed ⊢
  rcases allowed with hpublic|⟨htenant,hadmitted⟩
  · exact .inl hpublic
  · refine .inr ⟨?_,hadmitted.enlarge h⟩
    intro tenant hlookup s hs
    rw [h.tenant]
    exact htenant tenant hlookup s hs

lemma justified_or_untyped{acl:Option Value}{auth:Option AuthContext}
  (allowed:aclAllows resourceId acl auth=.ok true)(typed:¬UntypedTenant acl auth):
  Justified acl auth:=by
 match acl, auth, allowed with
 | none, _, _=>exact .inl rfl
 | some .null, _, _=>exact .inr (.inl rfl)
 | some (.object members), none, allowed=>
  have hpublic:members.lookup "public"=some (.bool true):=by
   by_contra h
   simp [aclAllows,public_iff,h] at allowed
  exact .inr (.inr ⟨members,rfl,.inl hpublic⟩)
 | some (.object members), some caller, allowed=>
  refine .inr (.inr ⟨members,rfl,?_⟩)
  by_cases hpublic:members.lookup "public"=some (.bool true)
  · exact .inl hpublic
  · obtain ⟨htenant,hadmitted⟩:=((aclAllows_members resourceId).mp allowed).resolve_left hpublic
    refine .inr ⟨caller,rfl,?_,hadmitted.matches⟩
    intro tenant hlookup
    cases hstring:asString tenant with
    | none=>exact absurd ⟨members,caller,tenant,rfl,rfl,hpublic,hlookup,hstring,hadmitted⟩ typed
    | some s=>
     have htext:tenant=.string s:=by cases tenant <;>simp_all [asString]
     rw [htext,htenant tenant hlookup s hstring]
end

theorem acl_fails_closed_iff (acl : Option Value) (auth : Option AuthContext) :
  FailsClosed acl auth↔¬UntypedTenant acl auth := by
 constructor
 · rintro closed ⟨members,caller,tenant,rfl,rfl,hpublic,hlookup,hstring,hadmitted⟩
   have hagrees:TenantAgrees members caller:=by
    intro other hother s hs
    have hsame:tenant=other:=some.inj (hlookup.symm.trans hother)
    rw [←hsame,hstring] at hs
    cases hs
   have hallowed:=(aclAllows_members "").mpr (.inr ⟨hagrees,hadmitted⟩)
   rcases closed.justified "" hallowed with h | h | ⟨_,h,hjustified⟩
   · cases h
   · cases h
   obtain rfl:members=_:=Value.object.inj (some.inj h)
   rcases hjustified with h|⟨_,_,htenant,-⟩
   · exact hpublic h
   · rw [htenant tenant hlookup] at hstring
     cases hstring
 · intro typed
   constructor
   · exact fun resourceId allowed=>justified_or_untyped resourceId allowed typed
   · rintro resourceId caller bigger rfl henlarges allowed
     exact aclAllows_monotone resourceId henlarges allowed

/-- A caller of another tenant reads an item whose `tenant_id` is the number 7. -/
theorem numbered_tenant_admitted : ¬ ∀(acl:Option Value) (auth:Option AuthContext),
  FailsClosed acl auth := by
 intro closed
 have caller:AuthContext:=⟨"acme","ada",∅,∅,∅⟩
 have hallowed:aclAllows "hit" (some (.object [("tenant_id",.number ['7'])])) (some caller) =
   .ok true:=rfl
 rcases (closed _ _).justified "hit" hallowed with h | h | ⟨members,h,hjustified⟩
 · cases h
 · cases h
 obtain rfl:=Value.object.inj (some.inj h)
 rcases hjustified with h|⟨_,-,htenant,-⟩
 · cases h
 · cases htenant (.number ['7']) rfl

end GraphBlocks.Rag
