import GraphBlocks.JsonObjects
import GraphBlocks.JsonNumber

namespace GraphBlocks.Json

open DigitStrings JsonNumber List Option

/-- The characters between the quotes: a quote only occurs behind a backslash. -/
inductive LiteralBody : List Char→Prop
 | nil : LiteralBody []
 | plain {c:Char} {cs:List Char} : c ≠ '"' → c ≠ '\\' → LiteralBody cs→LiteralBody (c::cs)
 | escape {c:Char} {cs:List Char} : LiteralBody cs→LiteralBody ('\\' :: c::cs)

structure StringDisplay where
 display:String→List Char
 injective:Function.Injective display
 literal:∀s,∃body,display s = '"' :: (body++['"'])∧LiteralBody body

lemma LiteralBody.append_quote_inj{a b r r':List Char}(ha:LiteralBody a)
  (hb:LiteralBody b)(h:a ++ '"' :: r=b ++ '"' :: r'):a=b∧r=r':=by
 induction ha generalizing b with
 | nil=>
  cases hb with
  | nil=>simpa using h
  | plain hq hs hb=>simp [Ne.symm hq] at h
  | escape hb=>simp at h
 | plain hq hs ha ih=>
  cases hb with
  | nil=>simp [hq] at h
  | plain hq' hs' hb=>
   simp only [cons_append,List.cons.injEq] at h
   obtain ⟨rfl,h⟩:=h
   obtain ⟨rfl,rfl⟩:=ih hb h
   exact ⟨rfl,rfl⟩
  | escape hb=>simp [hs] at h
 | escape ha ih=>
  cases hb with
  | nil=>simp at h
  | plain hq' hs' hb=>simp [Ne.symm hs'] at h
  | escape hb=>
   simp only [cons_append,List.cons.injEq,true_and] at h
   obtain ⟨rfl,h⟩:=h
   obtain ⟨rfl,rfl⟩:=ih hb h
   exact ⟨rfl,rfl⟩

variable {r r':List Char}

lemma display_append_inj(d:StringDisplay){s s':String}
  (h:d.display s++r=d.display s'++r'):s=s'∧r=r':=by
 obtain ⟨body,hs,hb⟩:=d.literal s
 obtain ⟨body',hs',hb'⟩:=d.literal s'
 rw [hs,hs'] at h
 simp only [cons_append,append_assoc,nil_append,List.cons.injEq,true_and] at h
 obtain ⟨rfl,rfl⟩:=hb.append_quote_inj hb' h
 exact ⟨d.injective (hs.trans hs'.symm),rfl⟩

section
variable (d:StringDisplay)

mutual

def compact : Value→List Char
 | .null=>['n','u','l','l']
 | .bool true=>['t','r','u','e']
 | .bool false=>['f','a','l','s','e']
 | .number token=>token
 | .string s=>d.display s
 | .array items => '[' :: (compactItems items++[']'])
 | .object members => '{' :: (compactMembers members++['}'])

def compactItems : List Value→List Char
 | []=>[]
 | v::items=>compact v++compactItemsTail items

def compactItemsTail : List Value→List Char
 | []=>[]
 | v::items => ',' :: (compact v++compactItemsTail items)

def compactMembers : Members→List Char
 | []=>[]
 | (k,v)::members=>d.display k ++ ':' :: (compact v++compactMembersTail members)

def compactMembersTail : Members→List Char
 | []=>[]
 | (k,v)::members => ',' :: (d.display k ++ ':' :: (compact v++compactMembersTail members))
end

end

def isNumberChar (c:Char) : Bool :=
 c.isDigit||c == '-' || c == '+' || c == '.' || c == 'e' || c == 'E'

/-- What follows a value does not continue a number. -/
def Stops (r:List Char) : Prop := ∀c,r.head?=some c→isNumberChar c=false

def IsNumberToken (token:List Char) : Prop := ∃t : NumberToken,t.text=token

lemma isNumberChar_of_isDigits{cs:List Char}(h:IsDigits cs)(c:Char)(hc:c∈cs):
  isNumberChar c=true:=by
 simp [isNumberChar,h c hc]

lemma isNumberChar_text(t:NumberToken)(c:Char)(hc:c∈t.text):isNumberChar c=true:=by
 unfold NumberToken.text NumberToken.unsignedText NumberToken.mantissaText at hc
 simp only [mem_append] at hc
 rcases hc with hc|(hc|hc)|hc
 · cases h:t.negative with
   | false=>simp [h] at hc
   | true=>
    have hminus:c = '-' := by simpa [h] using hc
    simp [hminus,isNumberChar]
 · exact isNumberChar_of_isDigits t.whole_ok.digits c hc
 · cases h:t.fraction with
   | none=>simp [h] at hc
   | some f=>
    simp only [h,elim_some,mem_cons] at hc
    rcases hc with rfl|hc
    · rfl
    · exact isNumberChar_of_isDigits f.digits_ok c hc
 · cases h:t.exponent with
   | none=>simp [h] at hc
   | some e=>
    simp only [h,elim_some,mem_cons,NumberToken.exponentText,mem_append] at hc
    rcases hc with rfl|hc|hc
    · cases hu:e.upper <;>simp [NumberToken.exponentMark,hu,isNumberChar]
    · cases hs:e.sign with
      | none=>simp [hs,ExponentSign.text] at hc
      | plus=>
       have hplus:c = '+' := by simpa [hs,ExponentSign.text] using hc
       simp [hplus,isNumberChar]
      | minus=>
       have hminus:c = '-' := by simpa [hs,ExponentSign.text] using hc
       simp [hminus,isNumberChar]
    · exact isNumberChar_of_isDigits e.digits_ok c hc

lemma takeWhile_number{t:List Char}(ht:∀c∈t,isNumberChar c=true)(hr:Stops r):
  (t++r).takeWhile isNumberChar=t:=by
 rw [takeWhile_append_of_pos ht]
 cases r with
 | nil=>simp
 | cons c r=>
  have hc:isNumberChar c=false:=hr c rfl
  simp [hc]

lemma number_append_inj{t u:List Char}(ht:IsNumberToken t)(hu:IsNumberToken u)
  (hr:Stops r)(hr':Stops r')(h:t++r=u++r'):t=u∧r=r':=by
 obtain ⟨a,rfl⟩:=ht
 obtain ⟨b,rfl⟩:=hu
 have heq:a.text=b.text:=by
  rw [←takeWhile_number (isNumberChar_text a) hr,h,takeWhile_number (isNumberChar_text b) hr']
 refine ⟨heq,?_⟩
 rw [heq] at h
 exact append_cancel_left h

inductive Kind where
 | null
 | bool
 | number
 | string
 | array
 | object

def Value.kind : Value→Kind
 | .null=>.null
 | .bool _=>.bool
 | .number _=>.number
 | .string _=>.string
 | .array _=>.array
 | .object _=>.object

/-- The kind of the value that starts with the character. -/
def kindOf (c:Char) : Option Kind :=
 if c.isDigit∨c = '-' then some .number
 else if c = 'n' then some .null
 else if c = 't' ∨ c = 'f' then some .bool
 else if c = '"' then some .string
 else if c = '[' then some .array
 else if c = '{' then some .object
 else none

lemma text_head(t:NumberToken):∃c cs,t.text=c::cs∧kindOf c=some .number:=by
 obtain ⟨c,cs,hw⟩:=exists_cons_of_ne_nil t.whole_ok.nonempty
 have hc:c.isDigit=true:=t.whole_ok.digits c (by simp [hw])
 unfold NumberToken.text NumberToken.unsignedText NumberToken.mantissaText
 cases t.negative with
 | true=>exact ⟨'-',_,rfl,rfl⟩
 | false=>
  rw [hw]
  exact ⟨c,_,rfl,by simp [kindOf,hc]⟩

section
variable (d:StringDisplay)

lemma compact_head{v:Value}(hv:AllNumbers IsNumberToken v):
  ∃c cs,compact d v=c::cs∧kindOf c=some v.kind:=by
 cases v with
 | null=>exact ⟨'n',_,rfl,rfl⟩
 | bool b=>
  cases b with
  | true=>exact ⟨'t',_,rfl,rfl⟩
  | false=>exact ⟨'f',_,rfl,rfl⟩
 | number token=>
  obtain ⟨t,rfl⟩:IsNumberToken token:=hv
  exact text_head t
 | string s=>
  obtain ⟨body,hs,-⟩:=d.literal s
  exact ⟨'"',_,hs,rfl⟩
 | array items=>exact ⟨'[',_,rfl,rfl⟩
 | object members=>exact ⟨'{',_,rfl,rfl⟩

lemma kind_eq{v w:Value}(hv:AllNumbers IsNumberToken v)(hw:AllNumbers IsNumberToken w)
  (h:compact d v++r=compact d w++r'):v.kind=w.kind:=by
 obtain ⟨c,cs,hc,hk⟩:=compact_head d hv
 obtain ⟨c',cs',hc',hk'⟩:=compact_head d hw
 rw [hc,hc',cons_append,cons_append,List.cons.injEq] at h
 rw [h.1,hk'] at hk
 exact (some.inj hk).symm

/-- A value can be read back from a text that begins with it. -/
def Readable (v:Value) : Prop :=
 ∀(w:Value) (r r':List Char),AllNumbers IsNumberToken v→AllNumbers IsNumberToken w →
  Stops r→Stops r' → compact d v++r=compact d w++r'→v=w∧r=r'

lemma stops_itemsTail(items:List Value)(r:List Char):
  Stops (compactItemsTail d items ++ ']' :: r):=by
 intro c hc
 cases items with
 | nil=>
  obtain rfl : ']' = c:=by simpa [compactItemsTail] using hc
  rfl
 | cons v items=>
  obtain rfl : ',' = c:=by simpa [compactItemsTail] using hc
  rfl

lemma stops_membersTail(members:Members)(r:List Char):
  Stops (compactMembersTail d members ++ '}' :: r):=by
 intro c hc
 cases members with
 | nil=>
  obtain rfl : '}' = c:=by simpa [compactMembersTail] using hc
  rfl
 | cons e members=>
  obtain rfl : ',' = c:=by simpa [compactMembersTail] using hc
  rfl

lemma itemsTail_inj{a b:List Value}(ha:AllNumbersItems IsNumberToken a)
  (hb:AllNumbersItems IsNumberToken b)(hread:∀v∈a,Readable d v)
  (h:compactItemsTail d a ++ ']' :: r=compactItemsTail d b ++ ']' :: r'):
  a=b∧r=r':=by
 induction a generalizing b with
 | nil=>
  cases b with
  | nil=>simpa [compactItemsTail] using h
  | cons w b=>simp [compactItemsTail] at h
 | cons v a ih=>
  cases b with
  | nil=>simp [compactItemsTail] at h
  | cons w b=>
   simp only [compactItemsTail,cons_append,append_assoc,List.cons.injEq,true_and] at h
   obtain ⟨hvw,hrest⟩:=hread v (by simp) w _ _ ha.1 hb.1 (stops_itemsTail d a r)
    (stops_itemsTail d b r') h
   obtain ⟨hab,hr⟩:=ih ha.2 hb.2 (fun u hu=>hread u (by simp [hu])) hrest
   exact ⟨by rw [hvw,hab],hr⟩

lemma items_inj{a b:List Value}(ha:AllNumbersItems IsNumberToken a)
  (hb:AllNumbersItems IsNumberToken b)(hread:∀v∈a,Readable d v)
  (h:compactItems d a ++ ']' :: r=compactItems d b ++ ']' :: r'):a=b∧r=r':=by
 have hclose (v:Value) (rest s:List Char) (hv:AllNumbers IsNumberToken v) :
   ']' :: s≠compact d v++rest:=by
  obtain ⟨c,cs,hc,hk⟩:=compact_head d hv
  rw [hc]
  intro heq
  have hcc : ']' = c:=by simpa using (List.cons.inj heq).1
  rw [←hcc] at hk
  simp [kindOf] at hk
 cases a with
 | nil=>
  cases b with
  | nil=>simpa [compactItems] using h
  | cons w b=>
   simp only [compactItems,nil_append,append_assoc] at h
   exact absurd h (hclose w _ _ hb.1)
 | cons v a=>
  cases b with
  | nil=>
   simp only [compactItems,nil_append,append_assoc] at h
   exact absurd h.symm (hclose v _ _ ha.1)
  | cons w b=>
   simp only [compactItems,append_assoc] at h
   obtain ⟨hvw,hrest⟩:=hread v (by simp) w _ _ ha.1 hb.1 (stops_itemsTail d a r)
    (stops_itemsTail d b r') h
   obtain ⟨hab,hr⟩:=itemsTail_inj d ha.2 hb.2 (fun u hu=>hread u (by simp [hu])) hrest
   exact ⟨by rw [hvw,hab],hr⟩

lemma membersTail_inj{a b:Members}
  (ha:AllNumbersMembers IsNumberToken a)(hb:AllNumbersMembers IsNumberToken b)
  (hread:∀e∈a,Readable d e.2)
  (h:compactMembersTail d a ++ '}' :: r=compactMembersTail d b ++ '}' :: r'):
  a=b∧r=r':=by
 induction a generalizing b with
 | nil=>
  cases b with
  | nil=>simpa [compactMembersTail] using h
  | cons w b=>simp [compactMembersTail] at h
 | cons e a ih=>
  obtain ⟨k,v⟩:=e
  cases b with
  | nil=>simp [compactMembersTail] at h
  | cons f b=>
   obtain ⟨j,w⟩:=f
   simp only [compactMembersTail,cons_append,append_assoc,List.cons.injEq,true_and] at h
   obtain ⟨hk,hvalue⟩:=display_append_inj d h
   obtain ⟨hvw,hrest⟩:=hread (k,v) (by simp) w _ _ ha.1 hb.1 (stops_membersTail d a r)
    (stops_membersTail d b r') (List.cons.inj hvalue).2
   obtain ⟨hab,hr⟩:=ih ha.2 hb.2 (fun u hu=>hread u (by simp [hu])) hrest
   exact ⟨by rw [hk,hab,←hvw],hr⟩

lemma members_inj{a b:Members}
  (ha:AllNumbersMembers IsNumberToken a)(hb:AllNumbersMembers IsNumberToken b)
  (hread:∀e∈a,Readable d e.2)
  (h:compactMembers d a ++ '}' :: r=compactMembers d b ++ '}' :: r'):
  a=b∧r=r':=by
 have hclose (k:String) (rest s:List Char) : '}' :: s≠d.display k++rest:=by
  obtain ⟨body,hs,-⟩:=d.literal k
  rw [hs]
  simp
 cases a with
 | nil=>
  cases b with
  | nil=>simpa [compactMembers] using h
  | cons f b=>
   simp only [compactMembers,nil_append,append_assoc] at h
   exact absurd h (hclose _ _ _)
 | cons e a=>
  obtain ⟨k,v⟩:=e
  cases b with
  | nil=>
   simp only [compactMembers,nil_append,append_assoc] at h
   exact absurd h.symm (hclose _ _ _)
  | cons f b=>
   obtain ⟨j,w⟩:=f
   simp only [compactMembers,append_assoc,cons_append] at h
   obtain ⟨hk,hvalue⟩:=display_append_inj d h
   obtain ⟨hvw,hrest⟩:=hread (k,v) (by simp) w _ _ ha.1 hb.1 (stops_membersTail d a r)
    (stops_membersTail d b r') (List.cons.inj hvalue).2
   obtain ⟨hab,hr⟩:=membersTail_inj d ha.2 hb.2 (fun u hu=>hread u (by simp [hu])) hrest
   exact ⟨by rw [hk,hab,←hvw],hr⟩

lemma readable(v:Value):Readable d v:=by
 apply InductionCases.value (P:=Readable d)
 constructor
 · intro w r r' hv hw hr hr' h
   have hk:=kind_eq d hv hw h
   cases w <;>simp only [Value.kind,reduceCtorEq] at hk
   simpa [compact] using h
 · intro b w r r' hv hw hr hr' h
   have hk:=kind_eq d hv hw h
   cases w <;>simp only [Value.kind,reduceCtorEq] at hk
   next c=>cases b <;>cases c <;>simp [compact] at h ⊢ <;>exact h
 · intro token w r r' hv hw hr hr' h
   have hk:=kind_eq d hv hw h
   cases w <;>simp only [Value.kind,reduceCtorEq] at hk
   next token'=>
    obtain ⟨rfl,rfl⟩:=number_append_inj hv hw hr hr' h
    exact ⟨rfl,rfl⟩
 · intro s w r r' hv hw hr hr' h
   have hk:=kind_eq d hv hw h
   cases w <;>simp only [Value.kind,reduceCtorEq] at hk
   next s'=>
    obtain ⟨rfl,rfl⟩:=display_append_inj d h
    exact ⟨rfl,rfl⟩
 · intro items ih w r r' hv hw hr hr' h
   have hk:=kind_eq d hv hw h
   cases w <;>simp only [Value.kind,reduceCtorEq] at hk
   next items'=>
    simp only [compact,cons_append,append_assoc,nil_append,List.cons.injEq,true_and] at h
    obtain ⟨rfl,rfl⟩:=items_inj d hv hw ih h
    exact ⟨rfl,rfl⟩
 · intro members ih w r r' hv hw hr hr' h
   have hk:=kind_eq d hv hw h
   cases w <;>simp only [Value.kind,reduceCtorEq] at hk
   next members'=>
    simp only [compact,cons_append,append_assoc,nil_append,List.cons.injEq,true_and] at h
    obtain ⟨rfl,rfl⟩:=members_inj d hv hw ih h
    exact ⟨rfl,rfl⟩

lemma compact_injective{v w:Value}(hv:AllNumbers IsNumberToken v)
  (hw:AllNumbers IsNumberToken w)(h:compact d v=compact d w):v=w:=by
 have hstop:Stops []:=by simp [Stops]
 exact (readable d v w [] [] hv hw hstop hstop (by simpa using h)).1
end

end GraphBlocks.Json
