import GraphBlocks.CanonicalJson

/-! `serde_json`'s string printer, and a reader that meets the contract of `JsonReader`. -/
namespace GraphBlocks.CanonicalJson

open Json List

def hexDigit (n:ℕ) : Char := Nat.digitChar n

/-- The escape of one character: short forms, `\\u00xx` for other control characters. -/
def escapeChar (c:Char) : List Char :=
 if c = '"' then ['\\','"']
 else if c = '\\' then ['\\','\\']
 else if c = '\x08' then ['\\','b']
 else if c = '\x0c' then ['\\','f']
 else if c = '\n' then ['\\','n']
 else if c = '\r' then ['\\','r']
 else if c = '\t' then ['\\','t']
 else if c.toNat<32 then ['\\','u','0','0',hexDigit (c.toNat/16),hexDigit (c.toNat % 16)]
 else [c]

def unescapeShort (c:Char) : Char :=
 if c = 'b' then '\x08'
 else if c = 'f' then '\x0c'
 else if c = 'n' then '\n'
 else if c = 'r' then '\r'
 else if c = 't' then '\t'
 else c

def hexValue (c:Char) : ℕ := if c.isDigit then c.toNat-48 else c.toNat-87

def unescapeHead : List Char→Option (Char×List Char)
 | []=>none
 | '\\' :: 'u' :: _::_::h::l::r=>some (Char.ofNat (16*hexValue h+hexValue l),r)
 | '\\' :: c::r=>some (unescapeShort c,r)
 | c::r=>some (c,r)

lemma char_of_lt{c:Char}{n:ℕ}(h:c.toNat=n):c=Char.ofNat n:=by rw [←h,Char.ofNat_toNat]

lemma escapeChar_plain{c:Char}(hcontrol:¬c.toNat<32)(hquote:c ≠ '"')
  (hslash:c ≠ '\\'):escapeChar c=[c]:=by
 unfold escapeChar
 rw [if_neg hquote,if_neg hslash]
 repeat rw [if_neg (by rintro rfl;exact hcontrol (by decide))]
 rw [if_neg hcontrol]

lemma unescapeHead_escapeChar(c:Char)(r:List Char):unescapeHead (escapeChar c++r)=some (c,r):=by
 by_cases hcontrol:c.toNat<32
 · obtain ⟨n,hn⟩:∃n,c.toNat=n:=⟨_,rfl⟩
   rw [hn] at hcontrol
   rw [char_of_lt hn]
   interval_cases n <;>rfl
 · by_cases hquote:c = '"'
   · subst hquote
     rfl
   · by_cases hslash:c = '\\'
     · subst hslash
       rfl
     · rw [escapeChar_plain hcontrol hquote hslash,singleton_append]
       simp [unescapeHead,hslash]

lemma literalBody_escapeChar(c:Char){body:List Char}(h:LiteralBody body):
  LiteralBody (escapeChar c++body):=by
 by_cases hcontrol:c.toNat<32
 · obtain ⟨n,hn⟩:∃n,c.toNat=n:=⟨_,rfl⟩
   rw [hn] at hcontrol
   rw [char_of_lt hn]
   have hu (x y:Char) (hx:x ≠ '"' ∧ x ≠ '\\') (hy:y ≠ '"' ∧ y ≠ '\\') :
     LiteralBody ('\\' :: 'u' :: '0' :: '0' :: x::y::body):=
    .escape (.plain (by decide) (by decide) (.plain (by decide) (by decide)
     (.plain hx.1 hx.2 (.plain hy.1 hy.2 h))))
   interval_cases n <;>first | exact .escape h | exact hu _ _ (by decide) (by decide)
 · by_cases hquote:c = '"'
   · subst hquote
     exact .escape h
   · by_cases hslash:c = '\\'
     · subst hslash
       exact .escape h
     · rw [escapeChar_plain hcontrol hquote hslash]
       exact .plain hquote hslash h

def escapeString (s:String) : List Char := s.toList.flatMap escapeChar

lemma escape_injective{a b:List Char}(h:a.flatMap escapeChar=b.flatMap escapeChar):a=b:=by
 induction a generalizing b with
 | nil=>
  cases b with
  | nil=>rfl
  | cons c b=>
   have hc:=unescapeHead_escapeChar c (b.flatMap escapeChar)
   rw [←flatMap_cons,←h] at hc
   simp [unescapeHead] at hc
 | cons c a ih=>
  have hc:=unescapeHead_escapeChar c (a.flatMap escapeChar)
  rw [←flatMap_cons,h] at hc
  cases b with
  | nil=>simp [unescapeHead] at hc
  | cons e b=>
   rw [flatMap_cons,unescapeHead_escapeChar] at hc
   simp only [Option.some.injEq,Prod.mk.injEq] at hc
   rw [hc.1,ih hc.2.symm]

/-- The printer of `Value::String`. -/
def serdeDisplay : StringDisplay where
 display s := '"' :: (escapeString s++['"'])
 injective:=by
  intro s s' h
  simp only [List.cons.injEq,true_and] at h
  exact String.toList_inj.mp (escape_injective (append_cancel_right h))
 literal s:=by
  refine ⟨escapeString s,rfl,?_⟩
  unfold escapeString
  induction s.toList with
  | nil=>exact .nil
  | cons c cs ih=>
   rw [flatMap_cons]
   exact literalBody_escapeChar c ih

def IsDocument (d:StringDisplay) (text:List Char) (v:Value) : Prop :=
 AllNumbers IsNumberToken v∧compact d v=text

open Classical in
noncomputable def compactReader (d:StringDisplay) : JsonReader d where
 read text:=if h : ∃v,IsDocument d text v then .ok h.choose else .error ⟨"expected value",none⟩
 tokens text v h:=by
  split at h
  · next hex=>
    obtain rfl:=Except.ok.inj h
    exact hex.choose_spec.1
  · cases h
 complete v hn _:=by
  have hex : ∃w,IsDocument d (compact d v) w:=⟨v,hn,rfl⟩
  rw [dif_pos hex]
  exact congrArg Except.ok (compact_injective d hex.choose_spec.1 hn hex.choose_spec.2)

end GraphBlocks.CanonicalJson
