import GraphBlocks.DigitStrings
import Mathlib.Data.List.Perm.Basic
import Mathlib.Data.Int.Order.Basic

/-! The parts of `core`, `alloc` and `std` that the modelled crates call: text trimming, decimal
formatting, wall-clock instants, checked `u64` counters and `VecDeque` rotation. -/
namespace GraphBlocks.RustStd
open List

/-- `char::is_whitespace`: the Unicode `White_Space` property. -/
def isWhitespace (c:Char) : Bool :=
 let n:=c.toNat
 (9≤n&&n≤13)||n==0x20||n==0x85||n==0xA0||n==0x1680 ||
  (0x2000≤n&&n≤0x200A)||n==0x2028||n==0x2029||n==0x202F ||
  n==0x205F||n==0x3000

def trimChars (cs:List Char) : List Char :=
 ((cs.dropWhile isWhitespace).reverse.dropWhile isWhitespace).reverse

def trim (s:String) : String := String.ofList (trimChars s.toList)

/-- `value.trim().is_empty()`. -/
def isBlank (s:String) : Bool := trim s == ""

lemma mem_dropWhile_of_false{α:Type}{p:α→Bool}{a:α}{l:List α}(ha:a∈l)
  (hp:p a=false):a∈l.dropWhile p:=by
 induction l with
 | nil=>exact ha
 | cons b l ih=>
  rw [dropWhile_cons]
  split
  · next hb=>
    rcases mem_cons.mp ha with rfl|h
    · simp [hp] at hb
    · exact ih h
  · exact ha

lemma isBlank_eq_false_of_mem(s:String)(c:Char)(hc:c∈s.toList)
  (hw:isWhitespace c=false):isBlank s=false:=by
 have hmem:c∈trimChars s.toList:=by
  unfold trimChars
  rw [mem_reverse]
  apply mem_dropWhile_of_false _ hw
  rw [mem_reverse]
  exact mem_dropWhile_of_false hc hw
 have hne:trim s≠"" := by
  intro h
  have ht:=congrArg String.toList h
  simp only [trim,String.toList_ofList,String.toList_empty] at ht
  rw [ht] at hmem
  simp at hmem
 simpa [isBlank] using hne

lemma dropWhile_eq_self{α:Type}{p:α→Bool}{l:List α}
  (h:∀a,l.head?=some a→p a=false):l.dropWhile p=l:=by
 cases l with
 | nil=>rfl
 | cons a l=>rw [dropWhile_cons_of_neg (by simp [h a rfl])]

lemma head?_dropWhile{α:Type}{p:α→Bool}{l:List α}{a:α}
  (h:(l.dropWhile p).head?=some a):p a=false:=by
 have hne:=List.head?_dropWhile_not p l
 rw [h] at hne
 simpa using hne

/-- The characters left when those that satisfy `p` are dropped at both ends. -/
def trimmed (p:Char→Bool) (cs:List Char) : List Char :=
 ((cs.dropWhile p).reverse.dropWhile p).reverse

variable {p:Char→Bool} {cs:List Char}

lemma trimmed_eq_self(hfirst:∀c,cs.head?=some c→p c=false)
  (hlast:∀c,cs.getLast?=some c→p c=false):trimmed p cs=cs:=by
 have hback:cs.reverse.dropWhile p=cs.reverse:=by
  apply dropWhile_eq_self
  intro c hc
  exact hlast c (by simpa using hc)
 rw [trimmed,dropWhile_eq_self hfirst,hback,reverse_reverse]

variable {c:Char}

lemma trimmed_head(h:(trimmed p cs).head?=some c):p c=false:=by
 have hdrop:(cs.dropWhile p).head?=some c:=by
  obtain ⟨rest,hrest⟩:= reverse_prefix.mpr
   (dropWhile_suffix (p:=p) (l:=(cs.dropWhile p).reverse))
  rw [reverse_reverse] at hrest
  rw [←hrest,List.head?_append]
  unfold trimmed at h
  rw [h]
  rfl
 exact head?_dropWhile hdrop

lemma trimmed_last(h:(trimmed p cs).getLast?=some c):p c=false:=by
 rw [trimmed,List.getLast?_reverse] at h
 exact head?_dropWhile h

lemma trimChars_eq_trimmed(cs:List Char):trimChars cs=trimmed isWhitespace cs:=rfl

lemma trim_trim(s:String):trim (trim s)=trim s:=by
 unfold trim
 rw [String.toList_ofList,trimChars_eq_trimmed,trimChars_eq_trimmed,
  trimmed_eq_self (fun c=>trimmed_head) (fun c=>trimmed_last)]

variable {s:String}

lemma ofList_trimmed_append {t : String} (hs : s ≠ "")
  (hfirst : String.ofList (trimmed p s.toList) = s) (ht : t ≠ "")
  (hlast : ∀ c, t.toList.getLast? = some c → p c = false) :
  String.ofList (trimmed p (s ++ t).toList) = s ++ t := by
 have hschars : trimmed p s.toList = s.toList := by
  rw [← String.toList_ofList (l := trimmed p s.toList)]
  exact congrArg String.toList hfirst
 have hsne : s.toList ≠ [] := fun h => hs (String.toList_inj.mp (by simpa using h))
 have htne : t.toList ≠ [] := fun h => ht (String.toList_inj.mp (by simpa using h))
 rw [String.toList_append, trimmed_eq_self, ← String.toList_append, String.ofList_toList]
 · intro c hc
   rw [List.head?_append_of_ne_nil _ hsne, ← hschars] at hc
   exact trimmed_head hc
 · intro c hc
   rw [List.getLast?_append_of_ne_nil _ htne] at hc
   exact hlast c hc

lemma trim_append {t : String} (hs : s ≠ "") (hfirst : trim s = s) (ht : t ≠ "")
  (hlast : ∀ c, t.toList.getLast? = some c → isWhitespace c = false) : trim (s ++ t) = s ++ t :=
 ofList_trimmed_append hs hfirst ht hlast

lemma isWhitespace_of_isDigit(h:c.isDigit=true):isWhitespace c=false:=by
 have hlow:48≤c.toNat∧c.toNat≤57:=by
  simp only [Char.isDigit,Bool.and_eq_true,decide_eq_true_eq] at h
  exact ⟨h.1,h.2⟩
 simp only [isWhitespace,Bool.or_eq_false_iff,Bool.and_eq_false_iff,decide_eq_false_iff_not,
  beq_eq_false_iff_ne]
 omega

variable {ε β:Type}

lemma bind_ok{α:Type}{x:Except ε α}{f:α→Except ε β}{b:β}:(x >>= f)=.ok b ↔ ∃a,x=.ok a∧f a=.ok b:=by
 cases x with
 | error e=>
  change Except.error e=.ok b ↔ _
  simp
 | ok a=>
  change f a=.ok b ↔ _
  simp

lemma ok_bind{α:Type}(a:α)(f:α→Except ε β):(Except.ok a:Except ε α) >>= f=f a:=rfl

lemma error_bind{α:Type}(e:ε)(f:α→Except ε β):(Except.error e:Except ε α) >>= f=.error e:=rfl

lemma except_map_ok{α:Type}{x:Except ε α}{f:α→β}{b:β}:x.map f=.ok b ↔ ∃a,x=.ok a∧f a=b:=by
 cases x <;>simp [Except.map]

/-- `if !condition { return Err(error); }`. -/
def ensure {ε:Type} (condition:Bool) (error:ε) : Except ε Unit :=
 if condition then .ok () else .error error

lemma ensure_ok{condition:Bool}{error:ε}{u:Unit}:ensure condition error=.ok u↔condition=true:=by
 cases condition <;>simp [ensure]

/-- A loop that collects results and stops at the first error. -/
def collect {ε α β:Type} (f:α→Except ε β) : List α→Except ε (List β)
 | []=>.ok []
 | a::l=>do
  let b ← f a
  let bs ← collect f l
  return b::bs

variable {bs:List β}

lemma collect_ok{α:Type}{f:α→Except ε β}{l:List α}:
  collect f l=.ok bs↔List.Forall₂ (fun a b=>f a=.ok b) l bs:=by
 induction l generalizing bs with
 | nil=>
  simp only [collect,Except.ok.injEq,forall₂_nil_left_iff]
  exact eq_comm
 | cons a l ih=>
  simp only [collect,bind_ok,forall₂_cons_left_iff,ih]
  constructor
  · rintro ⟨b,hb,bs',hbs,h⟩
    cases h
    exact ⟨b,bs',hb,hbs,rfl⟩
  · rintro ⟨b,bs',hb,hbs,rfl⟩
    exact ⟨b,hb,bs',hbs,rfl⟩

lemma collect_map{α:Type}{f:α→Except ε β}{g:α→β}{l:List α}
  (h:∀a∈l,f a=.ok (g a)):collect f l=.ok (l.map g):=by
 rw [collect_ok,forall₂_map_right_iff,forall₂_same]
 exact h

lemma collect_mem{α:Type}{f:α→Except ε β}{l:List α}
  (h:collect f l=.ok bs){a:α}(ha:a∈l):∃b∈bs,f a=.ok b:=by
 have hall:=collect_ok.mp h
 induction hall with
 | nil=>simp at ha
 | cons hab _ ih=>
  rcases mem_cons.mp ha with rfl|ha
  · exact ⟨_,mem_cons_self,hab⟩
  · obtain ⟨b,hb,hfb⟩:=ih (collect_ok.mpr (by assumption)) ha
    exact ⟨b,mem_cons_of_mem _ hb,hfb⟩

lemma collect_source{α:Type}{f:α→Except ε β}{l:List α}
  (h:collect f l=.ok bs){b:β}(hb:b∈bs):∃a∈l,f a=.ok b:=by
 have hall:=collect_ok.mp h
 obtain ⟨i,hi,rfl⟩:=getElem_of_mem hb
 have hi':i<l.length:=by
  rw [hall.length_eq]
  exact hi
 exact ⟨l[i],getElem_mem hi',hall.get hi' hi⟩

lemma collect_ok_of_iff{α γ:Type}{f:α→Except ε β}{g:α→Except ε γ}{P:γ→Prop}
  {h:γ→β}(hf:∀a b,f a=.ok b ↔ ∃c,g a=.ok c∧P c∧b=h c){l:List α}:
  collect f l=.ok bs ↔ ∃cs,collect g l=.ok cs∧(∀c∈cs,P c)∧bs=cs.map h:=by
 induction l generalizing bs with
 | nil=>
  simp only [collect,Except.ok.injEq]
  constructor
  · rintro rfl
    exact ⟨[],rfl,by simp,rfl⟩
  · rintro ⟨_,rfl,_,rfl⟩
    rfl
 | cons a l ih=>
  simp only [collect,bind_ok,hf,ih]
  constructor
  · rintro ⟨_,⟨c,hc,hP,rfl⟩,_,⟨cs,hcs,hall,rfl⟩,hbs⟩
    cases hbs
    refine ⟨c::cs,⟨c,hc,cs,hcs,rfl⟩,?_,rfl⟩
    intro d hd
    rcases mem_cons.mp hd with rfl|hd
    · exact hP
    · exact hall d hd
  · rintro ⟨_,⟨c,hc,cs,hcs,hbs⟩,hall,rfl⟩
    cases hbs
    exact ⟨h c,⟨c,hc,hall c mem_cons_self,rfl⟩,cs.map h,
     ⟨cs,hcs,fun d hd=>hall d (mem_cons_of_mem _ hd),rfl⟩,rfl⟩

def u64Limit : ℕ := 2^64

/-- `n.checked_add(1)` on `u64`. -/
def checkedSucc (n:ℕ) : Option ℕ := if n+1<u64Limit then some (n+1) else none

lemma checkedSucc_eq_some{n m:ℕ}(h:checkedSucc n=some m):m=n+1:=by
 unfold checkedSucc at h
 split at h <;>simp_all

def checkedAdd (a b:ℕ) : Option ℕ := if a+b<u64Limit then some (a+b) else none

lemma checkedAdd_eq_some{a b c:ℕ}(h:checkedAdd a b=some c):c=a+b:=by
 unfold checkedAdd at h
 split at h <;>simp_all

/-- `format!("{n:0width$}")` on an unsigned integer. -/
def zeroPadded (width n:ℕ) : String :=
 String.ofList (List.replicate (width-(Nat.toDigits 10 n).length) '0' ++ Nat.toDigits 10 n)

lemma zeroPadded_injective(width:ℕ):Function.Injective (zeroPadded width):=by
 intro m n h
 have hl:=congrArg (fun s=>Nat.ofDigitChars 10 (String.toList s) 0) h
 simpa [zeroPadded,Nat.ofDigitChars_append,Nat.ofDigitChars_replicate_zero] using hl

lemma toString_nat_injective:Function.Injective (fun n:ℕ=>toString n):=by
 intro m n h
 have hl:=congrArg (fun s=>Nat.ofDigitChars 10 (String.toList s) 0) h
 simpa [Nat.toString_eq_ofList_toDigits] using hl

lemma append_left_injective(s:String):Function.Injective (fun t=>s++t):=by
 intro t u h
 have hl:=congrArg String.toList h
 simp only [String.toList_append,append_cancel_left_eq] at hl
 exact String.toList_inj.mp hl

lemma last_toDigits{n:ℕ}(h:(Nat.toDigits 10 n).getLast?=some c):isWhitespace c=false:=
 isWhitespace_of_isDigit (DigitStrings.isDigits_toDigits n c (mem_of_getLast? h))

lemma trim_append_number(hs:s≠"")(hfirst:trim s=s)(n:ℕ):trim (s++toString n)=s++toString n:=by
 have hdigits:(toString n).toList=Nat.toDigits 10 n:=by
  rw [Nat.toString_eq_ofList_toDigits,String.toList_ofList]
 apply trim_append hs hfirst
 · intro h
   rw [h] at hdigits
   exact Nat.toDigits_ne_nil hdigits.symm
 · intro c hc
   rw [hdigits] at hc
   exact last_toDigits hc

lemma trim_append_zeroPadded(hs:s≠"")(hfirst:trim s=s)(width n:ℕ):
  trim (s++zeroPadded width n)=s++zeroPadded width n:=by
 apply trim_append hs hfirst
 · intro h
   have hlist:=congrArg String.toList h
   simp only [zeroPadded,String.toList_ofList,String.toList_empty,append_eq_nil_iff] at hlist
   exact Nat.toDigits_ne_nil hlist.2
 · intro c hc
   rw [zeroPadded,String.toList_ofList,List.getLast?_append_of_ne_nil _ Nat.toDigits_ne_nil] at hc
   exact last_toDigits hc

/-- `std::time::SystemTime`, in nanoseconds from the Unix epoch. -/
abbrev SystemTime := ℤ

/-- `std::time::Duration`, in nanoseconds. -/
abbrev Duration := ℕ

/-- The last representable instant: a signed 64-bit second count and its nanoseconds. -/
def maxSystemTime : SystemTime := (2^63-1)*1000000000+999999999

def checkedAddTime (t:SystemTime) (d:Duration) : Option SystemTime :=
 if t+d≤ maxSystemTime then some (t+d) else none

/-- `now.duration_since(start).is_ok_and(|elapsed| elapsed >= window)`. -/
def elapsedAtLeast (now start:SystemTime) (window:Duration) : Bool :=
 decide (start≤now)&&decide ((window:ℤ)≤now-start)

lemma checkedAddTime_eq_some{t u:SystemTime}{d:Duration}(h:checkedAddTime t d=some u):u=t+d:=by
 unfold checkedAddTime at h
 split at h <;>simp_all

section

universe u
variable {α:Type u}

lemma rotateRight_append(front back:List α):(front++back).rotateRight back.length=back++front:=by
 rcases Nat.lt_or_ge 1 (front++back).length with hlen|hlen
 · rw [List.rotateRight]
   simp only [Nat.not_le.mpr hlen,↓reduceIte]
   rcases Nat.eq_zero_or_pos front.length with hf|hf
   · have:front=[]:=eq_nil_of_length_eq_zero hf
     subst this
     simp
   · have hmod:back.length % (front++back).length=back.length:=Nat.mod_eq_of_lt (by simp;omega)
     rw [hmod]
     simp
 · match front, back, hlen with
   | [], [], _=>rfl
   | [a], [], _=>rfl
   | [], [a], _=>rfl
end

end GraphBlocks.RustStd
