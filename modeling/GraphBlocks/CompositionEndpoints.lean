import GraphBlocks.CompositionModel
import Mathlib.Data.List.TakeWhile

namespace GraphBlocks.Composition
open Json RustStd GraphNormalization List

def ownerOf (x:String) : String := String.ofList (x.toList.takeWhile (· != '.'))

def portOf (x:String) : String := String.ofList (x.toList.dropWhile (· != '.')).tail

def Dotless (x:String) : Prop := '.' ∉ x.toList

instance (x:String) : Decidable (Dotless x) := inferInstanceAs (Decidable ('.' ∉ x.toList))

/-- A non-empty owner, a dot and a non-empty port. -/
def IsEndpoint (x:String) : Prop := ∃owner port,endpoint x=.ok (owner,port)

lemma dropWhile_eq_nil_iff_not_mem{l:List Char}:l.dropWhile (· != '.')=[] ↔ '.' ∉ l:=by
 rw [dropWhile_eq_nil_iff]
 constructor
 · intro h hmem
   simpa using h '.' hmem
 · intro h c hc
   simp only [bne_iff_ne,ne_eq]
   rintro rfl
   exact h hc

variable {x:String}

lemma partition_eq_none:partition x=none↔Dotless x:=by
 unfold partition Dotless
 rw [←dropWhile_eq_nil_iff_not_mem]
 split <;>simp_all

lemma partition_eq_some(h:¬Dotless x):partition x=some (ownerOf x,portOf x):=by
 unfold partition ownerOf portOf
 split
 · next hnil=>exact absurd (dropWhile_eq_nil_iff_not_mem.mp hnil) h
 · next c port hcons=>rw [hcons,tail_cons]

lemma endpoint_ok{owner port:String}:endpoint x=.ok (owner,port) ↔
   ¬Dotless x∧ownerOf x≠""∧portOf x≠""∧owner=ownerOf x∧port=portOf x:=by
 unfold endpoint
 by_cases h:Dotless x
 · simp [partition_eq_none.mpr h,h]
 · rw [partition_eq_some h]
   by_cases hempty:ownerOf x="" ∨ portOf x=""
   · simp only [if_pos hempty]
     tauto
   · obtain ⟨ho,hp⟩:=not_or.mp hempty
     simp [h,ho,hp,eq_comm]

lemma isEndpoint_iff:IsEndpoint x↔endpoint x=.ok (ownerOf x,portOf x):=by
 constructor
 · rintro ⟨owner,port,h⟩
   obtain ⟨_,_,_,rfl,rfl⟩:=endpoint_ok.mp h
   exact h
 · intro h
   exact ⟨_,_,h⟩

lemma isEndpoint_iff_parts:IsEndpoint x↔¬Dotless x∧ownerOf x≠""∧portOf x≠"":=by
 rw [isEndpoint_iff,endpoint_ok]
 simp only [and_true]

lemma dotless_ownerOf(x:String):Dotless (ownerOf x):=by
 intro h
 rw [ownerOf,String.toList_ofList] at h
 simpa using mem_takeWhile_imp h

lemma Dotless.append{y:String}(hx:Dotless x)(hy:Dotless y):Dotless (x++y):=by
 unfold Dotless at *
 rw [String.toList_append,mem_append]
 tauto

lemma Dotless.generatedName{n inner:String}(hn:Dotless n)(hi:Dotless inner):
  Dotless (generatedName n inner):=
 (hn.append (by decide)).append hi

section
variable {owner port:String} (h:Dotless owner)

lemma takeWhile_joined{o p:List Char}(h : '.' ∉ o):(o ++ '.' :: p).takeWhile (· != '.')=o:=by
 have ho:∀c∈o,(c != '.')=true:=by
  intro c hc
  simp only [bne_iff_ne,ne_eq]
  rintro rfl
  exact h hc
 rw [takeWhile_append_of_pos ho]
 simp

lemma dropWhile_joined{o p:List Char}(h : '.' ∉ o):
  (o ++ '.' :: p).dropWhile (· != '.') = '.' :: p:=by
 have ho:∀c∈o,(c != '.')=true:=by
  intro c hc
  simp only [bne_iff_ne,ne_eq]
  rintro rfl
  exact h hc
 rw [dropWhile_append_of_pos ho]
 simp

lemma toList_joined:(owner ++ "." ++ port).toList=owner.toList ++ '.' :: port.toList:=by simp

include h

lemma ownerOf_joined:ownerOf (owner++"."++port)=owner:=by
 rw [ownerOf,toList_joined,takeWhile_joined h,String.ofList_toList]

lemma portOf_joined:portOf (owner++"."++port)=port:=by
 rw [portOf,toList_joined,dropWhile_joined h,tail_cons,String.ofList_toList]

omit h in
lemma not_dotless_joined:¬Dotless (owner++"."++port):=by simp [Dotless]

lemma isEndpoint_joined:IsEndpoint (owner++"."++port)↔owner≠""∧port≠"":=by
 rw [isEndpoint_iff_parts,ownerOf_joined h,portOf_joined h]
 simp [not_dotless_joined]
end

lemma joined_ownerOf_portOf(h:¬Dotless x):ownerOf x++"."++portOf x=x:=by
 have hsplit:=takeWhile_append_dropWhile (p:=(· != '.')) (l:=x.toList)
 rw [←String.toList_inj,toList_joined,ownerOf,portOf,String.toList_ofList,String.toList_ofList]
 cases hd:x.toList.dropWhile (· != '.') with
 | nil=>exact absurd (dropWhile_eq_nil_iff_not_mem.mp hd) h
 | cons c rest=>
  have hc:c = '.' := by
   have hhead:=List.head?_dropWhile_not (· != '.') x.toList
   simpa [hd] using hhead
  rw [hd,hc] at hsplit
  rw [tail_cons]
  exact hsplit

lemma IsEndpoint.joined(h:IsEndpoint x):ownerOf x++"."++portOf x=x:=
 joined_ownerOf_portOf (isEndpoint_iff_parts.mp h).1

lemma IsEndpoint.eq_joined_iff{owner port:String}(h:IsEndpoint x)(ho:Dotless owner):
  x=owner++"."++port↔ownerOf x=owner∧portOf x=port:=by
 constructor
 · intro heq
   rw [heq,ownerOf_joined ho,portOf_joined ho]
   exact ⟨rfl,rfl⟩
 · rintro ⟨rfl,rfl⟩
   exact h.joined.symm

section
variable {n x:String} {names:StringMap Value}

lemma prefixEndpoint_eq(hx:IsEndpoint x)(hmem:names.contains (ownerOf x)=true):
  prefixEndpoint x n names=generatedName n (ownerOf x)++"."++portOf x:=by
 rw [prefixEndpoint,partition_eq_some (isEndpoint_iff_parts.mp hx).1]
 simp [hmem]

variable (hn:Dotless n) (hx:IsEndpoint x) (hmem:names.contains (ownerOf x)=true)

include hn hx hmem

lemma ownerOf_prefixEndpoint:ownerOf (prefixEndpoint x n names)=generatedName n (ownerOf x):=by
 rw [prefixEndpoint_eq hx hmem]
 exact ownerOf_joined (hn.generatedName (dotless_ownerOf x))

lemma portOf_prefixEndpoint:portOf (prefixEndpoint x n names)=portOf x:=by
 rw [prefixEndpoint_eq hx hmem]
 exact portOf_joined (hn.generatedName (dotless_ownerOf x))

lemma isEndpoint_prefixEndpoint:IsEndpoint (prefixEndpoint x n names):=by
 rw [prefixEndpoint_eq hx hmem,isEndpoint_joined (hn.generatedName (dotless_ownerOf x))]
 refine ⟨?_,(isEndpoint_iff_parts.mp hx).2.2⟩
 intro hempty
 have:=congrArg String.toList hempty
 simp [generatedName] at this
end

lemma generatedName_injective(n:String):Function.Injective (generatedName n):=
 append_left_injective (n++"__")

lemma dotless_of_isCompositionName{name:String}(h:isCompositionName name=true):Dotless name:=by
 unfold isCompositionName at h
 unfold Dotless
 intro hmem
 split at h
 · next hnil=>simp [hnil] at hmem
 · next c cs hcons=>
   rw [hcons,mem_cons] at hmem
   rw [Bool.and_eq_true,all_eq_true] at h
   rcases hmem with rfl|hmem
   · simpa using h.1
   · simpa using h.2 '.' hmem

lemma ne_empty_of_isCompositionName{name:String}(h:isCompositionName name=true):name≠"":=by
 rintro rfl
 simp [isCompositionName] at h

lemma edgeOf_edgeValue(e:Edge):edgeOf (edgeValue e)=.ok e:=by
 simp [edgeOf,edgeValue,lookup_cons_eq]

lemma collect_edgeOf_map(edges:List Edge):collect edgeOf (edges.map edgeValue)=.ok edges:=by
 rw [collect_ok,forall₂_map_left_iff,forall₂_same]
 exact fun e _=>edgeOf_edgeValue e

end GraphBlocks.Composition
