import GraphBlocks.RecordStore

namespace GraphBlocks.RecordStore
open Std Json MachineRuns OrderedMap RustStd List Option Std.ExtTreeMap

structure RecordFilter where
 path:List String
 value:Value

structure RecordQuery where
 collection:String
 filters:List RecordFilter
 limit:ℕ
 cursor:Option String

structure RecordPage where
 records:List Record
 nextCursor:Option String

/-- The value at the end of a path of object members. -/
def valueAt : List String→Value→Option Value
 | [],value=>some value
 | segment::path,.object members=>(members.lookup segment).bind (valueAt path)
 | _::_,_=>none

section

/- `same` is the `==` of `serde_json::Value`. -/
variable (same:Value→Value→Bool)

def passes (filters:List RecordFilter) (record:Record) : Bool :=
 filters.all fun filter=>(valueAt filter.path record.value).any fun value=>same value filter.value

def afterCursor (cursor:Option String) (key:String) : Bool :=
 cursor.all fun cursor=>!(compare key cursor).isLE

/-- The loop over the records, in key order. -/
def matching (s:InMemoryRecordStore) (collection:String) (filters:List RecordFilter)
  (cursor:Option String) : List Record :=
 (s.records.toList.filter fun entry=>entry.1.1==collection&&afterCursor cursor entry.1.2 &&
  passes same filters entry.2).map Prod.snd

def query (s:InMemoryRecordStore) (request:RecordQuery) : Except RecordStoreError RecordPage := do
 ensure (!isBlank request.collection) .invalidCollection
 ensure (request.limit != 0) .invalidLimit
 ensure (request.cursor.all fun cursor=>s.records.contains (request.collection,cursor))
  (.invalidCursor request.collection (request.cursor.getD ""))
 let found:=matching same s request.collection request.filters request.cursor
 return {
  records:=found.take request.limit
  nextCursor:=if request.limit<found.length then (found[request.limit-1]?).map Record.key else none }

/-- `query` called again with each `next_cursor` until there is none. -/
inductive Pages (s:InMemoryRecordStore) (collection:String) (filters:List RecordFilter) (limit:ℕ) :
  Option String→List RecordPage→Prop where
 | last {cursor:Option String} {page:RecordPage} :
   query same s { collection,filters,limit,cursor }=.ok page → page.nextCursor=none →
   Pages s collection filters limit cursor [page]
 | more {cursor:Option String} {page:RecordPage} {next:String} {pages:List RecordPage} :
   query same s { collection,filters,limit,cursor }=.ok page → page.nextCursor=some next →
   Pages s collection filters limit (some next) pages →
   Pages s collection filters limit cursor (page::pages)
end

section
variable {same:Value→Value→Bool} {s:InMemoryRecordStore} {collection:String}
 {filters:List RecordFilter} {cursor:Option String} {record:Record}

/-- The records carry their own keys. -/
def Keyed (s:InMemoryRecordStore) : Prop :=
 ∀at' (record:Record),s.records[at']?=some record → (record.collection,record.key)=at'

lemma mem_matching(hkeyed:Keyed s):record∈matching same s collection filters cursor ↔
   s.records[(collection,record.key)]?=some record∧afterCursor cursor record.key=true ∧
    passes same filters record=true:=by
 unfold matching
 simp only [List.mem_map,List.mem_filter,Bool.and_eq_true,beq_iff_eq,Prod.exists,
  exists_eq_right,mem_toList_iff_getElem?_eq_some]
 constructor
 · rintro ⟨a,key,hrecord,⟨rfl,hafter⟩,hpasses⟩
   obtain rfl:record.key=key:=congrArg Prod.snd (hkeyed _ record hrecord)
   exact ⟨hrecord,hafter,hpasses⟩
 · rintro ⟨hrecord,hafter,hpasses⟩
   exact ⟨collection,record.key,hrecord,⟨rfl,hafter⟩,hpasses⟩

lemma entry_key(hkeyed:Keyed s){entry:(String×String)×Record}(h:entry∈s.records.toList):
  entry.2.key=entry.1.2:=
 congrArg Prod.snd (hkeyed _ _ (mem_toList_iff_getElem?_eq_some.mp h))

lemma matching_ordered(hkeyed:Keyed s):
  (matching same s collection filters cursor).Pairwise fun a b=>compare a.key b.key=.lt:=by
 unfold matching
 rw [pairwise_map]
 refine List.Pairwise.imp_of_mem ?_ (s.records.ordered_keys_toList.filter _)
 intro a b ha hb hless
 obtain ⟨ha,hkept⟩:=List.mem_filter.mp ha
 obtain ⟨hb,hkept'⟩:=List.mem_filter.mp hb
 simp only [Bool.and_eq_true,beq_iff_eq] at hkept hkept'
 rw [entry_key hkeyed ha,entry_key hkeyed hb]
 simpa [comparePair,compareLex,compareOn,hkept.1.1,hkept'.1.1] using hless

lemma matching_cursor(hkeyed:Keyed s)(key:String):
  matching same s collection filters (some key) =
   (matching same s collection filters none).filter fun record=>!(compare record.key key).isLE:=by
 unfold matching
 rw [List.filter_map,List.filter_filter]
 congr 1
 apply filter_congr
 intro entry hentry
 rw [Function.comp_apply,entry_key hkeyed hentry]
 simp [afterCursor,Bool.and_assoc,Bool.and_comm,Bool.and_left_comm]

/-- The key of a record cuts the ordered records behind it. -/
lemma filter_after{front rest:List Record}{last:Record}
  (h:(front++last::rest).Pairwise fun a b=>compare a.key b.key=.lt):
  (front++last::rest).filter (fun record=>!(compare record.key last.key).isLE)=rest:=by
 obtain ⟨-,hrest,hcross⟩:=pairwise_append.mp h
 have hfront:front.filter (fun record=>!(compare record.key last.key).isLE)=[]:=by
  rw [filter_eq_nil_iff]
  intro record hmem
  simp [hcross record hmem last mem_cons_self]
 have hself:(compare last.key last.key).isLE=true:=by
  rw [@ReflCmp.compare_self _ compare]
  rfl
 rw [filter_append,hfront,filter_cons,hself,nil_append]
 refine filter_eq_self.mpr ?_
 intro record hmem
 have hgreater:=OrientedCmp.gt_of_lt ((pairwise_cons.mp hrest).1 record hmem)
 rw [hgreater]
 rfl

variable {limit:ℕ}

lemma query_eq(hcollection:isBlank collection=false)(hlimit:limit≠0)
  (hcursor:∀key,cursor=some key→s.records.contains (collection,key)=true):
  query same s { collection,filters,limit,cursor }=.ok
   { records:=(matching same s collection filters cursor).take limit
     nextCursor:=if limit<(matching same s collection filters cursor).length then
      ((matching same s collection filters cursor)[limit-1]?).map Record.key else none }:=by
 have hknown:cursor.all (fun cursor=>s.records.contains (collection,cursor))=true:=by
  cases cursor with
  | none=>rfl
  | some key=>exact hcursor key rfl
 simp [query,hcollection,hlimit,hknown,ensure]
 rfl

/-- The pages from a cursor on, for the records behind it. -/
lemma pages_after(hkeyed:Keyed s)(hcollection:isBlank collection=false)(hlimit:limit≠0)
  (rest front:List Record)(cursor:Option String)
  (hall:matching same s collection filters none=front++rest)
  (hrest:matching same s collection filters cursor=rest)
  (hcursor:∀key,cursor=some key→s.records.contains (collection,key)=true):
  ∃pages,Pages same s collection filters limit cursor pages ∧
   pages.flatMap RecordPage.records=rest∧(∀page∈pages.dropLast,page.records.length=limit) ∧
   ∀page∈pages,page.records.length≤limit:=by
 induction hlength:rest.length using Nat.strong_induction_on generalizing rest front cursor with
 | _ n ih=>
  have hquery:=@query_eq same s collection filters cursor limit hcollection hlimit hcursor
  rw [hrest] at hquery
  by_cases hmore:limit<rest.length
  · rw [if_pos hmore] at hquery
    have hindex:limit-1<rest.length:=by omega
    rw [List.getElem?_eq_getElem hindex,map_some] at hquery
    have hcut:rest=rest.take (limit-1)++rest[limit-1]::rest.drop limit:=by
     have hnext:rest.drop (limit-1)=rest[limit-1]::rest.drop limit:=by
      rw [drop_eq_getElem_cons hindex,Nat.sub_add_cancel (Nat.pos_of_ne_zero hlimit)]
     rw [←hnext,take_append_drop]
    have hbehind:matching same s collection filters (some rest[limit-1].key)=rest.drop limit:=by
     rw [matching_cursor hkeyed,hall]
     conv_lhs=>
      arg 2
      rw [hcut,←append_assoc]
     apply filter_after
     rw [append_assoc,←hcut,←hall]
     exact matching_ordered hkeyed
    have hmem:rest[limit-1]∈matching same s collection filters cursor:=by
     rw [hrest]
     exact getElem_mem hindex
    obtain ⟨pages,hpages,hflat,hfull,hbound⟩:=ih (rest.drop limit).length
     (by rw [length_drop];omega) (rest.drop limit) (front++rest.take limit)
     (some rest[limit-1].key) (by rw [append_assoc,take_append_drop,hall]) hbehind
     (fun key hkey=>by
      cases hkey
      exact (contains_iff _).mpr ⟨_,((mem_matching hkeyed).mp hmem).1⟩) rfl
    refine ⟨_::pages,.more hquery rfl hpages,?_,?_,?_⟩
    · rw [flatMap_cons,hflat,take_append_drop]
    · intro page hpage
      cases hpages with
      | last _ _=>
       obtain rfl:=mem_singleton.mp hpage
       exact length_take_of_le hmore.le
      | more _ _ _=>
       rcases mem_cons.mp hpage with rfl|hpage
       · exact length_take_of_le hmore.le
       · exact hfull page hpage
    · intro page hpage
      rcases mem_cons.mp hpage with rfl|hpage
      · exact (length_take_of_le hmore.le).le
      · exact hbound page hpage
  · rw [if_neg hmore,take_of_length_le (Nat.le_of_not_lt hmore)] at hquery
    refine ⟨_,.last hquery rfl,flatMap_singleton _ _,fun _ h=>absurd h not_mem_nil,?_⟩
    intro page hpage
    obtain rfl:=mem_singleton.mp hpage
    exact Nat.le_of_not_lt hmore
end

theorem record_pages_lossless (hash : Value→Option String) (calls : List Call)
  (same : Value→Value→Bool) (collection : String) (filters : List RecordFilter) (limit : ℕ)
  (hcollection : isBlank collection=false) (hlimit : 1≤limit) :
  ∃pages,Pages same (execute (step hash) .new calls) collection filters limit none pages ∧
   (∀record,record∈pages.flatMap RecordPage.records ↔
    (execute (step hash) .new calls).records[(collection,record.key)]?=some record ∧
     passes same filters record=true) ∧
   ((pages.flatMap RecordPage.records).Pairwise fun a b=>compare a.key b.key=.lt) ∧
   (∀page∈pages.dropLast,page.records.length=limit) ∧
   ∀page∈pages,page.records.length≤limit := by
 have hkeyed:Keyed (execute (step hash) .new calls):=
  fun at' record h=>((tracked_run hash calls).live at' record h).1
 obtain ⟨pages,hpages,hflat,hfull,hbound⟩:=@pages_after same _ collection filters limit hkeyed
  hcollection (Nat.ne_of_gt hlimit) _ [] none (nil_append _).symm rfl
  (fun _ h=>absurd h (some_ne_none _).symm)
 refine ⟨pages,hpages,?_,?_,hfull,hbound⟩ <;>rw [hflat]
 · intro record
   rw [mem_matching hkeyed]
   exact ⟨fun h=>⟨h.1,h.2.2⟩,fun h=>⟨h.1,rfl,h.2⟩⟩
 · exact matching_ordered hkeyed

theorem notes_pages : ∃pages,Pages (fun a b=>decide (a=b)) (execute (step fun _=>some "etag") .new
   [.put "notes" ⟨"","a",.null,0,"",[]⟩ ⟨none,true⟩,.put "notes" ⟨"","b",.null,0,"",[]⟩ ⟨none,true⟩])
   "notes" [] 1 none pages ∧ ∀page∈pages,page.records.length≤1 := by
 obtain ⟨pages,hpages,-,-,-,hbound⟩:=record_pages_lossless (fun _=>some "etag")
  [.put "notes" ⟨"","a",.null,0,"",[]⟩ ⟨none,true⟩,.put "notes" ⟨"","b",.null,0,"",[]⟩ ⟨none,true⟩]
  (fun a b=>decide (a=b)) "notes" [] 1 (by decide +kernel) (Nat.le_refl 1)
 exact ⟨pages,hpages,hbound⟩

end GraphBlocks.RecordStore
