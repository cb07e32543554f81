import GraphBlocks.StoredJson

/-! The canonical JSON module of the Python package reads and writes long integers nine digits at
a time. -/
namespace GraphBlocks.IntegerChunks
open DigitStrings StoredJson List Option

inductive IntegerError where
 | limit
 | invalid

def maxCanonicalIntegerDigits : ℕ := 10000

def chunkDigits : ℕ := 9

def chunkBase : ℕ := 10^9

def maxCanonicalIntegerMagnitude : ℕ := 10^maxCanonicalIntegerDigits

/-- The loop of `_parse_integer`, once for each offset; a chunk is read as `int` reads digits. -/
def parseChunks : ℕ→ℕ→List Char→Option ℕ
 | 0,value,_=>some value
 | offsets+1,value,digits=>do
  let chunk ← parseDigits (digits.take chunkDigits)
  parseChunks offsets (value*chunkBase+chunk) (digits.drop chunkDigits)

def firstChunkLength (length:ℕ) : ℕ :=
 if length%chunkDigits=0 then chunkDigits else length%chunkDigits

def parseMagnitude (digits:List Char) : Option ℕ := do
 let first:=firstChunkLength digits.length
 let value ← parseDigits (digits.take first)
 -- the length of `range(first, len(digits), 9)`
 parseChunks ((digits.length-first+(chunkDigits-1))/chunkDigits) value (digits.drop first)

def parseInteger (token:List Char) : Except IntegerError ℤ :=
 let negative:=token.head?==some '-'
 let digits:=if negative then token.tail else token
 if maxCanonicalIntegerDigits<digits.length then .error .limit
 else match parseMagnitude digits with
 | none=>.error .invalid
 | some value=>.ok (if negative then -(value:ℤ) else value)

/-- The chunks of a magnitude, the lowest first. -/
def chunksOf (magnitude:ℕ) : List ℕ :=
 if _h:magnitude=0 then [] else magnitude%chunkBase::chunksOf (magnitude/chunkBase)
termination_by magnitude
decreasing_by exact Nat.div_lt_self (Nat.pos_of_ne_zero _h) (by decide)

/-- `f"{chunk:09d}"`. -/
def padded (chunk:ℕ) : List Char :=
 List.replicate (chunkDigits-(Nat.toDigits 10 chunk).length) '0' ++ Nat.toDigits 10 chunk

def joinChunks : List ℕ→List Char
 | []=>[]
 | top::chunks=>Nat.toDigits 10 top++chunks.flatMap padded

def formatInteger (n:ℤ) : Except IntegerError (List Char) :=
 if (maxCanonicalIntegerMagnitude:ℤ)≤n∨n≤-(maxCanonicalIntegerMagnitude:ℤ) then .error .limit
 else if n=0 then .ok ['0']
 else
  let encoded:=joinChunks (chunksOf n.natAbs).reverse
  .ok (if n<0 then '-'::encoded else encoded)

variable {digits:List Char}

lemma parseDigits_eq(h:IsDigits digits)(hsome:digits≠[]):parseDigits digits=some (value digits):=by
 unfold parseDigits
 rw [if_pos ⟨hsome,List.all_eq_true.mpr h⟩]

lemma isDigits_take(h:IsDigits digits)(n:ℕ):IsDigits (digits.take n):=
 fun c hc=>h c (mem_of_mem_take hc)

lemma isDigits_drop(h:IsDigits digits)(n:ℕ):IsDigits (digits.drop n):=
 fun c hc=>h c (mem_of_mem_drop hc)

lemma parseChunks_eq(offsets start:ℕ)(h:IsDigits digits)
  (hlength:digits.length=chunkDigits*offsets):
  parseChunks offsets start digits=some (start*10^digits.length+value digits):=by
 induction offsets generalizing start digits with
 | zero=>
  obtain rfl:digits=[]:=eq_nil_of_length_eq_zero hlength
  simp [parseChunks]
 | succ offsets ih=>
  have hchunk:(digits.take chunkDigits).length=chunkDigits:=by
   rw [length_take,hlength,Nat.min_eq_left (Nat.le_mul_of_pos_right _ offsets.succ_pos)]
  have hsome:digits.take chunkDigits≠[]:=by
   intro hnil
   rw [hnil] at hchunk
   cases hchunk
  have hrest:(digits.drop chunkDigits).length=chunkDigits*offsets:=by
   rw [length_drop,hlength,Nat.mul_succ,Nat.add_sub_cancel]
  have hvalue:=value_append (digits.take chunkDigits) (digits.drop chunkDigits)
  rw [take_append_drop] at hvalue
  have hpower:(10:ℕ)^digits.length=10^chunkDigits*10^(digits.drop chunkDigits).length:=by
   rw [←Nat.pow_add,hrest,hlength,Nat.mul_succ,Nat.add_comm]
  unfold parseChunks
  rw [parseDigits_eq (isDigits_take h _) hsome,bind_eq_bind,bind_some,
   ih _ (isDigits_drop h _) hrest,hvalue,hpower]
  congr 1
  change (start*10^chunkDigits+_)*_+_=_
  ring

lemma firstChunkLength_spec{length:ℕ}(h:0<length):0<firstChunkLength length ∧
  firstChunkLength length≤length∧∃offsets,length-firstChunkLength length=chunkDigits*offsets ∧
   (length-firstChunkLength length+(chunkDigits-1))/chunkDigits=offsets:=by
 unfold firstChunkLength chunkDigits
 split
 · exact ⟨by omega,by omega,length/9-1,by omega,by omega⟩
 · exact ⟨by omega,by omega,length/9,by omega,by omega⟩

lemma parseMagnitude_eq(h:IsDigits digits)(hsome:digits≠[]):
  parseMagnitude digits=some (value digits):=by
 obtain ⟨hpos,hle,offsets,hrest,hoffsets⟩:=firstChunkLength_spec (length_pos_iff.mpr hsome)
 have hfirst:digits.take (firstChunkLength digits.length)≠[]:=by
  rw [←length_pos_iff,length_take,Nat.min_eq_left hle]
  exact hpos
 unfold parseMagnitude
 dsimp only
 rw [parseDigits_eq (isDigits_take h _) hfirst,bind_eq_bind,bind_some,hoffsets,
  parseChunks_eq offsets _ (isDigits_drop h _) ((length_drop ..).trans hrest),←value_append,
  take_append_drop]

lemma parseInteger_eq(negative:Bool)(h:IsDigits digits)(hsome:digits≠[])
  (hlength:digits.length≤ maxCanonicalIntegerDigits):
  parseInteger ((if negative then ['-'] else [])++digits) =
   .ok (if negative then -(value digits:ℤ) else value digits):=by
 have hhead:(digits.head?==some '-')=false:=by
  cases digits with
  | nil=>exact absurd rfl hsome
  | cons c cs=>
   have hc:=h c mem_cons_self
   rw [List.head?_cons,beq_eq_false_iff_ne]
   rintro ⟨rfl⟩
   cases hc
 unfold parseInteger
 cases negative with
 | false=>simp [hhead,parseMagnitude_eq h hsome,Nat.not_lt.mpr hlength]
 | true=>simp [parseMagnitude_eq h hsome,Nat.not_lt.mpr hlength]

lemma padded_spec{chunk:ℕ}(h:chunk<chunkBase):IsDigits (padded chunk) ∧
  (padded chunk).length=chunkDigits∧value (padded chunk)=chunk:=by
 have hlength:(Nat.toDigits 10 chunk).length≤chunkDigits:=
  (Nat.length_toDigits_le_iff (by decide) (by decide)).mpr h
 refine ⟨isDigits_append.mpr ⟨isDigits_replicate_zero _,isDigits_toDigits _⟩,?_,?_⟩
 · rw [padded,length_append,length_replicate,Nat.sub_add_cancel hlength]
 · rw [padded,value_append,value_replicate_zero,value_toDigits,Nat.zero_mul,Nat.zero_add]

/-- A numeral goes on with the digits of a chunk. -/
lemma toDigits_chunk{magnitude chunk:ℕ}(hpos:0< magnitude)(hchunk:chunk<chunkBase):
  Nat.toDigits 10 magnitude++padded chunk=Nat.toDigits 10 (magnitude*chunkBase+chunk):=by
 obtain ⟨hdigits,hlength,hvalue⟩:=padded_spec hchunk
 refine IsNumeral.eq_of_value_eq ?_ (isNumeral_toDigits _) ?_
 · refine IsNumeral.of_head (isDigits_append.mpr ⟨isDigits_toDigits _,hdigits⟩) ?_ ?_
   · exact append_ne_nil_of_left_ne_nil Nat.toDigits_ne_nil _
   · rw [List.head?_append_of_ne_nil _ Nat.toDigits_ne_nil]
     exact head_toDigits_ne_zero hpos
 · rw [value_append,value_toDigits,value_toDigits,hlength,hvalue]
   rfl

lemma joinChunks_concat{chunks:List ℕ}(hsome:chunks≠[])(chunk:ℕ):
  joinChunks (chunks++[chunk])=joinChunks chunks++padded chunk:=by
 cases chunks with
 | nil=>exact absurd rfl hsome
 | cons top chunks=>simp [joinChunks]

lemma joinChunks_chunksOf{magnitude:ℕ}(hpos:0< magnitude):
  joinChunks (chunksOf magnitude).reverse=Nat.toDigits 10 magnitude:=by
 induction magnitude using Nat.strong_induction_on with
 | _ magnitude ih=>
  rw [chunksOf,dif_neg hpos.ne',reverse_cons]
  have hmod:magnitude%chunkBase<chunkBase:=Nat.mod_lt _ (by decide)
  rcases Nat.eq_zero_or_pos (magnitude/chunkBase) with hzero|hmore
  · rw [hzero,chunksOf,dif_pos rfl]
    have hsmall:magnitude%chunkBase=magnitude:=
     Nat.mod_eq_of_lt (Nat.lt_of_div_eq_zero (by decide) hzero)
    rw [hsmall]
    simp [joinChunks]
  · have hsome:(chunksOf (magnitude/chunkBase)).reverse≠[]:=by
     rw [chunksOf,dif_neg hmore.ne',reverse_cons]
     exact append_ne_nil_of_right_ne_nil _ (cons_ne_nil _ _)
    rw [joinChunks_concat hsome,ih _ (Nat.div_lt_self hpos (by decide)) hmore,
     toDigits_chunk hmore hmod,Nat.div_add_mod']

lemma formatInteger_eq{n:ℤ}(h:n.natAbs< maxCanonicalIntegerMagnitude):
  formatInteger n=.ok (intToken n):=by
 unfold formatInteger
 rw [if_neg (by omega)]
 by_cases hzero:n=0
 · rw [if_pos hzero,hzero]
   rfl
 · rw [if_neg hzero]
   dsimp only
   rw [joinChunks_chunksOf (Int.natAbs_pos.mpr hzero)]
   unfold intToken
   split <;>rfl

lemma length_numeral_le{n:ℕ}(h:n< maxCanonicalIntegerMagnitude):
  (Nat.toDigits 10 n).length≤ maxCanonicalIntegerDigits:=
 (Nat.length_toDigits_le_iff (by decide) (by decide)).mpr h

theorem integer_chunks_exact :
  (∀n:ℤ,n.natAbs< maxCanonicalIntegerMagnitude → formatInteger n=.ok (intToken n) ∧
   (formatInteger n).bind parseInteger=.ok n) ∧
  ∀(negative:Bool) (digits:List Char),IsNumeral digits→digits.length≤ maxCanonicalIntegerDigits →
   parseInteger ((if negative then ['-'] else [])++digits) =
    .ok (if negative then -(value digits:ℤ) else value digits) := by
 refine ⟨fun n h=>?_,fun negative digits h hlength=>?_⟩
 · have hformat:=formatInteger_eq h
   have hparse:=parseInteger_eq (decide (n<0)) (isDigits_toDigits n.natAbs) Nat.toDigits_ne_nil
    (length_numeral_le h)
   refine ⟨hformat,?_⟩
   rw [hformat]
   change parseInteger (intToken n)=_
   rw [value_toDigits] at hparse
   simp only [decide_eq_true_eq] at hparse
   refine hparse.trans (congrArg _ ?_)
   split <;>omega
 · exact parseInteger_eq negative h.digits h.nonempty hlength

end GraphBlocks.IntegerChunks
