import Mathlib.Data.List.Basic
import Mathlib.Tactic

/-! `serde_json::Value` with arbitrary-precision numbers: a number is its token. -/
namespace GraphBlocks.Json

inductive Value where
 | null
 | bool (b:Bool)
 | number (token:List Char)
 | string (s:String)
 | array (items:List Value)
 | object (members:List (String×Value))

abbrev Members := List (String×Value)

mutual

def Value.decEq : (v w:Value)→Decidable (v=w)
 | .null, .null=>isTrue rfl
 | .bool a, .bool b=>decidable_of_iff (a=b) (by simp)
 | .number a, .number b=>decidable_of_iff (a=b) (by simp)
 | .string a, .string b=>decidable_of_iff (a=b) (by simp)
 | .array a, .array b=>@decidable_of_iff _ (a=b) (by simp) (decEqItems a b)
 | .object a, .object b=>@decidable_of_iff _ (a=b) (by simp) (decEqMembers a b)
 | .null, .bool _ | .null, .number _ | .null, .string _ | .null, .array _ | .null, .object _
 | .bool _, .null | .bool _, .number _ | .bool _, .string _ | .bool _, .array _
 | .bool _, .object _ | .number _, .null | .number _, .bool _ | .number _, .string _
 | .number _, .array _ | .number _, .object _ | .string _, .null | .string _, .bool _
 | .string _, .number _ | .string _, .array _ | .string _, .object _ | .array _, .null
 | .array _, .bool _ | .array _, .number _ | .array _, .string _ | .array _, .object _
 | .object _, .null | .object _, .bool _ | .object _, .number _ | .object _, .string _
 | .object _, .array _=>isFalse (by simp)

def decEqItems : (a b:List Value)→Decidable (a=b)
 | [], []=>isTrue rfl
 | [], _::_ | _::_, []=>isFalse (by simp)
 | v::a, w::b=>
  @decidable_of_iff _ (v=w∧a=b) (by simp)
   (@instDecidableAnd _ _ (Value.decEq v w) (decEqItems a b))

def decEqMembers : (a b:Members)→Decidable (a=b)
 | [], []=>isTrue rfl
 | [], _::_ | _::_, []=>isFalse (by simp)
 | (k,v)::a, (l,w)::b=>
  @decidable_of_iff _ (k=l∧v=w∧a=b) (by simp [and_assoc])
   (@instDecidableAnd _ _ _ (@instDecidableAnd _ _ (Value.decEq v w) (decEqMembers a b)))
end

instance : DecidableEq Value := Value.decEq

/-- `Value::get` with a string index: members of objects only. -/
def Value.get (v:Value) (key:String) : Option Value :=
 match v with
 | .object members=>members.lookup key
 | _=>none

def Value.asBool : Value→Option Bool
 | .bool b=>some b
 | _=>none

end GraphBlocks.Json
