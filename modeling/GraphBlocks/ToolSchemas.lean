import GraphBlocks.StoredJson

namespace GraphBlocks.ToolSchemas
open Json StoredJson RustStd

inductive JsonSchemaType where
 | null | boolean | integer | number | string | array | object

def JsonSchemaType.asStr : JsonSchemaType→String
 | .null=>"null"
 | .boolean=>"boolean"
 | .integer=>"integer"
 | .number=>"number"
 | .string=>"string"
 | .array=>"array"
 | .object=>"object"

/-- The properties and the required names are in the order of their names. -/
inductive JsonSchemaNode where
 | node (expectedType:Option JsonSchemaType) (properties:List (String×JsonSchemaNode))
   (required:List String) (items:Option JsonSchemaNode)

inductive ToolSchemaValidationError where
 | schemaMissing (schemaId:String)
 | typeMismatch (schemaId path expected:String)
 | requiredPropertyMissing (schemaId path property:String)

structure ToolSchemaRegistry where
 schemas:StringMap JsonSchemaNode

def valueMatchesType (value:Value) : JsonSchemaType→Bool
 | .null=>value == .null
 | .boolean=>value.asBool.isSome
 | .integer=>(asI64 value).isSome||(asU64 value).isSome
 | .number=>match value with | .number _=>true | _=>false
 | .string=>(asString value).isSome
 | .array=>match value with | .array _=>true | _=>false
 | .object=>match value with | .object _=>true | _=>false

def checkType (schemaId path:String) (value:Value) :
  Option JsonSchemaType→Except ToolSchemaValidationError Unit
 | none=>.ok ()
 | some expected=>
  ensure (valueMatchesType value expected) (.typeMismatch schemaId path expected.asStr)

def checkRequired (schemaId path:String) (object:Members) :
  List String→Except ToolSchemaValidationError Unit
 | []=>.ok ()
 | property::rest=>do
  ensure (hasKey object property) (.requiredPropertyMissing schemaId path property)
  checkRequired schemaId path object rest

/-- The loop over the items of an array, with their indices. -/
def checkItems (check:Value→String→Except ToolSchemaValidationError Unit) (path:String) :
  ℕ→List Value→Except ToolSchemaValidationError Unit
 | _, []=>.ok ()
 | index, item::rest=>do
  check item (path ++ "[" ++ toString index ++ "]")
  checkItems check path (index+1) rest

def checkObject (schemaId:String) (expectedType:Option JsonSchemaType) (required:List String)
  (checkProperties:Members→String→Except ToolSchemaValidationError Unit)
  (value:Value) (path:String) : Except ToolSchemaValidationError Unit :=
 match expectedType, value with
 | some .object, .object object=>do
  checkRequired schemaId path object required
  checkProperties object path
 | _, _=>.ok ()

def checkArray (expectedType:Option JsonSchemaType)
  (checkItem:Value→String→Except ToolSchemaValidationError Unit)
  (value:Value) (path:String) : Except ToolSchemaValidationError Unit :=
 match expectedType, value with
 | some .array, .array items=>checkItems checkItem path 0 items
 | _, _=>.ok ()

mutual

def validateNode (schemaId:String) :
  JsonSchemaNode→Value→String→Except ToolSchemaValidationError Unit
 | .node expectedType properties required items, value, path=>do
  checkType schemaId path value expectedType
  checkObject schemaId expectedType required (validateProperties schemaId properties) value path
  checkArray expectedType (validateItem schemaId items) value path

def validateProperties (schemaId:String) :
  List (String×JsonSchemaNode)→Members→String→Except ToolSchemaValidationError Unit
 | [], _, _=>.ok ()
 | (property,schema)::rest, object, path=>do
  match object.lookup property with
  | none=>.ok ()
  | some value=>validateNode schemaId schema value (path ++ "." ++ property)
  validateProperties schemaId rest object path

/-- An array schema without items accepts every item. -/
def validateItem (schemaId:String) :
  Option JsonSchemaNode→Value→String→Except ToolSchemaValidationError Unit
 | none, _, _=>.ok ()
 | some items, value, path=>validateNode schemaId items value path
end

def ToolSchemaRegistry.validate (registry:ToolSchemaRegistry) (schemaId:String)
  (value:Value) : Except ToolSchemaValidationError Unit :=
 match registry.schemas[schemaId]? with
 | none=>.error (.schemaMissing schemaId)
 | some root=>validateNode schemaId root value "$"

end GraphBlocks.ToolSchemas
