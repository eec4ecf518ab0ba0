/-
Module: ShaderFlow.Shader.Library
Purpose: Function libraries as JSON documents.
Main exports: FunctionLibrary.ofJson?, FunctionLibrary.toJson, FunctionLibrary.load
-/
import ShaderFlow.Json.Reader
import ShaderFlow.Shader.Function

namespace ShaderFlow

/-!
A library is an array of records `name`, `returnType`, `inputs`, `body`; an input is a record `name`,
`type`.  A record is an object with its fields in any order, or an array with all of them in this
order.  Objects may hold further fields, which are ignored, but no field of the record twice; only
`inputs` may be left out.  A type is its tag, or an object whose only member has the tag as name and
`null` as value.
-/

namespace FunctionLibrary

/-- The values of a field among the members of an object. -/
def fieldValues (name : String) (members : List (String × Json)) : List Json :=
  (members.filter (·.1 = name)).map Prod.snd

/-- The value of a field that must occur exactly once. -/
def requiredField? (name : String) (members : List (String × Json)) : Option Json :=
  match fieldValues name members with
  | [value] => some value
  | _ => none

/-- Read a type. -/
def typeOfJson? : Json → Option ShaderType
  | .object [(tag, .null)] => (StringUnit.decode tag).bind ShaderType.ofTag?
  | .string tag => (StringUnit.decode tag).bind ShaderType.ofTag?
  | _ => none

/-- Assemble an input from its fields. -/
def parameterOf? (name ty : Json) : Option Parameter := do
  let name ← name.text?
  let ty ← typeOfJson? ty
  return { name, ty }

/-- Read an input. -/
def parameterOfJson? : Json → Option Parameter
  | .array [name, ty] => parameterOf? name ty
  | .object members => do
      let members ← Json.members? (.object members)
      let name ← requiredField? "name" members
      let ty ← requiredField? "type" members
      parameterOf? name ty
  | _ => none

/-- Read a list of inputs. -/
def inputsOfJson? (document : Json) : Option (List Parameter) := do
  let items ← document.items?
  items.mapM parameterOfJson?

/-- Assemble a function from its fields. -/
def functionOf? (name returnType inputs body : Json) : Option ShaderFunction := do
  let name ← name.text?
  let returnType ← typeOfJson? returnType
  let inputs ← inputsOfJson? inputs
  let body ← body.text?
  return { name, returnType, inputs, body }

/-- Read a function. -/
def functionOfJson? : Json → Option ShaderFunction
  | .array [name, returnType, inputs, body] => functionOf? name returnType inputs body
  | .object members => do
      let members ← Json.members? (.object members)
      let name ← requiredField? "name" members
      let returnType ← requiredField? "returnType" members
      let inputs ←
        match fieldValues "inputs" members with
        | [] => some (.array [])
        | [inputs] => some inputs
        | _ => none
      let body ← requiredField? "body" members
      functionOf? name returnType inputs body
  | _ => none

/-- Read a library. -/
def ofJson? (document : Json) : Option (List ShaderFunction) := do
  let items ← document.items?
  items.mapM functionOfJson?

/-- Record of an input. -/
def parameterToJson (input : Parameter) : Json :=
  .ofMembers [("name", .ofText input.name), ("type", .ofText input.ty.tag)]

/-- Record of a function. -/
def functionToJson (function : ShaderFunction) : Json :=
  .ofMembers
    [("name", .ofText function.name), ("returnType", .ofText function.returnType.tag),
      ("inputs", .array (function.inputs.map parameterToJson)), ("body", .ofText function.body)]

/-- Document of a library. -/
def toJson (functions : List ShaderFunction) : Json := .array (functions.map functionToJson)

/-- Load a library from the text of a document: the whole text is read before anything is
registered. -/
def load (text : String) : Except ShaderError FunctionRegistry :=
  match (Json.parse? text).bind ofJson? with
  | none => .error .functionLibrary
  | some functions => FunctionRegistry.empty.registerAll functions

end FunctionLibrary

end ShaderFlow
