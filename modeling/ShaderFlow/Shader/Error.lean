/-
Module: ShaderFlow.Shader.Error
Purpose: Causes of failure while a shader graph is built or compiled, and their messages.
Main exports: Stage, ShaderError, ShaderError.message, ShaderError.kind
-/
import ShaderFlow.Shader.ShaderValue

namespace ShaderFlow

/-- Pipeline stage that code is generated for. -/
inductive Stage where
  | vertex
  | fragment
deriving DecidableEq, Repr, Inhabited

/-- Name of a stage in messages. -/
def Stage.name : Stage → String
  | vertex => "vertex"
  | fragment => "fragment"

/-- What is wrong with a shader function definition. -/
inductive FunctionFault where
  | name
  | inputName (input : String)
  | repeatedInput (input : String)
deriving DecidableEq, Repr, Inhabited

/-- Reason given for a faulty definition. -/
def FunctionFault.reason : FunctionFault → String
  | name => "name is not a valid identifier"
  | inputName input => s!"input '{input}' is not a valid identifier"
  | repeatedInput input => s!"input '{input}' is declared twice"

/-- What is wrong with a swizzle mask. -/
inductive SwizzleFault where
  | notVector
  | emptyMask
  | tooLong
  | mixedSets
  | outOfRange (component : Char) (source : ShaderType)
deriving DecidableEq, Repr, Inhabited

/-- Reason given for a faulty mask. -/
def SwizzleFault.reason : SwizzleFault → String
  | notVector => "only vectors can be swizzled"
  | emptyMask => "mask is empty"
  | tooLong => "mask is longer than 4 components"
  | mixedSets => "components must all come from xyzw or all from rgba"
  | outOfRange component source => s!"component '{component}' is out of range for {source.wgsl}"

/-- A place that takes nodes of one type only. -/
inductive TypedPlace where
  | textureCoordinate (texture : String)
  | combinePart (ty : ShaderType)
  | functionInput (slot function : String)
  | vertexRoot
  | fragmentRoot
  | vary (name : String)
deriving DecidableEq, Repr, Inhabited

/-- Description of a typed place. -/
def TypedPlace.describe : TypedPlace → String
  | textureCoordinate texture => s!"coordinate of texture '{texture}'"
  | combinePart ty => s!"{ty.wgsl} combine part"
  | functionInput slot function => s!"input '{slot}' of function '{function}'"
  | vertexRoot => "vertex root"
  | fragmentRoot => "fragment root"
  | vary name => s!"vary '{name}'"

/-- A place that takes finite values only. -/
inductive ValuePlace where
  | uniformDefault (name : String)
  | constant (value : ShaderValue)
deriving DecidableEq, Repr, Inhabited

/-- Description of a place for values. -/
def ValuePlace.describe : ValuePlace → String
  | uniformDefault name => s!"default of uniform '{name}'"
  | constant value => s!"constant {value.describe}"

/-- What a name is declared as. -/
inductive DeclarationKind where
  | vertexOutputStruct
  | uniform (ty : ShaderType)
  | engineUniform (ty : ShaderType)
  | texture
  | sampler
  | function
  | vertexAttribute
  | typedAttribute (ty : ShaderType)
  | vary
  | fragmentOutput
  | generatedName
deriving DecidableEq, Repr, Inhabited

/-- Description of a kind of declaration. -/
def DeclarationKind.describe : DeclarationKind → String
  | vertexOutputStruct => "the vertex output struct"
  | uniform ty => s!"a {ty.wgsl} uniform"
  | engineUniform ty => s!"an engine {ty.wgsl} uniform"
  | texture => "a texture"
  | sampler => "a sampler"
  | function => "a function"
  | vertexAttribute => "an attribute"
  | typedAttribute ty => s!"a {ty.wgsl} attribute"
  | vary => "a vary"
  | fragmentOutput => "the fragment output"
  | generatedName => "a generated name"

/-- Why a step of building or compiling a shader graph failed.  Nodes are given by their
description at the time of the failure. -/
inductive ShaderError where
  | typeMismatch (place : TypedPlace) (expected found : ShaderType)
  | missingBinding (node function slot : String)
  | graphCycle (node : String)
  | danglingReference (node referencedBy : String)
  | unknownInputSlot (function slot : String)
  | unknownFunction (function : String)
  | duplicateFunction (function : String)
  | invalidFunction (function : String) (fault : FunctionFault)
  | invalidIdentifier (name : String)
  | nonFiniteValue (place : ValuePlace)
  | invalidSwizzle (mask : String) (fault : SwizzleFault)
  | combineArity (ty : ShaderType) (components : Nat)
  | unknownVary (name : String)
  | missingRoot (stage : Stage)
  | stageMismatch (node : String) (stage : Stage)
  | conflictingDeclaration (name : String) (first second : DeclarationKind)
  | foreignNode
  | functionLibrary
deriving DecidableEq, Repr, Inhabited

namespace ShaderError

/-- Title of the kind of error. -/
def kind : ShaderError → String
  | typeMismatch .. => "TypeMismatch"
  | missingBinding .. => "MissingBinding"
  | graphCycle .. => "GraphCycle"
  | danglingReference .. => "DanglingReference"
  | unknownInputSlot .. => "UnknownInputSlot"
  | unknownFunction .. => "UnknownFunction"
  | duplicateFunction .. => "DuplicateFunction"
  | invalidFunction .. => "InvalidFunction"
  | invalidIdentifier .. => "InvalidIdentifier"
  | nonFiniteValue .. => "NonFiniteValue"
  | invalidSwizzle .. => "InvalidSwizzle"
  | combineArity .. => "CombineArity"
  | unknownVary .. => "UnknownVary"
  | missingRoot .. => "MissingRoot"
  | stageMismatch .. => "StageMismatch"
  | conflictingDeclaration .. => "ConflictingDeclaration"
  | foreignNode => "ForeignNode"
  | functionLibrary => "FunctionLibrary"

/-- Message of an error. -/
def message : ShaderError → String
  | typeMismatch place expected found =>
      s!"type mismatch for {place.describe}: expected {expected.wgsl}, found {found.wgsl}"
  | missingBinding node function slot =>
      s!"{node}: input '{slot}' of function '{function}' is not bound"
  | graphCycle node => s!"dependency cycle through {node}"
  | danglingReference node referencedBy =>
      s!"{referencedBy} references {node}, which is not part of the compiled graph"
  | unknownInputSlot function slot => s!"function '{function}' has no input named '{slot}'"
  | unknownFunction function => s!"no shader function named '{function}' is registered"
  | duplicateFunction function => s!"shader function '{function}' is already registered"
  | invalidFunction function fault => s!"invalid shader function '{function}': {fault.reason}"
  | invalidIdentifier name => s!"'{name}' is not a valid identifier"
  | nonFiniteValue place =>
      s!"{place.describe} is not finite; WGSL cannot express NaN or infinity"
  | invalidSwizzle mask fault => s!"invalid swizzle '.{mask}': {fault.reason}"
  | combineArity ty components => s!"cannot build {ty.wgsl} from {components} components"
  | unknownVary name => s!"no vary slot named '{name}'"
  | missingRoot stage => s!"the {stage.name} root is not set"
  | stageMismatch node stage => s!"{node} cannot be used in the {stage.name} stage"
  | conflictingDeclaration name first second =>
      s!"'{name}' is declared as both {first.describe} and {second.describe}"
  | foreignNode => "node id does not belong to this shader graph"
  | functionLibrary => "failed to parse shader function library"

end ShaderError

end ShaderFlow
