/-
Module: ShaderFlow.Shader.Function
Purpose: Named, typed shader functions and the registry that owns them.
Main exports: Parameter, ShaderFunction, FunctionRegistry, FunctionRegistry.register
-/
import ShaderFlow.Shader.Error
import ShaderFlow.Shader.Identifier

namespace ShaderFlow

/-- A named, typed input of a shader function. -/
structure Parameter where
  name : String
  ty : ShaderType
deriving DecidableEq, Repr, Inhabited

/-- A reusable shading operation.  The body is WGSL that is copied as it stands. -/
structure ShaderFunction where
  name : String
  returnType : ShaderType
  inputs : List Parameter := []
  body : String := ""
deriving DecidableEq, Repr, Inhabited

namespace ShaderFunction

/-- Declared type of an input. -/
def inputType? (function : ShaderFunction) (name : String) : Option ShaderType :=
  (function.inputs.find? (·.name = name)).map Parameter.ty

/-- First fault among inputs that follow inputs of the given names. -/
def inputFault? (earlier : List String) : List Parameter → Option FunctionFault
  | [] => none
  | input :: rest =>
      if !isIdentifier input.name then some (.inputName input.name)
      else if input.name ∈ earlier then some (.repeatedInput input.name)
      else inputFault? (input.name :: earlier) rest

/-- First fault of a definition, its own name before its inputs. -/
def fault? (function : ShaderFunction) : Option FunctionFault :=
  if !isIdentifier function.name then some .name else inputFault? [] function.inputs

theorem inputFault?_eq_none_iff {earlier : List String} {inputs : List Parameter} :
    inputFault? earlier inputs = none ↔
      (∀ input ∈ inputs, isIdentifier input.name ∧ input.name ∉ earlier) ∧
        (inputs.map Parameter.name).Nodup := by
  induction inputs generalizing earlier with
  | nil => simp [inputFault?]
  | cons input rest ih =>
    by_cases valid : isIdentifier input.name = true
    · by_cases repeated : input.name ∈ earlier
      · simp [inputFault?, valid, repeated]
      · simp only [inputFault?, valid, Bool.not_true, Bool.false_eq_true, if_false, repeated, ih,
          List.mem_cons, not_or, List.map_cons, List.nodup_cons, forall_eq_or_imp,
          not_false_eq_true, and_true, true_and, List.mem_map, not_exists, not_and]
        constructor
        · rintro ⟨each, distinct⟩
          exact ⟨fun other member => ⟨(each other member).1, (each other member).2.2⟩,
            fun other member same => (each other member).2.1 same, distinct⟩
        · rintro ⟨each, fresh, distinct⟩
          exact ⟨fun other member => ⟨(each other member).1,
            fun same => fresh other member same, (each other member).2⟩, distinct⟩
    · simp [inputFault?, valid]

/-- A definition without fault has a valid name and valid, pairwise distinct input names. -/
theorem fault?_eq_none_iff {function : ShaderFunction} :
    function.fault? = none ↔
      isIdentifier function.name ∧ (∀ input ∈ function.inputs, isIdentifier input.name) ∧
        (function.inputs.map Parameter.name).Nodup := by
  by_cases valid : isIdentifier function.name = true
  · simp [fault?, valid, inputFault?_eq_none_iff]
  · simp [fault?, valid]

end ShaderFunction

/-- The definitions that function nodes may invoke, in order of registration.  Names are unique and
every definition is free of faults. -/
structure FunctionRegistry where
  functions : List ShaderFunction
  distinct : (functions.map ShaderFunction.name).Nodup
  sound : ∀ function ∈ functions, function.fault? = none
deriving DecidableEq, Repr

namespace FunctionRegistry

/-- The registry without functions. -/
def empty : FunctionRegistry := ⟨[], .nil, by simp⟩

instance : Inhabited FunctionRegistry := ⟨empty⟩

/-- Number of definitions. -/
def size (registry : FunctionRegistry) : Nat := registry.functions.length

/-- The definition of a given name. -/
def get? (registry : FunctionRegistry) (name : String) : Option ShaderFunction :=
  registry.functions.find? (·.name = name)

/-- Names in order of registration. -/
def names (registry : FunctionRegistry) : List String := registry.functions.map ShaderFunction.name

/-- Add a definition.  Faults are reported before a name that is taken. -/
def register (registry : FunctionRegistry) (function : ShaderFunction) :
    Except ShaderError FunctionRegistry :=
  match faultless : function.fault? with
  | some fault => .error (.invalidFunction function.name fault)
  | none =>
      if taken : function.name ∈ registry.names then .error (.duplicateFunction function.name)
      else
        .ok
          { functions := registry.functions ++ [function]
            distinct := by
              rw [List.map_append, List.nodup_append]
              refine ⟨registry.distinct, by simp, ?_⟩
              intro a ha b hb same
              simp only [List.map_cons, List.map_nil, List.mem_singleton] at hb
              exact taken (hb ▸ same ▸ ha)
            sound := by
              intro other member
              rcases List.mem_append.mp member with old | new
              · exact registry.sound other old
              · rw [List.mem_singleton.mp new]
                exact faultless }

/-- Add definitions one after another; the first failure stops. -/
def registerAll (registry : FunctionRegistry) (functions : List ShaderFunction) :
    Except ShaderError FunctionRegistry :=
  functions.foldlM register registry

theorem functions_register {registry extended : FunctionRegistry} {function : ShaderFunction}
    (ok : registry.register function = .ok extended) :
    extended.functions = registry.functions ++ [function] := by
  unfold register at ok
  split at ok
  · cases ok
  · split at ok
    · cases ok
    · cases ok
      rfl

theorem name_of_get? {registry : FunctionRegistry} {name : String} {function : ShaderFunction}
    (found : registry.get? name = some function) : function.name = name := by
  simpa using List.find?_some found

theorem mem_of_get? {registry : FunctionRegistry} {name : String} {function : ShaderFunction}
    (found : registry.get? name = some function) : function ∈ registry.functions :=
  List.mem_of_find?_eq_some found

end FunctionRegistry

end ShaderFlow
