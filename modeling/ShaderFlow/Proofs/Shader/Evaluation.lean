/-
Module: ShaderFlow.Proofs.Shader.Evaluation
Purpose: Values of shader nodes, and of the straight-line code of a stage, under any reading of
  the leaves and the operations.
Main exports: Interpretation, Denotes, denotes_unique, Statement, Store,
  Statement.runAll?, StageBody.run?
-/
import ShaderFlow.Shader.StageCode
import Mathlib.Logic.Function.Basic

namespace ShaderFlow

universe u

/-!
The value of a node is defined by recursion over its arguments, without regard to any order of the
nodes or to the edges that the graph records.  The value of an output of straight-line code is what
stands in its target once all statements have run from top to bottom, where targets that are spelled
alike are one variable.  Both leave open what the leaves and the operations are: they take a reading of
them as a parameter.
-/

/-- A reading of the leaves and of the operations of a stage over values of any kind. -/
structure Interpretation (α : Type u) where
  vertexAttribute : String → α
  uniform : String → α
  engine : EngineUniform → α
  vary : String → α
  constant : ShaderValue → α
  /-- A registered function, by name, on its arguments in the order of its parameters. -/
  call : String → List α → α
  fetch : String → α → α
  combine : ShaderType → List α → α
  swizzle : α → String → α

variable {α : Type u}

/-! ### Values of nodes -/

mutual

/-- The value of a node.  A node without value lies on a cycle, outside the arena or above such a
node, or calls a function with an unbound slot. -/
inductive Denotes (reading : Interpretation α) (nodes : ShaderNodes) : NodeIndex → α → Prop where
  | vertexAttribute {index : NodeIndex} {name : String} {ty : ShaderType}
      (held : nodes.get? index = some (.vertexAttribute name ty)) :
      Denotes reading nodes index (reading.vertexAttribute name)
  | uniform {index : NodeIndex} {name : String} {default : ShaderValue}
      (held : nodes.get? index = some (.uniform name default)) :
      Denotes reading nodes index (reading.uniform name)
  | engine {index : NodeIndex} {quantity : EngineUniform}
      (held : nodes.get? index = some (.engine quantity)) :
      Denotes reading nodes index (reading.engine quantity)
  | vary {index : NodeIndex} {name : String} {ty : ShaderType}
      (held : nodes.get? index = some (.vary name ty)) :
      Denotes reading nodes index (reading.vary name)
  | constant {index : NodeIndex} {value : ShaderValue}
      (held : nodes.get? index = some (.constant value)) :
      Denotes reading nodes index (reading.constant value)
  /-- Every parameter has a bound slot; the values are passed in the order of the parameters. -/
  | call {index : NodeIndex} {invocation : FunctionCall} {inputs : List NodeIndex}
      {values : List α} (held : nodes.get? index = some (.call invocation))
      (bound : invocation.function.inputs.map (fun input => invocation.bound.get? input.name) =
        inputs.map some)
      (arguments : DenotesEach reading nodes inputs values) :
      Denotes reading nodes index (reading.call invocation.function.name values)
  | fetch {index coordinate : NodeIndex} {texture : String} {value : α}
      (held : nodes.get? index = some (.fetch texture coordinate))
      (argument : Denotes reading nodes coordinate value) :
      Denotes reading nodes index (reading.fetch texture value)
  | combine {index : NodeIndex} {ty : ShaderType} {parts : List NodeIndex} {values : List α}
      (held : nodes.get? index = some (.combine ty parts))
      (arguments : DenotesEach reading nodes parts values) :
      Denotes reading nodes index (reading.combine ty values)
  | swizzle {index source : NodeIndex} {mask : String} {ty : ShaderType} {value : α}
      (held : nodes.get? index = some (.swizzle source mask ty))
      (argument : Denotes reading nodes source value) :
      Denotes reading nodes index (reading.swizzle value mask)

/-- The values of a list of nodes, in order. -/
inductive DenotesEach (reading : Interpretation α) (nodes : ShaderNodes) :
    List NodeIndex → List α → Prop where
  | nil : DenotesEach reading nodes [] []
  | cons {index : NodeIndex} {indices : List NodeIndex} {value : α} {values : List α}
      (head : Denotes reading nodes index value)
      (rest : DenotesEach reading nodes indices values) :
      DenotesEach reading nodes (index :: indices) (value :: values)

end

mutual

/-- A node has at most one value. -/
theorem denotes_unique {reading : Interpretation α} {nodes : ShaderNodes} :
    ∀ {index : NodeIndex} {value other : α}, Denotes reading nodes index value →
      Denotes reading nodes index other → value = other
  | _, _, _, .vertexAttribute held, second => by cases second <;> simp_all
  | _, _, _, .uniform held, second => by cases second <;> simp_all
  | _, _, _, .engine held, second => by cases second <;> simp_all
  | _, _, _, .vary held, second => by cases second <;> simp_all
  | _, _, _, .constant held, second => by cases second <;> simp_all
  | _, _, _, .call held bound arguments, second => by
      cases second with
      | call held' bound' arguments' =>
          rw [held] at held'
          cases held'
          have same := (List.map_inj_right fun _ _ => Option.some.inj).mp
            (bound.symm.trans bound')
          rw [denotesEach_unique arguments (same ▸ arguments')]
      | _ held' => simp [held] at held'
  | _, _, _, .fetch held argument, second => by
      cases second with
      | fetch held' argument' =>
          rw [held] at held'
          cases held'
          rw [denotes_unique argument argument']
      | _ held' => simp [held] at held'
  | _, _, _, .combine held arguments, second => by
      cases second with
      | combine held' arguments' =>
          rw [held] at held'
          cases held'
          rw [denotesEach_unique arguments arguments']
      | _ held' => simp [held] at held'
  | _, _, _, .swizzle held argument, second => by
      cases second with
      | swizzle held' argument' =>
          rw [held] at held'
          cases held'
          rw [denotes_unique argument argument']
      | _ held' => simp [held] at held'

/-- A list of nodes has at most one list of values. -/
theorem denotesEach_unique {reading : Interpretation α} {nodes : ShaderNodes} :
    ∀ {indices : List NodeIndex} {values others : List α},
      DenotesEach reading nodes indices values →
      DenotesEach reading nodes indices others → values = others
  | _, _, _, .nil, second => by
      cases second
      rfl
  | _, _, _, .cons head rest, second => by
      cases second with
      | cons head' rest' =>
          rw [denotes_unique head head', denotesEach_unique rest rest']

end

/-! ### Values of straight-line code -/

/-- A statement of straight-line code. -/
inductive Statement where
  | declare (binding : LetBinding)
  | assign (assignment : Assignment)

namespace Statement

/-- The variable or field that a statement writes, as it is spelled. -/
def destination : Statement → String
  | declare binding => binding.name
  | assign assignment => assignment.target.text

/-- What a statement computes. -/
def value : Statement → Expression
  | declare binding => binding.value
  | assign assignment => assignment.value

/-- Spelling of a statement. -/
def text (stage : Stage) : Statement → String
  | declare binding => binding.text stage
  | assign assignment => assignment.text stage

end Statement

/-- The code of a stage as one list: its declarations, then its assignments. -/
def StageBody.steps (body : StageBody) : List Statement :=
  body.lets.map .declare ++ body.assignments.map .assign

theorem StageBody.statements_eq_map_text (body : StageBody) (stage : Stage) :
    body.statements stage = body.steps.map (Statement.text stage) := by
  rw [statements, steps, List.map_append, List.map_map, List.map_map]
  rfl

/-- Values of everything that is written so far, temporaries and outputs alike.  What is spelled alike
is one variable. -/
abbrev Store (α : Type u) := String → Option α

/-- The value of an operand; a temporary that is not declared yet has none. -/
def Operand.eval? (reading : Interpretation α) (store : Store α) : Operand → Option α
  | .vertexAttribute name => some (reading.vertexAttribute name)
  | .uniform name => some (reading.uniform name)
  | .engine quantity => some (reading.engine quantity)
  | .vary name => some (reading.vary name)
  | .constant value => some (reading.constant value)
  | .temporary name => store name

/-- The value of an expression, if all its operands have one. -/
def Expression.eval? (reading : Interpretation α) (store : Store α) : Expression → Option α
  | .operand source => source.eval? reading store
  | .call function arguments =>
      (arguments.mapM (Operand.eval? reading store)).map (reading.call function)
  | .fetch texture coordinate => (coordinate.eval? reading store).map (reading.fetch texture)
  | .combine ty parts => (parts.mapM (Operand.eval? reading store)).map (reading.combine ty)
  | .swizzle source mask =>
      (source.eval? reading store).map fun value => reading.swizzle value mask

/-- Run statements from top to bottom.  Reading a temporary before its declaration ends the run without
a result. -/
def Statement.runAll? (reading : Interpretation α) (store : Store α) :
    List Statement → Option (Store α)
  | [] => some store
  | statement :: rest =>
      match statement.value.eval? reading store with
      | none => none
      | some value => runAll? reading (Function.update store statement.destination (some value)) rest

/-- Run the code of a stage, with no variable written at the start. -/
def StageBody.run? (reading : Interpretation α) (body : StageBody) : Option (Store α) :=
  Statement.runAll? reading (fun _ => none) body.steps

variable {reading : Interpretation α} {store final : Store α} {statements : List Statement}

theorem Statement.runAll?_append (later : List Statement) :
    runAll? reading store (statements ++ later) =
      (runAll? reading store statements).bind fun reached => runAll? reading reached later := by
  induction statements generalizing store with
  | nil => rfl
  | cons statement rest ih =>
      rw [List.cons_append, runAll?, runAll?]
      cases statement.value.eval? reading store with
      | none => rfl
      | some value => exact ih

/-- A run only writes what its statements write. -/
theorem Statement.eq_of_runAll? (ran : runAll? reading store statements = some final)
    {name : String} (unwritten : name ∉ statements.map Statement.destination) :
    final name = store name := by
  induction statements generalizing store with
  | nil =>
      cases ran
      rfl
  | cons statement rest ih =>
      rw [List.map_cons, List.mem_cons, not_or] at unwritten
      rw [runAll?] at ran
      cases evaluated : statement.value.eval? reading store with
      | none =>
          rw [evaluated] at ran
          cases ran
      | some value =>
          rw [evaluated] at ran
          rw [ih ran unwritten.2, Function.update_of_ne unwritten.1]

end ShaderFlow
