/-
Module: ShaderFlow.Shader.CodeLayout
Purpose: Indented lines of generated source.
Main exports: CodeLine, CodeLine.block, renderCode, ShaderFunction.declaration
-/
import ShaderFlow.Shader.Function
import ShaderFlow.Text.Blank

namespace ShaderFlow

/-- A line of generated source and the number of blocks around it. -/
structure CodeLine where
  depth : Nat
  text : String
deriving DecidableEq, Repr, Inhabited

/-- Indentation of one block. -/
def indentation : String := "    "

namespace CodeLine

/-- A line with its indentation and line feed; an empty line is not indented. -/
def render (line : CodeLine) : String :=
  if line.text.isEmpty then "\n"
  else String.join (List.replicate line.depth indentation) ++ line.text ++ "\n"

/-- The lines of a block of foreign text, which keep their own indentation below the given one.
Line feeds around the block and white space at the ends of lines are dropped. -/
def block (depth : Nat) (text : String) : List CodeLine :=
  let isLineFeed := fun c => c = '\n'
  let core := Text.dropEndWhile isLineFeed (text.toList.dropWhile isLineFeed)
  (Text.splitLines core).map fun line => ⟨depth, String.ofList (Text.trimEnd line)⟩

end CodeLine

/-- The text of a list of lines. -/
def renderCode (lines : List CodeLine) : String :=
  lines.foldl (fun text line => text ++ line.render) ""

/-- Parameters as they stand in a declaration. -/
def parameterList (inputs : List Parameter) : String :=
  ", ".intercalate (inputs.map fun input => s!"{input.name}: {input.ty.wgsl}")

/-- Declaration of a shader function. -/
def ShaderFunction.declaration (function : ShaderFunction) : List CodeLine :=
  let header :=
    s!"fn {function.name}({parameterList function.inputs}) -> {function.returnType.wgsl} "
  ⟨0, header ++ "\x7b"⟩ :: CodeLine.block 1 function.body ++ [⟨0, "\x7d"⟩]

end ShaderFlow
