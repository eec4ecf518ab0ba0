/-
Module: ShaderFlow.Shader.Temporary
Purpose: Names of generated temporaries.
Main exports: sanitizeLabel, ShaderNode.variableName
-/
import ShaderFlow.Shader.Node
import ShaderFlow.Text.Blank

namespace ShaderFlow

/-!
A temporary is named after the slot of its node, `_t12`, or after the label of a function node,
`_blur_12`.  The leading underscore keeps temporaries apart from declared names, and the slot, which
follows the last underscore or the letter, keeps them apart from each other.
-/

/-- Keep letters and digits and write an underscore for anything else. -/
def underscored (c : Char) : Char := if c.isAlphanum then c else '_'

/-- A label as part of a name: it starts with a letter and has no underscore at either end. -/
def sanitizeLabel (label : List Char) : List Char :=
  let isUnderscore := fun c => c = '_'
  let cleaned := Text.dropEndWhile isUnderscore ((label.map underscored).dropWhile isUnderscore)
  match cleaned with
  | [] => ['n', 'o', 'd', 'e']
  | first :: _ => if first.isAlpha then cleaned else 'n' :: cleaned

/-- Name of the temporary that holds the value of a node. -/
def ShaderNode.variableName (index : NodeIndex) (node : ShaderNode) : String :=
  match node with
  | .call { label := some label, .. } =>
      String.ofList ('_' :: sanitizeLabel label.toList ++ '_' :: Nat.toDigits 10 index)
  | _ => String.ofList ('_' :: 't' :: Nat.toDigits 10 index)

end ShaderFlow
