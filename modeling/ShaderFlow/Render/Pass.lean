/-
Module: ShaderFlow.Render.Pass
Purpose: Passes: draw work that writes one target and may read others.
Main exports: Pass, Pass.validate, Pass.describe
-/
import ShaderFlow.Data.OrderedMap
import ShaderFlow.Render.Error
import ShaderFlow.Render.Target
import ShaderFlow.Scalar.Text
import ShaderFlow.Text.Quoted

namespace ShaderFlow

/-- A pass as authored, with programs `π` and draw work `ς`.  Both clears are on by default, with an
opaque black color. -/
structure Pass (π ς : Type) where
  name : String
  /-- Target that the pass renders into. -/
  output : String := screenName
  /-- Draw work, in order. -/
  sources : List ς := []
  /-- Texture slots and the targets read through them. -/
  dependencies : OrderedMap String String := .empty
  clearsColor : Bool := true
  clearsDepth : Bool := true
  clearColor : Color := .black
  /-- Program that replaces the normal materials while the pass draws. -/
  override : Option π := none
deriving DecidableEq, Repr, Inhabited

namespace Pass

variable {π ς ε : Type}

/-- Whether the pass renders to the display surface. -/
def rendersToScreen (pass : Pass π ς) : Bool := pass.output == screenName

/-- Check a pass on its own: offscreen it needs draw work, and it must not read what it writes. -/
def validate (pass : Pass π ς) : Except (RenderError ε) Unit :=
  if pass.sources.isEmpty && !pass.rendersToScreen then .error (.emptyPass pass.name)
  else if pass.dependencies.values.contains pass.output then
    .error (.selfDependency pass.name pass.output)
  else .ok ()

/-- Description of a map from texts to texts that are already described. -/
def describeMap (entries : List (String × String)) : String :=
  let items := entries.map fun entry => s!"{Text.quoted entry.1}: {entry.2}"
  "\x7b" ++ ", ".intercalate items ++ "\x7d"

/-- Description of a color. -/
def describeColor (color : Color) : String :=
  let channels := ", ".intercalate (color.channels.map Scalar.text)
  s!"Vec4({channels})"

/-- Description of a pass on one line. -/
def describe (pass : Pass π ς) : String :=
  let dependencies :=
    describeMap (pass.dependencies.entries.map fun entry => (entry.1, Text.quoted entry.2))
  let fields : List (String × String) :=
    [("name", Text.quoted pass.name), ("output", Text.quoted pass.output),
      ("sources", toString pass.sources.length), ("dependencies", dependencies),
      ("color_clear", toString pass.clearsColor), ("depth_clear", toString pass.clearsDepth),
      ("clear_color", describeColor pass.clearColor),
      ("override_shading", toString pass.override.isSome)]
  "PassNode \x7b " ++ ", ".intercalate (fields.map fun field => s!"{field.1}: {field.2}") ++
    " \x7d"

end Pass

end ShaderFlow
