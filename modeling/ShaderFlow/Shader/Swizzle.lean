/-
Module: ShaderFlow.Shader.Swizzle
Purpose: Component selections such as `xyz` or `rg`.
Main exports: Swizzle.resultType
-/
import ShaderFlow.Shader.Error

namespace ShaderFlow

namespace Swizzle

/-- The two alphabets of component names, in component order. -/
def componentSets : List (List Char) := [['x', 'y', 'z', 'w'], ['r', 'g', 'b', 'a']]

/-- The alphabet that all letters of a mask come from. -/
def setOf? (mask : List Char) : Option (List Char) :=
  componentSets.find? fun set => mask.all set.contains

/-- The first letter of a mask that names no component of a vector with `size` components. -/
def outOfRange? (set : List Char) (size : Nat) (mask : List Char) : Option Char :=
  mask.find? fun c => size ≤ set.idxOf c

/-- Type of the selection of a mask from a value: as many components as the mask has letters. -/
def resultType (source : ShaderType) (mask : List Char) : Except SwizzleFault ShaderType :=
  match source.vectorSize? with
  | none => .error .notVector
  | some size =>
      if mask.isEmpty then .error .emptyMask
      else if 4 < mask.length then .error .tooLong
      else
        match setOf? mask with
        | none => .error .mixedSets
        | some set =>
            match outOfRange? set size mask with
            | some component => .error (.outOfRange component source)
            | none =>
                match ShaderType.ofComponentCount? mask.length with
                | some ty => .ok ty
                | none => .error .tooLong

end Swizzle

end ShaderFlow
