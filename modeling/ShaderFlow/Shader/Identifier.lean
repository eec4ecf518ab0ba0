/-
Module: ShaderFlow.Shader.Identifier
Purpose: Names that user declarations may bear in generated WGSL.
Main exports: isIdentifier
-/

namespace ShaderFlow

/-!
A declared name starts with an ASCII letter and goes on with ASCII letters, digits and underscores.
A leading underscore is kept for generated temporaries, so these never meet a declared name.  Words
that WGSL reserves, and predeclared names that generated modules refer to, are refused as well.
-/

/-- Keywords and reserved words of WGSL. -/
def reservedWords : List String :=
  ["alias", "break", "case", "const", "const_assert", "continue", "continuing", "default",
    "diagnostic", "discard", "else", "enable", "false", "fn", "for", "if", "let", "loop",
    "override", "requires", "return", "struct", "switch", "true", "var", "while", "NULL", "Self",
    "abstract", "active", "alignas", "alignof", "as", "asm", "asm_fragment", "async", "attribute",
    "auto", "await", "become", "cast", "catch", "class", "co_await", "co_return", "co_yield",
    "coherent", "column_major", "common", "compile", "compile_fragment", "concept", "const_cast",
    "consteval", "constexpr", "constinit", "crate", "debugger", "decltype", "delete", "demote",
    "demote_to_helper", "do", "dynamic_cast", "enum", "explicit", "export", "extends", "extern",
    "external", "fallthrough", "filter", "final", "finally", "friend", "from", "fxgroup", "get",
    "goto", "groupshared", "highp", "impl", "implements", "import", "inline", "instanceof",
    "interface", "layout", "lowp", "macro", "macro_rules", "match", "mediump", "meta", "mod",
    "module", "move", "mut", "mutable", "namespace", "new", "nil", "noexcept", "noinline",
    "nointerpolation", "non_coherent", "noncoherent", "noperspective", "null", "nullptr", "of",
    "operator", "package", "packoffset", "partition", "pass", "patch", "pixelfragment", "precise",
    "precision", "premerge", "priv", "protected", "pub", "public", "readonly", "ref",
    "regardless", "register", "reinterpret_cast", "require", "resource", "restrict", "self",
    "set", "shared", "sizeof", "smooth", "snorm", "static", "static_assert", "static_cast", "std",
    "subroutine", "super", "target", "template", "this", "thread_local", "throw", "trait", "try",
    "type", "typedef", "typeid", "typename", "typeof", "union", "unless", "unorm", "unsafe",
    "unsized", "use", "using", "varying", "virtual", "volatile", "wgsl", "where", "with",
    "writeonly", "yield"]

/-- Predeclared names that generated modules refer to; declaring one would shadow it. -/
def predeclaredNames : List String :=
  ["f32", "vec2", "vec3", "vec4", "mat3x3", "mat4x4", "sampler", "texture_2d", "textureSample",
    "textureSampleLevel"]

/-- ASCII letters, digits and the underscore. -/
def isNameChar (c : Char) : Bool := c.isAlphanum || c == '_'

/-- Whether a text is spelled as a name: a letter, then name characters. -/
def isNameSpelling : List Char → Bool
  | [] => false
  | first :: rest => first.isAlpha && rest.all isNameChar

/-- Whether a name may be declared. -/
def isIdentifier (name : String) : Bool :=
  isNameSpelling name.toList && !reservedWords.contains name && !predeclaredNames.contains name

/-- A text that starts with an underscore is never a declared name. -/
theorem isIdentifier_underscore (rest : List Char) :
    isIdentifier (String.ofList ('_' :: rest)) = false := by
  have notLetter : Char.isAlpha '_' = false := by decide
  simp [isIdentifier, isNameSpelling, notLetter]

end ShaderFlow
