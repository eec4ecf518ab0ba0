/-
Module: ShaderFlow.Proofs.Shader.Linking
Purpose: What linking has found and checked when it succeeds.
Main exports: Resources.Sound, VaryingFor, varyings_for, Linked, ShaderGraph.linked_of_link,
  ShaderGraph.compile_eq_ok_iff, Linked.sound
-/
import ShaderFlow.Proofs.Shader.Authoring
import ShaderFlow.Proofs.Shader.Generation
import ShaderFlow.Shader.Descriptor

namespace ShaderFlow

/-!
Everything declared at module scope goes through one table from names to kinds of declarations.  The
table only grows, and never gives one name two kinds, so two declarations of different kinds have
different names.  Declarations of one kind are told apart where they are collected.
-/

/-! ### The table of names -/

namespace ModuleNames

variable {names later : ModuleNames} {name other : String} {kind found : DeclarationKind}

/-- Every name of one table has the same kind in another. -/
def Extends (names later : ModuleNames) : Prop :=
  ∀ name kind, names.get? name = some kind → later.get? name = some kind

theorem Extends.rfl : names.Extends names := fun _ _ held => held

theorem Extends.trans {last : ModuleNames} (first : names.Extends later)
    (second : later.Extends last) : names.Extends last :=
  fun name kind held => second name kind (first name kind held)

theorem get?_of_declare (declared : names.declare name kind = .ok later) :
    later.get? name = some kind := by
  unfold declare at declared
  split at declared
  · next existing held =>
      split at declared
      · next same =>
          cases declared
          rw [held, same]
      · cases declared
  · cases declared
    rw [OrderedMap.get?_insert, if_pos rfl]

theorem extends_of_declare (declared : names.declare name kind = .ok later) :
    names.Extends later := by
  unfold declare at declared
  split at declared
  · split at declared
    · cases declared
      exact .rfl
    · cases declared
  · next absent =>
      cases declared
      intro other found held
      rw [OrderedMap.get?_insert]
      split
      · next same =>
          subst same
          rw [absent] at held
          cases held
      · exact held

theorem extends_of_declareAll {functions : List ShaderFunction}
    (declared : functions.foldlM
      (fun names function => names.declare function.name .function) names = .ok later) :
    names.Extends later ∧ ∀ function ∈ functions, later.get? function.name = some .function := by
  refine foldlM_invariant (fun before table => names.Extends table ∧
    ∀ function ∈ before, table.get? function.name = some .function) ?_ ⟨.rfl, by simp⟩ declared
  rintro before table function _ next _ ⟨grown, present⟩ declaredHere
  have kept := extends_of_declare declaredHere
  refine ⟨grown.trans kept, ?_⟩
  intro other member
  rcases List.mem_append.mp member with earlier | last
  · exact kept _ _ (present other earlier)
  · rw [List.mem_singleton.mp last]
    exact get?_of_declare declaredHere

theorem checkLocal_eq_ok {done : Unit} (checked : names.checkLocal name kind = .ok done) :
    names.get? name = none := by
  unfold checkLocal at checked
  split at checked
  · cases checked
  · assumption

end ModuleNames

/-! ### Resources -/

/-- What a uniform is declared as. -/
def UniformSlot.kind (slot : UniformSlot) : DeclarationKind :=
  match slot.engine with
  | some _ => .engineUniform slot.ty
  | none => .uniform slot.ty

namespace Resources

variable {resources later : Resources}

/-- Everything collected is in the table as what it is, and no two uniforms and no two textures
share a name. -/
structure Sound (resources : Resources) : Prop where
  struct : resources.names.get? vertexOutputStruct = some .vertexOutputStruct
  uniform : ∀ slot ∈ resources.uniforms, resources.names.get? slot.name = some slot.kind
  texture : ∀ slot ∈ resources.textures, resources.names.get? slot.name = some .texture
  sampler : ∀ slot ∈ resources.textures,
    resources.names.get? (samplerName slot.name) = some .sampler
  uniforms_distinct : (resources.uniforms.map UniformSlot.name).Nodup
  textures_distinct : (resources.textures.map TextureSlot.name).Nodup

theorem sound_initial : initial.Sound :=
  ⟨by decide, by simp [initial], by simp [initial], by simp [initial], .nil, .nil⟩

/-- A larger table of names does no harm. -/
theorem Sound.extend {names : ModuleNames} (sound : resources.Sound)
    (extended : resources.names.Extends names) : Sound { resources with names } where
  struct := extended _ _ sound.struct
  uniform slot member := extended _ _ (sound.uniform slot member)
  texture slot member := extended _ _ (sound.texture slot member)
  sampler slot member := extended _ _ (sound.sampler slot member)
  uniforms_distinct := sound.uniforms_distinct
  textures_distinct := sound.textures_distinct

theorem Sound.addUniform {name : String} {default : ShaderValue} {engine : Option EngineUniform}
    (sound : resources.Sound) (added : resources.addUniform name default engine = .ok later) :
    later.Sound := by
  obtain ⟨names, declared, inner⟩ := bind_eq_ok_iff.mp added
  have extended := sound.extend (ModuleNames.extends_of_declare declared)
  split at inner
  · cases inner
    exact extended
  · next absent =>
      cases inner
      refine { extended with uniform := ?_, uniforms_distinct := ?_ }
      · intro slot member
        rcases List.mem_append.mp member with earlier | last
        · exact extended.uniform slot earlier
        · rw [List.mem_singleton.mp last]
          exact ModuleNames.get?_of_declare declared
      · exact nodup_map_append_singleton.mpr ⟨by simpa using absent, sound.uniforms_distinct⟩

theorem Sound.addTexture {name : String} (sound : resources.Sound)
    (added : resources.addTexture name = .ok later) : later.Sound := by
  obtain ⟨first, declaredTexture, added⟩ := bind_eq_ok_iff.mp added
  obtain ⟨names, declaredSampler, inner⟩ := bind_eq_ok_iff.mp added
  have kept := ModuleNames.extends_of_declare declaredSampler
  have extended := sound.extend ((ModuleNames.extends_of_declare declaredTexture).trans kept)
  split at inner
  · cases inner
    exact extended
  · next absent =>
      cases inner
      refine { extended with texture := ?_, sampler := ?_, textures_distinct := ?_ }
      · intro slot member
        rcases List.mem_append.mp member with earlier | last
        · exact extended.texture slot earlier
        · rw [List.mem_singleton.mp last]
          exact kept _ _ (ModuleNames.get?_of_declare declaredTexture)
      · intro slot member
        rcases List.mem_append.mp member with earlier | last
        · exact extended.sampler slot earlier
        · rw [List.mem_singleton.mp last]
          exact ModuleNames.get?_of_declare declaredSampler
      · exact nodup_map_append_singleton.mpr ⟨by simpa using absent, sound.textures_distinct⟩

theorem Sound.addNode {node : ShaderNode} (sound : resources.Sound)
    (added : resources.addNode node = .ok later) : later.Sound := by
  cases node with
  | uniform | engine =>
      unfold Resources.addNode at added
      exact sound.addUniform added
  | fetch => exact sound.addTexture added
  | call | vertexAttribute | vary | constant | combine | swizzle =>
      cases added
      exact sound

end Resources

/-! ### Varyings -/

/-- The varying of a slot: it has the name of the slot and the type of the node that produces it. -/
def VaryingFor (nodes : ShaderNodes) (entry : String × NodeIndex) (varying : VaryingSlot) : Prop :=
  varying.name = entry.1 ∧ (nodes.get? entry.2).map ShaderNode.ty = some varying.ty

variable {nodes : ShaderNodes} {names : ModuleNames} {fragmentOutput : String}

theorem addVarying_eq_ok {varyings later : List VaryingSlot} {entry : String × NodeIndex}
    (added : addVarying nodes names fragmentOutput varyings entry = .ok later) :
    (∃ varying, VaryingFor nodes entry varying ∧ varying.location = varyings.length ∧
      later = varyings ++ [varying]) ∧
    entry.1 ≠ clipPositionField ∧ entry.1 ≠ fragmentOutput := by
  obtain ⟨_, _, inner⟩ := bind_eq_ok_iff.mp added
  dsimp only at inner
  split at inner
  · obtain ⟨_, refused, _⟩ := bind_eq_ok_iff.mp inner
    cases refused
  · next unreserved =>
      split at inner
      · next node held =>
          cases inner
          exact ⟨⟨_, ⟨rfl, by simp [held]⟩, rfl, rfl⟩, not_or.mp unreserved⟩
      · cases inner

/-- There is one varying for each slot, in order. -/
theorem varyings_for {entries : List (String × NodeIndex)} {varyings : List VaryingSlot}
    (added : entries.foldlM (addVarying nodes names fragmentOutput) [] = .ok varyings) :
    List.Forall₂ (VaryingFor nodes) entries varyings := by
  refine foldlM_invariant (List.Forall₂ (VaryingFor nodes)) ?_ .nil added
  rintro before found entry _ later _ related addedHere
  obtain ⟨⟨varying, this, _, rfl⟩, _⟩ := addVarying_eq_ok addedHere
  exact List.rel_append related (.cons this .nil)

/-- No slot that becomes a varying bears a name that the entry points use themselves. -/
theorem unreserved_of_varyings {entries : List (String × NodeIndex)} {varyings : List VaryingSlot}
    (added : entries.foldlM (addVarying nodes names fragmentOutput) [] = .ok varyings) :
    ∀ entry ∈ entries, entry.1 ≠ clipPositionField ∧ entry.1 ≠ fragmentOutput := by
  refine foldlM_invariant (fun before _ => ∀ entry ∈ before,
    entry.1 ≠ clipPositionField ∧ entry.1 ≠ fragmentOutput) ?_ (by simp) added
  intro before _ entry _ _ _ unreserved addedHere
  exact List.forall_mem_append.mpr
    ⟨unreserved, List.forall_mem_singleton.mpr (addVarying_eq_ok addedHere).2⟩

/-! ### Links -/

/-- Everything that linking finds and checks. -/
structure Linked (graph : ShaderGraph) (vertexRoot fragmentRoot : NodeIndex)
    (resources : Resources) (names : ModuleNames) (program : Program) : Prop where
  vertexPlaced : graph.vertexRoot = some vertexRoot
  fragmentPlaced : graph.fragmentRoot = some fragmentRoot
  vertexGenerated : generateStage graph.nodes graph.registry .vertex
    (graph.vertexOutputs vertexRoot) = .ok program.vertex
  fragmentGenerated : generateStage graph.nodes graph.registry .fragment
    (graph.fragmentOutputs fragmentRoot) = .ok program.fragment
  options_eq : program.options = graph.options
  vertexEntry_named : isIdentifier graph.options.vertexEntry
  fragmentEntry_named : isIdentifier graph.options.fragmentEntry
  fragmentOutput_named : isIdentifier graph.options.fragmentOutput
  collected : ((program.vertex.order ++ program.fragment.order).filterMap graph.nodes.get?).foldlM
    Resources.addNode Resources.initial = .ok resources
  uniforms_eq : program.uniforms = resources.uniforms
  textures_eq : program.textures = resources.textures
  declared : (program.vertex.functions ++ program.fragment.functions).foldlM
    (fun names function => names.declare function.name .function) resources.names = .ok names
  attributesAdded : (program.vertex.order.filterMap graph.nodes.get?).foldlM
    (addAttribute names) [] = .ok program.attributes
  varyingsAdded : graph.varys.entries.foldlM
    (addVarying graph.nodes names graph.options.fragmentOutput) [] = .ok program.varyings
  fragmentOutput_local : names.checkLocal graph.options.fragmentOutput .fragmentOutput = .ok ()

namespace ShaderGraph

variable {graph : ShaderGraph} {program : Program}

theorem linked_of_link (linked : graph.link = .ok program) :
    ∃ vertexRoot fragmentRoot resources names,
      Linked graph vertexRoot fragmentRoot resources names program := by
  unfold link at linked
  split at linked
  · next vertexRoot vertexPlaced =>
      split at linked
      · next fragmentRoot fragmentPlaced =>
          obtain ⟨vertex, vertexGenerated, linked⟩ := bind_eq_ok_iff.mp linked
          obtain ⟨fragment, fragmentGenerated, linked⟩ := bind_eq_ok_iff.mp linked
          obtain ⟨_, vertexNamed, linked⟩ := bind_eq_ok_iff.mp linked
          obtain ⟨_, fragmentNamed, linked⟩ := bind_eq_ok_iff.mp linked
          obtain ⟨_, outputNamed, linked⟩ := bind_eq_ok_iff.mp linked
          obtain ⟨resources, collected, linked⟩ := bind_eq_ok_iff.mp linked
          obtain ⟨names, declared, linked⟩ := bind_eq_ok_iff.mp linked
          obtain ⟨attributes, attributesAdded, linked⟩ := bind_eq_ok_iff.mp linked
          obtain ⟨varyings, varyingsAdded, linked⟩ := bind_eq_ok_iff.mp linked
          obtain ⟨_, outputLocal, done⟩ := bind_eq_ok_iff.mp linked
          cases done
          exact ⟨vertexRoot, fragmentRoot, resources, names,
            { vertexPlaced, fragmentPlaced, vertexGenerated, fragmentGenerated, collected, declared,
              attributesAdded, varyingsAdded
              options_eq := rfl
              vertexEntry_named := checkIdentifier_eq_ok_iff.mp vertexNamed
              fragmentEntry_named := checkIdentifier_eq_ok_iff.mp fragmentNamed
              fragmentOutput_named := checkIdentifier_eq_ok_iff.mp outputNamed
              uniforms_eq := rfl
              textures_eq := rfl
              fragmentOutput_local := outputLocal }⟩
      · cases linked
  · cases linked

theorem compile_eq_ok_iff {descriptor : ProgramDescriptor} :
    graph.compile = .ok descriptor ↔
      ∃ program, graph.link = .ok program ∧ program.descriptor = descriptor := by
  unfold compile
  rw [bind_eq_ok_iff]
  simp [pure, Except.pure]

end ShaderGraph

namespace Linked

variable {graph : ShaderGraph} {vertexRoot fragmentRoot : NodeIndex} {resources : Resources}
  {names : ModuleNames} {program : Program}

/-- The resources of a linked program are sound under the final table of names. -/
theorem sound (linked : Linked graph vertexRoot fragmentRoot resources names program) :
    Resources.Sound { resources with names } := by
  have collected : resources.Sound :=
    foldlM_keeps Resources.Sound (fun _ _ _ _ sound added => sound.addNode added)
      Resources.sound_initial linked.collected
  exact collected.extend (ModuleNames.extends_of_declareAll linked.declared).1

/-- The functions of both stages are in the table. -/
theorem declares_function (linked : Linked graph vertexRoot fragmentRoot resources names program)
    {function : ShaderFunction}
    (member : function ∈ program.vertex.functions ∨ function ∈ program.fragment.functions) :
    names.get? function.name = some .function :=
  (ModuleNames.extends_of_declareAll linked.declared).2 function (List.mem_append.mpr member)

end Linked

end ShaderFlow
