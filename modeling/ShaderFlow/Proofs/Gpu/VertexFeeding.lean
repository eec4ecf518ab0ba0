/-
Module: ShaderFlow.Proofs.Gpu.VertexFeeding
Purpose: Which compiled programs can be fed from a vertex layout of their own attributes.
Main exports: ShaderType.vertexFormat?_isSome_iff, VertexLayout.holding,
  VertexLayout.exists_attributes_holding_iff, ShaderGraph.feedable_iff
-/
import ShaderFlow.Proofs.Gpu.VertexFields
import ShaderFlow.Proofs.Shader.BoundedLink
import ShaderFlow.Proofs.Shader.Manifests

namespace ShaderFlow

/-!
The layout made of the attributes of a program has one field for each of them, since their names are
distinct; so every field is found, and has the type that the program reads.  What is left is whether
the type has a vertex format.  Matrices have none, and neither authoring nor compiling looks for
matrices among the attributes: the slots between the stages refuse them as they are declared, vertex
attributes do not.
-/

/-- The types with a vertex format are those with components. -/
theorem ShaderType.vertexFormat?_isSome_iff {ty : ShaderType} :
    ty.vertexFormat?.isSome ↔ ty.componentCount?.isSome := by
  cases ty <;> decide

theorem ShaderType.vertexFormat?_eq_none_iff {ty : ShaderType} :
    ty.vertexFormat? = none ↔ ty.componentCount? = none := by
  cases ty <;> decide

/-! ### A layout made of attributes -/

namespace VertexLayout

variable {slot : AttributeSlot} {slots before after : List AttributeSlot} {inputs : List VertexInput}

/-- The layout whose fields are the attributes of a manifest, in order. -/
def holding (slots : List AttributeSlot) : VertexLayout :=
  ⟨slots.map fun slot => (slot.name, slot.ty)⟩

/-- With distinct names, an attribute is fed from its own field, if its type has a format. -/
theorem input_holding (distinct : ((before ++ slot :: after).map AttributeSlot.name).Nodup) :
    (holding (before ++ slot :: after)).input slot =
      match slot.ty.vertexFormat? with
      | some format =>
          .ok { format, offset := sizeOf (holding before).fields, location := slot.location }
      | none => .error (.vertexLayout slot.name (.notAttribute slot.ty)) := by
  rw [List.map_append, List.map_cons, List.nodup_middle, List.nodup_cons, List.mem_append] at distinct
  have fields : (holding (before ++ slot :: after)).fields =
      (holding before).fields ++ (slot.name, slot.ty) :: (holding after).fields := by
    simp [holding]
  have field : (holding (before ++ slot :: after)).FirstField slot.name slot.ty
      (holding before).fields := by
    refine ⟨⟨_, fields⟩, fun listed => distinct.1 (.inl ?_)⟩
    simpa [holding] using listed
  rw [input, field.fieldType?_eq, field.offsetOf?_eq]
  dsimp only
  refine (if_pos rfl).trans ?_
  cases slot.ty.vertexFormat? <;> rfl

section

variable (distinct : (slots.map AttributeSlot.name).Nodup)
include distinct

theorem exists_input_holding_iff (listed : slot ∈ slots) :
    (∃ result, (holding slots).input slot = .ok result) ↔ slot.ty.vertexFormat?.isSome := by
  obtain ⟨before, after, rfl⟩ := List.append_of_mem listed
  rw [input_holding distinct]
  cases slot.ty.vertexFormat? <;> simp

/-- All attributes are fed iff each of their types has a format. -/
theorem exists_attributes_holding_iff :
    (∃ inputs, (holding slots).attributes slots = .ok inputs) ↔
      ∀ slot ∈ slots, slot.ty.vertexFormat?.isSome := by
  constructor
  · rintro ⟨inputs, fed⟩ slot listed
    obtain ⟨result, _, here⟩ := exists_of_mem_items (mapM_eq_ok_iff.mp fed) listed
    exact (exists_input_holding_iff distinct listed).mp ⟨result, here⟩
  · intro formatted
    exact exists_mapM fun slot listed =>
      (exists_input_holding_iff distinct listed).mpr (formatted slot listed)

/-- What is fed stands in order, each at its location, behind the bytes of all earlier fields. -/
theorem getElem?_attributes_holding (fed : (holding slots).attributes slots = .ok inputs) :
    inputs.length = slots.length ∧ ∀ (position : Nat) slot, slots[position]? = some slot →
      ∃ format, slot.ty.vertexFormat? = some format ∧ inputs[position]? = some
        { format, offset := sizeOf ((holding slots).fields.take position)
          location := slot.location } := by
  have each := mapM_eq_ok_iff.mp fed
  have counted := each.length_eq
  refine ⟨counted.symm, ?_⟩
  intro position slot here
  obtain ⟨inside, rfl⟩ := List.getElem?_eq_some_iff.mp here
  have split : slots = slots.take position ++ slots[position] :: slots.drop (position + 1) := by
    rw [List.cons_getElem_drop_succ, List.take_append_drop]
  have read : (holding slots).input slots[position] = .ok inputs[position] :=
    (List.forall₂_iff_get.mp each).2 position inside (counted ▸ inside)
  have exact := input_holding (split ▸ distinct)
  rw [← split, read] at exact
  cases formatted : slots[position].ty.vertexFormat? with
  | none =>
      rw [formatted] at exact
      cases exact
  | some format =>
      rw [formatted] at exact
      refine ⟨format, rfl, ?_⟩
      rw [List.getElem?_eq_getElem (counted ▸ inside), Except.ok.inj exact, holding, List.map_take]
      rfl

/-- The first attribute whose type has no format is the one that is refused. -/
theorem attributes_holding_eq_error {error : GpuError}
    (refused : (holding slots).attributes slots = .error error) :
    ∃ before slot after, slots = before ++ slot :: after ∧
      (∀ earlier ∈ before, earlier.ty.vertexFormat?.isSome) ∧ slot.ty.vertexFormat? = none ∧
      error = .vertexLayout slot.name (.notAttribute slot.ty) := by
  obtain ⟨before, slot, after, split, succeeded, failed⟩ := mapM_eq_error_iff.mp refused
  refine ⟨before, slot, after, split, ?_, ?_⟩
  · intro earlier listed
    have member : earlier ∈ slots := split ▸ List.mem_append_left _ listed
    exact (exists_input_holding_iff distinct member).mp (succeeded earlier listed)
  · subst split
    rw [input_holding distinct] at failed
    cases formatted : slot.ty.vertexFormat? with
    | none =>
        rw [formatted] at failed
        exact ⟨rfl, (Except.error.inj failed).symm⟩
    | some format =>
        rw [formatted] at failed
        cases failed

end

end VertexLayout

/-! ### Compiled programs -/

/-- Every attribute of a manifest stands at its own place. -/
theorem location_of_getElem?_attributeManifest {nodes : List ShaderNode} {position : Nat}
    {slot : AttributeSlot} (here : (attributeManifest nodes)[position]? = some slot) :
    slot.location = position := by
  rw [attributeManifest, manifestOf, List.getElem?_mapIdx] at here
  obtain ⟨_, _, rfl⟩ := Option.map_eq_some_iff.mp here
  rfl

/-- Every attribute of a manifest is read by one of the nodes. -/
theorem mem_of_mem_attributeManifest {nodes : List ShaderNode} {slot : AttributeSlot}
    (listed : slot ∈ attributeManifest nodes) : .vertexAttribute slot.name slot.ty ∈ nodes := by
  obtain ⟨position, inside, rfl⟩ := List.mem_mapIdx.mp listed
  have member := mem_of_mem_firstOfEach (List.getElem_mem inside)
  obtain ⟨node, used, declared⟩ := List.mem_filterMap.mp member
  cases node with
  | vertexAttribute name ty =>
      dsimp only
      rw [← Option.some.inj declared]
      exact used
  | call | uniform | engine | vary | fetch | constant | combine | swizzle => cases declared

/-- The layout whose fields are exactly the attributes of a program. -/
def ProgramDescriptor.ownLayout (descriptor : ProgramDescriptor) : VertexLayout :=
  .holding descriptor.attributes

namespace ShaderGraph

variable {graph : ShaderGraph} {descriptor : ProgramDescriptor}

/-- The attributes of a compiled program: distinct names, each at its place, one for each attribute
that the roots and the slots reach, of its type. -/
structure AttributesOf (graph : ShaderGraph) (slots : List AttributeSlot)
    (vertexRoot fragmentRoot : NodeIndex) : Prop where
  distinct : (slots.map AttributeSlot.name).Nodup
  located : ∀ (position : Nat) slot, slots[position]? = some slot → slot.location = position
  read : ∀ slot ∈ slots, graph.Uses vertexRoot fragmentRoot (.vertexAttribute slot.name slot.ty)
  declared : ∀ name ty, graph.Uses vertexRoot fragmentRoot (.vertexAttribute name ty) →
    ∃ slot ∈ slots, slot.name = name ∧ slot.ty = ty

theorem attributesOf_of_compile (compiled : graph.compile = .ok descriptor) :
    ∃ vertexRoot fragmentRoot, graph.vertexRoot = some vertexRoot ∧
      graph.fragmentRoot = some fragmentRoot ∧
      graph.AttributesOf descriptor.attributes vertexRoot fragmentRoot := by
  obtain ⟨program, link, rfl⟩ := compile_eq_ok_iff.mp compiled
  obtain ⟨vertexRoot, fragmentRoot, resources, names, linked⟩ := linked_of_link link
  obtain ⟨_, vertex⟩ := generated_of_generateStage linked.vertexGenerated
  have vertexOrder := vertex.isOrder
  rw [nodes_vertexOutputs] at vertexOrder
  have attributes := attributesFor_of_addAll linked.attributesAdded
  have manifest : program.descriptor.attributes =
      attributeManifest (program.vertex.order.filterMap graph.nodes.get?) :=
    attributeManifest_of_addAll linked.attributesAdded
  refine ⟨vertexRoot, fragmentRoot, linked.vertexPlaced, linked.fragmentPlaced,
    { distinct := attributes.distinct
      located := fun position slot here => location_of_getElem?_attributeManifest (manifest ▸ here)
      read := fun slot listed => ?_
      declared := fun name ty used =>
        attributes.declared name ty (mem_vertexOrder_of_uses linked used) }⟩
  obtain ⟨index, ordered, held⟩ := List.mem_filterMap.mp
    (mem_of_mem_attributeManifest (manifest ▸ listed))
  exact ⟨index, held, .inl ((vertexOrder.mem_iff index).mp ordered)⟩

/-- Which compiled programs can be fed.  The layout of exactly the attributes of a program is accepted
iff no attribute of matrix type is reached from a root or a slot.  If it is accepted, there is one
vertex input for each attribute, at its place in the manifest, with the format of its type and behind
the bytes of the attributes before it; otherwise the first matrix among the attributes is named as
what cannot be fed. -/
theorem feedable_iff (compiled : graph.compile = .ok descriptor) :
    ∃ vertexRoot fragmentRoot, graph.vertexRoot = some vertexRoot ∧
      graph.fragmentRoot = some fragmentRoot ∧
      ((∃ inputs, descriptor.ownLayout.attributes descriptor.attributes = .ok inputs) ↔
        ∀ name ty, graph.Uses vertexRoot fragmentRoot (.vertexAttribute name ty) →
          ty.componentCount?.isSome) ∧
      (∀ inputs, descriptor.ownLayout.attributes descriptor.attributes = .ok inputs →
        inputs.length = descriptor.attributes.length ∧
          ∀ (position : Nat) slot, descriptor.attributes[position]? = some slot →
            slot.location = position ∧
            ∃ format, slot.ty.vertexFormat? = some format ∧ inputs[position]? = some
              { format, location := position,
                offset := VertexLayout.sizeOf (descriptor.ownLayout.fields.take position) }) ∧
      ∀ error, descriptor.ownLayout.attributes descriptor.attributes = .error error →
        ∃ before slot after, descriptor.attributes = before ++ slot :: after ∧
          (∀ earlier ∈ before, earlier.ty.componentCount?.isSome) ∧
          slot.ty.componentCount? = none ∧
          error = .vertexLayout slot.name (.notAttribute slot.ty) := by
  obtain ⟨vertexRoot, fragmentRoot, vertexPlaced, fragmentPlaced, attributes⟩ :=
    attributesOf_of_compile compiled
  have distinct := attributes.distinct
  refine ⟨vertexRoot, fragmentRoot, vertexPlaced, fragmentPlaced, ?_, ?_, ?_⟩
  · rw [ProgramDescriptor.ownLayout, VertexLayout.exists_attributes_holding_iff distinct]
    simp only [ShaderType.vertexFormat?_isSome_iff]
    constructor
    · intro formatted name ty used
      obtain ⟨slot, listed, _, rfl⟩ := attributes.declared name ty used
      exact formatted slot listed
    · intro formatted slot listed
      exact formatted slot.name slot.ty (attributes.read slot listed)
  · intro inputs fed
    obtain ⟨counted, each⟩ := VertexLayout.getElem?_attributes_holding distinct fed
    refine ⟨counted, fun position slot here => ?_⟩
    have located := attributes.located position slot here
    obtain ⟨format, formatted, read⟩ := each position slot here
    rw [located] at read
    exact ⟨located, format, formatted, read⟩
  · intro error refused
    obtain ⟨before, slot, after, split, formatted, unformatted, named⟩ :=
      VertexLayout.attributes_holding_eq_error distinct refused
    simp only [ShaderType.vertexFormat?_isSome_iff] at formatted
    rw [ShaderType.vertexFormat?_eq_none_iff] at unformatted
    exact ⟨before, slot, after, split, formatted, unformatted, named⟩

/-! ### A program of vectors and a program with a matrix -/

/-- A position and texture coordinates, handed on. -/
def texturedQuad : List AuthoringCall :=
  [.vertexAttribute "position" .vec4, .vertexAttribute "uv" .vec2, .setVary "v_uv" ⟨1, 1⟩,
    .vary "v_uv", .textureFetch "scene" ⟨1, 2⟩, .setVertexRoot ⟨1, 0⟩, .setFragmentRoot ⟨1, 3⟩]

/-- The graph that `texturedQuad` leads to. -/
def texturedQuadGraph : ShaderGraph := (new 1 .empty).authorAll texturedQuad

theorem link_texturedQuadGraph :
    texturedQuadGraph.link.map (fun program => program.attributes) =
      .ok [⟨"position", .vec4, 0⟩, ⟨"uv", .vec2, 1⟩] :=
  map_link_eq_of_linkWithin 9 (by decide +kernel)

/-- Both attributes are fed, so no matrix is among what is reached. -/
theorem feedable_iff_texturedQuadGraph :
    ∃ descriptor, texturedQuadGraph.compile = .ok descriptor ∧
      descriptor.ownLayout.attributes descriptor.attributes =
        .ok [⟨.float32x4, 0, 0⟩, ⟨.float32x2, 16, 1⟩] ∧
      ∀ name ty, texturedQuadGraph.Uses 0 3 (.vertexAttribute name ty) →
        ty.componentCount?.isSome := by
  obtain ⟨program, linked, manifest⟩ := map_eq_ok_iff.mp link_texturedQuadGraph
  have compiled : texturedQuadGraph.compile = .ok program.descriptor :=
    compile_eq_ok_iff.mpr ⟨program, linked, rfl⟩
  have fed : program.descriptor.ownLayout.attributes program.descriptor.attributes =
      .ok [⟨.float32x4, 0, 0⟩, ⟨.float32x2, 16, 1⟩] := by
    rw [ProgramDescriptor.ownLayout, show program.descriptor.attributes = _ from manifest]
    decide +kernel
  obtain ⟨vertexRoot, fragmentRoot, vertexPlaced, fragmentPlaced, accepted, _, _⟩ :=
    feedable_iff compiled
  have vertexRootIs : texturedQuadGraph.vertexRoot = some 0 := by decide +kernel
  have fragmentRootIs : texturedQuadGraph.fragmentRoot = some 3 := by decide +kernel
  cases vertexRootIs.symm.trans vertexPlaced
  cases fragmentRootIs.symm.trans fragmentPlaced
  exact ⟨program.descriptor, compiled, fed, accepted.mp ⟨_, fed⟩⟩

/-- The place of an instance, from its model matrix. -/
def placement : ShaderFunction :=
  { name := "placement", returnType := .vec4, inputs := [⟨"model", .mat4⟩]
    body := "return model[3];" }

theorem distinct_placement : ([placement].map ShaderFunction.name).Nodup := List.nodup_singleton _

theorem sound_placement : ∀ function ∈ [placement], function.fault? = none := by decide +kernel

/-- Every instance has its model matrix as an attribute. -/
def instanced : List AuthoringCall :=
  [.vertexAttribute "model" .mat4, .call "placement", .bind ⟨1, 1⟩ "model" ⟨1, 0⟩,
    .setVertexRoot ⟨1, 1⟩, .constant (.vec4 .one .one .one .one), .setFragmentRoot ⟨1, 2⟩]

/-- The graph that `instanced` leads to. -/
def instancedGraph : ShaderGraph :=
  (new 1 ⟨[placement], distinct_placement, sound_placement⟩).authorAll instanced

theorem link_instancedGraph :
    instancedGraph.link.map (fun program => program.attributes) = .ok [⟨"model", .mat4, 0⟩] :=
  map_link_eq_of_linkWithin 9 (by decide +kernel)

/-- The program compiles, and the layout of its one attribute is refused. -/
theorem instancedGraph_refused :
    instancedGraph.Reachable ∧ ∃ descriptor, instancedGraph.compile = .ok descriptor ∧
      descriptor.ownLayout.fields = [("model", .mat4)] ∧
      descriptor.ownLayout.attributes descriptor.attributes =
        .error (.vertexLayout "model" (.notAttribute .mat4)) := by
  obtain ⟨program, linked, manifest⟩ := map_eq_ok_iff.mp link_instancedGraph
  refine ⟨⟨_, _, _, rfl⟩, program.descriptor, compile_eq_ok_iff.mpr ⟨program, linked, rfl⟩, ?_⟩
  rw [ProgramDescriptor.ownLayout, show program.descriptor.attributes = _ from manifest]
  exact ⟨rfl, by decide +kernel⟩

end ShaderGraph

end ShaderFlow
