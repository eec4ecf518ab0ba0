/-
Module: ShaderFlow.Proofs.Shader.Manifests
Purpose: The manifests of a compiled program, given by the nodes that its roots reach.
Main exports: firstOfEach, manifestOf, uniformManifest, textureManifest, attributeManifest,
  varyingManifest, ShaderGraph.declaredSlots, ShaderGraph.manifests_exact
-/
import ShaderFlow.Proofs.Shader.Compilable

namespace ShaderFlow

/-!
A manifest takes the first declaration of each name and numbers what it has taken.  Linking builds it
one node at a time: a name that is there already adds nothing, any other one comes last, with the next
number.  Both sides follow the same law for one more node.
-/

/-! ### First declarations -/

section FirstOfEach

variable {ν α β κ : Type} [DecidableEq κ] {declares : ν → Option α} {key : α → κ}
  {place : Nat → α → β} {view : β → κ} {items : List α} {item : α} {nodes : List ν} {node : ν}
  {name : κ}

/-- The members of a list whose key no earlier member has. -/
def firstOfEach (key : α → κ) : List α → List α
  | [] => []
  | item :: rest => item :: (firstOfEach key rest).filter (key · ≠ key item)

theorem mem_of_mem_firstOfEach (member : item ∈ firstOfEach key items) : item ∈ items := by
  induction items with
  | nil => exact member
  | cons other rest ih =>
      rcases List.mem_cons.mp member with rfl | later
      · exact List.mem_cons_self
      · exact .tail _ (ih (List.mem_filter.mp later).1)

theorem mem_keys_firstOfEach : name ∈ (firstOfEach key items).map key ↔ name ∈ items.map key := by
  induction items with
  | nil => rfl
  | cons item rest ih =>
      by_cases same : name = key item
      · simp [firstOfEach, same]
      · have kept : name ∈ ((firstOfEach key rest).filter (key · ≠ key item)).map key ↔
            name ∈ (firstOfEach key rest).map key := by
          simp only [List.mem_map, List.mem_filter, decide_eq_true_eq]
          constructor
          · rintro ⟨other, ⟨listed, _⟩, rfl⟩
            exact ⟨other, listed, rfl⟩
          · rintro ⟨other, listed, rfl⟩
            exact ⟨other, ⟨listed, same⟩, rfl⟩
        rw [firstOfEach, List.map_cons, List.mem_cons, kept, ih, List.map_cons, List.mem_cons]

theorem mem_firstOfEach_id {names : List κ} : name ∈ firstOfEach id names ↔ name ∈ names := by
  have members : name ∈ (firstOfEach id names).map id ↔ name ∈ names.map id := mem_keys_firstOfEach
  rwa [List.map_id, List.map_id] at members

/-- One more member is left out if its key is there. -/
theorem firstOfEach_append_singleton :
    firstOfEach key (items ++ [item]) =
      if key item ∈ items.map key then firstOfEach key items
      else firstOfEach key items ++ [item] := by
  induction items with
  | nil => rfl
  | cons other rest ih =>
      rw [List.cons_append, firstOfEach, ih, firstOfEach, List.map_cons]
      by_cases later : key item ∈ rest.map key
      · rw [if_pos later, if_pos (List.mem_cons_of_mem _ later)]
      · rw [if_neg later]
        by_cases same : key item = key other
        · rw [if_pos (same ▸ List.mem_cons_self)]
          simp [same]
        · rw [if_neg (by simp [same, later])]
          simp [same]

/-- The first declaration of each name in a list of nodes, each put in its place. -/
def manifestOf (declares : ν → Option α) (key : α → κ) (place : Nat → α → β) (nodes : List ν) :
    List β :=
  (firstOfEach key (nodes.filterMap declares)).mapIdx place

theorem manifestOf_append_none (silent : declares node = none) :
    manifestOf declares key place (nodes ++ [node]) = manifestOf declares key place nodes := by
  rw [manifestOf, List.filterMap_append, List.filterMap_cons_none silent, List.filterMap_nil,
    List.append_nil, manifestOf]

/-- One more declaration takes the next place, unless its name is taken. -/
theorem manifestOf_append_some (named : ∀ position item, view (place position item) = key item)
    (declared : declares node = some item) :
    manifestOf declares key place (nodes ++ [node]) =
      if key item ∈ (manifestOf declares key place nodes).map view then
        manifestOf declares key place nodes
      else manifestOf declares key place nodes ++
        [place (manifestOf declares key place nodes).length item] := by
  have names : (manifestOf declares key place nodes).map view =
      (firstOfEach key (nodes.filterMap declares)).map key :=
    List.ext_getElem (by simp [manifestOf]) (by simp [manifestOf, named])
  simp only [names, mem_keys_firstOfEach]
  rw [manifestOf, List.filterMap_append, List.filterMap_cons_some declared, List.filterMap_nil,
    firstOfEach_append_singleton]
  split
  · rfl
  · rw [List.mapIdx_concat, manifestOf, List.length_mapIdx]

end FirstOfEach

/-! ### What nodes declare -/

namespace ShaderNode

/-- The uniform that a node declares, before it has a place. -/
def uniform? : ShaderNode → Option UniformSlot
  | .uniform name default => some { name, ty := default.ty, default, binding := 0, engine := none }
  | .engine quantity =>
      some { name := quantity.name, ty := quantity.ty, default := .defaultFor quantity.ty
             binding := 0, engine := some quantity }
  | _ => none

/-- The texture that a node samples. -/
def texture? : ShaderNode → Option String
  | .fetch texture _ => some texture
  | _ => none

/-- The attribute that a node reads, before it has a place. -/
def attribute? : ShaderNode → Option AttributeSlot
  | .vertexAttribute name ty => some { name, ty, location := 0 }
  | _ => none

end ShaderNode

/-- The first uniform of each name; uniforms are bound in order. -/
def uniformManifest : List ShaderNode → List UniformSlot :=
  manifestOf ShaderNode.uniform? UniformSlot.name fun position slot =>
    { slot with binding := position }

/-- The first texture of each name, at an even binding, with its sampler after it. -/
def textureManifest : List ShaderNode → List TextureSlot :=
  manifestOf ShaderNode.texture? id fun position name => ⟨name, 2 * position, 2 * position + 1⟩

/-- The first attribute of each name; attributes are located in order. -/
def attributeManifest : List ShaderNode → List AttributeSlot :=
  manifestOf ShaderNode.attribute? AttributeSlot.name fun position slot =>
    { slot with location := position }

section Append

variable {before : List ShaderNode} {node : ShaderNode}

theorem uniformManifest_append (node : ShaderNode) {slot : UniformSlot}
    (declared : node.uniform? = some slot) :
    uniformManifest (before ++ [node]) =
      if slot.name ∈ (uniformManifest before).map UniformSlot.name then uniformManifest before
      else uniformManifest before ++ [{ slot with binding := (uniformManifest before).length }] :=
  manifestOf_append_some (fun _ _ => rfl) declared

theorem textureManifest_append (node : ShaderNode) {name : String}
    (declared : node.texture? = some name) :
    textureManifest (before ++ [node]) =
      if name ∈ (textureManifest before).map TextureSlot.name then textureManifest before
      else textureManifest before ++
        [⟨name, 2 * (textureManifest before).length, 2 * (textureManifest before).length + 1⟩] :=
  manifestOf_append_some (fun _ _ => rfl) declared

theorem attributeManifest_append (node : ShaderNode) {slot : AttributeSlot}
    (declared : node.attribute? = some slot) :
    attributeManifest (before ++ [node]) =
      if slot.name ∈ (attributeManifest before).map AttributeSlot.name then attributeManifest before
      else attributeManifest before ++
        [{ slot with location := (attributeManifest before).length }] :=
  manifestOf_append_some (fun _ _ => rfl) declared

end Append

/-- One varying for each slot, located in order, of the type of the node that produces it. -/
def varyingManifest (nodes : ShaderNodes) (entries : List (String × NodeIndex)) :
    List (Option VaryingSlot) :=
  entries.mapIdx fun position entry =>
    (nodes.get? entry.2).map fun producer => ⟨entry.1, producer.ty, position⟩

/-! ### Collecting -/

namespace Resources

variable {resources later : Resources} {before : List ShaderNode} {node : ShaderNode}

/-- What is collected from a list of nodes. -/
def Lists (resources : Resources) (nodes : List ShaderNode) : Prop :=
  resources.uniforms = uniformManifest nodes ∧ resources.textures = textureManifest nodes

theorem uniforms_of_addUniform {name : String} {default : ShaderValue}
    {engine : Option EngineUniform}
    (added : resources.addUniform name default engine = .ok later) :
    later.textures = resources.textures ∧ later.uniforms =
      if name ∈ resources.uniforms.map UniformSlot.name then resources.uniforms
      else resources.uniforms ++
        [{ name, ty := default.ty, default, binding := resources.uniforms.length, engine }] := by
  obtain ⟨_, _, inner⟩ := bind_eq_ok_iff.mp added
  split at inner
  · next present =>
      cases inner
      exact ⟨rfl, by rw [if_pos (by simpa using present)]⟩
  · next absent =>
      cases inner
      exact ⟨rfl, by rw [if_neg (by simpa using absent)]⟩

theorem textures_of_addTexture {name : String} (added : resources.addTexture name = .ok later) :
    later.uniforms = resources.uniforms ∧ later.textures =
      if name ∈ resources.textures.map TextureSlot.name then resources.textures
      else resources.textures ++
        [⟨name, 2 * resources.textures.length, 2 * resources.textures.length + 1⟩] := by
  obtain ⟨_, _, added⟩ := bind_eq_ok_iff.mp added
  obtain ⟨_, _, inner⟩ := bind_eq_ok_iff.mp added
  split at inner
  · next present =>
      cases inner
      exact ⟨rfl, by rw [if_pos (by simpa using present)]⟩
  · next absent =>
      cases inner
      exact ⟨rfl, by rw [if_neg (by simpa using absent)]⟩

/-- One more node adds what it declares to the manifests. -/
theorem Lists.addNode (lists : resources.Lists before) (added : resources.addNode node = .ok later) :
    later.Lists (before ++ [node]) := by
  obtain ⟨uniforms, textures⟩ := lists
  have sameUniforms (silent : node.uniform? = none) :
      uniformManifest (before ++ [node]) = uniformManifest before := manifestOf_append_none silent
  have sameTextures (silent : node.texture? = none) :
      textureManifest (before ++ [node]) = textureManifest before := manifestOf_append_none silent
  cases node with
  | uniform name default =>
      unfold Resources.addNode at added
      obtain ⟨same, grown⟩ := uniforms_of_addUniform added
      refine ⟨?_, by rw [same, textures, sameTextures rfl]⟩
      rw [grown, uniforms]
      exact (uniformManifest_append (.uniform name default) rfl).symm
  | engine quantity =>
      unfold Resources.addNode at added
      obtain ⟨same, grown⟩ := uniforms_of_addUniform added
      refine ⟨?_, by rw [same, textures, sameTextures rfl]⟩
      rw [grown, uniforms, ShaderValue.ty_defaultFor]
      exact (uniformManifest_append (.engine quantity) rfl).symm
  | fetch texture coordinate =>
      obtain ⟨same, grown⟩ := textures_of_addTexture added
      refine ⟨by rw [same, uniforms, sameUniforms rfl], ?_⟩
      rw [grown, textures]
      exact (textureManifest_append (.fetch texture coordinate) rfl).symm
  | call | vertexAttribute | vary | constant | combine | swizzle =>
      cases added
      exact ⟨uniforms.trans (sameUniforms rfl).symm, textures.trans (sameTextures rfl).symm⟩

theorem lists_of_addAll {nodes : List ShaderNode}
    (collected : nodes.foldlM addNode initial = .ok resources) : resources.Lists nodes :=
  foldlM_invariant (fun before (found : Resources) => found.Lists before)
    (fun _ _ _ _ _ _ lists added => lists.addNode added) ⟨rfl, rfl⟩ collected

end Resources

theorem attributeManifest_of_addAll {names : ModuleNames} {nodes : List ShaderNode}
    {attributes : List AttributeSlot}
    (added : nodes.foldlM (addAttribute names) [] = .ok attributes) :
    attributes = attributeManifest nodes := by
  refine foldlM_invariant (fun before found => found = attributeManifest before) ?_ rfl added
  rintro before found node _ later _ rfl added
  cases node with
  | vertexAttribute name ty =>
      rw [attributeManifest_append (.vertexAttribute name ty) rfl]
      simp only [addAttribute] at added
      split at added
      · next existing present =>
          have taken : name ∈ (attributeManifest before).map AttributeSlot.name :=
            List.mem_map.mpr ⟨existing, List.mem_of_find?_eq_some present,
              by simpa using List.find?_some present⟩
          rw [if_pos taken]
          split at added
          · cases added
            rfl
          · cases added
      · next absent =>
          have fresh : name ∉ (attributeManifest before).map AttributeSlot.name := by
            simpa using absent
          rw [if_neg fresh]
          obtain ⟨_, _, inner⟩ := bind_eq_ok_iff.mp added
          split at inner
          · cases inner
          · cases inner
            rfl
  | call | uniform | engine | vary | fetch | constant | combine | swizzle =>
      cases added
      exact (manifestOf_append_none rfl).symm

theorem varyingManifest_of_addAll {nodes : ShaderNodes} {names : ModuleNames}
    {fragmentOutput : String} {entries : List (String × NodeIndex)} {varyings : List VaryingSlot}
    (added : entries.foldlM (addVarying nodes names fragmentOutput) [] = .ok varyings) :
    varyings.map some = varyingManifest nodes entries := by
  suffices general : varyings.map some = varyingManifest nodes entries ∧
      varyings.length = entries.length from general.1
  refine foldlM_invariant (fun before found => found.map some = varyingManifest nodes before ∧
    found.length = before.length) ?_ ⟨rfl, rfl⟩ added
  rintro before found entry _ later _ ⟨same, counted⟩ added
  obtain ⟨⟨varying, ⟨named, typed⟩, located, rfl⟩, _⟩ := addVarying_eq_ok added
  refine ⟨?_, by simp [counted]⟩
  rw [List.map_append, same, varyingManifest, varyingManifest, List.mapIdx_concat, ← counted,
    ← located, ← named]
  obtain ⟨producer, held, ty⟩ := Option.map_eq_some_iff.mp typed
  rw [held, Option.map_some, ty, List.map_singleton]

/-! ### Agreement -/

/-- The uniform that a node declares is among those collected, but for place and default. -/
theorem Resources.exists_uniform {resources : Resources} {node : ShaderNode} {own : UniformSlot}
    (declares : resources.Declares node) (declared : node.uniform? = some own) :
    ∃ slot ∈ resources.uniforms,
      slot.name = own.name ∧ slot.ty = own.ty ∧ slot.engine = own.engine := by
  cases node with
  | uniform | engine =>
      cases declared
      exact declares
  | call | vertexAttribute | vary | fetch | constant | combine | swizzle => cases declared

theorem Resources.uniform_agrees {resources : Resources} {nodes : List ShaderNode}
    (collected : nodes.foldlM addNode initial = .ok resources) {first second : ShaderNode}
    (firstListed : first ∈ nodes) (secondListed : second ∈ nodes) {one other : UniformSlot}
    (declared : first.uniform? = some one) (declaredToo : second.uniform? = some other)
    (sameName : one.name = other.name) : one.ty = other.ty ∧ one.engine = other.engine := by
  have sound : resources.Sound :=
    foldlM_keeps Sound (fun _ _ _ _ sound added => sound.addNode added) sound_initial collected
  obtain ⟨slot, listed, name, ty, engine⟩ :=
    exists_uniform (declares_of_mem collected first firstListed) declared
  obtain ⟨slotToo, listedToo, nameToo, tyToo, engineToo⟩ :=
    exists_uniform (declares_of_mem collected second secondListed) declaredToo
  have same : slot = slotToo := List.inj_on_of_nodup_map sound.uniforms_distinct listed listedToo
    (name.trans (sameName.trans nameToo.symm))
  subst same
  exact ⟨ty.symm.trans tyToo, engine.symm.trans engineToo⟩

theorem AttributesFor.agrees {names : ModuleNames} {nodes : List ShaderNode}
    {attributes : List AttributeSlot} (found : AttributesFor names nodes attributes)
    {name : String} {ty tyToo : ShaderType} (listed : .vertexAttribute name ty ∈ nodes)
    (listedToo : .vertexAttribute name tyToo ∈ nodes) : ty = tyToo := by
  obtain ⟨slot, member, named, typed⟩ := found.declared name ty listed
  obtain ⟨slotToo, memberToo, namedToo, typedToo⟩ := found.declared name tyToo listedToo
  have same : slot = slotToo :=
    List.inj_on_of_nodup_map found.distinct member memberToo (named.trans namedToo.symm)
  subst same
  exact typed.symm.trans typedToo

namespace ShaderGraph

variable {graph : ShaderGraph} {calls : List AuthoringCall}

/-! ### The order of the slots -/

/-- Names of the vary slots that a run declares, one for each declaration, after those that were
declared before it; a reset forgets them all. -/
def declaredSlots (graph : ShaderGraph) : List AuthoringCall → List String → List String
  | [], names => names
  | call :: rest, names =>
      (graph.author call).declaredSlots rest <|
        match call, graph.perform call with
        | .setVary name _, .ok _ => names ++ [name]
        | .reset _, .ok _ => []
        | _, _ => names

/-- Slots stand in the order of their first declarations. -/
theorem keys_authorAll {names : List String} (initially : graph.varys.keys = firstOfEach id names) :
    (graph.authorAll calls).varys.keys = firstOfEach id (graph.declaredSlots calls names) := by
  induction calls generalizing graph names with
  | nil => exact initially
  | cons call rest ih =>
      refine ih ?_
      cases performed : graph.perform call with
      | error error =>
          simp only [author, performed]
          cases call <;> exact initially
      | ok next =>
          simp only [author, performed]
          have authors := authors_of_perform performed
          cases authors with
          | create creates => cases creates <;> exact initially
          | varySlot =>
              rw [OrderedMap.keys_insert, firstOfEach_append_singleton, initially, List.map_id]
              simp only [mem_firstOfEach_id, id]
          | reset => rfl
          | bind | label | unlabelled | vertexRoot | fragmentRoot | options => exact initially

/-! ### Manifests -/

/-- The roots lead to a node, in one of the stages. -/
def Uses (graph : ShaderGraph) (vertexRoot fragmentRoot : NodeIndex) (node : ShaderNode) : Prop :=
  ∃ index, graph.nodes.get? index = some node ∧
    (graph.nodes.Reached (vertexRoot :: graph.varys.values) index ∨
      graph.nodes.Reached [fragmentRoot] index)

/-- The manifests of a program are given by the nodes that the roots reach: those of the vertex stage
in dependency order, then those of the fragment stage.  Nodes that share a name agree. -/
structure ManifestsOf (graph : ShaderGraph) (descriptor : ProgramDescriptor)
    (vertexRoot fragmentRoot : NodeIndex) (vertexOrder fragmentOrder : List NodeIndex) : Prop where
  vertexPlaced : graph.vertexRoot = some vertexRoot
  fragmentPlaced : graph.fragmentRoot = some fragmentRoot
  vertexOrdered : graph.nodes.orderFrom (vertexRoot :: graph.varys.values) = .ok vertexOrder
  fragmentOrdered : graph.nodes.orderFrom [fragmentRoot] = .ok fragmentOrder
  uniforms : descriptor.uniforms =
    uniformManifest ((vertexOrder ++ fragmentOrder).filterMap graph.nodes.get?)
  textures : descriptor.textures =
    textureManifest ((vertexOrder ++ fragmentOrder).filterMap graph.nodes.get?)
  attributes : descriptor.attributes = attributeManifest (vertexOrder.filterMap graph.nodes.get?)
  varyings : descriptor.varyings.map some = varyingManifest graph.nodes graph.varys.entries
  uniforms_agree : ∀ first second one other, graph.Uses vertexRoot fragmentRoot first →
    graph.Uses vertexRoot fragmentRoot second → first.uniform? = some one →
      second.uniform? = some other → one.name = other.name →
        one.ty = other.ty ∧ one.engine = other.engine
  attributes_agree : ∀ name ty other, graph.Uses vertexRoot fragmentRoot (.vertexAttribute name ty) →
    graph.Uses vertexRoot fragmentRoot (.vertexAttribute name other) → ty = other

theorem orderFrom_of_stageOrder {nodes : ShaderNodes} {outputs : List StageOutput}
    {order : List NodeIndex} (ordered : nodes.stageOrder outputs = .ok order) :
    nodes.orderFrom (outputs.map StageOutput.node) = .ok order := by
  unfold ShaderNodes.stageOrder at ordered
  split at ordered
  · next found =>
      cases ordered
      exact found
  · cases ordered

/-- A used attribute is read in the vertex stage. -/
theorem mem_vertexOrder_of_uses {program : Program} {vertexRoot fragmentRoot : NodeIndex}
    {resources : Resources} {names : ModuleNames}
    (linked : Linked graph vertexRoot fragmentRoot resources names program)
    {name : String} {ty : ShaderType}
    (used : graph.Uses vertexRoot fragmentRoot (.vertexAttribute name ty)) :
    .vertexAttribute name ty ∈ program.vertex.order.filterMap graph.nodes.get? := by
  obtain ⟨_, vertex⟩ := generated_of_generateStage linked.vertexGenerated
  obtain ⟨_, fragment⟩ := generated_of_generateStage linked.fragmentGenerated
  have vertexOrder := vertex.isOrder
  have fragmentOrder := fragment.isOrder
  rw [nodes_vertexOutputs] at vertexOrder
  rw [nodes_fragmentOutputs] at fragmentOrder
  obtain ⟨index, held, reached | reached⟩ := used
  · exact List.mem_filterMap.mpr ⟨index, (vertexOrder.mem_iff index).mpr reached, held⟩
  · -- the fragment stage refuses attributes
    have checked := fragment.checkNode_of_mem ((fragmentOrder.mem_iff index).mpr reached)
    cases (ShaderNodes.stage_of_checkNode held checked).1 name ty rfl

theorem manifestsOf_of_compile {descriptor : ProgramDescriptor}
    (compiled : graph.compile = .ok descriptor) :
    ∃ vertexRoot fragmentRoot vertexOrder fragmentOrder,
      graph.ManifestsOf descriptor vertexRoot fragmentRoot vertexOrder fragmentOrder := by
  obtain ⟨program, link, rfl⟩ := compile_eq_ok_iff.mp compiled
  obtain ⟨vertexRoot, fragmentRoot, resources, names, linked⟩ := linked_of_link link
  obtain ⟨_, vertex⟩ := generated_of_generateStage linked.vertexGenerated
  obtain ⟨_, fragment⟩ := generated_of_generateStage linked.fragmentGenerated
  have lists := Resources.lists_of_addAll linked.collected
  have attributes := attributesFor_of_addAll linked.attributesAdded
  have vertexOrder := vertex.isOrder
  have fragmentOrder := fragment.isOrder
  rw [nodes_vertexOutputs] at vertexOrder
  rw [nodes_fragmentOutputs] at fragmentOrder
  have listed : ∀ node, graph.Uses vertexRoot fragmentRoot node →
      node ∈ (program.vertex.order ++ program.fragment.order).filterMap graph.nodes.get? := by
    rintro node ⟨index, held, reached⟩
    refine List.mem_filterMap.mpr ⟨index, List.mem_append.mpr ?_, held⟩
    exact reached.imp (vertexOrder.mem_iff index).mpr (fragmentOrder.mem_iff index).mpr
  refine ⟨vertexRoot, fragmentRoot, program.vertex.order, program.fragment.order,
    { vertexPlaced := linked.vertexPlaced
      fragmentPlaced := linked.fragmentPlaced
      vertexOrdered := ?_
      fragmentOrdered := orderFrom_of_stageOrder fragment.ordered
      uniforms := linked.uniforms_eq.trans lists.1
      textures := linked.textures_eq.trans lists.2
      attributes := attributeManifest_of_addAll linked.attributesAdded
      varyings := varyingManifest_of_addAll linked.varyingsAdded
      uniforms_agree := ?_
      attributes_agree := ?_ }⟩
  · rw [← orderFrom_of_stageOrder vertex.ordered, nodes_vertexOutputs, vertexRoots]
  · intro first second one other used usedToo
    exact Resources.uniform_agrees linked.collected (listed first used) (listed second usedToo)
  · intro name ty other used usedToo
    exact attributes.agrees (mem_vertexOrder_of_uses linked used)
      (mem_vertexOrder_of_uses linked usedToo)

/-- Manifests equal their definition, for every graph that authoring leads to and that compiles, and
the slots from which the varyings are made stand in the order of their first declarations. -/
theorem manifests_exact {generation : Nat} {registry : FunctionRegistry}
    {calls : List AuthoringCall} {descriptor : ProgramDescriptor}
    (authored : (new generation registry).authorAll calls = graph)
    (compiled : graph.compile = .ok descriptor) :
    (∃ vertexRoot fragmentRoot vertexOrder fragmentOrder,
      graph.ManifestsOf descriptor vertexRoot fragmentRoot vertexOrder fragmentOrder) ∧
    graph.varys.keys = firstOfEach id ((new generation registry).declaredSlots calls []) :=
  ⟨manifestsOf_of_compile compiled, authored ▸ keys_authorAll rfl⟩

/-! ### A name in both stages -/

/-- Both stages use a uniform of one name, by nodes with different defaults. -/
def sharedTint : List AuthoringCall :=
  [.vertexAttribute "uv" .vec2, .uniform "tint" (.vec4 .one .zero .zero .one),
    .swizzle ⟨1, 1⟩ "xy", .combine .vec4 [⟨1, 2⟩, ⟨1, 0⟩], .setVary "v_uv" ⟨1, 0⟩, .vary "v_uv",
    .textureFetch "scene" ⟨1, 4⟩, .swizzle ⟨1, 5⟩ "xy",
    .uniform "tint" (.vec4 .zero .zero .zero .one), .swizzle ⟨1, 7⟩ "zw",
    .combine .vec4 [⟨1, 6⟩, ⟨1, 8⟩], .setVertexRoot ⟨1, 3⟩, .setFragmentRoot ⟨1, 9⟩]

/-- The graph that `sharedTint` leads to. -/
def sharedTintGraph : ShaderGraph := (new 1 .empty).authorAll sharedTint

theorem link_sharedTint :
    sharedTintGraph.link.map (fun program => (program.uniforms, program.textures)) =
      .ok ([⟨"tint", .vec4, .vec4 .one .zero .zero .one, 0, none⟩], [⟨"scene", 0, 1⟩]) :=
  map_link_eq_of_linkWithin 25 (by decide +kernel)

/-- The vertex stage gives the uniform its default, and the slot of the fragment stage is the same. -/
theorem manifests_exact_sharedTint :
    ∃ descriptor, sharedTintGraph.compile = .ok descriptor ∧
      descriptor.uniforms = [⟨"tint", .vec4, .vec4 .one .zero .zero .one, 0, none⟩] ∧
      descriptor.textures = [⟨"scene", 0, 1⟩] ∧
      (∃ vertexRoot fragmentRoot vertexOrder fragmentOrder,
        sharedTintGraph.ManifestsOf descriptor vertexRoot fragmentRoot vertexOrder fragmentOrder) ∧
      sharedTintGraph.varys.keys = ["v_uv"] := by
  obtain ⟨program, linked, manifests⟩ := map_eq_ok_iff.mp link_sharedTint
  have compiled : sharedTintGraph.compile = .ok program.descriptor :=
    compile_eq_ok_iff.mpr ⟨program, linked, rfl⟩
  obtain ⟨found, keys⟩ := manifests_exact (Eq.refl sharedTintGraph) compiled
  refine ⟨program.descriptor, compiled, congrArg Prod.fst manifests, congrArg Prod.snd manifests,
    found, keys.trans ?_⟩
  decide +kernel

end ShaderGraph

end ShaderFlow
