/-
Module: ShaderFlow.Proofs.Gpu.ProgramCache
Purpose: What a program holds that the renderer takes from its cache.
Main exports: ProgramRequest, ProgramRun, ProgramRun.descriptor_cached, ProgramDescriptor.Alike,
  GpuBackend.createProgram_transparent_iff
-/
import ShaderFlow.Proofs.Gpu.Session
import ShaderFlow.Proofs.Shader.BoundedLink
import ShaderFlow.Proofs.Shader.SourceDetermines

namespace ShaderFlow

/-!
A key names the label, both sources, both entry points and the vertex layout of a program.  The first
request of a key that is granted decides what all later ones get.  The sources determine everything
about the descriptor but the initial values of the uniforms and who fills them, and these are what
two requests of one key can differ in.
-/

/-- A call of `createProgram`. -/
structure ProgramRequest where
  label : String
  descriptor : ProgramDescriptor
  layout : VertexLayout
deriving DecidableEq, Repr, Inhabited

namespace ProgramRequest

/-- What a request is looked up by. -/
def key (request : ProgramRequest) : ProgramKey :=
  .of request.label request.descriptor request.layout

/-- The step that a request asks for. -/
def perform (request : ProgramRequest) : GpuAction GpuProgram :=
  GpuBackend.createProgram request.label request.descriptor request.layout

/-- The descriptor comes from a graph that calls lead to. -/
def Compiled (request : ProgramRequest) : Prop :=
  ∃ graph : ShaderGraph, graph.Reachable ∧ graph.compile = .ok request.descriptor

end ProgramRequest

/-! ### One request -/

theorem ProgramResources.descriptor_of_create {label : String} {descriptor : ProgramDescriptor}
    {layout : VertexLayout} {device later : Device} {resources : ProgramResources}
    (created : ProgramResources.create label descriptor layout device = (.ok resources, later)) :
    resources.descriptor = descriptor := by
  unfold create at created
  cases inputs : layout.attributes descriptor.attributes with
  | error error =>
      rw [inputs] at created
      cases created
  | ok inputs =>
      simp only [inputs, DeviceM.bind_apply] at created
      generalize (Device.popErrorScope _).1 = failure at created
      cases failure with
      | some message => cases created
      | none =>
          cases created
          rfl

/-- A program whose attributes the layout has and that the shader compiler takes is created. -/
theorem ProgramResources.exists_of_create {label : String} {descriptor : ProgramDescriptor}
    {layout : VertexLayout} {device : Device} {inputs : List VertexInput}
    (accepted : layout.attributes descriptor.attributes = .ok inputs)
    (faultless : device.shaderFailure = none) :
    ∃ resources later, ProgramResources.create label descriptor layout device =
      (.ok resources, later) := by
  have reported : ∀ device : Device, (Device.popErrorScope device).1 = device.shaderFailure :=
    fun _ => rfl
  unfold create
  rw [accepted]
  simp only [DeviceM.bind_apply]
  generalize emitted : (Device.emit .pushErrorScope device).2 = opened
  have kept : (createPipelines label descriptor layout inputs opened).2.shaderFailure = none := by
    subst emitted
    exact faultless
  rw [reported, kept]
  exact ⟨_, _, rfl⟩

/-- A request is served from the cache, or refused like the creation of its resources, or granted
with resources that are then in the cache. -/
theorem ProgramRequest.perform_cases {request : ProgramRequest} {backend next : GpuBackend}
    {outcome : Except GpuError GpuProgram} (performed : request.perform backend = (outcome, next)) :
    (∃ resources, backend.programs.get? request.key = some resources ∧
      outcome = .ok (.ofResources resources) ∧ next.programs = backend.programs) ∨
    backend.programs.get? request.key = none ∧
      ((∃ error device, ProgramResources.create request.label request.descriptor request.layout
            backend.device = (.error error, device) ∧
          outcome = .error error ∧ next.programs = backend.programs) ∨
        ∃ resources, resources.descriptor = request.descriptor ∧
          outcome = .ok (.ofResources resources) ∧
          next.programs = backend.programs.insert request.key resources) := by
  rcases GpuBackend.createProgram_cases request.label request.descriptor request.layout backend with
    ⟨resources, held, ran⟩ |
    ⟨absent, ⟨error, device, failed, ran⟩ | ⟨resources, device, created, ran⟩⟩
  · cases ran.symm.trans performed
    exact .inl ⟨resources, held, rfl, rfl⟩
  · cases ran.symm.trans performed
    exact .inr ⟨absent, .inl ⟨error, device, failed, rfl, rfl⟩⟩
  · cases ran.symm.trans performed
    exact .inr ⟨absent, .inr ⟨resources, ProgramResources.descriptor_of_create created, rfl, rfl⟩⟩

/-- A request is granted if its layout has the attributes and the shader compiler takes it. -/
theorem ProgramRequest.exists_of_perform {request : ProgramRequest} {backend : GpuBackend}
    {inputs : List VertexInput}
    (accepted : request.layout.attributes request.descriptor.attributes = .ok inputs)
    (faultless : backend.device.shaderFailure = none) :
    ∃ program next, request.perform backend = (.ok program, next) := by
  cases performed : request.perform backend with
  | mk outcome next =>
      rcases perform_cases performed with
        ⟨resources, _, rfl, _⟩ | ⟨_, ⟨_, _, failed, _⟩ | ⟨resources, _, rfl, _⟩⟩
      · exact ⟨_, _, rfl⟩
      · obtain ⟨_, _, created⟩ := ProgramResources.exists_of_create accepted faultless
        rw [created] at failed
        cases failed
      · exact ⟨_, _, rfl⟩

/-! ### Runs of requests -/

/-- A run of a new renderer.  The list holds the requests that were granted, in order; between
requests the renderer may do whatever leaves its programs alone. -/
inductive ProgramRun : List ProgramRequest → GpuBackend → Prop where
  | create (surfaceSize : Extent) (limit : Nat) (device : Device) :
      ProgramRun [] (.create surfaceSize limit device)
  | other {granted : List ProgramRequest} {backend next : GpuBackend}
      (run : ProgramRun granted backend) (kept : next.programs = backend.programs) :
      ProgramRun granted next
  | granted {granted : List ProgramRequest} {backend next : GpuBackend} {request : ProgramRequest}
      {program : GpuProgram} (run : ProgramRun granted backend) (compiled : request.Compiled)
      (performed : request.perform backend = (.ok program, next)) :
      ProgramRun (granted ++ [request]) next
  | refused {granted : List ProgramRequest} {backend next : GpuBackend} {request : ProgramRequest}
      {error : GpuError} (run : ProgramRun granted backend)
      (performed : request.perform backend = (.error error, next)) :
      ProgramRun granted next

/-- The first request of a key. -/
def firstRequest? (granted : List ProgramRequest) (key : ProgramKey) : Option ProgramRequest :=
  granted.find? (·.key = key)

namespace ProgramRun

variable {granted : List ProgramRequest} {backend next : GpuBackend} {request : ProgramRequest}
  {program : GpuProgram}

theorem firstRequest?_append (key : ProgramKey) :
    firstRequest? (granted ++ [request]) key =
      (firstRequest? granted key).or (if request.key = key then some request else none) := by
  unfold firstRequest?
  rw [List.find?_append, List.find?_singleton]
  simp only [decide_eq_true_eq]

/-- The cache holds, under every key, the descriptor of the first request of the key. -/
theorem descriptor_cached (run : ProgramRun granted backend) (key : ProgramKey) :
    (backend.programs.get? key).map ProgramResources.descriptor =
      (firstRequest? granted key).map ProgramRequest.descriptor := by
  induction run with
  | create => rfl
  | other _ kept ih => rw [kept, ih]
  | refused _ performed ih =>
      rcases ProgramRequest.perform_cases performed with
        ⟨_, _, _, kept⟩ | ⟨_, ⟨_, _, _, _, kept⟩ | ⟨_, _, bad, _⟩⟩
      · rw [kept, ih]
      · rw [kept, ih]
      · cases bad
  | @granted granted backend next request program _ _ performed ih =>
      rw [firstRequest?_append]
      rcases ProgramRequest.perform_cases performed with
        ⟨resources, held, _, kept⟩ | ⟨absent, ⟨_, _, _, bad, _⟩ | ⟨resources, described, _, kept⟩⟩
      · -- After a hit the first request of the key is still an earlier one.
        rw [kept, ih]
        split
        · next same =>
            subst same
            rw [held] at ih
            obtain ⟨first, found, _⟩ := Option.map_eq_some_iff.mp ih.symm
            rw [found, Option.some_or]
        · rw [Option.or_none]
      · cases bad
      · rw [kept, OrderedMap.get?_insert]
        split
        · next same =>
            subst same
            rw [absent] at ih
            rw [Option.map_eq_none_iff.mp ih.symm, Option.none_or, Option.map_some, Option.map_some,
              described]
        · rw [Option.or_none, ih]

/-- A granted request gives the descriptor of the first request of its key, with nothing set and
nothing wired. -/
theorem program_of_granted (run : ProgramRun granted backend)
    (performed : request.perform backend = (.ok program, next)) :
    ∃ first, firstRequest? (granted ++ [request]) request.key = some first ∧
      program.descriptor = first.descriptor ∧ program.values = .empty ∧
      program.textureInputs = .empty := by
  have cached := run.descriptor_cached request.key
  rw [firstRequest?_append, if_pos rfl]
  rcases ProgramRequest.perform_cases performed with
    ⟨resources, held, outcome, _⟩ | ⟨absent, ⟨_, _, _, bad, _⟩ | ⟨resources, described, outcome, _⟩⟩
  · rw [held] at cached
    obtain ⟨first, found, same⟩ := Option.map_eq_some_iff.mp cached.symm
    cases outcome
    rw [found]
    exact ⟨first, rfl, same.symm, rfl, rfl⟩
  · cases bad
  · rw [absent] at cached
    cases outcome
    rw [Option.map_eq_none_iff.mp cached.symm]
    exact ⟨request, rfl, described, rfl, rfl⟩

/-- A request whose key has been granted before cannot fail. -/
theorem granted_again (run : ProgramRun granted backend) {earlier : ProgramRequest}
    (member : earlier ∈ granted) (same : earlier.key = request.key) :
    ∃ program next, request.perform backend = (.ok program, next) := by
  have cached := run.descriptor_cached request.key
  cases performed : request.perform backend with
  | mk outcome next =>
      rcases ProgramRequest.perform_cases performed with ⟨resources, _, rfl, _⟩ | ⟨absent, _⟩
      · exact ⟨_, _, rfl⟩
      · rw [absent] at cached
        have none_found := List.find?_eq_none.mp (Option.map_eq_none_iff.mp cached.symm)
        exact absurd (decide_eq_true same) (none_found earlier member)

theorem compiled_of_mem (run : ProgramRun granted backend) {earlier : ProgramRequest}
    (member : earlier ∈ granted) : earlier.Compiled := by
  induction run with
  | create => cases member
  | other _ _ ih => exact ih member
  | refused _ _ ih => exact ih member
  | granted _ compiled _ ih =>
      rcases List.mem_append.mp member with before | last
      · exact ih before
      · rw [List.mem_singleton.mp last]
        exact compiled

end ProgramRun

/-! ### Descriptors of one key -/

/-- Descriptors that differ at most in what their uniforms start with and in who fills these. -/
structure ProgramDescriptor.Alike (descriptor other : ProgramDescriptor) : Prop where
  attributes : descriptor.attributes = other.attributes
  uniforms : descriptor.uniforms.map UniformSlot.declared = other.uniforms.map UniformSlot.declared
  textures : descriptor.textures = other.textures
  varyings : descriptor.varyings = other.varyings
  vertexSource : descriptor.vertexSource = other.vertexSource
  fragmentSource : descriptor.fragmentSource = other.fragmentSource
  vertexEntry : descriptor.vertexEntry = other.vertexEntry
  fragmentEntry : descriptor.fragmentEntry = other.fragmentEntry

theorem UniformSlot.map_default_engine_iff {slots others : List UniformSlot}
    (declared : slots.map UniformSlot.declared = others.map UniformSlot.declared) :
    slots = others ↔ slots.map UniformSlot.default = others.map UniformSlot.default ∧
      slots.map UniformSlot.engine = others.map UniformSlot.engine := by
  constructor
  · rintro rfl
    exact ⟨rfl, rfl⟩
  · rintro ⟨defaults, engines⟩
    induction slots generalizing others with
    | nil =>
        cases others with
        | nil => rfl
        | cons other others => cases declared
    | cons slot slots ih =>
        cases others with
        | nil => cases declared
        | cons other others =>
            simp only [List.map_cons, List.cons.injEq] at declared defaults engines
            rw [ih declared.2 defaults.2 engines.2]
            cases slot
            cases other
            simp_all [UniformSlot.declared]

/-- Looking up slots by the names of other slots, both lists in the same order of names. -/
theorem UniformSlot.find?_agrees_iff {β : Type} {f : UniformSlot → β}
    {slots others : List UniformSlot}
    (names : slots.map UniformSlot.name = others.map UniformSlot.name)
    (distinct : (slots.map UniformSlot.name).Nodup) :
    (∀ other ∈ others, (slots.find? (·.name = other.name)).map f = some (f other)) ↔
      slots.map f = others.map f := by
  induction slots generalizing others with
  | nil =>
      cases others with
      | nil => simp
      | cons other others => cases names
  | cons slot slots ih =>
      cases others with
      | nil => cases names
      | cons other others =>
          simp only [List.map_cons, List.cons.injEq, List.nodup_cons] at names distinct
          have later : ∀ behind ∈ others,
              (slot :: slots).find? (·.name = behind.name) =
                slots.find? (·.name = behind.name) := by
            intro behind member
            apply List.find?_cons_of_neg
            intro same
            apply distinct.1
            rw [names.2, of_decide_eq_true same]
            exact List.mem_map_of_mem member
          rw [List.forall_mem_cons, List.map_cons, List.map_cons, List.cons.injEq,
            ← ih names.2 distinct.2, List.find?_cons_of_pos (by simpa using names.1),
            Option.map_some, Option.some.injEq]
          refine and_congr_right fun _ => forall₂_congr fun behind member => ?_
          rw [later behind member]

namespace ProgramDescriptor.Alike

variable {descriptor other : ProgramDescriptor}

theorem names (alike : descriptor.Alike other) :
    descriptor.uniforms.map UniformSlot.name = other.uniforms.map UniformSlot.name := by
  have names := congrArg (List.map Prod.fst) alike.uniforms
  rwa [List.map_map, List.map_map] at names

theorem eq_iff (alike : descriptor.Alike other) :
    descriptor = other ↔
      descriptor.uniforms.map UniformSlot.default = other.uniforms.map UniformSlot.default ∧
      descriptor.uniforms.map UniformSlot.engine = other.uniforms.map UniformSlot.engine := by
  rw [← UniformSlot.map_default_engine_iff alike.uniforms]
  constructor
  · rintro rfl
    rfl
  · intro same
    cases descriptor
    cases other
    obtain ⟨attributes, _, textures, varyings, vertexSource, fragmentSource, vertexEntry,
      fragmentEntry⟩ := alike
    simp_all

end ProgramDescriptor.Alike

namespace ProgramRequest

variable {request other : ProgramRequest}

theorem Compiled.uniforms_distinct (compiled : request.Compiled) :
    (request.descriptor.uniforms.map UniformSlot.name).Nodup := by
  obtain ⟨graph, _, compiled⟩ := compiled
  obtain ⟨program, linked, described⟩ := ShaderGraph.compile_eq_ok_iff.mp compiled
  obtain ⟨_, _, _, _, link⟩ := ShaderGraph.linked_of_link linked
  rw [← described, show program.descriptor.uniforms = _ from link.uniforms_eq]
  exact link.sound.uniforms_distinct

/-- A key determines the descriptor, the starts of the uniforms apart. -/
theorem Compiled.alike (compiled : request.Compiled) (otherCompiled : other.Compiled)
    (same : request.key = other.key) : request.descriptor.Alike other.descriptor := by
  obtain ⟨graph, reachable, compiled⟩ := compiled
  obtain ⟨otherGraph, otherReachable, otherCompiled⟩ := otherCompiled
  obtain ⟨program, linked, described⟩ := ShaderGraph.compile_eq_ok_iff.mp compiled
  obtain ⟨otherProgram, otherLinked, otherDescribed⟩ :=
    ShaderGraph.compile_eq_ok_iff.mp otherCompiled
  obtain ⟨_, _, _, _, link⟩ := ShaderGraph.linked_of_link linked
  obtain ⟨_, _, _, _, otherLink⟩ := ShaderGraph.linked_of_link otherLinked
  simp only [key, ProgramKey.of, ProgramKey.mk.injEq, ← described, ← otherDescribed] at same
  obtain ⟨_, vertexSource, fragmentSource, vertexEntry, fragmentEntry, _⟩ := same
  obtain ⟨attributes, textures, varyings, uniforms⟩ :=
    (link.spelled reachable.wellNamed).manifests_eq (otherLink.spelled otherReachable.wellNamed)
      vertexEntry vertexSource
  rw [← described, ← otherDescribed]
  exact ⟨attributes, uniforms, textures, varyings, vertexSource, fragmentSource, vertexEntry,
    fragmentEntry⟩

end ProgramRequest

/-! ### What a granted request gives -/

theorem GpuProgram.uniformValue?_of_unset {program : GpuProgram} (unset : program.values = .empty)
    (name : String) : program.uniformValue? name =
      (program.descriptor.uniform? name).map UniformSlot.default := by
  unfold uniformValue?
  rw [unset, OrderedMap.get?_empty, Option.none_or]

namespace GpuBackend

/-- Programs from the cache.  A granted request gives the descriptor of the first granted request of
its key, with nothing set and nothing wired.  This differs from the descriptor asked for at most in
the defaults and the engine tags of the uniforms, which no key mentions: the values of the uniforms
are the defaults asked for iff the first request had these defaults, the engine tags are the ones
asked for iff it had these tags, and the descriptor is the one asked for iff both. -/
theorem createProgram_transparent_iff {granted : List ProgramRequest} {backend next : GpuBackend}
    {request : ProgramRequest} {program : GpuProgram} (run : ProgramRun granted backend)
    (compiled : request.Compiled) (performed : request.perform backend = (.ok program, next)) :
    ∃ first, firstRequest? (granted ++ [request]) request.key = some first ∧
      first.descriptor.Alike request.descriptor ∧
      program.descriptor = first.descriptor ∧
      program.values = .empty ∧ program.textureInputs = .empty ∧
      ((∀ slot ∈ request.descriptor.uniforms,
          program.uniformValue? slot.name = some slot.default) ↔
        first.descriptor.uniforms.map UniformSlot.default =
          request.descriptor.uniforms.map UniformSlot.default) ∧
      ((∀ slot ∈ request.descriptor.uniforms,
          (program.descriptor.uniform? slot.name).map UniformSlot.engine = some slot.engine) ↔
        first.descriptor.uniforms.map UniformSlot.engine =
          request.descriptor.uniforms.map UniformSlot.engine) ∧
      (program.descriptor = request.descriptor ↔
        first.descriptor.uniforms.map UniformSlot.default =
            request.descriptor.uniforms.map UniformSlot.default ∧
          first.descriptor.uniforms.map UniformSlot.engine =
            request.descriptor.uniforms.map UniformSlot.engine) := by
  obtain ⟨first, found, described, unset, unwired⟩ := run.program_of_granted performed
  have firstCompiled : first.Compiled :=
    (ProgramRun.granted run compiled performed).compiled_of_mem (List.mem_of_find?_eq_some found)
  have sameKey : first.key = request.key := by
    simpa using List.find?_some found
  have alike := firstCompiled.alike compiled sameKey
  refine ⟨first, found, alike, described, unset, unwired, ?_, ?_, ?_⟩
  · simp only [GpuProgram.uniformValue?_of_unset unset, described]
    exact UniformSlot.find?_agrees_iff alike.names firstCompiled.uniforms_distinct
  · rw [described]
    exact UniformSlot.find?_agrees_iff alike.names firstCompiled.uniforms_distinct
  · rw [described]
    exact alike.eq_iff

/-! ### Two requests that differ in a default -/

/-- The same level on all channels. -/
def gray (level : Scalar) : ShaderValue := .vec4 level level level level

/-- A graph whose color is a uniform. -/
def tintGraph (level : Scalar) : ShaderGraph :=
  (ShaderGraph.new 1 .empty).authorAll
    [.constant (.vec4 .zero .zero .zero .one), .uniform "tint" (gray level), .setVertexRoot ⟨1, 0⟩,
      .setFragmentRoot ⟨1, 1⟩]

/-- The program of `tintGraph`. -/
def tintProgram (level : Scalar) : Program :=
  { options := {}
    attributes := []
    uniforms := [⟨"tint", .vec4, gray level, 0, none⟩]
    textures := []
    varyings := []
    vertex := ⟨.vertex, [0], [],
      ⟨[], [⟨.clipPosition, .operand (.constant (.vec4 .zero .zero .zero .one))⟩]⟩⟩
    fragment := ⟨.fragment, [1], [], ⟨[], [⟨.color "frag_color", .operand (.uniform "tint")⟩]⟩⟩ }

/-- A request of `tintProgram` for vertices without fields. -/
def tintRequest (level : Scalar) : ProgramRequest := ⟨"tint", (tintProgram level).descriptor, {}⟩

theorem link_tintGraph {level : Scalar} (either : level = .zero ∨ level = .one) :
    (tintGraph level).link = .ok (tintProgram level) := by
  apply ShaderGraph.link_eq_of_linkWithin 9
  rcases either with rfl | rfl <;> decide +kernel

theorem compiled_tintRequest {level : Scalar} (either : level = .zero ∨ level = .one) :
    (tintRequest level).Compiled :=
  ⟨tintGraph level, ⟨_, _, _, rfl⟩,
    ShaderGraph.compile_eq_ok_iff.mpr ⟨tintProgram level, link_tintGraph either, rfl⟩⟩

/-- The default of a uniform is not part of the key. -/
theorem key_tintRequest (level other : Scalar) :
    (tintRequest level).key = (tintRequest other).key := rfl

theorem firstRequest?_tintRequests :
    firstRequest? ([tintRequest .zero] ++ [tintRequest .one]) (tintRequest .one).key =
      some (tintRequest .zero) :=
  List.find?_cons_of_pos (decide_eq_true (key_tintRequest .zero .one))

theorem uniform?_tintRequest (level : Scalar) :
    (tintRequest level).descriptor.uniform? "tint" = some ⟨"tint", .vec4, gray level, 0, none⟩ :=
  List.find?_cons_of_pos (decide_eq_true rfl)

/-- Both requests are granted, one after the other. -/
theorem tintRequests_granted :
    ∃ backend next program, ProgramRun [tintRequest .zero] backend ∧
      (tintRequest .one).perform backend = (.ok program, next) := by
  obtain ⟨_, backend, first⟩ : ∃ program backend,
      (tintRequest .zero).perform (.create ⟨4, 4⟩ 64 {}) = (.ok program, backend) :=
    ProgramRequest.exists_of_perform rfl rfl
  have run : ProgramRun [tintRequest .zero] backend :=
    .granted (.create ⟨4, 4⟩ 64 {}) (compiled_tintRequest (.inl rfl)) first
  obtain ⟨program, next, second⟩ :=
    run.granted_again List.mem_cons_self (key_tintRequest .zero .one)
  exact ⟨backend, next, program, run, second⟩

/-- The second request gets a program whose uniform has the default of the first. -/
theorem tintRequests_share_default :
    ∃ backend next program, ProgramRun [tintRequest .zero] backend ∧
      (tintRequest .one).Compiled ∧ (tintRequest .one).perform backend = (.ok program, next) ∧
      program.uniformValue? "tint" = some (gray .zero) ∧
      ((tintRequest .one).descriptor.uniform? "tint").map UniformSlot.default =
        some (gray .one) ∧
      gray .zero ≠ gray .one ∧ program.descriptor ≠ (tintRequest .one).descriptor := by
  obtain ⟨backend, next, program, run, performed⟩ := tintRequests_granted
  obtain ⟨first, found, described, unset, _⟩ := run.program_of_granted performed
  cases firstRequest?_tintRequests.symm.trans found
  have unlike : gray .zero ≠ gray .one := by decide +kernel
  have value : program.uniformValue? "tint" = some (gray .zero) := by
    rw [GpuProgram.uniformValue?_of_unset unset, described, uniform?_tintRequest]
    rfl
  have asked : ((tintRequest .one).descriptor.uniform? "tint").map UniformSlot.default =
      some (gray .one) := by
    rw [uniform?_tintRequest]
    rfl
  refine ⟨backend, next, program, run, compiled_tintRequest (.inr rfl), performed, value, asked,
    unlike, ?_⟩
  intro same
  rw [GpuProgram.uniformValue?_of_unset unset, same, asked] at value
  exact unlike (Option.some.inj value).symm

theorem createProgram_transparent_iff_tintRequests :
    ∃ backend next program, ProgramRun [tintRequest .zero] backend ∧
      (tintRequest .one).Compiled ∧ (tintRequest .one).perform backend = (.ok program, next) ∧
      program.descriptor = (tintRequest .zero).descriptor ∧ program.textureInputs = .empty ∧
      (program.descriptor = (tintRequest .one).descriptor ↔
        [gray .zero] = [gray .one] ∧ [(none : Option EngineUniform)] = [none]) := by
  obtain ⟨backend, next, program, run, performed⟩ := tintRequests_granted
  have compiled := compiled_tintRequest (.inr rfl)
  obtain ⟨first, found, _, described, _, unwired, _, _, transparent⟩ :=
    createProgram_transparent_iff run compiled performed
  cases firstRequest?_tintRequests.symm.trans found
  exact ⟨backend, next, program, run, compiled, performed, described, unwired, transparent⟩

end GpuBackend

end ShaderFlow
