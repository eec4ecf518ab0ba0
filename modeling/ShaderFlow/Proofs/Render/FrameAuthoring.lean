/-
Module: ShaderFlow.Proofs.Render.FrameAuthoring
Purpose: What holds of every frame graph that calls lead to, and why it can be built.
Main exports: AuthoredTarget, FrameCall, FrameGraph.authorAll, FrameGraph.addedPasses,
  FrameGraph.Authors, FrameGraph.WellFormed, FrameGraph.Linked, FrameGraph.buildable_authorAll
-/
import ShaderFlow.Proofs.Graph.Arena
import ShaderFlow.Proofs.Graph.Traversal
import ShaderFlow.Proofs.Outcome
import ShaderFlow.Render.FrameGraph

namespace ShaderFlow

/-!
No call looks for cycles.  They cannot arise because edges go down in rank: passes rank by their
numbers, a target stands just above the pass that renders it, and the screen above everything.  A pass
reads only what an earlier pass renders, so the targets that it depends on stand below it.
-/

/-! ### Calls -/

/-- A target as callers can have one: nothing but the display surface counts as the screen, and that
bears its own name. -/
structure AuthoredTarget where
  target : RenderTarget
  screen_named : target.isScreen = true → target.name = screenName

/-- A call that may change a frame graph. -/
inductive FrameCall (π ς : Type) where
  | addTarget (target : AuthoredTarget)
  | addPass (pass : Pass π ς)

variable {π ς ε : Type}

/-- What a pass must satisfy on its own: offscreen it has draw work, and it does not read what it
writes. -/
structure Pass.Valid (pass : Pass π ς) : Prop where
  drawn : pass.output ≠ screenName → pass.sources ≠ []
  reads_others : pass.output ∉ pass.dependencies.values

theorem Pass.rendersToScreen_iff {pass : Pass π ς} :
    pass.rendersToScreen = true ↔ pass.output = screenName := beq_iff_eq

theorem Pass.validate_eq_ok_iff {pass : Pass π ς} :
    (pass.validate : Except (RenderError ε) Unit) = .ok () ↔ pass.Valid := by
  unfold validate
  constructor
  · intro checked
    split at checked
    · cases checked
    · next drawn =>
        split at checked
        · cases checked
        · next others =>
            constructor
            · intro offscreen empty
              exact drawn (by simp [empty, rendersToScreen, offscreen])
            · simpa using others
  · rintro ⟨drawn, others⟩
    have undrawn : ¬ (pass.sources.isEmpty && !pass.rendersToScreen) = true := by
      simpa [rendersToScreen, not_imp_not] using drawn
    rw [if_neg undrawn, if_neg (by simpa using others)]

namespace FrameGraph

/-- The graph after a call, or the reason why the call fails. -/
def perform (graph : FrameGraph π ς) : FrameCall π ς → Except (RenderError ε) (FrameGraph π ς)
  | .addTarget target => graph.addTarget target.target
  | .addPass pass => graph.addPass pass

variable (ε)

/-- The graph after a call that may fail. -/
def author (graph : FrameGraph π ς) (call : FrameCall π ς) : FrameGraph π ς :=
  match (graph.perform call : Except (RenderError ε) _) with
  | .ok next => next
  | .error _ => graph

/-- The graph after a list of calls, any of which may fail. -/
def authorAll (graph : FrameGraph π ς) (calls : List (FrameCall π ς)) : FrameGraph π ς :=
  calls.foldl (author ε) graph

/-- The pass that a call adds, unless the call fails or adds none. -/
def addedPass (graph : FrameGraph π ς) (call : FrameCall π ς) : List (Pass π ς) :=
  match call, (graph.perform call : Except (RenderError ε) _) with
  | .addPass pass, .ok _ => [pass]
  | _, _ => []

/-- The passes that the successful calls of a list add, in the order of the calls. -/
def addedPasses (graph : FrameGraph π ς) : List (FrameCall π ς) → List (Pass π ς)
  | [] => []
  | call :: rest => graph.addedPass ε call ++ (graph.author ε call).addedPasses rest

variable {ε} {graph next : FrameGraph π ς} {call : FrameCall π ς} {pass : Pass π ς} {name : String}

/-! ### What one call does -/

/-- A target that a pass renders already, and its slot of the arena. -/
def Input (graph : FrameGraph π ς) (name : String) (node : NodeIndex) : Prop :=
  graph.producers.contains name = true ∧ graph.targetNodes.get? name = some node

/-- What a successful call does to a graph. -/
inductive Authors (graph : FrameGraph π ς) : FrameCall π ς → FrameGraph π ς → Prop where
  | target {target : AuthoredTarget} (fresh : target.target.name ∉ graph.targets.keys) :
      Authors graph (.addTarget target) (graph.insertTarget target.target)
  | pass {pass : Pass π ς} {output : NodeIndex} {inputs : List NodeIndex}
      (fresh : pass.name ∉ graph.passes.map Pass.name)
      (placed : graph.targetNodes.get? pass.output = some output) (valid : pass.Valid)
      (found : List.Forall₂ graph.Input pass.dependencies.values inputs)
      (unproduced : graph.producer? pass = none) :
      Authors graph (.addPass pass) (graph.insertPass pass output inputs)

theorem contains_of_dependencyTarget? {target : RenderTarget}
    (found : graph.dependencyTarget? name = some target) : graph.producers.contains name = true := by
  have kept := (Option.filter_eq_some_iff.mp found).2
  exact (Bool.and_eq_true_iff.mp kept).2

theorem inputs_of_inputNodes {names : List String} {nodes : List NodeIndex}
    (found : (graph.inputNodes pass names : Except (RenderError ε) _) = .ok nodes) :
    List.Forall₂ graph.Input names nodes := by
  induction names generalizing nodes with
  | nil =>
      cases found
      exact .nil
  | cons name rest ih =>
      unfold inputNodes at found
      split at found
      · cases found
      · next node looked =>
          obtain ⟨others, later, done⟩ := bind_eq_ok_iff.mp found
          cases done
          obtain ⟨_, produced, placed⟩ := Option.bind_eq_some_iff.mp looked
          exact .cons ⟨contains_of_dependencyTarget? produced, placed⟩ (ih later)

/-- A call that succeeds does what `Authors` says. -/
theorem authors_of_perform (performed : (graph.perform call : Except (RenderError ε) _) = .ok next) :
    graph.Authors call next := by
  cases call with
  | addTarget target =>
      simp only [perform, addTarget] at performed
      split at performed
      · cases performed
      · next absent =>
          cases performed
          exact .target fun present => absent (OrderedMap.contains_iff.mpr present)
  | addPass pass =>
      simp only [perform, addPass] at performed
      split at performed
      · cases performed
      · next fresh =>
          split at performed
          · cases performed
          · next output placed =>
              obtain ⟨_, valid, later⟩ := bind_eq_ok_iff.mp performed
              obtain ⟨inputs, found, last⟩ := bind_eq_ok_iff.mp later
              split at last
              · cases last
              · next unproduced =>
                  cases last
                  refine .pass ?_ placed (Pass.validate_eq_ok_iff.mp valid)
                    (inputs_of_inputNodes found) unproduced
                  simpa using fresh

/-! ### Targets and passes -/

/-- What holds of the targets, the passes and the producers of a graph. -/
structure WellFormed (graph : FrameGraph π ς) : Prop where
  named : ∀ entry ∈ graph.targets.entries, entry.2.name = entry.1
  distinct_targets : (graph.targets.values.map RenderTarget.name).Nodup
  screen_first : ∃ offscreen, graph.targets.entries = (screenName, .screen) :: offscreen ∧
    ∀ entry ∈ offscreen, entry.2.isScreen = false
  distinct_passes : (graph.passes.map Pass.name).Nodup
  valid : ∀ pass ∈ graph.passes, pass.Valid
  outputs : ∀ pass ∈ graph.passes, graph.targets.contains pass.output = true
  /-- An offscreen target is the output of at most one pass. -/
  produced_once : ∀ name ≠ screenName, (graph.passes.map Pass.output).count name ≤ 1
  /-- The producer of a target is the pass that outputs to it. -/
  producer_iff : ∀ name number, graph.producers.get? name = some number ↔
    name ≠ screenName ∧ (graph.passes.map Pass.output)[number]? = some name
  /-- A pass reads only what an earlier pass renders. -/
  inputs : ∀ (number : Nat) pass, graph.passes[number]? = some pass →
    ∀ name ∈ pass.dependencies.values, ∃ producer < number, graph.producers.get? name = some producer

theorem distinct_of_named {targets : OrderedMap String RenderTarget}
    (named : ∀ entry ∈ targets.entries, entry.2.name = entry.1) :
    (targets.values.map RenderTarget.name).Nodup := by
  have names : targets.values.map RenderTarget.name = targets.keys := by
    rw [OrderedMap.values, List.map_map]
    exact List.map_congr_left named
  exact names ▸ targets.distinct

theorem WellFormed.new : (new : FrameGraph π ς).WellFormed where
  named := List.forall_mem_singleton.mpr rfl
  distinct_targets := distinct_of_named (List.forall_mem_singleton.mpr rfl)
  screen_first := ⟨[], rfl, fun _ member => nomatch member⟩
  distinct_passes := .nil
  valid _ member := nomatch member
  outputs _ member := nomatch member
  produced_once _ _ := Nat.zero_le _
  producer_iff _ _ := ⟨fun held => (nomatch held), fun held => (nomatch held.2)⟩
  inputs _ _ held := nomatch held

/-- A target under a new name stands behind the others and is none of the screen. -/
theorem WellFormed.insertTarget {target : AuthoredTarget} (formed : graph.WellFormed)
    (fresh : target.target.name ∉ graph.targets.keys) :
    (graph.insertTarget target.target).WellFormed := by
  have entries : (graph.insertTarget target.target).targets.entries =
      graph.targets.entries ++ [(target.target.name, target.target)] :=
    OrderedMap.entries_insert_of_absent _ fresh
  have named : ∀ entry ∈ (graph.insertTarget target.target).targets.entries,
      entry.2.name = entry.1 := by
    rw [entries, List.forall_mem_append]
    exact ⟨formed.named, List.forall_mem_singleton.mpr rfl⟩
  constructor
  case named => exact named
  case distinct_targets => exact distinct_of_named named
  case screen_first =>
    obtain ⟨offscreen, first, others⟩ := formed.screen_first
    refine ⟨offscreen ++ [(target.target.name, target.target)], ?_, ?_⟩
    · rw [entries, first, List.cons_append]
    · rw [List.forall_mem_append]
      refine ⟨others, List.forall_mem_singleton.mpr (Bool.eq_false_iff.mpr fun screen => ?_)⟩
      apply fresh
      rw [target.screen_named screen, OrderedMap.keys, first]
      exact List.mem_cons_self
  case distinct_passes => exact formed.distinct_passes
  case valid => exact formed.valid
  case outputs =>
    intro pass member
    apply OrderedMap.contains_iff.mpr
    rw [OrderedMap.keys, entries, List.map_append]
    exact List.mem_append_left _ (OrderedMap.contains_iff.mp (formed.outputs pass member))
  case produced_once => exact formed.produced_once
  case producer_iff => exact formed.producer_iff
  case inputs => exact formed.inputs

/-- A pass that may render its output is the first to do so, unless that is the screen. -/
theorem WellFormed.unproduced (formed : graph.WellFormed) (unproduced : graph.producer? pass = none)
    (offscreen : pass.output ≠ screenName) : graph.producers.get? pass.output = none := by
  cases produced : graph.producers.get? pass.output with
  | none => rfl
  | some number =>
      have held := ((formed.producer_iff _ _).mp produced).2
      rw [List.getElem?_map] at held
      obtain ⟨producer, found, _⟩ := Option.map_eq_some_iff.mp held
      simp [producer?, Pass.rendersToScreen, offscreen, produced, found] at unproduced

theorem WellFormed.not_mem_outputs (formed : graph.WellFormed)
    (unproduced : graph.producer? pass = none) (offscreen : pass.output ≠ screenName) :
    pass.output ∉ graph.passes.map Pass.output := by
  intro rendered
  obtain ⟨number, held⟩ := List.mem_iff_getElem?.mp rendered
  have produced := (formed.producer_iff pass.output number).mpr ⟨offscreen, held⟩
  exact nomatch (formed.unproduced unproduced offscreen).symm.trans produced

theorem getElem?_concat_eq_some_iff {α : Type} {items : List α} {last item : α} {index : Nat} :
    (items ++ [last])[index]? = some item ↔
      items[index]? = some item ∨ index = items.length ∧ last = item := by
  rcases Nat.lt_trichotomy index items.length with earlier | rfl | later
  · rw [List.getElem?_append_left earlier]
    simp [Nat.ne_of_lt earlier]
  · simp
  · simp [List.getElem?_append_right (Nat.le_of_lt later), Nat.le_of_lt later,
      Nat.ne_of_gt later, Nat.sub_ne_zero_of_lt later]

/-- A new pass produces its output, unless that is the screen, and nothing else. -/
theorem WellFormed.producers_insertPass (formed : graph.WellFormed)
    (unproduced : graph.producer? pass = none) (output : NodeIndex) (inputs : List NodeIndex)
    (name : String) (number : Nat) :
    (graph.insertPass pass output inputs).producers.get? name = some number ↔
      graph.producers.get? name = some number ∨
        name ≠ screenName ∧ number = graph.passes.length ∧ pass.output = name := by
  simp only [FrameGraph.insertPass, Pass.rendersToScreen_iff]
  split
  · next screen =>
      rw [screen]
      tauto
  · next offscreen =>
      rw [OrderedMap.get?_insert]
      by_cases same : pass.output = name
      · subst same
        simp [formed.unproduced unproduced offscreen, offscreen, eq_comm]
      · simp [same]

theorem WellFormed.insertPass {output : NodeIndex} {inputs : List NodeIndex}
    (formed : graph.WellFormed) (fresh : pass.name ∉ graph.passes.map Pass.name)
    (targeted : graph.targets.contains pass.output = true) (valid : pass.Valid)
    (found : List.Forall₂ graph.Input pass.dependencies.values inputs)
    (unproduced : graph.producer? pass = none) :
    (graph.insertPass pass output inputs).WellFormed := by
  have passes : (graph.insertPass pass output inputs).passes = graph.passes ++ [pass] := rfl
  have producers := formed.producers_insertPass unproduced output inputs
  have producer_iff : ∀ (name : String) (number : Nat),
      (graph.insertPass pass output inputs).producers.get? name = some number ↔
        name ≠ screenName ∧ ((graph.passes ++ [pass]).map Pass.output)[number]? = some name := by
    intro name number
    rw [producers, formed.producer_iff, List.map_append, List.map_singleton,
      getElem?_concat_eq_some_iff, List.length_map, and_or_left]
  constructor
  case named => exact formed.named
  case distinct_targets => exact formed.distinct_targets
  case screen_first => exact formed.screen_first
  case distinct_passes =>
    rw [passes, List.map_append]
    exact List.nodup_append.mpr ⟨formed.distinct_passes, by simp, by simpa using fresh⟩
  case valid =>
    rw [passes, List.forall_mem_append]
    exact ⟨formed.valid, List.forall_mem_singleton.mpr valid⟩
  case outputs =>
    rw [passes, List.forall_mem_append]
    exact ⟨formed.outputs, List.forall_mem_singleton.mpr targeted⟩
  case produced_once =>
    intro name offscreen
    rw [passes, List.map_append, List.count_append, List.map_singleton, List.count_singleton]
    split
    · next same =>
        have first := formed.not_mem_outputs unproduced (ne_of_eq_of_ne (beq_iff_eq.mp same) offscreen)
        rw [← beq_iff_eq.mp same, List.count_eq_zero.mpr first]
    · exact formed.produced_once name offscreen
  case producer_iff => exact producer_iff
  case inputs =>
    intro number other held name member
    rcases getElem?_concat_eq_some_iff.mp held with before | ⟨rfl, rfl⟩
    · obtain ⟨producer, earlier, produced⟩ := formed.inputs number other before name member
      exact ⟨producer, earlier, (producers name producer).mpr (.inl produced)⟩
    · obtain ⟨node, _, input⟩ := exists_of_mem_items found member
      obtain ⟨producer, produced⟩ := Option.isSome_iff_exists.mp input.1
      have output := ((formed.producer_iff name producer).mp produced).2
      obtain ⟨earlier, _⟩ := List.getElem?_eq_some_iff.mp output
      exact ⟨producer, by simpa using earlier, (producers name producer).mpr (.inl produced)⟩

/-! ### The arena -/

/-- Which nodes an edge of the arena may join: a pass and a target that it reads, or a target and a
pass that renders it. -/
inductive Joins (passes : List (Pass π ς)) : FrameNode → FrameNode → Prop where
  | reads {number : Nat} {pass : Pass π ς} {name : String} (held : passes[number]? = some pass)
      (member : name ∈ pass.dependencies.values) : Joins passes (.pass number) (.target name)
  | rendered {number : Nat} {pass : Pass π ς} (held : passes[number]? = some pass) :
      Joins passes (.target pass.output) (.pass number)

theorem Joins.concat {passes : List (Pass π ς)} {parent child : FrameNode}
    (joins : Joins passes parent child) : Joins (passes ++ [pass]) parent child := by
  cases joins with
  | reads held member => exact .reads (getElem?_concat_eq_some_iff.mpr (.inl held)) member
  | rendered held => exact .rendered (getElem?_concat_eq_some_iff.mpr (.inl held))

/-- How the arena stands for targets and passes. -/
structure Linked (graph : FrameGraph π ς) : Prop where
  keys : graph.targetNodes.keys = graph.targets.keys
  slots : ∀ name node, graph.targetNodes.get? name = some node →
    graph.arena.get? node = some (.target name)
  screen : graph.targetNodes.get? screenName = some screenNode
  edges : ∀ node, ∀ dependency ∈ graph.arena.dependencies node, ∃ parent child,
    graph.arena.get? node = some parent ∧ graph.arena.get? dependency = some child ∧
      Joins graph.passes parent child

theorem Linked.new : (new : FrameGraph π ς).Linked where
  keys := rfl
  slots name node held := by
    rw [FrameGraph.new, FrameGraph.insertTarget, OrderedMap.get?_insert] at held
    split at held
    · next same =>
        cases held
        rw [← same]
        rfl
    · cases held
  screen := rfl
  edges node dependency edge := by
    rw [FrameGraph.new, FrameGraph.insertTarget, DependencyGraph.dependencies_add] at edge
    cases edge

theorem Linked.insertTarget {target : RenderTarget} (linked : graph.Linked)
    (fresh : target.name ∉ graph.targets.keys) : (graph.insertTarget target).Linked := by
  have absent : target.name ∉ graph.targetNodes.keys := linked.keys ▸ fresh
  have kept : ∀ node value, graph.arena.get? node = some value →
      (graph.insertTarget target).arena.get? node = some value := by
    intro node value held
    have inside := DependencyGraph.lt_size_of_get? held
    rw [FrameGraph.insertTarget, DependencyGraph.get?_add, if_neg (Nat.ne_of_lt inside), held]
  constructor
  case keys =>
    rw [FrameGraph.insertTarget, OrderedMap.keys_insert, OrderedMap.keys_insert, if_neg absent,
      if_neg fresh, linked.keys]
  case slots =>
    intro name node held
    rw [FrameGraph.insertTarget, OrderedMap.get?_insert] at held
    split at held
    · next same =>
        cases held
        subst same
        exact DependencyGraph.get?_add_size _ _
    · exact kept node _ (linked.slots name node held)
  case screen =>
    have unlike : target.name ≠ screenName := by
      intro same
      apply absent
      rw [same]
      exact OrderedMap.contains_iff.mp (by rw [OrderedMap.contains, linked.screen]; rfl)
    rw [FrameGraph.insertTarget, OrderedMap.get?_insert, if_neg unlike, linked.screen]
  case edges =>
    intro node dependency edge
    rw [FrameGraph.insertTarget, DependencyGraph.dependencies_add] at edge
    obtain ⟨parent, child, above, below, joins⟩ := linked.edges node dependency edge
    exact ⟨parent, child, kept _ _ above, kept _ _ below, joins⟩

theorem Linked.insertPass {output : NodeIndex} {inputs : List NodeIndex} (linked : graph.Linked)
    (placed : graph.targetNodes.get? pass.output = some output)
    (found : List.Forall₂ graph.Input pass.dependencies.values inputs) :
    (graph.insertPass pass output inputs).Linked := by
  have values : ∀ node, (graph.insertPass pass output inputs).arena.get? node =
      if node = graph.arena.size then some (.pass graph.passes.length)
      else graph.arena.get? node := by
    intro node
    rw [FrameGraph.insertPass, DependencyGraph.get?_connect, DependencyGraph.get?_setDependencies,
      DependencyGraph.get?_add]
  have created : (graph.insertPass pass output inputs).arena.get? graph.arena.size =
      some (.pass graph.passes.length) := by
    rw [values, if_pos rfl]
  have kept : ∀ node value, graph.arena.get? node = some value →
      (graph.insertPass pass output inputs).arena.get? node = some value := by
    intro node value held
    rw [values, if_neg (Nat.ne_of_lt (DependencyGraph.lt_size_of_get? held)), held]
  have added : (graph.passes ++ [pass])[graph.passes.length]? = some pass := by simp
  constructor
  case keys => exact linked.keys
  case slots => exact fun name node held => kept node _ (linked.slots name node held)
  case screen => exact linked.screen
  case edges =>
    intro node dependency edge
    rcases DependencyGraph.mem_dependencies_connect edge with before | ⟨rfl, rfl⟩
    · rw [DependencyGraph.dependencies_setDependencies (by simp)] at before
      split at before
      · next new =>
          -- the new pass depends on the slots of the targets that it reads
          subst new
          obtain ⟨name, member, input⟩ := exists_of_mem_results found before
          exact ⟨_, _, created, kept _ _ (linked.slots _ _ input.2), .reads added member⟩
      · rw [DependencyGraph.dependencies_add] at before
        obtain ⟨parent, child, above, below, joins⟩ := linked.edges node dependency before
        exact ⟨parent, child, kept _ _ above, kept _ _ below, joins.concat⟩
    · exact ⟨_, _, kept _ _ (linked.slots _ _ placed), created, .rendered added⟩

/-! ### The rank -/

/-- Rank of a node: passes by their numbers, a target just above its producer, the screen on top. -/
def rank (graph : FrameGraph π ς) : FrameNode → Nat
  | .pass number => 2 * number + 1
  | .target name =>
      if name = screenName then 2 * graph.passes.length
      else ((graph.producers.get? name).map fun number => 2 * number + 2).getD 0

theorem WellFormed.rank_lt {parent child : FrameNode} (formed : graph.WellFormed)
    (joins : Joins graph.passes parent child) : graph.rank child < graph.rank parent := by
  cases joins with
  | @reads number pass name held member =>
      obtain ⟨producer, earlier, produced⟩ := formed.inputs number pass held name member
      have offscreen := ((formed.producer_iff name producer).mp produced).1
      rw [rank, rank, if_neg offscreen, produced]
      simp only [Option.map_some, Option.getD_some]
      omega
  | @rendered number pass held =>
      by_cases screen : pass.output = screenName
      · obtain ⟨inside, _⟩ := List.getElem?_eq_some_iff.mp held
        rw [rank, rank, if_pos screen]
        omega
      · have produced : graph.producers.get? pass.output = some number := by
          rw [formed.producer_iff, List.getElem?_map, held]
          exact ⟨screen, rfl⟩
        rw [rank, rank, if_neg screen, produced]
        simp

/-- Everything that the screen depends on lies in the arena, and nothing of it on a cycle. -/
theorem Linked.sortable (linked : graph.Linked) (formed : graph.WellFormed) :
    graph.arena.Sortable [screenNode] := by
  have contains : ∀ {node value}, graph.arena.get? node = some value →
      graph.arena.contains node = true := fun held =>
    decide_eq_true (DependencyGraph.lt_size_of_get? held)
  apply DependencyGraph.sortable_of_rank fun node => ((graph.arena.get? node).map graph.rank).getD 0
  · exact List.forall_mem_singleton.mpr (contains (linked.slots _ _ linked.screen))
  · intro node dependency edge
    obtain ⟨parent, child, above, below, joins⟩ := linked.edges node dependency edge
    refine ⟨contains below, ?_⟩
    rw [above, below]
    exact formed.rank_lt joins

theorem build_eq_ok (formed : graph.WellFormed) (linked : graph.Linked) :
    ∃ warnings, (graph.build : Except (RenderError ε) _) =
      .ok ({ targets := graph.targets, passes := graph.passes }, warnings) := by
  obtain ⟨order, ordered⟩ := DependencyGraph.exists_orderFrom (linked.sortable formed)
  have found : graph.arena.order screenNode = .ok order := ordered
  refine ⟨graph.buildWarnings (graph.passNumbers order), ?_⟩
  rw [build, found]

/-! ### Runs of calls -/

theorem Authors.wellFormed (authors : graph.Authors call next) (formed : graph.WellFormed)
    (linked : graph.Linked) : next.WellFormed := by
  cases authors with
  | target fresh => exact formed.insertTarget fresh
  | @pass pass _ _ fresh placed valid found unproduced =>
      have targeted : graph.targetNodes.contains pass.output = true := by
        rw [OrderedMap.contains, placed]
        rfl
      rw [OrderedMap.contains_iff, linked.keys, ← OrderedMap.contains_iff] at targeted
      exact formed.insertPass fresh targeted valid found unproduced

theorem Authors.linked (authors : graph.Authors call next) (linked : graph.Linked) :
    next.Linked := by
  cases authors with
  | target fresh => exact linked.insertTarget fresh
  | pass _ placed _ found _ => exact linked.insertPass placed found

/-- A call fails and changes nothing, or does what `Authors` says. -/
theorem author_cases (ε : Type) (graph : FrameGraph π ς) (call : FrameCall π ς) :
    graph.author ε call = graph ∧ graph.addedPass ε call = [] ∨
      graph.Authors call (graph.author ε call) ∧
        (graph.author ε call).passes = graph.passes ++ graph.addedPass ε call := by
  cases performed : (graph.perform call : Except (RenderError ε) _) with
  | error error => simp [author, addedPass, performed]
  | ok next =>
      have authors := authors_of_perform performed
      have same : graph.author ε call = next := by rw [author, performed]
      rw [same]
      refine .inr ⟨authors, ?_⟩
      cases authors with
      | target => simp [addedPass, insertTarget]
      | pass => simp [addedPass, performed, insertPass]

/-- Every list of calls keeps the invariants, and appends the passes that it adds. -/
theorem authorAll_sound (formed : graph.WellFormed) (linked : graph.Linked)
    (calls : List (FrameCall π ς)) :
    (graph.authorAll ε calls).WellFormed ∧ (graph.authorAll ε calls).Linked ∧
      (graph.authorAll ε calls).passes = graph.passes ++ graph.addedPasses ε calls := by
  induction calls generalizing graph with
  | nil => exact ⟨formed, linked, (List.append_nil _).symm⟩
  | cons call rest ih =>
      rcases author_cases ε graph call with ⟨unchanged, none⟩ | ⟨authors, passes⟩
      · simpa [authorAll, addedPasses, unchanged, none] using ih formed linked
      · have later := ih (authors.wellFormed formed linked) (authors.linked linked)
        rw [passes, List.append_assoc] at later
        exact later

/-- Frame graphs can be built.  After every list of calls, whichever of them fail, targets, passes and
producers are in order, and the build succeeds with exactly the passes of the successful calls, in the
order of the calls. -/
theorem buildable_authorAll (calls : List (FrameCall π ς)) :
    ((new : FrameGraph π ς).authorAll ε calls).WellFormed ∧
      ∃ warnings, (((new : FrameGraph π ς).authorAll ε calls).build : Except (RenderError ε) _) =
        .ok ({ targets := (new.authorAll ε calls).targets
               passes := new.addedPasses ε calls }, warnings) := by
  obtain ⟨formed, linked, passes⟩ := authorAll_sound (ε := ε) WellFormed.new Linked.new calls
  have added : ((new : FrameGraph π ς).authorAll ε calls).passes = new.addedPasses ε calls := passes
  refine ⟨formed, ?_⟩
  rw [← added]
  exact build_eq_ok formed linked

end FrameGraph

end ShaderFlow
