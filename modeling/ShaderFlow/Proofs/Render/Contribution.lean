/-
Module: ShaderFlow.Proofs.Render.Contribution
Purpose: A build warns of exactly the passes that nothing on the screen rests on.
Main exports: Contributes, FrameGraph.Wires, FrameGraph.Wired, FrameGraph.Wired.author,
  FrameGraph.mem_passNumbers_iff, FrameGraph.warnings_exact
-/
import ShaderFlow.Proofs.Render.FrameAuthoring

namespace ShaderFlow

/-!
Which passes contribute is said by the passes alone: those that output to the screen do, and so does
whoever renders what a contributing pass reads.  A build walks the arena instead, in which targets
stand between passes.  No edge of the arena joins anything else than the passes say, and no edge that
they ask for is missing, so the walk from the screen meets the nodes of exactly these passes.
-/

variable {π ς ε : Type}

/-- The passes that contribute to the screen, by their numbers: the least set that has every pass
that outputs to the screen, and with any pass the producers of all that it reads. -/
inductive Contributes (passes : List (Pass π ς)) : Nat → Prop where
  | screen {number : Nat} {pass : Pass π ς} (held : passes[number]? = some pass)
      (output : pass.output = screenName) : Contributes passes number
  | producer {reader number : Nat} {pass producer : Pass π ς} (contributes : Contributes passes reader)
      (held : passes[reader]? = some pass) (found : passes[number]? = some producer)
      (read : producer.output ∈ pass.dependencies.values) : Contributes passes number

/-- If any pass contributes, some pass outputs to the screen. -/
theorem Contributes.exists_screen {passes : List (Pass π ς)} {number : Nat}
    (contributes : Contributes passes number) : ∃ pass ∈ passes, pass.output = screenName := by
  induction contributes with
  | screen held output => exact ⟨_, List.mem_of_getElem? held, output⟩
  | producer _ _ _ _ ih => exact ih

namespace FrameGraph

variable {graph next : FrameGraph π ς} {call : FrameCall π ς} {pass : Pass π ς} {number : Nat}
  {node : NodeIndex}

/-! ### No edge is missing -/

/-- A node stands for a pass: the output of the pass has an edge to it, and it has an edge to all that
the pass reads. -/
structure Wires (graph : FrameGraph π ς) (number : Nat) (pass : Pass π ς) (node : NodeIndex) :
    Prop where
  held : graph.arena.get? node = some (.pass number)
  output : ∃ output, graph.targetNodes.get? pass.output = some output ∧
    node ∈ graph.arena.dependencies output
  inputs : ∀ name ∈ pass.dependencies.values, ∃ input, graph.targetNodes.get? name = some input ∧
    input ∈ graph.arena.dependencies node

/-- Every pass has its node. -/
def Wired (graph : FrameGraph π ς) : Prop :=
  ∀ number pass, graph.passes[number]? = some pass → ∃ node, graph.Wires number pass node

/-- A node goes on to stand for its pass as long as nothing is taken away. -/
theorem Wires.mono (wires : graph.Wires number pass node)
    (values : ∀ node value, graph.arena.get? node = some value → next.arena.get? node = some value)
    (slots : ∀ name slot, graph.targetNodes.get? name = some slot →
      next.targetNodes.get? name = some slot)
    (edges : ∀ node, ∀ dependency ∈ graph.arena.dependencies node,
      dependency ∈ next.arena.dependencies node) : next.Wires number pass node where
  held := values node _ wires.held
  output := by
    obtain ⟨output, placed, edge⟩ := wires.output
    exact ⟨output, slots _ _ placed, edges _ _ edge⟩
  inputs name member := by
    obtain ⟨input, placed, edge⟩ := wires.inputs name member
    exact ⟨input, slots _ _ placed, edges _ _ edge⟩

theorem Wired.new : (new : FrameGraph π ς).Wired := by
  intro number pass held
  cases held

theorem Wired.insertTarget {target : RenderTarget} (wired : graph.Wired) (linked : graph.Linked)
    (fresh : target.name ∉ graph.targets.keys) : (graph.insertTarget target).Wired := by
  intro number pass held
  obtain ⟨node, wires⟩ := wired number pass held
  refine ⟨node, wires.mono ?_ ?_ ?_⟩
  · intro node value found
    rw [FrameGraph.insertTarget, DependencyGraph.get?_add,
      if_neg (Nat.ne_of_lt (DependencyGraph.lt_size_of_get? found)), found]
  · intro name slot placed
    have other : target.name ≠ name := by
      rintro rfl
      apply fresh
      rw [← linked.keys, ← OrderedMap.contains_iff, OrderedMap.contains, placed]
      rfl
    rw [FrameGraph.insertTarget, OrderedMap.get?_insert, if_neg other, placed]
  · intro node dependency edge
    rwa [FrameGraph.insertTarget, DependencyGraph.dependencies_add]

theorem Wired.insertPass {output : NodeIndex} {inputs : List NodeIndex} (wired : graph.Wired)
    (linked : graph.Linked) (placed : graph.targetNodes.get? pass.output = some output)
    (found : List.Forall₂ graph.Input pass.dependencies.values inputs) :
    (graph.insertPass pass output inputs).Wired := by
  have values : ∀ node, (graph.insertPass pass output inputs).arena.get? node =
      if node = graph.arena.size then some (.pass graph.passes.length)
      else graph.arena.get? node := by
    intro node
    rw [FrameGraph.insertPass, DependencyGraph.get?_connect, DependencyGraph.get?_setDependencies,
      DependencyGraph.get?_add]
  have edges : ∀ node dependency,
      dependency ∈ (if node = graph.arena.size then inputs else graph.arena.dependencies node) →
        dependency ∈ (graph.insertPass pass output inputs).arena.dependencies node := by
    intro node dependency edge
    apply DependencyGraph.mem_dependencies_connect_of_mem
    rwa [DependencyGraph.dependencies_setDependencies (by simp), DependencyGraph.dependencies_add]
  intro number other held
  rcases getElem?_concat_eq_some_iff.mp held with before | ⟨rfl, rfl⟩
  · obtain ⟨node, wires⟩ := wired number other before
    refine ⟨node, wires.mono ?_ (fun _ _ placed => placed) ?_⟩
    · intro node value found
      rw [values, if_neg (Nat.ne_of_lt (DependencyGraph.lt_size_of_get? found)), found]
    · intro node dependency edge
      obtain ⟨_, _, above, _⟩ := linked.edges node dependency edge
      apply edges
      rwa [if_neg (Nat.ne_of_lt (DependencyGraph.lt_size_of_get? above))]
  · have inside := DependencyGraph.lt_size_of_get? (linked.slots _ _ placed)
    refine ⟨graph.arena.size, ?_, ⟨output, placed, ?_⟩, ?_⟩
    · rw [values, if_pos rfl]
    · apply DependencyGraph.mem_dependencies_connect_self
      simpa using Nat.lt_succ_of_lt inside
    · intro name member
      obtain ⟨input, listed, given⟩ := exists_of_mem_items found member
      exact ⟨input, given.2, edges _ _ (by rwa [if_pos rfl])⟩

theorem Wired.author (wired : graph.Wired) (linked : graph.Linked) (authors : graph.Authors call next) :
    next.Wired := by
  cases authors with
  | target fresh => exact wired.insertTarget linked fresh
  | pass _ placed _ found _ => exact wired.insertPass linked placed found

/-- No run of calls leaves out an edge. -/
theorem wired_authorAll (wired : graph.Wired) (linked : graph.Linked) (calls : List (FrameCall π ς)) :
    (graph.authorAll ε calls).Wired := by
  induction calls generalizing graph with
  | nil => exact wired
  | cons call rest ih =>
      rcases author_cases ε graph call with ⟨unchanged, _⟩ | ⟨authors, _⟩
      · simpa [authorAll, unchanged] using ih wired linked
      · exact ih (wired.author linked authors) (authors.linked linked)

/-! ### The walk from the screen -/

/-- What a node reached from the screen stands for: a contributing pass, the screen, or a target that
a contributing pass reads. -/
def Serves (graph : FrameGraph π ς) : FrameNode → Prop
  | .pass number => Contributes graph.passes number
  | .target name => name = screenName ∨ ∃ reader pass, Contributes graph.passes reader ∧
      graph.passes[reader]? = some pass ∧ name ∈ pass.dependencies.values

/-- An edge leads from what serves the screen to what serves it too. -/
theorem Serves.edge {parent child : FrameNode} (serves : graph.Serves parent)
    (joins : Joins graph.passes parent child) : graph.Serves child := by
  cases joins with
  | reads held member => exact .inr ⟨_, _, serves, held, member⟩
  | rendered held =>
      rcases serves with screen | ⟨reader, pass, contributes, reads, member⟩
      · exact .screen held screen
      · exact .producer contributes reads held member

theorem Linked.serves_of_reached (linked : graph.Linked)
    (reached : graph.arena.Reached [screenNode] node) :
    ∃ value, graph.arena.get? node = some value ∧ graph.Serves value := by
  obtain ⟨root, listed, path⟩ := reached
  induction path with
  | refl =>
      rw [List.mem_singleton.mp listed]
      exact ⟨_, linked.slots _ _ linked.screen, .inl rfl⟩
  | tail _ edge ih =>
      obtain ⟨value, held, serves⟩ := ih
      obtain ⟨parent, child, above, below, joins⟩ := linked.edges _ _ edge
      cases held.symm.trans above
      exact ⟨child, below, serves.edge joins⟩

/-- The node of every contributing pass is reached. -/
theorem Wired.reached_of_contributes (wired : graph.Wired) (linked : graph.Linked)
    (contributes : Contributes graph.passes number) :
    ∃ node pass, graph.passes[number]? = some pass ∧ graph.Wires number pass node ∧
      graph.arena.Reached [screenNode] node := by
  induction contributes with
  | @screen number pass held screen =>
      obtain ⟨node, wires⟩ := wired number pass held
      obtain ⟨output, placed, edge⟩ := wires.output
      rw [screen] at placed
      cases placed.symm.trans linked.screen
      exact ⟨node, pass, held, wires, (DependencyGraph.Reached.root (by simp)).dependency edge⟩
  | @producer reader number pass producer _ held found read ih =>
      obtain ⟨readerNode, same, sameHeld, wires, reached⟩ := ih
      cases sameHeld.symm.trans held
      obtain ⟨input, placed, edge⟩ := wires.inputs _ read
      obtain ⟨node, produced⟩ := wired number producer found
      obtain ⟨output, placedOutput, rendered⟩ := produced.output
      cases placed.symm.trans placedOutput
      exact ⟨node, producer, found, produced, (reached.dependency edge).dependency rendered⟩

/-- The walk from the screen meets the contributing passes and no others. -/
theorem mem_passNumbers_iff (wired : graph.Wired) (linked : graph.Linked) {order : List NodeIndex}
    (isOrder : graph.arena.IsOrder [screenNode] order) :
    number ∈ graph.passNumbers order ↔ Contributes graph.passes number := by
  rw [passNumbers, List.mem_filterMap]
  constructor
  · rintro ⟨node, listed, shown⟩
    obtain ⟨value, held, serves⟩ := linked.serves_of_reached ((isOrder.mem_iff node).mp listed)
    rw [held] at shown
    cases value with
    | target => cases shown
    | pass other =>
        cases shown
        exact serves
  · intro contributes
    obtain ⟨node, pass, _, wires, reached⟩ := wired.reached_of_contributes linked contributes
    refine ⟨node, (isOrder.mem_iff node).mpr reached, ?_⟩
    rw [wires.held]

/-! ### The warnings -/

/-- What a build warns of, given the passes that contribute. -/
theorem mem_buildWarnings_iff {contributing : List Nat} {warning : RenderWarning} :
    warning ∈ graph.buildWarnings contributing ↔
      (warning = .noScreenPass ∧ ∀ pass ∈ graph.passes, pass.output ≠ screenName) ∨
        ∃ number pass, graph.passes[number]? = some pass ∧ number ∉ contributing ∧
          warning = .idlePass pass.name := by
  rw [buildWarnings, List.mem_append]
  apply or_congr
  · by_cases shown : ∃ pass ∈ graph.passes, pass.output = screenName
    · have some : graph.passes.any Pass.rendersToScreen = true := by
        simpa [List.any_eq_true, Pass.rendersToScreen_iff] using shown
      simp only [some, if_true, List.not_mem_nil, false_iff, not_and]
      intro _ none
      obtain ⟨pass, listed, screen⟩ := shown
      exact none pass listed screen
    · have none : ∀ pass ∈ graph.passes, pass.output ≠ screenName := fun pass listed screen =>
        shown ⟨pass, listed, screen⟩
      have empty : ¬ graph.passes.any Pass.rendersToScreen = true := by
        simpa [List.any_eq_true, Pass.rendersToScreen_iff] using none
      simp only [empty, Bool.false_eq_true, if_false, List.mem_singleton]
      exact ⟨fun same => ⟨same, none⟩, And.left⟩
  · simp only [List.mem_filterMap, Prod.exists, List.mem_zipIdx_iff_getElem?]
    constructor
    · rintro ⟨pass, number, held, warned⟩
      split at warned
      · cases warned
      · next idle =>
          cases warned
          exact ⟨number, pass, held, by simpa using idle, rfl⟩
    · rintro ⟨number, pass, held, idle, rfl⟩
      exact ⟨pass, number, held, by simp [idle]⟩

/-- The warnings of a build are exact.  After every list of calls, whichever of them fail, the build
succeeds.  It warns of a pass iff that pass is outside the least set of passes that has all passes
that output to the screen, and with any pass the producers of all its dependencies.  It warns that
nothing writes to the screen iff that set is empty.  It warns of nothing else. -/
theorem warnings_exact (calls : List (FrameCall π ς)) :
    ∃ compiled warnings,
      ((new.authorAll ε calls).build : Except (RenderError ε) (CompiledGraph π ς × _)) =
        .ok (compiled, warnings) ∧
      (∀ number pass, (new.authorAll ε calls).passes[number]? = some pass →
        (.idlePass pass.name ∈ warnings ↔
          ¬ Contributes (new.authorAll ε calls).passes number)) ∧
      (.noScreenPass ∈ warnings ↔
        ∀ number, ¬ Contributes (new.authorAll ε calls).passes number) ∧
      ∀ warning ∈ warnings, warning = .noScreenPass ∨
        ∃ pass ∈ (new.authorAll ε calls).passes, warning = .idlePass pass.name := by
  obtain ⟨formed, linked, _⟩ := authorAll_sound (ε := ε) WellFormed.new Linked.new calls
  have wired := wired_authorAll (ε := ε) Wired.new Linked.new calls
  generalize (new : FrameGraph π ς).authorAll ε calls = graph at formed linked wired ⊢
  obtain ⟨order, ordered⟩ := DependencyGraph.exists_orderFrom (linked.sortable formed)
  have found : graph.arena.order screenNode = .ok order := ordered
  have isOrder := DependencyGraph.isOrder_of_orderFrom ordered
  refine ⟨{ targets := graph.targets, passes := graph.passes },
    graph.buildWarnings (graph.passNumbers order), ?_, ?_, ?_, ?_⟩
  · rw [build, found]
  · intro number pass held
    rw [mem_buildWarnings_iff, ← mem_passNumbers_iff wired linked isOrder]
    constructor
    · rintro (⟨impossible, _⟩ | ⟨other, namesake, heldToo, idle, named⟩)
      · cases impossible
      · -- names of passes are distinct, so the warning is about this pass
        have inside := (List.getElem?_eq_some_iff.mp held).1
        have same : number = other := by
          apply (List.getElem?_inj (by simpa using inside) formed.distinct_passes).mp
          simp only [List.getElem?_map, held, heldToo, Option.map_some]
          exact congrArg some (RenderWarning.idlePass.inj named)
        exact same ▸ idle
    · exact fun idle => .inr ⟨number, pass, held, idle, rfl⟩
  · rw [mem_buildWarnings_iff]
    constructor
    · rintro (⟨_, none⟩ | ⟨_, _, _, _, impossible⟩) number contributes
      · obtain ⟨pass, listed, screen⟩ := contributes.exists_screen
        exact none pass listed screen
      · cases impossible
    · intro none
      refine .inl ⟨rfl, fun pass listed screen => ?_⟩
      obtain ⟨number, held⟩ := List.mem_iff_getElem?.mp listed
      exact none number (.screen held screen)
  · intro warning warned
    rcases mem_buildWarnings_iff.mp warned with ⟨same, _⟩ | ⟨_, pass, held, _, same⟩
    · exact .inl same
    · exact .inr ⟨pass, List.mem_of_getElem? held, same⟩

end FrameGraph

end ShaderFlow
