/-
Module: ShaderFlow.Proofs.Shader.NodeIdentity
Purpose: A node id is good for one node of one graph, until the graph is reset, and never for another.
Main exports: WorkspaceCall, Workspace.performAll, Workspace.Sound, Workspace.Expired,
  Workspace.exists_node_performAll, Workspace.Sound.expired_performAll, Workspace.ids_never_alias
-/
import ShaderFlow.Proofs.Shader.NodeIds

namespace ShaderFlow

/-!
Graphs reuse the slots of their arenas after a reset, and different graphs fill the same slots.  What
keeps ids apart is the generation: at any time no two graphs are of the same generation, and those of
the future have not been given out yet.  So an id is accepted only by the graph that is of its
generation, and once that graph is reset the generation is gone for good.
-/

/-! ### Workspaces -/

/-- A call in a workspace: a new graph on a registry, a reset, or any other call on the graph with a
number. -/
inductive WorkspaceCall where
  | newGraph (registry : FunctionRegistry) (options : EntryNames)
  | reset (number : Nat)
  | author (number : Nat) (call : AuthoringCall) (keeps : ∀ generation, call ≠ .reset generation)

namespace Workspace

open ShaderGraph

variable {workspace : Workspace} {call : WorkspaceCall} {number : Nat} {graph : ShaderGraph}
  {generation : Nat} {id : NodeId} {node : ShaderNode}

/-- The workspace after a call. -/
def perform (workspace : Workspace) : WorkspaceCall → Workspace
  | .newGraph registry options => { workspace with registry }.newGraph options
  | .reset number => workspace.resetGraph number
  | .author number call _ =>
      match workspace.graphs[number]? with
      | some graph => workspace.putGraph number (graph.author call)
      | none => workspace

/-- The workspace after a list of calls. -/
def performAll (workspace : Workspace) (calls : List WorkspaceCall) : Workspace :=
  calls.foldl perform workspace

/-- The number of the graph that a call puts into the next generation. -/
def renewed? (workspace : Workspace) : WorkspaceCall → Option Nat
  | .newGraph .. => some workspace.graphs.size
  | .reset number => some number
  | .author .. => none

/-- What keeps ids apart: generations in use have been given out, each to one graph. -/
structure Sound (workspace : Workspace) : Prop where
  given : ∀ (number : Nat) graph, workspace.graphs[number]? = some graph →
    graph.generation < workspace.nextGeneration
  apart : ∀ (number other : Nat) graph another, workspace.graphs[number]? = some graph →
    workspace.graphs[other]? = some another → graph.generation = another.generation →
      number = other
  reachable : ∀ (number : Nat) graph, workspace.graphs[number]? = some graph → graph.Reachable

/-- A generation that has been given out and that no graph is of any more. -/
structure Expired (workspace : Workspace) (generation : Nat) : Prop where
  given : generation < workspace.nextGeneration
  gone : ∀ (number : Nat) graph, workspace.graphs[number]? = some graph →
    graph.generation ≠ generation

/-! ### What one call does -/

theorem getElem?_graphs_putGraph {other : Nat} (held : workspace.graphs[number]? = some graph)
    (after : ShaderGraph) :
    (workspace.putGraph number after).graphs[other]? =
      if number = other then some after else workspace.graphs[other]? := by
  have bounded := (Array.getElem?_eq_some_iff.mp held).1
  simp [putGraph, Array.getElem?_setIfInBounds, bounded]

/-- A graph goes on under its number as the call on it says, and as it is if the call is about another
graph. -/
theorem getElem?_graphs_perform (call : WorkspaceCall)
    (held : workspace.graphs[number]? = some graph) :
    (workspace.perform call).graphs[number]? = some (
      match call with
      | .newGraph .. => graph
      | .reset target => if target = number then graph.reset workspace.nextGeneration else graph
      | .author target call _ => if target = number then graph.author call else graph) := by
  have bounded := (Array.getElem?_eq_some_iff.mp held).1
  cases call with
  | newGraph => simp [perform, newGraph, Array.getElem?_push, Nat.ne_of_lt bounded, held]
  | reset target =>
      by_cases same : target = number <;>
        simp [perform, resetGraph, Array.getElem?_modify, held, same]
  | author target call =>
      by_cases same : target = number
      · subst same
        simp [perform, held, getElem?_graphs_putGraph held]
      · dsimp only [perform]
        split
        · next found => simp [getElem?_graphs_putGraph found, same, held]
        · simp [same, held]

/-- A graph that was not there before a call is the one that the call adds. -/
theorem newGraph_of_getElem? (absent : workspace.graphs[number]? = none)
    (held : (workspace.perform call).graphs[number]? = some graph) :
    ∃ registry options, call = .newGraph registry options ∧ number = workspace.graphs.size ∧
      graph = { generation := workspace.nextGeneration, registry, options } := by
  cases call with
  | newGraph registry options =>
      refine ⟨registry, options, rfl, ?_⟩
      simp only [perform, newGraph, Array.getElem?_push] at held
      split at held
      · next same => exact ⟨same, (Option.some.inj held).symm⟩
      · cases absent.symm.trans held
  | reset target => simp [perform, resetGraph, Array.getElem?_modify, absent] at held
  | author target call =>
      dsimp only [perform] at held
      split at held
      · next found =>
          rw [getElem?_graphs_putGraph found] at held
          split at held
          · next same => cases absent.symm.trans (same ▸ found)
          · cases absent.symm.trans held
      · cases absent.symm.trans held

theorem nextGeneration_perform :
    (workspace.perform call).nextGeneration =
      if workspace.renewed? call = none then workspace.nextGeneration
      else workspace.nextGeneration + 1 := by
  cases call with
  | newGraph | reset => rfl
  | author target call =>
      dsimp only [perform]
      split <;> rfl

/-- A graph after a call goes on in its generation, or is the one that the call puts into the next. -/
theorem Sound.origin (sound : workspace.Sound)
    (held : (workspace.perform call).graphs[number]? = some graph) :
    graph.Reachable ∧
      ((∃ before, workspace.graphs[number]? = some before ∧ graph.generation = before.generation) ∨
        (workspace.renewed? call = some number ∧
          graph.generation = workspace.nextGeneration)) := by
  cases there : workspace.graphs[number]? with
  | none =>
      obtain ⟨registry, options, rfl, rfl, rfl⟩ := newGraph_of_getElem? there held
      exact ⟨⟨workspace.nextGeneration, registry, [.setOptions options], rfl⟩, .inr ⟨rfl, rfl⟩⟩
  | some before =>
      have reachable := sound.reachable _ _ there
      have turned := held.symm.trans (getElem?_graphs_perform _ there)
      cases call with
      | newGraph =>
          cases turned
          exact ⟨reachable, .inl ⟨_, rfl, rfl⟩⟩
      | reset target =>
          dsimp only at turned
          split at turned
          · next same =>
              cases turned
              exact ⟨reachable.author (.reset workspace.nextGeneration),
                .inr ⟨congrArg some same, rfl⟩⟩
          · cases turned
            exact ⟨reachable, .inl ⟨_, rfl, rfl⟩⟩
      | author target call keeps =>
          dsimp only at turned
          split at turned
          · cases turned
            exact ⟨reachable.author call, .inl ⟨_, rfl, generation_author keeps⟩⟩
          · cases turned
            exact ⟨reachable, .inl ⟨_, rfl, rfl⟩⟩

/-! ### Runs -/

/-- A call keeps generations apart. -/
theorem Sound.perform (sound : workspace.Sound) (call : WorkspaceCall) :
    (workspace.perform call).Sound where
  given number graph held := by
    rw [nextGeneration_perform]
    rcases (sound.origin held).2 with ⟨before, there, same⟩ | ⟨renewed, next⟩
    · have := sound.given _ _ there
      split <;> omega
    · rw [if_neg (by rw [renewed]; nofun), next]
      exact Nat.lt_succ_self _
  apart number other graph another held heldOther same := by
    rcases (sound.origin held).2 with ⟨before, there, kept⟩ | ⟨renewed, next⟩ <;>
      rcases (sound.origin heldOther).2 with ⟨beforeOther, thereOther, keptOther⟩ |
        ⟨renewedOther, nextOther⟩
    · exact sound.apart _ _ _ _ there thereOther (by rw [← kept, same, keptOther])
    · have := sound.given _ _ there
      omega
    · have := sound.given _ _ thereOther
      omega
    · exact Option.some.inj (renewed.symm.trans renewedOther)
  reachable number graph held := (sound.origin held).1

theorem Sound.empty : ({} : Workspace).Sound where
  given _ _ held := by simp at held
  apart _ _ _ _ held := by simp at held
  reachable _ _ held := by simp at held

theorem Sound.performAll (sound : workspace.Sound) (calls : List WorkspaceCall) :
    (workspace.performAll calls).Sound := by
  induction calls generalizing workspace with
  | nil => exact sound
  | cons call rest ih => exact ih (sound.perform call)

/-- A graph may be exchanged for another of its generation. -/
theorem Sound.putGraph {after : ShaderGraph} (sound : workspace.Sound)
    (held : workspace.graphs[number]? = some graph) (same : after.generation = graph.generation)
    (reachable : after.Reachable) : (workspace.putGraph number after).Sound := by
  have turned {other : Nat} {another : ShaderGraph}
      (there : (workspace.putGraph number after).graphs[other]? = some another) :
      another.Reachable ∧
        ∃ before, workspace.graphs[other]? = some before ∧
          another.generation = before.generation := by
    rw [getElem?_graphs_putGraph held] at there
    split at there
    · next here =>
        cases there
        exact ⟨reachable, graph, here ▸ held, same⟩
    · exact ⟨sound.reachable _ _ there, another, there, rfl⟩
  constructor
  · intro other another there
    obtain ⟨_, before, heldBefore, generation⟩ := turned there
    exact generation ▸ sound.given _ _ heldBefore
  · intro one two first second heldFirst heldSecond
    obtain ⟨_, before, heldBefore, generation⟩ := turned heldFirst
    obtain ⟨_, beforeOther, heldOther, generationOther⟩ := turned heldSecond
    rw [generation, generationOther]
    exact sound.apart _ _ _ _ heldBefore heldOther
  · intro other another there
    exact (turned there).1

/-- An expired generation stays so. -/
theorem Expired.performAll {calls : List WorkspaceCall} (expired : workspace.Expired generation)
    (sound : workspace.Sound) : (workspace.performAll calls).Expired generation := by
  induction calls generalizing workspace with
  | nil => exact expired
  | cons call rest ih =>
      refine ih ⟨?_, ?_⟩ (sound.perform call)
      · have := expired.given
        rw [nextGeneration_perform]
        split <;> omega
      · intro number graph held
        rcases (sound.origin held).2 with ⟨before, there, same⟩ | ⟨_, next⟩
        · exact same ▸ expired.gone _ _ there
        · rw [next]
          exact (Nat.ne_of_lt expired.given).symm

/-- The reset of a graph expires its generation. -/
theorem Sound.expired_of_reset (sound : workspace.Sound)
    (held : workspace.graphs[number]? = some graph) :
    (workspace.perform (.reset number)).Expired graph.generation := by
  have given := sound.given _ _ held
  constructor
  · exact Nat.lt_succ_of_lt given
  · intro other another there same
    rcases (sound.origin there).2 with ⟨before, heldBefore, kept⟩ | ⟨_, next⟩
    · cases sound.apart _ _ _ _ heldBefore held (kept.symm.trans same)
      cases heldBefore.symm.trans held
      rw [getElem?_graphs_perform _ held] at there
      dsimp only at there
      rw [if_pos rfl] at there
      cases there
      exact Nat.ne_of_gt given same
    · omega

/-- A node goes on under its id through a call that does not reset its graph, and is the same unless the
call changes it. -/
theorem exists_node_perform (held : workspace.graphs[number]? = some graph)
    (found : graph.node? id = some node) (kept : call ≠ .reset number) :
    ∃ next later, (workspace.perform call).graphs[number]? = some next ∧
      next.node? id = some later ∧ node.Continues later ∧
      ((∀ authoring keeps, call = .author number authoring keeps → authoring.changed? ≠ some id) →
        later = node) := by
  have goes := getElem?_graphs_perform call held
  cases call with
  | newGraph => exact ⟨graph, node, goes, found, .same node, fun _ => rfl⟩
  | reset target =>
      dsimp only at goes
      rw [if_neg (fun same => kept (congrArg _ same))] at goes
      exact ⟨graph, node, goes, found, .same node, fun _ => rfl⟩
  | author target authoring keeps =>
      by_cases same : target = number
      · subst same
        obtain ⟨later, foundLater, continues, unchanged⟩ := node?_author keeps found
        dsimp only at goes
        rw [if_pos rfl] at goes
        exact ⟨_, later, goes, foundLater, continues,
          fun untouched => unchanged (untouched _ keeps rfl)⟩
      · dsimp only at goes
        rw [if_neg same] at goes
        exact ⟨graph, node, goes, found, .same node, fun _ => rfl⟩

/-- A node goes on under its id as long as its graph is not reset. -/
theorem exists_node_performAll {calls : List WorkspaceCall}
    (held : workspace.graphs[number]? = some graph) (found : graph.node? id = some node)
    (kept : .reset number ∉ calls) :
    ∃ next last, (workspace.performAll calls).graphs[number]? = some next ∧
      next.node? id = some last ∧ node.Continues last ∧
      ((∀ authoring keeps, .author number authoring keeps ∈ calls →
        authoring.changed? ≠ some id) → last = node) := by
  induction calls generalizing workspace graph node with
  | nil => exact ⟨graph, node, held, found, .same node, fun _ => rfl⟩
  | cons call rest ih =>
      rw [List.mem_cons, not_or] at kept
      obtain ⟨next, later, heldNext, foundLater, continues, same⟩ :=
        exists_node_perform held found (Ne.symm kept.1)
      obtain ⟨final, last, heldFinal, foundLast, goesOn, sameLast⟩ := ih heldNext foundLater kept.2
      refine ⟨final, last, heldFinal, foundLast, continues.trans goesOn, fun untouched => ?_⟩
      rw [sameLast fun authoring keeps member => untouched authoring keeps (.tail _ member),
        same fun authoring keeps here => untouched authoring keeps (here ▸ .head _)]

/-- The generation of a graph has expired at the end of a run that resets the graph. -/
theorem Sound.expired_performAll {calls : List WorkspaceCall} (sound : workspace.Sound)
    (held : workspace.graphs[number]? = some graph) (found : graph.node? id = some node)
    (reset : .reset number ∈ calls) : (workspace.performAll calls).Expired id.generation := by
  obtain ⟨first, rest, rfl, kept⟩ := List.eq_append_cons_of_mem reset
  obtain ⟨next, later, heldNext, foundLater, _⟩ := exists_node_performAll held found kept
  have soundFirst := sound.performAll first
  have expired := soundFirst.expired_of_reset heldNext
  rw [← (node?_eq_some_iff.mp foundLater).1] at expired
  unfold Workspace.performAll
  rw [List.foldl_append]
  exact expired.performAll (soundFirst.perform _)

/-- After a run, an id of a node is accepted by the graph of the node, if it has not been reset, and by no
other. -/
theorem Sound.accepts_iff {calls : List WorkspaceCall} {other : Nat} {another : ShaderGraph}
    (sound : workspace.Sound) (held : workspace.graphs[number]? = some graph)
    (found : graph.node? id = some node)
    (there : (workspace.performAll calls).graphs[other]? = some another) :
    another.Accepts id ↔ other = number ∧ .reset number ∉ calls := by
  constructor
  · rintro ⟨accepted, denotes⟩
    have generation := (node?_eq_some_iff.mp denotes).1
    have kept : .reset number ∉ calls := fun reset =>
      (sound.expired_performAll held found reset).gone _ _ there generation.symm
    obtain ⟨next, last, heldNext, foundLast, _⟩ := exists_node_performAll held found kept
    have same := (node?_eq_some_iff.mp foundLast).1
    exact ⟨(sound.performAll calls).apart _ _ _ _ there heldNext (generation.symm.trans same), kept⟩
  · rintro ⟨rfl, kept⟩
    obtain ⟨next, last, heldNext, foundLast, _⟩ := exists_node_performAll held found kept
    cases heldNext.symm.trans there
    exact ⟨last, foundLast⟩

/-- An id is good for the node for which it was handed out, in the graph that handed it out, until that
graph is reset: there the node may only get other bindings or another label.  No other graph, and not
that graph after a reset, accepts it: it denotes nothing there, and any call with it fails, changes
nothing, and reports the id unless it reports a fault that it looks for before the id. -/
theorem ids_never_alias (before later : List WorkspaceCall) {number : Nat} {graph after : ShaderGraph}
    {id : NodeId} (held : (({} : Workspace).performAll before).graphs[number]? = some graph)
    (issues : graph.Issues id after) :
    ∃ node, after.node? id = some node ∧ ∀ (other : Nat) another,
      (((({} : Workspace).performAll before).putGraph number after).performAll later).graphs[other]? =
        some another →
      (another.Accepts id ↔ other = number ∧ .reset number ∉ later) ∧
      (another.Accepts id →
        (∃ found, another.node? id = some found ∧ node.Continues found ∧
          another.nodeType id = .ok node.ty ∧
          ((∀ call keeps, .author number call keeps ∈ later → call.changed? ≠ some id) →
            found = node)) ∧
        ∀ call : AuthoringCall, id ∈ call.nodeIds → (∀ taken ∈ call.nodeIds, another.Accepts taken) →
          another.perform call ≠ .error .foreignNode) ∧
      (¬ another.Accepts id →
        another.node? id = none ∧ another.nodeType id = .error .foreignNode ∧
        ∀ call : AuthoringCall, id ∈ call.nodeIds →
          another.author call = another ∧
          another.perform call = .error ((another.faultBefore? call).getD .foreignNode)) := by
  have soundBefore := Sound.empty.performAll before
  have reachable := soundBefore.reachable _ _ held
  have stays : after.generation = graph.generation ∧ after.Reachable := by
    rcases issues.after_eq with rfl | ⟨call, keeps, rfl⟩
    · exact ⟨rfl, reachable⟩
    · exact ⟨generation_author keeps, reachable.author call⟩
  have sound := soundBefore.putGraph held stays.1 stays.2
  have heldAfter := (getElem?_graphs_putGraph held after).trans (if_pos rfl)
  obtain ⟨node, found⟩ := issues.accepts reachable
  refine ⟨node, found, fun other another there => ?_⟩
  have accepts_iff := sound.accepts_iff heldAfter found there
  refine ⟨accepts_iff, fun accepted => ?_, fun foreign => ?_⟩
  · obtain ⟨rfl, kept⟩ := accepts_iff.mp accepted
    obtain ⟨next, last, heldNext, foundLast, continues, same⟩ :=
      exists_node_performAll heldAfter found kept
    cases heldNext.symm.trans there
    refine ⟨⟨last, foundLast, continues, ?_, same⟩, fun call taken => perform_ne_foreign taken⟩
    rw [nodeType, lookup, foundLast, ← continues.ty_eq]
    rfl
  · refine ⟨node?_of_foreign foreign, ?_, fun call taken =>
      ⟨author_of_foreign foreign taken, perform_of_foreign foreign taken⟩⟩
    rw [nodeType, lookup_of_foreign foreign]
    rfl

/-! ### Two graphs, one of which is reset -/

/-- Two graphs without nodes, the first of generation 1. -/
def twoGraphs : List WorkspaceCall := [.newGraph .empty {}, .newGraph .empty {}]

/-- The first graph becomes one that reads another attribute. -/
def renewal : List WorkspaceCall :=
  [.reset 0, .author 0 (.vertexAttribute "position" .vec4) nofun]

/-- The first graph with an attribute. -/
def uvGraph : ShaderGraph := (new 1 .empty).author (.vertexAttribute "uv" .vec2)

theorem held_twoGraphs : (({} : Workspace).performAll twoGraphs).graphs[0]? = some (new 1 .empty) :=
  rfl

theorem issues_uvGraph : (new 1 .empty).Issues ⟨1, 0⟩ uvGraph := by
  apply Issues.created
  show created? _ (.vertexAttribute "uv" .vec2) = _
  decide +kernel

/-- A texture fetch in the second graph at coordinates of the first does not report the coordinates if
no texture can have the name. -/
theorem misnamedFetch_not_foreign :
    ∃ second : ShaderGraph,
      (({} : Workspace).performAll twoGraphs).graphs[0]? = some (new 1 .empty) ∧
      (new 1 .empty).Issues ⟨1, 0⟩ uvGraph ∧
      (((({} : Workspace).performAll twoGraphs).putGraph 0 uvGraph).performAll []).graphs[1]? =
        some second ∧
      ¬ second.Accepts ⟨1, 0⟩ ∧ ⟨1, 0⟩ ∈ (AuthoringCall.textureFetch "1st" ⟨1, 0⟩).nodeIds ∧
      second.perform (.textureFetch "1st" ⟨1, 0⟩) = .error (.invalidIdentifier "1st") ∧
      second.perform (.textureFetch "1st" ⟨1, 0⟩) ≠ .error .foreignNode := by
  refine ⟨new 2 .empty, held_twoGraphs, issues_uvGraph, rfl, ?_, List.mem_singleton.mpr rfl,
    by decide +kernel, by decide +kernel⟩
  rintro ⟨node, found⟩
  cases found

/-- After a reset the first slot is that of another attribute, which the id of the first attribute does
not denote. -/
theorem ids_never_alias_renewal :
    ∃ first : ShaderGraph,
      (({} : Workspace).performAll twoGraphs).graphs[0]? = some (new 1 .empty) ∧
      (new 1 .empty).Issues ⟨1, 0⟩ uvGraph ∧
      (((({} : Workspace).performAll twoGraphs).putGraph 0 uvGraph).performAll renewal).graphs[0]? =
        some first ∧
      first.node? ⟨3, 0⟩ = some (.vertexAttribute "position" .vec4) ∧
      ¬ first.Accepts ⟨1, 0⟩ ∧ first.node? ⟨1, 0⟩ = none ∧
      first.perform (.swizzle ⟨1, 0⟩ "x") = .error .foreignNode := by
  obtain ⟨_, _, apart⟩ := ids_never_alias twoGraphs renewal held_twoGraphs issues_uvGraph
  have there : (((({} : Workspace).performAll twoGraphs).putGraph 0 uvGraph).performAll
      renewal).graphs[0]? = some ((new 3 .empty).author (.vertexAttribute "position" .vec4)) := rfl
  obtain ⟨accepts_iff, _, refused⟩ := apart 0 _ there
  have foreign := mt accepts_iff.mp fun accepted => accepted.2 List.mem_cons_self
  obtain ⟨nothing, _, fails⟩ := refused foreign
  refine ⟨_, held_twoGraphs, issues_uvGraph, there, by decide +kernel, foreign, nothing, ?_⟩
  exact (fails (.swizzle ⟨1, 0⟩ "x") (List.mem_singleton.mpr rfl)).2

end Workspace

end ShaderFlow
