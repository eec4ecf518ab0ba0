/-
Module: ShaderFlow.Proofs.Graph.Renumbering
Purpose: The dependency order rests on what the roots reach, and not on the numbers of its nodes.
Main exports: TraversalError.rename, DependencyGraph.Renumbers, DependencyGraph.Renumbers.orderFrom,
  DependencyGraph.orderFrom_congr
-/
import ShaderFlow.Proofs.Graph.Traversal
import Mathlib.Data.Set.Function

namespace ShaderFlow

/-!
A visit of one graph is followed step by step in another graph, in which the nodes bear other
numbers.  Only nodes that the roots reach come onto the stack, so the two graphs need not agree
elsewhere.  The marks correspond because no two of these nodes are given one number: a mark that is
set for one of them is set for none of the others.
-/

universe u v

variable {α : Type u} {β : Type v}

/-- The error for the nodes under their other numbers. -/
def TraversalError.rename (number : NodeIndex → NodeIndex) : TraversalError → TraversalError
  | .cycle node => .cycle (number node)
  | .missingNode node referencedBy => .missingNode (number node) (number referencedBy)
  | .missingRoot root => .missingRoot (number root)

namespace DependencyGraph

/-- What the roots reach in a graph is found in another one, each node under a number of its own,
with its edges in order.  Slots outside one arena stand for slots outside the other. -/
structure Renumbers (number : NodeIndex → NodeIndex) (graph : DependencyGraph α)
    (roots : List NodeIndex) (other : DependencyGraph β) : Prop where
  injective : Set.InjOn number {node | graph.Reached roots node}
  contains_iff : ∀ node, graph.Reached roots node →
    (other.contains (number node) ↔ graph.contains node)
  dependencies : ∀ node, graph.Reached roots node →
    other.dependencies (number node) = (graph.dependencies node).map number

variable {graph : DependencyGraph α} {other : DependencyGraph β} {roots starts : List NodeIndex}
  {number : NodeIndex → NodeIndex} {node child : NodeIndex}

/-! ### Corresponding visits -/

/-- A visit under the other numbers. -/
def Visit.rename (number : NodeIndex → NodeIndex) (visit : Visit) : Visit :=
  ⟨number visit.node, visit.pending.map number⟩

/-- Only reached nodes stand on a stack or wait there. -/
def Within (graph : DependencyGraph α) (roots : List NodeIndex) (stack : List Visit) : Prop :=
  ∀ visit ∈ stack, graph.Reached roots visit.node ∧
    ∀ waiting ∈ visit.pending, graph.Reached roots waiting

/-- Two visits have come equally far. -/
structure Progress.Follows (number : NodeIndex → NodeIndex) (graph : DependencyGraph α)
    (roots : List NodeIndex) (progress followed : Progress) : Prop where
  marks : ∀ node, graph.Reached roots node → progress.marks[number node]? = followed.marks[node]?
  finished : progress.finished = followed.finished.map number

/-- The outcome of a visit under the other numbers: the visits have come equally far, or fail for
the same reason. -/
def Follows (number : NodeIndex → NodeIndex) (graph : DependencyGraph α) (roots : List NodeIndex) :
    Except TraversalError Progress → Except TraversalError Progress → Prop
  | .ok progress, .ok followed => progress.Follows number graph roots followed
  | .error error, .error followed => error = followed.rename number
  | _, _ => False

variable {progress followed : Progress} {stack : List Visit}

namespace Renumbers

theorem start (renumbers : Renumbers number graph roots other) :
    Progress.Follows number graph roots ⟨Array.replicate other.size .unvisited, []⟩
      ⟨Array.replicate graph.size .unvisited, []⟩ where
  marks node reached := by
    have inside : number node < other.size ↔ node < graph.size := by
      simpa [contains] using renumbers.contains_iff node reached
    simp only [Array.getElem?_replicate, inside]
  finished := rfl

/-- A mark that is set for a reached node is set for no other reached node. -/
theorem setMark (renumbers : Renumbers number graph roots other)
    (follows : progress.Follows number graph roots followed) (mark : Mark)
    (reached : graph.Reached roots node) (second : graph.Reached roots child) :
    (progress.marks.setIfInBounds (number node) mark)[number child]? =
      (followed.marks.setIfInBounds node mark)[child]? := by
  by_cases same : node = child
  · subst same
    have inside : number node < progress.marks.size ↔ node < followed.marks.size := by
      rw [← not_iff_not, Nat.not_lt, Nat.not_lt, ← Array.getElem?_eq_none_iff,
        ← Array.getElem?_eq_none_iff, follows.marks node reached]
    simp only [Array.getElem?_setIfInBounds_self, inside]
  · have apart : number node ≠ number child := fun equal =>
      same (renumbers.injective reached second equal)
    rw [Array.getElem?_setIfInBounds_ne apart, Array.getElem?_setIfInBounds_ne same]
    exact follows.marks child second

/-- A stack is worked through in the same way under the other numbers. -/
theorem visitStack (renumbers : Renumbers number graph roots other)
    (follows : progress.Follows number graph roots followed)
    (within : graph.Within roots stack) :
    DependencyGraph.Follows number graph roots
      (other.visitStack progress (stack.map (Visit.rename number)))
      (graph.visitStack followed stack) := by
  induction followed, stack using visitStack.induct graph generalizing progress with
  | case1 followed =>
      rw [List.map_nil, DependencyGraph.visitStack, DependencyGraph.visitStack]
      exact follows
  | case2 followed node stack ih =>
      obtain ⟨⟨reached, _⟩, below⟩ := List.forall_mem_cons.mp within
      rw [List.map_cons, Visit.rename, List.map_nil, DependencyGraph.visitStack,
        DependencyGraph.visitStack]
      refine ih ⟨fun child second => renumbers.setMark follows .done reached second, ?_⟩ below
      rw [follows.finished, List.map_cons]
  | case3 followed node dependency pending stack missing =>
      obtain ⟨⟨_, waiting⟩, _⟩ := List.forall_mem_cons.mp within
      have mark := follows.marks dependency (waiting dependency List.mem_cons_self)
      rw [visitStack_missing missing, List.map_cons, Visit.rename, List.map_cons,
        visitStack_missing (mark.trans missing)]
      rfl
  | case4 followed node dependency pending stack visiting =>
      obtain ⟨⟨_, waiting⟩, _⟩ := List.forall_mem_cons.mp within
      have mark := follows.marks dependency (waiting dependency List.mem_cons_self)
      rw [visitStack_visiting visiting, List.map_cons, Visit.rename, List.map_cons,
        visitStack_visiting (mark.trans visiting)]
      rfl
  | case5 followed node dependency pending stack done ih =>
      obtain ⟨⟨reached, waiting⟩, below⟩ := List.forall_mem_cons.mp within
      obtain ⟨here, later⟩ := List.forall_mem_cons.mp waiting
      rw [visitStack_done done, List.map_cons, Visit.rename, List.map_cons,
        visitStack_done ((follows.marks dependency here).trans done)]
      exact ih follows (List.forall_mem_cons.mpr ⟨⟨reached, later⟩, below⟩)
  | case6 followed node dependency pending stack fresh ih =>
      obtain ⟨⟨reached, waiting⟩, below⟩ := List.forall_mem_cons.mp within
      obtain ⟨here, later⟩ := List.forall_mem_cons.mp waiting
      rw [visitStack_unvisited fresh, List.map_cons, Visit.rename, List.map_cons,
        visitStack_unvisited ((follows.marks dependency here).trans fresh),
        renumbers.dependencies dependency here]
      refine ih ⟨fun child second => renumbers.setMark follows .visiting here second,
        follows.finished⟩ ?_
      exact List.forall_mem_cons.mpr ⟨⟨here, fun _ edge => here.dependency edge⟩,
        List.forall_mem_cons.mpr ⟨⟨reached, later⟩, below⟩⟩

/-- The roots are visited in the same way under the other numbers. -/
theorem visitRoots (renumbers : Renumbers number graph roots other)
    (follows : progress.Follows number graph roots followed)
    (within : ∀ start ∈ starts, graph.Reached roots start) :
    DependencyGraph.Follows number graph roots
      (other.visitRoots progress (starts.map number)) (graph.visitRoots followed starts) := by
  induction starts generalizing progress followed with
  | nil => exact follows
  | cons start starts ih =>
      obtain ⟨here, later⟩ := List.forall_mem_cons.mp within
      -- a root that is not done yet is visited with nothing below it
      have marked : Progress.Follows number graph roots
          { progress with marks := progress.marks.setIfInBounds (number start) .visiting }
          { followed with marks := followed.marks.setIfInBounds start .visiting } :=
        ⟨fun child second => renumbers.setMark follows .visiting here second, follows.finished⟩
      have alone : graph.Within roots [⟨start, graph.dependencies start⟩] :=
        List.forall_mem_singleton.mpr ⟨here, fun _ edge => here.dependency edge⟩
      have visited := renumbers.visitStack marked alone
      rw [List.map_singleton, Visit.rename, ← renumbers.dependencies start here] at visited
      have goesOn : DependencyGraph.Follows number graph roots
          (other.visitStack
              { progress with marks := progress.marks.setIfInBounds (number start) .visiting }
              [⟨number start, other.dependencies (number start)⟩] >>=
            fun next => other.visitRoots next (starts.map number))
          (graph.visitStack
              { followed with marks := followed.marks.setIfInBounds start .visiting }
              [⟨start, graph.dependencies start⟩] >>=
            fun next => graph.visitRoots next starts) := by
        generalize other.visitStack _ _ = first at visited ⊢
        generalize graph.visitStack _ _ = second at visited ⊢
        cases first with
        | error => cases second with
          | error => exact visited
          | ok => exact visited.elim
        | ok => cases second with
          | error => exact visited.elim
          | ok => exact ih visited later
      rw [List.map_cons, DependencyGraph.visitRoots, DependencyGraph.visitRoots,
        follows.marks start here]
      cases followed.marks[start]? with
      | none => exact rfl
      | some found =>
          cases found with
          | done => exact ih follows later
          | unvisited | visiting => exact goesOn

/-- Under the other numbers the order is the same, or fails for the same reason. -/
theorem orderFrom (renumbers : Renumbers number graph roots other)
    (within : ∀ start ∈ starts, graph.Reached roots start) :
    other.orderFrom (starts.map number) =
      match graph.orderFrom starts with
      | .ok order => .ok (order.map number)
      | .error error => .error (error.rename number) := by
  have visited := renumbers.visitRoots renumbers.start within
  unfold DependencyGraph.orderFrom
  generalize other.visitRoots _ _ = first at visited ⊢
  generalize graph.visitRoots _ _ = second at visited ⊢
  cases first with
  | error error =>
      cases second with
      | error =>
          cases visited
          rfl
      | ok => exact visited.elim
  | ok progress =>
      cases second with
      | error => exact visited.elim
      | ok followed =>
          have finished := visited.finished
          simp only [bind, Except.bind, pure, Except.pure, finished, List.map_reverse]

end Renumbers

/-- The order of two graphs that agree on what the roots reach is the same. -/
theorem orderFrom_congr
    (contains_iff : ∀ node, graph.Reached roots node → (other.contains node ↔ graph.contains node))
    (dependencies : ∀ node, graph.Reached roots node →
      other.dependencies node = graph.dependencies node) :
    other.orderFrom roots = graph.orderFrom roots := by
  have same : Renumbers id graph roots other :=
    { injective := Set.injOn_id _
      contains_iff := contains_iff
      dependencies := fun node reached => by rw [List.map_id]; exact dependencies node reached }
  have ordered := same.orderFrom fun start listed => .root listed
  rw [List.map_id] at ordered
  rw [ordered]
  cases graph.orderFrom roots with
  | ok order => simp only [List.map_id]
  | error error => cases error <;> rfl

end DependencyGraph

end ShaderFlow
