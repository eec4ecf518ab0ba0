/-
Module: ShaderFlow.Graph.Order
Purpose: Dependency order of everything reachable from given roots, or the reason there is none.
Main exports: TraversalError, DependencyGraph.order, DependencyGraph.orderFrom
-/
import ShaderFlow.Graph.Basic

namespace ShaderFlow

universe u

/-!
The order is the post-order of a depth-first visit: a node is listed once all its dependencies
are.  The visit keeps an explicit stack, so a chain of any length is walked in constant machine
stack.

The visit ends because each step either leaves fewer unvisited nodes or leaves their number and
consumes an edge, or an entry, of the stack.
-/

/-- Why a graph has no dependency order from the given roots. -/
inductive TraversalError where
  /-- A node depends on itself through some path. -/
  | cycle (node : NodeIndex)
  /-- An edge leaves the arena. -/
  | missingNode (node referencedBy : NodeIndex)
  /-- A root lies outside the arena. -/
  | missingRoot (root : NodeIndex)
deriving Repr, Inhabited, DecidableEq

/-- Title of the kind of error. -/
def TraversalError.kind : TraversalError → String
  | .cycle _ => "Cycle"
  | .missingNode .. => "MissingNode"
  | .missingRoot _ => "MissingRoot"

/-- Message of a traversal error. -/
def TraversalError.message : TraversalError → String
  | .cycle node =>
      s!"dependency cycle detected: node {node.label} was re-entered during traversal"
  | .missingNode node referencedBy =>
      s!"node {referencedBy.label} depends on node {node.label}, which is not part of the graph"
  | .missingRoot root => s!"traversal root {root.label} is not part of the graph"

namespace DependencyGraph

variable {α : Type u}

/-- How far the visit of a node has come. -/
inductive Mark where
  | unvisited
  | visiting
  | done
deriving Repr, Inhabited, DecidableEq

/-- A node under visit and the dependencies it has still to look at. -/
structure Visit where
  node : NodeIndex
  pending : List NodeIndex
deriving Repr, Inhabited, DecidableEq

/-- What a visit hands on: the marks, and the finished nodes with the latest first. -/
structure Progress where
  marks : Array Mark
  finished : List NodeIndex
deriving Repr, Inhabited, DecidableEq

/-- Edges and entries left on the stack of a visit. -/
def stackWork : List Visit → Nat
  | [] => 0
  | visit :: rest => visit.pending.length + 1 + stackWork rest

theorem count_unvisited_setIfInBounds_le (marks : Array Mark) (node : NodeIndex) (mark : Mark)
    (visited : mark ≠ .unvisited) :
    (marks.setIfInBounds node mark).count .unvisited ≤ marks.count .unvisited := by
  by_cases inside : node < marks.size
  · rw [Array.setIfInBounds, dif_pos inside, Array.count_set]
    simp [visited]
  · exact Nat.le_of_eq (by rw [Array.setIfInBounds, dif_neg inside])

theorem count_unvisited_setIfInBounds_lt (marks : Array Mark) {node : NodeIndex} {mark : Mark}
    (fresh : marks[node]? = some .unvisited) (visited : mark ≠ .unvisited) :
    (marks.setIfInBounds node mark).count .unvisited < marks.count .unvisited := by
  obtain ⟨inside, value⟩ := Array.getElem?_eq_some_iff.mp fresh
  have positive : 0 < marks.count .unvisited :=
    Array.count_pos_iff.mpr (value ▸ Array.getElem_mem inside)
  have differs : (mark == Mark.unvisited) = false := beq_false_of_ne visited
  rw [Array.setIfInBounds, dif_pos inside, Array.count_set]
  simp only [value, differs, beq_self_eq_true, if_true, Bool.false_eq_true, if_false]
  omega

/-- Work through a stack of visits until it is empty. -/
def visitStack (graph : DependencyGraph α) (progress : Progress) :
    List Visit → Except TraversalError Progress
  | [] => .ok progress
  | ⟨node, []⟩ :: stack =>
      visitStack graph
        { marks := progress.marks.setIfInBounds node .done
          finished := node :: progress.finished } stack
  | ⟨node, dependency :: pending⟩ :: stack =>
      match _fresh : progress.marks[dependency]? with
      | none => .error (.missingNode dependency node)
      | some .visiting => .error (.cycle dependency)
      | some .done => visitStack graph progress (⟨node, pending⟩ :: stack)
      | some .unvisited =>
          visitStack graph
            { progress with marks := progress.marks.setIfInBounds dependency .visiting }
            (⟨dependency, graph.dependencies dependency⟩ :: ⟨node, pending⟩ :: stack)
termination_by stack => (progress.marks.count .unvisited, stackWork stack)
decreasing_by
  · have fewer := count_unvisited_setIfInBounds_le progress.marks node .done (by decide)
    rw [Prod.lex_def]
    simp only [stackWork, List.length_nil]
    omega
  · rw [Prod.lex_def]
    refine .inr ⟨rfl, ?_⟩
    simp only [stackWork, List.length_cons]
    omega
  · rw [Prod.lex_def]
    exact .inl (count_unvisited_setIfInBounds_lt progress.marks _fresh (by decide))

/-! What a visit does with the next dependency of the node on top, told from the mark that it finds. -/

section

variable {graph : DependencyGraph α} {progress : Progress} {node dependency : NodeIndex}
  {pending : List NodeIndex} {stack : List Visit}

theorem visitStack_missing (missing : progress.marks[dependency]? = none) :
    graph.visitStack progress (⟨node, dependency :: pending⟩ :: stack) =
      .error (.missingNode dependency node) := by
  rw [visitStack]
  split <;> simp_all

theorem visitStack_visiting (visiting : progress.marks[dependency]? = some .visiting) :
    graph.visitStack progress (⟨node, dependency :: pending⟩ :: stack) =
      .error (.cycle dependency) := by
  rw [visitStack]
  split <;> simp_all

theorem visitStack_done (done : progress.marks[dependency]? = some .done) :
    graph.visitStack progress (⟨node, dependency :: pending⟩ :: stack) =
      graph.visitStack progress (⟨node, pending⟩ :: stack) := by
  rw [visitStack]
  split <;> simp_all

theorem visitStack_unvisited (fresh : progress.marks[dependency]? = some .unvisited) :
    graph.visitStack progress (⟨node, dependency :: pending⟩ :: stack) =
      graph.visitStack { progress with marks := progress.marks.setIfInBounds dependency .visiting }
        (⟨dependency, graph.dependencies dependency⟩ :: ⟨node, pending⟩ :: stack) := by
  rw [visitStack]
  split <;> simp_all

end

/-- Visit the roots one after another; marks persist, so shared nodes are listed once. -/
def visitRoots (graph : DependencyGraph α) (progress : Progress) :
    List NodeIndex → Except TraversalError Progress
  | [] => .ok progress
  | root :: roots =>
      match progress.marks[root]? with
      | none => .error (.missingRoot root)
      | some .done => visitRoots graph progress roots
      | some _ => do
          let progress ← visitStack graph
            { progress with marks := progress.marks.setIfInBounds root .visiting }
            [⟨root, graph.dependencies root⟩]
          visitRoots graph progress roots

/-- Every node reachable from the roots, once, after all nodes it depends on.  Roots are visited
in the given order, and the dependencies of a node in the order of its list. -/
def orderFrom (graph : DependencyGraph α) (roots : List NodeIndex) :
    Except TraversalError (List NodeIndex) := do
  let progress ← visitRoots graph ⟨Array.replicate graph.size .unvisited, []⟩ roots
  return progress.finished.reverse

/-- Every node reachable from `root`, dependencies first and `root` last. -/
def order (graph : DependencyGraph α) (root : NodeIndex) :
    Except TraversalError (List NodeIndex) :=
  graph.orderFrom [root]

end DependencyGraph

end ShaderFlow
