/-
Module: ShaderFlow.Proofs.Graph.BoundedVisit
Purpose: The visit of a graph with a bound on its steps, which computes by structural recursion.
Main exports: DependencyGraph.visitWithin, DependencyGraph.orderFrom_eq_of_orderWithin
-/
import ShaderFlow.Graph.Order

namespace ShaderFlow.DependencyGraph

/-!
The visit itself recurses on the nodes that are still unvisited, and does not compute inside a proof.
Counting its steps instead gives a visit that does.  A bounded visit that ends before its bound is
reached ends like the visit itself.
-/

universe u

variable {α : Type u} {graph : DependencyGraph α}

/-- Work through a stack of visits in fewer steps than a bound. -/
def visitWithin (graph : DependencyGraph α) :
    Nat → Progress → List Visit → Option (Except TraversalError Progress)
  | 0, _, _ => none
  | _ + 1, progress, [] => some (.ok progress)
  | steps + 1, progress, ⟨node, []⟩ :: stack =>
      graph.visitWithin steps
        { marks := progress.marks.setIfInBounds node .done
          finished := node :: progress.finished } stack
  | steps + 1, progress, ⟨node, dependency :: pending⟩ :: stack =>
      match progress.marks[dependency]? with
      | none => some (.error (.missingNode dependency node))
      | some .visiting => some (.error (.cycle dependency))
      | some .done => graph.visitWithin steps progress (⟨node, pending⟩ :: stack)
      | some .unvisited =>
          graph.visitWithin steps
            { progress with marks := progress.marks.setIfInBounds dependency .visiting }
            (⟨dependency, graph.dependencies dependency⟩ :: ⟨node, pending⟩ :: stack)

/-- Visit the roots one after another, each within a bound. -/
def visitRootsWithin (graph : DependencyGraph α) (steps : Nat) (progress : Progress) :
    List NodeIndex → Option (Except TraversalError Progress)
  | [] => some (.ok progress)
  | root :: roots =>
      match progress.marks[root]? with
      | none => some (.error (.missingRoot root))
      | some .done => graph.visitRootsWithin steps progress roots
      | some _ =>
          match graph.visitWithin steps
              { progress with marks := progress.marks.setIfInBounds root .visiting }
              [⟨root, graph.dependencies root⟩] with
          | none => none
          | some (.error fault) => some (.error fault)
          | some (.ok progress) => graph.visitRootsWithin steps progress roots

/-- Dependency order from the roots, with a bound on the steps of the visit of each root. -/
def orderWithin (graph : DependencyGraph α) (steps : Nat) (roots : List NodeIndex) :
    Option (Except TraversalError (List NodeIndex)) :=
  (graph.visitRootsWithin steps ⟨Array.replicate graph.size .unvisited, []⟩ roots).map
    fun visited => visited.map fun progress => progress.finished.reverse

/-- A bounded visit that ends does so like the visit without bound. -/
theorem visitStack_eq_of_visitWithin {steps : Nat} {progress : Progress} {stack : List Visit}
    {visited : Except TraversalError Progress}
    (ended : graph.visitWithin steps progress stack = some visited) :
    graph.visitStack progress stack = visited := by
  induction steps generalizing progress stack with
  | zero => simp [visitWithin] at ended
  | succ steps ih =>
      rcases stack with _ | ⟨⟨node, _ | ⟨dependency, pending⟩⟩, stack⟩
      · rw [visitStack]
        exact Option.some.inj ended
      · rw [visitStack]
        exact ih ended
      · rw [visitStack]
        simp only [visitWithin] at ended
        split <;> simp_all

/-- Roots that are visited within a bound are visited alike without bound. -/
theorem visitRoots_eq_of_visitRootsWithin {steps : Nat} {progress : Progress}
    {roots : List NodeIndex} {visited : Except TraversalError Progress}
    (ended : graph.visitRootsWithin steps progress roots = some visited) :
    graph.visitRoots progress roots = visited := by
  induction roots generalizing progress with
  | nil => exact Option.some.inj ended
  | cons root roots ih =>
      unfold visitRootsWithin at ended
      unfold visitRoots
      cases held : progress.marks[root]? with
      | none =>
          simp only [held] at ended ⊢
          exact Option.some.inj ended
      | some mark =>
          cases mark with
          | done =>
              simp only [held] at ended ⊢
              exact ih ended
          | unvisited | visiting =>
              simp only [held] at ended ⊢
              split at ended
              · cases ended
              · next fault within =>
                  rw [visitStack_eq_of_visitWithin within]
                  exact Option.some.inj ended
              · next reached within =>
                  rw [visitStack_eq_of_visitWithin within]
                  exact ih ended

/-- An order that is found within a bound is the dependency order. -/
theorem orderFrom_eq_of_orderWithin (steps : Nat) {roots : List NodeIndex}
    {order : Except TraversalError (List NodeIndex)}
    (found : graph.orderWithin steps roots = some order) : graph.orderFrom roots = order := by
  obtain ⟨visited, ended, rfl⟩ := Option.map_eq_some_iff.mp found
  unfold orderFrom
  rw [visitRoots_eq_of_visitRootsWithin ended]
  cases visited <;> rfl

end ShaderFlow.DependencyGraph
