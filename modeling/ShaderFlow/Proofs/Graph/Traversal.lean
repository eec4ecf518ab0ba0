/-
Module: ShaderFlow.Proofs.Graph.Traversal
Purpose: The dependency order lists exactly what the roots reach, or names a true reason why there
  is no order.
Main exports: DependencyGraph.Reached, DependencyGraph.OnCycle, DependencyGraph.IsOrder,
  TraversalError.Truthful, Progress.Sound, DependencyGraph.sortable_of_rank,
  DependencyGraph.exists_orderFrom, DependencyGraph.isOrder_of_orderFrom,
  DependencyGraph.orderFrom_exact
-/
import ShaderFlow.Proofs.Graph.BoundedVisit
import Mathlib.Algebra.Order.BigOperators.Group.Finset
import Mathlib.Data.List.Nodup
import Mathlib.Logic.Relation

namespace ShaderFlow

/-!
The invariant of a visit ties the stack to a path: every node on the stack waits for the node above
it, on which it depends.  So a node that is met again while it is under visit lies on a cycle.  The
finished nodes are closed under dependencies, each listed after its own; once the stack is empty,
nothing that is reached is left out.
-/

universe u

variable {α : Type u}

namespace DependencyGraph

/-- An edge of a graph. -/
def DependsOn (graph : DependencyGraph α) (node dependency : NodeIndex) : Prop :=
  dependency ∈ graph.dependencies node

/-- The nodes that paths from the roots lead to, the roots among them. -/
def Reached (graph : DependencyGraph α) (roots : List NodeIndex) (node : NodeIndex) : Prop :=
  ∃ root ∈ roots, Relation.ReflTransGen graph.DependsOn root node

/-- A path with at least one edge leads from a node back to it. -/
def OnCycle (graph : DependencyGraph α) (node : NodeIndex) : Prop :=
  Relation.TransGen graph.DependsOn node node

/-- A list of exactly what the roots reach, each node once and after all its dependencies. -/
structure IsOrder (graph : DependencyGraph α) (roots order : List NodeIndex) : Prop where
  distinct : order.Nodup
  mem_iff : ∀ node, node ∈ order ↔ graph.Reached roots node
  follows : ∀ before node after, order = before ++ node :: after →
    ∀ dependency ∈ graph.dependencies node, dependency ∈ before

/-- All edges of a graph, repeated ones counted as often as they are listed. -/
def edgeCount (graph : DependencyGraph α) : Nat :=
  ∑ node ∈ Finset.range graph.size, (graph.dependencies node).length

variable {graph : DependencyGraph α} {roots starts : List NodeIndex} {node child : NodeIndex}

theorem Reached.root (listed : node ∈ roots) : graph.Reached roots node := ⟨node, listed, .refl⟩

theorem Reached.dependency (reached : graph.Reached roots node)
    (edge : child ∈ graph.dependencies node) : graph.Reached roots child := by
  obtain ⟨root, listed, path⟩ := reached
  exact ⟨root, listed, path.tail edge⟩

/-- What is reached from reached nodes is reached. -/
theorem Reached.trans (within : ∀ start ∈ starts, graph.Reached roots start)
    (reached : graph.Reached starts node) : graph.Reached roots node := by
  obtain ⟨start, listed, later⟩ := reached
  obtain ⟨root, member, earlier⟩ := within start listed
  exact ⟨root, member, earlier.trans later⟩

/-- Nothing is reached outside a list that has all roots and, with each node, its dependencies. -/
theorem Reached.mem_of_closed {listed : List NodeIndex} (rooted : ∀ root ∈ roots, root ∈ listed)
    (closed : ∀ node ∈ listed, ∀ dependency ∈ graph.dependencies node, dependency ∈ listed)
    (reached : graph.Reached roots node) : node ∈ listed := by
  obtain ⟨root, member, path⟩ := reached
  induction path with
  | refl => exact rooted root member
  | tail _ edge ih => exact closed _ ih _ edge

end DependencyGraph

/-- What an error says about the graph and the roots is the case. -/
def TraversalError.Truthful (graph : DependencyGraph α) (roots : List NodeIndex) :
    TraversalError → Prop
  | .missingRoot root => root ∈ roots ∧ ¬ graph.contains root
  | .missingNode node referencedBy =>
      graph.Reached roots referencedBy ∧ node ∈ graph.dependencies referencedBy ∧
        ¬ graph.contains node
  | .cycle node => graph.Reached roots node ∧ graph.OnCycle node

namespace DependencyGraph

variable {graph : DependencyGraph α} {roots finished : List NodeIndex} {node child : NodeIndex}
  {above : Option NodeIndex} {stack : List Visit} {pending : List NodeIndex}

/-! ### Finished nodes -/

/-- A list with the latest node first, in which each node comes once, later than all its
dependencies. -/
def Ordered (graph : DependencyGraph α) : List NodeIndex → Prop
  | [] => True
  | node :: earlier =>
      node ∉ earlier ∧ (∀ dependency ∈ graph.dependencies node, dependency ∈ earlier) ∧
        graph.Ordered earlier

theorem Ordered.nodup (ordered : graph.Ordered finished) : finished.Nodup := by
  induction finished with
  | nil => exact .nil
  | cons node earlier ih => exact List.nodup_cons.mpr ⟨ordered.1, ih ordered.2.2⟩

theorem Ordered.of_append {later : List NodeIndex} (ordered : graph.Ordered (later ++ finished)) :
    graph.Ordered finished := by
  induction later with
  | nil => exact ordered
  | cons node later ih => exact ih ordered.2.2

/-- All paths that start in an ordered list stay in it. -/
theorem Ordered.mem_of_path (ordered : graph.Ordered finished) (member : node ∈ finished)
    (path : Relation.ReflTransGen graph.DependsOn node child) : child ∈ finished := by
  induction path with
  | refl => exact member
  | tail _ edge ih =>
      obtain ⟨later, earlier, rfl⟩ := List.append_of_mem ih
      exact List.mem_append_right _ (.tail _ (ordered.of_append.2.1 _ edge))

/-- A path leads to nodes that were finished earlier. -/
theorem Ordered.mem_of_transGen {earlier : List NodeIndex}
    (ordered : graph.Ordered (node :: earlier))
    (path : Relation.TransGen graph.DependsOn node child) : child ∈ earlier := by
  obtain ⟨next, edge, path⟩ := Relation.TransGen.head'_iff.mp path
  exact ordered.2.2.mem_of_path (ordered.2.1 next edge) path

theorem Ordered.not_onCycle (ordered : graph.Ordered finished) (member : node ∈ finished) :
    ¬ graph.OnCycle node := by
  intro cycle
  obtain ⟨later, earlier, rfl⟩ := List.append_of_mem member
  have here := ordered.of_append
  exact here.1 (here.mem_of_transGen cycle)

/-! ### The stack -/

/-- The visits of a stack wait for each other.  Every dependency of a node on the stack is finished,
or still to be looked at, or the node `above` it, for which its visit waits. -/
inductive Trail (graph : DependencyGraph α) (finished : List NodeIndex) :
    Option NodeIndex → List Visit → Prop where
  | nil {above : Option NodeIndex} : Trail graph finished above []
  | cons {above : Option NodeIndex} {visit : Visit} {rest : List Visit}
      (covered : ∀ dependency ∈ graph.dependencies visit.node,
        dependency ∈ finished ∨ dependency ∈ visit.pending ∨ above = some dependency)
      (owned : ∀ dependency ∈ visit.pending, dependency ∈ graph.dependencies visit.node)
      (waits : ∀ child, above = some child → child ∈ graph.dependencies visit.node)
      (below : Trail graph finished (some visit.node) rest) :
      Trail graph finished above (visit :: rest)

theorem Trail.extend (trail : graph.Trail finished above stack) :
    graph.Trail (node :: finished) above stack := by
  induction trail with
  | nil => exact .nil
  | cons covered owned waits _ ih =>
      refine .cons ?_ owned waits ih
      exact fun dependency edge => (covered dependency edge).imp_left (.tail _)

/-- The visit below a node that is finished goes on with its next dependency. -/
theorem Trail.finish (trail : graph.Trail finished (some child) stack) :
    graph.Trail (child :: finished) none stack := by
  cases trail with
  | nil => exact .nil
  | cons covered owned waits below =>
      refine .cons ?_ owned (by simp) below.extend
      intro dependency edge
      rcases covered dependency edge with earlier | later | same
      · exact .inl (.tail _ earlier)
      · exact .inr (.inl later)
      · cases same
        exact .inl List.mem_cons_self

/-- A dependency that is finished already is passed over. -/
theorem Trail.skip {dependency : NodeIndex}
    (trail : graph.Trail finished none (⟨node, dependency :: pending⟩ :: stack))
    (member : dependency ∈ finished) : graph.Trail finished none (⟨node, pending⟩ :: stack) := by
  cases trail with
  | cons covered owned waits below =>
      refine .cons ?_ (fun other listed => owned other (.tail _ listed)) waits below
      intro other edge
      rcases covered other edge with earlier | listed | same
      · exact .inl earlier
      · rcases List.mem_cons.mp listed with rfl | later
        · exact .inl member
        · exact .inr (.inl later)
      · exact .inr (.inr same)

/-- The visit of a node waits for a dependency that is visited first. -/
theorem Trail.push {dependency : NodeIndex}
    (trail : graph.Trail finished none (⟨node, dependency :: pending⟩ :: stack)) :
    graph.Trail finished none
      (⟨dependency, graph.dependencies dependency⟩ :: ⟨node, pending⟩ :: stack) := by
  cases trail with
  | cons covered owned waits below =>
      refine .cons (fun _ edge => .inr (.inl edge)) (fun _ listed => listed) (by simp) ?_
      refine .cons ?_ (fun other listed => owned other (.tail _ listed)) ?_ below
      · intro other edge
        rcases covered other edge with earlier | listed | same
        · exact .inl earlier
        · rcases List.mem_cons.mp listed with rfl | later
          · exact .inr (.inr rfl)
          · exact .inr (.inl later)
        · cases same
      · rintro other same
        cases same
        exact owned dependency List.mem_cons_self

/-- From every node on the stack a path leads to the node above the stack. -/
theorem Trail.path (trail : graph.Trail finished (some child) stack) :
    ∀ visit ∈ stack, Relation.TransGen graph.DependsOn visit.node child := by
  generalize held : some child = above at trail
  induction trail generalizing child with
  | nil => simp
  | @cons _ visit _ _ _ waits _ ih =>
      have edge : graph.DependsOn visit.node child := waits child held.symm
      intro other member
      rcases List.mem_cons.mp member with rfl | deeper
      · exact .single edge
      · exact (ih rfl other deeper).tail edge

/-! ### One step of a visit -/

/-- What holds of a visit at every step: the marks say where each node stands. -/
structure Progress.Sound (graph : DependencyGraph α) (roots : List NodeIndex)
    (progress : Progress) (stack : List Visit) : Prop where
  size : progress.marks.size = graph.size
  done_iff : ∀ node, progress.marks[node]? = some .done ↔ node ∈ progress.finished
  visiting_iff : ∀ node, progress.marks[node]? = some .visiting ↔ node ∈ stack.map Visit.node
  ordered : graph.Ordered progress.finished
  trail : graph.Trail progress.finished none stack
  distinct : (stack.map Visit.node).Nodup
  reached : ∀ node, node ∈ progress.finished ∨ node ∈ stack.map Visit.node →
    graph.Reached roots node

namespace Progress.Sound

variable {progress : Progress}

theorem start (graph : DependencyGraph α) (roots : List NodeIndex) :
    Sound graph roots ⟨Array.replicate graph.size .unvisited, []⟩ [] where
  size := Array.size_replicate
  done_iff := by simp [Array.getElem?_replicate]
  visiting_iff := by simp [Array.getElem?_replicate]
  ordered := trivial
  trail := .nil
  distinct := .nil
  reached := by simp

theorem contains_iff (sound : progress.Sound graph roots stack) :
    graph.contains node ↔ ∃ mark, progress.marks[node]? = some mark := by
  rw [contains, decide_eq_true_iff, ← sound.size]
  simp [Array.getElem?_eq_some_iff]

/-- A node whose visit ends is finished. -/
theorem pop (sound : progress.Sound graph roots (⟨node, []⟩ :: stack)) :
    Sound graph roots
      { marks := progress.marks.setIfInBounds node .done
        finished := node :: progress.finished } stack := by
  have visiting := (sound.visiting_iff node).mpr List.mem_cons_self
  have inside : node < progress.marks.size := (Array.getElem?_eq_some_iff.mp visiting).1
  have fresh : node ∉ stack.map Visit.node := (List.nodup_cons.mp sound.distinct).1
  have unfinished : node ∉ progress.finished := by
    intro member
    have done := (sound.done_iff node).mpr member
    rw [visiting] at done
    cases done
  cases sound.trail with
  | cons covered _ _ below =>
      constructor
      case size => rw [Array.size_setIfInBounds, sound.size]
      case done_iff =>
        intro other
        by_cases same : node = other
        · subst same
          simp [inside]
        · simp [same, Ne.symm same, sound.done_iff]
      case visiting_iff =>
        intro other
        by_cases same : node = other
        · subst same
          simpa [inside] using fresh
        · simpa [Array.getElem?_setIfInBounds, same, Ne.symm same] using sound.visiting_iff other
      case ordered =>
        refine ⟨unfinished, ?_, sound.ordered⟩
        intro dependency edge
        simpa using covered dependency edge
      case trail => exact below.finish
      case distinct => exact (List.nodup_cons.mp sound.distinct).2
      case reached =>
        intro other placed
        apply sound.reached other
        simp only [List.mem_cons, List.map_cons] at placed ⊢
        tauto

/-- A dependency that is done is passed over. -/
theorem skip {dependency : NodeIndex}
    (sound : progress.Sound graph roots (⟨node, dependency :: pending⟩ :: stack))
    (done : progress.marks[dependency]? = some .done) :
    Sound graph roots progress (⟨node, pending⟩ :: stack) :=
  { sound with trail := sound.trail.skip ((sound.done_iff dependency).mp done) }

/-- A node that was not visited yet is put on the stack with all its dependencies to look at. -/
theorem visit (first : Visit) (rest : List Visit) (sound : progress.Sound graph roots stack)
    (fresh : progress.marks[first.node]? = some .unvisited)
    (same : rest.map Visit.node = stack.map Visit.node)
    (trail : graph.Trail progress.finished none (first :: rest))
    (reached : graph.Reached roots first.node) :
    Sound graph roots
      { progress with marks := progress.marks.setIfInBounds first.node .visiting }
      (first :: rest) := by
  have inside : first.node < progress.marks.size := (Array.getElem?_eq_some_iff.mp fresh).1
  have unfinished : first.node ∉ progress.finished := by
    intro member
    have done := (sound.done_iff _).mpr member
    rw [fresh] at done
    cases done
  have absent : first.node ∉ stack.map Visit.node := by
    intro member
    have visiting := (sound.visiting_iff _).mpr member
    rw [fresh] at visiting
    cases visiting
  constructor
  case size => rw [Array.size_setIfInBounds, sound.size]
  case done_iff =>
    intro other
    by_cases this : first.node = other
    · subst this
      simpa [inside] using unfinished
    · simpa [Array.getElem?_setIfInBounds, this] using sound.done_iff other
  case visiting_iff =>
    intro other
    rw [List.map_cons, same, List.mem_cons, ← sound.visiting_iff other]
    by_cases this : first.node = other
    · subst this
      simp [inside]
    · simp [this, Ne.symm this]
  case ordered => exact sound.ordered
  case trail => exact trail
  case distinct =>
    rw [List.map_cons, same]
    exact List.nodup_cons.mpr ⟨absent, sound.distinct⟩
  case reached =>
    intro other placed
    rw [List.map_cons, same, List.mem_cons] at placed
    rcases placed with earlier | rfl | deeper
    · exact sound.reached other (.inl earlier)
    · exact reached
    · exact sound.reached other (.inr deeper)

/-- The visit of a root starts with an empty stack. -/
theorem visitRoot {root : NodeIndex} (sound : progress.Sound graph roots [])
    (listed : root ∈ roots) (fresh : progress.marks[root]? = some .unvisited) :
    Sound graph roots
      { progress with marks := progress.marks.setIfInBounds root .visiting }
      [⟨root, graph.dependencies root⟩] :=
  sound.visit ⟨root, graph.dependencies root⟩ [] fresh rfl
    (.cons (fun _ edge => .inr (.inl edge)) (fun _ edge => edge) (by simp) .nil) (.root listed)

/-- A node that is met again during its own visit lies on a cycle. -/
theorem onCycle {dependency : NodeIndex}
    (sound : progress.Sound graph roots (⟨node, dependency :: pending⟩ :: stack))
    (visiting : progress.marks[dependency]? = some .visiting) : graph.OnCycle dependency := by
  have listed := (sound.visiting_iff dependency).mp visiting
  cases sound.trail with
  | cons _ owned _ below =>
      have edge : graph.DependsOn node dependency := owned dependency List.mem_cons_self
      rcases List.mem_cons.mp listed with rfl | deeper
      · exact .single edge
      · obtain ⟨visit, member, rfl⟩ := List.mem_map.mp deeper
        exact (below.path visit member).tail edge

/-- The dependency that is looked at next is reached through the node on top of the stack. -/
theorem top_edge {dependency : NodeIndex}
    (sound : progress.Sound graph roots (⟨node, dependency :: pending⟩ :: stack)) :
    graph.Reached roots node ∧ dependency ∈ graph.dependencies node := by
  refine ⟨sound.reached node (.inr List.mem_cons_self), ?_⟩
  cases sound.trail with
  | cons _ owned _ _ => exact owned dependency List.mem_cons_self

end Progress.Sound

/-! ### Whole visits -/

/-- What a visit that starts from `progress` and `stack` may end with. -/
def Ends (graph : DependencyGraph α) (roots : List NodeIndex) (progress : Progress)
    (stack : List NodeIndex) : Except TraversalError Progress → Prop
  | .ok final =>
      final.Sound graph roots [] ∧ ∀ node, node ∈ progress.finished ∨ node ∈ stack →
        node ∈ final.finished
  | .error error => error.Truthful graph roots

/-- A visit ends as a later part of it does, if that has all the nodes of the whole before it. -/
theorem Ends.of_later {progress later : Progress} {nodes others : List NodeIndex}
    {outcome : Except TraversalError Progress} (ends : graph.Ends roots later others outcome)
    (kept : ∀ node, node ∈ progress.finished ∨ node ∈ nodes →
      node ∈ later.finished ∨ node ∈ others) :
    graph.Ends roots progress nodes outcome := by
  cases outcome with
  | error => exact ends
  | ok final => exact ⟨ends.1, fun node placed => ends.2 node (kept node placed)⟩

/-- A sound visit of a stack finishes all its nodes or ends with a true error. -/
theorem visitStack_ends {progress : Progress} (sound : progress.Sound graph roots stack) :
    graph.Ends roots progress (stack.map Visit.node) (graph.visitStack progress stack) := by
  induction progress, stack using visitStack.induct graph with
  | case1 progress =>
      rw [visitStack]
      exact ⟨sound, by simp⟩
  | case2 progress node stack ih =>
      rw [visitStack]
      apply (ih sound.pop).of_later
      intro other placed
      simp only [List.map_cons, List.mem_cons] at placed ⊢
      tauto
  | case3 progress node dependency pending stack missing =>
      rw [visitStack_missing missing]
      obtain ⟨reached, edge⟩ := sound.top_edge
      refine ⟨reached, edge, ?_⟩
      rw [sound.contains_iff, missing]
      simp
  | case4 progress node dependency pending stack visiting =>
      rw [visitStack_visiting visiting]
      obtain ⟨reached, edge⟩ := sound.top_edge
      exact ⟨reached.dependency edge, sound.onCycle visiting⟩
  | case5 progress node dependency pending stack done ih =>
      rw [visitStack_done done]
      exact ih (sound.skip done)
  | case6 progress node dependency pending stack fresh ih =>
      rw [visitStack_unvisited fresh]
      obtain ⟨reached, edge⟩ := sound.top_edge
      have pushed := sound.visit ⟨dependency, graph.dependencies dependency⟩
        (⟨node, pending⟩ :: stack) fresh rfl sound.trail.push (reached.dependency edge)
      apply (ih pushed).of_later
      intro other placed
      simp only [List.map_cons, List.mem_cons] at placed ⊢
      tauto

/-- A sound visit of roots finishes them all or ends with a true error. -/
theorem visitRoots_ends {progress : Progress} {rest : List NodeIndex}
    (sound : progress.Sound graph roots []) (listed : ∀ root ∈ rest, root ∈ roots) :
    graph.Ends roots progress rest (graph.visitRoots progress rest) := by
  induction rest generalizing progress with
  | nil => exact ⟨sound, by simp⟩
  | cons root rest ih =>
      have here := listed root List.mem_cons_self
      have others : ∀ other ∈ rest, other ∈ roots :=
        fun other member => listed other (.tail _ member)
      unfold visitRoots
      cases mark : progress.marks[root]? with
      | none =>
          refine ⟨here, ?_⟩
          rw [sound.contains_iff, mark]
          simp
      | some found =>
          cases found with
          | done =>
              apply (ih sound others).of_later
              rintro node (earlier | placed)
              · exact .inl earlier
              · rcases List.mem_cons.mp placed with rfl | deeper
                · exact .inl ((sound.done_iff node).mp mark)
                · exact .inr deeper
          -- Between roots the stack is empty, so no node is under visit.
          | visiting => simpa using (sound.visiting_iff root).mp mark
          | unvisited =>
              have visited := visitStack_ends (sound.visitRoot here mark)
              dsimp only
              generalize graph.visitStack _ _ = outcome at visited
              cases outcome with
              | error => exact visited
              | ok middle =>
                  apply (ih visited.1 others).of_later
                  rintro node (earlier | placed)
                  · exact .inl (visited.2 node (.inl earlier))
                  · rcases List.mem_cons.mp placed with rfl | deeper
                    · exact .inl (visited.2 node (.inr List.mem_cons_self))
                    · exact .inr deeper

/-! ### Steps of a visit -/

/-- Steps that nodes without visit may still take: one for the node and one for each edge. -/
def unvisitedWork (graph : DependencyGraph α) (marks : Array Mark) : Nat :=
  ∑ node ∈ Finset.range graph.size,
    if marks[node]? = some .unvisited then (graph.dependencies node).length + 1 else 0

theorem unvisitedWork_le (graph : DependencyGraph α) (marks : Array Mark) :
    graph.unvisitedWork marks ≤ graph.size + graph.edgeCount := by
  have each : ∀ node ∈ Finset.range graph.size,
      (if marks[node]? = some .unvisited then (graph.dependencies node).length + 1 else 0) ≤
        (graph.dependencies node).length + 1 := by
    intro node _
    split <;> omega
  apply (Finset.sum_le_sum each).trans
  rw [Finset.sum_add_distrib, Finset.sum_const, Finset.card_range, edgeCount]
  simp [Nat.add_comm]

/-- The visit of a node takes its work out of the work of the unvisited nodes. -/
theorem unvisitedWork_visit {marks : Array Mark} (mark : Mark) (sized : marks.size = graph.size)
    (fresh : marks[node]? = some .unvisited) (visited : mark ≠ .unvisited) :
    graph.unvisitedWork marks =
      graph.unvisitedWork (marks.setIfInBounds node mark) +
        ((graph.dependencies node).length + 1) := by
  have inside : node < marks.size := (Array.getElem?_eq_some_iff.mp fresh).1
  have member : node ∈ Finset.range graph.size := Finset.mem_range.mpr (sized ▸ inside)
  unfold unvisitedWork
  rw [← Finset.sum_erase_add _ _ member, ← Finset.sum_erase_add (Finset.range graph.size) _ member]
  simp only [fresh, if_true, Array.getElem?_setIfInBounds_self_of_lt inside, Option.some.injEq,
    visited, if_false, Nat.add_zero]
  congr 1
  apply Finset.sum_congr rfl
  intro other listed
  rw [Array.getElem?_setIfInBounds_ne (Ne.symm (Finset.ne_of_mem_erase listed))]

theorem unvisitedWork_set_le (graph : DependencyGraph α) (marks : Array Mark) (node : NodeIndex)
    {mark : Mark} (visited : mark ≠ .unvisited) :
    graph.unvisitedWork (marks.setIfInBounds node mark) ≤ graph.unvisitedWork marks := by
  apply Finset.sum_le_sum
  intro other _
  by_cases same : node = other
  · subst same
    by_cases inside : node < marks.size
    · simp [inside, visited]
    · simp [inside]
  · rw [Array.getElem?_setIfInBounds_ne same]

/-- A visit takes at most one step for each unvisited node and each of its edges, one for each edge
and node on the stack, and a last one. -/
theorem exists_visitWithin {progress : Progress} {steps : Nat}
    (sized : progress.marks.size = graph.size)
    (enough : graph.unvisitedWork progress.marks + stackWork stack < steps) :
    ∃ visited, graph.visitWithin steps progress stack = some visited := by
  induction steps generalizing progress stack with
  | zero => omega
  | succ steps ih =>
      rcases stack with _ | ⟨⟨node, _ | ⟨dependency, pending⟩⟩, stack⟩
      · exact ⟨_, rfl⟩
      · have visited : Mark.done ≠ .unvisited := by decide
        have work := graph.unvisitedWork_set_le progress.marks node visited
        simp only [stackWork, List.length_nil] at enough
        exact ih (by simpa using sized) (by dsimp only; omega)
      · simp only [stackWork, List.length_cons] at enough
        simp only [visitWithin]
        split
        · exact ⟨_, rfl⟩
        · exact ⟨_, rfl⟩
        · exact ih sized (by simp only [stackWork]; omega)
        · next fresh =>
            have work := unvisitedWork_visit .visiting sized fresh (by decide)
            exact ih (by simpa using sized) (by simp only [stackWork]; omega)

/-- Between roots no node is under visit, so the visit of each root ends within one step for each
node and each edge of the graph, and a last one. -/
theorem exists_visitRootsWithin {progress : Progress} {rest : List NodeIndex}
    (sound : progress.Sound graph roots []) (listed : ∀ root ∈ rest, root ∈ roots) :
    ∃ visited, graph.visitRootsWithin (graph.size + graph.edgeCount + 1) progress rest =
      some visited := by
  induction rest generalizing progress with
  | nil => exact ⟨_, rfl⟩
  | cons root rest ih =>
      have others : ∀ other ∈ rest, other ∈ roots :=
        fun other member => listed other (.tail _ member)
      unfold visitRootsWithin
      cases mark : progress.marks[root]? with
      | none => exact ⟨_, rfl⟩
      | some found =>
          cases found with
          | done => exact ih sound others
          | visiting => simpa using (sound.visiting_iff root).mp mark
          | unvisited =>
              have pushed := sound.visitRoot (listed root List.mem_cons_self) mark
              have work := unvisitedWork_visit .visiting sound.size mark (by decide)
              have most := graph.unvisitedWork_le progress.marks
              have enough : graph.unvisitedWork (progress.marks.setIfInBounds root .visiting) +
                  stackWork [⟨root, graph.dependencies root⟩] <
                    graph.size + graph.edgeCount + 1 := by
                simp only [stackWork]
                omega
              obtain ⟨visited, ended⟩ := exists_visitWithin pushed.size enough
              have ends := visitStack_ends pushed
              rw [visitStack_eq_of_visitWithin ended] at ends
              dsimp only
              rw [ended]
              cases visited with
              | error => exact ⟨_, rfl⟩
              | ok middle => exact ih ends.1 others

/-! ### The dependency order -/

/-- Everything that the roots reach lies in the arena, and nothing of it on a cycle. -/
def Sortable (graph : DependencyGraph α) (roots : List NodeIndex) : Prop :=
  (∀ root ∈ roots, graph.contains root) ∧
    ∀ node, graph.Reached roots node → graph.contains node ∧ ¬ graph.OnCycle node

/-- A true error is a breach of what an order needs. -/
theorem not_sortable_of_truthful {error : TraversalError} (truthful : error.Truthful graph roots) :
    ¬ graph.Sortable roots := by
  rintro ⟨inside, sortable⟩
  cases error with
  | missingRoot root => exact truthful.2 (inside root truthful.1)
  | missingNode node referencedBy =>
      obtain ⟨reached, edge, outside⟩ := truthful
      exact outside (sortable node (reached.dependency edge)).1
  | cycle node => exact (sortable node truthful.1).2 truthful.2

/-- A rank that decreases along every edge rules out cycles. -/
theorem sortable_of_rank (rank : NodeIndex → Nat) (inside : ∀ root ∈ roots, graph.contains root)
    (decreases : ∀ node, ∀ dependency ∈ graph.dependencies node,
      graph.contains dependency ∧ rank dependency < rank node) : graph.Sortable roots := by
  have below : ∀ {node child}, Relation.TransGen graph.DependsOn node child →
      rank child < rank node := by
    intro node child path
    induction path with
    | single edge => exact (decreases _ _ edge).2
    | tail _ edge ih => exact Nat.lt_trans (decreases _ _ edge).2 ih
  refine ⟨inside, ?_⟩
  rintro node ⟨root, listed, path⟩
  refine ⟨?_, fun cycle => Nat.lt_irrefl _ (below cycle)⟩
  cases path with
  | refl => exact inside _ listed
  | tail _ edge => exact (decreases _ _ edge).1

namespace Progress.Sound

variable {progress : Progress}

theorem contains_of_mem (sound : progress.Sound graph roots stack)
    (member : node ∈ progress.finished) : graph.contains node :=
  sound.contains_iff.mpr ⟨_, (sound.done_iff node).mpr member⟩

/-- Finished roots have all that they reach finished. -/
theorem mem_iff_reached (sound : progress.Sound graph roots [])
    (finished : ∀ root ∈ roots, root ∈ progress.finished) :
    node ∈ progress.finished ↔ graph.Reached roots node := by
  constructor
  · intro member
    exact sound.reached node (.inl member)
  · rintro ⟨root, listed, path⟩
    exact sound.ordered.mem_of_path (finished root listed) path

theorem isOrder (sound : progress.Sound graph roots [])
    (finished : ∀ root ∈ roots, root ∈ progress.finished) :
    graph.IsOrder roots progress.finished.reverse where
  distinct := List.nodup_reverse.mpr sound.ordered.nodup
  mem_iff node := by rw [List.mem_reverse, sound.mem_iff_reached finished]
  follows := by
    intro before node after split dependency edge
    have latest : progress.finished = after.reverse ++ node :: before.reverse := by
      simpa using congrArg List.reverse split
    have ordered := sound.ordered
    rw [latest] at ordered
    simpa using ordered.of_append.2.1 dependency edge

theorem sortable (sound : progress.Sound graph roots [])
    (finished : ∀ root ∈ roots, root ∈ progress.finished) : graph.Sortable roots := by
  refine ⟨fun root listed => sound.contains_of_mem (finished root listed), ?_⟩
  intro node reached
  have member := (sound.mem_iff_reached finished).mpr reached
  exact ⟨sound.contains_of_mem member, sound.ordered.not_onCycle member⟩

end Progress.Sound

/-- An order that is found is one, and an error that is found is true. -/
theorem orderFrom_sound (graph : DependencyGraph α) (roots : List NodeIndex) :
    match graph.orderFrom roots with
    | .ok order => graph.IsOrder roots order ∧ graph.Sortable roots
    | .error error => error.Truthful graph roots := by
  have ends := visitRoots_ends (Progress.Sound.start graph roots) fun _ listed => listed
  unfold orderFrom
  cases visited : graph.visitRoots ⟨Array.replicate graph.size .unvisited, []⟩ roots with
  | error error =>
      rw [visited] at ends
      exact ends
  | ok progress =>
      rw [visited] at ends
      have finished : ∀ root ∈ roots, root ∈ progress.finished := fun root member =>
        ends.2 root (.inr member)
      exact ⟨ends.1.isOrder finished, ends.1.sortable finished⟩

theorem exists_orderFrom (sortable : graph.Sortable roots) :
    ∃ order, graph.orderFrom roots = .ok order := by
  have sound := graph.orderFrom_sound roots
  cases ordered : graph.orderFrom roots with
  | error error =>
      rw [ordered] at sound
      exact absurd sortable (not_sortable_of_truthful sound)
  | ok order => exact ⟨order, rfl⟩

theorem isOrder_of_orderFrom {order : List NodeIndex} (ordered : graph.orderFrom roots = .ok order) :
    graph.IsOrder roots order := by
  have sound := graph.orderFrom_sound roots
  rw [ordered] at sound
  exact sound.1

/-- Exactness of the traversal.  For every graph and all roots the traversal ends, within one step
for each node and each edge of the graph, and a last one, for each root.  It succeeds iff everything
that the roots reach lies in the arena and nothing of it on a cycle.  It then lists exactly what the
roots reach, each node once and after all its dependencies; otherwise it names a true reason. -/
theorem orderFrom_exact (graph : DependencyGraph α) (roots : List NodeIndex) :
    graph.orderWithin (graph.size + graph.edgeCount + 1) roots = some (graph.orderFrom roots) ∧
      ((∃ order, graph.orderFrom roots = .ok order) ↔ graph.Sortable roots) ∧
      match graph.orderFrom roots with
      | .ok order => graph.IsOrder roots order
      | .error error => error.Truthful graph roots := by
  have within : graph.orderWithin (graph.size + graph.edgeCount + 1) roots =
      some (graph.orderFrom roots) := by
    obtain ⟨visited, ended⟩ :=
      exists_visitRootsWithin (Progress.Sound.start graph roots) fun _ listed => listed
    have found : graph.orderWithin (graph.size + graph.edgeCount + 1) roots =
        some (visited.map fun progress => progress.finished.reverse) := by
      rw [orderWithin, ended, Option.map_some]
    rw [found, orderFrom_eq_of_orderWithin _ found]
  have sound := graph.orderFrom_sound roots
  refine ⟨within, ?_⟩
  cases ordered : graph.orderFrom roots with
  | error error =>
      rw [ordered] at sound
      exact ⟨⟨by simp, fun sortable => absurd sortable (not_sortable_of_truthful sound)⟩, sound⟩
  | ok order =>
      rw [ordered] at sound
      exact ⟨⟨fun _ => sound.2, fun _ => ⟨_, rfl⟩⟩, sound.1⟩

end DependencyGraph

end ShaderFlow
