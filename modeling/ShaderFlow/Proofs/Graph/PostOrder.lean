/-
Module: ShaderFlow.Proofs.Graph.PostOrder
Purpose: The dependency order is the recursive depth-first post-order, root by root.
Main exports: DependencyGraph.visit, DependencyGraph.postOrder, DependencyGraph.orderFrom_eq,
  DependencyGraph.order_eq_postOrder, DependencyGraph.visit_beside,
  DependencyGraph.orderFrom_root_by_root, DependencyGraph.order_root_by_root
-/
import Mathlib.Data.List.Induction
import ShaderFlow.Proofs.Graph.Traversal
import ShaderFlow.Proofs.Outcome

namespace ShaderFlow.DependencyGraph

/-!
The recursive visit knows the path that has led to a node and the nodes that are finished.  The stack
holds the same path, with the edges that each of its nodes has still to look at, and the marks tell of
each slot whether it is finished or on the path.  So the visit of a node from any stack is its
recursive visit, followed by the rest of the stack.

The marks last from one root to the next.  What the earlier roots have finished is closed under
dependencies and holds no cycle, so a visit that does not know of it would only list it once more: it
fails at the same place, and lists the other nodes in the same order.
-/

universe u

variable {α : Type u} {graph : DependencyGraph α} {node : NodeIndex}
  {path finished nodes pending roots : List NodeIndex}

/-! ### The recursive visit -/

/-- Number of slots of the arena that are not on a path. -/
def slotsOff (graph : DependencyGraph α) (path : List NodeIndex) : Nat :=
  (List.range graph.size).countP fun slot => !path.contains slot

theorem slotsOff_cons_lt (inside : graph.contains node) (off : node ∉ path) :
    graph.slotsOff (node :: path) < graph.slotsOff path := by
  have fewer (slots : List NodeIndex) : slots.countP (fun slot => !(node :: path).contains slot) ≤
      slots.countP fun slot => !path.contains slot := by
    apply List.countP_mono_left
    intro slot _
    simp +contextual
  have member : node ∈ List.range graph.size := by simpa [contains] using inside
  obtain ⟨before, after, split⟩ := List.append_of_mem member
  have front := fewer before
  have behind := fewer after
  have here : (!(node :: path).contains node) = false := by simp
  have there : (!path.contains node) = true := by simp [off]
  simp only [slotsOff, split, List.countP_append, List.countP_cons, here, there, if_true,
    Bool.false_eq_true, if_false]
  omega

/-- What is wrong with a node outside the arena: the innermost node of the path depends on it, or it is
a root. -/
def strayError (node : NodeIndex) : List NodeIndex → TraversalError
  | [] => .missingRoot node
  | parent :: _ => .missingNode node parent

/-- Visit a node recursively: first its dependencies in order, then the node itself.  A node that is
finished is passed over, one that is met on the path to it lies on a cycle.  The finished nodes stand
with the latest first. -/
def visit (graph : DependencyGraph α) (path finished : List NodeIndex) (node : NodeIndex) :
    Except TraversalError (List NodeIndex) :=
  if _inside : graph.contains node then
    if node ∈ finished then .ok finished
    else if _off : node ∈ path then .error (.cycle node)
    else do
      let below ← (graph.dependencies node).foldlM
        (fun listed dependency => graph.visit (node :: path) listed dependency) finished
      return node :: below
  else .error (strayError node path)
termination_by graph.slotsOff path
decreasing_by exact slotsOff_cons_lt _inside _off

theorem visit_outside (outside : ¬ graph.contains node) :
    graph.visit path finished node = .error (strayError node path) := by
  rw [visit]
  simp [outside]

theorem visit_listed (inside : graph.contains node) (listed : node ∈ finished) :
    graph.visit path finished node = .ok finished := by
  rw [visit]
  simp [inside, listed]

theorem visit_met (inside : graph.contains node) (unlisted : node ∉ finished)
    (met : node ∈ path) : graph.visit path finished node = .error (.cycle node) := by
  rw [visit]
  simp [inside, unlisted, met]

theorem visit_fresh (inside : graph.contains node) (unlisted : node ∉ finished)
    (off : node ∉ path) :
    graph.visit path finished node =
      ((graph.dependencies node).foldlM (graph.visit (node :: path)) finished).map (node :: ·) := by
  rw [visit]
  simp only [inside, unlisted, off, dif_pos, if_false, dif_neg, not_false_eq_true]
  cases (graph.dependencies node).foldlM (graph.visit (node :: path)) finished <;> rfl

/-- The recursive depth-first post-order from a root, or what is wrong with the first stray or repeated
node on the way. -/
def postOrder (graph : DependencyGraph α) (root : NodeIndex) :
    Except TraversalError (List NodeIndex) :=
  (graph.visit [] [] root).map List.reverse

/-! ### The stack of the visit -/

/-- The marks of a visit that has finished some nodes and is on a path. -/
def marksOf (graph : DependencyGraph α) (finished path : List NodeIndex) : Array Mark :=
  Array.ofFn fun slot : Fin graph.size =>
    if slot.val ∈ finished then .done else if slot.val ∈ path then .visiting else .unvisited

theorem getElem?_marksOf :
    (graph.marksOf finished path)[node]? =
      if graph.contains node then
        some (if node ∈ finished then .done else if node ∈ path then .visiting else .unvisited)
      else none := by
  by_cases inside : node < graph.size <;> simp [marksOf, contains, inside]

theorem marksOf_visiting (unlisted : node ∉ finished) :
    (graph.marksOf finished path).setIfInBounds node .visiting =
      graph.marksOf finished (node :: path) := by
  apply Array.ext_getElem?
  intro slot
  by_cases same : node = slot
  · subst same
    by_cases inside : node < graph.size <;> simp [marksOf, inside, unlisted]
  · simp [getElem?_marksOf, same, Ne.symm same]

theorem marksOf_done :
    (graph.marksOf finished (node :: path)).setIfInBounds node .done =
      graph.marksOf (node :: finished) path := by
  apply Array.ext_getElem?
  intro slot
  by_cases same : node = slot
  · subst same
    by_cases inside : node < graph.size <;> simp [marksOf, inside]
  · simp [getElem?_marksOf, same, Ne.symm same]

/-- The progress of a visit that has finished some nodes and is on a path. -/
def progressOf (graph : DependencyGraph α) (finished path : List NodeIndex) : Progress :=
  ⟨graph.marksOf finished path, finished⟩

/-- A stack works through the dependencies of its top node as the recursive visit does, if the visit of
each of them from a stack is the recursive one. -/
theorem visitStack_pending
    (each : ∀ listed child stack, graph.contains child → child ∉ listed → child ∉ node :: path →
      graph.visitStack (graph.progressOf listed (child :: node :: path))
          (⟨child, graph.dependencies child⟩ :: stack) =
        (graph.visit (node :: path) listed child).bind fun below =>
          graph.visitStack (graph.progressOf below (node :: path)) stack)
    (stack : List Visit) :
    graph.visitStack (graph.progressOf finished (node :: path)) (⟨node, pending⟩ :: stack) =
      (pending.foldlM (graph.visit (node :: path)) finished).bind fun below =>
        graph.visitStack (graph.progressOf (node :: below) path) stack := by
  induction pending generalizing finished with
  | nil =>
      rw [visitStack, progressOf, marksOf_done]
      rfl
  | cons child pending ih =>
      rw [List.foldlM_cons]
      have mark : (graph.progressOf finished (node :: path)).marks[child]? = _ := getElem?_marksOf
      by_cases inside : graph.contains child
      case neg =>
        rw [visitStack_missing (by rw [mark, if_neg inside]), visit_outside inside]
        rfl
      rw [if_pos inside] at mark
      by_cases listed : child ∈ finished
      · rw [visitStack_done (by rw [mark, if_pos listed]), visit_listed inside listed, ih]
        rfl
      rw [if_neg listed] at mark
      by_cases met : child ∈ node :: path
      · rw [visitStack_visiting (by rw [mark, if_pos met]), visit_met inside listed met]
        rfl
      rw [if_neg met] at mark
      rw [visitStack_unvisited mark]
      have pushed := each finished child (⟨node, pending⟩ :: stack) inside listed met
      dsimp only [progressOf] at pushed ⊢
      rw [marksOf_visiting listed, pushed]
      cases graph.visit (node :: path) finished child with
      | error => rfl
      | ok below => exact ih

/-- The visit of a node from a stack is the recursive visit. -/
theorem visitStack_node (stack : List Visit) (inside : graph.contains node)
    (unlisted : node ∉ finished) (off : node ∉ path) :
    graph.visitStack (graph.progressOf finished (node :: path))
        (⟨node, graph.dependencies node⟩ :: stack) =
      (graph.visit path finished node).bind fun below =>
        graph.visitStack (graph.progressOf below path) stack := by
  induction path, finished, node using visit.induct graph generalizing stack with
  | case1 _ _ _ _ listed => exact absurd listed unlisted
  | case2 _ _ _ _ _ met => exact absurd met off
  | case4 _ _ _ outside => exact absurd inside outside
  | case3 path finished node _ _ _ ih =>
      rw [visitStack_pending fun listed child stack => ih listed child stack,
        visit_fresh inside unlisted off]
      cases (graph.dependencies node).foldlM (graph.visit (node :: path)) finished <;> rfl

/-- Roots are visited recursively, one after another. -/
theorem visitRoots_eq :
    graph.visitRoots (graph.progressOf finished []) roots =
      (roots.foldlM (graph.visit []) finished).map fun listed => graph.progressOf listed [] := by
  induction roots generalizing finished with
  | nil => rfl
  | cons root roots ih =>
      rw [List.foldlM_cons, visitRoots]
      have mark : (graph.progressOf finished []).marks[root]? = _ := getElem?_marksOf
      by_cases inside : graph.contains root
      case neg =>
        rw [mark, if_neg inside, visit_outside inside]
        rfl
      by_cases listed : root ∈ finished
      · rw [mark, if_pos inside, if_pos listed, visit_listed inside listed]
        exact ih
      · have visited := visitStack_node [] inside listed (List.not_mem_nil (a := root))
        rw [mark, if_pos inside, if_neg listed, if_neg List.not_mem_nil]
        dsimp only [progressOf] at visited ⊢
        rw [marksOf_visiting listed, visited]
        cases graph.visit [] finished root with
        | error => rfl
        | ok below =>
            simp only [Except.bind, visitStack]
            exact ih

theorem orderFrom_eq (graph : DependencyGraph α) (roots : List NodeIndex) :
    graph.orderFrom roots = (roots.foldlM (graph.visit []) []).map List.reverse := by
  have start : (⟨Array.replicate graph.size .unvisited, []⟩ : Progress) = graph.progressOf [] [] := by
    simp only [progressOf, marksOf]
    congr 1
    apply Array.ext_getElem?
    simp [Array.getElem?_replicate, Array.getElem?_ofFn]
  rw [orderFrom, start, visitRoots_eq]
  cases roots.foldlM (graph.visit []) [] <;> rfl

/-- The dependency order of a root is its recursive post-order. -/
theorem order_eq_postOrder (graph : DependencyGraph α) (root : NodeIndex) :
    graph.order root = graph.postOrder root := by
  rw [order, orderFrom_eq, postOrder, List.foldlM_cons]
  cases graph.visit [] [] root <;> rfl

/-! ### Passing over what is finished -/

/-- Nodes of the arena, the latest first, each listed once and later than all its dependencies. -/
structure Settled (graph : DependencyGraph α) (nodes : List NodeIndex) : Prop where
  ordered : graph.Ordered nodes
  inside : ∀ node ∈ nodes, graph.contains node

theorem Settled.earlier {later earlier : List NodeIndex}
    (settled : graph.Settled (later ++ node :: earlier)) :
    graph.Settled earlier ∧ node ∉ earlier ∧
      ∀ dependency ∈ graph.dependencies node, dependency ∈ earlier := by
  obtain ⟨last, below, ordered⟩ := settled.ordered.of_append
  exact ⟨⟨ordered, fun other member => settled.inside other (by simp [member])⟩, last, below⟩

/-- A visit of settled nodes succeeds and lists nothing else. -/
theorem visit_settled (settled : graph.Settled nodes) (member : node ∈ nodes)
    (off : ∀ other ∈ path, other ∉ nodes) :
    ∃ added, graph.visit path finished node = .ok (added ++ finished) ∧ added ⊆ nodes := by
  induction path, finished, node using visit.induct graph generalizing nodes with
  | case1 _ _ _ inside listed => exact ⟨[], visit_listed inside listed, List.nil_subset _⟩
  | case2 _ _ _ _ _ met => exact absurd member (off _ met)
  | case4 _ _ _ outside => exact absurd (settled.inside _ member) outside
  | case3 path finished node inside unlisted fresh ih =>
      obtain ⟨later, earlier, rfl⟩ := List.append_of_mem member
      obtain ⟨before, last, below⟩ := settled.earlier
      have away : ∀ other ∈ node :: path, other ∉ earlier := List.forall_mem_cons.mpr
        ⟨last, fun other deeper early => off other deeper (by simp [early])⟩
      -- the dependencies stand earlier among the settled nodes, so they are settled without the node
      have each : ∀ listed, ∀ child ∈ graph.dependencies node, ∃ added,
          graph.visit (node :: path) listed child = .ok (added ++ listed) ∧ added ⊆ earlier :=
        fun listed child edge => ih listed child before (below child edge) away
      obtain ⟨result, visited⟩ : ∃ result,
          (graph.dependencies node).foldlM (graph.visit (node :: path)) finished = .ok result := by
        apply exists_foldlM
        intro listed child edge
        obtain ⟨_, visited, _⟩ := each listed child edge
        exact ⟨_, visited⟩
      obtain ⟨added, rfl, within⟩ : ∃ added, result = added ++ finished ∧ added ⊆ earlier := by
        refine foldlM_keeps (fun listed => ∃ added, listed = added ++ finished ∧ added ⊆ earlier)
          ?_ ⟨[], rfl, List.nil_subset _⟩ visited
        rintro _ child edge next ⟨added, rfl, within⟩ stepped
        obtain ⟨more, here, inMore⟩ := each (added ++ finished) child edge
        cases here.symm.trans stepped
        exact ⟨more ++ added, (List.append_assoc ..).symm, List.append_subset.mpr ⟨inMore, within⟩⟩
      refine ⟨node :: added, ?_, ?_⟩
      · rw [visit_fresh inside unlisted fresh, visited]
        rfl
      · exact List.cons_subset.mpr ⟨by simp, fun other early => by simp [within early]⟩

/-- What a visit lists beside nodes that were settled before. -/
def beside (nodes listed : List NodeIndex) : List NodeIndex :=
  listed.filter (· ∉ nodes) ++ nodes

theorem mem_beside {listed : List NodeIndex} :
    node ∈ beside nodes listed ↔ node ∈ listed ∨ node ∈ nodes := by
  simp [beside]
  tauto

theorem cons_beside {listed : List NodeIndex} (unsettled : node ∉ nodes) :
    node :: beside nodes listed = beside nodes (node :: listed) := by
  simp [beside, unsettled]

theorem beside_append {added : List NodeIndex} (within : added ⊆ nodes) :
    beside nodes (added ++ finished) = beside nodes finished := by
  have none : added.filter (· ∉ nodes) = [] := by
    apply List.filter_eq_nil_iff.mpr
    intro node member
    simp [within member]
  rw [beside, List.filter_append, none, List.nil_append, beside]

/-- A visit goes the same way whether the settled nodes are listed or not. -/
theorem visit_beside (settled : graph.Settled nodes) (off : ∀ other ∈ path, other ∉ nodes) :
    graph.visit path (beside nodes finished) node =
      (graph.visit path finished node).map (beside nodes) := by
  induction path, finished, node using visit.induct graph with
  | case1 _ _ _ inside listed =>
      rw [visit_listed inside listed, visit_listed inside (mem_beside.mpr (.inl listed))]
      rfl
  | case2 _ _ _ inside unlisted met =>
      have unsettled := mem_beside.not.mpr (not_or.mpr ⟨unlisted, off _ met⟩)
      rw [visit_met inside unlisted met, visit_met inside unsettled met]
      rfl
  | case4 _ _ _ outside =>
      rw [visit_outside outside, visit_outside outside]
      rfl
  | case3 path finished node inside unlisted fresh ih =>
      by_cases member : node ∈ nodes
      · obtain ⟨added, visited, within⟩ :
            ∃ added, graph.visit path finished node = .ok (added ++ finished) ∧ added ⊆ nodes :=
          visit_settled settled member off
        rw [visit_listed inside (mem_beside.mpr (.inr member)), visited]
        exact congrArg Except.ok (beside_append within).symm
      have unsettled := mem_beside.not.mpr (not_or.mpr ⟨unlisted, member⟩)
      have away : ∀ other ∈ node :: path, other ∉ nodes := List.forall_mem_cons.mpr ⟨member, off⟩
      have all := foldlM_image (fun listed child (_ : child ∈ graph.dependencies node) =>
        ih listed child away) finished
      rw [visit_fresh inside unlisted fresh, visit_fresh inside unsettled fresh, all]
      cases (graph.dependencies node).foldlM (graph.visit (node :: path)) finished with
      | error => rfl
      | ok below => exact congrArg Except.ok (cons_beside member)

/-! ### Root by root -/

theorem eraseDups_of_nodup (distinct : nodes.Nodup) : nodes.eraseDups = nodes := by
  induction nodes with
  | nil => rfl
  | cons node nodes ih =>
      obtain ⟨fresh, others⟩ := List.nodup_cons.mp distinct
      have kept : nodes.filter (fun other => !other == node) = nodes := by
        apply List.filter_eq_self.mpr
        intro other member
        simpa using ne_of_mem_of_not_mem member fresh
      rw [List.eraseDups_cons, kept, ih others]

theorem eraseDups_append_of_nodup {more : List NodeIndex} (distinct : more.Nodup) :
    (nodes ++ more).eraseDups = nodes.eraseDups ++ more.filter (· ∉ nodes.eraseDups) := by
  have rest : more.removeAll nodes = more.filter (· ∉ nodes.eraseDups) := by
    simp [List.removeAll]
  rw [List.eraseDups_append, rest, eraseDups_of_nodup (distinct.filter _)]

theorem ordered_of_follows (distinct : finished.Nodup)
    (follows : ∀ before node after, finished.reverse = before ++ node :: after →
      ∀ dependency ∈ graph.dependencies node, dependency ∈ before) :
    graph.Ordered finished := by
  induction finished with
  | nil => trivial
  | cons node earlier ih =>
      obtain ⟨fresh, others⟩ := List.nodup_cons.mp distinct
      refine ⟨fresh, ?_, ih others ?_⟩
      · intro dependency edge
        have last := follows earlier.reverse node [] List.reverse_cons dependency edge
        exact List.mem_reverse.mp last
      · intro before other after split
        apply follows before other (after ++ [node])
        simp [split]

theorem settled_of_orderFrom (ordered : graph.orderFrom roots = .ok nodes.reverse) :
    graph.Settled nodes := by
  have sound := graph.orderFrom_sound roots
  rw [ordered] at sound
  obtain ⟨order, _, sortable⟩ := sound
  constructor
  case ordered => exact ordered_of_follows (List.nodup_reverse.mp order.distinct) order.follows
  case inside =>
    intro node member
    exact (sortable node ((order.mem_iff node).mp (List.mem_reverse.mpr member))).1

/-- One more root adds the nodes of its own order that are not listed yet. -/
theorem orderFrom_concat (graph : DependencyGraph α) (roots : List NodeIndex) (root : NodeIndex) :
    graph.orderFrom (roots ++ [root]) = do
      let listed ← graph.orderFrom roots
      let order ← graph.order root
      return listed ++ order.filter (· ∉ listed) := by
  have before := graph.orderFrom_eq roots
  rw [orderFrom_eq, List.foldlM_append, order_eq_postOrder, postOrder]
  cases finished : roots.foldlM (graph.visit []) [] with
  | error error =>
      rw [finished] at before
      rw [before]
      rfl
  | ok nodes =>
      rw [finished] at before
      have settled := settled_of_orderFrom before
      have visited : graph.visit [] nodes root =
          (graph.visit [] [] root).map (beside nodes) := by
        have beyond : graph.visit [] (beside nodes []) root = _ := visit_beside settled nofun
        simpa [beside] using beyond
      rw [before]
      show ([root].foldlM (graph.visit []) nodes).map List.reverse = _
      rw [List.foldlM_cons, visited]
      cases graph.visit [] [] root with
      | error => rfl
      | ok order =>
          refine congrArg Except.ok ?_
          simp [beside, List.filter_reverse]

/-- The order from several roots is the orders of the roots one after another, without repeats. -/
theorem orderFrom_root_by_root (graph : DependencyGraph α) (roots : List NodeIndex) :
    graph.orderFrom roots =
      (roots.mapM graph.order).map fun orders => orders.flatten.eraseDups := by
  induction roots using List.reverseRecOn with
  | nil => rfl
  | append_singleton roots root ih =>
      rw [orderFrom_concat, ih, List.mapM_append]
      cases roots.mapM graph.order with
      | error => rfl
      | ok orders =>
          simp only [List.mapM_cons, List.mapM_nil]
          cases ordered : graph.order root with
          | error => rfl
          | ok order =>
              have distinct := (isOrder_of_orderFrom ordered).distinct
              have whole : (orders ++ [order]).flatten = orders.flatten ++ order := by simp
              show Except.ok _ = Except.ok (orders ++ [order]).flatten.eraseDups
              rw [whole, eraseDups_append_of_nodup distinct]

/-- The order of a root is its recursive post-order, or fails as this one does.  The order from several
roots is what the orders of the roots list one after another, each node kept where it stands first; it
fails as the first root that has no order of its own. -/
theorem order_root_by_root (graph : DependencyGraph α) :
    (∀ root, graph.order root = graph.postOrder root) ∧
    ∀ roots,
      (∀ order, graph.orderFrom roots = .ok order ↔
        ∃ orders, List.Forall₂ (fun root order => graph.order root = .ok order) roots orders ∧
          order = orders.flatten.eraseDups) ∧
      (∀ error, graph.orderFrom roots = .error error ↔
        ∃ before root after, roots = before ++ root :: after ∧
          (∀ earlier ∈ before, ∃ order, graph.order earlier = .ok order) ∧
          graph.order root = .error error) := by
  refine ⟨graph.order_eq_postOrder, fun roots => ⟨fun order => ?_, fun error => ?_⟩⟩
  · simp only [orderFrom_root_by_root, map_eq_ok_iff, mapM_eq_ok_iff, eq_comm (a := order)]
  · have same : graph.orderFrom roots = .error error ↔ roots.mapM graph.order = .error error := by
      rw [orderFrom_root_by_root]
      cases roots.mapM graph.order <;> simp [Except.map]
    exact same.trans mapM_eq_error_iff

end ShaderFlow.DependencyGraph
