/-
Module: ShaderFlow.Proofs.Shader.Masks
Purpose: The language of component selections, and what a selection makes of a graph.
Main exports: Swizzle.IsMask, Swizzle.Explains, Swizzle.resultType_eq_ok_iff,
  ShaderGraph.swizzle_exact
-/
import Mathlib.Data.List.Basic
import ShaderFlow.Proofs.Shader.Authoring
import ShaderFlow.Proofs.Text.Trimmed

namespace ShaderFlow

/-!
A mask is read in an alphabet whose letters stand in the order of the components, so a letter names
a component of a vector if it stands at a position below the size of the vector.  The alphabets share
no letter, so a letter that names no component in its own alphabet names none at all.
-/

namespace Swizzle

/-- The vector types and the numbers of their components. -/
def vectorSizes : List (ShaderType × Nat) := [(.vec2, 2), (.vec3, 3), (.vec4, 4)]

/-- The alphabets, in component order. -/
def alphabets : List String := ["xyzw", "rgba"]

/-- A letter of an alphabet names a component of a vector of some size. -/
def Names (size : Nat) (letters : String) (c : Char) : Prop :=
  ∃ position < size, letters.toList[position]? = some c

/-- A word of one to four letters of one alphabet, each of which names a component of the source. -/
def IsMask (source : ShaderType) (word : List Char) : Prop :=
  ∃ size, (source, size) ∈ vectorSizes ∧ 1 ≤ word.length ∧ word.length ≤ 4 ∧
    ∃ letters ∈ alphabets, ∀ c ∈ word, Names size letters c

/-- What a fault says of a word. -/
def Explains (source : ShaderType) (word : List Char) : SwizzleFault → Prop
  | .notVector => ∀ size, (source, size) ∉ vectorSizes
  | .emptyMask => word = []
  | .tooLong => 4 < word.length
  | .mixedSets => ∀ letters ∈ alphabets, ∃ c ∈ word, c ∉ letters.toList
  | .outOfRange component vector =>
      vector = source ∧ component ∈ word ∧ ∀ size, (source, size) ∈ vectorSizes →
        ∀ letters ∈ alphabets, ¬ Names size letters component

variable {source ty : ShaderType} {word set : List Char} {size : Nat} {letters other : String}
  {c : Char} {fault : SwizzleFault}

theorem vectorSize?_eq_some_iff :
    source.vectorSize? = some size ↔ (source, size) ∈ vectorSizes := by
  cases source <;> simp [vectorSizes, ShaderType.vectorSize?, ShaderType.isVector,
    ShaderType.componentCount?, eq_comm]

theorem mem_componentSets_iff : set ∈ componentSets ↔ ∃ letters ∈ alphabets, letters.toList = set :=
  List.mem_map (f := String.toList) (l := alphabets)

theorem names_iff : Names size letters c ↔ c ∈ letters.toList.take size := by
  rw [List.mem_take_iff_getElem]
  constructor
  · rintro ⟨position, below, spelled⟩
    obtain ⟨inside, here⟩ := List.getElem?_eq_some_iff.mp spelled
    exact ⟨position, by omega, here⟩
  · rintro ⟨position, below, here⟩
    exact ⟨position, by omega, List.getElem?_eq_some_iff.mpr ⟨by omega, here⟩⟩

theorem names_iff_idxOf_lt (known : c ∈ letters.toList) :
    Names size letters c ↔ letters.toList.idxOf c < size :=
  names_iff.trans (List.mem_take_iff_idxOf_lt known)

/-- A letter is in one alphabet only. -/
theorem eq_of_mem_alphabets (listed : letters ∈ alphabets) (otherListed : other ∈ alphabets)
    (known : c ∈ letters.toList) (otherKnown : c ∈ other.toList) : letters = other := by
  have apart : alphabets.all fun letters => alphabets.all fun other =>
      letters == other || letters.toList.all fun c => !other.toList.contains c := by decide
  have either := List.all_eq_true.mp (List.all_eq_true.mp apart letters listed) other otherListed
  rw [Bool.or_eq_true, beq_iff_eq] at either
  rcases either with same | foreign
  · exact same
  · have unknown := List.all_eq_true.mp foreign c known
    simp [otherKnown] at unknown

theorem mem_alphabets_of_setOf? (found : setOf? word = some set) :
    ∃ letters ∈ alphabets, letters.toList = set ∧ ∀ c ∈ word, c ∈ letters.toList := by
  obtain ⟨letters, listed, rfl⟩ := mem_componentSets_iff.mp (List.mem_of_find?_eq_some found)
  exact ⟨letters, listed, rfl, by simpa using List.find?_some found⟩

theorem exists_not_mem_of_setOf? (mixed : setOf? word = none) :
    ∀ letters ∈ alphabets, ∃ c ∈ word, c ∉ letters.toList := by
  intro letters listed
  simpa using List.find?_eq_none.mp mixed _ (mem_componentSets_iff.mpr ⟨letters, listed, rfl⟩)

theorem names_of_outOfRange? (known : ∀ c ∈ word, c ∈ letters.toList)
    (inRange : outOfRange? letters.toList size word = none) :
    ∀ c ∈ word, Names size letters c := by
  intro c member
  rw [names_iff_idxOf_lt (known c member)]
  simpa using List.find?_eq_none.mp inRange c member

/-- A letter at which a word is out of range is no component, whatever alphabet it is read in. -/
theorem not_names_of_outOfRange? (listed : letters ∈ alphabets)
    (known : ∀ c ∈ word, c ∈ letters.toList)
    (outside : outOfRange? letters.toList size word = some c) :
    c ∈ word ∧ ∀ other ∈ alphabets, ¬ Names size other c := by
  have member := List.mem_of_find?_eq_some outside
  have beyond : size ≤ letters.toList.idxOf c := by simpa using List.find?_some outside
  refine ⟨member, fun other otherListed names => ?_⟩
  have otherKnown := List.mem_of_mem_take (names_iff.mp names)
  cases eq_of_mem_alphabets listed otherListed (known c member) otherKnown
  exact absurd ((names_iff_idxOf_lt otherKnown).mp names) (Nat.not_lt.mpr beyond)

theorem exists_ofComponentCount? {count : Nat} (positive : 1 ≤ count) (bounded : count ≤ 4) :
    ∃ ty, ShaderType.ofComponentCount? count = some ty := by
  have counts : count = 1 ∨ count = 2 ∨ count = 3 ∨ count = 4 := by omega
  rcases counts with rfl | rfl | rfl | rfl <;> exact ⟨_, rfl⟩

/-- A word has the type of its selection if it is a mask, and a fault that is true of it otherwise. -/
theorem resultType_cases (source : ShaderType) (word : List Char) :
    (∃ ty, resultType source word = .ok ty ∧ IsMask source word ∧
      ty.componentCount? = some word.length) ∨
    ∃ fault, resultType source word = .error fault ∧ Explains source word fault := by
  unfold resultType
  split
  · next noVector =>
      refine .inr ⟨_, rfl, fun size member => ?_⟩
      cases noVector.symm.trans (vectorSize?_eq_some_iff.mpr member)
  · next size vector =>
      have sized := vectorSize?_eq_some_iff.mp vector
      split
      · next empty => exact .inr ⟨_, rfl, List.isEmpty_iff.mp empty⟩
      · next full =>
          have positive : 1 ≤ word.length := by simpa [Nat.one_le_iff_ne_zero] using full
          split
          · next long => exact .inr ⟨_, rfl, long⟩
          · next short =>
              have bounded : word.length ≤ 4 := Nat.le_of_not_lt short
              split
              · next mixed => exact .inr ⟨_, rfl, exists_not_mem_of_setOf? mixed⟩
              · next found =>
                  obtain ⟨letters, listed, rfl, known⟩ := mem_alphabets_of_setOf? found
                  split
                  · next outside =>
                      obtain ⟨member, unnamed⟩ := not_names_of_outOfRange? listed known outside
                      refine .inr ⟨_, rfl, rfl, member, fun other otherSized => ?_⟩
                      cases vector.symm.trans (vectorSize?_eq_some_iff.mpr otherSized)
                      exact unnamed
                  · next inRange =>
                      obtain ⟨ty, counted⟩ := exists_ofComponentCount? positive bounded
                      rw [counted]
                      exact .inl ⟨ty, rfl, ⟨size, sized, positive, bounded, letters, listed,
                        names_of_outOfRange? known inRange⟩,
                        ShaderType.ofComponentCount?_eq_some_iff.mp counted⟩

theorem not_isMask_of_explains (explains : Explains source word fault) : ¬ IsMask source word := by
  rintro ⟨size, sized, positive, bounded, letters, listed, named⟩
  cases fault with
  | notVector => exact explains size sized
  | emptyMask =>
      cases explains
      cases positive
  | tooLong => exact Nat.not_lt.mpr bounded explains
  | mixedSets =>
      obtain ⟨c, member, unknown⟩ := explains letters listed
      exact unknown (List.mem_of_mem_take (names_iff.mp (named c member)))
  | outOfRange component =>
      obtain ⟨_, member, unnamed⟩ := explains
      exact unnamed size sized letters listed (named component member)

theorem resultType_eq_ok_iff :
    resultType source word = .ok ty ↔
      IsMask source word ∧ ty.componentCount? = some word.length := by
  rcases resultType_cases source word with
    ⟨found, typed, isMask, counted⟩ | ⟨fault, refused, explains⟩
  · rw [typed, Except.ok.injEq]
    constructor
    · rintro rfl
      exact ⟨isMask, counted⟩
    · rintro ⟨_, otherCounted⟩
      exact Option.some.inj ((ShaderType.ofComponentCount?_eq_some_iff.mpr counted).symm.trans
        (ShaderType.ofComponentCount?_eq_some_iff.mpr otherCounted))
  · rw [refused]
    exact ⟨nofun, fun accepted => absurd accepted.1 (not_isMask_of_explains explains)⟩

theorem explains_of_resultType (refused : resultType source word = .error fault) :
    Explains source word fault := by
  rcases resultType_cases source word with ⟨_, typed, _⟩ | ⟨found, same, explains⟩
  · cases refused.symm.trans typed
  · cases refused.symm.trans same
    exact explains

end Swizzle

namespace ShaderGraph

variable {graph : ShaderGraph} {source : NodeId} {node : ShaderNode}

theorem swizzle_eq (held : graph.node? source = some node) (text : String) :
    graph.swizzle source text =
      match Swizzle.resultType node.ty (Text.trimBlank text.toList) with
      | .ok ty => .ok (graph.insert
          (.swizzle source.index (String.ofList (Text.trimBlank text.toList)) ty))
      | .error fault =>
          .error (.invalidSwizzle (String.ofList (Text.trimBlank text.toList)) fault) := by
  unfold swizzle lookup
  rw [held]
  dsimp only [Bind.bind, Except.bind]
  cases Swizzle.resultType node.ty (Text.trimBlank text.toList) <;> rfl

/-- A selection from a node of a graph is granted iff the text is a mask of the type of the node, with
any white space around it.  The new node holds the mask without the white space, and is of the type
with a component for each letter.  A refusal leaves the graph as it is, and names a fault that the mask
has. -/
theorem swizzle_exact (held : graph.node? source = some node) (text : String) :
    ((∃ id next, graph.swizzle source text = .ok (id, next)) ↔
      ∃ word, Text.Trimmed Text.isBlank text.toList word ∧ Swizzle.IsMask node.ty word) ∧
    (∀ id next, graph.swizzle source text = .ok (id, next) →
      graph.author (.swizzle source text) = next ∧ graph.node? id = none ∧
      ∃ word ty, Text.Trimmed Text.isBlank text.toList word ∧
        ty.componentCount? = some word.length ∧
        (id, next) = graph.insert (.swizzle source.index (String.ofList word) ty) ∧
        next.node? id = some (.swizzle source.index (String.ofList word) ty) ∧
        next.nodeType id = .ok ty) ∧
    ∀ error, graph.swizzle source text = .error error →
      graph.author (.swizzle source text) = graph ∧
      ∃ word fault, Text.Trimmed Text.isBlank text.toList word ∧
        error = .invalidSwizzle (String.ofList word) fault ∧
        Swizzle.Explains node.ty word fault := by
  have trimmed : Text.Trimmed Text.isBlank text.toList (Text.trimBlank text.toList) :=
    Text.trimmed_iff.mpr rfl
  have performed : graph.perform (.swizzle source text) =
      (graph.swizzle source text).map Prod.snd := rfl
  unfold author
  rw [performed, swizzle_eq held]
  cases typed : Swizzle.resultType node.ty (Text.trimBlank text.toList) with
  | ok ty =>
      dsimp only
      obtain ⟨isMask, counted⟩ := Swizzle.resultType_eq_ok_iff.mp typed
      refine ⟨⟨fun _ => ⟨_, trimmed, isMask⟩, fun _ => ⟨_, _, rfl⟩⟩, ?_, ?_⟩
      · intro id next made
        have inserted := Except.ok.inj made
        obtain ⟨fresh, stored⟩ := node?_of_insert inserted
        refine ⟨congrArg Prod.snd inserted, fresh, _, ty, trimmed, counted, inserted.symm, stored, ?_⟩
        rw [nodeType, lookup, stored]
        rfl
      · intro error refused
        cases refused
  | error fault =>
      dsimp only
      refine ⟨⟨nofun, ?_⟩, ?_, ?_⟩
      · rintro ⟨word, isTrimmed, isMask⟩
        cases Text.trimmed_iff.mp isTrimmed
        exact absurd isMask (Swizzle.not_isMask_of_explains (Swizzle.explains_of_resultType typed))
      · intro id next made
        cases made
      · intro error refused
        cases refused
        exact ⟨rfl, _, fault, trimmed, rfl, Swizzle.explains_of_resultType typed⟩

/-- A graph with one attribute, of four components. -/
def positionGraph : ShaderGraph := ((new 1 .empty).insert (.vertexAttribute "position" .vec4)).2

/-- A mask between an ideographic space and the end of a line. -/
theorem swizzle_exact_spacedMask :
    positionGraph.node? ⟨1, 0⟩ = some (.vertexAttribute "position" .vec4) ∧
    ∃ id next, positionGraph.swizzle ⟨1, 0⟩ "\u3000bgr\r\n" = .ok (id, next) ∧
      positionGraph.node? id = none ∧ next.node? id = some (.swizzle 0 "bgr" .vec3) := by
  have held : positionGraph.node? ⟨1, 0⟩ = some (.vertexAttribute "position" .vec4) :=
    (node?_of_insert rfl).2
  obtain ⟨accepts_iff, creates, _⟩ := swizzle_exact held "\u3000bgr\r\n"
  have trimmed : Text.Trimmed Text.isBlank "\u3000bgr\r\n".toList "bgr".toList :=
    Text.trimmed_iff.mpr (by decide)
  have letters : "bgr".toList.all ("rgba".toList.take 4).contains := by decide
  obtain ⟨id, next, made⟩ := accepts_iff.mpr ⟨_, trimmed, 4, by decide, by decide, by decide, "rgba",
    by decide, fun c member => Swizzle.names_iff.mpr
      (List.contains_iff_mem.mp (List.all_eq_true.mp letters c member))⟩
  obtain ⟨_, fresh, word, ty, found, counted, _, stored, _⟩ := creates id next made
  obtain rfl : "bgr".toList = word :=
    (Text.trimmed_iff.mp trimmed).symm.trans (Text.trimmed_iff.mp found)
  obtain rfl : ShaderType.vec3 = ty :=
    Option.some.inj (ShaderType.ofComponentCount?_eq_some_iff.mpr counted)
  exact ⟨held, id, next, made, fresh, stored⟩

/-- The letter `a` is a component of four, and none of three. -/
example : Swizzle.resultType .vec3 "rga".toList = .error (.outOfRange 'a' .vec3) := by decide

end ShaderGraph

end ShaderFlow
