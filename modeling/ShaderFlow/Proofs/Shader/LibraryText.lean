/-
Module: ShaderFlow.Proofs.Shader.LibraryText
Purpose: A function library survives being written as JSON and loaded again.
Main exports: FunctionLibrary.ofJson?_of_denotes, ShaderFunction.Sound, ShaderFunction.FirstFault,
  ShaderFunction.Refused, FunctionRegistry.registerAll_cases, FunctionLibrary.load_written
-/
import ShaderFlow.Proofs.Json.Grammar
import ShaderFlow.Proofs.Shader.Generation
import ShaderFlow.Shader.Library

namespace ShaderFlow

/-!
Whichever spelling of a library is read, its records are found again: names and bodies by their
texts, types by their tags.  What is loaded then depends on the functions alone, taken one after
another; the first that has a fault or a name in use is refused.
-/

/-! ### Trees that denote a document -/

namespace Json

variable {read document : Json}

/-- A member of a record that has been read: it has the name, and its value denotes the value. -/
def Found (found member : String × Json) : Prop := found.1 = member.1 ∧ Denotes found.2 member.2

theorem exists_members? {units : List (List StringUnit × Json)} {members : List (String × Json)}
    (named : units.map (fun found => StringUnit.decode found.1) =
      members.map fun member => some member.1)
    (each : List.Forall₂ Denotes (units.map Prod.snd) (members.map Prod.snd)) :
    ∃ found, (object units).members? = some found ∧ List.Forall₂ Found found members := by
  induction units generalizing members with
  | nil =>
      cases List.map_eq_nil_iff.mp named.symm
      exact ⟨[], rfl, .nil⟩
  | cons unit rest ih =>
      obtain ⟨member, others, rfl, here, later⟩ := List.map_eq_cons_iff.mp named.symm
      cases each with
      | cons value values =>
          obtain ⟨found, read, all⟩ := ih later.symm values
          refine ⟨(member.1, unit.2) :: found, ?_, .cons ⟨rfl, value⟩ all⟩
          simp only [members?] at read ⊢
          simp [List.mapM_cons, ← here, read]

@[simp] theorem members?_ofMembers (members : List (String × Json)) :
    (ofMembers members).members? = some members := by
  simp only [ofMembers, members?]
  induction members with
  | nil => rfl
  | cons member rest ih => simp [ih]

namespace Denotes

/-- What denotes a text is a string with this text. -/
theorem exists_units {content : String} (denotes : Denotes read (.ofText content)) :
    ∃ units, read = .string units ∧ StringUnit.decode units = some content := by
  generalize same : Json.ofText content = document at denotes
  cases denotes with
  | @text units other decoded =>
      have texts := congrArg Json.text? same
      rw [text?_ofText, text?_ofText] at texts
      cases texts
      exact ⟨units, rfl, decoded⟩
  | array | object => cases same

theorem text?_eq {content : String} (denotes : Denotes read (.ofText content)) :
    read.text? = some content := by
  obtain ⟨units, rfl, decoded⟩ := denotes.exists_units
  exact decoded

/-- What denotes a list has items that denote its items. -/
theorem exists_items {items : List Json} (denotes : Denotes read (.array items)) :
    ∃ found, read.items? = some found ∧ List.Forall₂ Denotes found items := by
  generalize same : Json.array items = document at denotes
  cases denotes with
  | array each =>
      cases same
      exact ⟨_, rfl, each⟩
  | text | object => cases same

/-- What denotes a record has its members, in their order. -/
theorem exists_members {members : List (String × Json)}
    (denotes : Denotes read (.ofMembers members)) :
    ∃ units found, read = .object units ∧ (Json.object units).members? = some found ∧
      List.Forall₂ Found found members := by
  generalize same : Json.ofMembers members = document at denotes
  cases denotes with
  | text | array => cases same
  | @object units others named each =>
      have texts := congrArg Json.members? same
      rw [members?_ofMembers, members?_ofMembers] at texts
      cases texts
      obtain ⟨found, held, all⟩ := exists_members? named each
      exact ⟨units, found, rfl, held, all⟩

end Denotes

/-- A list is found again if each of its items is. -/
theorem mapM_of_denotes {α : Type} {read? : Json → Option α} {write : α → Json} {values : List α}
    {items : List Json}
    (found : ∀ {item value}, Denotes item (write value) → read? item = some value)
    (each : List.Forall₂ Denotes items (values.map write)) : items.mapM read? = some values := by
  induction items generalizing values with
  | nil =>
      cases List.map_eq_nil_iff.mp (List.forall₂_nil_left_iff.mp each)
      rfl
  | cons item rest ih =>
      obtain ⟨_, _, here, later, same⟩ := List.forall₂_cons_left_iff.mp each
      obtain ⟨value, others, rfl, rfl, rfl⟩ := List.map_eq_cons_iff.mp same
      simp [List.mapM_cons, found here, ih later]

end Json

/-! ### Records -/

namespace FunctionLibrary

variable {read : Json}

theorem typeOfJson?_of_denotes {ty : ShaderType} (denotes : Json.Denotes read (.ofText ty.tag)) :
    typeOfJson? read = some ty := by
  obtain ⟨units, rfl, decoded⟩ := denotes.exists_units
  simp [typeOfJson?, decoded, ShaderType.ofTag?_tag]

/-- An input is found again in its record. -/
theorem parameterOfJson?_of_denotes {input : Parameter}
    (denotes : Json.Denotes read (parameterToJson input)) : parameterOfJson? read = some input := by
  obtain ⟨units, found, rfl, held, all⟩ := denotes.exists_members
  simp only [List.forall₂_cons_right_iff, List.forall₂_nil_right_iff] at all
  obtain ⟨⟨_, name⟩, _, ⟨rfl, named⟩, ⟨⟨_, ty⟩, _, ⟨rfl, typed⟩, rfl, rfl⟩, rfl⟩ := all
  simp [parameterOfJson?, held, requiredField?, fieldValues, parameterOf?, named.text?_eq,
    typeOfJson?_of_denotes typed]

theorem inputsOfJson?_of_denotes {inputs : List Parameter}
    (denotes : Json.Denotes read (.array (inputs.map parameterToJson))) :
    inputsOfJson? read = some inputs := by
  obtain ⟨items, held, each⟩ := denotes.exists_items
  simp [inputsOfJson?, held, Json.mapM_of_denotes parameterOfJson?_of_denotes each]

/-- A function is found again in its record. -/
theorem functionOfJson?_of_denotes {function : ShaderFunction}
    (denotes : Json.Denotes read (functionToJson function)) :
    functionOfJson? read = some function := by
  obtain ⟨units, found, rfl, held, all⟩ := denotes.exists_members
  simp only [List.forall₂_cons_right_iff, List.forall₂_nil_right_iff] at all
  obtain ⟨⟨_, name⟩, _, ⟨rfl, named⟩, ⟨⟨_, ty⟩, _, ⟨rfl, typed⟩, ⟨⟨_, inputs⟩, _, ⟨rfl, fed⟩,
    ⟨⟨_, body⟩, _, ⟨rfl, written⟩, rfl, rfl⟩, rfl⟩, rfl⟩, rfl⟩ := all
  simp [functionOfJson?, held, requiredField?, fieldValues, functionOf?, named.text?_eq,
    typeOfJson?_of_denotes typed, inputsOfJson?_of_denotes fed, written.text?_eq]

/-- A library is found again in every tree that denotes it. -/
theorem ofJson?_of_denotes {functions : List ShaderFunction}
    (denotes : Json.Denotes read (toJson functions)) : ofJson? read = some functions := by
  obtain ⟨items, held, each⟩ := denotes.exists_items
  simp [ofJson?, held, Json.mapM_of_denotes functionOfJson?_of_denotes each]

/-! A library consists of texts, so that writing it gives one of its spellings. -/

theorem textual_parameterToJson (input : Parameter) :
    Json.Textual (.value (parameterToJson input)) :=
  .object (.text input.name) (.member (.text input.ty.tag) .lastMember)

theorem textual_array {α : Type} {write : α → Json}
    (each : ∀ value, Json.Textual (.value (write value))) (values : List α) :
    Json.Textual (.value (.array (values.map write))) := by
  have behind : ∀ others : List α, Json.Textual (.items (others.map write)) := by
    intro others
    induction others with
    | nil => exact .lastItem
    | cons value rest ih => exact .item (each value) ih
  cases values with
  | nil => exact .noItems
  | cons value rest => exact .array (each value) (behind rest)

theorem textual_functionToJson (function : ShaderFunction) :
    Json.Textual (.value (functionToJson function)) :=
  .object (.text function.name)
    (.member (.text function.returnType.tag)
      (.member (textual_array textual_parameterToJson function.inputs)
        (.member (.text function.body) .lastMember)))

theorem textual_toJson (functions : List ShaderFunction) :
    Json.Textual (.value (toJson functions)) :=
  textual_array textual_functionToJson functions

end FunctionLibrary

/-! ### Registration -/

namespace ShaderFunction

variable {function : ShaderFunction}

/-- A valid name and valid, pairwise distinct input names. -/
structure Sound (function : ShaderFunction) : Prop where
  named : isIdentifier function.name
  inputs_named : ∀ input ∈ function.inputs, isIdentifier input.name
  inputs_distinct : (function.inputs.map Parameter.name).Nodup

/-- What is wrong with an input: its name is invalid, or it is valid and already used. -/
inductive InputFault (used : List String) (input : Parameter) : FunctionFault → Prop where
  | invalid (invalid : isIdentifier input.name = false) :
      InputFault used input (.inputName input.name)
  | repeated (valid : isIdentifier input.name) (repeated : input.name ∈ used) :
      InputFault used input (.repeatedInput input.name)

/-- The first fault of a definition: that of its name, or of the first input with one, whose name may
not be used by an input before it. -/
inductive FirstFault (function : ShaderFunction) : FunctionFault → Prop where
  | name (invalid : isIdentifier function.name = false) : FirstFault function .name
  | input {before after : List Parameter} {input : Parameter} {fault : FunctionFault}
      (named : isIdentifier function.name) (split : function.inputs = before ++ input :: after)
      (sound : ∀ other ∈ before, isIdentifier other.name)
      (distinct : (before.map Parameter.name).Nodup)
      (faulty : InputFault (before.map Parameter.name) input fault) : FirstFault function fault

/-- Why a definition is refused behind others: for its first fault, or for a name that is in use. -/
inductive Refused (earlier : List ShaderFunction) (function : ShaderFunction) :
    ShaderError → Prop where
  | invalid {fault : FunctionFault} (first : function.FirstFault fault) :
      Refused earlier function (.invalidFunction function.name fault)
  | duplicate (sound : function.Sound) (taken : function.name ∈ earlier.map ShaderFunction.name) :
      Refused earlier function (.duplicateFunction function.name)

theorem sound_iff : function.Sound ↔ function.fault? = none := by
  rw [fault?_eq_none_iff]
  exact ⟨fun sound => ⟨sound.named, sound.inputs_named, sound.inputs_distinct⟩,
    fun ⟨named, inputs, distinct⟩ => ⟨named, inputs, distinct⟩⟩

theorem InputFault.mono {used others : List String} {input : Parameter} {fault : FunctionFault}
    (faulty : InputFault used input fault) (among : used ⊆ others) :
    InputFault others input fault := by
  cases faulty with
  | invalid invalid => exact .invalid invalid
  | repeated valid repeated => exact .repeated valid (among repeated)

/-- The scan of the inputs stops at the first that has a fault behind those before it. -/
theorem exists_of_inputFault? {earlier : List String} {inputs : List Parameter}
    {fault : FunctionFault} (faulty : inputFault? earlier inputs = some fault) :
    ∃ before input after, inputs = before ++ input :: after ∧ inputFault? earlier before = none ∧
      InputFault (before.map Parameter.name ++ earlier) input fault := by
  induction inputs generalizing earlier with
  | nil => cases faulty
  | cons input rest ih =>
      rw [inputFault?] at faulty
      split_ifs at faulty with invalid repeated
      · cases faulty
        exact ⟨[], input, rest, rfl, rfl, .invalid (by simpa using invalid)⟩
      · cases faulty
        exact ⟨[], input, rest, rfl, rfl, .repeated (by simpa using invalid) repeated⟩
      · obtain ⟨before, other, after, rfl, faultless, why⟩ := ih faulty
        refine ⟨input :: before, other, after, rfl, ?_, why.mono ?_⟩
        · rw [inputFault?, if_neg invalid, if_neg repeated, faultless]
        · exact List.perm_middle.subset

theorem firstFault_of_fault? {fault : FunctionFault} (faulty : function.fault? = some fault) :
    function.FirstFault fault := by
  rw [fault?] at faulty
  split_ifs at faulty with invalid
  · cases faulty
    exact .name (by simpa using invalid)
  · obtain ⟨before, input, after, split, faultless, why⟩ := exists_of_inputFault? faulty
    obtain ⟨each, distinct⟩ := inputFault?_eq_none_iff.mp faultless
    rw [List.append_nil] at why
    exact .input (by simpa using invalid) split (fun other member => (each other member).1) distinct
      why

/-- In a list without repetitions, an item has no key in common with those before it. -/
theorem key_notMem_of_nodup {α β : Type} {key : α → β} {before after : List α} {item : α}
    (distinct : ((before ++ item :: after).map key).Nodup) : key item ∉ before.map key := by
  rw [List.map_append, List.map_cons, List.nodup_append] at distinct
  exact fun repeated => distinct.2.2 _ repeated _ List.mem_cons_self rfl

theorem FirstFault.not_sound {fault : FunctionFault} (first : function.FirstFault fault) :
    ¬function.Sound := by
  intro sound
  cases first with
  | name invalid => exact Bool.false_ne_true (invalid.symm.trans sound.named)
  | @input before after input _ _ split _ _ faulty =>
      cases faulty with
      | invalid invalid =>
          have valid := sound.inputs_named input (by simp [split])
          exact Bool.false_ne_true (invalid.symm.trans valid)
      | repeated _ repeated =>
          have distinct := sound.inputs_distinct
          rw [split] at distinct
          exact key_notMem_of_nodup distinct repeated

/-- What is refused is unsound, or has the name of an earlier definition. -/
theorem Refused.not_fresh {earlier : List ShaderFunction} {error : ShaderError}
    (refused : function.Refused earlier error) :
    ¬(function.Sound ∧ function.name ∉ earlier.map ShaderFunction.name) := by
  rintro ⟨sound, fresh⟩
  cases refused with
  | invalid first => exact first.not_sound sound
  | duplicate _ taken => exact fresh taken

end ShaderFunction

namespace FunctionRegistry

open ShaderFunction

/-- A definition is taken up behind the others, or refused. -/
theorem register_cases (registry : FunctionRegistry) (function : ShaderFunction) :
    (∃ extended, registry.register function = .ok extended ∧
      extended.functions = registry.functions ++ [function]) ∨
    ∃ error, registry.register function = .error error ∧
      function.Refused registry.functions error := by
  cases taken : registry.register function with
  | ok extended => exact .inl ⟨extended, rfl, functions_register taken⟩
  | error error =>
      refine .inr ⟨error, rfl, ?_⟩
      unfold register at taken
      split at taken
      · next fault faulty =>
          cases taken
          exact .invalid (firstFault_of_fault? faulty)
      · next faultless =>
          split at taken
          · next present =>
              cases taken
              exact .duplicate (sound_iff.mpr faultless) present
          · cases taken

/-- Definitions are taken up in their order, up to the first that is refused behind those before
it. -/
theorem registerAll_cases (registry : FunctionRegistry) (functions : List ShaderFunction) :
    (∃ extended, registry.registerAll functions = .ok extended ∧
      extended.functions = registry.functions ++ functions) ∨
    ∃ error before function after, registry.registerAll functions = .error error ∧
      functions = before ++ function :: after ∧
      (∃ reached : FunctionRegistry, reached.functions = registry.functions ++ before) ∧
      function.Refused (registry.functions ++ before) error := by
  induction functions generalizing registry with
  | nil => exact .inl ⟨registry, rfl, (List.append_nil _).symm⟩
  | cons function rest ih =>
      have step : registry.registerAll (function :: rest) =
          registry.register function >>= fun extended => extended.registerAll rest :=
        List.foldlM_cons
      rcases registry.register_cases function with
        ⟨extended, taken, here⟩ | ⟨error, failed, refused⟩
      · rw [step, taken]
        rcases ih extended with ⟨last, result, listed⟩ |
          ⟨error, before, other, after, result, rfl, reached, refused⟩
        · refine .inl ⟨last, result, ?_⟩
          rw [listed, here, List.append_assoc, List.singleton_append]
        · rw [here, List.append_assoc, List.singleton_append] at reached refused
          exact .inr ⟨error, function :: before, other, after, result, rfl, reached, refused⟩
      · refine .inr ⟨error, [], function, rest, ?_, rfl, ⟨registry, (List.append_nil _).symm⟩, ?_⟩
        · rw [step, failed]
          rfl
        · rwa [List.append_nil]

/-- The definitions of a registry are sound and have different names. -/
theorem functions_sound (registry : FunctionRegistry) :
    (∀ function ∈ registry.functions, function.Sound) ∧
      (registry.functions.map ShaderFunction.name).Nodup :=
  ⟨fun function listed => sound_iff.mpr (registry.sound function listed), registry.distinct⟩

end FunctionRegistry

namespace FunctionLibrary

open ShaderFunction

variable {functions : List ShaderFunction} {text : String}

/-- Whatever spelling of a library is loaded, its functions are registered one after another. -/
theorem load_of_spells (spells : Json.SpellsDocument (toJson functions) text) :
    load text = FunctionRegistry.empty.registerAll functions := by
  obtain ⟨read, parsed, denotes⟩ := Json.parse?_of_spells spells
  simp only [load, parsed, Option.bind_some, ofJson?_of_denotes denotes]

/-- A library written as JSON is loaded again, whichever spelling of the document the writer
chooses: iff its functions are sound and have different names, and then as it was.  Otherwise the
first function that is unsound or has a name in use is refused. -/
theorem load_written (functions : List ShaderFunction) :
    Json.SpellsDocument (toJson functions) (Json.render (toJson functions)) ∧
    ∀ text, Json.SpellsDocument (toJson functions) text →
      ((∃ registry, load text = .ok registry) ↔
        (∀ function ∈ functions, function.Sound) ∧ (functions.map ShaderFunction.name).Nodup) ∧
      (∀ registry, load text = .ok registry → registry.functions = functions ∧
        ∀ function ∈ functions, registry.get? function.name = some function) ∧
      ∀ error, load text = .error error → ∃ before function after,
        functions = before ++ function :: after ∧ (∀ earlier ∈ before, earlier.Sound) ∧
        (before.map ShaderFunction.name).Nodup ∧ function.Refused before error := by
  refine ⟨(textual_toJson functions).spells_render, fun text spells => ?_⟩
  rw [load_of_spells spells]
  rcases FunctionRegistry.empty.registerAll_cases functions with ⟨registry, loaded, listed⟩ |
    ⟨error, before, function, after, failed, rfl, ⟨reached, listed⟩, refused⟩
  · have listed : registry.functions = functions := listed
    rw [loaded]
    refine ⟨⟨fun _ => listed ▸ registry.functions_sound, fun _ => ⟨registry, rfl⟩⟩, ?_, nofun⟩
    rintro _ ⟨⟩
    refine ⟨listed, fun function member => FunctionRegistry.get?_of_mem ?_⟩
    rwa [listed]
  · have listed : reached.functions = before := listed
    rw [failed]
    refine ⟨⟨nofun, fun ⟨sound, distinct⟩ => ?_⟩, nofun, ?_⟩
    · exact (refused.not_fresh ⟨sound function (by simp), key_notMem_of_nodup distinct⟩).elim
    · rintro _ ⟨⟩
      have ⟨sound, distinct⟩ := reached.functions_sound
      rw [listed] at sound distinct
      exact ⟨before, function, after, rfl, sound, distinct, refused⟩

end FunctionLibrary

end ShaderFlow
