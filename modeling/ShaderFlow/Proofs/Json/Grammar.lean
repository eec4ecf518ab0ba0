/-
Module: ShaderFlow.Proofs.Json.Grammar
Purpose: The spellings of a JSON document, all of which are read back.
Main exports: Json.SpellsText, Json.Spells, Json.Denotes, Json.parse?_of_spells,
  Json.Textual.spells_render
-/
import Mathlib.Data.List.Forall2
import Mathlib.Tactic.SplitIfs
import ShaderFlow.Json.Reader
import ShaderFlow.Json.Writer

namespace ShaderFlow

/-!
A document has many spellings: blanks may stand around every token, and a character of a string stands
for itself or is escaped, by its letter, by its code unit or by a pair of them.  Whichever spelling is
chosen, reading gives a tree of the same shape whose strings have the same texts.
-/

namespace Json

/-! ### Spellings of strings -/

/-- The letters of short escapes with the characters that they name. -/
def shortEscapes : List (Char × Char) :=
  [('"', '"'), ('\\', '\\'), ('/', '/'), ('b', '\x08'), ('f', '\x0c'), ('n', '\n'), ('r', '\r'),
    ('t', '\t')]

/-- Four hexadecimal digits of either case name a code unit. -/
def SpellsUnit (unit : Nat) (digits : List Char) : Prop :=
  digits.length = 4 ∧ Hexadecimal.value? digits = some unit

/-- The spellings of a character inside a string. -/
inductive SpellsCharacter (c : Char) : List Char → Prop where
  | plain (printed : 0x20 ≤ c.toNat) (unquoted : c ≠ '"') (unescaped : c ≠ '\\') :
      SpellsCharacter c [c]
  | letter {letter : Char} (named : (letter, c) ∈ shortEscapes) : SpellsCharacter c ['\\', letter]
  | unit {digits : List Char} (named : SpellsUnit c.toNat digits) :
      SpellsCharacter c ('\\' :: 'u' :: digits)
  | pair {high low : Nat} {first second : List Char} (isHigh : StringUnit.isHigh high)
      (isLow : StringUnit.isLow low)
      (together : c.toNat = 0x10000 + (high - 0xD800) * 0x400 + (low - 0xDC00))
      (opens : SpellsUnit high first) (closes : SpellsUnit low second) :
      SpellsCharacter c ('\\' :: 'u' :: (first ++ '\\' :: 'u' :: second))

/-- The spellings of a text, without the quotes around it. -/
inductive SpellsText : List Char → List Char → Prop where
  | nil : SpellsText [] []
  | cons {c : Char} {text first rest : List Char} (here : SpellsCharacter c first)
      (later : SpellsText text rest) : SpellsText (c :: text) (first ++ rest)

/-- A spelled text between its quotes. -/
def quoted (spelled : List Char) : List Char := '"' :: (spelled ++ ['"'])

theorem readString_plain {c : Char} (printed : 0x20 ≤ c.toNat) (unquoted : c ≠ '"')
    (unescaped : c ≠ '\\') (done : List StringUnit) (rest : List Char) :
    readString done (c :: rest) = readString (.char c :: done) rest := by
  rw [readString]
  · simp [unescaped, Nat.not_lt_of_le printed]
  all_goals simp_all

theorem readString_letter {letter c : Char} (named : (letter, c) ∈ shortEscapes)
    (done : List StringUnit) (rest : List Char) :
    readString done ('\\' :: letter :: rest) = readString (.char c :: done) rest := by
  have escape : shortEscape? letter = some c ∧ letter ≠ 'u' := by
    simp only [shortEscapes, List.mem_cons, Prod.mk.injEq, List.not_mem_nil, or_false] at named
    rcases named with ⟨rfl, rfl⟩ | ⟨rfl, rfl⟩ | ⟨rfl, rfl⟩ | ⟨rfl, rfl⟩ | ⟨rfl, rfl⟩ | ⟨rfl, rfl⟩ |
      ⟨rfl, rfl⟩ | ⟨rfl, rfl⟩
    all_goals decide
  rw [readString]
  · rw [escape.1]
  · exact fun _ _ _ _ _ same _ => escape.2 same

theorem readString_unit {unit : Nat} {digits : List Char} (named : SpellsUnit unit digits)
    (done : List StringUnit) (rest : List Char) :
    readString done ('\\' :: 'u' :: (digits ++ rest)) = readString (.code unit :: done) rest := by
  obtain ⟨four, value⟩ := named
  obtain ⟨a, b, c, d, rfl⟩ : ∃ a b c d, digits = [a, b, c, d] := by
    match digits, four with
    | [a, b, c, d], _ => exact ⟨a, b, c, d, rfl⟩
  simp only [List.cons_append, List.nil_append]
  rw [readString, value]

/-- A code unit that is no half of a pair is a character, whatever stands behind it. -/
theorem decodeOnto_unit {unit : Nat} (notHigh : StringUnit.isHigh unit = false)
    (notLow : StringUnit.isLow unit = false) (done : List Char) (units : List StringUnit) :
    StringUnit.decodeOnto done (.code unit :: units) =
      StringUnit.decodeOnto (Char.ofNat unit :: done) units := by
  cases units with
  | nil => simp [StringUnit.decodeOnto, notHigh, notLow]
  | cons next rest => cases next <;> simp [StringUnit.decodeOnto, notHigh, notLow]

theorem isHigh_toNat (c : Char) : StringUnit.isHigh c.toNat = false := by
  have valid : c.toNat < 0xD800 ∨ 0xDFFF < c.toNat ∧ c.toNat < 0x110000 := c.valid
  simp only [StringUnit.isHigh, Bool.and_eq_false_iff, decide_eq_false_iff_not]
  omega

theorem isLow_toNat (c : Char) : StringUnit.isLow c.toNat = false := by
  have valid : c.toNat < 0xD800 ∨ 0xDFFF < c.toNat ∧ c.toNat < 0x110000 := c.valid
  simp only [StringUnit.isLow, Bool.and_eq_false_iff, decide_eq_false_iff_not]
  omega

/-- Every spelling of a character is read to units that have the character as their text. -/
theorem SpellsCharacter.read {c : Char} {spelled : List Char} (spells : SpellsCharacter c spelled) :
    ∃ units, (∀ done rest,
        readString done (spelled ++ rest) = readString (units.reverse ++ done) rest) ∧
      ∀ done rest, StringUnit.decodeOnto done (units ++ rest) =
        StringUnit.decodeOnto (c :: done) rest := by
  cases spells with
  | plain printed unquoted unescaped =>
      exact ⟨[.char c], readString_plain printed unquoted unescaped, fun _ _ => rfl⟩
  | letter named => exact ⟨[.char c], readString_letter named, fun _ _ => rfl⟩
  | @unit digits named =>
      refine ⟨[.code c.toNat], fun done rest => readString_unit named done rest, fun done rest => ?_⟩
      rw [List.singleton_append, decodeOnto_unit (isHigh_toNat c) (isLow_toNat c), Char.ofNat_toNat]
  | @pair high low first second isHigh isLow together opens closes =>
      refine ⟨[.code high, .code low], fun done rest => ?_, fun done rest => ?_⟩
      · rw [List.cons_append, List.cons_append, List.append_assoc, readString_unit opens,
          List.cons_append, List.cons_append, readString_unit closes]
        rfl
      · show StringUnit.decodeOnto done (.code high :: .code low :: rest) = _
        rw [StringUnit.decodeOnto, if_pos isHigh, if_pos isLow, ← together, Char.ofNat_toNat]

/-- Every spelling of a text is read to units that have this text. -/
theorem SpellsText.read {text spelled : List Char} (spells : SpellsText text spelled) :
    ∃ units, (∀ done rest,
        readString done (spelled ++ rest) = readString (units.reverse ++ done) rest) ∧
      ∀ done, StringUnit.decodeOnto done units = some (text.reverse ++ done) := by
  induction spells with
  | nil => exact ⟨[], fun _ _ => rfl, fun _ => rfl⟩
  | @cons c text first rest here later ih =>
      obtain ⟨unit, read, decoded⟩ := here.read
      obtain ⟨units, reads, decodes⟩ := ih
      refine ⟨unit ++ units, fun done others => ?_, fun done => ?_⟩
      · rw [List.append_assoc, read, reads, List.reverse_append, List.append_assoc]
      · rw [decoded, decodes, List.reverse_cons, List.append_assoc, List.singleton_append]

/-- A text between quotes is read as a string with this text, up to the closing quote. -/
theorem SpellsText.readString {text : String} {spelled : List Char}
    (spells : SpellsText text.toList spelled) (rest : List Char) :
    ∃ units, Json.readString [] (spelled ++ '"' :: rest) = some (units, rest) ∧
      StringUnit.decode units = some text := by
  obtain ⟨units, reads, decodes⟩ := spells.read
  refine ⟨units, ?_, ?_⟩
  · rw [reads, Json.readString, List.append_nil, List.reverse_reverse]
  · rw [StringUnit.decode, decodes, Option.map_some, List.append_nil, List.reverse_reverse,
      String.ofList_toList]

/-! ### Spellings of documents -/

/-- Only blanks. -/
def Gap (text : List Char) : Prop := ∀ c ∈ text, isGap c = true

/-- A document, or what stands between the brackets of one. -/
inductive Part where
  | value (document : Json)
  | items (items : List Json)
  | members (members : List (String × Json))

/-- The spellings of documents made of strings, arrays and objects.  Blanks stand behind the tokens;
those in front of the first one belong to whoever puts the document to use. -/
inductive Spells : Part → List Char → Prop where
  | text {content : String} {spelled : List Char} (characters : SpellsText content.toList spelled) :
      Spells (.value (.ofText content)) (quoted spelled)
  | noItems {gap : List Char} (blank : Gap gap) :
      Spells (.value (.array [])) ('[' :: (gap ++ [']']))
  | array {items : List Json} {gap spelled : List Char} (blank : Gap gap)
      (each : Spells (.items items) spelled) :
      Spells (.value (.array items)) ('[' :: (gap ++ (spelled ++ [']'])))
  | lastItem {item : Json} {spelled gap : List Char} (here : Spells (.value item) spelled)
      (blank : Gap gap) : Spells (.items [item]) (spelled ++ gap)
  | item {item : Json} {items : List Json} {spelled before after others : List Char}
      (here : Spells (.value item) spelled) (blank : Gap before) (blanks : Gap after)
      (later : Spells (.items items) others) :
      Spells (.items (item :: items)) (spelled ++ (before ++ ',' :: (after ++ others)))
  | noMembers {gap : List Char} (blank : Gap gap) :
      Spells (.value (.ofMembers [])) ('\x7b' :: (gap ++ ['\x7d']))
  | object {members : List (String × Json)} {gap spelled : List Char} (blank : Gap gap)
      (each : Spells (.members members) spelled) :
      Spells (.value (.ofMembers members)) ('\x7b' :: (gap ++ (spelled ++ ['\x7d'])))
  | lastMember {name : String} {value : Json} {named before after spelled gap : List Char}
      (characters : SpellsText name.toList named) (blank : Gap before) (blanks : Gap after)
      (here : Spells (.value value) spelled) (end_blank : Gap gap) :
      Spells (.members [(name, value)])
        (quoted named ++ (before ++ ':' :: (after ++ (spelled ++ gap))))
  | member {name : String} {value : Json} {members : List (String × Json)}
      {named before after spelled gap front others : List Char}
      (characters : SpellsText name.toList named) (blank : Gap before) (blanks : Gap after)
      (here : Spells (.value value) spelled) (end_blank : Gap gap) (front_blank : Gap front)
      (later : Spells (.members members) others) :
      Spells (.members ((name, value) :: members))
        (quoted named ++ (before ++ ':' :: (after ++ (spelled ++ (gap ++ ',' :: (front ++ others))))))

/-- A tree that has been read denotes a document: it has the same shape, and its strings have the
texts that the document holds. -/
inductive Denotes : Json → Json → Prop where
  | text {units : List StringUnit} {content : String}
      (decoded : StringUnit.decode units = some content) :
      Denotes (.string units) (.ofText content)
  | array {read items : List Json} (each : List.Forall₂ Denotes read items) :
      Denotes (.array read) (.array items)
  | object {read : List (List StringUnit × Json)} {members : List (String × Json)}
      (named : read.map (fun found => StringUnit.decode found.1) =
        members.map fun member => some member.1)
      (each : List.Forall₂ Denotes (read.map Prod.snd) (members.map Prod.snd)) :
      Denotes (.object read) (.ofMembers members)

/-! ### Reading -/

variable {text rest : List Char} {part : Part}

theorem skipGap_append {gap : List Char} (blank : Gap gap) :
    skipGap (gap ++ text) = skipGap text := by
  rw [skipGap, List.dropWhile_append_of_pos blank]
  rfl

/-- A document begins with a quote or an opening bracket, and so do items and members. -/
theorem Spells.starts (spells : Spells part text) :
    ∃ first others, text = first :: others ∧ first ∈ ['"', '[', '\x7b'] := by
  induction spells with
  | text | noItems | array | noMembers | object | lastMember | member =>
      exact ⟨_, _, rfl, by decide⟩
  | lastItem here blank ih | item here blank blanks later ih =>
      obtain ⟨first, others, rfl, opening⟩ := ih
      exact ⟨first, _, rfl, opening⟩

theorem Spells.skipGap (spells : Spells part text) : Json.skipGap (text ++ rest) = text ++ rest := by
  obtain ⟨first, others, rfl, opening⟩ := spells.starts
  have solid : isGap first = false := by
    simp only [List.mem_cons, List.not_mem_nil, or_false] at opening
    rcases opening with rfl | rfl | rfl <;> rfl
  simp [Json.skipGap, solid]

/-- What reading makes of the spelling of a part: with enough fuel it gives a tree that denotes the
part, and leaves the text behind the spelling. -/
def Reads (text : List Char) : Part → Prop
  | .value document => ∀ fuel rest, 2 * text.length ≤ fuel →
      ∃ read, readValue fuel (text ++ rest) = some (read, rest) ∧ Denotes read document
  | .items items => ∀ fuel done rest, 2 * text.length < fuel →
      ∃ read, readItems fuel done (text ++ ']' :: rest) =
          some (.array (done.reverse ++ read), rest) ∧
        List.Forall₂ Denotes read items
  | .members members => ∀ fuel done rest, 2 * text.length < fuel →
      ∃ read, readMembers fuel done (text ++ '\x7d' :: rest) =
          some (.object (done.reverse ++ read), rest) ∧
        read.map (fun found => StringUnit.decode found.1) = members.map (fun member => some member.1) ∧
        List.Forall₂ Denotes (read.map Prod.snd) (members.map Prod.snd)

theorem readValue_skipGap {gap : List Char} (blank : Gap gap) (fuel : Nat) :
    readValue fuel (gap ++ text) = readValue fuel text := by
  cases fuel with
  | zero => rfl
  | succ fuel => simp only [readValue, skipGap_append blank]

theorem readItems_skipGap {gap : List Char} (blank : Gap gap) (fuel : Nat) (done : List Json) :
    readItems fuel done (gap ++ text) = readItems fuel done text := by
  cases fuel with
  | zero => rfl
  | succ fuel => simp only [readItems, readValue_skipGap blank]

theorem readMembers_skipGap {gap : List Char} (blank : Gap gap) (fuel : Nat)
    (done : List (List StringUnit × Json)) :
    readMembers fuel done (gap ++ text) = readMembers fuel done text := by
  cases fuel with
  | zero => rfl
  | succ fuel => simp only [readMembers, skipGap_append blank]

theorem readValue_quote (fuel : Nat) (text : List Char) :
    readValue (fuel + 1) ('"' :: text) =
      (readString [] text).map fun found => (.string found.1, found.2) := by
  simp [readValue, skipGap, isGap]

/-- Items are read behind an opening bracket, unless the closing one follows. -/
theorem readValue_bracket {first : Char} {others : List Char} (fuel : Nat)
    (content : skipGap text = first :: others) :
    readValue (fuel + 1) ('[' :: text) =
      if first = ']' then some (.array [], others) else readItems fuel [] (first :: others) := by
  have opened : skipGap ('[' :: text) = '[' :: text := rfl
  simp only [readValue, opened, content]
  split
  · next ends =>
      cases ends
      rfl
  · next goes_on =>
      rw [if_neg fun ends => goes_on others (by rw [ends])]

/-- Members are read behind an opening brace, unless the closing one follows. -/
theorem readValue_brace {first : Char} {others : List Char} (fuel : Nat)
    (content : skipGap text = first :: others) :
    readValue (fuel + 1) ('\x7b' :: text) =
      if first = '\x7d' then some (.object [], others)
      else readMembers fuel [] (first :: others) := by
  have opened : skipGap ('\x7b' :: text) = '\x7b' :: text := rfl
  simp only [readValue, opened, content]
  split
  · next ends =>
      cases ends
      rfl
  · next goes_on =>
      rw [if_neg fun ends => goes_on others (by rw [ends])]

/-- Behind an item stands a comma or the closing bracket. -/
theorem readItems_of_value {fuel : Nat} {item : Json} {behind : List Char} (done : List Json)
    (here : readValue fuel text = some (item, behind)) :
    (∀ others, skipGap behind = ',' :: others →
      readItems (fuel + 1) done text = readItems fuel (item :: done) others) ∧
    ∀ others, skipGap behind = ']' :: others →
      readItems (fuel + 1) done text = some (.array (item :: done).reverse, others) := by
  constructor
  all_goals
    intro others follows
    simp only [readItems, here, follows]

theorem readMembers_of_value {fuel : Nat} {units : List StringUnit} {value : Json}
    {named behind spelled : List Char} (done : List (List StringUnit × Json))
    (name : readString [] text = some (units, named)) (colon : skipGap named = ':' :: spelled)
    (here : readValue fuel spelled = some (value, behind)) :
    (∀ others, skipGap behind = ',' :: others →
      readMembers (fuel + 1) done ('"' :: text) =
        readMembers fuel ((units, value) :: done) others) ∧
    ∀ others, skipGap behind = '\x7d' :: others →
      readMembers (fuel + 1) done ('"' :: text) =
        some (.object ((units, value) :: done).reverse, others) := by
  have opened : skipGap ('"' :: text) = '"' :: text := rfl
  constructor
  all_goals
    intro others follows
    simp only [readMembers, opened, name, colon, here, follows]

/-! Each rule of the grammar is one step of the reader. -/

theorem reads_text {content : String} {spelled : List Char}
    (characters : SpellsText content.toList spelled) :
    Reads (quoted spelled) (.value (.ofText content)) := by
  intro fuel rest enough
  obtain ⟨units, read, decoded⟩ := characters.readString rest
  cases fuel with
  | zero => cases enough
  | succ fuel =>
      refine ⟨.string units, ?_, .text decoded⟩
      rw [quoted, List.cons_append, List.append_assoc, readValue_quote, List.singleton_append, read]
      rfl

theorem reads_noItems {gap : List Char} (blank : Gap gap) :
    Reads ('[' :: (gap ++ [']'])) (.value (.array [])) := by
  intro fuel rest enough
  cases fuel with
  | zero => cases enough
  | succ fuel =>
      have ends : skipGap (gap ++ ']' :: rest) = ']' :: rest := skipGap_append blank
      refine ⟨.array [], ?_, .array .nil⟩
      rw [List.cons_append, List.append_assoc, List.singleton_append, readValue_bracket fuel ends,
        if_pos rfl]

theorem reads_noMembers {gap : List Char} (blank : Gap gap) :
    Reads ('\x7b' :: (gap ++ ['\x7d'])) (.value (.ofMembers [])) := by
  intro fuel rest enough
  cases fuel with
  | zero => cases enough
  | succ fuel =>
      have ends : skipGap (gap ++ '\x7d' :: rest) = '\x7d' :: rest := skipGap_append blank
      refine ⟨.object [], ?_, .object rfl .nil⟩
      rw [List.cons_append, List.append_assoc, List.singleton_append, readValue_brace fuel ends,
        if_pos rfl]

theorem reads_array {items : List Json} {gap spelled : List Char} (blank : Gap gap)
    (each : Spells (.items items) spelled) (reads : Reads spelled (.items items)) :
    Reads ('[' :: (gap ++ (spelled ++ [']']))) (.value (.array items)) := by
  intro fuel rest enough
  obtain ⟨first, others, same, opening⟩ := each.starts
  cases fuel with
  | zero => cases enough
  | succ fuel =>
      have begins : skipGap (gap ++ (spelled ++ ']' :: rest)) = first :: (others ++ ']' :: rest) := by
        rw [skipGap_append blank, each.skipGap, same, List.cons_append]
      simp only [List.length_cons, List.length_append, List.length_nil] at enough
      obtain ⟨read, result, denotes⟩ := reads fuel [] rest (by omega)
      refine ⟨.array read, ?_, .array denotes⟩
      rw [List.cons_append, List.append_assoc, List.append_assoc, List.singleton_append,
        readValue_bracket fuel begins, if_neg ?_, ← List.cons_append, ← same, result]
      · rfl
      · rintro rfl
        simp at opening

theorem reads_object {members : List (String × Json)} {gap spelled : List Char} (blank : Gap gap)
    (each : Spells (.members members) spelled) (reads : Reads spelled (.members members)) :
    Reads ('\x7b' :: (gap ++ (spelled ++ ['\x7d']))) (.value (.ofMembers members)) := by
  intro fuel rest enough
  obtain ⟨first, others, same, opening⟩ := each.starts
  cases fuel with
  | zero => cases enough
  | succ fuel =>
      have begins : skipGap (gap ++ (spelled ++ '\x7d' :: rest)) =
          first :: (others ++ '\x7d' :: rest) := by
        rw [skipGap_append blank, each.skipGap, same, List.cons_append]
      simp only [List.length_cons, List.length_append, List.length_nil] at enough
      obtain ⟨read, result, named, denotes⟩ := reads fuel [] rest (by omega)
      refine ⟨.object read, ?_, .object named denotes⟩
      rw [List.cons_append, List.append_assoc, List.append_assoc, List.singleton_append,
        readValue_brace fuel begins, if_neg ?_, ← List.cons_append, ← same, result]
      · rfl
      · rintro rfl
        simp at opening

theorem reads_lastItem {item : Json} {spelled gap : List Char} (blank : Gap gap)
    (reads : Reads spelled (.value item)) : Reads (spelled ++ gap) (.items [item]) := by
  intro fuel done rest enough
  cases fuel with
  | zero => cases enough
  | succ fuel =>
      rw [List.length_append] at enough
      obtain ⟨read, result, denotes⟩ := reads fuel (gap ++ ']' :: rest) (by omega)
      refine ⟨[read], ?_, .cons denotes .nil⟩
      rw [List.append_assoc, (readItems_of_value done result).2 rest (skipGap_append blank),
        List.reverse_cons]

theorem reads_item {item : Json} {items : List Json} {spelled before after others : List Char}
    (blank : Gap before) (blanks : Gap after) (here : Reads spelled (.value item))
    (later : Reads others (.items items)) :
    Reads (spelled ++ (before ++ ',' :: (after ++ others))) (.items (item :: items)) := by
  intro fuel done rest enough
  cases fuel with
  | zero => cases enough
  | succ fuel =>
      simp only [List.length_append, List.length_cons] at enough
      obtain ⟨first, read, denotes⟩ := here fuel
        (before ++ ',' :: (after ++ (others ++ ']' :: rest))) (by omega)
      obtain ⟨found, reads, each⟩ := later fuel (first :: done) rest (by omega)
      refine ⟨first :: found, ?_, .cons denotes each⟩
      simp only [List.append_assoc, List.cons_append]
      rw [(readItems_of_value done read).1 _ (skipGap_append blank), readItems_skipGap blanks, reads,
        List.reverse_cons, List.append_assoc, List.singleton_append]

theorem reads_lastMember {name : String} {value : Json}
    {named before after spelled gap : List Char} (characters : SpellsText name.toList named)
    (blank : Gap before) (blanks : Gap after) (ends : Gap gap)
    (here : Reads spelled (.value value)) :
    Reads (quoted named ++ (before ++ ':' :: (after ++ (spelled ++ gap))))
      (.members [(name, value)]) := by
  intro fuel done rest enough
  cases fuel with
  | zero => cases enough
  | succ fuel =>
      simp only [quoted, List.length_append, List.length_cons] at enough
      obtain ⟨units, reads, decoded⟩ := characters.readString
        (before ++ ':' :: (after ++ (spelled ++ (gap ++ '\x7d' :: rest))))
      obtain ⟨found, result, denotes⟩ := here fuel (gap ++ '\x7d' :: rest) (by omega)
      rw [← readValue_skipGap blanks] at result
      refine ⟨[(units, found)], ?_, by simp [decoded], .cons denotes .nil⟩
      simp only [quoted, List.append_assoc, List.cons_append, List.nil_append]
      rw [(readMembers_of_value done reads (skipGap_append blank) result).2 rest
        (skipGap_append ends), List.reverse_cons]

theorem reads_member {name : String} {value : Json} {members : List (String × Json)}
    {named before after spelled gap front others : List Char}
    (characters : SpellsText name.toList named) (blank : Gap before) (blanks : Gap after)
    (ends : Gap gap) (begins : Gap front) (here : Reads spelled (.value value))
    (later : Reads others (.members members)) :
    Reads (quoted named ++
        (before ++ ':' :: (after ++ (spelled ++ (gap ++ ',' :: (front ++ others))))))
      (.members ((name, value) :: members)) := by
  intro fuel done rest enough
  cases fuel with
  | zero => cases enough
  | succ fuel =>
      simp only [quoted, List.length_append, List.length_cons] at enough
      obtain ⟨units, reads, decoded⟩ := characters.readString
        (before ++ ':' :: (after ++ (spelled ++ (gap ++ ',' :: (front ++ (others ++ '\x7d' :: rest))))))
      obtain ⟨first, result, denotes⟩ := here fuel
        (gap ++ ',' :: (front ++ (others ++ '\x7d' :: rest))) (by omega)
      obtain ⟨found, remaining, names, each⟩ := later fuel ((units, first) :: done) rest (by omega)
      rw [← readValue_skipGap blanks] at result
      refine ⟨(units, first) :: found, ?_, by simp [decoded, names], .cons denotes each⟩
      simp only [quoted, List.append_assoc, List.cons_append, List.nil_append]
      rw [(readMembers_of_value done reads (skipGap_append blank) result).1 _ (skipGap_append ends),
        readMembers_skipGap begins, remaining, List.reverse_cons, List.append_assoc,
        List.singleton_append]

/-- Every spelling of a part is read back. -/
theorem Spells.reads (spells : Spells part text) : Reads text part := by
  induction spells with
  | text characters => exact reads_text characters
  | noItems blank => exact reads_noItems blank
  | array blank each ih => exact reads_array blank each ih
  | lastItem _ blank ih => exact reads_lastItem blank ih
  | item _ blank blanks _ here later => exact reads_item blank blanks here later
  | noMembers blank => exact reads_noMembers blank
  | object blank each ih => exact reads_object blank each ih
  | lastMember characters blank blanks _ ends ih =>
      exact reads_lastMember characters blank blanks ends ih
  | member characters blank blanks _ ends begins _ here later =>
      exact reads_member characters blank blanks ends begins here later

/-- The spellings of a whole document, with blanks around it. -/
def SpellsDocument (document : Json) (text : String) : Prop :=
  ∃ before spelled after, Gap before ∧ Spells (.value document) spelled ∧ Gap after ∧
    text.toList = before ++ (spelled ++ after)

/-- Whatever spelling of a document is chosen, the reader finds the document in it. -/
theorem parse?_of_spells {document : Json} {text : String} (spells : SpellsDocument document text) :
    ∃ read, parse? text = some read ∧ Denotes read document := by
  obtain ⟨before, spelled, after, blank, inner, ends, same⟩ := spells
  have enough : 2 * spelled.length ≤ 2 * text.toList.length + 2 := by
    rw [same]
    simp only [List.length_append]
    omega
  obtain ⟨read, result, denotes⟩ := inner.reads _ after enough
  have rest : skipGap after = [] := by
    rw [← List.append_nil after, skipGap_append ends]
    rfl
  refine ⟨read, ?_, denotes⟩
  simp only [parse?, same, readValue_skipGap blank]
  rw [← same, result]
  simp [rest]

/-! ### Writing -/

/-- Control characters are named by four digits. -/
theorem spellsUnit_padded {unit : Nat} (control : unit < 0x20) :
    SpellsUnit unit (Hexadecimal.padded 4 unit) := by
  have each : ∀ unit < 0x20, (Hexadecimal.padded 4 unit).length = 4 ∧
      Hexadecimal.value? (Hexadecimal.padded 4 unit) = some unit := by decide
  exact each unit control

theorem spellsCharacter_unitText (c : Char) : SpellsCharacter c (unitText (.char c)) := by
  simp only [unitText]
  split_ifs with quote backslash backspace formFeed lineFeed carriageReturn tab control
  · exact .letter (by simp [shortEscapes, quote])
  · exact .letter (by simp [shortEscapes, backslash])
  · exact .letter (by simp [shortEscapes, backspace])
  · exact .letter (by simp [shortEscapes, formFeed])
  · exact .letter (by simp [shortEscapes, lineFeed])
  · exact .letter (by simp [shortEscapes, carriageReturn])
  · exact .letter (by simp [shortEscapes, tab])
  · exact .unit (spellsUnit_padded control)
  · exact .plain (Nat.le_of_not_lt control) quote backslash

theorem spellsText_unitText (text : List Char) :
    SpellsText text ((text.map StringUnit.char).flatMap unitText) := by
  induction text with
  | nil => exact .nil
  | cons c rest ih => exact .cons (spellsCharacter_unitText c) ih

/-- Documents whose leaves all are strings; items and members are those behind a first one. -/
inductive Textual : Part → Prop where
  | text (content : String) : Textual (.value (.ofText content))
  | noItems : Textual (.value (.array []))
  | array {item : Json} {items : List Json} (here : Textual (.value item))
      (later : Textual (.items items)) : Textual (.value (.array (item :: items)))
  | noMembers : Textual (.value (.ofMembers []))
  | object {name : String} {value : Json} {members : List (String × Json)}
      (here : Textual (.value value)) (later : Textual (.members members)) :
      Textual (.value (.ofMembers ((name, value) :: members)))
  | lastItem : Textual (.items [])
  | item {item : Json} {items : List Json} (here : Textual (.value item))
      (later : Textual (.items items)) : Textual (.items (item :: items))
  | lastMember : Textual (.members [])
  | member {name : String} {value : Json} {members : List (String × Json)}
      (here : Textual (.value value)) (later : Textual (.members members)) :
      Textual (.members ((name, value) :: members))

/-- What is written behind the first item, and behind the first member, goes on with the spelling. -/
def Writes : Part → Prop
  | .value document => ∀ text, ∃ spelled, renderOnto text document = text ++ String.ofList spelled ∧
      Spells (.value document) spelled
  | .items items => ∀ text, ∃ others, renderItems text items = text ++ String.ofList others ∧
      ∀ item spelled, Spells (.value item) spelled → Spells (.items (item :: items)) (spelled ++ others)
  | .members members => ∀ text, ∃ others,
      renderMembers text (members.map fun member => (StringUnit.encode member.1, member.2)) =
        text ++ String.ofList others ∧
      ∀ name named value spelled, SpellsText (name : String).toList named →
        Spells (.value value) spelled →
        Spells (.members ((name, value) :: members)) (quoted named ++ ':' :: (spelled ++ others))

theorem gap_nil : Gap [] := fun _ => nofun

theorem stringText_encode (text : String) :
    stringText (StringUnit.encode text) =
      String.ofList (quoted ((text.toList.map StringUnit.char).flatMap unitText)) := rfl

theorem Textual.writes {part : Part} (textual : Textual part) : Writes part := by
  induction textual with
  | text content =>
      intro text
      refine ⟨_, ?_, .text (spellsText_unitText content.toList)⟩
      rw [ofText, renderOnto, stringText_encode]
  | noItems => exact fun text => ⟨_, rfl, .noItems gap_nil⟩
  | @array item items _ _ here later =>
      intro text
      obtain ⟨spelled, written, spells⟩ := here (text ++ "[")
      obtain ⟨others, rest, each⟩ := later (renderOnto (text ++ "[") item)
      refine ⟨_, ?_, .array gap_nil (each item spelled spells)⟩
      rw [renderOnto, rest, written]
      simp [← String.toList_inj]
  | noMembers => exact fun text => ⟨_, rfl, .noMembers gap_nil⟩
  | @object name value members _ _ here later =>
      intro text
      obtain ⟨spelled, written, spells⟩ := here
        (text ++ "\x7b" ++ stringText (StringUnit.encode name) ++ ":")
      obtain ⟨others, rest, each⟩ := later
        (renderOnto (text ++ "\x7b" ++ stringText (StringUnit.encode name) ++ ":") value)
      refine ⟨_, ?_, .object gap_nil
        (each name _ value spelled (spellsText_unitText name.toList) spells)⟩
      rw [ofMembers, List.map_cons, renderOnto, rest, written, stringText_encode]
      simp [← String.toList_inj]
  | lastItem =>
      intro text
      exact ⟨[], String.append_empty.symm, fun item spelled here => .lastItem here gap_nil⟩
  | @item item items _ _ here later =>
      intro text
      obtain ⟨spelled, written, spells⟩ := here (text ++ ",")
      obtain ⟨others, rest, each⟩ := later (renderOnto (text ++ ",") item)
      refine ⟨_, ?_, fun first front start =>
        .item start gap_nil gap_nil (each item spelled spells)⟩
      rw [renderItems, rest, written]
      simp [← String.toList_inj]
  | lastMember =>
      intro text
      refine ⟨[], String.append_empty.symm, fun name named value spelled characters here => ?_⟩
      have last := Spells.lastMember characters gap_nil gap_nil here gap_nil
      simpa using last
  | @member name value members _ _ here later =>
      intro text
      obtain ⟨spelled, written, spells⟩ := here
        (text ++ "," ++ stringText (StringUnit.encode name) ++ ":")
      obtain ⟨others, rest, each⟩ := later
        (renderOnto (text ++ "," ++ stringText (StringUnit.encode name) ++ ":") value)
      have behind := each name _ value spelled (spellsText_unitText name.toList) spells
      refine ⟨',' :: (quoted ((name.toList.map StringUnit.char).flatMap unitText) ++
        ':' :: (spelled ++ others)), ?_, fun first named front start characters here => ?_⟩
      · rw [List.map_cons, renderMembers, rest, written, stringText_encode]
        simp [← String.toList_inj]
      · have more := Spells.member characters gap_nil gap_nil here gap_nil gap_nil behind
        simpa using more

/-- What the writer makes of a document is one of its spellings. -/
theorem Textual.spells_render {document : Json} (textual : Textual (.value document)) :
    SpellsDocument document (render document) := by
  obtain ⟨spelled, written, spells⟩ := textual.writes ""
  refine ⟨[], spelled, [], gap_nil, spells, gap_nil, ?_⟩
  rw [render, written]
  simp

end Json

end ShaderFlow
