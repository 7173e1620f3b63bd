import Mathlib.Data.List.Nodup
import Tabletop.Json.Compact
import Tabletop.Json.Encoding
import Tabletop.Proofs.WholeNumber

/-!
# Spellings of JSON values

A spelling of a value is read as that value wherever it stands in a document, as long as
nothing follows that would belong to it.  Numbers, words, texts without escapes, and objects
of such members have spellings; blanks may stand where the grammar has them.
-/

namespace Tabletop
namespace Json

/-! ## Fronts of documents -/

/-- Nothing at the front of a document belongs to a word or a number before it. -/
def Separate (document : List Text.Element) : Prop :=
  plainRun document = []

/-- The document of a text that consists of characters. -/
def documentOf (characters : List Char) : List Text.Element :=
  characters.map .character

@[simp] theorem documentOf_nil : documentOf [] = [] :=
  rfl

@[simp] theorem documentOf_cons (character : Char) (characters : List Char) :
    documentOf (character :: characters) = .character character :: documentOf characters :=
  rfl

@[simp] theorem documentOf_append (front back : List Char) :
    documentOf (front ++ back) = documentOf front ++ documentOf back :=
  List.map_append

@[simp] theorem length_documentOf (characters : List Char) :
    (documentOf characters).length = characters.length :=
  List.length_map _

theorem skipBlanks_of_blank
    {gap : List Char}
    (blank : ∀ character ∈ gap, isBlank (.character character) = true)
    (document : List Text.Element) :
    skipBlanks (documentOf gap ++ document) = skipBlanks document := by
  induction gap with
  | nil => rfl
  | cons first rest inductionHypothesis =>
      obtain ⟨firstBlank, restBlank⟩ := List.forall_mem_cons.mp blank
      simp [skipBlanks, firstBlank]
      exact inductionHypothesis restBlank

theorem skipBlanks_cons_of_not_blank
    {character : Char}
    (visible : isBlank (.character character) = false)
    (document : List Text.Element) :
    skipBlanks (.character character :: document) = .character character :: document := by
  simp [skipBlanks, visible]

/-- Characters are read as a value in a document that may be nested so deeply. -/
structure Spells (room : Nat) (characters : List Char) (value : Json) : Prop where
  /-- They do not begin with a blank. -/
  visible : ∃ first rest, characters = first :: rest ∧ isBlank (.character first) = false
  /-- They are read as the value wherever nothing follows that belongs to them. -/
  reads :
    ∀ bound document,
      characters.length ≤ bound → Separate document →
        readValue bound room (documentOf characters ++ document) = .ok (value, document)

/-! ## Words and numbers -/

theorem plainRun_append
    {characters : List Char}
    {document : List Text.Element}
    (plain : ∀ character ∈ characters, isPlain character = true)
    (separate : Separate document) :
    plainRun (documentOf characters ++ document) = characters := by
  induction characters with
  | nil => exact separate
  | cons first rest inductionHypothesis =>
      obtain ⟨firstPlain, restPlain⟩ := List.forall_mem_cons.mp plain
      simp [plainRun, firstPlain, inductionHypothesis restPlain]

/-- What is read as a word or a number whole is read so at the front of a document. -/
theorem readScalar_append
    {characters : List Char}
    {value : Json}
    {document : List Text.Element}
    (plain : ∀ character ∈ characters, isPlain character = true)
    (read : readPlain characters = .ok (value, []))
    (separate : Separate document) :
    readScalar (documentOf characters ++ document) = .ok (value, document) := by
  simp only [readScalar, plainRun_append plain separate, read]
  simp [bind, Except.bind, pure, Except.pure]

theorem isBlank_of_isPlain
    {character : Char}
    (plain : isPlain character = true) :
    isBlank (.character character) = false := by
  have different {other : Char} (notPlain : isPlain other = false) : character ≠ other := by
    rintro rfl
    rw [plain] at notPlain
    cases notPlain
  have space : character ≠ ' ' := different (by decide)
  have tab : character ≠ '\t' := different (by decide)
  have lineFeed : character ≠ '\n' := different (by decide)
  have lineReturn : character ≠ '\r' := different (by decide)
  simp [isBlank, space, tab, lineFeed, lineReturn]

theorem spells_of_readPlain
    {first : Char}
    {rest : List Char}
    {value : Json}
    (plain : ∀ character ∈ first :: rest, isPlain character = true)
    (read : readPlain (first :: rest) = .ok (value, []))
    (room : Nat) :
    Spells room (first :: rest) value := by
  have firstPlain := plain first List.mem_cons_self
  refine { visible := ⟨first, rest, rfl, isBlank_of_isPlain firstPlain⟩, reads := ?_ }
  intro bound document enough separate
  obtain ⟨less, rfl⟩ : ∃ less, bound = less + 1 := ⟨bound - 1, by simp at enough; omega⟩
  rw [← readScalar_append plain read separate]
  unfold readValue
  rw [documentOf_cons, List.cons_append]
  -- No mark that opens a text, an object or an array belongs to a word or a number.
  split
  case h_4 => rfl
  all_goals
    rename_i same
    obtain rfl := Text.Element.character.inj (List.cons.inj same).1
    exact absurd firstPlain (by decide)

theorem spells_null (room : Nat) :
    Spells room ['n', 'u', 'l', 'l'] null :=
  spells_of_readPlain (List.all_eq_true.mp (by decide)) rfl room

theorem isPlain_of_isDigit
    {digit : Char}
    (isDigit : Numeral.IsDigit digit) :
    isPlain digit = true := by
  have classified := (Numeral.isDigit_iff digit).mpr isDigit
  simp [isPlain, Char.isAlphanum, classified]

/-- No word begins with a digit. -/
theorem findSome?_words_of_isDigit
    {first : Char}
    (isDigit : first.isDigit = true)
    (rest : List Char) :
    (words.findSome? fun word =>
      (readWord? word.1 (first :: rest)).map fun left => (word.2, left)) = none := by
  have different {letter : Char} (isLetter : letter.isDigit = false) : letter ≠ first := by
    rintro rfl
    rw [isDigit] at isLetter
    cases isLetter
  have n : 'n' ≠ first := different (by decide)
  have t : 't' ≠ first := different (by decide)
  have f : 'f' ≠ first := different (by decide)
  have capitalN : 'N' ≠ first := different (by decide)
  have capitalI : 'I' ≠ first := different (by decide)
  have dash : '-' ≠ first := different (by decide)
  simp [words, readWord?, n, t, f, capitalN, capitalI, dash]

theorem splitWhole_of_isProper
    {digits : List Char}
    (proper : Numeral.IsProper digits) :
    splitWhole digits = some (digits, []) := by
  have inside : ∀ digit ∈ digits, digit.isDigit = true :=
    fun digit member => (Numeral.isDigit_iff digit).mpr (proper.isDigit_of_mem digit member)
  have outside := Text.beginsOutside_nil Char.isDigit
  have taken := Text.takeWhile_append_of_beginsOutside inside outside
  have dropped := Text.dropWhile_append_of_beginsOutside inside outside
  rw [List.append_nil] at taken dropped
  have whole : splitDigits digits = (digits, []) := Prod.ext taken dropped
  unfold splitWhole
  split
  · exact absurd rfl proper.1.ne_zero
  · rw [whole]
    exact if_neg proper.ne_nil

theorem readPlain_of_isProper
    {digits : List Char}
    (proper : Numeral.IsProper digits)
    (short : digits.length ≤ 4300) :
    readPlain digits = .ok (.integer (Numeral.value digits), []) := by
  have read : Numeral.read? digits = some (Numeral.value digits) := if_pos short
  have magnitude : readMagnitude false digits = .ok (.integer (Numeral.value digits), []) := by
    simp [readMagnitude, splitWhole_of_isProper proper, splitFraction, splitExponent, read]
  cases digits with
  | nil => exact False.elim proper
  | cons first rest =>
      unfold readPlain
      rw [findSome?_words_of_isDigit proper.1.isDigit]
      dsimp only
      split
      · rename_i same
        exact absurd (List.cons.inj same).1 proper.1.ne_minus
      · exact magnitude

theorem spells_integer
    {number : Nat}
    (positive : 1 ≤ number)
    (writable : Numeral.Writable number)
    (room : Nat) :
    Spells room (Numeral.digits number) (.integer number) := by
  have proper := Numeral.isProper_digits number positive
  have read := readPlain_of_isProper proper ((Numeral.writable_natCast_iff number).mp writable)
  rw [Numeral.value_digits] at read
  cases written : Numeral.digits number with
  | nil => exact absurd written proper.ne_nil
  | cons first rest =>
      rw [written] at read
      apply spells_of_readPlain _ read
      rw [← written]
      exact fun digit member => isPlain_of_isDigit (proper.isDigit_of_mem digit member)

/-! ## Texts -/

/-- A character that stands for itself in a text, however the text is written. -/
structure Unescaped (character : Char) : Prop where
  visible : 0x20 ≤ character.toNat
  narrow : character.toNat < 0x7F
  ne_mark : character ≠ '"'
  ne_backslash : character ≠ '\\'

theorem unescaped_of_all
    {characters : List Char}
    (all : characters.all (fun character =>
      decide (0x20 ≤ character.toNat ∧ character.toNat < 0x7F ∧
        character ≠ '"' ∧ character ≠ '\\')) = true) :
    ∀ character ∈ characters, Unescaped character := by
  intro character member
  have checked := List.all_eq_true.mp all character member
  obtain ⟨visible, narrow, ne_mark, ne_backslash⟩ := of_decide_eq_true checked
  exact { visible, narrow, ne_mark, ne_backslash }

theorem Unescaped.escape?_eq_none
    {character : Char}
    (unescaped : Unescaped character) :
    escape? character = none := by
  have visible := unescaped.visible
  have ne_of_low {other : Char} (low : other.toNat < 0x20) : character ≠ other := by
    rintro rfl
    omega
  have lineFeed : character ≠ '\n' := ne_of_low (by decide)
  have lineReturn : character ≠ '\r' := ne_of_low (by decide)
  have tab : character ≠ '\t' := ne_of_low (by decide)
  have backspace : character ≠ '\x08' := ne_of_low (by decide)
  have formFeed : character ≠ '\x0C' := ne_of_low (by decide)
  simp [escape?, unescaped.ne_mark, unescaped.ne_backslash, lineFeed, lineReturn, tab, backspace,
    formFeed, Nat.not_lt.mpr visible]

theorem Unescaped.writeCharacter_eq
    {character : Char}
    (unescaped : Unescaped character) :
    writeCharacter character = [character] := by
  simp [writeCharacter, unescaped.escape?_eq_none, unescaped.narrow]

theorem Unescaped.compactElement_eq
    {character : Char}
    (unescaped : Unescaped character) :
    compactElement (.character character) = [.character character] := by
  simp [compactElement, unescaped.escape?_eq_none]

theorem readParts_append
    {characters : List Char}
    (unescaped : ∀ character ∈ characters, Unescaped character)
    (parts : List TextPart)
    (document : List Text.Element) :
    readParts parts (documentOf characters ++ .character '"' :: document) =
      .ok ((characters.map fun character => .plain (.character character)).reverse ++ parts,
        document) := by
  induction characters generalizing parts with
  | nil =>
      unfold readParts
      rfl
  | cons first rest inductionHypothesis =>
      obtain ⟨firstUnescaped, restUnescaped⟩ := List.forall_mem_cons.mp unescaped
      have ne_backslash : first ≠ '\\' := firstUnescaped.ne_backslash
      have visible : ¬ (first.toNat < 0x20 ∨ first = '\\') := by
        rintro (low | backslash)
        · exact absurd firstUnescaped.visible (by omega)
        · exact ne_backslash backslash
      rw [documentOf_cons, List.cons_append, readParts, if_neg visible,
        inductionHypothesis restUnescaped]
      · simp
      · exact firstUnescaped.ne_mark
      · exact fun _ _ _ _ _ _ => ne_backslash
      · exact fun _ _ _ => ne_backslash

theorem readText_append
    {characters : List Char}
    (unescaped : ∀ character ∈ characters, Unescaped character)
    (document : List Text.Element) :
    readText (documentOf characters ++ .character '"' :: document) =
      .ok (documentOf characters, document) := by
  simp only [readText, readParts_append unescaped, bind, Except.bind]
  simp [documentOf, TextPart.element, Function.comp_def, pure, Except.pure]

/-- A text in its marks. -/
def marked (text : String) : List Char :=
  '"' :: (text.toList ++ ['"'])

section Marked

variable {text : String}

theorem writeText_of_unescaped
    (unescaped : ∀ character ∈ text.toList, Unescaped character) :
    writeText text = marked text := by
  have each : text.toList.flatMap writeCharacter = text.toList.flatMap fun character =>
      [character] :=
    List.flatMap_congr fun character member => (unescaped character member).writeCharacter_eq
  rw [writeText, each, List.flatMap_singleton', marked]

theorem compactElements_of_unescaped
    (unescaped : ∀ character ∈ text.toList, Unescaped character) :
    compactElements (Text.elements text) = documentOf (marked text) := by
  have each : (Text.elements text).flatMap compactElement =
      (Text.elements text).flatMap fun element => [element] := by
    apply List.flatMap_congr
    unfold Text.elements
    rw [List.forall_mem_map]
    exact fun character member => (unescaped character member).compactElement_eq
  rw [compactElements, each, List.flatMap_singleton']
  simp [Text.elements, documentOf, marked]

end Marked

theorem ofElements_documentOf (text : String) :
    ofElements (documentOf text.toList) = .text text := by
  have read : Text.ofElements? (documentOf text.toList) = some text :=
    Text.ofElements?_elements text
  unfold ofElements
  rw [read]

theorem spells_text
    {text : String}
    (unescaped : ∀ character ∈ text.toList, Unescaped character)
    (room : Nat) :
    Spells room (marked text) (.text text) := by
  refine { visible := ⟨_, _, rfl, by decide⟩, reads := ?_ }
  intro bound document enough _
  obtain ⟨less, rfl⟩ : ∃ less, bound = less + 1 := ⟨bound - 1, by simp [marked] at enough; omega⟩
  have read := readText_append unescaped document
  unfold readValue
  simp [marked, read, ofElements_documentOf, bind, Except.bind, pure, Except.pure]

/-! ## Objects -/

/-- Characters are read as the members of an object in a document that may be nested so
deeply. -/
structure SpellsMembers
    (room : Nat)
    (characters : List Char)
    (members : List (String × Json)) : Prop where
  /-- They begin with the mark of a name. -/
  visible : ∃ rest, characters = '"' :: rest
  /-- They are read as the members before a closing brace. -/
  reads :
    ∀ bound document,
      characters.length ≤ bound →
        readMembers bound room
            (documentOf characters ++ .character '\x7d' :: document) =
          .ok (members.map fun member => (Text.elements member.1, member.2), document)

/-- A member with blanks before its value. -/
def spelledMember (name : String) (gap value : List Char) : List Char :=
  marked name ++ ':' :: (gap ++ value)

theorem length_spelledMember (name : String) (gap value : List Char) :
    value.length + 2 ≤ (spelledMember name gap value).length := by
  simp [spelledMember, marked]
  omega

variable {room : Nat} {name : String} {gap characters : List Char} {value : Json}

/-- A member is read before what follows it. -/
theorem readMembers_spelledMember
    (unescaped : ∀ character ∈ name.toList, Unescaped character)
    (blank : ∀ character ∈ gap, isBlank (.character character) = true)
    (spells : Spells room characters value)
    {bound : Nat}
    (enough : characters.length ≤ bound)
    {document : List Text.Element}
    (separate : Separate document) :
    readMembers (bound + 1) room (documentOf (spelledMember name gap characters) ++ document) =
      match skipBlanks document with
      | .character ',' :: rest => do
          let (members, rest) ← readMembers bound room (skipBlanks rest)
          return ((Text.elements name, value) :: members, rest)
      | .character '\x7d' :: rest => .ok ([(Text.elements name, value)], rest)
      | _ => .error .malformed := by
  obtain ⟨first, rest, rfl, visible⟩ := spells.visible
  have named := readText_append unescaped
    (.character ':' :: (documentOf gap ++ (documentOf (first :: rest) ++ document)))
  have gapSkipped : skipBlanks (documentOf gap ++ (documentOf (first :: rest) ++ document)) =
      documentOf (first :: rest) ++ document := by
    rw [skipBlanks_of_blank blank, documentOf_cons, List.cons_append,
      skipBlanks_cons_of_not_blank visible]
  have colon : skipBlanks (.character ':' ::
      (documentOf gap ++ (documentOf (first :: rest) ++ document))) = _ :=
    skipBlanks_cons_of_not_blank (by decide) _
  have read := spells.reads bound document enough separate
  have shape : documentOf (spelledMember name gap (first :: rest)) ++ document =
      .character '"' :: (documentOf name.toList ++ .character '"' :: .character ':' ::
        (documentOf gap ++ (documentOf (first :: rest) ++ document))) := by
    simp [spelledMember, marked]
  rw [shape, readMembers]
  simp only [named, bind, Except.bind, colon, gapSkipped, read]
  rfl

theorem spellsMembers_singleton
    (unescaped : ∀ character ∈ name.toList, Unescaped character)
    (blank : ∀ character ∈ gap, isBlank (.character character) = true)
    (spells : Spells room characters value) :
    SpellsMembers room (spelledMember name gap characters) [(name, value)] := by
  refine { visible := ⟨_, rfl⟩, reads := ?_ }
  intro bound document enough
  have long := length_spelledMember name gap characters
  obtain ⟨less, rfl⟩ : ∃ less, bound = less + 1 := ⟨bound - 1, by omega⟩
  rw [readMembers_spelledMember unescaped blank spells (by omega) (by rfl),
    skipBlanks_cons_of_not_blank (by decide)]
  rfl

theorem spellsMembers_cons
    {later : List Char}
    {members : List (String × Json)}
    (unescaped : ∀ character ∈ name.toList, Unescaped character)
    (blank : ∀ character ∈ gap, isBlank (.character character) = true)
    (spells : Spells room characters value)
    (spellsLater : SpellsMembers room later members) :
    SpellsMembers room (spelledMember name gap characters ++ ',' :: (gap ++ later))
      ((name, value) :: members) := by
  refine { visible := ⟨_, rfl⟩, reads := ?_ }
  intro bound document enough
  have long := length_spelledMember name gap characters
  simp only [List.length_append, List.length_cons] at enough
  obtain ⟨less, rfl⟩ : ∃ less, bound = less + 1 := ⟨bound - 1, by omega⟩
  obtain ⟨rest, rfl⟩ := spellsLater.visible
  have gapSkipped : skipBlanks (documentOf gap ++
      (documentOf ('"' :: rest) ++ .character '\x7d' :: document)) =
      documentOf ('"' :: rest) ++ .character '\x7d' :: document := by
    rw [skipBlanks_of_blank blank]
    exact skipBlanks_cons_of_not_blank (by decide) _
  have read := spellsLater.reads less document (by omega)
  rw [documentOf_append, List.append_assoc,
    readMembers_spelledMember unescaped blank spells (by omega) (by rfl), documentOf_cons,
    List.cons_append, skipBlanks_cons_of_not_blank (by decide)]
  simp only [documentOf_append, List.append_assoc, gapSkipped, read]
  rfl

/-! ### Distinct names -/

theorem put_of_not_mem
    [DecidableEq ν]
    {name : ν}
    {entries : List (ν × α)}
    (fresh : name ∉ entries.map Prod.fst)
    (value : α) :
    put name value entries = entries ++ [(name, value)] := by
  induction entries with
  | nil => rfl
  | cons entry entries inductionHypothesis =>
      rw [List.map_cons, List.mem_cons, not_or] at fresh
      rw [put, if_neg (Ne.symm fresh.1), inductionHypothesis fresh.2]
      rfl

theorem foldl_put_of_nodup
    [DecidableEq ν]
    {earlier later : List (ν × α)}
    (different : ((earlier ++ later).map Prod.fst).Nodup) :
    later.foldl (fun kept entry => put entry.1 entry.2 kept) earlier = earlier ++ later := by
  induction later generalizing earlier with
  | nil => simp
  | cons entry later inductionHypothesis =>
      have fresh : entry.1 ∉ earlier.map Prod.fst := by
        rw [List.map_append, List.map_cons, List.nodup_middle, List.nodup_cons] at different
        exact fun member => different.1 (List.mem_append_left _ member)
      rw [← List.singleton_append, ← List.append_assoc] at different ⊢
      rw [List.foldl_append, List.foldl_cons, put_of_not_mem fresh]
      exact inductionHypothesis different

/-- Entries of different names are kept as they are. -/
theorem distinct_of_nodup
    [DecidableEq ν]
    {entries : List (ν × α)}
    (different : (entries.map Prod.fst).Nodup) :
    distinct entries = entries :=
  foldl_put_of_nodup different

theorem elements_injective : Function.Injective Text.elements := by
  intro first second same
  have texts := congrArg Text.ofElements? same
  rw [Text.ofElements?_elements, Text.ofElements?_elements] at texts
  exact Option.some.inj texts

theorem namedMembers?_elements (members : List (String × Json)) :
    namedMembers? (members.map fun member => (Text.elements member.1, member.2)) =
      some members := by
  unfold namedMembers?
  induction members with
  | nil => rfl
  | cons member members inductionHypothesis =>
      simp [List.mapM_cons, inductionHypothesis]

/-- The members of an object are read back if their names are different. -/
theorem ofMembers_of_nodup
    {members : List (String × Json)}
    (different : (members.map Prod.fst).Nodup) :
    ofMembers (members.map fun member => (Text.elements member.1, member.2)) =
      object members := by
  have distinctNames :
      ((members.map fun member => (Text.elements member.1, member.2)).map Prod.fst).Nodup := by
    rw [List.map_map]
    have mapped := List.Nodup.map elements_injective different
    rwa [List.map_map] at mapped
  unfold ofMembers
  rw [distinct_of_nodup distinctNames]
  dsimp only
  rw [namedMembers?_elements]

/-- An object is spelled by its members in braces. -/
theorem spells_object
    {characters : List Char}
    {members : List (String × Json)}
    (different : (members.map Prod.fst).Nodup)
    (spells : SpellsMembers room characters members) :
    Spells (room + 1) ('\x7b' :: (characters ++ ['\x7d'])) (.object members) := by
  refine { visible := ⟨_, _, rfl, by decide⟩, reads := ?_ }
  intro bound document enough _
  simp only [List.length_cons, List.length_append] at enough
  obtain ⟨less, rfl⟩ : ∃ less, bound = less + 1 := ⟨bound - 1, by omega⟩
  have read := spells.reads less document (by omega)
  obtain ⟨rest, rfl⟩ := spells.visible
  have inside : skipBlanks (documentOf ('"' :: rest) ++ .character '\x7d' :: document) =
      documentOf ('"' :: rest) ++ .character '\x7d' :: document :=
    skipBlanks_cons_of_not_blank (by decide) _
  have shape : documentOf ('\x7b' :: ('"' :: rest ++ ['\x7d'])) ++ document =
      .character '\x7b' :: (documentOf ('"' :: rest) ++ .character '\x7d' :: document) := by
    simp
  rw [documentOf_cons, List.cons_append] at inside read
  rw [shape, documentOf_cons, List.cons_append]
  unfold readValue
  simp [inside, read, ofMembers_of_nodup different, bind, Except.bind, pure, Except.pure]

/-! ## Documents -/

theorem read_of_spells
    {characters : List Char}
    {value : Json}
    (spells : Spells room characters value) :
    Json.read room (documentOf characters) = .ok value := by
  have whole := spells.reads (2 * characters.length + 1) [] (by omega) rfl
  obtain ⟨first, rest, rfl, visible⟩ := spells.visible
  rw [List.append_nil] at whole
  unfold read
  rw [length_documentOf, documentOf_cons, skipBlanks_cons_of_not_blank visible, ← documentOf_cons,
    whole]
  rfl

/-! ## Bytes -/

theorem loop_toByteArray (bytes : List UInt8) (index : Nat) (read : List UInt8) :
    ByteArray.toList.loop bytes.toByteArray index read = read.reverse ++ bytes.drop index := by
  generalize left : bytes.length - index = count
  induction count generalizing index read with
  | zero =>
      rw [ByteArray.toList.loop.eq_def, List.size_toByteArray, if_neg (by omega),
        List.drop_of_length_le (by omega), List.append_nil]
  | succ count inductionHypothesis =>
      have inside : index < bytes.length := by omega
      have byte : bytes.toByteArray.get! index = bytes[index] := by
        simp [ByteArray.get!, List.data_toByteArray, inside]
      rw [ByteArray.toList.loop.eq_def, List.size_toByteArray, if_pos inside,
        inductionHypothesis _ _ (by omega), byte, List.drop_eq_getElem_cons inside]
      simp

theorem toList_toUTF8_ofList (characters : List Char) :
    (String.ofList characters).toUTF8.toList = characters.flatMap String.utf8EncodeChar := by
  have bytes : (String.ofList characters).toUTF8 =
      (characters.flatMap String.utf8EncodeChar).toByteArray :=
    String.toByteArray_ofList
  rw [bytes, ByteArray.toList, loop_toByteArray]
  rfl

/-- Bytes that begin like an object are taken one by one. -/
theorem ofBytes_of_object (bytes : List UInt8) :
    Encoding.ofBytes (0x7B :: 0x22 :: bytes) = .narrow := by
  unfold Encoding.ofBytes
  split <;> simp_all

/-- A text that begins like an object is the document of its characters. -/
theorem elements?_of_object (characters : List Char) :
    elements? (String.ofList ('\x7b' :: '"' :: characters)) =
      some (documentOf ('\x7b' :: '"' :: characters)) := by
  have bytes : (String.ofList ('\x7b' :: '"' :: characters)).toUTF8.toList =
      0x7B :: 0x22 :: characters.flatMap String.utf8EncodeChar := by
    rw [toList_toUTF8_ofList]
    rfl
  unfold elements?
  simp only [bytes, ofBytes_of_object, String.toList_ofList]
  rfl

end Json
end Tabletop
