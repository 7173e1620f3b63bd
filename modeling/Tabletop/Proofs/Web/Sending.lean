import Mathlib.Data.List.TakeWhile
import Tabletop.Proofs.Supervision
import Tabletop.Web.Layers

/-!
# What can be sent

A text can be sent if it consists of characters: half of a surrogate pair that stands alone
cannot be encoded.  So a list of issues may turn out not to be an answer, and so may what is
told of a fault while the service is being debugged.  Where nothing is told, there is always
an answer.
-/

namespace Tabletop

/-! ## Texts of characters -/

namespace Text

/-- Elements that are characters throughout. -/
def OfCharacters (list : List Element) : Prop :=
  ∀ element ∈ list, element.isCharacter = true

namespace OfCharacters

@[simp] theorem nil : OfCharacters [] :=
  List.forall_mem_nil _

@[simp] theorem cons_character_iff {value : Char} {list : List Element} :
    OfCharacters (.character value :: list) ↔ OfCharacters list :=
  List.forall_mem_cons.trans (and_iff_right rfl)

@[simp] theorem cons_half_iff {unit : Nat} {list : List Element} :
    OfCharacters (.half unit :: list) ↔ False :=
  List.forall_mem_cons.trans (iff_of_false (fun both => Bool.false_ne_true both.1) id)

@[simp] theorem append_iff {first second : List Element} :
    OfCharacters (first ++ second) ↔ OfCharacters first ∧ OfCharacters second :=
  List.forall_mem_append

@[simp] theorem map_character (characters : List Char) :
    OfCharacters (characters.map .character) := by
  intro element member
  obtain ⟨value, _, rfl⟩ := List.mem_map.mp member
  rfl

@[simp] theorem elements (text : String) : OfCharacters (elements text) :=
  map_character text.toList

end OfCharacters

/-- Elements are characters throughout exactly if they are the elements of a text. -/
theorem ofCharacters_iff {list : List Element} :
    OfCharacters list ↔ ∃ text, list = elements text := by
  constructor
  · intro whole
    induction list with
    | nil => exact ⟨"", rfl⟩
    | cons head tail inductionHypothesis =>
        cases head with
        | half unit => exact absurd whole (by simp)
        | character value =>
            obtain ⟨text, rfl⟩ := inductionHypothesis (OfCharacters.cons_character_iff.mp whole)
            refine ⟨String.ofList (value :: text.toList), ?_⟩
            unfold elements
            rw [String.toList_ofList]
            rfl
  · rintro ⟨text, rfl⟩
    exact .elements text

theorem eq_map_of_mapM_character?
    {list : List Element}
    {characters : List Char}
    (found : list.mapM Element.character? = some characters) :
    list = characters.map Element.character := by
  induction list generalizing characters with
  | nil =>
      obtain rfl := Option.some.inj found
      rfl
  | cons head tail inductionHypothesis =>
      rw [List.mapM_cons] at found
      obtain ⟨value, isValue, rest⟩ := Option.bind_eq_some_iff.mp found
      obtain ⟨others, foundOthers, result⟩ := Option.bind_eq_some_iff.mp rest
      obtain rfl := Option.some.inj result
      cases head with
      | half unit => cases isValue
      | character _ =>
          obtain rfl := Option.some.inj isValue
          rw [inductionHypothesis foundOthers]
          rfl

/-- Elements have a text exactly if they are the elements of it. -/
theorem ofElements?_eq_some_iff {list : List Element} {text : String} :
    ofElements? list = some text ↔ list = elements text := by
  constructor
  · intro found
    obtain ⟨characters, mapped, rfl⟩ := Option.map_eq_some_iff.mp found
    rw [eq_map_of_mapM_character? mapped, elements, String.toList_ofList]
  · rintro rfl
    exact ofElements?_elements text

theorem ofElements?_eq_none_iff {list : List Element} :
    ofElements? list = none ↔ ¬ OfCharacters list := by
  rw [ofCharacters_iff, Option.eq_none_iff_forall_ne_some, not_exists]
  exact forall_congr' fun text => not_congr ofElements?_eq_some_iff

end Text

namespace Fault

/-! ## Words that can be sent -/

theorem said?_eq_some_iff {fault : Fault} {text : String} :
    fault.said? = some text ↔ fault.words = .ok (Text.elements text) := by
  unfold said?
  cases fault.words with
  | error other => simp
  | ok words => simp [Text.ofElements?_eq_some_iff]

/-- A fault of the service, neither of the caller's dice nor of the source. -/
structure OfService (fault : Fault) : Prop where
  not_isDice : fault.isDice = false
  said : fault.said? = some fault.wording

end Fault

namespace Json

/-! ## Compact forms -/

theorem ofCharacters_compactElement_iff {element : Text.Element} :
    Text.OfCharacters (compactElement element) ↔ element.isCharacter = true := by
  cases element with
  | half unit => simp [compactElement, Text.Element.isCharacter]
  | character value =>
      unfold compactElement
      dsimp only
      split <;> simp [Text.Element.isCharacter]

/-- The compact form of a text consists of characters exactly if the text does. -/
@[simp] theorem ofCharacters_compactElements_iff {list : List Text.Element} :
    Text.OfCharacters (compactElements list) ↔ Text.OfCharacters list := by
  have parts :
      Text.OfCharacters (list.flatMap compactElement) ↔ Text.OfCharacters list := by
    unfold Text.OfCharacters
    rw [List.forall_mem_flatMap]
    exact forall₂_congr fun _ _ => ofCharacters_compactElement_iff
  simp [compactElements, parts]

/-- An object whose members are a number, a text and a detail consists of characters in its
compact form exactly if the detail does. -/
theorem compact_failedWith
    {detail : Json}
    {room : Nat}
    {list : List Text.Element}
    (compacted : detail.compact room = .ok list)
    (code : Nat)
    (message : String) :
    ∃ written,
      (object [("code", .integer code), ("message", .text message), ("detail", detail)]).compact
          (room + 1) = .ok written ∧
        (Text.OfCharacters written ↔ Text.OfCharacters list) := by
  simp only [compact, compactMembers, compacted]
  refine ⟨_, rfl, ?_⟩
  simp

end Json

namespace Web

/-! ## Bodies -/

namespace Refusal

/-- Halves of surrogate pairs are looked for after the characters that elements begin
with. -/
theorem drop_takeWhile_isCharacter (list : List Text.Element) :
    list.drop (list.takeWhile Text.Element.isCharacter).length =
      list.dropWhile Text.Element.isCharacter := by
  have whole := List.takeWhile_append_dropWhile (p := Text.Element.isCharacter) (l := list)
  calc
    list.drop (list.takeWhile Text.Element.isCharacter).length
    _ = (list.takeWhile Text.Element.isCharacter ++
          list.dropWhile Text.Element.isCharacter).drop
            (list.takeWhile Text.Element.isCharacter).length := by rw [whole]
    _ = list.dropWhile Text.Element.isCharacter := List.drop_left

/-- No half of a surrogate pair is found alone in elements exactly if they are characters
throughout. -/
theorem loneHalves?_eq_none_iff {list : List Text.Element} :
    loneHalves? list = none ↔ Text.OfCharacters list := by
  unfold loneHalves?
  dsimp only
  rw [drop_takeWhile_isCharacter, Text.OfCharacters, ← List.dropWhile_eq_nil_iff]
  cases rest : list.dropWhile Text.Element.isCharacter with
  | nil => simp
  | cons head tail =>
      have stops := List.head?_dropWhile_not Text.Element.isCharacter list
      rw [rest] at stops
      cases head with
      | character value => cases stops
      | half unit => simp

theorem ofService_of_loneHalves?
    {elements : List Text.Element}
    {fault : Fault}
    (found : loneHalves? elements = some fault) :
    fault.OfService := by
  unfold loneHalves? at found
  dsimp only at found
  split at found
  · obtain rfl := Option.some.inj found
    exact ⟨rfl, Text.ofElements?_elements _⟩
  · cases found

theorem ofService_of_sendableJson
    {value : Json}
    {fault : Fault}
    (refused : sendableJson value = .error fault) :
    fault.OfService := by
  unfold sendableJson at refused
  split at refused
  · obtain rfl := Except.error.inj refused
    exact ⟨rfl, rfl⟩
  · obtain rfl := Except.error.inj refused
    exact ⟨rfl, rfl⟩
  · split at refused
    · rename_i found
      obtain rfl := Except.error.inj refused
      exact ofService_of_loneHalves? found
    · cases refused

theorem ofService_of_sendable
    {body : Body}
    {fault : Fault}
    (refused : sendable body = .error fault) :
    fault.OfService := by
  cases body with
  | json value => exact ofService_of_sendableJson refused
  | empty => cases refused
  | plain text => cases refused
  | page page => cases refused

/-- A list of issues is an answer, unless it cannot be sent. -/
theorem answer_eq_ok_or_ofService (issues : List Validation.Issue) :
    (∃ detail, Refusal.answer issues = .ok (.detailed 422 detail)) ∨
      ∃ fault, Refusal.answer issues = .error fault ∧ fault.OfService := by
  unfold Refusal.answer
  dsimp only
  split
  · exact .inr ⟨.nestedTooDeeply, rfl, rfl, rfl⟩
  · cases sent : Refusal.sendable _ with
    | ok _ => exact .inl ⟨_, rfl⟩
    | error fault => exact .inr ⟨fault, rfl, ofService_of_sendable sent⟩

/-- An answer to a fault can be sent exactly if its detail, written, consists of
characters. -/
theorem sendable_failedWith_eq_ok_iff
    {detail : Json}
    {list : List Text.Element}
    (compacted : ∀ room, detail.compact room = .ok list)
    (code : Nat)
    (message : String) :
    sendable (Response.failedWith code message detail).body = .ok () ↔
      Text.OfCharacters list := by
  obtain ⟨written, whole, sendableIff⟩ :=
    Json.compact_failedWith (compacted (writtenNesting - 1)) code message
  have room : writtenNesting = writtenNesting - 1 + 1 := rfl
  change sendableJson (.object _) = _ ↔ _
  unfold sendableJson
  rw [room, whole]
  dsimp only
  rw [← sendableIff, ← loneHalves?_eq_none_iff]
  cases loneHalves? written with
  | none => simp
  | some fault => simp

end Refusal

/-! ## Answers to faults of any kind -/

namespace Handler

/-- Where nothing is told of a fault, there is an answer. -/
@[simp] theorem internalError_false (fault : Fault) :
    internalError false fault = .ok (.failed 500 "Internal server error" none) := by
  have sent : Refusal.sendable
      (Response.failedWith 500 "Internal server error" .null).body = .ok () :=
    (Refusal.sendable_failedWith_eq_ok_iff (fun _ => rfl) _ _).mpr (Text.OfCharacters.elements _)
  unfold internalError told
  rw [if_neg Bool.false_ne_true]
  simp only [bind, Except.bind, sent]
  rfl

/-- The detail that words are told by is written as they are. -/
theorem compact_ofElements (words : List Text.Element) (room : Nat) :
    (Json.ofElements words).compact room = .ok (Json.compactElements words) := by
  unfold Json.ofElements
  cases found : Text.ofElements? words with
  | none => rfl
  | some text =>
      obtain rfl := Text.ofElements?_eq_some_iff.mp found
      rfl

theorem sendable_told_iff (words : List Text.Element) :
    Refusal.sendable
        (Response.failedWith 500 "Internal server error" (Json.ofElements words)).body = .ok () ↔
      Text.OfCharacters words :=
  (Refusal.sendable_failedWith_eq_ok_iff (compact_ofElements words) _ _).trans
    Json.ofCharacters_compactElements_iff

/-- A fault with words that can be sent is answered with them. -/
theorem internalError_of_said
    {fault : Fault}
    {text : String}
    (said : fault.said? = some text) :
    internalError true fault = .ok (.failed 500 "Internal server error" (some text)) := by
  have sent := (sendable_told_iff (Text.elements text)).mpr (.elements text)
  unfold internalError told
  rw [if_pos rfl, Fault.said?_eq_some_iff.mp said]
  simp only [bind, Except.bind, Except.map, sent]
  unfold Json.ofElements
  rw [Text.ofElements?_elements]
  rfl

/-- A fault without such words is not answered, and another one is met in its place. -/
theorem internalError_of_not_said
    {fault : Fault}
    (unsaid : fault.said? = none) :
    ∃ other, internalError true fault = .error other := by
  unfold internalError told
  rw [if_pos rfl]
  cases asked : fault.words with
  | error other => exact ⟨other, rfl⟩
  | ok words =>
      have broken : ¬ Text.OfCharacters words := by
        rw [← Text.ofElements?_eq_none_iff]
        unfold Fault.said? at unsaid
        rw [asked] at unsaid
        exact unsaid
      cases sent : Refusal.sendable
          (Response.failedWith 500 "Internal server error" (Json.ofElements words)).body with
      | ok _ => exact absurd ((sendable_told_iff words).mp sent) broken
      | error other =>
          refine ⟨other, ?_⟩
          simp only [bind, Except.bind, Except.map, sent]

/-- A fault is left unanswered only while the service is being debugged, and only if it has no
words that can be sent. -/
theorem internalError_eq_error_iff {debug : Bool} {fault : Fault} :
    (∃ other, internalError debug fault = .error other) ↔
      debug = true ∧ fault.said? = none := by
  cases debug with
  | false => simp
  | true =>
      cases said : fault.said? with
      | some text => simp [internalError_of_said said]
      | none =>
          obtain ⟨other, escaped⟩ := internalError_of_not_said said
          simp [escaped]

/-- The answer to a fault of any kind has only its detail to tell the one from the other. -/
theorem internalError_eq_ok
    {debug : Bool}
    {fault : Fault}
    {response : Response}
    (answered : internalError debug fault = .ok response) :
    response = .failed 500 "Internal server error" (if debug then fault.said? else none) := by
  cases debug with
  | false =>
      rw [internalError_false] at answered
      exact (Except.ok.inj answered).symm
  | true =>
      cases said : fault.said? with
      | some text =>
          rw [internalError_of_said said] at answered
          exact (Except.ok.inj answered).symm
      | none =>
          obtain ⟨other, escaped⟩ := internalError_of_not_said said
          rw [escaped] at answered
          cases answered

end Handler
end Web
end Tabletop
