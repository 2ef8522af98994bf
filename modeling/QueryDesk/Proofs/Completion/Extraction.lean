import Mathlib.Logic.Relation
import QueryDesk.Proofs.Completion.Transmission

/-!
# The text of a response

A value of any shape is a response, a failure of the provider or malformed.  The text of a response
is that of the text parts of its messages, one after the other; whatever else stands among them is
passed over (`responseOf_extracts`).

So it does not matter how a provider spreads a text.  An edit of a response splits the text of a
part into two parts, or into the last part of a message and the first one of another, or puts in a
part or an item that has no text.  Any number of edits, done or undone, leave what is read.
-/

namespace QueryDesk.Completion.Responses

open QueryDesk.Json

/-! ## Where texts stand -/

/-- A part that has a text. -/
structure TextPart (part : Value) (text : String) : Prop where
  typed : part.member? "type" = some (.string "output_text")
  text : part.member? "text" = some (.string text)

/-- An item that is a message, and its parts. -/
structure Message (item : Value) (parts : List Value) : Prop where
  typed : item.member? "type" = some (.string "message")
  content : item.member? "content" = some (.array parts)

/-- The texts of a part: one or none. -/
inductive PartTexts (part : Value) : List String → Prop
  | text {text : String} (h : TextPart part text) : PartTexts part [text]
  | mute (h : ∀ text, ¬ TextPart part text) : PartTexts part []

/-- The texts of an item, in order. -/
inductive ItemTexts (item : Value) : List String → Prop
  | message {parts : List Value} {texts : List (List String)} (h : Message item parts)
      (each : List.Forall₂ PartTexts parts texts) : ItemTexts item texts.flatten
  | mute (h : ∀ parts, ¬ Message item parts) : ItemTexts item []

/-- The texts of a response, in order. -/
inductive Texts (response : Value) : List String → Prop
  | items {items : List Value} {texts : List (List String)}
      (h : response.member? "output" = some (.array items))
      (each : List.Forall₂ ItemTexts items texts) : Texts response texts.flatten
  | mute (h : ∀ items, response.member? "output" ≠ some (.array items)) : Texts response []

/-! ## Reading them -/

theorem partText_of_textPart {part : Value} {text : String} (h : TextPart part text) :
    partText part = text := by
  simp [partText, hasType_iff.2 h.typed, h.text, Value.text?]

theorem bind_text?_eq_none {member : Option Value} (h : ∀ text, member ≠ some (.string text)) :
    member.bind Value.text? = none := by
  cases member with
  | none => rfl
  | some v =>
    cases v with
    | string text => exact absurd rfl (h text)
    | _ => rfl

theorem partText_of_mute {part : Value} (h : ∀ text, ¬ TextPart part text) :
    partText part = "" := by
  unfold partText
  by_cases typed : part.member? "type" = some (.string "output_text")
  · have silent : (part.member? "text").bind Value.text? = none :=
      bind_text?_eq_none fun text said => h text ⟨typed, said⟩
    simp [hasType_iff.2 typed, silent]
  · rw [if_neg fun has => typed (hasType_iff.1 has)]

theorem listMember_of_array {name : String} {v : Value} {items : List Value}
    (h : v.member? name = some (.array items)) : listMember name v = items := by
  simp [listMember, h, Value.items?]

theorem listMember_of_no_array {name : String} {v : Value}
    (h : ∀ items, v.member? name ≠ some (.array items)) : listMember name v = [] := by
  unfold listMember
  cases found : v.member? name with
  | none => rfl
  | some member =>
    cases member with
    | array items => exact absurd found (h items)
    | _ => rfl

theorem itemText_of_message {item : Value} {parts : List Value} (h : Message item parts) :
    itemText item = String.join (parts.map partText) := by
  simp [itemText, hasType_iff.2 h.typed, listMember_of_array h.content]

theorem itemText_of_mute {item : Value} (h : ∀ parts, ¬ Message item parts) :
    itemText item = "" := by
  unfold itemText
  by_cases typed : item.member? "type" = some (.string "message")
  · have empty : listMember "content" item = [] :=
      listMember_of_no_array fun parts content => h parts ⟨typed, content⟩
    simp [hasType_iff.2 typed, empty]
  · rw [if_neg fun has => typed (hasType_iff.1 has)]

/-- What is read value by value is the text of all. -/
theorem join_map_of_forall₂ {R : Value → List String → Prop} {read : Value → String}
    (reads : ∀ v texts, R v texts → read v = String.join texts) {values : List Value}
    {texts : List (List String)} (each : List.Forall₂ R values texts) :
    String.join (values.map read) = String.join texts.flatten := by
  induction each with
  | nil => rfl
  | cons here _ ih => simp [reads _ _ here, ih]

/-- The texts of all, if each value has some. -/
theorem exists_forall₂ {R : Value → List String → Prop} (total : ∀ v, ∃ texts, R v texts)
    (values : List Value) : ∃ texts, List.Forall₂ R values texts := by
  choose texts has using total
  exact ⟨values.map texts, List.forall₂_map_right_iff.2 (List.forall₂_same.2 fun v _ => has v)⟩

theorem partText_of_texts (part : Value) (texts : List String) (h : PartTexts part texts) :
    partText part = String.join texts := by
  cases h with
  | text h => simp [partText_of_textPart h]
  | mute h => rw [partText_of_mute h, String.join_nil]

theorem itemText_of_texts (item : Value) (texts : List String) (h : ItemTexts item texts) :
    itemText item = String.join texts := by
  cases h with
  | message h each => rw [itemText_of_message h, join_map_of_forall₂ partText_of_texts each]
  | mute h => rw [itemText_of_mute h, String.join_nil]

theorem outputText_of_texts {response : Value} {texts : List String} (h : Texts response texts) :
    outputText response = String.join texts := by
  unfold outputText
  cases h with
  | items h each => rw [listMember_of_array h, join_map_of_forall₂ itemText_of_texts each]
  | mute h => rw [listMember_of_no_array h, List.map_nil]

theorem exists_partTexts (part : Value) : ∃ texts, PartTexts part texts := by
  by_cases h : ∃ text, TextPart part text
  · obtain ⟨text, h⟩ := h
    exact ⟨_, .text h⟩
  · exact ⟨_, .mute (not_exists.1 h)⟩

theorem exists_itemTexts (item : Value) : ∃ texts, ItemTexts item texts := by
  by_cases h : ∃ parts, Message item parts
  · obtain ⟨parts, h⟩ := h
    obtain ⟨texts, each⟩ := exists_forall₂ exists_partTexts parts
    exact ⟨_, .message h each⟩
  · exact ⟨_, .mute (not_exists.1 h)⟩

theorem exists_texts (response : Value) : ∃ texts, Texts response texts := by
  by_cases h : ∃ items, response.member? "output" = some (.array items)
  · obtain ⟨items, h⟩ := h
    obtain ⟨texts, each⟩ := exists_forall₂ exists_itemTexts items
    exact ⟨_, .items h each⟩
  · exact ⟨_, .mute (not_exists.1 h)⟩

/-! ## Edits -/

/-- An edit among the parts of a message. -/
inductive PartEdit : List Value → List Value → Prop
  | split {before after : List Value} {part part₁ part₂ : Value} {text₁ text₂ : String}
      (whole : TextPart part (text₁ ++ text₂)) (first : TextPart part₁ text₁)
      (second : TextPart part₂ text₂) :
      PartEdit (before ++ part :: after) (before ++ part₁ :: part₂ :: after)
  | insert {before after : List Value} {part : Value} (mute : ∀ text, ¬ TextPart part text) :
      PartEdit (before ++ after) (before ++ part :: after)

/-- An edit among the items of a response. -/
inductive ItemEdit : List Value → List Value → Prop
  | inside {before after : List Value} {item item' : Value} {parts parts' : List Value}
      (old : Message item parts) (new : Message item' parts') (edit : PartEdit parts parts') :
      ItemEdit (before ++ item :: after) (before ++ item' :: after)
  | split {before after : List Value} {item item₁ item₂ : Value} {lead trail : List Value}
      {part part₁ part₂ : Value} {text₁ text₂ : String}
      (old : Message item (lead ++ part :: trail)) (first : Message item₁ (lead ++ [part₁]))
      (second : Message item₂ (part₂ :: trail)) (whole : TextPart part (text₁ ++ text₂))
      (ending : TextPart part₁ text₁) (beginning : TextPart part₂ text₂) :
      ItemEdit (before ++ item :: after) (before ++ item₁ :: item₂ :: after)
  | insert {before after : List Value} {item : Value} (mute : ∀ parts, ¬ Message item parts) :
      ItemEdit (before ++ after) (before ++ item :: after)

/-- An edit of a response: its output is edited, and its other members stay. -/
structure Edit (response response' : Value) : Prop where
  output : ∃ items items', response.member? "output" = some (.array items) ∧
    response'.member? "output" = some (.array items') ∧ ItemEdit items items'
  others : ∀ name, name ≠ "output" → response'.member? name = response.member? name

theorem PartEdit.join {parts parts' : List Value} (h : PartEdit parts parts') :
    String.join (parts'.map partText) = String.join (parts.map partText) := by
  cases h with
  | split whole first second =>
    simp [partText_of_textPart whole, partText_of_textPart first, partText_of_textPart second,
      String.append_assoc]
  | insert mute => simp [partText_of_mute mute]

theorem ItemEdit.join {items items' : List Value} (h : ItemEdit items items') :
    String.join (items'.map itemText) = String.join (items.map itemText) := by
  cases h with
  | inside old new edit => simp [itemText_of_message old, itemText_of_message new, edit.join]
  | split old first second whole ending beginning =>
    simp [itemText_of_message old, itemText_of_message first, itemText_of_message second,
      partText_of_textPart whole, partText_of_textPart ending, partText_of_textPart beginning,
      String.append_assoc]
  | insert mute => simp [itemText_of_mute mute]

/-- One edit leaves what is read. -/
theorem Edit.responseOf {response response' : Value} (h : Edit response response') :
    responseOf response' = responseOf response := by
  obtain ⟨items, items', output, output', edit⟩ := h.output
  have text : outputText response' = outputText response := by
    rw [outputText, outputText, listMember_of_array output, listMember_of_array output', edit.join]
  have error : error? response' = error? response := by
    rw [error?, error?, h.others "error" (by decide)]
  rw [Responses.responseOf, Responses.responseOf, error, text, h.others "id" (by decide)]

/-- Any number of edits, done or undone, leave what is read. -/
theorem responseOf_of_edits {response response' : Value}
    (h : Relation.EqvGen Edit response response') : responseOf response' = responseOf response := by
  induction h with
  | rel _ _ edit => exact edit.responseOf
  | refl _ => rfl
  | symm _ _ _ ih => exact ih.symm
  | trans _ _ _ _ _ first second => exact second.trans first

/-! ## Responses and failures -/

/-- A value without an error. -/
def Faultless (value : Value) : Prop :=
  ∀ error, value.member? "error" = some error → error = .null

theorem error?_of_faultless {value : Value} (h : Faultless value) : error? value = none := by
  unfold error?
  cases found : value.member? "error" with
  | none => rfl
  | some error =>
    rw [h error found]

theorem error?_of_error {value error : Value} (found : value.member? "error" = some error)
    (fault : error ≠ .null) : error? value = some error := by
  unfold error?
  rw [found]
  cases error with
  | null => exact absurd rfl fault
  | _ => rfl

theorem responseOf_of_no_id {value : Value} (faultless : Faultless value)
    (unknown : ∀ id, value.member? "id" ≠ some (.string id)) :
    responseOf value = .error (.malformed "response has no id") := by
  simp [responseOf, error?_of_faultless faultless, bind_text?_eq_none unknown]

/-- What a value of any shape is read as.  With an id and no error it is a response: its text is
    that of its text parts in order, and no edit changes it.  With an error it is a failure of the
    provider, whatever else it has; without error and id it is malformed; and it fails in no other
    way. -/
theorem responseOf_extracts :
    (∀ value id, Faultless value → value.member? "id" = some (.string id) →
      (∃ texts, Texts value texts) ∧
        ∀ texts, Texts value texts → responseOf value = .ok ⟨id, String.join texts⟩) ∧
    (∀ value value', Relation.EqvGen Edit value value' → responseOf value' = responseOf value) ∧
    (∀ value error, value.member? "error" = some error → error ≠ .null →
      ∃ message, responseOf value = .error (.provider message) ∧
        ∀ text, error.member? "message" = some (.string text) → message = text) ∧
    (∀ value, Faultless value → (∀ id, value.member? "id" ≠ some (.string id)) →
      ∃ reason, responseOf value = .error (.malformed reason)) ∧
    ∀ value failure, responseOf value = .error failure →
      (∃ message, failure = .provider message) ∨ ∃ reason, failure = .malformed reason := by
  refine ⟨?_, ?_, ?_, ?_, ?_⟩
  · intro value id faultless known
    refine ⟨exists_texts value, fun texts h => ?_⟩
    simp [responseOf, error?_of_faultless faultless, known, Value.text?, outputText_of_texts h]
  · exact fun _ _ => responseOf_of_edits
  · intro value error found fault
    refine ⟨messageOr "unknown error" error, ?_, ?_⟩
    · simp [responseOf, error?_of_error found fault]
    · intro text said
      simp [messageOr, said, Value.text?]
  · intro value faultless unknown
    exact ⟨_, responseOf_of_no_id faultless unknown⟩
  · intro value failure failed
    unfold responseOf at failed
    split at failed
    · cases failed
      exact .inl ⟨_, rfl⟩
    · split at failed
      · cases failed
      · cases failed
        exact .inr ⟨_, rfl⟩

/-! ## A response in pieces -/

/-- A part with a text. -/
def textPart (text : String) : Value :=
  .object [("type", .string "output_text"), ("text", .string text)]

/-- A message of some parts. -/
def messageOf (parts : List Value) : Value :=
  .object [("type", .string "message"), ("content", .array parts)]

/-- A response of some items. -/
def responseWith (items : List Value) : Value :=
  .object [("id", .string "resp_9"), ("error", .null), ("output", .array items)]

theorem edit_responseWith {items items' : List Value} (h : ItemEdit items items') :
    Edit (responseWith items) (responseWith items') where
  output := ⟨items, items', rfl, rfl, h⟩
  others := by
    intro name other
    have differs : (name == "output") = false := beq_false_of_ne other
    simp [responseWith, Value.member?, List.lookup_cons, differs]

/-- The items of a response in pieces: a text stands in two messages, and a value that is no item,
    a part without a text and a message without parts stand between. -/
def scatteredItems : List Value :=
  [.null, messageOf [textPart "SEL", .object [("type", .string "output_text"), ("text", .null)]],
    .object [("type", .string "message"), ("content", .string "SELECT 2")],
    messageOf [textPart "ECT 1"]]

theorem texts_scatteredItems : Texts (responseWith scatteredItems) ["SEL", "ECT 1"] := by
  have said : PartTexts (textPart "SEL") ["SEL"] := .text ⟨rfl, rfl⟩
  have unsaid : PartTexts (.object [("type", .string "output_text"), ("text", .null)]) [] :=
    .mute fun _ h => nomatch h.text
  have first : ItemTexts (messageOf [textPart "SEL", _]) ["SEL"] :=
    .message ⟨rfl, rfl⟩ (.cons said (.cons unsaid .nil))
  have second : ItemTexts (messageOf [textPart "ECT 1"]) ["ECT 1"] :=
    .message ⟨rfl, rfl⟩ (.cons (.text ⟨rfl, rfl⟩) .nil)
  have noItem : ItemTexts .null [] := .mute fun _ h => nomatch h.typed
  have noParts : ItemTexts (.object [("type", .string "message"),
      ("content", .string "SELECT 2")]) [] :=
    .mute fun _ h => nomatch h.content
  exact .items rfl (.cons noItem (.cons first (.cons noParts (.cons second .nil))))

/-- A response in pieces is read as a whole, also when a part is split further, a response with an
    error is none, nor is a value that is no object. -/
theorem scatteredItems_extracted :
    Faultless (responseWith scatteredItems) ∧
      responseOf (responseWith scatteredItems) = .ok ⟨"resp_9", "SELECT 1"⟩ ∧
      responseOf (responseWith [messageOf [textPart "SEL"], messageOf [textPart "ECT 1"]]) =
        responseOf (responseWith [messageOf [textPart "SELECT 1"]]) ∧
      (∃ message, responseOf (.object [("id", .string "resp_9"), ("error", .bool false)]) =
        .error (.provider message)) ∧
      ∃ reason, responseOf (.array []) = .error (.malformed reason) := by
  have faultless : Faultless (responseWith scatteredItems) := by
    intro error found
    exact (Option.some.inj found).symm
  have edit : ItemEdit ([] ++ messageOf ([] ++ textPart ("SEL" ++ "ECT 1") :: []) :: [])
      ([] ++ messageOf ([] ++ [textPart "SEL"]) :: messageOf (textPart "ECT 1" :: []) :: []) :=
    .split ⟨rfl, rfl⟩ ⟨rfl, rfl⟩ ⟨rfl, rfl⟩ ⟨rfl, rfl⟩ ⟨rfl, rfl⟩ ⟨rfl, rfl⟩
  obtain ⟨extracted, kept, refused, malformed, -⟩ := responseOf_extracts
  refine ⟨faultless, ?_, ?_, ?_, ?_⟩
  · exact (extracted _ _ faultless rfl).2 _ texts_scatteredItems
  · exact kept _ _ (.rel _ _ (edit_responseWith edit))
  · obtain ⟨message, read, -⟩ := refused (.object [("id", .string "resp_9"),
      ("error", .bool false)]) (.bool false) rfl (by simp)
    exact ⟨message, read⟩
  · exact malformed _ (fun _ found => nomatch found) (fun _ found => nomatch found)

end QueryDesk.Completion.Responses
