import FormWizard.Json.Record
import FormWizard.Json.Source

/-!
# State shared between pages

The pages around a form share two documents, the details of a contact and the values of a submitted
form. A `StateAction` replaces one of them and leaves the other alone.
-/

namespace FormWizard

/-- A change to the shared state. -/
inductive StateAction where
  /-- Replaces the details of the contact. -/
  | setContactInfo (payload : Json)
  /-- Replaces the values of the submitted form. -/
  | setQuoteForm (payload : Json)

namespace StateAction

/-- The name of the change in documents. -/
def typeName : StateAction → String
  | .setContactInfo _ => "SET_CONTACT_INFO"
  | .setQuoteForm _ => "SET_QUOTE_FORM"

/-- The document that is put in place. -/
def payload : StateAction → Json
  | .setContactInfo j => j
  | .setQuoteForm j => j

/-- The change as a document. -/
def toJson (a : StateAction) : Json := .object [("type", .text a.typeName), ("payload", a.payload)]

/-- The change of a name. -/
def ofName? (name : String) (payload : Json) : Option StateAction :=
  match name with
  | "SET_CONTACT_INFO" => some (.setContactInfo payload)
  | "SET_QUOTE_FORM" => some (.setQuoteForm payload)
  | _ => none

/-- The members of a change. -/
def members : List Member := [⟨"type", [], false⟩, ⟨"payload", [], false⟩]

/-- The name of a change, as a text or as the single member of an object, which is `null`. -/
def name? : Json → Option String
  | .text name => some name
  | .object [(name, .null)] => some name
  | _ => none

/-- The change that a document is. -/
def ofJson? (j : Json) : Option StateAction := do
  let r ← Record.ofJson? members j
  let name ← r.required "type" name?
  let payload ← r.required "payload" fun j ↦ if j.readable then some j.free else none
  ofName? name payload

/-- The change that a text is. -/
def ofText? (text : String) : Option StateAction := (Json.ofText? text).bind ofJson?

end StateAction

/-- What the pages share. -/
structure SharedState where
  /-- The details of the contact. -/
  contactInfo : Option Json
  /-- The values of the submitted form. -/
  quoteForm : Option Json

namespace SharedState

/-- Nothing shared yet. -/
def empty : SharedState := ⟨none, none⟩

/-- The state after a change. -/
def apply (s : SharedState) : StateAction → SharedState
  | .setContactInfo payload => { s with contactInfo := some payload }
  | .setQuoteForm payload => { s with quoteForm := some payload }

/-- Whether the details of a contact are there, without which no form is shown. -/
def hasContactInfo (s : SharedState) : Bool := s.contactInfo.isSome

end SharedState

end FormWizard
