import Helpdesk.Chat.Tools

/-! # The webhook payload

What the WhatsApp webhook reads off a decoded body: the phone number id that decides on the
organization, and the messages. The body is whatever JSON was signed, so each access is modelled with
the exception that Python raises on a value of the wrong shape. `_iter_messages` is a generator: what
it has yielded before an exception has been yielded. -/

namespace Helpdesk.WhatsApp

/-! ## Reading JSON

Indexing, `.get` with a default, `or` and `for`, on any JSON value. -/

/-- `v[key]` -/
def item (key : String) : Json → Except Raised Json
  | .obj items =>
    match List.lookup key items with
    | some v => .ok v
    | none => .error (.keyError key)
  | _ => .error .typeError

/-- `v[0]` -/
def first : Json → Except Raised Json
  | .arr (v :: _) => .ok v
  | .arr [] => .error .indexError
  | .str s =>
    match s.toList with
    | c :: _ => .ok (.str (String.ofList [c]))
    | [] => .error .indexError
  | .obj _ => .error (.keyError "0")
  | _ => .error .typeError

/-- `v.get(key, default)`; only a `dict` has the method. -/
def get (key : String) (default : Json) : Json → Except Raised Json
  | .obj items => .ok ((List.lookup key items).getD default)
  | _ => .error .attributeError

/-- `v or default` -/
def orElse (v default : Json) : Json := if Chat.truthy v then v else default

/-- `for x in v` -/
def iterate (v : Json) : Except Raised (List Json) :=
  match v.iter with
  | some items => .ok items
  | none => .error .typeError

/-! ## The organization's phone number

The first change of the first entry, and nothing else of the payload. -/

/-- `_extract_phone_number_id`. Whatever the accesses raise is caught. -/
def extractPhoneNumberId (payload : Json) : Option Json :=
  let read := do
    let entry ← first (← item "entry" payload)
    let change ← first (← item "changes" entry)
    item "phone_number_id" (← item "metadata" (← item "value" change))
  match read with
  | .ok .null | .error _ => none
  | .ok phoneNumberId => some phoneNumberId

/-! ## The messages

What a generator has yielded comes before the exception that ends it; `Yields` has both. -/

/-- What `_iter_messages` yields for a message. -/
structure Inbound where
  phoneNumberId : Json
  contact : Json
  message : Json

/-- What a generator has yielded when it ends, and the exception that it ends with. -/
structure Yields where
  items : List Inbound
  raised : Option Raised

/-- The rest of a loop does not run once its body has raised. -/
def Yields.andThen (body rest : Yields) : Yields :=
  match body.raised with
  | some e => ⟨body.items, some e⟩
  | none => ⟨body.items ++ rest.items, rest.raised⟩

def yieldEach (f : Json → Yields) : List Json → Yields
  | [] => ⟨[], none⟩
  | x :: rest => (f x).andThen (yieldEach f rest)

/-- `yield from` a list that takes some reading to get at. -/
def Yields.ofRead : Except Raised (List Inbound) → Yields
  | .ok items => ⟨items, none⟩
  | .error e => ⟨[], some e⟩

/-- `for x in v`, where `v` takes some reading to get at. -/
def yieldFor (v : Except Raised Json) (f : Json → Yields) : Yields :=
  match v >>= iterate with
  | .ok items => yieldEach f items
  | .error e => ⟨[], some e⟩

/-- The body of the inner loop of `_iter_messages`. -/
def changeMessages (change : Json) : Except Raised (List Inbound) := do
  let value ← get "value" (.obj []) change
  let messages := orElse (← get "messages" .null value) (.arr [])
  if ¬ Chat.truthy messages then pure []
  else
    let metadata := orElse (← get "metadata" .null value) (.obj [])
    let phoneNumberId ← get "phone_number_id" (.str "") metadata
    let contacts := orElse (← get "contacts" .null value) (.arr [])
    let contact ← if Chat.truthy contacts then first contacts else pure (.obj [])
    let messages ← iterate messages
    pure (messages.map fun message => ⟨phoneNumberId, contact, message⟩)

/-- `_iter_messages`. -/
def iterMessages (payload : Json) : Yields :=
  yieldFor (get "entry" (.arr []) payload) fun entry =>
    yieldFor (get "changes" (.arr []) entry) fun change =>
      .ofRead (changeMessages change)

end Helpdesk.WhatsApp
