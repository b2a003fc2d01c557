import DeviceGrant.Validation
set_option autoImplicit false

/-! # Callers

A caller is either a client with credentials of its own, or a user who acts through a client.
Either kind has a client id for which alone it may ask: a client's own name, or the id of the
client through which the user acts. -/

namespace DeviceGrant

/-- An identified caller, and whether it has been authenticated. -/
inductive Principal
  | client (name : String) (authenticated : Bool)
  | clientUser (name clientId : String) (authenticated : Bool)
deriving DecidableEq, Repr

namespace Principal

/-- The name of the caller itself. -/
def name : Principal → String
  | client n _ => n
  | clientUser n _ _ => n

/-- Whether the caller has been authenticated. -/
def isAuthenticated : Principal → Bool
  | client _ a => a
  | clientUser _ _ a => a

/-- The client id for which the caller may ask. -/
def effectiveClientId : Principal → String
  | client n _ => n
  | clientUser _ c _ => c

/-- The tag of a client. -/
def clientTag : String := "client"

/-- The tag of a user who acts through a client. -/
def clientUserTag : String := "client_user"

/-- Checks that a tag, where there is one, is the given word. -/
def checkTag (word : String) (es : List (Value × Value)) : Checked Unit :=
  Check.optional "kind" () (fun
    | .text s => if s = word then .ok () else .issue .constantExpected
    | _ => .issue .constantExpected) es

/-- Checks a client and all of its parts. -/
def checkClient (v : Value) : Checked Principal := do
  let es ← Check.fields v
  .combine (fun n a => client n a)
    (.combine (fun _ n => n) (checkTag clientTag es) (Check.required "name" Check.text es))
    (Check.optional "authenticated" true Check.bool es)

/-- Checks a user who acts through a client, and all parts. -/
def checkClientUser (v : Value) : Checked Principal := do
  let es ← Check.fields v
  .combine (fun (n, c) a => clientUser n c a)
    (.combine (fun n c => (n, c))
      (.combine (fun _ n => n) (checkTag clientUserTag es) (Check.required "name" Check.text es))
      (Check.required "client_id" Check.text es))
    (Check.optional "authenticated" true Check.bool es)

/-- Checks a caller of the kind that its tag names. -/
def check (v : Value) : Checked Principal :=
  match v with
  | .map es =>
    match Value.field? "kind" es with
    | none => .issue .tagMissing
    | some (.text s) =>
      if s = clientTag then .under (.field clientTag) (checkClient v)
      else if s = clientUserTag then .under (.field clientUserTag) (checkClientUser v)
      else .issue .tagUnknown
    | some _ => .issue .tagUnknown
  | _ => .issue .attributesExpected

/-- The name of a client in reports. -/
def clientSubject : String := "ClientPrincipal"

/-- The name of a user who acts through a client in reports. -/
def clientUserSubject : String := "ClientUserPrincipal"

/-- The name of a caller of either kind in reports. -/
def subject : String := "tagged-union[" ++ clientSubject ++ "," ++ clientUserSubject ++ "]"

end Principal

end DeviceGrant
