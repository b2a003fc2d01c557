import DeviceGrant.Http.Multipart
import DeviceGrant.Table
set_option autoImplicit false

/-! # Forms

The parameters of a request are the fields of its form. The type of the body says how they are
written: as pairs with escapes, or in several parts. A body of any other type counts as a form
without fields.

Of several fields with one name the last counts, and fields that are files are left out. -/

namespace DeviceGrant.Http

namespace Form

/-- A name or text among pairs: a plus sign is a space, and escapes are read. -/
def component (cs : List Char) : String :=
  String.ofList (Text.percentDecode (cs.map fun c => if c = '+' then ' ' else c))

/-- The pairs of a body, whose characters stand for its octets. Empty pieces between the ampersands
are passed over, and a piece without equals sign is a name with an empty text. -/
def readPairs (body : List Char) : FormFields :=
  ((Text.splitOn '&' body).filter (!·.isEmpty)).map fun piece =>
    match Text.cutFirst? '=' piece with
    | some (name, text) => (component name, some (component text))
    | none => (component piece, some "")

/-- The fields of a body of the given type. -/
def readFields (contentType : String) (body : List UInt8) : Except FormFault FormFields :=
  let kind := Parameterized.read contentType
  let chars := (Text.latin1Decode body).toList
  if kind.value = "multipart/form-data" then
    match kind.parameter? "boundary" with
    | none => .error .boundaryMissing
    | some boundary => Multipart.read boundary ((kind.parameter? "charset").getD "utf-8") chars
  else if kind.value = "application/x-www-form-urlencoded" then .ok (readPairs chars)
  else .ok []

/-- The parameters that fields stand for. -/
def parameters (fields : FormFields) : Table String :=
  .ofList ((Table.ofList fields).entries.filterMap fun e => e.2.map fun text => (e.1, text))

/-- The parameters of a body of the given type. -/
def read (contentType : String) (body : List UInt8) : Except FormFault (Table String) :=
  (readFields contentType body).map parameters

end Form

end DeviceGrant.Http
