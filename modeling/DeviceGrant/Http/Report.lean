import DeviceGrant.Event
import DeviceGrant.Http.Message
set_option autoImplicit false

/-! # Responses that report errors

Refusals, errors that are a status with a detail, malformed requests and failures each have a
response of their own. A failure tells the caller nothing but that there was one; the event that
goes with it tells what it was. -/

namespace DeviceGrant.Http

/-- The phrases of statuses. -/
def phrases : List (Nat × String) :=
  [(100, "Continue"), (101, "Switching Protocols"), (102, "Processing"), (103, "Early Hints"),
    (200, "OK"), (201, "Created"), (202, "Accepted"), (203, "Non-Authoritative Information"),
    (204, "No Content"), (205, "Reset Content"), (206, "Partial Content"), (207, "Multi-Status"),
    (208, "Already Reported"), (226, "IM Used"), (300, "Multiple Choices"),
    (301, "Moved Permanently"), (302, "Found"), (303, "See Other"), (304, "Not Modified"),
    (305, "Use Proxy"), (307, "Temporary Redirect"), (308, "Permanent Redirect"),
    (400, "Bad Request"), (401, "Unauthorized"), (402, "Payment Required"), (403, "Forbidden"),
    (404, "Not Found"), (405, "Method Not Allowed"), (406, "Not Acceptable"),
    (407, "Proxy Authentication Required"), (408, "Request Timeout"), (409, "Conflict"),
    (410, "Gone"), (411, "Length Required"), (412, "Precondition Failed"),
    (413, "Request Entity Too Large"), (414, "Request-URI Too Long"),
    (415, "Unsupported Media Type"), (416, "Requested Range Not Satisfiable"),
    (417, "Expectation Failed"), (418, "I'm a Teapot"), (421, "Misdirected Request"),
    (422, "Unprocessable Entity"), (423, "Locked"), (424, "Failed Dependency"), (425, "Too Early"),
    (426, "Upgrade Required"), (428, "Precondition Required"), (429, "Too Many Requests"),
    (431, "Request Header Fields Too Large"), (451, "Unavailable For Legal Reasons"),
    (500, "Internal Server Error"), (501, "Not Implemented"), (502, "Bad Gateway"),
    (503, "Service Unavailable"), (504, "Gateway Timeout"), (505, "HTTP Version Not Supported"),
    (506, "Variant Also Negotiates"), (507, "Insufficient Storage"), (508, "Loop Detected"),
    (510, "Not Extended"), (511, "Network Authentication Required")]

/-- The phrase of a status. -/
def phrase (status : Nat) : String := (phrases.lookup status).getD ""

/-- An error that is a status with a detail of any kind, and headers. -/
structure StatusError where
  status : Nat
  detail : Json
  headers : List (String × String)

namespace StatusError

/-- An error whose detail is the phrase of its status. -/
def ofStatus (status : Nat) (headers : List (String × String)) : StatusError :=
  ⟨status, .text (phrase status), headers⟩

/-- The body of an error in answer to a request with the given method. -/
def body (e : StatusError) (method : String) : Json :=
  if e.status = 405 then
    (ErrorBody.ofMessage "method_not_allowed"
      (some ("Request method '" ++ method ++ "' not supported"))).toJson
  else .object [("detail", e.detail)]

end StatusError

/-- One thing that is wrong with a request: its place, the last step of which is shown, and a
message. -/
structure RequestIssue where
  place : List Value
  message : String

namespace RequestIssue

/-- The name of the field at fault; empty when there is none. -/
def field (i : RequestIssue) : String :=
  match i.place.getLast? with
  | some .null => ""
  | some v => v.toText
  | none => ""

/-- The line of an issue; an issue without message has none. -/
def line? (i : RequestIssue) : Option String :=
  if i.message.isEmpty then none
  else some (if i.field.isEmpty then i.message else i.field ++ ": " ++ i.message)

/-- The description of all issues in one line. -/
def describe (issues : List RequestIssue) : String :=
  match issues.filterMap line? with
  | [] => "Invalid request"
  | lines => String.intercalate " | " lines

end RequestIssue

/-- Something that keeps a request from a regular answer. -/
inductive Trouble
  | refusal (r : Refusal)
  | status (e : StatusError)
  | issues (is : List RequestIssue)
  | failure (f : Failure)

namespace Trouble

/-- The trouble that a failure is: a refusal if it is one. -/
def ofFailure : Failure → Trouble
  | .refused r => refusal r
  | f => failure f

/-- The response to a request with the given method. -/
def report (method : String) : Trouble → Logged Response
  | refusal r => ⟨.ofJson r.status r.body.toJson [], [.refusalHandled r]⟩
  | status e =>
    ⟨.ofJson e.status (e.body method) e.headers, [.statusHandled (Value.ofJson e.detail)]⟩
  | issues is =>
    .silent (.ofJson 400 (ErrorBody.ofMessage "invalid_request"
      (some (RequestIssue.describe is))).toJson [])
  | failure f =>
    ⟨.ofJson 500 (ErrorBody.ofMessage "server_error" (some "Internal server error")).toJson [],
      [.failureHandled f]⟩

end Trouble

end DeviceGrant.Http
