import PreviewServer.Text.Decimal

/-!
# Status codes

## Main definitions

* `Status`: a code from 100 to 999
* `Status.isSuccess`: the codes of the class 2xx
* `Status.text`: a code with its reason phrase
-/

namespace PreviewServer

/-- A status code of three digits. -/
structure Status where
  code : Nat
  lower : 100 ≤ code := by decide
  upper : code ≤ 999 := by decide
  deriving DecidableEq

namespace Status

/-- The status with a given code, if it has three digits. -/
def ofNat? (code : Nat) : Option Status :=
  if h : 100 ≤ code ∧ code ≤ 999 then some ⟨code, h.1, h.2⟩ else none

/-- Whether a request was carried out: the codes 200 to 299. -/
def isSuccess (s : Status) : Bool :=
  200 ≤ s.code && s.code ≤ 299

/-- The registered reason phrase of a code. -/
def phrase? (s : Status) : Option String :=
  match s.code with
  | 100 => some "Continue"
  | 101 => some "Switching Protocols"
  | 102 => some "Processing"
  | 103 => some "Early Hints"
  | 200 => some "OK"
  | 201 => some "Created"
  | 202 => some "Accepted"
  | 203 => some "Non Authoritative Information"
  | 204 => some "No Content"
  | 205 => some "Reset Content"
  | 206 => some "Partial Content"
  | 207 => some "Multi-Status"
  | 208 => some "Already Reported"
  | 226 => some "IM Used"
  | 300 => some "Multiple Choices"
  | 301 => some "Moved Permanently"
  | 302 => some "Found"
  | 303 => some "See Other"
  | 304 => some "Not Modified"
  | 305 => some "Use Proxy"
  | 307 => some "Temporary Redirect"
  | 308 => some "Permanent Redirect"
  | 400 => some "Bad Request"
  | 401 => some "Unauthorized"
  | 402 => some "Payment Required"
  | 403 => some "Forbidden"
  | 404 => some "Not Found"
  | 405 => some "Method Not Allowed"
  | 406 => some "Not Acceptable"
  | 407 => some "Proxy Authentication Required"
  | 408 => some "Request Timeout"
  | 409 => some "Conflict"
  | 410 => some "Gone"
  | 411 => some "Length Required"
  | 412 => some "Precondition Failed"
  | 413 => some "Payload Too Large"
  | 414 => some "URI Too Long"
  | 415 => some "Unsupported Media Type"
  | 416 => some "Range Not Satisfiable"
  | 417 => some "Expectation Failed"
  | 418 => some "I'm a teapot"
  | 421 => some "Misdirected Request"
  | 422 => some "Unprocessable Entity"
  | 423 => some "Locked"
  | 424 => some "Failed Dependency"
  | 425 => some "Too Early"
  | 426 => some "Upgrade Required"
  | 428 => some "Precondition Required"
  | 429 => some "Too Many Requests"
  | 431 => some "Request Header Fields Too Large"
  | 451 => some "Unavailable For Legal Reasons"
  | 500 => some "Internal Server Error"
  | 501 => some "Not Implemented"
  | 502 => some "Bad Gateway"
  | 503 => some "Service Unavailable"
  | 504 => some "Gateway Timeout"
  | 505 => some "HTTP Version Not Supported"
  | 506 => some "Variant Also Negotiates"
  | 507 => some "Insufficient Storage"
  | 508 => some "Loop Detected"
  | 510 => some "Not Extended"
  | 511 => some "Network Authentication Required"
  | _ => none

/-- A code with its reason phrase; a code without one is marked as unknown. -/
def text (s : Status) : String :=
  decimal s.code ++ " " ++ s.phrase?.getD "<unknown status code>"

/-- The request succeeded. -/
def ok : Status := ⟨200, by decide, by decide⟩

/-- The answer holds a part of the resource. -/
def partialContent : Status := ⟨206, by decide, by decide⟩

/-- The resource did not change. -/
def notModified : Status := ⟨304, by decide, by decide⟩

/-- The resource is at another place for now. -/
def temporaryRedirect : Status := ⟨307, by decide, by decide⟩

/-- There is no such resource. -/
def notFound : Status := ⟨404, by decide, by decide⟩

/-- The resource does not admit the method. -/
def methodNotAllowed : Status := ⟨405, by decide, by decide⟩

/-- A condition of the request does not hold. -/
def preconditionFailed : Status := ⟨412, by decide, by decide⟩

/-- The part that was asked for does not exist. -/
def rangeNotSatisfiable : Status := ⟨416, by decide, by decide⟩

/-- The server failed. -/
def internalServerError : Status := ⟨500, by decide, by decide⟩

end Status

end PreviewServer
