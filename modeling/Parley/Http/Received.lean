import Parley.Text.Utf8

/-!
# What a client sends and receives
-/

namespace Parley.Http

/-- A request that carries data to an address. -/
structure Post where
  url : String
  headers : List (String × String)
  body : String
  deriving DecidableEq

/-- A response as it comes in: its body in chunks, which may break off. -/
structure Received where
  status : Nat
  headers : List (String × String) := []
  chunks : List (List UInt8) := []
  broken : Bool := false
  deriving DecidableEq

/-- The usual words for a status. -/
def reason? : Nat → Option String
  | 200 => some "OK"
  | 201 => some "Created"
  | 202 => some "Accepted"
  | 204 => some "No Content"
  | 206 => some "Partial Content"
  | 300 => some "Multiple Choices"
  | 301 => some "Moved Permanently"
  | 302 => some "Found"
  | 303 => some "See Other"
  | 304 => some "Not Modified"
  | 307 => some "Temporary Redirect"
  | 308 => some "Permanent Redirect"
  | 400 => some "Bad Request"
  | 401 => some "Unauthorized"
  | 402 => some "Payment Required"
  | 403 => some "Forbidden"
  | 404 => some "Not Found"
  | 405 => some "Method Not Allowed"
  | 406 => some "Not Acceptable"
  | 407 => some "Proxy Authentication Required"
  | 408 => some "Request Timeout"
  | 409 => some "Conflict"
  | 410 => some "Gone"
  | 411 => some "Length Required"
  | 412 => some "Precondition Failed"
  | 413 => some "Payload Too Large"
  | 414 => some "URI Too Long"
  | 415 => some "Unsupported Media Type"
  | 416 => some "Range Not Satisfiable"
  | 417 => some "Expectation Failed"
  | 418 => some "I'm a teapot"
  | 421 => some "Misdirected Request"
  | 422 => some "Unprocessable Entity"
  | 423 => some "Locked"
  | 424 => some "Failed Dependency"
  | 425 => some "Too Early"
  | 426 => some "Upgrade Required"
  | 428 => some "Precondition Required"
  | 429 => some "Too Many Requests"
  | 431 => some "Request Header Fields Too Large"
  | 451 => some "Unavailable For Legal Reasons"
  | 500 => some "Internal Server Error"
  | 501 => some "Not Implemented"
  | 502 => some "Bad Gateway"
  | 503 => some "Service Unavailable"
  | 504 => some "Gateway Timeout"
  | 505 => some "HTTP Version Not Supported"
  | 506 => some "Variant Also Negotiates"
  | 507 => some "Insufficient Storage"
  | 508 => some "Loop Detected"
  | 510 => some "Not Extended"
  | 511 => some "Network Authentication Required"
  | _ => none

namespace Received

def isSuccess (r : Received) : Bool := 200 ≤ r.status && r.status < 300

def statusText (r : Received) : String :=
  toString r.status ++ " " ++ (reason? r.status).getD "<unknown status code>"

/-- The body as text, without a mark of its byte order, and empty if it broke off. -/
def text (r : Received) : String :=
  if r.broken then ""
  else match Text.Utf8.decodeLossy r.chunks.flatten with
    | '\ufeff' :: cs => String.ofList cs
    | cs => String.ofList cs

/-- A header of plain text. -/
def header? (r : Received) (name : String) : Option String :=
  (r.headers.lookup name).filter fun s => s.toList.all (·.toNat < 127)

end Received

end Parley.Http
