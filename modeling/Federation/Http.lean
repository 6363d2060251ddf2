import Federation.Bytes.Base64
import Federation.Text.Blank
import Federation.Url.Basic

namespace Federation.Http

structure Request where
  url : Url
  headers : List (String × String)
deriving DecidableEq, Repr

structure Response where
  status : Nat
  headers : List (String × String)
  /-- Absent if the connection ends before the whole body has come. -/
  body : Option Bytes
deriving DecidableEq, Repr

inductive Delivery where
  | unanswered
  | misdirected (next : String)
  | answered (response : Response)
deriving DecidableEq, Repr

def agent : String := "fedmeta/0.3.0"

def authorization (credentials : String × Option String) : String × String :=
  let plain := Bytes.ofText (credentials.1 ++ ":" ++ credentials.2.getD "")
  ("authorization", "Basic " ++ ((Base64.encode plain).toText?.getD ""))

def maxUrlLength : Nat := 65534

def unnameable : List Char := ['\x22', '\x60', '\x7b', '\x7d']

def canName (url : Url) : Bool :=
  url.text.utf8ByteSize ≤ maxUrlLength &&
    !url.host.any fun host => host.text.toList.any unnameable.contains

namespace Response

def isHeaderChar (c : Char) : Bool := c == '\t' || (0x20 ≤ c.toNat && c.toNat < 0x7F)

def isHeaderBlank (c : Char) : Bool := c == ' ' || c == '\t'

/-- The first value under a name, in either case and without blanks around it. A value with
    characters that headers cannot carry counts as absent. -/
def header? (response : Response) (name : String) : Option String := do
  let (_, value) ← response.headers.find? fun header => Text.equalIgnoringCase header.1 name
  let start := value.toList.dropWhile isHeaderBlank
  let trimmed := (start.reverse.dropWhile isHeaderBlank).reverse
  if trimmed.all isHeaderChar then some (String.ofList trimmed) else none

def isSuccess (response : Response) : Bool := 200 ≤ response.status && response.status < 300

def isNotModified (response : Response) : Bool := response.status == 304

end Response

def reasons : List (Nat × String) := [
  (100, "Continue"), (101, "Switching Protocols"), (102, "Processing"),
  (200, "OK"), (201, "Created"), (202, "Accepted"), (203, "Non Authoritative Information"),
  (204, "No Content"), (205, "Reset Content"), (206, "Partial Content"), (207, "Multi-Status"),
  (208, "Already Reported"), (226, "IM Used"),
  (300, "Multiple Choices"), (301, "Moved Permanently"), (302, "Found"), (303, "See Other"),
  (304, "Not Modified"), (305, "Use Proxy"), (307, "Temporary Redirect"),
  (308, "Permanent Redirect"),
  (400, "Bad Request"), (401, "Unauthorized"), (402, "Payment Required"), (403, "Forbidden"),
  (404, "Not Found"), (405, "Method Not Allowed"), (406, "Not Acceptable"),
  (407, "Proxy Authentication Required"), (408, "Request Timeout"), (409, "Conflict"),
  (410, "Gone"), (411, "Length Required"), (412, "Precondition Failed"),
  (413, "Payload Too Large"), (414, "URI Too Long"), (415, "Unsupported Media Type"),
  (416, "Range Not Satisfiable"), (417, "Expectation Failed"), (418, "I'm a teapot"),
  (421, "Misdirected Request"), (422, "Unprocessable Entity"), (423, "Locked"),
  (424, "Failed Dependency"), (425, "Too Early"), (426, "Upgrade Required"),
  (428, "Precondition Required"), (429, "Too Many Requests"),
  (431, "Request Header Fields Too Large"), (451, "Unavailable For Legal Reasons"),
  (500, "Internal Server Error"), (501, "Not Implemented"), (502, "Bad Gateway"),
  (503, "Service Unavailable"), (504, "Gateway Timeout"), (505, "HTTP Version Not Supported"),
  (506, "Variant Also Negotiates"), (507, "Insufficient Storage"), (508, "Loop Detected"),
  (510, "Not Extended"), (511, "Network Authentication Required")]

def statusText (status : Nat) : String :=
  toString status ++ " " ++ ((reasons.lookup status).getD "<unknown status code>")

end Federation.Http
