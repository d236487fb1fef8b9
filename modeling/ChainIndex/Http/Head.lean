import ChainIndex.Text.Blank
import ChainIndex.Text.Charset
import ChainIndex.Text.Split

/-!
# What stands before a body

An answer begins with its status, which is told with its registered phrase, and says of what content type its body is.
A content type is a kind with a slash in it, then parameters behind semicolons. The one that counts
here is the character set; a sender that names none means UTF-8, and what is no content type names none.
-/

namespace ChainIndex.Http

/-! ## Statuses -/

/-- The registered statuses with their phrases. -/
def phrases : List (Nat × String) :=
  [(100, "Continue"), (101, "Switching Protocols"), (102, "Processing"), (103, "Early Hints"), (200, "OK"),
    (201, "Created"), (202, "Accepted"), (203, "Non Authoritative Information"), (204, "No Content"),
    (205, "Reset Content"), (206, "Partial Content"), (207, "Multi-Status"), (208, "Already Reported"),
    (226, "IM Used"), (300, "Multiple Choices"), (301, "Moved Permanently"), (302, "Found"), (303, "See Other"),
    (304, "Not Modified"), (305, "Use Proxy"), (307, "Temporary Redirect"), (308, "Permanent Redirect"),
    (400, "Bad Request"), (401, "Unauthorized"), (402, "Payment Required"), (403, "Forbidden"), (404, "Not Found"),
    (405, "Method Not Allowed"), (406, "Not Acceptable"), (407, "Proxy Authentication Required"),
    (408, "Request Timeout"), (409, "Conflict"), (410, "Gone"), (411, "Length Required"),
    (412, "Precondition Failed"), (413, "Payload Too Large"), (414, "URI Too Long"), (415, "Unsupported Media Type"),
    (416, "Range Not Satisfiable"), (417, "Expectation Failed"), (418, "I'm a teapot"), (421, "Misdirected Request"),
    (422, "Unprocessable Entity"), (423, "Locked"), (424, "Failed Dependency"), (425, "Too Early"),
    (426, "Upgrade Required"), (428, "Precondition Required"), (429, "Too Many Requests"),
    (431, "Request Header Fields Too Large"), (451, "Unavailable For Legal Reasons"), (500, "Internal Server Error"),
    (501, "Not Implemented"), (502, "Bad Gateway"), (503, "Service Unavailable"), (504, "Gateway Timeout"),
    (505, "HTTP Version Not Supported"), (506, "Variant Also Negotiates"), (507, "Insufficient Storage"),
    (508, "Loop Detected"), (510, "Not Extended"), (511, "Network Authentication Required")]

/-- A status as it is told: its number and its phrase. -/
def describe (status : Nat) : String :=
  toString status ++ " " ++ (phrases.lookup status).getD "<unknown status code>"

def isSuccess (status : Nat) : Bool := 200 ≤ status && status < 300

/-- Whether an answer with this status has a body at all. -/
def hasBody (status : Nat) : Bool := 200 ≤ status && status ≠ 204 && status ≠ 304

/-! ## Content types -/

/-- A parameter: its name in small letters, and its value without the quotes around it. -/
def parameter? (cs : List Char) : Option (String × String) :=
  match Text.cutAt '=' (Text.trimWhile Text.isBlank cs) with
  | (name, some value) => some ((String.ofList name).toLower, String.ofList (Text.trimWhile (· == '"') value))
  | (_, none) => none

/-- The character set that a content type names. -/
def charset (contentType : String) : Text.Charset :=
  match Text.splitOn ';' contentType.toList with
  | kind :: parameters =>
    match (parameters.filterMap parameter?).lookup "charset" with
    | some name => if kind.contains '/' then .ofName name else .utf8
    | none => .utf8
  | [] => .utf8

end ChainIndex.Http
