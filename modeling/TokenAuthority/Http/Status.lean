import TokenAuthority.Text.Blank

/-!
Response statuses.

The registered statuses have a phrase; the few that this service uses have a code that clients may
rely on.
-/

namespace TokenAuthority.Http

def statusPhrases : List (Int × String) :=
  [(100, "Continue"), (101, "Switching Protocols"), (102, "Processing"), (103, "Early Hints"),
   (200, "OK"), (201, "Created"), (202, "Accepted"), (203, "Non-Authoritative Information"),
   (204, "No Content"), (205, "Reset Content"), (206, "Partial Content"), (207, "Multi-Status"),
   (208, "Already Reported"), (226, "IM Used"), (300, "Multiple Choices"),
   (301, "Moved Permanently"), (302, "Found"), (303, "See Other"), (304, "Not Modified"),
   (305, "Use Proxy"), (307, "Temporary Redirect"), (308, "Permanent Redirect"),
   (400, "Bad Request"), (401, "Unauthorized"), (402, "Payment Required"), (403, "Forbidden"),
   (404, "Not Found"), (405, "Method Not Allowed"), (406, "Not Acceptable"),
   (407, "Proxy Authentication Required"), (408, "Request Timeout"), (409, "Conflict"),
   (410, "Gone"), (411, "Length Required"), (412, "Precondition Failed"),
   (413, "Request Entity Too Large"), (414, "Request-URI Too Long"),
   (415, "Unsupported Media Type"), (416, "Requested Range Not Satisfiable"),
   (417, "Expectation Failed"), (418, "I'm a Teapot"), (421, "Misdirected Request"),
   (422, "Unprocessable Entity"), (423, "Locked"), (424, "Failed Dependency"),
   (425, "Too Early"), (426, "Upgrade Required"), (428, "Precondition Required"),
   (429, "Too Many Requests"), (431, "Request Header Fields Too Large"),
   (451, "Unavailable For Legal Reasons"), (500, "Internal Server Error"),
   (501, "Not Implemented"), (502, "Bad Gateway"), (503, "Service Unavailable"),
   (504, "Gateway Timeout"), (505, "HTTP Version Not Supported"),
   (506, "Variant Also Negotiates"), (507, "Insufficient Storage"), (508, "Loop Detected"),
   (510, "Not Extended"), (511, "Network Authentication Required")]

def statusPhrase? (status : Int) : Option String :=
  (statusPhrases.find? fun entry => entry.1 == status).map Prod.snd

def statusCodes : List (Int × String) :=
  [(400, "bad_request"), (401, "unauthorized"), (403, "forbidden"), (404, "not_found"),
   (405, "method_not_allowed"), (413, "payload_too_large"), (415, "unsupported_media_type"),
   (422, "unprocessable_entity"), (500, "internal_server_error"), (503, "service_unavailable")]

def statusCode (status : Int) : String :=
  match statusCodes.find? fun entry => entry.1 == status with
  | some entry => entry.2
  | none => "error"

/-- The words of a code, as a sentence. -/
def codeWords (code : String) : String :=
  match code.toList.map fun character => if character = '_' then ' ' else character with
  | [] => ""
  | first :: rest => String.ofList (Text.capital first :: rest)

end TokenAuthority.Http
