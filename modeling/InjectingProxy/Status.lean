import InjectingProxy.Text.Latin

/-!
# Statuses

A status is a code with a description.  Any integer is a code, also one that no standard names.

## What is here

* `Status`: the pair, and its text.
* `Status.standardPhrase?`: the phrase that the standards give a code.
* `Status.linePhrase`: the phrase for a status line that came without one.
* `Status.resolve`: the status for an error that is to be sent on purpose.
-/

set_option autoImplicit false

namespace InjectingProxy

/-- A status code with its description. -/
structure Status where
  code : Int
  description : String
  deriving DecidableEq, Repr

namespace Status

/-- The code and the description with a blank between them. -/
def text (s : Status) : String := toString s.code ++ " " ++ s.description

/-- The codes that the standards name, with their phrases. -/
def standardPhrases : List (Int × String) :=
  [(100, "Continue"), (101, "Switching Protocols"), (102, "Processing"), (103, "Early Hints"),
    (200, "OK"), (201, "Created"), (202, "Accepted"), (203, "Non-Authoritative Information"),
    (204, "No Content"), (205, "Reset Content"), (206, "Partial Content"), (207, "Multi-Status"),
    (208, "Already Reported"), (226, "IM Used"), (300, "Multiple Choices"),
    (301, "Moved Permanently"), (302, "Found"), (303, "See Other"), (304, "Not Modified"),
    (305, "Use Proxy"), (307, "Temporary Redirect"), (308, "Permanent Redirect"),
    (400, "Bad Request"), (401, "Unauthorized"), (402, "Payment Required"), (403, "Forbidden"),
    (404, "Not Found"), (405, "Method Not Allowed"), (406, "Not Acceptable"),
    (407, "Proxy Authentication Required"), (408, "Request Timeout"), (409, "Conflict"),
    (410, "Gone"), (411, "Length Required"), (412, "Precondition Failed"),
    (413, "Request Entity Too Large"), (414, "Request-URI Too Long"),
    (415, "Unsupported Media Type"), (416, "Requested Range Not Satisfiable"),
    (417, "Expectation Failed"), (418, "I'm a Teapot"), (421, "Misdirected Request"),
    (422, "Unprocessable Entity"), (423, "Locked"), (424, "Failed Dependency"),
    (425, "Too Early"), (426, "Upgrade Required"), (428, "Precondition Required"),
    (429, "Too Many Requests"), (431, "Request Header Fields Too Large"),
    (451, "Unavailable For Legal Reasons"), (500, "Internal Server Error"),
    (501, "Not Implemented"), (502, "Bad Gateway"), (503, "Service Unavailable"),
    (504, "Gateway Timeout"), (505, "HTTP Version Not Supported"),
    (506, "Variant Also Negotiates"), (507, "Insufficient Storage"), (508, "Loop Detected"),
    (510, "Not Extended"), (511, "Network Authentication Required")]

/-- The phrase that the standards give a code. -/
def standardPhrase? (code : Int) : Option String := standardPhrases.lookup code

/-- The phrase for a status line without one: the standard phrase, with the teapot in small
letters, and nothing for other codes. -/
def linePhrase (code : Int) : String :=
  if code = 418 then "I'm a teapot" else (standardPhrase? code).getD ""

/-- The status of a status line, whose phrase may be missing.  Of a phrase only the bytes below
128 are kept. -/
def ofLine (code : Int) (phrase : Option Bytes) : Status where
  code := code
  description :=
    match phrase with
    | some bytes => String.ofList (Latin.decodeAscii bytes)
    | none => linePhrase code

/-- The smallest code of a final response; smaller ones only announce one. -/
def minFinal : Int := 200

/-- Why a code is not one to send on purpose. -/
inductive Unfit where
  /-- No standard names the code. -/
  | unknown (code : Int)
  /-- The code is informational, so no response ends with it. -/
  | unservable (code : Int)
  deriving DecidableEq, Repr

/-- The text of a refusal. -/
def Unfit.message : Unfit → String
  | .unknown code => "Unknown error code:  " ++ toString code
  | .unservable code => "Error code can't be sent as a response:  " ++ toString code

/-- The status for an error that is to be sent on purpose.  503 has a description of its own, the
others the standard phrase. -/
def resolve (code : Int) : Except Unfit Status :=
  if code = 503 then .ok ⟨503, "Internal server error"⟩
  else
    match standardPhrase? code with
    | none => .error (.unknown code)
    | some phrase => if code < minFinal then .error (.unservable code) else .ok ⟨code, phrase⟩

end Status
end InjectingProxy
