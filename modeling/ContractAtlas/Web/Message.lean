import ContractAtlas.Web.Api
import ContractAtlas.Web.Exchange
import ContractAtlas.Web.Status

/-!
# Messages

The bytes of a request and of an answer on a connection that carries one of each. A message is a
head and a body. The head is a first line of three words and lines of named fields, and ends with an
empty line. The body has the length that the head says, comes in chunks that say their own lengths,
or lasts until the connection ends.
-/

namespace ContractAtlas.Web

open Text

/-- The head of a message: the words of its first line, and its fields with lower-case names. -/
structure MessageHead where
  words : List String
  fields : List (String × String)
deriving DecidableEq, Repr

namespace MessageHead

/-- The field that a line writes. -/
def fieldOfLine (line : String) : String × String :=
  let (name, value) := splitOnce ':' line
  (lowerAscii name, trim (value.getD ""))

/-- The head that bytes write. -/
def ofBytes (bytes : List UInt8) : MessageHead :=
  match lines (textOfBytes bytes) with
  | [] => ⟨[], []⟩
  | first :: later => ⟨splitAll ' ' first, later.map fieldOfLine⟩

/-- The value of a field. -/
def field? (head : MessageHead) (name : String) : Option String :=
  (head.fields.find? fun field => field.1 = name).map Prod.snd

/-- The length of the body, if the head says it. -/
def bodyLength? (head : MessageHead) : Option Nat := do
  decimalValue? (<- head.field? "content-length").toList

/-- Whether the body comes in chunks. -/
def isChunked (head : MessageHead) : Bool :=
  (head.field? "transfer-encoding").map lowerAscii = some "chunked"

end MessageHead

namespace Message

/-- The bytes of a line end. -/
def lineEnd : List UInt8 := [13, 10]

/-- The bytes before the first occurrence of a mark and those after it, none without the mark. -/
def splitAt? (mark : List UInt8) : List UInt8 -> Option (List UInt8 × List UInt8)
  | [] => none
  | byte :: later =>
      if mark.isPrefixOf (byte :: later) then some ([], (byte :: later).drop mark.length)
      else (splitAt? mark later).map fun split => (byte :: split.1, split.2)

/-- The head of a message and the bytes after it, none while the head is not complete. -/
def head? (bytes : List UInt8) : Option (MessageHead × List UInt8) :=
  (splitAt? (lineEnd ++ lineEnd) bytes).map fun split => (.ofBytes split.1, split.2)

/-- The length that the first line of a chunk says. What follows a semicolon does not matter. -/
def chunkLength? (line : List UInt8) : Option Nat :=
  match ((textOfBytes line).toList.takeWhile (· != ';')).filter fun c => !isBlank c with
  | [] => none
  | digits => digits.foldl
      (fun length digit => do return (<- length) * 16 + (<- hexValue? digit).val) (some 0)

/-- The body that at most as many chunks as the limit says carry, none while one is missing. -/
def joinChunks? : Nat -> List UInt8 -> Option (List UInt8)
  | 0, _ => none
  | limit + 1, bytes => do
      let (line, later) <- splitAt? lineEnd bytes
      let length <- chunkLength? line
      if length = 0 then return []
      else if later.length < length + 2 then none
      else return later.take length ++ (<- joinChunks? limit (later.drop (length + 2)))

/-- The body of a message with the given head, none while it is not complete. -/
def body? (head : MessageHead) (bytes : List UInt8) : Option (List UInt8) :=
  if head.isChunked then joinChunks? (bytes.length + 1) bytes
  else
    match head.bodyLength? with
    | some length => if bytes.length < length then none else some (bytes.take length)
    | none => some bytes

/-- The status and the head of the answer that bytes write, and the bytes after the head. Heads of
provisional answers, which have no body, stand before it. -/
def answer? : Nat -> List UInt8 -> Option (Nat × MessageHead × List UInt8)
  | 0, _ => none
  | limit + 1, bytes => do
      let (head, later) <- head? bytes
      let status <- decimalValue? (<- head.words[1]?).toList
      if 100 <= status && status <= 199 then answer? limit later
      else return (status, head, later)

/-- What comes of a request to which a connection has brought these bytes before it ended. -/
def reply (url : Url) (bytes : List UInt8) : Reply :=
  match answer? (bytes.length + 1) bytes with
  | none => .unanswered (unsentReason url)
  | some (status, head, later) =>
      match body? head later with
      | some body => .answered status body
      | none => .brokenOff status unreadReason

/-- Whether nothing more is awaited after these bytes of an answer. -/
def isWholeAnswer (bytes : List UInt8) : Bool :=
  match head? bytes with
  | some (head, later) =>
      (head.isChunked || head.bodyLength?.isSome) && (body? head later).isSome
  | none => false

/-- The text of a first line and of fields, with the empty line after them. -/
def headText (first : String) (fields : List (String × String)) : String :=
  String.join ((first :: fields.map fun field => field.1 ++ ": " ++ field.2).map (· ++ "\r\n")) ++
    "\r\n"

/-- What a request asks a server for: the path and the query of its URL. -/
def target (url : Url) : String :=
  url.path ++ (url.query.map ("?" ++ ·)).getD ""

/-- The host and, unless it is the default one, the port of a URL. -/
def authority (url : Url) : String :=
  url.host.getD "" ++ (url.port.map fun port => ":" ++ toString port).getD ""

/-- The bytes of a request. -/
def ofRequest (request : ServerRequest) : ByteArray :=
  let head := headText ("POST " ++ target request.url ++ " HTTP/1.1")
    [("host", authority request.url),
     ("accept", "*/*"),
     ("content-type", request.contentType),
     ("content-length", toString request.body.utf8ByteSize),
     ("connection", "close")]
  (head ++ request.body).toUTF8

/-- The bytes of an answer. -/
def ofResponse (response : Response) : ByteArray :=
  let body := (response.document.map Json.toCompactText).getD ""
  let type := if response.document.isSome then [("content-type", "application/json")] else []
  let head := headText ("HTTP/1.1 " ++ Status.display response.status)
    (type ++ [("content-length", toString body.utf8ByteSize), ("connection", "close")])
  (head ++ body).toUTF8

/-- The bytes of the answer to a request with the given head. -/
def serve (store : DirectoryStore) (head : MessageHead) : ByteArray :=
  match head.words with
  | [method, target, _] => ofResponse (Api.respond store method target)
  | _ => ofResponse (.plain 400)

end Message

end ContractAtlas.Web
