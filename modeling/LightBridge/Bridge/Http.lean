import LightBridge.Bridge.Request

/-! Requests and replies as HTTP messages over a connection that is closed after each reply. What
arrived is a reply if its head is complete; its body ends where the head says, in chunks, after a
length, or with the connection. -/

namespace LightBridge.Http

/-- The number behind a colon, or 80 if there is none. -/
def numberOf : List Char → Nat
  | ':' :: digits => ((Text.Whole.parseChars 65535 digits).toOption).getD 80
  | _ => 80

/-- The name or numeric address of a host, and the number behind its colon. A numeric address that
has colons of its own stands between brackets. -/
def splitAuthority (authority : String) : String × Nat :=
  match authority.toList with
  | '[' :: rest =>
    (String.ofList (rest.takeWhile (· != ']')), numberOf (rest.dropWhile (· != ']')).tail)
  | cs => (String.ofList (cs.takeWhile (· != ':')), numberOf (cs.dropWhile (· != ':')))

def requestText (e : Endpoint) (r : Request) : String :=
  let body := r.body
  let about := match r.contentType? with
    | none => []
    | some type => [s!"Content-Type: {type}", s!"Content-Length: {body.utf8ByteSize}"]
  let head := [s!"{r.verb} {r.path e} HTTP/1.1", s!"Host: {e.authority}", "Accept: */*"] ++ about ++
    ["Connection: close", "", ""]
  "\r\n".intercalate head ++ body

/-- The bytes before the first end of a line, and those behind it. -/
def splitLine : List UInt8 → Option (List UInt8 × List UInt8)
  | 13 :: 10 :: rest => some ([], rest)
  | b :: rest => (splitLine rest).map fun (line, rest) => (b :: line, rest)
  | [] => none

/-- A line of a head, where every byte is a character. -/
def lineText (line : List UInt8) : String :=
  String.ofList (line.map fun b => (Char.ofNat b.toNat).toLower)

/-- The lines before the empty one, and the bytes behind that. Every line has at least one byte. -/
def splitHead : Nat → List UInt8 → Option (List String × List UInt8)
  | 0, _ => none
  | fuel + 1, bytes => do
    let (line, rest) ← splitLine bytes
    if line.isEmpty then some ([], rest)
    else
      let (lines, body) ← splitHead fuel rest
      return (lineText line :: lines, body)

/-- The value of a field of a head. -/
def field? (name : String) (lines : List String) : Option String :=
  lines.findSome? fun line =>
    match line.splitOn ":" with
    | n :: value => if n == name then some (Text.trim (":".intercalate value)) else none
    | [] => none

/-- The body that chunks make up; there is none if the last chunk is missing. -/
def joinChunks : Nat → List UInt8 → Option (List UInt8)
  | 0, _ => none
  | fuel + 1, bytes => do
    let (line, rest) ← splitLine bytes
    let digits := (lineText line).toList.takeWhile fun c => (Text.Hex.digit? c).isSome
    let size := digits.foldl (fun n c => 16 * n + (Text.Hex.digit? c).getD 0) 0
    if size = 0 then some []
    else if rest.length < size then none
    else
      let (_, more) ← splitLine (rest.drop size)
      return rest.take size ++ (← joinChunks fuel more)

def body? (lines : List String) (bytes : List UInt8) : Option (List UInt8) :=
  match field? "transfer-encoding" lines, (field? "content-length" lines).bind (·.toNat?) with
  | some "chunked", _ => joinChunks (bytes.length + 1) bytes
  | _, some length => if bytes.length < length then none else some (bytes.take length)
  | _, none => some bytes

/-- The code in the first line of a reply. -/
def status? (line : String) : Option Nat :=
  match line.splitOn " " with
  | version :: code :: _ => if version.startsWith "http/" then code.toNat? else none
  | _ => none

/-- The reply that arrived before the connection was closed. A body that is no text is as good as
an empty one. -/
def replyOf (bytes : List UInt8) : Reply :=
  match splitHead (bytes.length + 1) bytes with
  | some (first :: lines, rest) =>
    match status? first with
    | none => .lost (some "not a reply")
    | some status =>
      match body? lines rest with
      | none => .cut status (some "the body ends too early")
      | some body => .answered status ((String.fromUTF8? ⟨body.toArray⟩).getD "")
  | _ => .lost (some "the connection was closed")

end LightBridge.Http
