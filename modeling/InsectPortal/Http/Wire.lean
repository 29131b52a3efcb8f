import InsectPortal.Http.Request
import InsectPortal.Http.Response

/-!
# Messages on a connection

The bytes a request is sent as, and the response in the bytes that come back. A response ends where
its chunks or its length say, and otherwise with the connection; one that the connection ends too
early is incomplete.
-/
namespace InsectPortal.Wire

def crlf : String := "\r\n"

def fieldLine (name value : String) : String := name ++ ": " ++ value ++ crlf

/-- The fields that a connection needs besides those of the request. -/
def ownFields (r : Request) : List Header :=
  let length := (r.body.getD "").utf8ByteSize
  [⟨"host", r.url.authorityText, false⟩, ⟨"connection", "close", false⟩] ++
    (if r.body.isSome then [⟨"content-length", length.repr, false⟩] else [])

def target (u : Url) : String := u.pathText ++ u.queryText

def requestText (r : Request) : String :=
  let fields := (ownFields r).foldl Header.addMissing r.headers
  r.method.name ++ " " ++ target r.url ++ " HTTP/1.1" ++ crlf ++
    String.join (fields.map fun h => fieldLine h.name h.value) ++ crlf ++ r.body.getD ""

def requestBytes (r : Request) : ByteArray := (requestText r).toUTF8

def splitLine? : List UInt8 → Option (List UInt8 × List UInt8)
  | [] => none
  | b :: rest =>
    match b, rest with
    | 13, 10 :: after => some ([], after)
    | b, rest => (splitLine? rest).map fun p => (b :: p.1, p.2)

theorem splitLine?_length {bytes line after : List UInt8}
    (h : splitLine? bytes = some (line, after)) : after.length < bytes.length := by
  fun_induction splitLine? bytes generalizing line after with
  | case1 => simp at h
  | case2 after' =>
    obtain ⟨-, rfl⟩ := Prod.mk.inj (Option.some.inj h)
    simp only [List.length_cons]; omega
  | case3 b rest _ ih =>
    obtain ⟨⟨l, a⟩, hp, he⟩ := Option.map_eq_some_iff.1 h
    obtain ⟨-, rfl⟩ := Prod.mk.inj he
    have := ih hp
    simp only [List.length_cons]; omega

def charsOf (bytes : List UInt8) : List Char := bytes.map fun b => Char.ofNat b.toNat

def splitHead? (bytes : List UInt8) : Option (List (List Char) × List UInt8) :=
  match h : splitLine? bytes with
  | none => none
  | some ([], after) => some ([], after)
  | some (line, after) =>
    have : after.length < bytes.length := splitLine?_length h
    (splitHead? after).map fun p => (charsOf line :: p.1, p.2)
termination_by bytes.length

def status? (line : List Char) : Option Nat :=
  if "HTTP/1.".toList.isPrefixOf line then
    Text.decimal? (((line.dropWhile (· ≠ ' ')).drop 1).takeWhile (· ≠ ' '))
  else none

def field? (line : List Char) : Option (String × String) :=
  let name := line.takeWhile (· ≠ ':')
  if name.length < line.length then
    some (Text.lowerAscii (String.ofList name),
      Text.trim (String.ofList (line.drop (name.length + 1))))
  else none

def value? (fields : List (String × String)) (name : String) : Option String :=
  (fields.find? (·.1 = name)).map (·.2)

/-- The body in chunks, as far as it has arrived, and whether the last chunk has; at most as many
chunks as there are bytes. -/
def chunks : Nat → List UInt8 → List UInt8 × Bool
  | 0, _ => ([], false)
  | fuel + 1, bytes =>
    match splitLine? bytes with
    | none => ([], false)
    | some (line, after) =>
      match Text.ofRadix? 16 ((charsOf line).takeWhile fun c => (Text.hexDigit? c).isSome) with
      | none | some 0 => ([], true)
      | some n =>
        let (rest, isLast) := chunks fuel (after.drop (n + 2))
        (after.take n ++ rest, isLast)

inductive Framing where
  | empty
  | chunked
  | length (n : Nat)
  | connection

def framing (status : Nat) (fields : List (String × String)) : Framing :=
  if status = 204 ∨ status = 304 then .empty
  else if (value? fields "transfer-encoding").any fun v => Text.lowerAscii v = "chunked" then
    .chunked
  else
    match (value? fields "content-length").bind fun v => Text.decimal? v.toList with
    | some n => .length n
    | none => .connection

def body (bytes : List UInt8) (closed : Bool) : Framing → List UInt8 × Bool
  | .empty => ([], true)
  | .chunked => chunks bytes.length bytes
  | .length n => (bytes.take n, n ≤ bytes.length)
  | .connection => (bytes, closed)

/-- The response in the bytes that have arrived; none where more has to come. A provisional response
is skipped. -/
def response? (closed : Bool) (bytes : List UInt8) : Option Exchange :=
  match splitHead? bytes with
  | none => if closed then some .lost else none
  | some ([], _) => some .lost
  | some (first :: lines, rest) =>
    match status? first with
    | none => some .lost
    | some status =>
      if status < 200 ∧ rest.length < bytes.length then response? closed rest
      else
        let fields := lines.filterMap field?
        let (content, complete) := body rest closed (framing status fields)
        if complete || closed then
          some (.answered ⟨status, value? fields "content-type", content.toByteArray, complete⟩)
        else none
termination_by bytes.length

end InsectPortal.Wire
