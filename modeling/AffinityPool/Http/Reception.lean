/-
Module: AffinityPool.Http.Reception
Purpose: Responses that are taken in, as answers and as connections that deliver events.
Main exports:
  Content, Content.all, Reception, Reception.ofResponse, Reception.checkRedirect, Reception.answer,
  Reception.delivered, Reception.delivered_flatten, Reception.connection
-/
import AffinityPool.EventStream.Event
import AffinityPool.Http.Address
import AffinityPool.Http.ContentCoding
import AffinityPool.Http.ContentType
import AffinityPool.Http.Reply

namespace AffinityPool.Http

/-!
Headers are ASCII.  A body that is there as a whole is decompressed at once, one
in pieces as it is read.  A response that sends the client elsewhere is not
followed, but it has to name a place that the client could go to.  Whether the
status tells of success is not asked here.
-/

/-- A body that is still to be read. -/
structure Content where
  decoders : Decoders
  pieces : List Piece

namespace Content

/-- Decompress the octets of a piece, if there are any. -/
def decompress (decoders : Decoders) (octets : List UInt8) :
    Except Fault (List UInt8 × Decoders) :=
  if octets.isEmpty then .ok ([], decoders)
  else
    match decoders.feed octets with
    | .ok result => .ok result
    | .error fault => .error (.connection fault.message)

/-- Read all pieces. -/
def readAll (decoders : Decoders) : List Piece → Except Fault (List UInt8)
  | [] => .ok []
  | piece :: rest => do
      let octets ← piece
      let (first, decoders) ← decompress decoders octets
      let others ← readAll decoders rest
      .ok (first ++ others)

/-- All octets of a body. -/
def all (content : Content) : Except Fault (List UInt8) :=
  readAll content.decoders content.pieces

end Content

/-- A response whose head is known to be sound. -/
structure Reception where
  status : Int
  headers : Headers
  content : Content

namespace Reception

/-- Take in a response. -/
def ofResponse (response : Response) : Except Fault Reception := do
  let headers ← response.headers.written.mapError .other
  let decoders := Decoders.ofHeaders headers
  let content ← match response.body with
    | .whole octets => do
        let (octets, _) ← Content.decompress decoders octets
        .ok ⟨[], [.ok octets]⟩
    | .pieces pieces => .ok ⟨decoders, pieces⟩
  .ok { status := response.status, headers := headers, content := content }

/-- Whether a response sends the client elsewhere. -/
def isRedirect (reception : Reception) : Bool :=
  [301, 302, 303, 307, 308].contains reception.status &&
    !(reception.headers.values "location").isEmpty

/-- Check that a host name can be shown. -/
def checkHost (address : Address) : Except Fault Unit :=
  match HostName.fault? address.host.toList with
  | some fault => .error (.other (.faultyHost fault))
  | none => .ok ()

/-- Check where a response sends the client, if it does so, from where it was.  An
address with a scheme and no host gets the host of the request, so that it needs a
path which can stand behind one. -/
def checkRedirect (start : Address) (reception : Reception) : Except Fault Unit :=
  if !reception.isRedirect then .ok ()
  else
    match Address.read (reception.headers.value "location") with
    | .error fault =>
        .error (.connection ("Invalid URL in location header: " ++ fault.message ++ "."))
    | .ok target => do
        checkHost target
        checkHost start
        let isBare := !target.scheme.isEmpty && target.host.isEmpty
        if isBare && !(target.path.isEmpty || target.path.startsWith "/") then
          .error (.other .unusableEndpoint)
        else .ok ()

/-- The answer that a response is as a whole. -/
def answer (reception : Reception) : Except Fault Answer := do
  let octets ← reception.content.all
  .ok ⟨reception.status, octets⟩

/-! ### Events -/

/-- The kind of content that carries events. -/
def eventContent : String := "text/event-stream"

/-- Whether a text holds another one. -/
def holds (part : List Char) : List Char → Bool
  | [] => part.isEmpty
  | c :: rest => part.isPrefixOf (c :: rest) || holds part rest

/-- How the text of a body is read: as its content type says, and as UTF-8 if
that names no character set that is known. -/
def decoderOf (contentType : String) : Except Failure Text.Decoder :=
  match ContentType.charset contentType with
  | .ok charset => .ok ((charset.bind Text.Charset.decoder?).getD (.utf8 .between))
  | .error (.longNumber digits) => .error (.tooManyDigits digits)
  | .error .mixedParts => .error .mixedParts

/-- The events of some data. -/
def eventsOf (data : List String) : List Event := data.map fun text => ⟨.ofString text⟩

/-- The events that pieces deliver to whoever reads them to the end, and how they
end.  What comes with a piece whose text is refused is not delivered. -/
def delivered (reader : EventReader) (decoders : Decoders) : List Piece → List Event × Ending
  | [] =>
      let (data, reader) := reader.finish
      match reader.refusal? with
      | some refusal => ([], .broken (.other (.unreadableText refusal)))
      | none => (eventsOf data, .clean)
  | piece :: rest =>
      match piece >>= Content.decompress decoders with
      | .error fault => ([], .broken fault)
      | .ok (octets, decoders) =>
          let (data, reader) := reader.feed octets
          match reader.refusal? with
          | some refusal => ([], .broken (.other (.unreadableText refusal)))
          | none =>
              let (events, ending) := delivered reader decoders rest
              (eventsOf data ++ events, ending)

section

variable {reader : EventReader}

/-- What is not compressed is taken as it is. -/
theorem decompress_plain (octets : List UInt8) :
    Content.decompress [] octets = .ok (octets, []) := by
  unfold Content.decompress
  split
  · rename_i empty
    rw [List.isEmpty_iff.mp empty]
  · rfl

/-- A piece in UTF-8 delivers its events in front of those of the pieces behind it. -/
theorem delivered_cons (isUtf8 : reader.IsUtf8) (octets : List UInt8) (rest : List Piece) :
    delivered reader [] (.ok octets :: rest) =
      (eventsOf (reader.feed octets).1 ++ (delivered (reader.feed octets).2 [] rest).1,
        (delivered (reader.feed octets).2 [] rest).2) := by
  have taken : (Except.ok octets : Piece) >>= Content.decompress [] = .ok (octets, []) :=
    decompress_plain octets
  rw [delivered, taken]
  simp only [(isUtf8.feed octets).refusal?_eq_none]

/-- How a body in UTF-8 is cut into pieces makes no difference to what is delivered. -/
theorem delivered_flatten (isUtf8 : reader.IsUtf8) (pieces : List (List UInt8))
    (rest : List Piece) :
    delivered reader [] (pieces.map .ok ++ rest) =
      delivered reader [] (.ok pieces.flatten :: rest) := by
  induction pieces generalizing reader with
  | nil =>
      rw [List.map_nil, List.nil_append, List.flatten_nil, delivered_cons isUtf8]
      simp [EventReader.feed_nil, eventsOf]
  | cons piece pieces ih =>
      have later := isUtf8.feed piece
      rw [List.map_cons, List.cons_append, delivered_cons isUtf8, ih later,
        delivered_cons later, List.flatten_cons, delivered_cons isUtf8,
        EventReader.feed_append]
      simp [eventsOf]

end

/-- The connection that a response is.  It delivers nothing if its content is of
another kind, or if nobody can say how to read its text. -/
def connection (reception : Reception) : Connection :=
  let contentType := reception.headers.value "content-type"
  let kind := ContentType.kind contentType.toList
  let (events, ending) :=
    if !holds eventContent.toList kind then
      let shown := Text.quoted (String.ofList kind)
      ([], .broken (.connection
        ("Expected response header Content-Type to contain 'text/event-stream', got " ++ shown)))
    else
      match decoderOf contentType with
      | .error failure => ([], .broken (.other failure))
      | .ok decoder =>
          delivered (.fresh decoder) reception.content.decoders reception.content.pieces
  ⟨reception.status, events, ending⟩

end Reception

end AffinityPool.Http
