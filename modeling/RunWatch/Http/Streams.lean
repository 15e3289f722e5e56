import RunWatch.Http.Exchange
import RunWatch.Stream.Reader
import RunWatch.Stream.Request

/-!
# Streams over HTTP

Opening a stream, and the items of its body.
-/

namespace RunWatch.Http

/-- The media type of event streams. -/
def eventStream : String := "text/event-stream"

def openRequest (c : Config) (r : StreamRequest) : Request :=
  { request c .post c.streamUrl with accept := eventStream, body := some r.toValue }

/-- A header that can be read as text. -/
def isPlainText (s : String) : Bool :=
  s.toList.all fun c => c == '\t' || (0x20 ≤ c.toNat && c.toNat < 0x7F)

/-- A content type that is plainly something else than an event stream. -/
def isOtherType (contentType : String) : Bool :=
  isPlainText contentType && !Text.occursIn eventStream.toList contentType.toList

/-- The response whose body is the stream, if a stream was opened. -/
def readOpening : Reply → Except StreamFailure Response
  | .error reason => .error (.connect reason)
  | .ok response =>
    if response.isSuccess = false then .error (.rejected response.status response.failure)
    else match response.contentType.filter isOtherType with
      | some contentType => .error (.protocol ("expected an event stream, got " ++ contentType))
      | none => .ok response

/-- A reader to which the body has come, as far as it has arrived. -/
def Response.reader (r : Response) : Reader :=
  let reader := ({} : Reader).receive { item := .chunk r.body }
  if r.complete then reader.finish
  else reader.receive { item := .failure (.read Response.brokenOff) }

end RunWatch.Http
