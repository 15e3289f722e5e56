import RunWatch.Json.Tree
import RunWatch.Text.Blank
import RunWatch.Text.Utf8

/-!
# Bodies of failed answers

What a failed answer of a server says in a few words.
-/

namespace RunWatch.Http

open Json

/-- The members that may hold the reason, in the order in which they are tried. -/
def reasonKeys : List String := ["error", "message", "detail"]

/-- What a member gives: its own text unless that is blank, or the text of its `message`. -/
def reasonText? : Value → Option String
  | .text s => if Text.blank s then none else some (Text.trim s)
  | v => ((v.get? "message").bind Value.text?).map Text.trim

/-- The reason that a JSON body gives. -/
def reason? (body : Value) : Option String :=
  reasonKeys.findSome? fun key => (body.get? key).bind reasonText?

/-- Only a body of at most this many bytes is shown as it is. -/
def longestReason : Nat := 512

/-- What a failed answer says: the reason that its JSON body gives, or a short body as it is, or
just the status. -/
def failureText (status : Nat) (body : String) : String :=
  let fallback := s!"HTTP {status}"
  match Value.ofString? body with
  | some v => (reason? v).getD fallback
  | none =>
    if !Text.blank body && (Text.Utf8.encode body).length ≤ longestReason then Text.trim body
    else fallback

end RunWatch.Http
