import SealedContent.Custody.Invocation
import SealedContent.Custody.Receipt
import SealedContent.Web.Exchange
import SealedContent.Web.Status

/-!
Where a key service is reached, and how an invocation travels to it and its receipt back.
-/

namespace SealedContent.Custody

open Json (Value)
open Web (Reply Request Transport Url)

/-- The far side of invocations: answers each with a value or an error, and may change. -/
abbrev Peer (σ : Type) := SignedInvocation → σ → Except CustodyError Value × σ

namespace Endpoint

/-- An address of the secure web; of the plain web only if that is allowed. -/
def ofText (text : String) (allowPlain : Bool) : Except CustodyError Url :=
  match Url.ofText? text with
  | none => .error (.invalidUrl text)
  | some url =>
      if url.scheme = "https".toList ∨ (url.scheme = "http".toList ∧ allowPlain) then .ok url
      else .error (.httpsRequired text)

def request (endpoint : Url) (signed : SignedInvocation) : Request :=
  ⟨"POST", endpoint, some "application/json", Bytes.ofText signed.toText⟩

/-- A receipt counts whatever the status; without one, the status decides on the error. -/
def readReply (reply : Reply) : Except CustodyError Value :=
  match reply.body? with
  | none => .error .http
  | some body =>
      match (Bytes.toText? body).bind Receipt.ofText? with
      | some receipt => receipt.result
      | none =>
          if reply.isSuccess then .error (.invalidResponse .receipt)
          else
            .error (.remote "HTTPError"
              s!"key-custody service returned HTTP {Web.Status.describe reply.status}")

def peer {σ : Type} (endpoint : Url) (transport : Transport σ) : Peer σ :=
  fun signed state =>
    match transport.send (request endpoint signed) state with
    | (none, after) => (.error .http, after)
    | (some reply, after) => (readReply reply, after)

end Endpoint

end SealedContent.Custody
