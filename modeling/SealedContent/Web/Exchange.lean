import SealedContent.Web.Url

/-!
Requests and replies. A client sees each reply as a status, perhaps a declared length, and a body in
pieces that may break off. Replies that point elsewhere are followed.
-/

namespace SealedContent.Web

structure Request where
  method : String
  url : Url
  contentType : Option String
  body : Bytes

structure Reply where
  status : Nat
  /-- Where the reply points to. -/
  location : Option String
  declaredLength : Option Nat
  chunks : List Bytes
  /-- Whether the body ended as announced, and did not break off. -/
  isComplete : Bool

/-- The far side of requests: each may get a reply, and changes what comes after it. -/
abbrev Transport (σ : Type) := Request → σ → Option Reply × σ

namespace Reply

def isSuccess (reply : Reply) : Bool :=
  200 ≤ reply.status ∧ reply.status < 300

def body? (reply : Reply) : Option Bytes :=
  if reply.isComplete then some reply.chunks.flatten else none

end Reply

namespace Request

def get (url : Url) : Request := ⟨"GET", url, none, []⟩

/-- Some redirections ask anew without a body; others repeat the request. -/
def redirected (request : Request) (status : Nat) (url : Url) : Request :=
  if status = 307 ∨ status = 308 then { request with url := url } else get url

def line (request : Request) : String :=
  s!"{request.method} {request.url.target}"

end Request

namespace Transport

def redirectLimit : Nat := 10

def isRedirect (status : Nat) : Bool :=
  [301, 302, 303, 307, 308].contains status

/-- Where a reply asks the client to go. -/
def next? (request : Request) (reply : Reply) : Option Url :=
  if isRedirect reply.status then reply.location.bind request.url.join? else none

/-- Sends a request and follows at most `limit` redirections. -/
def follow {σ : Type} (transport : Transport σ) : Nat → Request → σ → Option Reply × σ
  | limit, request, state =>
      match transport request state with
      | (none, after) => (none, after)
      | (some reply, after) =>
          match next? request reply with
          | none => (some reply, after)
          | some url =>
              match limit with
              | 0 => (none, after)
              | left + 1 => follow transport left (request.redirected reply.status url) after

def send {σ : Type} (transport : Transport σ) (request : Request) (state : σ) :
    Option Reply × σ :=
  follow transport redirectLimit request state

end Transport

end SealedContent.Web
