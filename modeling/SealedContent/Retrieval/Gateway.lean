import SealedContent.Config.Basic
import SealedContent.Retrieval.Error
import SealedContent.Record.Block
import SealedContent.Web.Exchange

/-!
Fetching archives from a gateway. A gateway is not trusted: an archive counts only if it holds the
one block that was asked for.
-/

namespace SealedContent.Retrieval

open Content (Archive BlockError Cid)
open Record (Metadata)
open Web (Reply Request Transport Url)

/-- Accepts an archive whose root and only block is the expected one, with the right content. -/
def verifyArchive (expected : Cid) (bytes : Bytes) : Except GatewayError Unit :=
  let refuse (fault : VerificationFault) : Except GatewayError Unit :=
    .error (.unverified expected fault)
  match Archive.decode bytes with
  | .error error => refuse (.archive error)
  | .ok archive =>
      if archive.root ≠ expected then refuse (.otherRoot archive.root)
      else
        match archive.blocks with
        | [block] =>
            if block.cid = expected then
              match Content.verifyBlock expected block.data with
              | .ok () => .ok ()
              | .error error => refuse (.block error)
            else refuse .noBlock
        | [] => refuse .noBlock
        | blocks => refuse (.extraBlocks blocks.length)

/-- Collects the pieces of a body, and stops as soon as they exceed the limit. -/
def collectLimited (limit : Nat) (received : Bytes) : List Bytes → Except GatewayError Bytes
  | [] => .ok received
  | chunk :: rest =>
      let size := received.length + chunk.length
      if limit < size then .error (.tooLarge size limit)
      else collectLimited limit (received ++ chunk) rest

def download (limit : Nat) (reply : Reply) : Except GatewayError Bytes :=
  match reply.declaredLength.filter fun declared => limit < declared with
  | some declared => .error (.tooLarge declared limit)
  | none =>
      match collectLimited limit [] reply.chunks with
      | .error error => .error error
      | .ok bytes => if reply.isComplete then .ok bytes else .error .http

structure Gateway where
  base : Url
  maxResponseBytes : Nat

namespace Gateway

/-- A gateway has an address of the web, a plain one only if that is allowed. -/
def ofSettings (settings : Config.Gateway) : Except GatewayError Gateway :=
  match Url.ofText? settings.url with
  | none => .error (.invalidAddress settings.url .malformed)
  | some base =>
      if base.scheme = "https".toList then .ok ⟨base, settings.maxResponseBytes⟩
      else if base.scheme = "http".toList then
        if settings.enforceTls then .error (.insecure settings.url)
        else .ok ⟨base, settings.maxResponseBytes⟩
      else
        .error (.invalidAddress settings.url (.unsupportedScheme (String.ofList base.scheme)))

/-- The address of a block: below the base, whose slashes at the end do not count. -/
def blockAddress (gateway : Gateway) (cid : Cid) : String :=
  let base := (gateway.base.write.reverse.dropWhile (· = '/')).reverse
  String.ofList base ++ s!"/ipfs/{cid.toText}?format=car"

def accept (gateway : Gateway) (expected : Cid) (reply : Reply) : Except GatewayError Bytes := do
  if ¬ reply.isSuccess then
    throw (.fetchFailed (gateway.blockAddress expected) reply.status)
  let bytes ← download gateway.maxResponseBytes reply
  verifyArchive expected bytes
  return bytes

/-- Fetches the archive of a block; the name of the block is read before anything is sent. -/
def fetch {σ : Type} (gateway : Gateway) (transport : Transport σ) (name : String) (state : σ) :
    Except GatewayError Bytes × σ :=
  match Cid.parse name with
  | .error error => (.error (.invalidCid error), state)
  | .ok expected =>
      match Url.ofText? (gateway.blockAddress expected) with
      | none => (.error .http, state)
      | some url =>
          match transport.send (Request.get url) state with
          | (none, after) => (.error .http, after)
          | (some reply, after) => (gateway.accept expected reply, after)

def fetchRecord {σ : Type} (gateway : Gateway) (transport : Transport σ) (name : String)
    (state : σ) : Except GatewayError Metadata × σ :=
  match gateway.fetch transport name state with
  | (.error error, after) => (.error error, after)
  | (.ok bytes, after) => ((Metadata.extract bytes).mapError .invalidRecord, after)

end Gateway

end SealedContent.Retrieval
