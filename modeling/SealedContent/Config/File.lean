import SealedContent.Bytes.Basic
import SealedContent.Config.Basic
import SealedContent.Toml.Document
import SealedContent.Toml.Writer

/-!
Settings as a TOML file. Absent settings have standard values and unknown ones are ignored; a
section may be written as a table or as the list of its values in order.
-/

namespace SealedContent.Config

open Cipher (CipherAlgorithm)
open Toml (Value WrittenSection Scalar)

def sectionValues? (names : List String) : Value → Option (List (Option Value))
  | .table fields => some (names.map fun name => fields.lookup name)
  | .array items => some (names.zipIdx.map fun (_, index) => items[index]?)
  | _ => none

def text? : Value → Option String
  | .string text => some text
  | _ => none

def flag? : Value → Option Bool
  | .boolean value => some value
  | _ => none

def natural? : Value → Option Nat
  | .integer value => if 0 ≤ value then some value.toNat else none
  | _ => none

/-- A cipher is named by a string, or by the only key of a table whose value is empty. -/
def cipher? : Value → Option CipherAlgorithm
  | .string name => CipherAlgorithm.ofName? name
  | .table [(name, .table [])] => CipherAlgorithm.ofName? name
  | .table [(name, .array [])] => CipherAlgorithm.ofName? name
  | _ => none

def given? {α : Type} (read : Value → Option α) (standard : α) : Option Value → Option α
  | none => some standard
  | some value => read value

def optional? : Option Value → Option (Option String)
  | none => some none
  | some value => (text? value).map some

def logging? (standard : Logging) (value : Value) : Option Logging := do
  match ← sectionValues? ["level", "format"] value with
  | [level, format] =>
      return ⟨← given? text? standard.level level, ← given? text? standard.format format⟩
  | _ => none

def gateway? (standard : Gateway) (value : Value) : Option Gateway := do
  match ← sectionValues? ["url", "enforce_tls", "timeout_secs", "max_response_bytes"] value with
  | [url, tls, timeout, limit] =>
      return ⟨← given? text? standard.url url, ← given? flag? standard.enforceTls tls,
        ← given? natural? standard.timeoutSeconds timeout,
        ← given? natural? standard.maxResponseBytes limit⟩
  | _ => none

def keyService? (standard : KeyService) (value : Value) : Option KeyService := do
  match ← sectionValues? ["url", "service_did", "allow_insecure_http", "timeout_secs"] value with
  | [url, did, insecure, timeout] =>
      return ⟨← given? text? standard.url url, ← given? text? standard.serviceDid did,
        ← given? flag? standard.allowInsecureHttp insecure,
        ← given? natural? standard.timeoutSeconds timeout⟩
  | _ => none

def encryption? (standard : Encryption) (value : Value) : Option Encryption := do
  match ← sectionValues? ["cipher", "chunk_size"] value with
  | [cipher, size] =>
      return ⟨← given? cipher? standard.cipher cipher, ← given? natural? standard.chunkSize size⟩
  | _ => none

def identity? (_ : Identity) (value : Value) : Option Identity := do
  match ← sectionValues? ["issuer_did", "signing_key_file", "space_did", "proof_file"] value with
  | [issuer, key, space, proof] =>
      return ⟨← optional? issuer, ← optional? key, ← optional? space, ← optional? proof⟩
  | _ => none

def section? {α : Type} (read : α → Value → Option α) (standard : α) (name : String)
    (fields : List (String × Value)) : Option α :=
  given? (read standard) standard (fields.lookup name)

namespace Settings

def ofFields? (fields : List (String × Value)) : Option Settings := do
  return ⟨← section? logging? standard.logging "logging" fields,
    ← section? gateway? standard.gateway "gateway" fields,
    ← section? keyService? standard.keyService "kms" fields,
    ← section? encryption? standard.encryption "crypto" fields,
    ← section? identity? standard.identity "identity" fields⟩

def ofText (text : String) : Except ConfigError Settings :=
  match (Toml.read? text).bind ofFields? with
  | none => .error .malformed
  | some settings =>
      match settings.validate with
      | .error fault => .error fault
      | .ok () => .ok settings

def optionalField (name : String) (value : Option String) : List (String × Scalar) :=
  value.toList.map fun text => (name, .string text)

def sections (settings : Settings) : List WrittenSection :=
  [⟨"logging", [("level", .string settings.logging.level),
      ("format", .string settings.logging.format)]⟩,
    ⟨"gateway", [("url", .string settings.gateway.url),
      ("enforce_tls", .boolean settings.gateway.enforceTls),
      ("timeout_secs", .natural settings.gateway.timeoutSeconds),
      ("max_response_bytes", .natural settings.gateway.maxResponseBytes)]⟩,
    ⟨"kms", [("url", .string settings.keyService.url),
      ("service_did", .string settings.keyService.serviceDid),
      ("allow_insecure_http", .boolean settings.keyService.allowInsecureHttp),
      ("timeout_secs", .natural settings.keyService.timeoutSeconds)]⟩,
    ⟨"crypto", [("cipher", .string settings.encryption.cipher.name),
      ("chunk_size", .natural settings.encryption.chunkSize)]⟩,
    ⟨"identity", optionalField "issuer_did" settings.identity.issuerDid ++
      optionalField "signing_key_file" settings.identity.signingKeyFile ++
      optionalField "space_did" settings.identity.spaceDid ++
      optionalField "proof_file" settings.identity.proofFile⟩]

def toText (settings : Settings) : String :=
  Toml.writeDocument settings.sections

inductive Source where
  | missing
  | directory
  | file (content : Bytes)

def load : Source → Except ConfigError Settings
  | .missing => .ok standard
  | .directory => .error .unreadable
  | .file content =>
      match content.toText? with
      | none => .error .unreadable
      | some text => ofText text

end Settings

end SealedContent.Config
