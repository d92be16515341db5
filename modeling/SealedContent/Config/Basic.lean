import SealedContent.Cipher.Algorithm

/-!
Settings: which cipher and gateway and key service are used, and on whose behalf.
-/

namespace SealedContent.Config

open Cipher (CipherAlgorithm)

structure Logging where
  level : String
  format : String
deriving DecidableEq

structure Gateway where
  url : String
  enforceTls : Bool
  timeoutSeconds : Nat
  maxResponseBytes : Nat
deriving DecidableEq

structure KeyService where
  url : String
  serviceDid : String
  allowInsecureHttp : Bool
  timeoutSeconds : Nat
deriving DecidableEq

structure Encryption where
  cipher : CipherAlgorithm
  chunkSize : Nat
deriving DecidableEq

structure Identity where
  issuerDid : Option String
  signingKeyFile : Option String
  spaceDid : Option String
  proofFile : Option String
deriving DecidableEq

structure Settings where
  logging : Logging
  gateway : Gateway
  keyService : KeyService
  encryption : Encryption
  identity : Identity
deriving DecidableEq

namespace Settings

def standard : Settings where
  logging := ⟨"info", "text"⟩
  gateway := ⟨"https://w3s.link", false, 30, 4194304⟩
  keyService := ⟨"https://localhost:8443", "did:web:localhost", false, 30⟩
  encryption := ⟨CipherAlgorithm.standard, 65536⟩
  identity := ⟨none, none, none, none⟩

end Settings

inductive ConfigError where
  | unreadable
  | malformed
  | chunkSizeZero
  | responseLimitZero
  | unknownLogFormat (name : String)
  | serviceNotDid (text : String)
deriving DecidableEq

def ConfigError.message : ConfigError → String
  | .unreadable => "I/O error: *"
  | .malformed => "config parse error: *"
  | .chunkSizeZero => "config error: crypto.chunk_size must be > 0"
  | .responseLimitZero => "config error: gateway.max_response_bytes must be > 0"
  | .unknownLogFormat name => s!"unknown log format: {name}"
  | .serviceNotDid text => s!"config error: kms.service_did is not a DID: {text}"

def Settings.validate (settings : Settings) : Except ConfigError Unit :=
  if settings.encryption.chunkSize = 0 then .error .chunkSizeZero
  else if settings.gateway.maxResponseBytes = 0 then .error .responseLimitZero
  else if settings.logging.format ≠ "json" ∧ settings.logging.format ≠ "text" then
    .error (.unknownLogFormat settings.logging.format)
  else if ¬ settings.keyService.serviceDid.startsWith "did:" then
    .error (.serviceNotDid settings.keyService.serviceDid)
  else .ok ()

end SealedContent.Config
