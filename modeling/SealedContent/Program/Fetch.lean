import SealedContent.Json.Pretty
import SealedContent.Program.Action
import SealedContent.Record.View
import SealedContent.Retrieval.Gateway

/-!
Metadata records from the gateway that the settings name.
-/

namespace SealedContent.Program.Action

open Config (Settings)
open Record (Metadata)
open Retrieval (Gateway)

variable {σ : Type}

def fetchRecord (surroundings : Surroundings σ) (settings : Settings) (name : String) :
    Action σ Metadata := do
  let gateway ← during "configuring gateway"
    (ofResult Trouble.ofGateway (Gateway.ofSettings settings.gateway))
  during s!"fetching metadata {name}"
    (exchange Trouble.ofGateway (gateway.fetchRecord surroundings.transport name))

def fetch (surroundings : Surroundings σ) (settings : Settings) (name : String) :
    Action σ String := do
  let record ← fetchRecord surroundings settings name
  return record.view.renderPretty ++ "\n"

end SealedContent.Program.Action
