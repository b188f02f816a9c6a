import OpcUa.Config.Basic
import OpcUa.Duration.Units
import OpcUa.Json.Form

/-!
The JSON form of the settings of a client.
-/

namespace OpcUa

def Duration.form : Form Duration :=
  Form.string.via Duration.unitText (fun s => (Duration.ofUnitText s).toOption)

def Config.form : Form Config :=
  ((Record.required "endpoint" .string).and <|
    (Record.defaulted "application_name" .string ({} : Config).applicationName).and <|
    (Record.skippable "session_name" .string).and <|
    (Record.defaulted "request_timeout" Duration.form ({} : Config).requestTimeout).and <|
    .defaulted "max_pending_requests" .uint64 0).form.via
    (fun c => (c.endpoint, c.applicationName, c.sessionName, c.requestTimeout, c.maxPending))
    (fun (endpoint, application, session, timeout, pending) =>
      some ⟨endpoint, application, session, timeout, pending⟩)

end OpcUa
