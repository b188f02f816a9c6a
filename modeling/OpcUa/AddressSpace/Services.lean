import OpcUa.AddressSpace.Attributes
import OpcUa.AddressSpace.Management
import OpcUa.Service.Message

/-!
The services of an address space: each item of a request is carried out on what the items before
it have left, and gives one result.
-/

namespace OpcUa.AddressSpace

/-- Carries out one item. -/
def perform (now : Timestamp) :
    (s : Service) → s.Item → AddressSpace → s.Result × AddressSpace
  | .read, item, space => (space.read now item, space)
  | .write, item, space => space.write now item
  | .addNodes, item, space => space.addNode now item
  | .addReferences, item, space => space.addReference item
  | .deleteNodes, item, space => space.deleteNode item
  | .deleteReferences, item, space => space.deleteReference item

/-- Carries out items one after another. -/
def performAll (now : Timestamp) (s : Service) :
    List s.Item → AddressSpace → List s.Result × AddressSpace
  | [], space => ([], space)
  | item :: rest, space =>
    let (result, space) := perform now s item space
    let (results, space) := performAll now s rest space
    (result :: results, space)

def serve (now : Timestamp) {s : Service} (request : Request s) (space : AddressSpace) :
    Response s × AddressSpace :=
  let (results, space) := performAll now s request.items space
  (⟨.answering request.header .good now, results⟩, space)

end OpcUa.AddressSpace
