import OpcUa.AddressSpace.Attributes
import OpcUa.AddressSpace.Basic
import OpcUa.AddressSpace.Management
import OpcUa.AddressSpace.Node
import OpcUa.AddressSpace.NodeTable
import OpcUa.AddressSpace.Services
import OpcUa.AddressSpace.Standard
import OpcUa.Client.Call
import OpcUa.Client.Completion
import OpcUa.Client.Dispatch
import OpcUa.Client.Journal
import OpcUa.Client.Loopback
import OpcUa.Client.Prepared
import OpcUa.Client.Script
import OpcUa.Client.Session
import OpcUa.Client.State
import OpcUa.Config.Basic
import OpcUa.Config.Form
import OpcUa.Config.Source
import OpcUa.Config.Toml
import OpcUa.Constants
import OpcUa.DataValue
import OpcUa.Duration.Basic
import OpcUa.Duration.Brief
import OpcUa.Duration.Units
import OpcUa.Failure
import OpcUa.Json.Basic
import OpcUa.Json.Catalog
import OpcUa.Json.Document
import OpcUa.Json.Form
import OpcUa.Json.Messages
import OpcUa.Json.Reader
import OpcUa.Json.Real
import OpcUa.Json.Values
import OpcUa.Json.Writer
import OpcUa.Log
import OpcUa.Names
import OpcUa.NodeClass
import OpcUa.NodeId
import OpcUa.Number.Binary
import OpcUa.Number.Literal
import OpcUa.Number.Nearest
import OpcUa.Number.Shortest
import OpcUa.Service.Items
import OpcUa.Service.Message
import OpcUa.StatusCode
import OpcUa.Text.Blank
import OpcUa.Text.Decimal
import OpcUa.Text.Hex
import OpcUa.Text.Printable
import OpcUa.Text.Quoted
import OpcUa.Timestamp.Basic
import OpcUa.Timestamp.Text
import OpcUa.Toml.Moment
import OpcUa.Toml.Number
import OpcUa.Toml.Quoted
import OpcUa.Toml.Reader
import OpcUa.Toml.Value
import OpcUa.Variant
import OpcUa.Proofs.Session.Outline
import OpcUa.Proofs.Session.Run
import OpcUa.Proofs.Session.Invocation
import OpcUa.Proofs.Session.Passes
import OpcUa.Proofs.Session.Steps
import OpcUa.Proofs.Session.Loopback
import OpcUa.Proofs.Session.ExactlyOnce
import OpcUa.Proofs.Session.Catcher
import OpcUa.Proofs.Session.Surfacing
import OpcUa.Proofs.AddressSpace.OneByOne
import OpcUa.Proofs.Session.Queue
import OpcUa.Proofs.Session.Sequential
import OpcUa.Proofs.Session.Depth
import OpcUa.Proofs.Session.Callback
import OpcUa.Proofs.Session.FailedOperations
import OpcUa.Proofs.Session.Tally
import OpcUa.Proofs.Session.Balance
import OpcUa.Proofs.Session.Pairing
import OpcUa.Proofs.Session.Lockstep
import OpcUa.Proofs.Session.Indifference
import OpcUa.Proofs.Session.OneOutcome
import OpcUa.Proofs.Session.Ledger
import OpcUa.Proofs.Session.Admission
import OpcUa.Proofs.Session.Closing
import OpcUa.Proofs.Session.SingleItem
import OpcUa.Proofs.Session.Promises
import OpcUa.Proofs.Session.KeptPromises
import OpcUa.Proofs.Session.Waiting
import OpcUa.Proofs.AddressSpace.Identifiers
import OpcUa.Proofs.AddressSpace.Outcomes
import OpcUa.Proofs.AddressSpace.Runs
import OpcUa.Proofs.AddressSpace.NodeShapes
import OpcUa.Proofs.AddressSpace.Refusals
import OpcUa.Proofs.AddressSpace.Integrity
import OpcUa.Proofs.AddressSpace.Uniqueness
import OpcUa.Proofs.AddressSpace.Subtypes
import OpcUa.Proofs.AddressSpace.ReferenceTypes
import OpcUa.Proofs.AddressSpace.Supertypes
import OpcUa.Proofs.Duration.UnitText
import OpcUa.Proofs.Toml.Documents
import OpcUa.Proofs.Config.RoundTrip
import OpcUa.Proofs.AddressSpace.Teardown
import OpcUa.Proofs.AddressSpace.BatchWrites
import OpcUa.Proofs.AddressSpace.Directions
import OpcUa.Proofs.AddressSpace.NodeKinds
import OpcUa.Proofs.AddressSpace.AssignedIds
import OpcUa.Proofs.AddressSpace.IndependentAdditions
import OpcUa.Proofs.Json.Forms
import OpcUa.Proofs.Json.Messages
import OpcUa.Proofs.StatusCode
import OpcUa.Proofs.NodeId
import OpcUa.Proofs.Toml.Keys
import OpcUa.Proofs.Config.Loading
