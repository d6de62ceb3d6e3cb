import DeviceManagement.Address
import DeviceManagement.Alert
import DeviceManagement.Catalog
import DeviceManagement.Client
import DeviceManagement.Command.Basic
import DeviceManagement.Command.Kind
import DeviceManagement.Command.Queue
import DeviceManagement.Decimal.Double
import DeviceManagement.Decimal.Shortest
import DeviceManagement.Event
import DeviceManagement.Fault
import DeviceManagement.Json.Form
import DeviceManagement.Json.Printer
import DeviceManagement.Json.Token
import DeviceManagement.Json.Value
import DeviceManagement.ManagedObject.Basic
import DeviceManagement.ManagedObject.Memory
import DeviceManagement.ManagedType.Basic
import DeviceManagement.ManagedType.Inspection
import DeviceManagement.Network
import DeviceManagement.NodePath
import DeviceManagement.Package.Initiation
import DeviceManagement.Package.Request
import DeviceManagement.Package.Response
import DeviceManagement.Schema.Basic
import DeviceManagement.Schema.Description
import DeviceManagement.Session.Basic
import DeviceManagement.Session.Phase
import DeviceManagement.Settings
import DeviceManagement.Text.Base64
import DeviceManagement.Text.Blank
import DeviceManagement.Text.Cut
import DeviceManagement.Text.File
import DeviceManagement.Text.Quoted
import DeviceManagement.Text.Unprintable
import DeviceManagement.Text.Unsigned
import DeviceManagement.Text.Utf8
import DeviceManagement.Xml.Document
import DeviceManagement.Xml.Name
import DeviceManagement.Xml.Node
import DeviceManagement.Xml.Reference
import DeviceManagement.Xml.Token
import DeviceManagement.Xml.Tree
import DeviceManagement.Proofs.Execution
import DeviceManagement.Proofs.Entries
import DeviceManagement.Proofs.Exchange
import DeviceManagement.Proofs.Reachable
import DeviceManagement.Proofs.SessionRun
import DeviceManagement.Proofs.Isolation
import DeviceManagement.Proofs.Positions
import DeviceManagement.Proofs.Likeness
import DeviceManagement.Proofs.Redaction
import DeviceManagement.Proofs.SideBySide
import DeviceManagement.Proofs.Disclosure
import DeviceManagement.Proofs.Numbering
import DeviceManagement.Proofs.Inventory
import DeviceManagement.Proofs.Transcoding
import DeviceManagement.Proofs.Delivery
import DeviceManagement.Proofs.Contents
import DeviceManagement.Proofs.Descriptions
import DeviceManagement.Proofs.Serialization
import DeviceManagement.Proofs.Addressing
import DeviceManagement.Proofs.Spelling
import DeviceManagement.Proofs.Retries
import DeviceManagement.Proofs.Reception
import DeviceManagement.Proofs.Reports
import DeviceManagement.Proofs.Dumps
import DeviceManagement.Proofs.Places
import DeviceManagement.Proofs.Siblings
import DeviceManagement.Proofs.Growth
import DeviceManagement.Proofs.Ingestion
import DeviceManagement.Proofs.Recovery
import DeviceManagement.Proofs.Numerals
import DeviceManagement.Proofs.Scanning
import DeviceManagement.Proofs.Printing
import DeviceManagement.Proofs.Packages
import DeviceManagement.Proofs.Grammar
import DeviceManagement.Proofs.Routing
import DeviceManagement.Proofs.Segments
import DeviceManagement.Proofs.Loading
import DeviceManagement.Proofs.Attachment
