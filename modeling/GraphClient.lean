import GraphClient.OrderedMap
import GraphClient.Text.Blank
import GraphClient.Text.Name
import GraphClient.Text.Quoted
import GraphClient.Text.Width
import GraphClient.Number.Layout
import GraphClient.Number.Reading
import GraphClient.Json.Writer
import GraphClient.Json.Reader
import GraphClient.Attribute.DataType
import GraphClient.Attribute.Encoding
import GraphClient.Text.Join
import GraphClient.Schema.Resolution
import GraphClient.Schema.Encoding
import GraphClient.Schema.Definition
import GraphClient.Query.Degree
import GraphClient.Config
import GraphClient.Request.Node
import GraphClient.Request.Neighbor
import GraphClient.Request.Edge
import GraphClient.Query.Compile
import GraphClient.Table.Box
import GraphClient.Table.Encoding
import GraphClient.Response.Tables
import GraphClient.Remote.Service
import GraphClient.Remote.Store
import GraphClient.Graph.Administration
import GraphClient.Graph.Counts
import GraphClient.Graph.Edges
import GraphClient.Graph.Queries
import GraphClient.Proofs.Remote.Asking
import GraphClient.Proofs.Remote.Contents
import GraphClient.Proofs.Checks
import GraphClient.Proofs.Graph.Action
import GraphClient.Proofs.Graph.Ledger
import GraphClient.Proofs.Schema.Accepted
import GraphClient.Proofs.Text.Splitting
import GraphClient.Proofs.Query.Script
import GraphClient.Proofs.Query.Patterns
import GraphClient.Proofs.Query.Requests
import GraphClient.Proofs.OrderedMap
import GraphClient.Proofs.Table.Rows
import GraphClient.Proofs.Response.Projection
import GraphClient.Proofs.Number.Numerals
import GraphClient.Proofs.Calendar.Texts
import GraphClient.Proofs.Json.Drafts
import GraphClient.Proofs.Json.Readers
import GraphClient.Proofs.Schema.Rereading
import GraphClient.Proofs.Schema.Dateless
import GraphClient.Proofs.Config
import GraphClient.Proofs.Remote.Exchanges
import GraphClient.Proofs.Graph.Validity
import GraphClient.Proofs.Graph.Outcomes
import GraphClient.Proofs.Graph.Traffic
import GraphClient.Proofs.Graph.Stored
import GraphClient.Proofs.Traversal
import GraphClient.Proofs.Json.Records
import GraphClient.Proofs.Schema.Outline
import GraphClient.Proofs.Schema.Spelling
import GraphClient.Proofs.Schema.Construction
import GraphClient.Proofs.Attribute.Literals
import GraphClient.Proofs.Query.Compiling
import GraphClient.Proofs.Graph.Sampling
import GraphClient.Proofs.Graph.Agreement
import GraphClient.Proofs.Schema.Definition
import GraphClient.Proofs.Schema.Names
import GraphClient.Proofs.Graph.Creation
import GraphClient.Proofs.Graph.References
import GraphClient.Proofs.Query.Binding
import GraphClient.Proofs.Response.Records
import GraphClient.Proofs.Response.Nodes
import GraphClient.Proofs.Response.Edges
import GraphClient.Proofs.Response.Cells
import GraphClient.Proofs.Request.Requirements
import GraphClient.Proofs.Request.Schemas
import GraphClient.Proofs.Query.Layout
import GraphClient.Proofs.Schema.Routes
import GraphClient.Proofs.Calendar.Layouts
import GraphClient.Proofs.Attribute.Encodings
import GraphClient.Proofs.Schema.Shorthands
import GraphClient.Proofs.Schema.Values
import GraphClient.Proofs.Graph.Merging
import GraphClient.Response.Identity
import GraphClient.Proofs.Response.Keys
import GraphClient.Proofs.Response.ReverseEdges
import GraphClient.Proofs.Response.PassedOver
import GraphClient.Proofs.Remote.SingleWrites
import GraphClient.Proofs.Table.Filling
