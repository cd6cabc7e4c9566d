import PagePatch.Change.Operation
import PagePatch.Change.Target
import PagePatch.Document.Basic
import PagePatch.Document.Recorder
import PagePatch.Domain.Composition
import PagePatch.Domain.Direction
import PagePatch.Domain.Joining
import PagePatch.Domain.Mapping
import PagePatch.Domain.MappingTable
import PagePatch.Domain.Mark
import PagePatch.Domain.Name
import PagePatch.Domain.Punycode
import PagePatch.Engine.Basic
import PagePatch.Engine.Builder
import PagePatch.Engine.Chain
import PagePatch.Engine.Config
import PagePatch.Engine.Process
import PagePatch.Engine.ResponseState
import PagePatch.Engine.Timeline
import PagePatch.Error
import PagePatch.Event
import PagePatch.Html.Address
import PagePatch.Html.Builder
import PagePatch.Html.Category
import PagePatch.Html.Foreign
import PagePatch.Html.Formatting
import PagePatch.Html.Legacy
import PagePatch.Html.Lexer
import PagePatch.Html.Lexer.Char
import PagePatch.Html.Lexer.Declaration
import PagePatch.Html.Lexer.Tag
import PagePatch.Html.Node
import PagePatch.Html.Parse
import PagePatch.Html.Reference
import PagePatch.Html.ReferenceNames
import PagePatch.Html.Rules.Body
import PagePatch.Html.Rules.Foreign
import PagePatch.Html.Rules.Head
import PagePatch.Html.Rules.Page
import PagePatch.Html.Rules.Select
import PagePatch.Html.Rules.Table
import PagePatch.Html.Script
import PagePatch.Html.Section
import PagePatch.Html.Store
import PagePatch.Html.Token
import PagePatch.Html.Write
import PagePatch.Listener
import PagePatch.Page.Basic
import PagePatch.Page.CommandHost
import PagePatch.Page.Document
import PagePatch.Patch.Apply
import PagePatch.Patch.Outcome
import PagePatch.Payload.Document
import PagePatch.Payload.Fault
import PagePatch.Payload.Parse
import PagePatch.Payload.Regions
import PagePatch.Queue
import PagePatch.Request.Basic
import PagePatch.Request.Ids
import PagePatch.RequestId
import PagePatch.Text.Blank
import PagePatch.Text.CodeTable
import PagePatch.Text.Percent
import PagePatch.Text.Search
import PagePatch.Transport.Exchange
import PagePatch.Transport.Handle
import PagePatch.Transport.Signal
import PagePatch.Url.Basic
import PagePatch.Url.Encoding
import PagePatch.Url.Host
import PagePatch.Url.Parse
import PagePatch.Url.Segments
import PagePatch.Xml.Attribute
import PagePatch.Xml.Error
import PagePatch.Xml.Markup
import PagePatch.Xml.Reference
import PagePatch.Xml.Scan
import PagePatch.Xml.Tree
import PagePatch.Proofs.Document.Told
import PagePatch.Proofs.Engine.Response
import PagePatch.Proofs.Queue.Conservation
import PagePatch.Proofs.Transport.Course
import PagePatch.Proofs.Engine.Turn
import PagePatch.Proofs.Engine.Flight
import PagePatch.Proofs.Engine.Narration
import PagePatch.Proofs.Engine.Token
import PagePatch.Proofs.Engine.Queueing
import PagePatch.Proofs.Engine.Debounce
import PagePatch.Proofs.Engine.Sending
import PagePatch.Proofs.Queue.Run
import PagePatch.Proofs.Queue.Ledger
import PagePatch.Proofs.Queue.Order
import PagePatch.Proofs.Queue.Bound
import PagePatch.Proofs.Queue.Deferral
import PagePatch.Proofs.Payload.Failure
import PagePatch.Proofs.Html.Section
import PagePatch.Proofs.Patch.Root
import PagePatch.Proofs.Patch.Sequence
import PagePatch.Proofs.Patch.Tokens
import PagePatch.Proofs.Patch.Transcript
import PagePatch.Proofs.Transport.Stages
import PagePatch.Proofs.Transport.Stream
import PagePatch.Proofs.Transport.Muted
import PagePatch.Proofs.Listener.Calls
import PagePatch.Proofs.Html.Edit
import PagePatch.Proofs.Page.Region
import PagePatch.Proofs.Html.Order
import PagePatch.Proofs.Page.Index
import PagePatch.Proofs.Patch.Absent
import PagePatch.Proofs.Xml.Tag
import PagePatch.Proofs.Xml.CharacterData
import PagePatch.Proofs.Xml.Content
import PagePatch.Proofs.Payload.Sense
import PagePatch.Proofs.Payload.Wire
import PagePatch.Proofs.Payload.Encoded
import PagePatch.Proofs.Html.Decode
import PagePatch.Proofs.Html.Growth
import PagePatch.Proofs.Html.Flow
import PagePatch.Proofs.Html.Distinct
import PagePatch.Proofs.Payload.Unwrapped
import PagePatch.Proofs.Html.First
import PagePatch.Proofs.Patch.Alone
import PagePatch.Proofs.Page.Removal
import PagePatch.Proofs.Page.Update
import PagePatch.Proofs.Page.Repetition
import PagePatch.Proofs.Page.Settings
import PagePatch.Proofs.Payload.Settings
import PagePatch.Proofs.Html.Context
import PagePatch.Proofs.Page.Surgery
import PagePatch.Proofs.Html.Extraction
import PagePatch.Proofs.Xml.Rewriting
import PagePatch.Proofs.Engine.Evidence
import PagePatch.Proofs.Change.Target
import PagePatch.Proofs.Text.Percent
import PagePatch.Proofs.Request.Body
import PagePatch.Proofs.Request.Ids
