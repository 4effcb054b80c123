import DocMapper.Action
import DocMapper.Calendar.Date
import DocMapper.Calendar.Input
import DocMapper.Calendar.Iso
import DocMapper.Calendar.Timestamp
import DocMapper.Call
import DocMapper.Call.Catalog
import DocMapper.Call.Fault
import DocMapper.Call.LogBook
import DocMapper.Call.Query
import DocMapper.Data.Dict
import DocMapper.Data.Key
import DocMapper.Data.Ref
import DocMapper.Data.RefReading
import DocMapper.Document.PageRequest
import DocMapper.Document.Stored
import DocMapper.Execution.Exchange
import DocMapper.Execution.Executor
import DocMapper.Execution.Memory
import DocMapper.Execution.Remote
import DocMapper.Execution.Scripted
import DocMapper.Fault
import DocMapper.Http.Address
import DocMapper.Http.Client
import DocMapper.Http.Content
import DocMapper.Http.Deflated
import DocMapper.Http.Domain
import DocMapper.Http.DomainTable
import DocMapper.Http.Header
import DocMapper.Http.Host
import DocMapper.Http.Punycode
import DocMapper.Http.Reason
import DocMapper.Http.Reply
import DocMapper.Index.Catalog
import DocMapper.Index.Definition
import DocMapper.Log
import DocMapper.Log.Console
import DocMapper.Model
import DocMapper.Model.Operations
import DocMapper.Model.Queries
import DocMapper.Number.Binary64
import DocMapper.Number.Reading
import DocMapper.Number.Shortest
import DocMapper.Number.Spelling
import DocMapper.Path
import DocMapper.Path.Recording
import DocMapper.Proofs.Calendar.InputText
import DocMapper.Proofs.Calendar.IsoText
import DocMapper.Proofs.Calendar.Ordinal
import DocMapper.Proofs.Data.Assigning
import DocMapper.Proofs.Data.Distinct
import DocMapper.Proofs.Data.Outcome
import DocMapper.Proofs.Data.RefReading
import DocMapper.Proofs.Execution.Courses
import DocMapper.Proofs.Execution.Keeping
import DocMapper.Proofs.Execution.Modes
import DocMapper.Proofs.Execution.Noting
import DocMapper.Proofs.Execution.Performing
import DocMapper.Proofs.Execution.Running
import DocMapper.Proofs.Http.Failing
import DocMapper.Proofs.Log.History
import DocMapper.Proofs.Model.Acts
import DocMapper.Proofs.Model.Asking
import DocMapper.Proofs.Model.Assigning
import DocMapper.Proofs.Model.Batches
import DocMapper.Proofs.Model.Edits
import DocMapper.Proofs.Model.Handles
import DocMapper.Proofs.Model.Identity
import DocMapper.Proofs.Model.IndependentUpdates
import DocMapper.Proofs.Model.IndexLookups
import DocMapper.Proofs.Model.IndexNames
import DocMapper.Proofs.Model.IndexPaths
import DocMapper.Proofs.Model.KeyedStore
import DocMapper.Proofs.Model.Listing
import DocMapper.Proofs.Model.ManyReads
import DocMapper.Proofs.Model.OneByOne
import DocMapper.Proofs.Model.Operations
import DocMapper.Proofs.Model.OwnDocuments
import DocMapper.Proofs.Model.Paging
import DocMapper.Proofs.Model.ReadingBack
import DocMapper.Proofs.Model.Repeatable
import DocMapper.Proofs.Model.Replies
import DocMapper.Proofs.Model.Revising
import DocMapper.Proofs.Model.Runs
import DocMapper.Proofs.Model.Serializing
import DocMapper.Proofs.Model.SingleDocument
import DocMapper.Proofs.Model.StaleUpdates
import DocMapper.Proofs.Model.UniqueRuns
import DocMapper.Proofs.Model.Updates
import DocMapper.Proofs.Model.Updating
import DocMapper.Proofs.Model.ValidRuns
import DocMapper.Proofs.Number.Magnitude
import DocMapper.Proofs.Number.Written
import DocMapper.Proofs.Path.Notations
import DocMapper.Proofs.Query.Assigning
import DocMapper.Proofs.Query.Effects
import DocMapper.Proofs.Query.Hashing
import DocMapper.Proofs.Query.Keeping
import DocMapper.Proofs.Query.Paged
import DocMapper.Proofs.Query.Sendable
import DocMapper.Proofs.Query.Yields
import DocMapper.Proofs.Relation.Registering
import DocMapper.Proofs.Relation.Stopping
import DocMapper.Proofs.Schema.AnyTime
import DocMapper.Proofs.Schema.Building
import DocMapper.Proofs.Schema.Checking
import DocMapper.Proofs.Schema.Dated
import DocMapper.Proofs.Schema.Direct
import DocMapper.Proofs.Schema.Elements
import DocMapper.Proofs.Schema.Fits
import DocMapper.Proofs.Schema.Instances
import DocMapper.Proofs.Schema.Limits
import DocMapper.Proofs.Schema.Paths
import DocMapper.Proofs.Schema.Readable
import DocMapper.Proofs.Schema.Rebuilding
import DocMapper.Proofs.Schema.Revising
import DocMapper.Proofs.Schema.RoundTrip
import DocMapper.Proofs.Schema.Storing
import DocMapper.Proofs.Schema.Surviving
import DocMapper.Proofs.Schema.Unfolding
import DocMapper.Proofs.Schema.WellNamed
import DocMapper.Proofs.Session.Asking
import DocMapper.Proofs.Session.Histories
import DocMapper.Proofs.Setup.Completing
import DocMapper.Proofs.Setup.IndexLayouts
import DocMapper.Proofs.Setup.Needs
import DocMapper.Proofs.Setup.Provisioning
import DocMapper.Proofs.Setup.Submitting
import DocMapper.Proofs.Store.AnyQuery
import DocMapper.Proofs.Store.Changes
import DocMapper.Proofs.Store.Filed
import DocMapper.Proofs.Store.Keyed
import DocMapper.Proofs.Store.Lookups
import DocMapper.Proofs.Store.Moves
import DocMapper.Proofs.Store.UniqueIndexes
import DocMapper.Proofs.Text.Base64
import DocMapper.Proofs.Text.JsonStrings
import DocMapper.Proofs.Value.Dumping
import DocMapper.Proofs.Value.Independent
import DocMapper.Proofs.Value.Likeness
import DocMapper.Proofs.Value.Merging
import DocMapper.Proofs.Value.Nulls
import DocMapper.Proofs.Value.Ordering
import DocMapper.Proofs.Value.Patching
import DocMapper.Proofs.Value.Plain
import DocMapper.Proofs.Value.Rereading
import DocMapper.Proofs.Value.Sameness
import DocMapper.Proofs.Value.Sorting
import DocMapper.Proofs.Value.StoredForm
import DocMapper.Proofs.Value.WellKeyed
import DocMapper.Proofs.Wire.Decoding
import DocMapper.Proofs.Wire.JsonData
import DocMapper.Proofs.Wire.RoundTrip
import DocMapper.Proofs.Wire.Terms
import DocMapper.Proofs.Wire.Trees
import DocMapper.Proofs.Wire.Unambiguous
import DocMapper.Proofs.Wire.Written
import DocMapper.Proofs.Wire.WrittenAlike
import DocMapper.Query.Builders
import DocMapper.Relation.Catalog
import DocMapper.Relation.Registry
import DocMapper.Schema
import DocMapper.Schema.Describe
import DocMapper.Schema.Flaw
import DocMapper.Schema.Limits
import DocMapper.Schema.Parse
import DocMapper.Schema.Path
import DocMapper.Schema.Scalar
import DocMapper.Schema.Validate
import DocMapper.Session
import DocMapper.Session.Operations
import DocMapper.Session.Requests
import DocMapper.Settings
import DocMapper.Setup
import DocMapper.Store
import DocMapper.Store.Evaluate
import DocMapper.Store.Lookup
import DocMapper.Store.Snapshot
import DocMapper.Store.Write
import DocMapper.Text.Base64
import DocMapper.Text.Blank
import DocMapper.Text.Case
import DocMapper.Text.CaseTable
import DocMapper.Text.Encoding
import DocMapper.Text.Printable
import DocMapper.Text.Quoted
import DocMapper.Value
import DocMapper.Value.Coerce
import DocMapper.Value.Decode
import DocMapper.Value.Display
import DocMapper.Value.Dump
import DocMapper.Value.Equality
import DocMapper.Value.Merge
import DocMapper.Value.Order
import DocMapper.Value.Sorting
import DocMapper.Value.Subscript
import DocMapper.Wire
import DocMapper.Wire.Reading
import DocMapper.Wire.Sending
