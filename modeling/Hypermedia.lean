import Hypermedia.Accessor.Basic
import Hypermedia.Accessor.Chain
import Hypermedia.Accessor.Table
import Hypermedia.Batch
import Hypermedia.Collection
import Hypermedia.CommandLine.Arguments
import Hypermedia.CommandLine.Run
import Hypermedia.Configuration
import Hypermedia.Entity.Basic
import Hypermedia.Entity.Descriptor
import Hypermedia.Entity.Document
import Hypermedia.Entity.Identity
import Hypermedia.Entity.TypeInfo
import Hypermedia.Exchange
import Hypermedia.Failure
import Hypermedia.Family.Content
import Hypermedia.Family.Item
import Hypermedia.Family.Person
import Hypermedia.Family.Schema
import Hypermedia.Family.Widget
import Hypermedia.Href
import Hypermedia.Json.Alike
import Hypermedia.Json.Basic
import Hypermedia.Json.Decode
import Hypermedia.Json.Print
import Hypermedia.Json.Read
import Hypermedia.Json.Token
import Hypermedia.Json.Tree
import Hypermedia.Link
import Hypermedia.LogFilter
import Hypermedia.LogFilter.Pattern.Basic
import Hypermedia.LogFilter.Pattern.Check
import Hypermedia.LogFilter.Pattern.Class
import Hypermedia.LogFilter.Pattern.Group
import Hypermedia.Main
import Hypermedia.Measurement
import Hypermedia.Number.Double
import Hypermedia.Number.Shortest
import Hypermedia.Proofs.Accessor.Chain
import Hypermedia.Proofs.Accessor.Table
import Hypermedia.Proofs.Backoff
import Hypermedia.Proofs.Retry
import Hypermedia.Proofs.Action
import Hypermedia.Proofs.Proxy.Address
import Hypermedia.Proofs.Proxy.Calls
import Hypermedia.Proofs.Proxy.FetchOnce
import Hypermedia.Proofs.Repository.Conservation
import Hypermedia.Proofs.Repository.LostUpdate
import Hypermedia.Proofs.Repository.Recovery
import Hypermedia.Proofs.Service
import Hypermedia.Proxy.Access
import Hypermedia.Proxy.Basic
import Hypermedia.Proxy.Creation
import Hypermedia.Proxy.Handler
import Hypermedia.Proxy.Outline
import Hypermedia.Proxy.Property
import Hypermedia.RelationName
import Hypermedia.Repository.Basic
import Hypermedia.Repository.Buffer
import Hypermedia.Resource
import Hypermedia.Retry
import Hypermedia.Script
import Hypermedia.ServerFault
import Hypermedia.Service.Basic
import Hypermedia.Service.Resources
import Hypermedia.Settings.Basic
import Hypermedia.Settings.Check
import Hypermedia.Settings.Load
import Hypermedia.Status
import Hypermedia.Text.Alphanumeric
import Hypermedia.Text.Blank
import Hypermedia.Text.Cased
import Hypermedia.Text.CharMap
import Hypermedia.Text.CharSet
import Hypermedia.Text.Composition
import Hypermedia.Text.Digit
import Hypermedia.Text.Hidden
import Hypermedia.Text.LowerCase
import Hypermedia.Text.Mark
import Hypermedia.Text.Outline
import Hypermedia.Text.Quoted
import Hypermedia.Text.Split
import Hypermedia.Toml.Basic
import Hypermedia.Toml.Quoted
import Hypermedia.Toml.Read
import Hypermedia.Toml.Statement
import Hypermedia.Toml.Table
import Hypermedia.Toml.Word
import Hypermedia.Uri.Basic
import Hypermedia.Uri.Credentials
import Hypermedia.Uri.Domain.Basic
import Hypermedia.Uri.Domain.Direction
import Hypermedia.Uri.Domain.Encoded
import Hypermedia.Uri.Domain.Joining
import Hypermedia.Uri.Domain.Spelling
import Hypermedia.Uri.Edit
import Hypermedia.Uri.Form
import Hypermedia.Uri.Host.Basic
import Hypermedia.Uri.Host.Read
import Hypermedia.Uri.Parse
import Hypermedia.Uri.Path
import Hypermedia.Uri.Percent
import Hypermedia.Proofs.Proxy.MissingLink
import Hypermedia.Proofs.Reading
import Hypermedia.Proofs.Repository.FailedFlush
import Hypermedia.Proofs.Proxy.Accesses
import Hypermedia.Proofs.Proxy.TypedAccess
import Hypermedia.Proofs.Proxy.OneAddress
import Hypermedia.Proofs.Text.Ascii
import Hypermedia.Proofs.Text.Distinct
import Hypermedia.Proofs.Text.Split
import Hypermedia.Proofs.Uri.Path
import Hypermedia.Proofs.Uri.Domain
import Hypermedia.Proofs.Uri.Host.Address
import Hypermedia.Proofs.Uri.Host.Text
import Hypermedia.Proofs.Uri.Authority
import Hypermedia.Proofs.Uri.Sound
import Hypermedia.Proofs.Uri.Reread
import Hypermedia.Proofs.Collection.Place
import Hypermedia.Proofs.Uri.Append
import Hypermedia.Proofs.Resolution.Below
import Hypermedia.Proofs.Resolution.FirstMatch
import Hypermedia.Proofs.Resolution.Member
import Hypermedia.Proofs.Document
import Hypermedia.Proofs.Expansion
import Hypermedia.Proofs.Batch
import Hypermedia.Proofs.NotFound
import Hypermedia.Proofs.Repository.Writes
import Hypermedia.Proofs.Repository.HandOver
import Hypermedia.Proofs.Repository.Exhaustion
import Hypermedia.Proofs.Repository.Batches
import Hypermedia.Proofs.Entity.Identity
import Hypermedia.Proofs.Configuration.Metadata
import Hypermedia.Proofs.Configuration.Registration
import Hypermedia.Proofs.Json.Record
import Hypermedia.Proofs.Json.Spelled
import Hypermedia.Proofs.Entity.Fields
import Hypermedia.Proofs.Accessor.FieldName
import Hypermedia.Proofs.Proxy.Properties
import Hypermedia.Proofs.Proxy.PropertyRole
import Hypermedia.Proofs.Proxy.PropertyWrite
import Hypermedia.Proofs.Repository.Saved
import Hypermedia.Proofs.Collection.Relative
import Hypermedia.Proofs.Repository.Numbered
import Hypermedia.Proofs.Uri.LongDomain
import Hypermedia.Proofs.Uri.Ascent
import Hypermedia.Proofs.Uri.Form
import Hypermedia.Proofs.Collection.Search
import Hypermedia.Proofs.Repository.Members
import Hypermedia.Proofs.Repository.Located
import Hypermedia.Proofs.ServerFault
import Hypermedia.Proofs.Settings
import Hypermedia.Proofs.Proxy.Accounting
import Hypermedia.Proofs.CommandLine.Follow
