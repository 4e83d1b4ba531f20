import StorageBackend.Activity
import StorageBackend.Api.Client
import StorageBackend.Api.Failure
import StorageBackend.Api.Object
import StorageBackend.Api.Response
import StorageBackend.Api.Uri
import StorageBackend.Basic
import StorageBackend.Clock
import StorageBackend.Cluster.Client
import StorageBackend.Cluster.Timeline
import StorageBackend.CommandLine.Grammar
import StorageBackend.CommandLine.Help
import StorageBackend.CommandLine.LogFilter
import StorageBackend.CommandLine.Parse
import StorageBackend.CommandLine.Recording
import StorageBackend.CommandLine.Run
import StorageBackend.Credentials
import StorageBackend.Decimal.Binary64
import StorageBackend.Decimal.Shortest
import StorageBackend.Duration
import StorageBackend.Error
import StorageBackend.InstallConfig.Basic
import StorageBackend.InstallConfig.Decode
import StorageBackend.InstallConfig.Schema
import StorageBackend.InstallConfig.Source
import StorageBackend.Json.Error
import StorageBackend.Json.Lexeme
import StorageBackend.Json.Parts
import StorageBackend.Json.Printer
import StorageBackend.Json.Reader
import StorageBackend.Json.Structure
import StorageBackend.Json.Value
import StorageBackend.Kubeconfig.Access
import StorageBackend.Kubeconfig.Basic
import StorageBackend.Kubeconfig.Credential
import StorageBackend.Kubeconfig.Decode
import StorageBackend.Log
import StorageBackend.Main
import StorageBackend.Poll
import StorageBackend.Poll.Rehearsal
import StorageBackend.Proofs.Activity
import StorageBackend.Proofs.Activity.Alike
import StorageBackend.Proofs.Activity.Follows
import StorageBackend.Proofs.Api.Conveyance
import StorageBackend.Proofs.Api.NotFound
import StorageBackend.Proofs.Api.Recognition
import StorageBackend.Proofs.Api.SecretBody
import StorageBackend.Proofs.Clock
import StorageBackend.Proofs.CommandLine.Range
import StorageBackend.Proofs.Credentials.Alike
import StorageBackend.Proofs.Credentials.Entry
import StorageBackend.Proofs.Credentials.Search
import StorageBackend.Proofs.Credentials.Vigil
import StorageBackend.Proofs.Credentials.Wait
import StorageBackend.Proofs.Duration
import StorageBackend.Proofs.Error.Message
import StorageBackend.Proofs.InstallConfig.Acceptance
import StorageBackend.Proofs.InstallConfig.Documents
import StorageBackend.Proofs.InstallConfig.Formats
import StorageBackend.Proofs.InstallConfig.Indentation
import StorageBackend.Proofs.InstallConfig.Reading
import StorageBackend.Proofs.InstallConfig.Tree
import StorageBackend.Proofs.InstallConfig.Truncation
import StorageBackend.Proofs.Json.Closing
import StorageBackend.Proofs.Json.FreeValue
import StorageBackend.Proofs.Json.Kind
import StorageBackend.Proofs.Json.Lenient
import StorageBackend.Proofs.Json.Literal
import StorageBackend.Proofs.Json.Numeral
import StorageBackend.Proofs.Json.Passing
import StorageBackend.Proofs.Json.Printed
import StorageBackend.Proofs.Json.Record
import StorageBackend.Proofs.Json.Spelling
import StorageBackend.Proofs.Json.Structure
import StorageBackend.Proofs.Json.Term
import StorageBackend.Proofs.Json.Tree
import StorageBackend.Proofs.Poll.Attempts
import StorageBackend.Proofs.Poll.Course
import StorageBackend.Proofs.Poll.Deadline
import StorageBackend.Proofs.Poll.Events
import StorageBackend.Proofs.Poll.Patience
import StorageBackend.Proofs.Poll.Reach
import StorageBackend.Proofs.Poll.Scenes
import StorageBackend.Proofs.Resolver.EntryPoints
import StorageBackend.Proofs.Resolver.Footprint
import StorageBackend.Proofs.Resolver.Population
import StorageBackend.Proofs.Resolver.Secrecy
import StorageBackend.Proofs.Storage.Disclosure
import StorageBackend.Proofs.Storage.Names
import StorageBackend.Proofs.Storage.Summary
import StorageBackend.Proofs.Text.Base64
import StorageBackend.Proofs.Text.Utf8
import StorageBackend.Proofs.Tree.Basic
import StorageBackend.Proofs.Tree.Shape
import StorageBackend.Proofs.Yaml.BlankLines
import StorageBackend.Proofs.Yaml.Events
import StorageBackend.Proofs.Yaml.Layout
import StorageBackend.Proofs.Yaml.Scalar
import StorageBackend.Proofs.Yaml.Scanner
import StorageBackend.Proofs.Yaml.Tokens
import StorageBackend.Proofs.Yaml.Tree
import StorageBackend.Resolver
import StorageBackend.Schema.Format
import StorageBackend.Schema.Shape
import StorageBackend.Session
import StorageBackend.Storage.Config
import StorageBackend.Storage.Kind
import StorageBackend.Storage.Summary
import StorageBackend.Text.Base64
import StorageBackend.Text.Basic
import StorageBackend.Text.Certificate
import StorageBackend.Text.Host
import StorageBackend.Text.Layout
import StorageBackend.Text.Pem
import StorageBackend.Text.Quoted
import StorageBackend.Text.Timestamp
import StorageBackend.Text.Utf8
import StorageBackend.Yaml.Document
import StorageBackend.Yaml.Event
import StorageBackend.Yaml.Mark
import StorageBackend.Yaml.Node
import StorageBackend.Yaml.Reader
import StorageBackend.Yaml.Resolution
import StorageBackend.Yaml.Scalar
import StorageBackend.Yaml.Token
import StorageBackend.Yaml.TokenStream
