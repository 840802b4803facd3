import ApiClient.Api.Collection
import ApiClient.Api.Endpoint
import ApiClient.Api.Method
import ApiClient.Api.Module
import ApiClient.Api.Support
import ApiClient.Binary64
import ApiClient.Binary64.Shortest
import ApiClient.CommandLine
import ApiClient.CommandLine.Arguments
import ApiClient.CommandLine.Request
import ApiClient.Compression.Checksum
import ApiClient.Compression.Deflate
import ApiClient.Compression.Frame
import ApiClient.Data.Calendar
import ApiClient.Data.Display
import ApiClient.Data.Json.Reader
import ApiClient.Data.Json.Writer
import ApiClient.Data.Toml.Reader
import ApiClient.Data.Toml.Scalar
import ApiClient.Data.Toml.Table
import ApiClient.Data.Value
import ApiClient.Data.Yaml.Cursor
import ApiClient.Data.Yaml.Fault
import ApiClient.Data.Yaml.Graph
import ApiClient.Data.Yaml.Node
import ApiClient.Data.Yaml.Object
import ApiClient.Data.Yaml.Reader
import ApiClient.Data.Yaml.Scalar
import ApiClient.Data.Yaml.ScalarValue
import ApiClient.Data.Yaml.Tag
import ApiClient.Data.Yaml.Token
import ApiClient.Document.Check
import ApiClient.Document.Model
import ApiClient.Document.Schema
import ApiClient.Document.Validation
import ApiClient.Fault
import ApiClient.Files.Path
import ApiClient.Files.Tree
import ApiClient.Generation
import ApiClient.Loading
import ApiClient.Log
import ApiClient.Main
import ApiClient.Network.Address
import ApiClient.Network.ContentType
import ApiClient.Network.Fault
import ApiClient.Network.HostName
import ApiClient.Network.HostName.Character
import ApiClient.Network.HostName.Context
import ApiClient.Network.HostName.Direction
import ApiClient.Network.Reference
import ApiClient.Network.Response
import ApiClient.Network.Url
import ApiClient.Network.Web
import ApiClient.Network.WebAddress
import ApiClient.Output.Directory
import ApiClient.Output.Emission
import ApiClient.Output.Memory
import ApiClient.Settings
import ApiClient.Settings.Discovery
import ApiClient.Settings.Expansion
import ApiClient.Settings.Reading
import ApiClient.Settings.Search
import ApiClient.Settings.VariableFile
import ApiClient.Source.Chain
import ApiClient.Source.Comment
import ApiClient.Source.Declaration
import ApiClient.Source.Identifier
import ApiClient.Source.Literal
import ApiClient.Source.Specifier
import ApiClient.Source.TypeExpression
import ApiClient.Text.Backslash
import ApiClient.Text.Base64
import ApiClient.Text.Blank
import ApiClient.Text.CharacterSet
import ApiClient.Text.CharacterSet.Big5
import ApiClient.Text.CharacterSet.Gb2312
import ApiClient.Text.CharacterSet.HongKong
import ApiClient.Text.CharacterSet.JisVendor
import ApiClient.Text.CharacterSet.JisX0208
import ApiClient.Text.CharacterSet.JisX0212
import ApiClient.Text.CharacterSet.JisX0213
import ApiClient.Text.CharacterSet.KsX1001
import ApiClient.Text.Charset
import ApiClient.Text.CodePage
import ApiClient.Text.CodePage.Dos
import ApiClient.Text.CodePage.Macintosh
import ApiClient.Text.CodePage.Mainframe
import ApiClient.Text.CodePage.National
import ApiClient.Text.CodePage.Standard
import ApiClient.Text.CodePage.Windows
import ApiClient.Text.CodePoint
import ApiClient.Text.CombiningClass
import ApiClient.Text.Composition
import ApiClient.Text.Decomposition
import ApiClient.Text.Digit
import ApiClient.Text.Line
import ApiClient.Text.Lowercase
import ApiClient.Text.Markup
import ApiClient.Text.Markup.Style
import ApiClient.Text.MultiOctet
import ApiClient.Text.MultiOctet.Chinese
import ApiClient.Text.MultiOctet.Designated
import ApiClient.Text.MultiOctet.Japanese
import ApiClient.Text.MultiOctet.Korean
import ApiClient.Text.Numeral
import ApiClient.Text.Pictograph
import ApiClient.Text.Printable
import ApiClient.Text.Punycode
import ApiClient.Text.Quoted
import ApiClient.Text.Split
import ApiClient.Text.Table
import ApiClient.Text.Uppercase
import ApiClient.Text.Utf7
import ApiClient.Text.Utf8
import ApiClient.Text.WideUnits
import ApiClient.Proofs.Code.Indentation
import ApiClient.Proofs.Code.Comments
import ApiClient.Proofs.Code.Reading
import ApiClient.Proofs.Code.Words
import ApiClient.Proofs.Agreement
import ApiClient.Proofs.Code.Literals
import ApiClient.Proofs.Code.DocComments
import ApiClient.Proofs.Code.Templates
import ApiClient.Proofs.Code.Types
import ApiClient.Proofs.Code.Constructors
import ApiClient.Proofs.Code.Declarations
import ApiClient.Proofs.Code.Methods
import ApiClient.Proofs.Code.Classes
import ApiClient.Proofs.Code.Endpoints
import ApiClient.Proofs.Code.Generation
import ApiClient.Proofs.Api.Grouping
import ApiClient.Proofs.Output.Emission
import ApiClient.Proofs.Source.Specifier
import ApiClient.Proofs.Output.Memory
import ApiClient.Proofs.Document.Chains
import ApiClient.Proofs.Output.History
import ApiClient.Proofs.Files.Tree
import ApiClient.Proofs.Output.Directory
import ApiClient.Proofs.Data.Json
import ApiClient.Proofs.Document.Check
import ApiClient.Proofs.Document.Values
import ApiClient.Proofs.Api.Parameters
import ApiClient.Proofs.Api.Collection
import ApiClient.Proofs.Code.Quotations
import ApiClient.Proofs.Source.Chain
import ApiClient.Proofs.Code.Enumerations
import ApiClient.Proofs.Document.Origin
import ApiClient.Proofs.Api.Operations
import ApiClient.Proofs.Document.Choice
import ApiClient.Proofs.Document.Changes
import ApiClient.Proofs.Document.Kinds
import ApiClient.Proofs.Api.Pointers
import ApiClient.Proofs.Code.Addresses
import ApiClient.Proofs.Api.ClassNames
import ApiClient.Proofs.Document.Refusals
import ApiClient.Proofs.Loading
import ApiClient.Proofs.Settings.Places
import ApiClient.Proofs.Settings.Layers
import ApiClient.Proofs.Settings.Reading
import ApiClient.Proofs.Settings.Precedence
import ApiClient.Proofs.Api.Inheritance
import ApiClient.Proofs.Api.Signatures
import ApiClient.Proofs.Code.Alternatives
import ApiClient.Proofs.Code.Arrays
import ApiClient.Proofs.Text.Replacement
import ApiClient.Proofs.Code.AddressOrder
import ApiClient.Proofs.Document.Parts
import ApiClient.Proofs.Code.Namespaces
import ApiClient.Proofs.Source.Models
import ApiClient.Proofs.Code.Keys
import ApiClient.Proofs.Code.Bindings
import ApiClient.Proofs.Code.MemberNames
import ApiClient.Proofs.Source.Dispatch
import ApiClient.Proofs.Api.Replacements
import ApiClient.Proofs.Document.Segments
import ApiClient.Proofs.Code.IndentedLines
import ApiClient.Proofs.Code.Headers
import ApiClient.Proofs.Files.Course
import ApiClient.Proofs.Files.Names
import ApiClient.Proofs.Source.Resolution
import ApiClient.Proofs.Source.Directories
import ApiClient.Proofs.Settings.References
import ApiClient.Proofs.Settings.Expansion
import ApiClient.Proofs.Code.Identifiers
import ApiClient.Proofs.Code.Items
import ApiClient.Proofs.Code.KeyForms
import ApiClient.Proofs.Code.Outlines
import ApiClient.Proofs.Code.CommentEnds
import ApiClient.Proofs.Code.LegalNames
