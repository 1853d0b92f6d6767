import HtmlComponent.Log
import HtmlComponent.Options.Reader
import HtmlComponent.Proofs.Component.Outline
import HtmlComponent.Proofs.Component.Readable
import HtmlComponent.Proofs.Component.Imports
import HtmlComponent.Proofs.Component.Handlers
import HtmlComponent.Proofs.Component.Balance
import HtmlComponent.Proofs.Component.Bindings
import HtmlComponent.Proofs.Text.Spelling
import HtmlComponent.Proofs.Document.Stack
import HtmlComponent.Proofs.Document.Events
import HtmlComponent.Proofs.Attributes
import HtmlComponent.Proofs.Dom.Image
import HtmlComponent.Proofs.Document.Names
import HtmlComponent.Proofs.Document.Json
import HtmlComponent.Proofs.Markup
import HtmlComponent.Proofs.Json.Tokens
import HtmlComponent.Proofs.Options.Skip
import HtmlComponent.Proofs.Options.Object
import HtmlComponent.Proofs.Document.Recovery
import HtmlComponent.Proofs.Text.Literal
import HtmlComponent.Proofs.Document.Rebuilding
import HtmlComponent.Proofs.Document.Sequence
import HtmlComponent.Proofs.Component.Lines
import HtmlComponent.Proofs.Component.Slots
import HtmlComponent.Proofs.Options.Positional
import HtmlComponent.Proofs.Text.StringLiteral
import HtmlComponent.Proofs.Component.StyleSource
import HtmlComponent.Proofs.Component.Keys
import HtmlComponent.Proofs.Component.InnerRoots
import HtmlComponent.Proofs.Component.Reordering
import HtmlComponent.Proofs.Dom.Attributes
import HtmlComponent.Proofs.NameSet.Runs
import HtmlComponent.Proofs.Document.Fallbacks
