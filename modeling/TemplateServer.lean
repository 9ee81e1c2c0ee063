import TemplateServer.Main
import TemplateServer.CommandLine
import TemplateServer.Dispatch
import TemplateServer.Protocol.Response
import TemplateServer.Json.Schema
import TemplateServer.Json.Decode
import TemplateServer.Json.Form
import TemplateServer.Json.Numeral
import TemplateServer.Json.Basic
import TemplateServer.Decimal.Shortest
import TemplateServer.Random.ChaCha
import TemplateServer.Template.Check
import TemplateServer.Template.Fill
import TemplateServer.Text.Quoted
import TemplateServer.Text.Utf8
import TemplateServer.Proofs.Template.ListBlock
import TemplateServer.Proofs.Template.Rendering
import TemplateServer.Proofs.Session.Omission
import TemplateServer.Proofs.Session.Framing
import TemplateServer.Proofs.Session.Notification
import TemplateServer.Proofs.Json.Ordered
import TemplateServer.Proofs.Json.Schema
import TemplateServer.Proofs.Protocol.Failure
import TemplateServer.Proofs.Catalog.Tools
import TemplateServer.Proofs.Session.Reporting
import TemplateServer.Proofs.Dispatch.ToolCall
import TemplateServer.Proofs.Random.Word
import TemplateServer.Proofs.Template.Drawing
import TemplateServer.Proofs.Template.Acceptance
import TemplateServer.Proofs.Template.Placeholders
import TemplateServer.Proofs.Template.Appending
import TemplateServer.Proofs.Json.Blanks
import TemplateServer.Proofs.Json.Selection
import TemplateServer.Proofs.Session.Spelling
import TemplateServer.Proofs.Template.LineEnds
import TemplateServer.Proofs.Session.Buffering
import TemplateServer.Proofs.Dispatch.Listing
import TemplateServer.Proofs.Dispatch.Reaction
import TemplateServer.Proofs.Config.Environment
import TemplateServer.Proofs.Session.LastLine
import TemplateServer.Proofs.Session.Validity
