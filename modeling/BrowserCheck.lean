import BrowserCheck.Main
import BrowserCheck.Proofs.Program.Body
import BrowserCheck.Proofs.Run.TraceText
import BrowserCheck.Proofs.Sandbox.Exclusive
import BrowserCheck.Proofs.Dialogue
import BrowserCheck.Proofs.Sandbox.Course
import BrowserCheck.Proofs.Program.Assembled
import BrowserCheck.Proofs.Script.Grammar
import BrowserCheck.Proofs.Json.Distinct
import BrowserCheck.Proofs.Json.Ordered
import BrowserCheck.Proofs.Json.Typed
import BrowserCheck.Proofs.Script.Decoding
import BrowserCheck.Proofs.Script.RoundTrip
import BrowserCheck.Proofs.Generation.Schema
import BrowserCheck.Proofs.Json.Transport
import BrowserCheck.Proofs.Web.Requests
import BrowserCheck.Proofs.Json.Arrangement
import BrowserCheck.Proofs.Run.Recovery
import BrowserCheck.Proofs.Script.Recovery
import BrowserCheck.Proofs.Web.Responses
import BrowserCheck.Proofs.Generation.Conversation
import BrowserCheck.Proofs.Web.Handling
import BrowserCheck.Proofs.Generation.Outcomes
import BrowserCheck.Proofs.Web.Disclosure
import BrowserCheck.Proofs.Sandbox.Endings
import BrowserCheck.Proofs.Web.Running
import BrowserCheck.Proofs.Cli.Reading
import BrowserCheck.Proofs.Cli.Inspection
import BrowserCheck.Proofs.Program.Quoted
import BrowserCheck.Proofs.Files.Paths
import BrowserCheck.Proofs.Files.Trees
import BrowserCheck.Proofs.Shell.Quoting
import BrowserCheck.Proofs.Sandbox.Workspace
import BrowserCheck.Proofs.Sandbox.HostDirectory
import BrowserCheck.Proofs.Sandbox.Isolation
import BrowserCheck.Proofs.Toml.Strings
import BrowserCheck.Proofs.Toml.Values
import BrowserCheck.Proofs.Toml.Documents
import BrowserCheck.Proofs.Text.Encoding
import BrowserCheck.Proofs.Settings.Document
import BrowserCheck.Proofs.Settings.Saving
import BrowserCheck.Proofs.Web.Generating
import BrowserCheck.Proofs.Cli.Generating
import BrowserCheck.Proofs.Program.Groups
import BrowserCheck.Proofs.Run.Spans
import BrowserCheck.Proofs.Generation.Submission
import BrowserCheck.Proofs.Sandbox.Waits
import BrowserCheck.Proofs.Shell.Words
import BrowserCheck.Proofs.Sandbox.CommandLines
import BrowserCheck.Proofs.Sandbox.Containers
import BrowserCheck.Proofs.Json.OneLine
import BrowserCheck.Proofs.Generation.Prompt
import BrowserCheck.Proofs.Text.Cases
import BrowserCheck.Proofs.Json.Entries
import BrowserCheck.Proofs.Settings.Leaves
import BrowserCheck.Proofs.Settings.Effective
import BrowserCheck.Proofs.Text.Base64
import BrowserCheck.Proofs.Cli.Screenshots
import BrowserCheck.Proofs.Files.Agreement
import BrowserCheck.Proofs.Cli.Running
