import BrowserCheck.Generation.Request
import BrowserCheck.Generation.Schema
import BrowserCheck.Web.Http

set_option autoImplicit false

namespace BrowserCheck.Generation

open Json Web

structure ModelSettings where
  model : String
  apiKeyEnv : String
  maxTokens : UInt32
  baseUrl : String
  webFetch : Bool
  webFetchMaxUses : UInt32
deriving DecidableEq, Repr

namespace ModelSettings

def standard : ModelSettings where
  model := "claude-opus-4-5"
  apiKeyEnv := "ANTHROPIC_API_KEY"
  maxTokens := 4096
  baseUrl := "https://api.anthropic.com"
  webFetch := true
  webFetchMaxUses := 5

def encode (c : ModelSettings) : Value :=
  .object [("model", .text c.model), ("api_key_env", .text c.apiKeyEnv),
    ("max_tokens", .ofNat c.maxTokens.toNat), ("base_url", .text c.baseUrl),
    ("web_fetch", .boolean c.webFetch), ("web_fetch_max_uses", .ofNat c.webFetchMaxUses.toNat)]

def decode? (conv : Conventions) : Decoder ModelSettings := fun w => do
  let [model, apiKeyEnv, maxTokens, baseUrl, webFetch, webFetchMaxUses] ← w.slots? conv
    ["model", "api_key_env", "max_tokens", "base_url", "web_fetch", "web_fetch_max_uses"] | none
  return {
    model := ← model.withDefault standard.model Written.text?
    apiKeyEnv := ← apiKeyEnv.withDefault standard.apiKeyEnv Written.text?
    maxTokens := ← maxTokens.withDefault standard.maxTokens Written.uint32?
    baseUrl := ← baseUrl.withDefault standard.baseUrl Written.text?
    webFetch := ← webFetch.withDefault standard.webFetch Written.boolean?
    webFetchMaxUses := ← webFetchMaxUses.withDefault standard.webFetchMaxUses Written.uint32? }

end ModelSettings

def toolName : String := "submit_script"

def systemPrompt : String := String.intercalate "\n"
  ["You write browser checks for uptime monitoring and synthetic testing.",
   "",
   "Given a website URL and a description of what to verify, produce an action script that a headless Chromium replays step by step. A screenshot is taken after every action.",
   "",
   "Available actions:",
   "- goto: navigate to an absolute URL. The first action should normally be a goto to the provided URL.",
   "- click: click the first element matching a Playwright selector. Prefer stable selectors: data-testid, aria labels, visible text (e.g. `text=Sign in`), then CSS.",
   "- sleep: wait for a number of milliseconds. Use it sparingly, after actions that trigger slow page updates.",
   "",
   "When the web_fetch tool is available, fetch the page first and pick selectors that actually appear in it.",
   "",
   "Keep scripts short and focused on the requested flow. Dismiss cookie banners only when they would block a later click.",
   "",
   "Always answer by calling the submit_script tool. Put a one or two sentence summary of what the script does, and any assumptions you made, in `message`."]

def submitTool : Value :=
  .object [("name", .text toolName), ("description", .text "Submit the generated action script"),
    ("input_schema", Schema.answer.encode)]

def fetchTool (maxUses : UInt32) : Value :=
  .object [("type", .text "web_fetch_20250910"), ("name", .text "web_fetch"),
    ("max_uses", .ofNat maxUses.toNat)]

def tools (c : ModelSettings) : List Value :=
  submitTool :: if c.webFetch then [fetchTool c.webFetchMaxUses] else []

-- the tool for the answer can be forced only where no page has to be fetched first
def toolChoice (c : ModelSettings) : Value :=
  if c.webFetch then .object [("type", .text "any")]
  else .object [("type", .text "tool"), ("name", .text toolName)]

structure Turn where
  role : String
  content : Value

def Turn.encode (t : Turn) : Value := .object [("role", .text t.role), ("content", t.content)]

def endpoint (c : ModelSettings) : String := withoutSlashes c.baseUrl ++ "/v1/messages"

def headers (c : ModelSettings) (apiKey : String) : List (String × String) :=
  [("x-api-key", apiKey), ("anthropic-version", "2023-06-01")] ++
    if c.webFetch then [("anthropic-beta", "web-fetch-2025-09-10")] else []

def requestBody (c : ModelSettings) (turns : List Turn) : Value :=
  .object [("model", .text c.model), ("max_tokens", .ofNat c.maxTokens.toNat), ("system", .text systemPrompt),
    ("messages", .array (turns.map Turn.encode)), ("tools", .array (tools c)),
    ("tool_choice", toolChoice c)]

def request (c : ModelSettings) (apiKey : String) (turns : List Turn) : Web.Request where
  method := "POST"
  url := endpoint c
  headers := headers c apiKey
  body := some (requestBody c turns)

end BrowserCheck.Generation
