set_option autoImplicit false

namespace BrowserCheck.Program.Fixed

def textOf (ls : List String) : String := String.intercalate "\n" ls

def helpers : List String := [
  "let page;",
  "let trace;",
  "const spotlightBuffer = [];",
  "",
  "function startSpotlightReceiver() \x7b",
  "  return new Promise((resolve) => \x7b",
  "    const server = http.createServer((req, res) => \x7b",
  "      res.setHeader('Access-Control-Allow-Origin', '*');",
  "      res.setHeader('Access-Control-Allow-Headers', '*');",
  "      res.setHeader('Access-Control-Allow-Methods', 'POST, OPTIONS');",
  "      if (req.method === 'OPTIONS') \x7b",
  "        res.writeHead(204);",
  "        res.end();",
  "        return;",
  "      \x7d",
  "      if (req.method !== 'POST') \x7b",
  "        res.writeHead(405);",
  "        res.end();",
  "        return;",
  "      \x7d",
  "      const chunks = [];",
  "      req.on('data', (chunk) => chunks.push(chunk));",
  "      req.on('end', () => \x7b",
  "        spotlightBuffer.push(\x7b",
  "          body: Buffer.concat(chunks).toString('utf8'),",
  "          contentType: String(req.headers['content-type'] || ''),",
  "          receivedAt: Date.now(),",
  "        \x7d);",
  "        while (spotlightBuffer.length > SPOTLIGHT_BUFFER_SIZE) \x7b",
  "          spotlightBuffer.shift();",
  "        \x7d",
  "        res.writeHead(200);",
  "        res.end();",
  "      \x7d);",
  "    \x7d);",
  "    server.on('error', (err) => \x7b",
  "      console.error('[spotlight] receiver unavailable: ' + err.message);",
  "      resolve(null);",
  "    \x7d);",
  "    server.listen(SPOTLIGHT_PORT, '127.0.0.1', () => resolve(server));",
  "  \x7d);",
  "\x7d",
  "",
  "async function addSpotlight(target) \x7b",
  "  if (!SPOTLIGHT_ENABLED) \x7b",
  "    return;",
  "  \x7d",
  "  try \x7b",
  "    for (const url of SENTRY_BUNDLES) \x7b",
  "      await target.addScriptTag(\x7b url, type: 'text/javascript' \x7d);",
  "    \x7d",
  "    await target.evaluate((sidecarUrl) => \x7b",
  "      Sentry.init(\x7b",
  "        dsn: '',",
  "        sendDefaultPii: true,",
  "        spotlight: sidecarUrl,",
  "        enableLogs: true,",
  "        integrations: [",
  "          Sentry.browserTracingIntegration(),",
  "          Sentry.spotlightBrowserIntegration(\x7b sidecarUrl \x7d),",
  "        ],",
  "        tracesSampleRate: 1.0,",
  "      \x7d);",
  "    \x7d, SPOTLIGHT_URL);",
  "  \x7d catch (err) \x7b",
  "    console.error('[spotlight] injection failed: ' + err.message);",
  "  \x7d",
  "\x7d",
  "",
  "function toSpotlightEvent(entry) \x7b",
  "  const lines = entry.body.split('\\n');",
  "  let header = \x7b\x7d;",
  "  try \x7b",
  "    header = JSON.parse(lines[0] || '\x7b\x7d');",
  "  \x7d catch \x7b",
  "    header = \x7b\x7d;",
  "  \x7d",
  "  const items = [];",
  "  let i = 1;",
  "  while (i < lines.length) \x7b",
  "    if (!lines[i].trim()) \x7b",
  "      i += 1;",
  "      continue;",
  "    \x7d",
  "    let itemHeader;",
  "    try \x7b",
  "      itemHeader = JSON.parse(lines[i]);",
  "    \x7d catch \x7b",
  "      i += 1;",
  "      continue;",
  "    \x7d",
  "    const raw = lines[i + 1] ?? '';",
  "    let payload;",
  "    try \x7b",
  "      payload = JSON.parse(raw);",
  "    \x7d catch \x7b",
  "      payload = raw;",
  "    \x7d",
  "    items.push(\x7b header: itemHeader, payload \x7d);",
  "    i += 2;",
  "  \x7d",
  "  const types = items.map((item) => item.header && item.header.type).filter(Boolean);",
  "  return \x7b",
  "    envelopeId: header.event_id,",
  "    type: types.length > 0 ? types.join(',') : 'unknown',",
  "    timestamp: entry.receivedAt,",
  "    data: \x7b header, items \x7d,",
  "    headers: \x7b 'content-type': entry.contentType \x7d,",
  "  \x7d;",
  "\x7d",
  "",
  "async function captureStep(index, action, details) \x7b",
  "  try \x7b",
  "    const image = await page.screenshot(\x7b type: 'jpeg', quality: SCREENSHOT_QUALITY \x7d);",
  "    trace.steps.push(\x7b",
  "      index,",
  "      action,",
  "      details,",
  "      timestamp: Date.now(),",
  "      screenshot: image.toString('base64'),",
  "      url: page.url(),",
  "    \x7d);",
  "  \x7d catch (err) \x7b",
  "    console.error('[trace] screenshot failed for step ' + index + ': ' + err.message);",
  "  \x7d",
  "\x7d"]

def setup : List String := [
  "const browser = await chromium.connectOverCDP(CDP_ENDPOINT);",
  "const context = browser.contexts()[0] || (await browser.newContext());",
  "page = context.pages()[0] || (await context.newPage());",
  "page.on('console', (msg) => console.log(msg.text()));",
  "",
  "trace = \x7b",
  "  startTime: Date.now(),",
  "  endTime: 0,",
  "  duration: 0,",
  "  success: false,",
  "  error: null,",
  "  steps: [],",
  "\x7d;",
  "",
  "const spotlightServer = SPOTLIGHT_ENABLED ? await startSpotlightReceiver() : null;"]

def failureBoundary : List String := [
  "\x7d catch (err) \x7b",
  "  trace.success = false;",
  "  trace.error = err && err.message ? err.message : String(err);",
  "  await captureStep(trace.steps.length, 'error', trace.error);",
  "\x7d finally \x7b",
  "  trace.endTime = Date.now();",
  "  trace.duration = trace.endTime - trace.startTime;",
  "\x7d"]

def teardown : List String := [
  "console.log(TRACE_START + JSON.stringify(trace) + TRACE_END);",
  "",
  "if (SPOTLIGHT_ENABLED) \x7b",
  "  const events = spotlightBuffer.splice(0).map(toSpotlightEvent);",
  "  console.log(SPOTLIGHT_START + JSON.stringify(events) + SPOTLIGHT_END);",
  "\x7d",
  "",
  "await browser.close().catch((err) => console.error('[browser] close failed: ' + err.message));",
  "if (spotlightServer) \x7b",
  "  await new Promise((resolve) => spotlightServer.close(() => resolve()));",
  "\x7d"]

def entryPoint : List String := [
  "main().catch((err) => \x7b",
  "  console.error(err);",
  "  process.exitCode = 1;",
  "\x7d);"]

end BrowserCheck.Program.Fixed
