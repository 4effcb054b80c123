import DocMapper.Execution.Executor
import DocMapper.Http.Address
import DocMapper.Http.Content
import DocMapper.Http.Reply
import DocMapper.Settings
import DocMapper.Text.Base64
import DocMapper.Wire.Sending
/-!
# The client

A client runs queries by posting their wire form to the endpoint of a database. `Client.request`
composes what is sent; the replies come from a `Line`, which hands out prepared replies and keeps
the requests that went over it.

`Connections` tracks the connections of a client: it opens one when it needs one, and closes only
those that it opened itself.
-/

namespace DocMapper.Http

/-- What a client needs to know to send queries. -/
structure Client where
  secret : Value
  endpoint : Value
  timeout : Value
  debug : Value

/-- A request, in the form in which it is sent. -/
structure Request where
  url : String
  headers : Headers
  timeout : Value
  body : Wire

/-- A line to the database: the replies to come, and the requests that were sent. -/
structure Line where
  replies : List Reply
  sent : List Request := []

namespace Client

/-- A given value, or the setting when none is given. -/
def orSetting (given : Value) (setting : Value) : Value := if given.isNull then setting else given

/-- The names of the options of a client. -/
def optionNames : List String := ["secret", "endpoint", "timeout", "debug"]

/-- A client with the given options; what is not given comes from the settings. -/
def ofOptions (settings : Settings) (options : Value) : Except Fault Client := do
  let members ← options.named
  if members.any fun entry => optionNames.all fun name => !entry.1.same (.text name) then
    throw wrongKind
  let given := Value.lookup members
  return {
    secret := orSetting (given "secret") (.text settings.secret)
    endpoint := if (given "endpoint").truthy then given "endpoint" else .text settings.endpoint
    timeout := orSetting (given "timeout") (.float settings.timeout)
    debug := orSetting (given "debug") (.bool settings.debug) }

/-- The console after a client was made: one that debugs makes it show everything. -/
def configured (c : Client) (console : Console) : Except Fault Console :=
  if c.debug.truthy then console.configure "DEBUG" false else .ok console

/-! ## Sending -/

/-- The headers that options bring. -/
def optionHeaders (options : Dict Value) : Except Fault (Dict Value) :=
  match options.get? "headers" with
  | none => .ok []
  | some (.dict entries) => .ok entries
  | some _ => .error wrongKind

/-- The headers of a request, before they are written out. -/
def headers (c : Client) (options : Dict Value) : Except Fault (Dict Value) := do
  let own : Dict Value := Dict.ofFields [
    ("Authorization", .text ("Bearer " ++ c.secret.toText)),
    ("Content-Type", .text "application/json")]
  return Dict.putAll own (← optionHeaders options)

/-- The fault of an endpoint that is no address. -/
def invalidAddress (flaw : String) : Fault := .remote (some "InvalidURL") flaw

/-- The address that requests go to. -/
def address (c : Client) : Except Fault Address :=
  match c.endpoint with
  | .text endpoint => ((Address.parse endpoint).map Address.rooted).mapError invalidAddress
  | _ => .error wrongKind

/-- How long to wait for a reply: of several times, the second one is for that. -/
def waitingTime (timeout : Value) : Except Fault Value :=
  match timeout with
  | .tuple times =>
    match times[1]? with
    | some time => .ok time
    | none => .error outOfRange
  | time => .ok time

/-- Headers with the credentials of an address, if it has any, in place of others. -/
def authorized (a : Address) (headers : Headers) : Headers :=
  match a.credentials? with
  | none => headers
  | some bytes =>
    putHeader "authorization" ("Basic " ++ String.ofList (Base64.encode Base64.standard bytes))
      headers

/-- The request for a query, if it is one, with options for the way it is sent. -/
def request (c : Client) (e options : Value) : Except Fault Request := do
  let options ← if options.truthy then options.entries else pure []
  let headers ← c.headers options
  let wire ← match e with
    | .query q => q.wire
    | _ => throw noMember
  let address ← c.address
  let written ← headers.mapM header
  let timeout ← waitingTime ((options.get? "timeout").getD c.timeout)
  let body ← wire.sendable
  return { url := address.text, headers := shownHeaders (authorized address (joined written)),
           body := body, timeout := timeout }

/-- Sends a request and waits for the reply. -/
def exchange (request : Request) : Action Line Reply := do
  let line ← get
  match line.replies with
  | [] =>
    set { line with sent := line.sent ++ [request] }
    return .broken "no more responses"
  | reply :: rest =>
    set { line with replies := rest, sent := line.sent ++ [request] }
    return reply

/-- The fault of a transfer that failed. -/
def transferFault (kind message : String) : Fault :=
  .transport (.text Response.operation) (.text ("request failed: " ++ message)) .null
    (some (.remote (some kind) message)) .null (.list []) true

/-- Refuses a response that sends on to a place that is none. -/
def checkLocation (response : Response) : Except Fault Unit :=
  match response.location? with
  | none => .ok ()
  | some location =>
    match Address.parse location with
    | .error flaw => .error (transferFault "RemoteProtocolError"
        ("Invalid URL in location header: " ++ flaw ++ "."))
    | .ok place =>
      if place.host.isEmpty then
        match Address.pathFlaw? true (!place.scheme.isEmpty) place.path.toList with
        | some flaw => .error (invalidAddress flaw)
        | none => .ok ()
      else .ok ()

/-- Sends a query and waits for the response. No response is taken from a place without a scheme. -/
def send (c : Client) (e options : Value) : Action Line Response := do
  let request ← c.request e options
  match ← exchange request with
  | .response response =>
    match ← response.unpacked with
    | .ok response =>
      if request.url.startsWith "/" then throw badValue
      checkLocation response
      return response
    | .error message => throw (transferFault "DecodingError" message)
  | .transferFailed kind message => throw (transferFault kind message)
  | .broken message => throw (.remote none message)

/-- Runs a query. -/
def run (c : Client) (e options : Value) : Action Line Value := do
  let response ← c.send e options
  response.read

/-- Runs a query and reports metrics. -/
def runWithMetrics (c : Client) (e options : Value) : Action Line (Value × Dict Value) := do
  let response ← c.send e options
  return (← response.read, response.metrics)

/-- The executor that a client is. -/
def executor (c : Client) : Executor Line where
  query q options := c.run (.query q) options
  queryWithMetrics q options := c.runWithMetrics (.query q) options

end Client

/-! ## Connections -/

/-- The connections that a client ever had. -/
structure Connections where
  /-- the one that it holds -/
  held : Option Nat
  /-- whether the client opens its connections itself -/
  owned : Bool
  /-- for each connection whether it was closed; a missing first one was never given -/
  closed : List (Option Bool)

namespace Connections

/-- The connections of a new client, with one that it was given or without. -/
def new (given : Bool) : Connections :=
  if given then ⟨some 0, false, [some false]⟩ else ⟨none, true, [none]⟩

/-- The connection to use; a new one, which waits for replies as long as a client says, is opened if
none is held. -/
def use (timeout : Value) (c : Connections) : Except Fault (Nat × Connections) :=
  match c.held with
  | some i => .ok (i, c)
  | none => do
    let _ ← Client.waitingTime timeout
    return (c.closed.length, ⟨some c.closed.length, true, c.closed ++ [some false]⟩)

/-- Lets go of the connection, and closes it if the client opened it. -/
def close (c : Connections) : Connections :=
  match c.held with
  | some i => { c with
      held := none
      closed := if c.owned then c.closed.set i (some true) else c.closed }
  | none => c

end Connections

end DocMapper.Http
