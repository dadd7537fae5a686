import DiskServer.Construction.Clients.ErrorEnvelope

/-
This file gives the requests of the Go client and what it does when the server answers one with 401.
-/

namespace DiskServer.Clients.Terminal

section Requests

structure HttpRequest where
  method : String
  url : String
  headers : List (String × String)
  body : List UInt8
  deriving Repr, DecidableEq

def setHeader (headers : List (String × String)) (name value : String) : List (String × String) :=
  headers.filter (fun header => header.1 ≠ name) ++ [(name, value)]

def headerValue (headers : List (String × String)) (name : String) : Option String :=
  (headers.find? fun header => header.1 = name).map Prod.snd

def HttpRequest.withoutAuthorization (request : HttpRequest) : HttpRequest :=
  { request with headers := request.headers.filter fun header => header.1 ≠ "Authorization" }

/-- The options of a request. The query is encoded, the flag says whether there is a reader for the
body, and the callers give no Authorization header of their own. -/
structure RequestOpts where
  body : Option (List UInt8)
  contentType : String
  query : String
  headers : List (String × String)
  plain : ∀ header ∈ headers, header.1 ≠ "Authorization"
  noAuth : Bool
  shareAuth : Bool
  rawReader : Bool

structure GoClient where
  baseURL : String
  access : String
  refresh : String
  shareToken : String
  deriving Repr, DecidableEq

def GoClient.setTokens (client : GoClient) (access refresh : String) : GoClient :=
  { client with access := access, refresh := refresh }

def urlFor (client : GoClient) (path : String) : String :=
  if path.startsWith "http://" || path.startsWith "https://" then path
  else if path.startsWith "/" then client.baseURL ++ (path.drop 1).toString
  else client.baseURL ++ path

/-- The client, the bytes that the reader of the request still yields, and the requests that were sent. -/
structure GoState where
  client : GoClient
  unread : List UInt8
  sent : List HttpRequest
  deriving Repr, DecidableEq

def requestBody (opts : RequestOpts) (unread : List UInt8) : List UInt8 :=
  if opts.rawReader then unread else opts.body.getD []

def buildRequest (client : GoClient) (method path : String) (opts : RequestOpts)
    (unread : List UInt8) : HttpRequest :=
  let typed := if opts.contentType ≠ "" then setHeader [] "Content-Type" opts.contentType else []
  let owned :=
    if opts.noAuth = false ∧ client.access ≠ "" then
      setHeader typed "Authorization" ("Bearer " ++ client.access)
    else typed
  let shared :=
    if opts.shareAuth ∧ client.shareToken ≠ "" then setHeader owned "X-Share-Token" client.shareToken
    else owned
  { method := method
    url := if opts.query ≠ "" then urlFor client path ++ "?" ++ opts.query else urlFor client path
    headers := opts.headers.foldl (fun headers header => setHeader headers header.1 header.2) shared
    body := requestBody opts unread }

end Requests

section Network

structure Received where
  reply : Reply
  complete : Bool

structure Exchange where
  read : Nat
  response : Option Received

/-- The server answers in view of all earlier requests. The JSON library makes the bytes of a value and
the texts of its errors. -/
structure Wire where
  network : List HttpRequest → HttpRequest → Exchange
  marshal : Json → List UInt8
  parseError : Reply → String

variable (wire : Wire)

def GoState.send (state : GoState) (request : HttpRequest) : Option Received × GoState :=
  ((wire.network state.sent request).response, { state with sent := state.sent ++ [request] })

def doRequest (method path : String) (opts : RequestOpts) (state : GoState) :
    Option Received × GoState :=
  let request := buildRequest state.client method path opts state.unread
  let exchange := wire.network state.sent request
  (exchange.response,
    { state with
      sent := state.sent ++ [request]
      unread := if opts.rawReader then state.unread.drop exchange.read else state.unread })

end Network

section Refresh

inductive GoError where
  | transport
  | api (error : APIError) (url : String)
  | unmarshalData
  | noRefreshToken
  | refreshBody
  deriving Repr, DecidableEq

structure RefreshResponse where
  accessToken : String
  refreshToken : String

def textField (value : Json) (name : String) : Option String :=
  match value.field name with
  | .null => some ""
  | .string text => some text
  | _ => none

def numberField (value : Json) (name : String) : Option Int :=
  match value.field name with
  | .null => some 0
  | .number number => some number
  | _ => none

def unmarshalRefresh : Json → Option RefreshResponse
  | .null => some ⟨"", ""⟩
  | .object fields => do
      let accessToken ← textField (.object fields) "access_token"
      let refreshToken ← textField (.object fields) "refresh_token"
      let _ ← numberField (.object fields) "expires_in"
      return ⟨accessToken, refreshToken⟩
  | _ => none

def refreshPath : String := "/api/auth/refresh"

def refreshRequest (wire : Wire) (client : GoClient) : HttpRequest :=
  { method := "POST"
    url := urlFor client refreshPath
    headers := setHeader [] "Content-Type" "application/json"
    body := wire.marshal (.object [("refresh_token", .string client.refresh)]) }

def readRefresh (received : Received) : Except GoError RefreshResponse :=
  if received.reply.status ≠ 200 then
    .error (.api ⟨0, received.reply.status, []⟩ refreshPath)
  else
    match received.reply.body.bind unmarshalEnvelope with
    | none => .error .refreshBody
    | some envelope =>
        match unmarshalRefresh envelope.data with
        | none => .error .refreshBody
        | some tokens =>
            if envelope.code ≠ 0 ∨ tokens.accessToken = "" then
              .error (.api ⟨envelope.code, 0, textBytes envelope.message⟩ refreshPath)
            else .ok tokens

def tryRefresh (wire : Wire) (state : GoState) : Except GoError Bool × GoState :=
  if state.client.refresh = "" then (.error .noRefreshToken, state)
  else
    match state.send wire (refreshRequest wire state.client) with
    | (none, sent) => (.error .transport, sent)
    | (some received, sent) =>
        match readRefresh received with
        | .error error => (.error error, sent)
        | .ok tokens =>
            (.ok true,
              { sent with client := sent.client.setTokens tokens.accessToken tokens.refreshToken })

end Refresh

section Calls

/-- The type that the data of a response is decoded into, given by the values that it accepts. There is
none when the caller wants no data. -/
abbrev Target : Type := Option (Json → Bool)

def decodeData (data : Json) (target : Target) : Except GoError (Option Json) :=
  match target with
  | none => .ok none
  | some accepts =>
      match data with
      | .null => .ok none
      | data => if accepts data then .ok (some data) else .error .unmarshalData

/-- The error of a body that ends early; the library's own text is left out. -/
def readBodyFailed (received : Received) (path : String) : GoError :=
  .api ⟨0, received.reply.status, textBytes "read body: "⟩ path

inductive Answered where
  | data (data : Option Json)
  | response (received : Received)

def decodeRetry (received : Received) (path : String) (target : Target) :
    Except GoError (Option Json) :=
  match received.reply.body.bind unmarshalEnvelope with
  | none => .error (.api ⟨0, received.reply.status, textBytes "invalid json on retry"⟩ path)
  | some envelope =>
      if envelope.code ≠ 0 then
        .error (.api ⟨envelope.code, received.reply.status, textBytes envelope.message⟩ path)
      else decodeData envelope.data target

/-- The code of the envelope is checked before the status, and a failed refresh goes on with the data
of the first response. -/
def decodeEnvelope (wire : Wire) (method path : String) (opts : RequestOpts) (target : Target)
    (state : GoState) : Except GoError (Option Json) × GoState :=
  match doRequest wire method path opts state with
  | (none, state) => (.error .transport, state)
  | (some received, state) =>
      if received.complete = false then (.error (readBodyFailed received path), state)
      else
        match Clients.decodeEnvelope received.reply (wire.parseError received.reply) with
        | .error error => (.error (.api error path), state)
        | .ok data =>
            if received.reply.status = 401 ∧ opts.noAuth = false then
              match tryRefresh wire state with
              | (.ok true, state) =>
                  match doRequest wire method path opts state with
                  | (none, state) => (.error .transport, state)
                  | (some second, state) => (decodeRetry second path target, state)
              | (_, state) => (decodeData data target, state)
            else (decodeData data target, state)

def doRawOwnerRetry (wire : Wire) (method path : String) (opts : RequestOpts) (state : GoState) :
    Except GoError Received × GoState :=
  match doRequest wire method path opts state with
  | (none, state) => (.error .transport, state)
  | (some received, state) =>
      if received.reply.status ≠ 401 ∨ opts.noAuth ∨ opts.shareAuth then (.ok received, state)
      else
        match tryRefresh wire state with
        | (.error error, state) => (.error error, state)
        | (.ok false, state) => (.error (.api ⟨0, 401, []⟩ path), state)
        | (.ok true, state) =>
            match doRequest wire method path opts state with
            | (none, state) => (.error .transport, state)
            | (some second, state) => (.ok second, state)

inductive OwnerCall where
  | envelope (target : Target)
  | raw

def OwnerCall.ownedBy (call : OwnerCall) (opts : RequestOpts) : Prop :=
  opts.noAuth = false ∧ (call = .raw → opts.shareAuth = false)

def perform (wire : Wire) (call : OwnerCall) (method path : String) (opts : RequestOpts)
    (state : GoState) : Except GoError Answered × GoState :=
  match call with
  | .envelope target =>
      let (result, state) := decodeEnvelope wire method path opts target state
      (result.map .data, state)
  | .raw =>
      let (result, state) := doRawOwnerRetry wire method path opts state
      (result.map .response, state)

end Calls

end DiskServer.Clients.Terminal
