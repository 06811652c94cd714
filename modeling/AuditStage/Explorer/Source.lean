import AuditStage.Explorer.Envelope
import AuditStage.Failure
import AuditStage.Url.Parse

/-! Where an explorer's answers come from: a prepared script, or replies over HTTP. -/

namespace AuditStage

/-- One answer of an explorer, or why there is none. -/
abbrev ExplorerReply := Except FetchError Envelope

/-- One reply to an HTTP request. -/
structure HttpReply where
  status : Nat
  body : String
  /-- The URL, in full, that the reply names as the place to ask instead, if it names one. -/
  location : Option Url
deriving Repr, DecidableEq

/-- What lies between a client and the hosts that it asks. -/
structure Network where
  /-- Whether a secure connection can be made to a host. -/
  secure : Bool
  /-- The replies to come; after them, nothing is found. -/
  replies : List HttpReply
deriving Repr, DecidableEq

/-- One HTTP request as it is sent. -/
structure HttpRequest where
  method : String
  target : String
  userAgent : String
deriving Repr, DecidableEq

/-- Where an explorer is reached, and the key that it asks for. -/
structure Endpoint where
  url : String
  key : String
deriving Repr, DecidableEq

/-- An explorer and what it is going to say. -/
inductive Explorer where
  /-- For each address the answers to come; after them, nothing is found. -/
  | scripted (queues : List (String × List ExplorerReply))
  /-- An explorer that is asked over a network. -/
  | http (endpoint : Endpoint) (network : Network)

/-- The version of this program. -/
def programVersion : String :=
  "0.1.0"

/-- Whether a connection can be made to the host of a URL. -/
def Network.reaches (network : Network) (url : Url) : Bool :=
  url.scheme == "http" || network.secure

namespace HttpReply

/-- The statuses of a reply that sends its client on to another URL. -/
def onwardStatuses : List Nat :=
  [301, 302, 303, 307, 308]

/-- The URL that a reply sends its client on to, if a request for that can be sent. -/
def onward? (reply : HttpReply) : Option Url :=
  if onwardStatuses.contains reply.status then reply.location.filter (·.isSendable) else none

end HttpReply

namespace Explorer

/-- What is said when no reply is left. -/
def nothingFound : Nat :=
  404

/-- The answer for an address from a script, and the script left after it. -/
def popQueue (address : String) :
    List (String × List ExplorerReply) → ExplorerReply × List (String × List ExplorerReply)
  | [] => (.error (.status nothingFound), [])
  | (name, replies) :: queues =>
    if name = address then
      match replies with
      | [] => (.error (.status nothingFound), (name, []) :: queues)
      | reply :: replies => (reply, (name, replies) :: queues)
    else
      let (reply, queues) := popQueue address queues
      (reply, (name, replies) :: queues)

/-- The pairs that ask for the source text of an address. -/
def queryPairs (address key : String) : List (String × String) :=
  [("module", "contract"), ("action", "getsourcecode"), ("address", address), ("apiKey", key)]

/-- The URL to request for an address, or why no request can be made. -/
def requestUrl (endpoint : Endpoint) (address : String) : Except FetchError Url :=
  match Url.parse endpoint.url with
  | none => .error (.transport "builder error")
  | some url =>
    if !url.hasHost then .error (.transport ("builder error for url (" ++ url.text ++ ")"))
    else
      let url := url.withoutLogin.withPairs (queryPairs address endpoint.key)
      if !url.isWeb || !url.isSendable then
        .error (.transport ("builder error for url (" ++ url.text ++ ")"))
      else .ok url

/-- The request for a URL. -/
def request (url : Url) : HttpRequest :=
  ⟨"GET", url.target, "contract-sentinel/" ++ programVersion⟩

/-- The answer that an HTTP reply carries. -/
def readReply (reply : HttpReply) : ExplorerReply :=
  if reply.status < 200 || 299 < reply.status then .error (.status reply.status)
  else
    -- A reply that announces no content has none.
    let body := if reply.status = 204 then [] else reply.body.toList
    (Envelope.parse body).mapError fun _ =>
      .transport "invalid explorer response: error decoding response body"

/-- How often a client lets itself be sent on from one URL to another. -/
def onwardLimit : Nat :=
  10

/-- What comes of asking for a URL: the answer, the requests that it took, and the network after them.
A reply that sends the client on is followed, as often as that is left to be done. -/
def exchange (left : Nat) (url : Url) (network : Network) :
    ExplorerReply × List HttpRequest × Network :=
  if !network.reaches url then
    (.error (.transport ("error sending request for url (" ++ url.text ++ ")")), [], network)
  else
    let reply := network.replies.headD ⟨nothingFound, "", none⟩
    let network := { network with replies := network.replies.tail }
    match reply.onward? with
    | none => (readReply reply, [request url], network)
    | some next =>
      match left with
      | 0 =>
        (.error (.transport ("error following redirect for url (" ++ url.text ++ ")")), [request url],
          network)
      | left + 1 =>
        if !next.isWeb then
          (.error (.transport ("builder error for url (" ++ next.text ++ ")")), [request url], network)
        else
          let (answer, requests, network) := exchange left next network
          (answer, request url :: requests, network)

/-- The answer for an address, the requests it took, and the explorer after it. -/
def ask (explorer : Explorer) (address : String) :
    ExplorerReply × List HttpRequest × Explorer :=
  match explorer with
  | .scripted queues =>
    let (reply, queues) := popQueue address queues
    (reply, [], .scripted queues)
  | .http endpoint network =>
    match requestUrl endpoint address with
    | .error error => (.error error, [], .http endpoint network)
    | .ok url =>
      let (reply, requests, network) := exchange onwardLimit url network
      (reply, requests, .http endpoint network)

end Explorer

end AuditStage
