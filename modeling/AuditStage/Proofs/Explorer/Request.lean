import AuditStage.Proofs.Explorer.Retry
import AuditStage.Proofs.Url.Parse

/-! What an explorer is sent: the pairs in the query of a request are those of its URL, and behind them
the ones that ask for an address, whatever stands in the address and in the key. A reply may send the
client on to another URL, which is then asked for as the reply names it. -/

namespace AuditStage

/-- The pairs that the query of a request stands for. -/
def HttpRequest.pairs (request : HttpRequest) : List (String × String) :=
  match Text.splitFirst '?' request.target.toList with
  | some (_, query) => Url.decodePairs query
  | none => []

/-- A URL without its name and password has its scheme, its path and its query still. -/
theorem Url.withoutLogin_kept (url : Url) :
    url.withoutLogin.scheme = url.scheme ∧ url.withoutLogin.path = url.path ∧
      url.withoutLogin.query = url.query := by
  -- A host is needed for a login to be there, and a login for anything to be dropped.
  unfold withoutLogin
  split
  · exact ⟨rfl, rfl, rfl⟩
  split
  · exact ⟨rfl, rfl, rfl⟩
  · exact ⟨rfl, rfl, rfl⟩

/-- Pairs that are added to a URL leave its scheme as it is. -/
@[simp] theorem Url.withPairs_scheme (url : Url) (pairs : List (String × String)) :
    (url.withPairs pairs).scheme = url.scheme :=
  rfl

namespace Explorer

/-- Pairs that are added to a URL stand behind its own in the request for it. -/
theorem pairs_request_withPairs {url : Url} (bare : url.BarePath)
    (pairs : List (String × String)) :
    (request (url.withPairs pairs)).pairs =
      Url.decodePairs (url.query.getD "").toList ++ pairs := by
  rw [← Url.decodePairs_appendPairs]
  -- The first question mark of what is asked for stands behind the path, if there is a query.
  cases query : Url.appendPairs (url.query.getD "").toList pairs with
  | nil =>
    have whole : (request (url.withPairs pairs)).target.toList = url.path.toList := by
      simp [request, Url.target, Url.withPairs, query]
    simp only [HttpRequest.pairs, whole, Text.splitFirst_of_notMem bare]
    rfl
  | cons c rest =>
    have whole : (request (url.withPairs pairs)).target.toList =
        url.path.toList ++ '?' :: c :: rest := by
      simp [request, Url.target, Url.withPairs, query]
    simp only [HttpRequest.pairs, whole, Text.splitFirst_append bare]

/-- The URL that is requested for an address, where an explorer is reached at a URL. -/
def addressed (url : Url) (address key : String) : Url :=
  url.withoutLogin.withPairs (queryPairs address key)

/-- Whether a client accepts a URL to ask for an address at, securely or not. -/
def isAccepted (url : Url) (address key : String) : Bool :=
  url.hasHost && (addressed url address key).isSendable && url.isWeb

variable {endpoint : Endpoint} {url : Url}

/-- Where an explorer is reached at a URL, the URL that is addressed is requested if a client accepts
that, and no other. -/
theorem requestUrl_ok_iff (known : Url.parse endpoint.url = some url) (address : String)
    (asked : Url) :
    requestUrl endpoint address = .ok asked ↔
      isAccepted url address endpoint.key = true ∧ asked = addressed url address endpoint.key := by
  -- The scheme is looked at last, and it is that of the URL that was given.
  have web : (url.withoutLogin.withPairs (queryPairs address endpoint.key)).isWeb = url.isWeb := by
    rw [Url.isWeb, Url.withPairs_scheme, url.withoutLogin_kept.1, Url.isWeb]
  unfold isAccepted addressed requestUrl
  rw [known]
  dsimp only
  generalize url.withoutLogin.withPairs (queryPairs address endpoint.key) = built at web
  rw [web]
  constructor
  · intro sent
    -- What a URL is refused for is looked at one by one.
    split at sent
    · cases sent
    rename_i hosted
    split at sent
    · cases sent
    rename_i fits
    simp only [Bool.not_eq_true', Bool.or_eq_true, not_or, Bool.not_eq_false] at hosted fits
    cases sent
    exact ⟨by simp [hosted, fits], rfl⟩
  · -- None of the reasons to refuse it applies to a URL that is accepted.
    rintro ⟨accepted, rfl⟩
    simp only [Bool.and_eq_true] at accepted
    obtain ⟨⟨hosted, fits⟩, web⟩ := accepted
    simp [hosted, fits, web]

/-- The URLs that replies lead on to one after the other, up to the first reply that leads nowhere. -/
def trail : List HttpReply → List Url
  | [] => []
  | reply :: replies =>
    match reply.onward? with
    | none => []
    | some next => next :: trail replies

/-- A URL that can be reached is requested first, and then others that replies led on to, in their order
and for as long as the replies lead on at most. -/
theorem requests_exchange (left : Nat) {url : Url} {network : Network}
    (reached : network.reaches url = true) :
    ∃ followed, followed <+: trail network.replies ∧
      (exchange left url network).2.1 = (url :: followed).map request := by
  -- Each reply that is followed leaves one less to be followed.
  induction left generalizing url network with
  | zero =>
    refine ⟨[], List.nil_prefix, ?_⟩
    rw [exchange, if_neg (by simp [reached])]
    dsimp only
    split <;> rfl
  | succ left ih =>
    obtain ⟨secure, replies⟩ := network
    rw [exchange, if_neg (by simp [reached])]
    cases replies with
    -- Without a reply there is an empty answer, which leads nowhere.
    | nil => exact ⟨[], List.nil_prefix, rfl⟩
    | cons reply replies =>
      dsimp only [List.headD_cons, List.tail_cons, trail]
      cases reply.onward? with
      | none => exact ⟨[], List.nil_prefix, rfl⟩
      | some next =>
        dsimp only
        -- The next URL is asked for if it is one of the web and its host can be reached.
        by_cases web : next.isWeb = true
        · rw [if_neg (by simp [web])]
          by_cases further : (Network.mk secure replies).reaches next = true
          · obtain ⟨followed, lead, sent⟩ := ih further
            exact ⟨next :: followed, List.cons_prefix_cons.2 ⟨rfl, lead⟩, by
              rw [sent, List.map_cons, List.map_cons, List.map_cons]⟩
          · -- A host that is not reached is not sent anything.
            have unsent : (exchange left next ⟨secure, replies⟩).2.1 = [] := by
              unfold exchange
              rw [if_pos (by simp [further])]
            exact ⟨[], List.nil_prefix, by rw [unsent]; rfl⟩
        · rw [if_pos (by simp [web])]
          exact ⟨[], List.nil_prefix, rfl⟩

/-- What is left of a network is as secure as it was, with some of its replies taken from the front. -/
theorem exchange_left (left : Nat) (url : Url) (network : Network) :
    ∃ replies, replies <:+ network.replies ∧
      (exchange left url network).2.2 = ⟨network.secure, replies⟩ := by
  -- Every request takes one reply from the front, if there is one.
  have taken : network.replies.tail <:+ network.replies := List.tail_suffix _
  induction left generalizing url network with
  | zero =>
    unfold exchange
    split
    · exact ⟨network.replies, List.suffix_rfl, rfl⟩
    · dsimp only
      split <;> exact ⟨_, taken, rfl⟩
  | succ left ih =>
    unfold exchange
    split
    · exact ⟨network.replies, List.suffix_rfl, rfl⟩
    dsimp only
    split
    · exact ⟨_, taken, rfl⟩
    split
    · exact ⟨_, taken, rfl⟩
    · -- What the next request leaves is what the whole leaves.
      rename_i next _ _
      obtain ⟨replies, later, rest⟩ :=
        ih next { network with replies := network.replies.tail } (List.tail_suffix _)
      exact ⟨replies, later.trans taken, rest⟩

/-- What an explorer at an endpoint is sent when it is asked for an address: nothing, unless its URL is
accepted and its host is reached; then the request for the URL that is addressed, and requests for the
URLs that replies led on to. -/
def Sends (url asked : Url) (address key : String) (network : Network) (sent : List HttpRequest) : Prop :=
  if isAccepted url address key = true ∧ network.reaches url = true then
    ∃ followed, followed <+: trail network.replies ∧ sent = (asked :: followed).map request
  else sent = []

/-- Asking an explorer at an endpoint sends what it is to send, and the explorer stays at its endpoint. -/
theorem ask_sends (known : Url.parse endpoint.url = some url) (address : String) (network : Network) :
    Sends url (addressed url address endpoint.key) address endpoint.key network
        ((Explorer.http endpoint network).ask address).2.1 ∧
      ∃ replies, replies <:+ network.replies ∧
        ((Explorer.http endpoint network).ask address).2.2 =
          .http endpoint ⟨network.secure, replies⟩ := by
  have requested := requestUrl_ok_iff known address
  cases made : requestUrl endpoint address with
  | error error =>
    -- Without a URL to request, nothing is sent.
    have refused : isAccepted url address endpoint.key ≠ true := by
      intro accepted
      have made' := (requested _).2 ⟨accepted, rfl⟩
      rw [made] at made'
      cases made'
    refine ⟨?_, network.replies, List.suffix_rfl, by simp only [ask, made]⟩
    rw [Sends, if_neg fun both => refused both.1]
    simp only [ask, made]
  | ok asked =>
    obtain ⟨accepted, rfl⟩ := (requested asked).1 made
    obtain ⟨replies, later, rest⟩ :=
      exchange_left onwardLimit (addressed url address endpoint.key) network
    -- The pairs and the missing login do not change whether the host can be reached.
    have scheme : (addressed url address endpoint.key).scheme = url.scheme := by
      rw [addressed, Url.withPairs_scheme, url.withoutLogin_kept.1]
    have same : network.reaches (addressed url address endpoint.key) = network.reaches url := by
      rw [Network.reaches, Network.reaches, scheme]
    refine ⟨?_, replies, later, by simp only [ask, made, rest]⟩
    simp only [Sends, accepted, true_and, ask, made]
    split
    · rename_i reached
      exact requests_exchange onwardLimit (same.trans reached)
    · rename_i missed
      rw [exchange, if_pos (by simp [same, missed])]

end Explorer

section Fetching

variable {endpoint : Endpoint} {url : Url}

/-- Whatever characters an address and a key have, the request for the address stands for the pairs of
the explorer's own URL and for the four that name the address and the key, and for no others. It is what
the explorer is sent, securely or not, whenever it is asked for the address: once while the address is
fetched, and once more if the gateway failed. Every other request follows a reply, to the URL that the
reply names. -/
theorem Fetch.source_pairs (known : Url.parse endpoint.url = some url) (address : String) :
    let asked := Explorer.addressed url address endpoint.key
    (Explorer.request asked).pairs = Url.decodePairs (url.query.getD "").toList ++
        [("module", "contract"), ("action", "getsourcecode"), ("address", address),
          ("apiKey", endpoint.key)] ∧
      (∀ network : Network,
        let question := (Explorer.http endpoint network).ask address
        Explorer.Sends url asked address endpoint.key network question.2.1 ∧
          ∃ replies, replies <:+ network.replies ∧
            question.2.2 = .http endpoint ⟨network.secure, replies⟩) ∧
      ∀ before network, before.explorer = .http endpoint network →
        let question := (Explorer.http endpoint network).ask address
        (question.1 ≠ .error (.status badGateway) →
          (Effect.after (Fetch.source address) before).requests = before.requests ++ question.2.1) ∧
        (question.1 = .error (.status badGateway) →
          (Effect.after (Fetch.source address) before).requests =
            before.requests ++ question.2.1 ++ (question.2.2.ask address).2.1) := by
  intro asked
  -- Without its name and password the URL has the path and the query that were read for it.
  obtain ⟨-, path, query⟩ := url.withoutLogin_kept
  have bare : url.withoutLogin.BarePath := by
    rw [Url.BarePath, path]
    exact Url.barePath_of_parse known
  refine ⟨?pairs, fun network => Explorer.ask_sends known address network, ?fetched⟩
  case pairs =>
    unfold asked Explorer.addressed
    rw [Explorer.pairs_request_withPairs bare, query, Explorer.queryPairs]
  case fetched =>
    intro before network reached
    rw [← reached]
    exact requests_source address before

end Fetching

/-- An explorer behind a secure connection, with a key that looks like a query. -/
def secureEndpoint : Endpoint :=
  ⟨"https://[2001:db8::1]/api", "k&address=é 100%"⟩

/-- The parts of that explorer's URL. -/
def secureUrl : Url :=
  ⟨"https", "", none, some "[2001:db8::1]", none, "/api", none, none⟩

/-- The place that it has been moved to. -/
def movedUrl : Url :=
  ⟨"https", "", none, some "explorer.example", none, "/v2", some "moved=1", none⟩

/-- An explorer at an address of its own, whose URL has a query already. -/
def loopbackEndpoint : Endpoint :=
  ⟨"http://[::1]/api?chain=8453", "k&address=é 100%"⟩

/-- The parts of that explorer's URL. -/
def loopbackUrl : Url :=
  ⟨"http", "", none, some "[::1]", none, "/api", some "chain=8453", none⟩

/-- Marks of a query that stand in an address or a key remain parts of the address and the key, over a
secure connection with a reply that leads on, and over one that is not secure. -/
theorem source_pairs_marked :
    (∃ sent followed, followed <+: [movedUrl] ∧
      ((Explorer.http secureEndpoint ⟨true, [⟨302, "", some movedUrl⟩]⟩).ask "0x1&apiKey=+#").2.1 =
        sent :: followed.map Explorer.request ∧
      sent.pairs = [("module", "contract"), ("action", "getsourcecode"),
        ("address", "0x1&apiKey=+#"), ("apiKey", "k&address=é 100%")]) ∧
    ∃ sent, ((Explorer.http loopbackEndpoint ⟨false, []⟩).ask "0x1&apiKey=+#").2.1 = [sent] ∧
      sent.pairs = [("chain", "8453"), ("module", "contract"), ("action", "getsourcecode"),
        ("address", "0x1&apiKey=+#"), ("apiKey", "k&address=é 100%")] := by
  constructor
  · have known : Url.parse secureEndpoint.url = some secureUrl := by decide +kernel
    have accepted :
        Explorer.isAccepted secureUrl "0x1&apiKey=+#" secureEndpoint.key = true := by
      decide +kernel
    -- The only reply leads on to a place of the web.
    have moved : Explorer.trail [⟨302, "", some movedUrl⟩] = [movedUrl] := by decide +kernel
    obtain ⟨pairs, sends, -⟩ := Fetch.source_pairs known "0x1&apiKey=+#"
    have sent := (sends ⟨true, [⟨302, "", some movedUrl⟩]⟩).1
    rw [Explorer.Sends, if_pos ⟨accepted, rfl⟩, moved] at sent
    obtain ⟨followed, lead, sent⟩ := sent
    exact ⟨_, followed, lead, sent, pairs⟩
  · have known : Url.parse loopbackEndpoint.url = some loopbackUrl := by decide +kernel
    have accepted :
        Explorer.isAccepted loopbackUrl "0x1&apiKey=+#" loopbackEndpoint.key = true := by
      decide +kernel
    -- The URL of the explorer has a pair of its own, which stands first.
    have own : Url.decodePairs (loopbackUrl.query.getD "").toList = [("chain", "8453")] := by
      decide +kernel
    obtain ⟨pairs, sends, -⟩ := Fetch.source_pairs known "0x1&apiKey=+#"
    have sent := (sends ⟨false, []⟩).1
    rw [Explorer.Sends, if_pos ⟨accepted, rfl⟩] at sent
    obtain ⟨followed, lead, sent⟩ := sent
    -- Without a reply there is nothing to follow.
    obtain rfl : followed = [] := List.prefix_nil.1 lead
    rw [own] at pairs
    exact ⟨_, sent, pairs⟩

end AuditStage
