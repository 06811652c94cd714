import AuditStage.World

/-! Fetching the published source text of an address, with one second try at a failing gateway. -/

namespace AuditStage

/-- The source text of an address, and what the explorer tells about it. -/
structure FetchedSource where
  sourceCode : String
  compilerVersion : String
  contractName : String
deriving Repr, DecidableEq

namespace Fetch

/-- The status of a gateway that got no answer itself. -/
def badGateway : Nat :=
  502

/-- What an explorer's answer offers, or why it offers nothing. -/
def sourceOf (envelope : Envelope) : Except String SourceEntry :=
  if !envelope.isSuccess then
    let detail :=
      match envelope.result with
      | .note text => text
      | .entries _ => envelope.message
    .error ("explorer status " ++ envelope.status ++ ": " ++ detail)
  else
    match envelope.result with
    | .note _ | .entries [] => .error "explorer returned no source entry"
    | .entries (entry :: _) =>
      if Text.isAllBlank entry.sourceCode then
        .error "source code not found for the given contract address"
      else .ok entry

/-- Asks the explorer, and once more if its gateway fails. -/
def request (address : String) : Run Envelope := do
  match ← Run.ask address with
  | .ok envelope => return envelope
  | .error error =>
    if error = .status badGateway then
      Run.note .warn "502 error encountered. Retrying..."
      match ← Run.ask address with
      | .ok envelope => return envelope
      | .error error =>
        if error = .status badGateway then throw (.gatewayFailure badGateway)
        else throw (.fetch error)
    else throw (.fetch error)

/-- The published source text of an address. -/
def source (address : String) : Run FetchedSource := do
  let envelope ← request address
  match sourceOf envelope with
  | .error reason => throw (.sourceUnavailable address reason)
  | .ok entry =>
    Run.note .info
      ("Fetched source for " ++ address ++ " (" ++
        toString (Text.octetCount entry.sourceCode.toList) ++
        " bytes, compiler " ++ entry.compilerVersion ++ ")")
    return ⟨entry.sourceCode, entry.compilerVersion, entry.contractName⟩

end Fetch

end AuditStage
