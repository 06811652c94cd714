import AuditStage.Explorer.Fetch
import AuditStage.Proofs.Effect

/-! Fetching from an explorer whose gateway may fail: which replies a call uses up, and what comes of it by
those replies, over calls in a row. -/

namespace AuditStage

namespace Explorer

/-- Asked for addresses one after another, an explorer gives these replies, and this is what is left. -/
inductive Gives : Explorer → List (String × ExplorerReply) → Explorer → Prop where
  | none {explorer : Explorer} : Gives explorer [] explorer
  | next {explorer last : Explorer} {address : String} {more : List (String × ExplorerReply)}
      (others : Gives (explorer.ask address).2.2 more last) :
      Gives explorer ((address, (explorer.ask address).1) :: more) last

/-- Replies that are given in a row may be taken in two parts. -/
theorem Gives.append {explorer between last : Explorer} {first next : List (String × ExplorerReply)}
    (given : Gives explorer first between) (more : Gives between next last) :
    Gives explorer (first ++ next) last := by
  -- The second part starts where the induction over the first one ends.
  induction given with
  | none => exact more
  | next _ ih => exact .next (ih more)

/-- The first reply that is given is the one that comes next. -/
theorem Gives.first {explorer last : Explorer} {given : List (String × ExplorerReply)} {address : String}
    {reply : ExplorerReply} (gives : Gives explorer given last)
    (front : given.head? = some (address, reply)) : (explorer.ask address).1 = reply := by
  -- The first reply in line is the one that is given first.
  cases gives with
  | none => cases front
  | next others =>
    simp only [List.head?_cons, Option.some.injEq, Prod.mk.injEq] at front
    obtain ⟨rfl, rfl⟩ := front
    rfl

/-- The replies that a script has left for an address. -/
def queueFor (queues : List (String × List ExplorerReply)) (address : String) : List ExplorerReply :=
  ((queues.find? (·.1 == address)).map (·.2)).getD []

/-- The replies that were given for an address. -/
def repliesFor (given : List (String × ExplorerReply)) (address : String) : List ExplorerReply :=
  (given.filter (·.1 == address)).map (·.2)

/-- What is said when no reply is left for an address. -/
def silence : ExplorerReply :=
  .error (.status nothingFound)

/-- A reply is taken from the front of the queue for its address, and no other queue is touched. -/
theorem popQueue_spec (address : String) (queues : List (String × List ExplorerReply)) :
    (popQueue address queues).1 = (queueFor queues address).headD silence ∧
      ∀ other, queueFor (popQueue address queues).2 other =
        if other = address then (queueFor queues address).tail else queueFor queues other := by
  -- The queues are gone through as they are when a reply is popped.
  induction queues with
  | nil => simp [popQueue, queueFor, silence]
  | cons queue queues ih =>
    obtain ⟨name, replies⟩ := queue
    simp only [queueFor] at ih ⊢
    -- The first queue of the name counts, whatever stands behind it.
    by_cases same : name = address
    · subst same
      refine ⟨by cases replies <;> simp [popQueue, silence], fun other => ?_⟩
      by_cases here : name = other
      · cases replies <;> simp [popQueue, here]
      · cases replies <;> simp [popQueue, here, Ne.symm here]
    · -- A queue of another name is passed over and kept.
      obtain ⟨popped, left⟩ := ih
      refine ⟨by simpa [popQueue, same] using popped, fun other => ?_⟩
      by_cases here : name = other
      · have apart : other ≠ address := here ▸ same
        simp [popQueue, here, apart]
      · simpa [popQueue, same, here] using left other

/-- A script gives the replies that it has for an address in their order, and then says that nothing was
found; what it has not given is left. -/
theorem Gives.scripted {queues : List (String × List ExplorerReply)} {last : Explorer}
    {given : List (String × ExplorerReply)} (gives : Gives (.scripted queues) given last) :
    ∃ left, last = .scripted left ∧ ∀ address,
      repliesFor given address ++ queueFor left address =
        queueFor queues address ++ List.replicate
          ((repliesFor given address).length - (queueFor queues address).length) silence := by
  generalize started : Explorer.scripted queues = explorer at gives
  -- The induction is on the replies, each taken from what those before have left.
  induction gives generalizing queues with
  | none => exact ⟨queues, started.symm, fun address => by simp [repliesFor]⟩
  | @next explorer last asked more others ih =>
    subst started
    -- The first reply comes from the queue of its address, and the rest from what that leaves.
    obtain ⟨popped, kept⟩ := popQueue_spec asked queues
    obtain ⟨left, rfl, rest⟩ := @ih (popQueue asked queues).2 rfl
    refine ⟨left, rfl, fun address => ?_⟩
    have rest := rest address
    rw [kept] at rest
    by_cases here : asked = address
    · subst here
      have first : repliesFor ((asked, ((Explorer.scripted queues).ask asked).1) :: more) asked =
          (popQueue asked queues).1 :: repliesFor more asked := by
        simp [repliesFor, ask]
      rw [if_pos rfl] at rest
      rw [first, popped, List.cons_append, rest]
      -- Nothing is left of an empty queue, and one reply less of any other.
      cases queueFor queues asked with
      | nil => simp [List.replicate_succ]
      | cons reply replies => simp
    · -- For any other address this reply is none of those that count.
      have other : repliesFor ((asked, ((Explorer.scripted queues).ask asked).1) :: more) address =
          repliesFor more address := by
        simp [repliesFor, here]
      rw [if_neg (Ne.symm here)] at rest
      rw [other, rest]

end Explorer

namespace Fetch

/-- The reply of a gateway that got no answer itself. -/
def gatewayDown : ExplorerReply :=
  .error (.status badGateway)

/-- What comes of a call whose last reply is not that of a failing gateway. -/
def settle (address : String) : ExplorerReply → Except Failure FetchedSource
  | .error error => .error (.fetch error)
  | .ok envelope =>
    match sourceOf envelope with
    | .error reason => .error (.sourceUnavailable address reason)
    | .ok entry => .ok ⟨entry.sourceCode, entry.compilerVersion, entry.contractName⟩

/-- What comes of a call by the replies that it uses up. -/
inductive Concludes (address : String) :
    List ExplorerReply → Except Failure FetchedSource → Prop where
  | once {reply : ExplorerReply} (other : reply ≠ gatewayDown) :
      Concludes address [reply] (settle address reply)
  | again {reply : ExplorerReply} (other : reply ≠ gatewayDown) :
      Concludes address [gatewayDown, reply] (settle address reply)
  | gone : Concludes address [gatewayDown, gatewayDown] (.error (.gatewayFailure badGateway))

/-- Between two worlds the explorer was asked for an address, and gave these replies. -/
structure Asked (address : String) (replies : List ExplorerReply) (before after : World) : Prop where
  given : before.explorer.Gives (replies.map (address, ·)) after.explorer
  recorded : ∃ inquiries, after.inquiries = before.inquiries ++ inquiries ∧
    inquiries.map (·.reply) = replies

section Asking

variable {address : String} {before between after : World}

/-- Asking gives the next reply. -/
theorem ask_asked (address : String) (before : World) :
    ∃ after, Run.ask address before = .ok (before.explorer.ask address).1 after ∧
      Asked address [(before.explorer.ask address).1] before after :=
  ⟨_, rfl, .next .none, _, rfl, rfl⟩

/-- Replies to questions in a row are put on record in a row. -/
theorem Asked.append {first next : List ExplorerReply} (asked : Asked address first before between)
    (again : Asked address next between after) : Asked address (first ++ next) before after where
  given := by
    rw [List.map_append]
    exact asked.given.append again.given
  recorded := by
    -- Both questions add their own requests to the record, one behind the other.
    obtain ⟨earlier, added, rfl⟩ := asked.recorded
    obtain ⟨later, more, rfl⟩ := again.recorded
    exact ⟨earlier ++ later, by rw [more, added, List.append_assoc], List.map_append⟩

/-- What is noted in the log makes no difference. -/
theorem Asked.noted {replies : List ExplorerReply} (asked : Asked address replies before between)
    (log : List LogRecord) : Asked address replies before { between with log } :=
  ⟨asked.given, asked.recorded⟩

/-- A call whose question is answered goes on with the answer that was given. -/
theorem source_of_request {envelope : Envelope}
    (requested : request address before = .ok envelope between) :
    ∃ log, Effect.after (source address) before = { between with log } ∧
      Effect.outcome (source address) before = settle address (.ok envelope) := by
  unfold Effect.after Effect.outcome source settle
  -- Behind the question no reply is used, so only what is made of the answer is left to say.
  rw [Effect.bind_of_ok requested]
  -- What is offered is told in the log, and where nothing is the call fails.
  cases offered : sourceOf envelope with
  | error reason =>
    simp only [offered]
    exact ⟨between.log, rfl, rfl⟩
  | ok entry =>
    simp only [offered]
    exact ⟨_, rfl, rfl⟩

/-- A call whose question is not answered fails as the question does. -/
theorem source_of_refusal {failure : Failure}
    (refused : request address before = .error failure between) :
    Effect.after (source address) before = between ∧
      Effect.outcome (source address) before = .error failure := by
  unfold Effect.after Effect.outcome source
  rw [Effect.bind_of_error refused]
  exact ⟨rfl, rfl⟩

/-- How a question ends with its last reply, if that is not the one of a failing gateway. -/
def requestEnd (reply : ExplorerReply) (world : World) : EStateM.Result Failure World Envelope :=
  match reply with
  | .ok envelope => .ok envelope world
  | .error error => .error (.fetch error) world

/-- The first reply counts unless it is that of a failing gateway. -/
theorem request_once {reply : ExplorerReply} (asked : Run.ask address before = .ok reply between)
    (other : reply ≠ gatewayDown) : request address before = requestEnd reply between := by
  -- An error that is not of a failing gateway is handed on as it is.
  unfold request
  rw [Effect.bind_of_ok asked]
  cases reply with
  | ok envelope => rfl
  | error error =>
    have answered : error ≠ .status badGateway := fun same => other (same ▸ rfl)
    simp only [if_neg answered]
    rfl

/-- The world in which a failing gateway is asked once more. -/
def warned (world : World) : World :=
  { world with log := world.log ++ [⟨.warn, "502 error encountered. Retrying..."⟩] }

/-- Behind the reply of a failing gateway the second reply counts, and a second such reply is an end. -/
theorem request_again {reply : ExplorerReply} (asked : Run.ask address before = .ok gatewayDown between)
    (again : Run.ask address (warned between) = .ok reply after) :
    (reply = gatewayDown →
      request address before = .error (.gatewayFailure badGateway) after) ∧
      (reply ≠ gatewayDown → request address before = requestEnd reply after) := by
  -- Between the two questions there is a warning in the log, and nothing else.
  have told : Run.note .warn "502 error encountered. Retrying..." between = .ok () (warned between) :=
    rfl
  unfold request
  rw [Effect.bind_of_ok asked]
  simp only [gatewayDown, if_true]
  rw [Effect.bind_of_ok told, Effect.bind_of_ok again]
  -- Two replies have been used by now, and neither branch asks for a third.
  constructor
  · rintro rfl
    rfl
  · intro other
    cases reply with
    | ok envelope => rfl
    | error error =>
      have answered : error ≠ .status badGateway := fun same => other (same ▸ rfl)
      simp only [if_neg answered]
      rfl

/-- A call adds no more than a line in the log to what its question has left behind. -/
theorem after_source {reply : ExplorerReply}
    (requested : request address before = requestEnd reply between) :
    ∃ log, Effect.after (source address) before = { between with log } ∧
      Effect.outcome (source address) before = settle address reply := by
  cases reply with
  | ok envelope => exact source_of_request requested
  | error error => exact ⟨between.log, source_of_refusal requested⟩

/-- What comes of a question settles what comes of the call. -/
theorem source_settles {reply : ExplorerReply} {replies : List ExplorerReply}
    (asked : Asked address replies before between)
    (requested : request address before = requestEnd reply between) :
    Asked address replies before (Effect.after (source address) before) ∧
      Effect.outcome (source address) before = settle address reply := by
  obtain ⟨log, left, settled⟩ := after_source requested
  exact ⟨left ▸ asked.noted log, settled⟩

/-- A call uses up one reply, or two if the first is that of a failing gateway, and what comes of it
follows from them. -/
theorem source_concludes (address : String) (before : World) :
    ∃ replies, Asked address replies before (Effect.after (source address) before) ∧
      Concludes address replies (Effect.outcome (source address) before) := by
  obtain ⟨first, asked, given⟩ := ask_asked address before
  generalize (before.explorer.ask address).1 = reply at asked given
  -- Whether a second reply is used is decided by the first one.
  by_cases down : reply = gatewayDown
  · subst down
    -- A failing gateway is asked once more, and no third time.
    obtain ⟨second, again, further⟩ := ask_asked address (warned first)
    generalize ((warned first).explorer.ask address).1 = reply at again further
    have both : Asked address [gatewayDown, reply] before second :=
      (given.noted (warned first).log).append further
    -- The second reply decides between giving up and being settled by it.
    obtain ⟨refused, requested⟩ := request_again asked again
    by_cases gone : reply = gatewayDown
    · obtain ⟨left, failed⟩ := source_of_refusal (refused gone)
      exact ⟨[gatewayDown, reply], left ▸ both, by rw [failed, gone]; exact .gone⟩
    · obtain ⟨settled, ended⟩ := source_settles both (requested gone)
      exact ⟨[gatewayDown, reply], settled, ended ▸ .again gone⟩
  · obtain ⟨settled, ended⟩ := source_settles given (request_once asked down)
    exact ⟨[reply], settled, ended ▸ .once down⟩

/-- A call sends the requests of its question, and those of a second one if the gateway failed. -/
theorem requests_source (address : String) (before : World) :
    let asked := before.explorer.ask address
    (asked.1 ≠ gatewayDown → (Effect.after (source address) before).requests =
        before.requests ++ asked.2.1) ∧
      (asked.1 = gatewayDown → (Effect.after (source address) before).requests =
        before.requests ++ asked.2.1 ++ (asked.2.2.ask address).2.1) := by
  intro asked
  let first := Effect.after (Run.ask address) before
  let second := Effect.after (Run.ask address) (warned first)
  -- Each question adds the requests that the explorer makes for it in that world.
  have sent (world : World) : (Effect.after (Run.ask address) world).requests =
      world.requests ++ (world.explorer.ask address).2.1 := by
    simp [Effect.after, Run.ask, World.requests]
  have once : Run.ask address before = .ok asked.1 first := rfl
  have again : Run.ask address (warned first) = .ok (asked.2.2.ask address).1 second := rfl
  -- One question is enough unless the first reply is that of a failing gateway.
  constructor
  · intro other
    obtain ⟨log, left, -⟩ := after_source (request_once once other)
    rw [left]
    exact sent before
  · intro down
    -- The second question goes to the explorer as the first one has left it.
    have both : second.requests =
        before.requests ++ asked.2.1 ++ (asked.2.2.ask address).2.1 := by
      rw [sent, show (warned first).requests = first.requests from rfl, sent]
      rfl
    rw [← both]
    obtain ⟨refused, requested⟩ := request_again (down ▸ once) again
    -- Whatever the second reply is, nothing more is sent.
    by_cases gone : (asked.2.2.ask address).1 = gatewayDown
    · rw [(source_of_refusal (refused gone)).1]
    · obtain ⟨log, left, -⟩ := after_source (requested gone)
      rw [left]
      rfl

end Asking

/-- An offer is made of the first entry of an answer that reports success, if that has any source text. -/
theorem sourceOf_ok_iff {envelope : Envelope} {entry : SourceEntry} :
    sourceOf envelope = .ok entry ↔
      envelope.status = "1" ∧ (∃ entries, envelope.result = .entries (entry :: entries)) ∧
        ∃ c ∈ entry.sourceCode.toList, Text.isBlank c = false := by
  unfold sourceOf
  -- The status is looked at first, and an answer that reports no success offers nothing.
  by_cases success : envelope.status = "1"
  · have reported : envelope.isSuccess = true := by simp [Envelope.isSuccess, success]
    rw [if_neg (by simp [reported])]
    cases envelope.result with
    | note text => simp
    | entries items =>
      cases items with
      | nil => simp
      | cons first items =>
        -- Text with a character that is no blank is what makes an entry one to offer.
        by_cases blank : Text.isAllBlank first.sourceCode = true
        · have nothing : ∀ c ∈ first.sourceCode.toList, Text.isBlank c = true := List.all_eq_true.1 blank
          simp only [blank, if_true, reduceCtorEq, success, true_and, false_iff, not_and]
          rintro ⟨entries, same⟩ ⟨c, member, visible⟩
          cases same
          rw [nothing c member] at visible
          cases visible
        · have something : ∃ c ∈ first.sourceCode.toList, Text.isBlank c = false := by
            simpa [Text.isAllBlank] using blank
          simp only [if_neg blank, Except.ok.injEq, success, true_and]
          constructor
          · rintro rfl
            exact ⟨⟨items, rfl⟩, something⟩
          · rintro ⟨⟨entries, same⟩, -⟩
            cases same
            rfl
  · simp [Envelope.isSuccess, success]

/-- An answer is settled as a source exactly if there is an offer in it. -/
theorem settle_ok_iff {address : String} {reply : ExplorerReply} {source : FetchedSource} :
    settle address reply = .ok source ↔ ∃ envelope entry entries, reply = .ok envelope ∧
      envelope.status = "1" ∧ envelope.result = .entries (entry :: entries) ∧
      (∃ c ∈ entry.sourceCode.toList, Text.isBlank c = false) ∧
      source = ⟨entry.sourceCode, entry.compilerVersion, entry.contractName⟩ := by
  -- Of all that is settled only an offer becomes a source.
  constructor
  · intro settled
    cases reply with
    | error error => cases settled
    | ok envelope =>
      unfold settle at settled
      cases offered : sourceOf envelope with
      | error reason => simp [offered] at settled
      | ok entry =>
        simp only [offered, Except.ok.injEq] at settled
        obtain ⟨success, ⟨entries, listed⟩, visible⟩ := sourceOf_ok_iff.1 offered
        exact ⟨envelope, entry, entries, rfl, success, listed, visible, settled.symm⟩
  · rintro ⟨envelope, entry, entries, rfl, success, listed, visible, rfl⟩
    have offered := sourceOf_ok_iff.2 ⟨success, ⟨entries, listed⟩, visible⟩
    simp only [settle, offered]

/-- One call for an address: the replies that it used up, and what came of it. -/
structure Retrieval where
  address : String
  replies : List ExplorerReply
  outcome : Except Failure FetchedSource

namespace Retrieval

/-- The replies of a call, each with the address that they were asked for. -/
def exchanged (retrieval : Retrieval) : List (String × ExplorerReply) :=
  retrieval.replies.map (retrieval.address, ·)

end Retrieval

/-- Calls for an address in a world. -/
def retrieve (address : String) (before : World) : Retrieval where
  address := address
  replies :=
    ((Effect.after (source address) before).inquiries.drop before.inquiries.length).map (·.reply)
  outcome := Effect.outcome (source address) before

/-- Calls for addresses, one after another, whatever comes of each. -/
def retrieveAll : List String → World → List Retrieval
  | [], _ => []
  | address :: addresses, world =>
    retrieve address world :: retrieveAll addresses (Effect.after (source address) world)

/-- The world that calls for addresses have led to. -/
def afterAll (addresses : List String) (world : World) : World :=
  addresses.foldl (fun world address => Effect.after (source address) world) world

/-- A call keeps to the rule: it uses up one reply, or two if the first is that of a failing gateway; a
second try makes no difference to what comes of the reply that it is given; and what comes of it follows
from the last reply, which only a successful answer with source text turns into a source. -/
structure Retrieval.Lawful (retrieval : Retrieval) : Prop where
  consumed : (∃ reply, reply ≠ gatewayDown ∧ retrieval.replies = [reply]) ∨
    ∃ reply, retrieval.replies = [gatewayDown, reply]
  retried : ∀ reply, reply ≠ gatewayDown → retrieval.replies = [gatewayDown, reply] →
    ∀ world : World, (world.explorer.ask retrieval.address).1 = reply →
      retrieve retrieval.address world = ⟨retrieval.address, [reply], retrieval.outcome⟩
  gaveUp : retrieval.replies = [gatewayDown, gatewayDown] →
    retrieval.outcome = .error (.gatewayFailure badGateway)
  refused : ∀ error, error ≠ .status badGateway → retrieval.replies.getLast? = some (.error error) →
    retrieval.outcome = .error (.fetch error)
  fetched : ∀ source, retrieval.outcome = .ok source ↔ ∃ envelope entry entries,
    retrieval.replies.getLast? = some (.ok envelope) ∧ envelope.status = "1" ∧
      envelope.result = .entries (entry :: entries) ∧
      (∃ c ∈ entry.sourceCode.toList, Text.isBlank c = false) ∧
      source = ⟨entry.sourceCode, entry.compilerVersion, entry.contractName⟩
  unavailable : ∀ envelope, retrieval.replies.getLast? = some (.ok envelope) →
    (∀ source, retrieval.outcome ≠ .ok source) →
      ∃ reason, retrieval.outcome = .error (.sourceUnavailable retrieval.address reason)

/-- A call uses up the replies that it has on record, and they decide what comes of it. -/
theorem retrieve_asked (address : String) (world : World) :
    ∃ replies outcome, retrieve address world = ⟨address, replies, outcome⟩ ∧
      Asked address replies world (Effect.after (source address) world) ∧
      Concludes address replies outcome := by
  obtain ⟨replies, asked, concludes⟩ := source_concludes address world
  refine ⟨replies, _, ?_, asked, concludes⟩
  -- What the call has added to the record are those replies.
  obtain ⟨inquiries, added, rfl⟩ := asked.recorded
  simp only [retrieve, added, List.drop_left]

/-- A call that is not given the reply of a failing gateway at first is settled by what it is given. -/
theorem retrieve_of_reply {address : String} {world : World}
    (other : (world.explorer.ask address).1 ≠ gatewayDown) :
    retrieve address world =
      ⟨address, [(world.explorer.ask address).1], settle address (world.explorer.ask address).1⟩ := by
  obtain ⟨replies, outcome, called, ⟨given, -⟩, concludes⟩ := retrieve_asked address world
  rw [called]
  -- The first of the replies is the one that the explorer gives.
  cases concludes with
  | once => rw [given.first rfl]
  | again => exact absurd (given.first rfl) other
  | gone => exact absurd (given.first rfl) other

/-- A call whose last reply is not that of a failing gateway keeps to the rule. -/
theorem settled_lawful {address : String} {replies : List ExplorerReply} {last : ExplorerReply}
    (other : last ≠ gatewayDown) (consumed : replies = [last] ∨ replies = [gatewayDown, last]) :
    Retrieval.Lawful ⟨address, replies, settle address last⟩ := by
  -- In both cases the reply that counts is the last of those used.
  have ended : replies.getLast? = some last := by rcases consumed with rfl | rfl <;> rfl
  have last_of_two {reply : ExplorerReply} (taken : replies = [gatewayDown, reply]) : reply = last := by
    rw [taken] at ended
    exact Option.some.inj ended
  -- Given twice the reply of a failing gateway would be the last one, which it is not.
  refine ⟨?consumed, ?retried, ?gaveUp, ?refused, ?fetched, ?unavailable⟩
  case consumed => exact consumed.imp (⟨last, other, ·⟩) (⟨last, ·⟩)
  case retried =>
    rintro reply answered taken world rfl
    -- A call that is given this reply at first is settled by it in the same way.
    rw [retrieve_of_reply answered, last_of_two taken]
  case gaveUp => exact fun taken => absurd (last_of_two taken).symm other
  case refused =>
    intro error _ failed
    obtain rfl : last = .error error := Option.some.inj (ended.symm.trans failed)
    rfl
  case fetched =>
    intro source
    simp only [ended, Option.some.injEq, settle_ok_iff]
  case unavailable =>
    intro envelope answered nothing
    obtain rfl : last = .ok envelope := Option.some.inj (ended.symm.trans answered)
    unfold settle at nothing ⊢
    -- An answer from which nothing is fetched is one without an offer.
    cases offered : sourceOf envelope with
    | error reason => exact ⟨reason, by simp only [offered]⟩
    | ok entry =>
      simp only [offered] at nothing
      exact absurd rfl (nothing _)

/-- A call that is given the reply of a failing gateway twice keeps to the rule. -/
theorem gone_lawful (address : String) : Retrieval.Lawful
    ⟨address, [gatewayDown, gatewayDown], .error (.gatewayFailure badGateway)⟩ := by
  -- The last reply is an error, so the parts about answers are empty.
  refine ⟨.inr ⟨gatewayDown, rfl⟩, ?retried, fun _ => rfl, ?refused, ?fetched, ?unavailable⟩
  case retried =>
    intro reply other taken
    obtain rfl : gatewayDown = reply := by simpa using taken
    exact absurd rfl other
  case refused =>
    intro error other failed
    obtain rfl : .status badGateway = error := by simpa [gatewayDown] using failed
    exact absurd rfl other
  case fetched => simp [gatewayDown]
  case unavailable =>
    intro envelope answered
    simp [gatewayDown] at answered

/-- Every call keeps to the rule. -/
theorem retrieve_lawful (address : String) (world : World) : (retrieve address world).Lawful := by
  obtain ⟨replies, outcome, called, -, concludes⟩ := retrieve_asked address world
  rw [called]
  -- There are three ways for a call to end, and the first two end in the same manner.
  cases concludes with
  | once other => exact settled_lawful other (.inl rfl)
  | again other => exact settled_lawful other (.inr rfl)
  | gone => exact gone_lawful address

/-- Calls in a row use up what the explorer gives, each from where the one before it has stopped. -/
theorem retrieveAll_given (addresses : List String) (world : World) :
    world.explorer.Gives ((retrieveAll addresses world).flatMap Retrieval.exchanged)
      (afterAll addresses world).explorer := by
  -- The calls are made one after another, each in the world that the last one has left.
  induction addresses generalizing world with
  | nil => exact .none
  | cons address addresses ih =>
    obtain ⟨replies, outcome, called, asked, -⟩ := retrieve_asked address world
    rw [retrieveAll, List.flatMap_cons, called]
    exact asked.given.append (ih _)

/-- Over any calls in a row each keeps to the rule, and together they use up what the explorer gives, in
its order and nothing besides; so a script loses as many of its replies for an address as were used up,
and says that nothing was found once it has none left. -/
theorem retrieveAll_lawful (addresses : List String) (world : World) :
    (retrieveAll addresses world).map (·.address) = addresses ∧
      (∀ retrieval ∈ retrieveAll addresses world, retrieval.Lawful) ∧
      world.explorer.Gives ((retrieveAll addresses world).flatMap Retrieval.exchanged)
        (afterAll addresses world).explorer ∧
      ∀ queues, world.explorer = .scripted queues →
        ∃ left, (afterAll addresses world).explorer = .scripted left ∧ ∀ address,
          let used := Explorer.repliesFor
            ((retrieveAll addresses world).flatMap Retrieval.exchanged) address
          used ++ Explorer.queueFor left address = Explorer.queueFor queues address ++
            List.replicate (used.length - (Explorer.queueFor queues address).length)
              Explorer.silence := by
  have given := retrieveAll_given addresses world
  -- What is given is known for all the calls at once; the rest is an induction on them.
  refine ⟨?addresses, ?lawful, given, ?scripted⟩
  case addresses =>
    clear given
    induction addresses generalizing world with
    | nil => rfl
    | cons address addresses ih => rw [retrieveAll, List.map_cons, ih]; rfl
  case lawful =>
    clear given
    induction addresses generalizing world with
    | nil => simp [retrieveAll]
    | cons address addresses ih =>
      rw [retrieveAll, List.forall_mem_cons]
      exact ⟨retrieve_lawful address world, ih _⟩
  case scripted =>
    intro queues script
    rw [script] at given
    exact given.scripted

/-- What a flaky explorer says about one address. -/
def flakyReplies : List ExplorerReply :=
  [gatewayDown, .ok ⟨"1", "OK", .entries [⟨"contract A", "v0.8.20", "A"⟩]⟩, gatewayDown, gatewayDown,
    .error (.status 500), .ok ⟨"0", "NOTOK", .note "Invalid API Key"⟩]

/-- A world with a flaky explorer. -/
def flakyWorld : World :=
  .fresh (.atHome ["work"]) (.scripted [("0x1", flakyReplies)]) ⟨[], none⟩

/-- Of five calls the first two try twice, the first of them to some avail, and the last is told that
nothing was found. -/
theorem flakyWorld_lawful :
    let calls := retrieveAll (List.replicate 5 "0x1") flakyWorld
    calls.map (·.replies.length) = [2, 2, 1, 1, 1] ∧
      calls.map (·.outcome.isOk) = [true, false, false, false, false] ∧
      (∀ retrieval ∈ calls, retrieval.Lawful) ∧
      ∃ left, (afterAll (List.replicate 5 "0x1") flakyWorld).explorer = .scripted left ∧
        Explorer.repliesFor (calls.flatMap Retrieval.exchanged) "0x1" ++
          Explorer.queueFor left "0x1" = flakyReplies ++ [Explorer.silence] := by
  intro calls
  obtain ⟨-, lawful, -, scripted⟩ := retrieveAll_lawful (List.replicate 5 "0x1") flakyWorld
  obtain ⟨left, last, used⟩ := scripted [("0x1", flakyReplies)] rfl
  refine ⟨by decide, by decide, lawful, left, last, ?_⟩
  exact used "0x1"

end Fetch

end AuditStage
