import DiskServer.Construction.Clients.OwnerRequests

namespace DiskServer.Clients.Terminal

section Headers

variable {headers : List (String × String)} {name other value : String}

theorem headerValue_setHeader_self :
    headerValue (setHeader headers name value) name = some value := by
  unfold headerValue setHeader
  have gone : (headers.filter fun header => header.1 ≠ name).find?
      (fun header => header.1 = name) = none := by
    apply List.find?_eq_none.mpr
    intro header inside
    have kept := (List.mem_filter.mp inside).2
    simpa using kept
  rw [List.find?_append, gone]
  simp

theorem headerValue_setHeader_of_ne (differ : other ≠ name) :
    headerValue (setHeader headers other value) name = headerValue headers name := by
  unfold headerValue setHeader
  rw [List.find?_append]
  have last : [(other, value)].find? (fun header => header.1 = name) = none := by
    simp [differ]
  rw [last, Option.or_none]
  congr 1
  rw [List.find?_filter]
  congr 1
  funext header
  by_cases same : header.1 = name
  · simp [same, Ne.symm differ]
  · simp [same]

theorem headerValue_foldl {added : List (String × String)}
    (plain : ∀ header ∈ added, header.1 ≠ name) :
    headerValue (added.foldl (fun headers header => setHeader headers header.1 header.2) headers) name =
      headerValue headers name := by
  induction added generalizing headers with
  | nil => rfl
  | cons header rest ih =>
      rw [List.foldl_cons, ih fun later inside => plain later (List.mem_cons_of_mem _ inside)]
      exact headerValue_setHeader_of_ne (plain header List.mem_cons_self)

def plainHeaders (headers : List (String × String)) : List (String × String) :=
  headers.filter fun header => header.1 ≠ "Authorization"

theorem plainHeaders_authorization :
    plainHeaders (setHeader headers "Authorization" value) = plainHeaders headers := by
  simp [plainHeaders, setHeader]

theorem plainHeaders_setHeader (plain : name ≠ "Authorization") :
    plainHeaders (setHeader headers name value) = setHeader (plainHeaders headers) name value := by
  simp only [plainHeaders, setHeader, List.filter_append, List.filter_filter, Bool.and_comm]
  simp [plain]

theorem plainHeaders_foldl {added : List (String × String)}
    (plain : ∀ header ∈ added, header.1 ≠ "Authorization") :
    plainHeaders (added.foldl (fun headers header => setHeader headers header.1 header.2) headers) =
      added.foldl (fun headers header => setHeader headers header.1 header.2)
        (plainHeaders headers) := by
  induction added generalizing headers with
  | nil => rfl
  | cons header rest ih =>
      rw [List.foldl_cons, List.foldl_cons,
        ih fun later inside => plain later (List.mem_cons_of_mem _ inside),
        plainHeaders_setHeader (plain header List.mem_cons_self)]

end Headers

section Requests

variable {client renewed : GoClient} {method path : String} {opts : RequestOpts}
  {unread : List UInt8}

/-- A new access token changes nothing but the Authorization header of a request. -/
theorem buildRequest_withoutAuthorization (access refresh : String) :
    (buildRequest (client.setTokens access refresh) method path opts unread).withoutAuthorization =
      (buildRequest client method path opts unread).withoutAuthorization := by
  have headers : ∀ client : GoClient,
      plainHeaders (buildRequest client method path opts unread).headers =
        opts.headers.foldl (fun headers header => setHeader headers header.1 header.2)
          (plainHeaders (if opts.shareAuth ∧ client.shareToken ≠ "" then
            setHeader (if opts.contentType ≠ "" then setHeader [] "Content-Type" opts.contentType else [])
              "X-Share-Token" client.shareToken
          else if opts.contentType ≠ "" then setHeader [] "Content-Type" opts.contentType else [])) := by
    intro client
    simp only [buildRequest]
    rw [plainHeaders_foldl opts.plain]
    congr 1
    split
    · rw [plainHeaders_setHeader (by decide), plainHeaders_setHeader (by decide)]
      congr 1
      split
      · exact plainHeaders_authorization
      · rfl
    · split
      · exact plainHeaders_authorization
      · rfl
  unfold HttpRequest.withoutAuthorization
  have first := headers (client.setTokens access refresh)
  have second := headers client
  unfold plainHeaders at first second
  rw [first, second]
  rfl

/-- An owner request carries the access token that is set. -/
theorem authorization_buildRequest (owned : opts.noAuth = false) (filled : client.access ≠ "") :
    headerValue (buildRequest client method path opts unread).headers "Authorization" =
      some ("Bearer " ++ client.access) := by
  simp only [buildRequest]
  rw [headerValue_foldl opts.plain]
  split
  · rw [headerValue_setHeader_of_ne (by decide), if_pos ⟨owned, filled⟩, headerValue_setHeader_self]
  · rw [if_pos ⟨owned, filled⟩, headerValue_setHeader_self]

/-- A request is sent with the bytes that its reader still yields. -/
theorem doRequest_sent (wire : Wire) (state : GoState) :
    (doRequest wire method path opts state).2.sent =
      state.sent ++ [buildRequest state.client method path opts state.unread] := rfl

end Requests

section Refresh

variable {wire : Wire} {state after : GoState}

/-- A refresh that succeeds has sent the refresh request and sets the tokens that came back. -/
theorem tryRefresh_ok {refreshed : Bool} (ran : tryRefresh wire state = (.ok refreshed, after)) :
    refreshed = true ∧ after.sent = state.sent ++ [refreshRequest wire state.client] ∧
      after.unread = state.unread ∧ ∃ access refresh, access ≠ "" ∧
        after.client = state.client.setTokens access refresh := by
  unfold tryRefresh at ran
  split at ran
  · cases ran
  · split at ran
    · cases ran
    · rename_i received sent arrived
      obtain rfl := congrArg Prod.snd arrived
      split at ran
      · cases ran
      · rename_i tokens read
        cases ran
        refine ⟨rfl, rfl, rfl, tokens.accessToken, tokens.refreshToken, ?_, rfl⟩
        unfold readRefresh at read
        split at read
        · cases read
        · split at read
          · cases read
          · split at read
            · cases read
            · split at read
              · cases read
              · rename_i accepted
                cases read
                exact fun empty => accepted (.inr empty)

/-- A refresh sends at most its own request. -/
theorem tryRefresh_sent (wire : Wire) (state : GoState) :
    (tryRefresh wire state).2.sent = state.sent ∨
      (tryRefresh wire state).2.sent = state.sent ++ [refreshRequest wire state.client] := by
  unfold tryRefresh
  split
  · exact .inl rfl
  · right
    split
    · rename_i sent arrived
      exact congrArg (fun answered => answered.2.sent) arrived.symm
    · rename_i received sent arrived
      have added := congrArg (fun answered => answered.2.sent) arrived.symm
      split <;> exact added

end Refresh

section Recovery

variable (wire : Wire) (call : OwnerCall) (method path : String) (opts : RequestOpts) (state : GoState)

/-- The result of a call is what its second response says, and an error when none arrives. -/
def Answers (second : Option Received) (result : Except GoError Answered) : Prop :=
  match second, call with
  | none, _ => ∃ error, result = .error error
  | some received, .raw => result = .ok (.response received)
  | some received, .envelope target =>
      match received.reply.body.bind unmarshalEnvelope with
      | none => ∃ error, result = .error error
      | some envelope =>
          if envelope.code ≠ 0 then
            result = .error
              (.api ⟨envelope.code, received.reply.status, textBytes envelope.message⟩ path)
          else result = (decodeData envelope.data target).map .data

/-- After a refresh that succeeds one more request gives the result, which differs in the token only. After
one that fails there is an error and no further request. -/
def Recovers : Prop :=
  let request := buildRequest state.client method path opts state.unread
  let renewal := tryRefresh wire (doRequest wire method path opts state).2
  let ended := perform wire call method path opts state
  (renewal.1 = .ok true → ∃ renewed,
    ended.2.sent = state.sent ++ [request, refreshRequest wire state.client, renewed] ∧
    renewed.withoutAuthorization = request.withoutAuthorization ∧
    headerValue renewed.headers "Authorization" = some ("Bearer " ++ renewal.2.client.access) ∧
    Answers call path (wire.network renewal.2.sent renewed).response ended.1) ∧
  (renewal.1 ≠ .ok true → (∃ error, ended.1 = .error error) ∧
    (ended.2.sent = state.sent ++ [request] ∨
      ended.2.sent = state.sent ++ [request, refreshRequest wire state.client]))

/-- The response is not turned into an error before its status is looked at. -/
def ReachesRefresh (received : Received) : Prop :=
  match call with
  | .raw => True
  | .envelope _ => received.complete = true ∧
      ∃ envelope, received.reply.body.bind unmarshalEnvelope = some envelope ∧ envelope.code = 0

/-- The data of the response is not taken for the result of the call. -/
def RefusesData (received : Received) : Prop :=
  match call with
  | .raw => True
  | .envelope target => ∀ envelope, received.reply.body.bind unmarshalEnvelope = some envelope →
      ∃ error, decodeData envelope.data target = .error error

/-- The first request has left the body as it was. -/
def BodyRemains : Prop :=
  opts.rawReader = true → state.unread = [] ∨
    (wire.network state.sent (buildRequest state.client method path opts state.unread)).read = 0

/-- What the repeated request answers to its caller. -/
def secondResult : Option Received → Except GoError Answered
  | none => .error .transport
  | some received =>
      match call with
      | .envelope target => (decodeRetry received path target).map .data
      | .raw => .ok (.response received)

theorem answers_secondResult (second : Option Received) :
    Answers call path second (secondResult call path second) := by
  cases second with
  | none => exact ⟨_, rfl⟩
  | some received =>
      cases call with
      | raw => rfl
      | envelope target =>
          cases read : received.reply.body.bind unmarshalEnvelope with
          | none =>
              simp only [Answers, secondResult, decodeRetry, read]
              exact ⟨_, rfl⟩
          | some envelope =>
              simp only [Answers, secondResult, decodeRetry, read]
              split <;> rfl

end Recovery

section Claim

variable {wire : Wire} {call : OwnerCall} {method path : String} {opts : RequestOpts}
  {state first : GoState} {received : Received}

/-- A request that was answered has used up what was read of its body. -/
theorem unread_doRequest (arrived : doRequest wire method path opts state = (some received, first)) :
    first.client = state.client ∧
      first.sent = state.sent ++ [buildRequest state.client method path opts state.unread] ∧
      first.unread = if opts.rawReader then state.unread.drop
        (wire.network state.sent (buildRequest state.client method path opts state.unread)).read
      else state.unread := by
  obtain rfl := congrArg Prod.snd arrived
  exact ⟨rfl, rfl, rfl⟩

/-- A call that does not get to the refresh ends with an error. -/
theorem perform_stopped (arrived : doRequest wire method path opts state = (some received, first))
    (stopped : ¬ReachesRefresh call received) :
    ∃ error, perform wire call method path opts state = (.error error, first) := by
  cases call with
  | raw => exact absurd trivial stopped
  | envelope target =>
      simp only [perform, decodeEnvelope, arrived]
      by_cases complete : received.complete = true
      · rw [if_neg (by rw [complete]; decide)]
        cases read : received.reply.body.bind unmarshalEnvelope with
        | none =>
            simp only [Clients.decodeEnvelope, read]
            exact ⟨_, rfl⟩
        | some envelope =>
            have failed : envelope.code ≠ 0 := fun zero => stopped ⟨complete, envelope, read, zero⟩
            simp only [Clients.decodeEnvelope, read, if_pos failed]
            exact ⟨_, rfl⟩
      · rw [if_pos (by simpa using complete)]
        exact ⟨_, rfl⟩

/-- A call that stops before the refresh sends nothing more. -/
theorem not_resent_of_stopped
    (arrived : doRequest wire method path opts state = (some received, first))
    (stopped : ¬ReachesRefresh call received) {request renewal renewed : HttpRequest} :
    (perform wire call method path opts state).2.sent ≠ state.sent ++ [request, renewal, renewed] := by
  intro trace
  obtain ⟨error, performed⟩ := perform_stopped arrived stopped
  obtain ⟨-, sent, -⟩ := unread_doRequest arrived
  rw [performed, sent] at trace
  have lengths := congrArg List.length trace
  simp at lengths

/-- A call that gets to the refresh repeats its request when the refresh succeeds. -/
theorem perform_renewed (arrived : doRequest wire method path opts state = (some received, first))
    (owner : call.ownedBy opts) (unauthorized : received.reply.status = 401)
    (reaches : ReachesRefresh call received) {after : GoState}
    (renewed : tryRefresh wire first = (.ok true, after)) :
    perform wire call method path opts state =
      (secondResult call path (doRequest wire method path opts after).1,
        (doRequest wire method path opts after).2) := by
  cases call with
  | raw =>
      simp only [perform, doRawOwnerRetry, arrived]
      rw [if_neg (by simp [unauthorized, owner.1, owner.2 rfl])]
      simp only [renewed]
      cases doRequest wire method path opts after with
      | mk second last => cases second <;> rfl
  | envelope target =>
      obtain ⟨complete, envelope, read, zero⟩ := reaches
      simp only [perform, decodeEnvelope, arrived]
      rw [if_neg (by rw [complete]; decide)]
      simp only [Clients.decodeEnvelope, read, zero, ne_eq, not_true_eq_false, if_false]
      rw [if_pos ⟨unauthorized, owner.1⟩]
      simp only [renewed]
      cases doRequest wire method path opts after with
      | mk second last => cases second <;> rfl

/-- A call whose refresh fails goes on with the data of the first response, or has an error. -/
theorem perform_failed (arrived : doRequest wire method path opts state = (some received, first))
    (owner : call.ownedBy opts) (unauthorized : received.reply.status = 401)
    (reaches : ReachesRefresh call received) (failed : (tryRefresh wire first).1 ≠ .ok true) :
    (perform wire call method path opts state).2 = (tryRefresh wire first).2 ∧
      ((∃ error, (perform wire call method path opts state).1 = .error error) ↔
        RefusesData call received) := by
  have broken : ∃ error, (tryRefresh wire first).1 = .error error := by
    cases ended : tryRefresh wire first with
    | mk result after =>
        cases result with
        | error error => exact ⟨error, rfl⟩
        | ok refreshed =>
            rw [ended, (tryRefresh_ok ended).1] at failed
            exact absurd rfl failed
  obtain ⟨error, failure⟩ := broken
  cases ended : tryRefresh wire first with
  | mk result after =>
      rw [ended] at failure
      obtain rfl : result = .error error := failure
      cases call with
      | raw =>
          simp only [perform, doRawOwnerRetry, arrived]
          rw [if_neg (by simp [unauthorized, owner.1, owner.2 rfl])]
          simp only [ended]
          exact ⟨trivial, fun _ => trivial, fun _ => ⟨error, rfl⟩⟩
      | envelope target =>
          obtain ⟨complete, envelope, read, zero⟩ := reaches
          simp only [perform, decodeEnvelope, arrived]
          rw [if_neg (by rw [complete]; decide)]
          simp only [Clients.decodeEnvelope, read, zero, ne_eq, not_true_eq_false, if_false]
          rw [if_pos ⟨unauthorized, owner.1⟩]
          simp only [ended, RefusesData, read]
          refine ⟨trivial, ?_, ?_⟩
          · rintro ⟨error, refused⟩ _ ⟨⟩
            cases decoded : decodeData envelope.data target with
            | error error => exact ⟨error, rfl⟩
            | ok data =>
                rw [decoded] at refused
                cases refused
          · intro refuses
            obtain ⟨error, refused⟩ := refuses envelope rfl
            exact ⟨error, by rw [refused]; rfl⟩

theorem drop_eq_self_iff {bytes : List UInt8} {read : Nat} :
    bytes.drop read = bytes ↔ bytes = [] ∨ read = 0 := by
  constructor
  · intro same
    have lengths := congrArg List.length same
    rw [List.length_drop] at lengths
    cases bytes with
    | nil => exact .inl rfl
    | cons byte rest =>
        rw [List.length_cons] at lengths
        exact .inr (by omega)
  · rintro (rfl | rfl)
    · exact List.drop_nil
    · rfl

/-- The second request has the same body when the first one has left it as it was. -/
theorem requestBody_remains_iff
    (arrived : doRequest wire method path opts state = (some received, first)) :
    requestBody opts first.unread = requestBody opts state.unread ↔
      BodyRemains wire method path opts state := by
  rw [(unread_doRequest arrived).2.2]
  unfold requestBody BodyRemains
  cases opts.rawReader with
  | false => simp
  | true =>
      simp only [if_true, true_implies]
      exact drop_eq_self_iff

/-- The second request of a call differs from the first one in the token, and in what is left of the
body. -/
theorem renewed_request (owner : call.ownedBy opts)
    (arrived : doRequest wire method path opts state = (some received, first)) {after : GoState}
    (renewed : tryRefresh wire first = (.ok true, after)) :
    let second := buildRequest after.client method path opts after.unread
    second.withoutAuthorization = { (buildRequest state.client method path opts
        state.unread).withoutAuthorization with body := requestBody opts first.unread } ∧
      headerValue second.headers "Authorization" = some ("Bearer " ++ after.client.access) := by
  obtain ⟨-, -, unread, access, refresh, filled, client⟩ := tryRefresh_ok renewed
  obtain ⟨same, -, -⟩ := unread_doRequest arrived
  constructor
  · rw [client, same, buildRequest_withoutAuthorization, unread]
    rfl
  · apply authorization_buildRequest owner.1
    rw [client]
    exact filled

/-- The client recovers from a 401 exactly if its refresh is tried and followed by the whole body, or
fails without the data being taken for the result. -/
theorem recovers_iff (owner : call.ownedBy opts)
    (arrived : (doRequest wire method path opts state).1 = some received)
    (unauthorized : received.reply.status = 401) :
    Recovers wire call method path opts state ↔
      ((tryRefresh wire (doRequest wire method path opts state).2).1 = .ok true →
        ReachesRefresh call received ∧ BodyRemains wire method path opts state) ∧
      ((tryRefresh wire (doRequest wire method path opts state).2).1 ≠ .ok true →
        ReachesRefresh call received → RefusesData call received) := by
  cases exchanged : doRequest wire method path opts state with
  | mk response first =>
      rw [exchanged] at arrived
      obtain rfl : response = some received := arrived
      obtain ⟨-, sent, -⟩ := unread_doRequest exchanged
      unfold Recovers
      simp only [exchanged]
      refine and_congr ?_ ?_
      · apply imp_congr_right
        intro refreshed
        cases ended : tryRefresh wire first with
        | mk result after =>
            rw [ended] at refreshed
            obtain rfl : result = .ok true := refreshed
            obtain ⟨-, renewals, -⟩ := tryRefresh_ok ended
            obtain ⟨same, -, -⟩ := unread_doRequest exchanged
            obtain ⟨plain, authorized⟩ := renewed_request owner exchanged ended
            constructor
            · rintro ⟨renewed, trace, alike, -, -⟩
              have reaches : ReachesRefresh call received := by
                by_contra stopped
                exact not_resent_of_stopped exchanged stopped trace
              refine ⟨reaches, (requestBody_remains_iff exchanged).mp ?_⟩
              rw [perform_renewed exchanged owner unauthorized reaches ended, doRequest_sent, renewals,
                sent, same] at trace
              have last : renewed = buildRequest after.client method path opts after.unread := by
                simpa using trace.symm
              rw [last, plain] at alike
              exact congrArg HttpRequest.body alike
            · rintro ⟨reaches, remains⟩
              rw [perform_renewed exchanged owner unauthorized reaches ended]
              refine ⟨buildRequest after.client method path opts after.unread, ?_, ?_, authorized,
                answers_secondResult call path _⟩
              · rw [doRequest_sent, renewals, sent, same]
                simp
              · rw [plain, (requestBody_remains_iff exchanged).mpr remains]
                rfl
      · apply imp_congr_right
        intro failed
        by_cases reaches : ReachesRefresh call received
        · obtain ⟨last, errs⟩ := perform_failed exchanged owner unauthorized reaches failed
          rw [errs, last]
          constructor
          · exact fun held _ => held.1
          · intro refuses
            refine ⟨refuses reaches, ?_⟩
            obtain ⟨same, -, -⟩ := unread_doRequest exchanged
            rcases tryRefresh_sent wire first with unsent | asked
            · exact .inl (unsent.trans sent)
            · right
              rw [asked, sent, same, List.append_assoc]
              rfl
        · obtain ⟨error, performed⟩ := perform_stopped exchanged reaches
          rw [performed]
          exact ⟨fun _ tried => absurd tried reaches, fun _ => ⟨⟨error, rfl⟩, .inl sent⟩⟩

end Claim

section Samples

def expiredClient : GoClient := ⟨"http://127.0.0.1:8080/", "old-access", "old-refresh", ""⟩

def plainOpts : RequestOpts :=
  { body := none
    contentType := ""
    query := ""
    headers := []
    plain := fun _ none => absurd none List.not_mem_nil
    noAuth := false
    shareAuth := false
    rawReader := false }

def jsonReply (status : Nat) (text : String) (body : Json) : Reply :=
  { status := status
    contentType := "application/json"
    text := text
    body := some body
    retryAfter := none
    rateLimitReset := none }

/-- The server refuses the first request for its expired token and grants the refresh. -/
def expiringWire : Wire where
  network := fun sent _ =>
    match sent with
    | [] => ⟨0, some ⟨jsonReply 401 "\x7b\"code\":40108,\"message\":\"expired\",\"data\":null\x7d"
        (.object [("code", .number 40108), ("message", .string "expired"), ("data", .null)]), true⟩⟩
    | [_] => ⟨0, some ⟨jsonReply 200
        "\x7b\"code\":0,\"data\":\x7b\"access_token\":\"new-access\",\"refresh_token\":\"new-refresh\"\x7d\x7d"
        (.object [("code", .number 0), ("data", .object [("access_token", .string "new-access"),
          ("refresh_token", .string "new-refresh")])]), true⟩⟩
    | _ => ⟨0, some ⟨jsonReply 200 "\x7b\"code\":0,\"data\":7\x7d"
        (.object [("code", .number 0), ("data", .number 7)]), true⟩⟩
  marshal := fun _ => textBytes "\x7b\"refresh_token\":\"old-refresh\"\x7d"
  parseError := fun _ => ""

/-- A download is repeated with the new token. -/
theorem recovers_download :
    Recovers expiringWire .raw "GET" "/api/file/download/42" plainOpts ⟨expiredClient, [], []⟩ :=
  (recovers_iff ⟨rfl, fun _ => rfl⟩ rfl rfl).mpr
    ⟨fun _ => ⟨trivial, fun none => by cases none⟩, fun _ _ => trivial⟩

/-- A request with an envelope is not repeated when the envelope names the expired token. -/
theorem expired_envelope_is_final :
    ¬∀ (wire : Wire) (call : OwnerCall) (method path : String) (opts : RequestOpts) (state : GoState)
      (received : Received), call.ownedBy opts →
      (doRequest wire method path opts state).1 = some received → received.reply.status = 401 →
      Recovers wire call method path opts state := by
  intro recovers
  have held := recovers expiringWire (.envelope (some fun _ => true)) "GET" "/api/file/list" plainOpts
    ⟨expiredClient, [], []⟩ _ ⟨rfl, fun raw => by cases raw⟩ rfl rfl
  obtain ⟨renewed, trace, -⟩ := held.1 rfl
  refine not_resent_of_stopped rfl ?_ trace
  rintro ⟨-, envelope, read, zero⟩
  obtain rfl := Option.some.inj read
  exact absurd zero (by decide)

end Samples

end DiskServer.Clients.Terminal
