import ParameterConfig.Proofs.Likeness
import ParameterConfig.Proofs.Segment

/-!
# Fetching from any responses

A fetch reads one response after the other. As long as a response names a next page, its parameters are kept and the next page is asked for with what it named; the first response that names none, and the first failure, end the fetch. `fetch_replied` tells from any sequence of replies what is requested, how many replies are used up, and what comes of the fetch, wherever its end stands.
-/

namespace ParameterConfig

open Serving

/-! ### What a fetch comes to -/

namespace Clients

variable {region : Option String} {source : Source} {state after : ServingState}
  {outcome : Except Failure Client} {events : List Event} {built : List Client}

theorem Provided.exists_client (hprovided : Provided region source state outcome events built after)
    (hbuildable : ∃ built, state.service.connect (source.session region) = .ok built) :
    ∃ client, outcome = .ok client := by
  cases hprovided with
  | shared hkind hshared => exact ⟨_, rfl⟩
  | built hshared hconnect => exact ⟨_, rfl⟩
  | unbuilt hshared hconnect =>
    obtain ⟨built, hbuilt⟩ := hbuildable
    exact nomatch hbuilt.symm.trans hconnect

theorem Acquired.exists_client (hacquired : Acquired region source state outcome events built after)
    (hbuildable : ∃ built, state.service.connect (source.session region) = .ok built) :
    ∃ client, outcome = .ok client := by
  cases hacquired with
  | held hheld => exact ⟨_, rfl⟩
  | provided hheld hprovided => exact ⟨_, rfl⟩
  | refused hheld hprovided => exact hprovided.exists_client hbuildable

end Clients

namespace Fetch

variable {region : Option String} {source : Source} {state : ServingState}

/-- What reading through a client comes to once there is one; how many clients have been built makes no difference. -/
theorem runs_fetched {acquire : Serving Client} {client : Client} {acquiring : List Event}
    {count : Nat} {shared : OrderedMap SharedKey Client} {held : OrderedMap Source Client}
    (path : String)
    (hclient : Runs acquire state (.ok client) acquiring
      { state with service := { state.service with built := count }, shared, held }) :
    Runs (do
        let client ← acquire
        let reading ← read client path
        conclude path reading)
      state (reported path (state.service.readPages path none).outcome)
      (acquiring ++ ((state.service.readPages path none).requests.map (.called client) ++
        (records path (state.service.readPages path none)).map .logged))
      { state with
        service := { (state.service.readPages path none).service with built := count }
        shared, held } := by
  obtain ⟨hrequests, houtcome, hservice⟩ := state.service.readPages_built count path none
  have hreading := (runs_read client path
      { state with service := { state.service with built := count }, shared, held }).bind
    (runs_conclude path (({ state.service with built := count } : Service).readPages path none) _)
  dsimp only at hreading
  rw [records_congr hrequests houtcome, hrequests, houtcome, hservice] at hreading
  exact hclient.bind hreading

theorem exists_observed (path : String) (holding : Bool) (state : ServingState)
    (hbuildable : ∃ built, state.service.connect (source.session region) = .ok built) :
    ∃ client,
      let observed := observe (Step.perform region (.fetch path source holding)) state
      let reading := state.service.readPages path none
      observed.1.outcome = (reported path reading.outcome).map some ∧
        Event.calls observed.1.events = reading.requests.map (client, ·) ∧
        observed.2.service.script = reading.service.script := by
  cases holding with
  | true =>
    obtain ⟨outcome, acquiring, built, after, hacquired, hruns⟩ :=
      Clients.exists_acquired region source state
    obtain ⟨client, rfl⟩ := hacquired.exists_client hbuildable
    have hquiet := hacquired.calls_eq_nil
    obtain ⟨count, shared, held, rfl⟩ := hacquired.after_eq
    have hfetched : Runs (Step.perform region (.fetch path source true)) state _ _ _ :=
      (runs_fetched path hruns).map some
    refine ⟨client, ?_⟩
    rw [hfetched.observe]
    exact ⟨rfl, by simp [hquiet], rfl⟩
  | false =>
    obtain ⟨outcome, acquiring, built, after, hprovided, hruns⟩ :=
      Clients.exists_provided region source state
    obtain ⟨client, rfl⟩ := hprovided.exists_client hbuildable
    have hquiet : Event.calls acquiring = [] := by
      rcases hprovided.events_cases with rfl | rfl <;> rfl
    obtain ⟨count, shared, rfl⟩ := hprovided.after_eq
    have hfetched : Runs (Step.perform region (.fetch path source false)) state _ _ _ :=
      (runs_fetched path hruns).map some
    refine ⟨client, ?_⟩
    rw [hfetched.observe]
    exact ⟨rfl, by simp [hquiet], rfl⟩

end Fetch

/-! ### Responses -/

namespace Page

def Describes (item : Json) (parameter : Parameter) : Prop :=
  ∃ fields, item = .object fields ∧ Json.member? "Name" fields = some parameter.name ∧
    Json.member? "Value" fields = some parameter.value

/-- The parameters of a response: those that its items describe, and none where no items are listed. -/
inductive Holds : Json → List Parameter → Prop
  | unlisted {members : List (String × Json)}
      (hlisted : Json.member? "Parameters" members = none) : Holds (.object members) []
  | listed {members : List (String × Json)} {items : List Json} {parameters : List Parameter}
      (hlisted : Json.member? "Parameters" members = some (.array items))
      (hitems : List.Forall₂ Describes items parameters) : Holds (.object members) parameters

/-- A response of which no parameters can be had, and the fault that it is: null in place of the items, an item without a name or a value, or one that has no members at all. -/
inductive Faulty : Json → Failure → Prop
  | null {members : List (String × Json)}
      (hlisted : Json.member? "Parameters" members = some .null) :
      Faulty (.object members) (.ordinary .type "")
  | lacking {members fields : List (String × Json)} {front back : List Json}
      {parameters : List Parameter}
      (hlisted : Json.member? "Parameters" members = some (.array (front ++ .object fields :: back)))
      (hfront : List.Forall₂ Describes front parameters)
      (hlacking : Json.member? "Name" fields = none ∨ Json.member? "Value" fields = none) :
      Faulty (.object members) (.ordinary .key "")
  | shapeless {members : List (String × Json)} {item : Json} {front back : List Json}
      {parameters : List Parameter}
      (hlisted : Json.member? "Parameters" members = some (.array (front ++ item :: back)))
      (hfront : List.Forall₂ Describes front parameters)
      (hitem : ∀ fields, item ≠ .object fields) : Faulty (.object members) (.ordinary .type "")

def nextToken? : Json → Option Json
  | .object members => (Json.member? "NextToken" members).filter Json.isGiven
  | _ => none

variable {item response : Json} {items : List Json} {parameter : Parameter}
  {parameters : List Parameter} {failure : Failure}

theorem Describes.parameter?_eq (hdescribes : Describes item parameter) :
    parameter? item = .ok parameter := by
  obtain ⟨fields, rfl, hname, hvalue⟩ := hdescribes
  simp [parameter?, hname, hvalue]

theorem mapM_parameter? (hitems : List.Forall₂ Describes items parameters) :
    items.mapM parameter? = .ok parameters := by
  induction hitems with
  | nil => rfl
  | cons hitem hrest ih =>
    rw [List.mapM_cons, hitem.parameter?_eq, ih]
    rfl

theorem mapM_parameter?_error {front back : List Json}
    (hfront : List.Forall₂ Describes front parameters) (hitem : parameter? item = .error failure) :
    (front ++ item :: back).mapM parameter? = .error failure := by
  rw [List.mapM_append, mapM_parameter? hfront, List.mapM_cons, hitem]
  rfl

theorem ofResponse_of_list {members : List (String × Json)} (items : List Json)
    (hlist : parameterList ((Json.member? "Parameters" members).getD (.array [])) = .ok items) :
    ofResponse (.object members) = (items.mapM parameter?).map fun parameters =>
      { parameters, next := (nextToken? (.object members)).map .given } := by
  simp only [ofResponse, hlist, bind, Except.bind]
  cases items.mapM parameter? <;> rfl

theorem Holds.ofResponse_eq (hholds : Holds response parameters) :
    ofResponse response = .ok { parameters, next := (nextToken? response).map .given } := by
  cases hholds with
  | unlisted hlisted =>
    rw [ofResponse_of_list [] (by rw [hlisted]; rfl)]
    rfl
  | @listed _ items _ hlisted hitems =>
    rw [ofResponse_of_list items (by rw [hlisted]; rfl), mapM_parameter? hitems]
    rfl

theorem Faulty.ofResponse_eq (hfaulty : Faulty response failure) :
    ofResponse response = .error failure := by
  cases hfaulty with
  | null hlisted =>
    simp only [ofResponse, hlisted]
    rfl
  | @lacking _ fields front back _ hlisted hfront hlacking =>
    have hitem : parameter? (.object fields) = .error (.ordinary .key "") := by
      rcases hlacking with hname | hvalue
      · simp [parameter?, hname]
      · cases hname : Json.member? "Name" fields <;> simp [parameter?, hname, hvalue]
    rw [ofResponse_of_list (front ++ .object fields :: back) (by rw [hlisted]; rfl),
      mapM_parameter?_error hfront hitem]
    rfl
  | @shapeless _ item front back _ hlisted hfront hshape =>
    have hitem : parameter? item = .error (.ordinary .type "") := by
      cases item with
      | object fields => exact absurd rfl (hshape fields)
      | _ => rfl
    rw [ofResponse_of_list (front ++ item :: back) (by rw [hlisted]; rfl),
      mapM_parameter?_error hfront hitem]
    rfl

end Page

namespace Failure

/-- A response that refuses a request, and its code, which is unknown where none is given. -/
inductive Refusal : Json → Json → Prop
  | intro {members error : List (String × Json)} {code : Json}
      (hmetadata : ∀ metadata ∈ Json.member? "ResponseMetadata" members, ∃ inner,
        metadata = .object inner)
      (herror : Json.member? "Error" members = some (.object error) ∨
        Json.member? "Error" members = none ∧ error = [])
      (hcode : Json.member? "Code" error = some code ∨
        Json.member? "Code" error = none ∧ code = .string "Unknown") :
      Refusal (.object members) code

theorem Refusal.ofRefusal_eq {response code : Json} (hrefusal : Refusal response code) :
    ofRefusal response = .refused code := by
  cases hrefusal with
  | @intro members error _ hmetadata herror hcode =>
    obtain ⟨inner, hinner⟩ : ∃ inner, innerMembers "ResponseMetadata" members = .ok inner := by
      unfold innerMembers
      cases hfound : Json.member? "ResponseMetadata" members with
      | none => exact ⟨[], rfl⟩
      | some metadata =>
        obtain ⟨inner, rfl⟩ := hmetadata metadata hfound
        exact ⟨inner, rfl⟩
    have houter : innerMembers "Error" members = .ok error := by
      unfold innerMembers
      rcases herror with hfound | ⟨hfound, rfl⟩ <;> (rw [hfound]; rfl)
    have hgiven : (Json.member? "Code" error).getD (.string "Unknown") = code := by
      rcases hcode with hfound | ⟨hfound, rfl⟩ <;> (rw [hfound]; rfl)
    have hread : refusalCode (.object members) = .ok code := by
      show (do
        let _ ← innerMembers "ResponseMetadata" members
        let error ← innerMembers "Error" members
        return (Json.member? "Code" error).getD (.string "Unknown")) = _
      rw [hinner, houter]
      exact congrArg _ hgiven
    rw [ofRefusal, hread]

end Failure

/-! ### Sequences of replies -/

/-- A response after which the next page is asked for. -/
structure Turned where
  response : Json
  parameters : List Parameter
  next : Json
  holds : Page.Holds response parameters
  more : Page.nextToken? response = some next

/-- A reply that ends a fetch, with the parameters that it still brings or the failure that it is. -/
inductive PreparedReply.Ends : PreparedReply → Except Failure (List Parameter) → Prop
  | last {response : Json} {parameters : List Parameter} (hholds : Page.Holds response parameters)
      (hlast : Page.nextToken? response = none) : Ends (.response response) (.ok parameters)
  | refused {response code : Json} (hrefusal : Failure.Refusal response code) :
      Ends (.failure (Failure.ofRefusal response)) (.error (.refused code))
  | raised (failure : Failure) : Ends (.failure failure) (.error failure)
  | faulty {response : Json} {failure : Failure} (hfaulty : Page.Faulty response failure) :
      Ends (.response response) (.error failure)

namespace Service

variable {service : Service} {path : String} {script : List PreparedReply}

theorem reply_of_response {response : Json} (hscript : service.script = .response response :: script)
    (request : Request) :
    service.reply request = (Page.ofResponse response, { service with script }) := by
  simp only [reply, hscript]

theorem reply_of_failure {failure : Failure} (hscript : service.script = .failure failure :: script)
    (request : Request) : service.reply request = (.error failure, { service with script }) := by
  simp only [reply, hscript]

theorem readPages_ended {reply : PreparedReply} {ending : Except Failure (List Parameter)}
    (hends : reply.Ends ending) (hscript : service.script = reply :: script)
    (token : Option PageToken) :
    service.readPages path token =
      { requests := [{ path, token }], outcome := ending, service := { service with script } } := by
  cases hends with
  | last hholds hlast =>
    have hreply := reply_of_response hscript { path, token }
    rw [hholds.ofResponse_eq, hlast] at hreply
    have hpage := congrArg Prod.fst hreply
    rw [readPages_of_last hpage rfl, hreply]
  | refused hrefusal =>
    rw [hrefusal.ofRefusal_eq] at hscript
    have hreply := reply_of_failure hscript { path, token }
    rw [readPages_of_error (congrArg Prod.fst hreply), hreply]
  | raised failure =>
    have hreply := reply_of_failure hscript { path, token }
    rw [readPages_of_error (congrArg Prod.fst hreply), hreply]
  | faulty hfaulty =>
    have hreply := reply_of_response hscript { path, token }
    rw [hfaulty.ofResponse_eq] at hreply
    rw [readPages_of_error (congrArg Prod.fst hreply), hreply]

/-- Each response that names a next page costs one request, and the request after it carries what it named. -/
theorem readPages_turned (path : String) (turned : List Turned) {reply : PreparedReply}
    {ending : Except Failure (List Parameter)} (hends : reply.Ends ending)
    (hscript : service.script = turned.map (fun page => .response page.response) ++ reply :: script)
    (token : Option PageToken) :
    service.readPages path token =
      { requests := { path, token } ::
          turned.map fun page => { path, token := some (.given page.next) }
        outcome := ending.map fun parameters => turned.flatMap Turned.parameters ++ parameters
        service := { service with script } } := by
  induction turned generalizing service token with
  | nil =>
    rw [readPages_ended hends hscript]
    cases ending <;> rfl
  | cons page rest ih =>
    have hreply := reply_of_response hscript { path, token }
    rw [page.holds.ofResponse_eq, page.more] at hreply
    have hpage := congrArg Prod.fst hreply
    rw [readPages_of_next hpage rfl, hreply]
    dsimp only
    rw [ih rfl]
    cases ending <;> simp [Except.map]

end Service

/-! ### Fetches -/

namespace Fetch

/-- How a fetch goes that turns the page after these responses and then comes to this end, with these replies left. -/
structure Replied (path : String) (turned : List Turned) (ending : Except Failure (List Parameter))
    (script : List PreparedReply) (observed : Observed (Option (List Parameter)))
    (after : ServingState) : Prop where
  /-- There is one request for each response. All but the first carry what the response before named. -/
  requests : (Event.requests observed.events).map Request.toJson =
    .object [("Path", .string path), ("Recursive", .bool true), ("WithDecryption", .bool true)] ::
      turned.map fun page =>
        .object [("Path", .string path), ("Recursive", .bool true), ("WithDecryption", .bool true),
          ("NextToken", page.next)]
  /-- They all go through one client. -/
  client : ∃ client, ∀ call ∈ Event.calls observed.events, call.1 = client
  /-- No reply behind the end is used up. -/
  script : after.service.script = script
  /-- After a last page there are the parameters of all pages, in order. -/
  parameters : ∀ last, ending = .ok last →
    observed.outcome = .ok (some (turned.flatMap Turned.parameters ++ last))
  /-- A refusal is reported with its code. -/
  refused : ∀ code, ending = .error (.refused code) →
    observed.outcome = .error (.library
      { kind := .storeFetch
        message := "Failed to fetch parameters from the parameter store."
        details := .ofList [("path", .string path), ("error_code", code)] })
  /-- A fault of the transport is reported with its name. -/
  transport : ∀ fault, ending = .error (.transport fault) →
    observed.outcome = .error (.library
      { kind := .storeFetch
        message := "Failed to fetch parameters from the parameter store."
        details := .ofList [("path", .string path), ("error_code", .string fault.name)] })
  /-- All other failures are passed on. -/
  passed : ∀ failure, ending = .error failure → (∀ code, failure ≠ .refused code) →
    (∀ fault, failure ≠ .transport fault) → observed.outcome = .error failure

theorem reported_of_other {failure : Failure} (path : String)
    (hrefused : ∀ code, failure ≠ .refused code)
    (htransport : ∀ fault, failure ≠ .transport fault) :
    reported path (.error failure) = .error failure := by
  cases failure with
  | refused code => exact absurd rfl (hrefused code)
  | transport fault => exact absurd rfl (htransport fault)
  | library error => rfl
  | ordinary fault message => rfl
  | interrupted => rfl
  | invalid issues => rfl

/-- Whatever the replies to a fetch are, it turns the page as long as they name a next one, and comes to the end that the first other reply is. -/
theorem fetch_replied (region : Option String) (path : String) (source : Source) (holding : Bool)
    (state : ServingState) (turned : List Turned) (reply : PreparedReply)
    (ending : Except Failure (List Parameter)) (script : List PreparedReply)
    (hbuildable : ∃ built, state.service.connect (source.session region) = .ok built)
    (hends : reply.Ends ending)
    (hscript : state.service.script =
      turned.map (fun page => .response page.response) ++ reply :: script) :
    let observed := observe (Step.perform region (.fetch path source holding)) state
    Replied path turned ending script observed.1 observed.2 := by
  intro observed
  obtain ⟨client, houtcome, hcalls, hleft⟩ := exists_observed path holding state hbuildable
  have hreading := Service.readPages_turned path turned hends hscript none
  rw [hreading] at houtcome hcalls hleft
  refine
    { requests := ?_, client := ⟨client, ?_⟩, script := hleft, parameters := ?_, refused := ?_
      transport := ?_, passed := ?_ }
  · rw [Event.requests, hcalls]
    simp [Request.toJson, PageToken.toJson]
  · intro call hcall
    rw [hcalls] at hcall
    obtain ⟨request, _, rfl⟩ := List.mem_map.mp hcall
    rfl
  · rintro last rfl
    exact houtcome
  · rintro code rfl
    exact houtcome
  · rintro fault rfl
    exact houtcome
  · rintro failure rfl hrefused htransport
    rw [houtcome]
    exact congrArg (Except.map some) (reported_of_other path hrefused htransport)

/-- A fetch whose second request is refused, after a page without parameters. -/
theorem fetch_replied_throttled :
    let page : Json := .object [("Parameters", .array []), ("NextToken", .string "abc")]
    let refusal : Json := .object [("Error", .object [("Code", .string "ThrottlingException")])]
    let state : ServingState :=
      { service := { script := [.response page, .failure (Failure.ofRefusal refusal), .fromStore] } }
    let observed := observe (Step.perform none (.fetch "/app/dev/" .ambient false)) state
    (∃ built, state.service.connect (Source.session .ambient none) = .ok built) ∧
      (PreparedReply.failure (Failure.ofRefusal refusal)).Ends
        (.error (.refused (.string "ThrottlingException"))) ∧
      observed.1.outcome = .error (.library
        { kind := .storeFetch
          message := "Failed to fetch parameters from the parameter store."
          details := .ofList
            [("path", .string "/app/dev/"), ("error_code", .string "ThrottlingException")] }) ∧
      (Event.requests observed.1.events).length = 2 := by
  intro page refusal state observed
  have hbuildable : ∃ built, state.service.connect (Source.session .ambient none) = .ok built :=
    ⟨_, rfl⟩
  have hends : (PreparedReply.failure (Failure.ofRefusal refusal)).Ends
      (.error (.refused (.string "ThrottlingException"))) :=
    .refused (.intro (fun metadata hmetadata => nomatch hmetadata) (.inl rfl) (.inl rfl))
  have hreplied := fetch_replied none "/app/dev/" .ambient false state
    [{ response := page, parameters := [], next := .string "abc"
       holds := .listed rfl .nil, more := rfl }]
    _ _ [.fromStore] hbuildable hends rfl
  refine ⟨hbuildable, hends, hreplied.refused _ rfl, ?_⟩
  have hlength := congrArg List.length hreplied.requests
  simpa using hlength

end Fetch
end ParameterConfig
