import Mathlib.Logic.Function.Iterate
import ParameterConfig.Proofs.Causes

/-!
# Requests come to an end

Pages are asked for until one names no next page, and nothing limits how often. `turn` is one turn of this loop, told without any bound on the number of turns. That the loop ends is due to the service: a turn either uses up a prepared reply, which may send the reading to any place in the store, or moves on in the store by a whole page. `findOne_ends` says of every request that all its loops end, and bounds the number of calls by what the service holds when the request begins.
-/

namespace ParameterConfig

open Serving

/-! ### The loop -/

/-- How far the reading of pages has come: the next page is still to be asked for, or it is over. -/
inductive Turning where
  | asking (service : Service) (token : Option PageToken) (requests : List Request)
      (parameters : List Parameter)
  | over (reading : Reading)

namespace Turning

/-- The next page is asked for. If it names one more, its parameters are kept and it is asked for that one in the next turn; otherwise, and if there is no page to be had, it is over. -/
def turn (path : String) : Turning → Turning
  | .over reading => .over reading
  | .asking service token requests parameters =>
    let request : Request := { path, token }
    let after := (service.reply request).2
    match (service.reply request).1 with
    | .error failure =>
      .over { requests := requests ++ [request], outcome := .error failure, service := after }
    | .ok page =>
      match page.next with
      | none =>
        .over
          { requests := requests ++ [request], outcome := .ok (parameters ++ page.parameters)
            service := after }
      | some next =>
        .asking after (some next) (requests ++ [request]) (parameters ++ page.parameters)

/-- The loop that starts here is over after so many turns and no sooner. -/
def OverAfter (path : String) (start : Turning) (turns : Nat) (reading : Reading) : Prop :=
  (turn path)^[turns] start = .over reading ∧
    ∀ fewer < turns, ∀ other, (turn path)^[fewer] start ≠ .over other

variable {path : String} {service after : Service} {token : Option PageToken}
  {requests : List Request} {parameters : List Parameter} {reading : Reading} {turns : Nat}

theorem turn_of_error {failure : Failure}
    (hreply : (service.reply { path, token }).1 = .error failure) :
    turn path (.asking service token requests parameters) =
      .over
        { requests := requests ++ [{ path, token }], outcome := .error failure
          service := (service.reply { path, token }).2 } := by
  simp only [turn, hreply]

theorem turn_of_last {page : Page} (hreply : (service.reply { path, token }).1 = .ok page)
    (hlast : page.next = none) :
    turn path (.asking service token requests parameters) =
      .over
        { requests := requests ++ [{ path, token }], outcome := .ok (parameters ++ page.parameters)
          service := (service.reply { path, token }).2 } := by
  simp only [turn, hreply, hlast]

theorem turn_of_next {page : Page} {next : PageToken}
    (hreply : (service.reply { path, token }).1 = .ok page) (hnext : page.next = some next) :
    turn path (.asking service token requests parameters) =
      .asking (service.reply { path, token }).2 (some next)
        (requests ++ [({ path, token } : Request)]) (parameters ++ page.parameters) := by
  simp only [turn, hreply, hnext]

theorem overAfter_one
    (hturn : turn path (.asking service token requests parameters) = .over reading) :
    OverAfter path (.asking service token requests parameters) 1 reading := by
  constructor
  · exact hturn
  · intro fewer hfewer other
    obtain rfl : fewer = 0 := by omega
    exact fun hover => nomatch hover

theorem overAfter_succ {next : Turning}
    (hturn : turn path (.asking service token requests parameters) = next)
    (hover : OverAfter path next turns reading) :
    OverAfter path (.asking service token requests parameters) (turns + 1) reading := by
  obtain ⟨hend, hbefore⟩ := hover
  constructor
  · rw [Function.iterate_succ_apply, hturn]
    exact hend
  · intro fewer hfewer other
    cases fewer with
    | zero => exact fun hover => nomatch hover
    | succ fewer =>
      rw [Function.iterate_succ_apply, hturn]
      exact hbefore fewer (by omega) other

/-- From wherever the loop stands, it takes as many turns as there are requests still to be made. -/
theorem overAfter_asking (service : Service) (token : Option PageToken) (requests : List Request)
    (parameters : List Parameter) :
    OverAfter path (.asking service token requests parameters)
      (service.readPages path token).requests.length
      { requests := requests ++ (service.readPages path token).requests
        outcome := (service.readPages path token).outcome.map (parameters ++ ·)
        service := (service.readPages path token).service } := by
  fun_induction Service.readPages service path token generalizing requests parameters with
  | case1 service token request failure hreply =>
    apply overAfter_one
    exact turn_of_error hreply
  | case2 service token request page hreply hlast =>
    apply overAfter_one
    exact turn_of_last hreply hlast
  | case3 service token request page hreply next hnext hprogress later ih =>
    have hlater := overAfter_succ (turn_of_next hreply hnext)
      (ih (requests ++ [request]) (parameters ++ page.parameters))
    have houtcome : ((later.outcome.map (page.parameters ++ ·)).map (parameters ++ ·)) =
        later.outcome.map (parameters ++ page.parameters ++ ·) := by
      cases later.outcome <;> simp [Except.map]
    rw [List.append_assoc, List.singleton_append, ← houtcome] at hlater
    exact hlater

/-- Reading all pages is what the loop comes to, in one turn for each request. -/
theorem overAfter_readPages (service : Service) (path : String) (token : Option PageToken) :
    OverAfter path (.asking service token [] []) (service.readPages path token).requests.length
      (service.readPages path token) := by
  have hover := @overAfter_asking path service token [] []
  have houtcome : (service.readPages path token).outcome.map ([] ++ ·) =
      (service.readPages path token).outcome := by
    cases (service.readPages path token).outcome <;> rfl
  rwa [List.nil_append, houtcome] at hover

end Turning

/-! ### How many calls it takes -/

/-- How far before the first entry the reply may send the reading of pages. -/
def PreparedReply.setback : PreparedReply → Nat
  | .response given =>
    match (Page.ofResponse given).bind fun page => Service.startOf page.next with
    | .ok start => (-start).toNat
    | .error _ => 0
  | _ => 0

namespace Service

variable {service : Service} {path : String} {token : Option PageToken}

/-- More entries than these never lie before a reading, wherever the prepared replies send it. -/
def reach (service : Service) : Nat :=
  service.store.size + service.script.foldr (fun reply total => reply.setback + total) 0

theorem le_reach (service : Service) :
    ∀ reply ∈ service.script, service.store.size + reply.setback ≤ service.reach := by
  unfold reach
  induction service.script with
  | nil => exact nofun
  | cons first rest ih =>
    intro reply hreply
    rw [List.foldr_cons]
    obtain rfl | hrest := List.mem_cons.mp hreply
    · omega
    · have hlater := ih reply hrest
      omega

theorem length_entriesBelow_le (service : Service) (path : String) :
    (service.entriesBelow path).length ≤ service.store.size := by
  rw [(entriesBelow_perm service path).length_eq]
  exact List.length_filter_le _ _

theorem remaining_of_response {response : Json} {page : Page} {limit : Nat}
    (hpage : Page.ofResponse response = .ok page)
    (hlimit : service.store.size + (PreparedReply.response response).setback ≤ limit) :
    service.remaining path page.next ≤ limit := by
  have hlength := length_entriesBelow_le service path
  unfold remaining
  cases hstart : startOf page.next with
  | error failure => exact Nat.zero_le limit
  | ok start =>
    have hsetback : (PreparedReply.response response).setback = (-start).toNat := by
      simp [PreparedReply.setback, hpage, Except.bind, hstart]
    rw [hsetback] at hlimit
    dsimp only
    omega

theorem remaining_none_le (service : Service) (path : String) :
    service.remaining path none ≤ service.store.size := by
  have hlength := length_entriesBelow_le service path
  show ((service.entriesBelow path).length - (0 : Int)).toNat ≤ _
  omega

theorem length_requests_store_le (path : String) (token : Option PageToken)
    (hscript : service.script = []) :
    (service.readPages path token).requests.length ≤
      service.remaining path token / service.pageSize + 1 := by
  fun_induction readPages service path token with
  | case1 service token request failure hreply => exact Nat.le_add_left 1 _
  | case2 service token request page hreply hlast => exact Nat.le_add_left 1 _
  | case3 service token request page hreply next hnext hprogress later ih =>
    rw [reply_of_no_script hscript] at hreply
    have hless := @remaining_of_storeReply service request page next hreply hnext
    have hsame : (service.reply request).2 = service := by rw [reply_of_no_script hscript]
    have hlater := ih (by rw [hsame]; exact hscript)
    rw [hsame] at hlater
    have hturns : service.remaining path (some next) / service.pageSize + 1 ≤
        service.remaining path token / service.pageSize := by
      rw [← Nat.add_div_right _ service.pageSize_pos]
      exact Nat.div_le_div_right hless
    dsimp only [later]
    rw [hsame, List.length_cons]
    omega

theorem reply_of_script {prepared : PreparedReply} {script : List PreparedReply}
    (hscript : service.script = prepared :: script) (request : Request) :
    (service.reply request).2 = { service with script } := by
  simp only [reply, hscript]
  cases prepared <;> rfl

/-- After a reply that uses up a prepared one, no more is left to read than the limit. -/
theorem remaining_of_script {prepared : PreparedReply} {script : List PreparedReply} {page : Page}
    {next : PageToken} {limit : Nat} (hscript : service.script = prepared :: script)
    (hremaining : service.remaining path token ≤ limit)
    (hlimit : service.store.size + prepared.setback ≤ limit)
    (hreply : (service.reply { path, token }).1 = .ok page) (hnext : page.next = some next) :
    service.remaining path (some next) ≤ limit := by
  simp only [reply, hscript] at hreply
  cases prepared with
  | failure failure => cases hreply
  | response response =>
    rw [← hnext]
    exact remaining_of_response hreply hlimit
  | fromStore =>
    have hless := @remaining_of_storeReply service { path, token } page next hreply hnext
    dsimp only at hless
    omega

/-- Each call uses up a prepared reply, or reads one more page of no more entries than the limit. -/
theorem calls_le_of_limit {limit : Nat} (hremaining : service.remaining path token ≤ limit)
    (hlimit : ∀ reply ∈ service.script, service.store.size + reply.setback ≤ limit) :
    (service.readPages path token).requests.length +
        (service.readPages path token).service.script.length ≤
      service.script.length + (limit / service.pageSize + 1) := by
  generalize hscript : service.script = script at hlimit
  induction script generalizing service token with
  | nil =>
    have hcalls := length_requests_store_le path token hscript
    have hleft := readPages_script_subset service path token
    rw [hscript] at hleft
    have hturns := Nat.div_le_div_right (c := service.pageSize) hremaining
    rw [List.subset_nil.mp hleft]
    simp only [List.length_nil]
    omega
  | cons prepared script ih =>
    have hused := reply_of_script hscript { path, token }
    have hturns := Nat.zero_le (limit / service.pageSize)
    cases hreply : (service.reply { path, token }).1 with
    | error failure =>
      rw [readPages_of_error hreply, hused]
      simp only [List.length_cons, List.length_nil]
      omega
    | ok page =>
      cases hnext : page.next with
      | none =>
        rw [readPages_of_last hreply hnext, hused]
        simp only [List.length_cons, List.length_nil]
        omega
      | some next =>
        have hafter := remaining_of_script hscript hremaining
          (hlimit prepared List.mem_cons_self) hreply hnext
        have hlater := @ih { service with script } (some next) hafter rfl
          fun reply hmem => hlimit reply (List.mem_cons_of_mem _ hmem)
        rw [readPages_of_next hreply hnext, hused]
        simp only [List.length_cons] at hlater ⊢
        omega

end Service

/-! ### Requests -/

namespace Repository

variable {repository : Repository} {query : Query}

/-- A segment that comes by a client makes one call for each turn of a loop that ends, and what the loop comes to decides the segment. Without a client there is no call, and the segment fails. -/
def Segment.InTurns (repository : Repository) (query : Query) (segment : Segment) : Prop :=
  ((∃ failure, segment.outcome = .error failure) ∧ Event.calls segment.events = []) ∨
    ∃ client built reading,
      let path := repository.properties.path query.application segment.profile
      let start := Turning.asking { segment.before.service with built } none [] []
      Turning.OverAfter path start (Event.calls segment.events).length reading ∧
        Event.calls segment.events = reading.requests.map (client, ·) ∧
        segment.outcome = sourceRead path reading.outcome

section

variable {profile : String} {state after : ServingState} {outcome : Except Failure PropertySource}
  {events : List Event} {built : List Client}

theorem Served.inTurns {segment : Segment}
    (hserved : Served repository query segment.profile segment.before segment.outcome
      segment.events built after) : segment.InTurns repository query := by
  obtain ⟨profile, state, outcome, events, left⟩ := segment
  dsimp only at hserved
  cases hserved with
  | unresolved hsource => exact .inl ⟨⟨_, rfl⟩, rfl⟩
  | unconnected hsource hacquired =>
    refine .inl ⟨⟨_, rfl⟩, ?_⟩
    simp [hacquired.calls_eq_nil]
  | @read source client acquiring _ middle path reading hsource hacquired hpath hreading =>
    have hquiet := hacquired.calls_eq_nil
    obtain ⟨count, shared, held, rfl⟩ := hacquired.after_eq
    have hcalls : Event.calls ((tokenRecords state.token).map .logged ++ (acquiring ++
        (reading.requests.map (.called client) ++
          (readingRecords query path source reading).map .logged))) =
        reading.requests.map (client, ·) := by simp [hquiet]
    refine .inr ⟨client, count, reading, ?_, hcalls, by rw [hpath]⟩
    dsimp only
    rw [hcalls, List.length_map, ← hpath, hreading]
    exact Turning.overAfter_readPages _ path none

theorem Served.calls_le {limit : Nat}
    (hserved : Served repository query profile state outcome events built after)
    (hstore : state.service.store.size ≤ limit)
    (hlimit : ∀ reply ∈ state.service.script,
      state.service.store.size + reply.setback ≤ limit) :
    (Event.calls events).length + after.service.script.length ≤
      state.service.script.length + (limit / state.service.pageSize + 1) := by
  cases hserved with
  | unresolved hsource => exact Nat.le_trans (Nat.le_of_eq (Nat.zero_add _)) (Nat.le_add_right _ _)
  | unconnected hsource hacquired =>
    have hquiet := hacquired.calls_eq_nil
    obtain ⟨count, shared, held, rfl⟩ := hacquired.after_eq
    simp only [Event.calls_append, Event.calls_logged, hquiet, List.append_nil, List.length_nil,
      Nat.zero_add]
    exact Nat.le_add_right _ _
  | @read source client acquiring _ middle path reading hsource hacquired hpath hreading =>
    have hquiet := hacquired.calls_eq_nil
    obtain ⟨count, shared, held, rfl⟩ := hacquired.after_eq
    subst hreading
    simp only [Event.calls_append, Event.calls_logged, Event.calls_called, hquiet, List.nil_append,
      List.append_nil, List.length_map]
    apply Service.calls_le_of_limit
    · exact Nat.le_trans (Service.remaining_none_le _ path) hstore
    · exact hlimit

end

theorem ServedAll.calls_le {profiles : List String} {state after : ServingState}
    {all : List Segment} {built : List Client} {outcome : Except Failure (List PropertySource)}
    {limit : Nat} (hall : ServedAll repository query profiles state all built outcome after)
    (hstore : state.service.store.size ≤ limit)
    (hlimit : ∀ reply ∈ state.service.script,
      state.service.store.size + reply.setback ≤ limit) :
    (Event.calls (all.flatMap Segment.events)).length + after.service.script.length ≤
      state.service.script.length +
        profiles.length * (limit / state.service.pageSize + 1) := by
  induction hall with
  | nil => simp [Event.calls]
  | stop hserved =>
    have hcalls := hserved.calls_le hstore hlimit
    rw [List.flatMap_singleton, List.length_cons, Nat.succ_mul]
    dsimp only
    omega
  | @next profile rest state middle after propertySource events built more later outcome hserved
      hrest ih =>
    have hcalls := hserved.calls_le hstore hlimit
    have hused := hserved.script_subset
    obtain ⟨script, count, shared, held, rfl⟩ := hserved.after_eq
    have hmore := ih hstore fun reply hreply => hlimit reply (hused hreply)
    rw [List.flatMap_cons, Event.calls_append, List.length_append, List.length_cons, Nat.succ_mul]
    dsimp only at hcalls hmore ⊢
    omega

structure Ended (repository : Repository) (query : Query) (before : ServingState)
    (events : List Event) : Prop where
  /-- Its calls are those of its segments, of which there is at most one for each profile. -/
  calls : Event.calls events =
    (repository.segments query before).flatMap fun segment => Event.calls segment.events
  segments : (repository.segments query before).length ≤ (splitProfiles query.profiles).length
  /-- The calls of a segment are the turns of a loop that ends. -/
  turns : ∀ segment ∈ repository.segments query before, segment.InTurns repository query
  /-- All in all there is at most one call for each prepared reply, and for each profile one more than there are whole pages in what can lie before a reading. -/
  bounded : (Event.calls events).length ≤ before.service.script.length +
    (splitProfiles query.profiles).length * (before.service.reach / before.service.pageSize + 1)

/-- Every request comes to an end, whatever the service replies and however often it names a next page. -/
theorem findOne_ends (repository : Repository) (query : Query) (before : ServingState) :
    repository.Ended query before (observe (repository.findOne query) before).1.events := by
  obtain ⟨built, served, middle, hall, hruns⟩ := exists_runs_findOne repository query before
  rw [hruns.observe]
  dsimp only
  have hcalls := Event.calls_ending ((repository.segments query before).flatMap Segment.events)
    (Clients.closedInTurn middle.service (Clients.tokenClients middle.held.entries))
    (endingRecords query (concluded query middle served))
  have hprofiles := (@segmentsFrom_profiles repository query (splitProfiles query.profiles)
    { before with held := ∅ }).length_le
  refine { calls := ?_, segments := ?_, turns := ?_, bounded := ?_ }
  · rw [hcalls, Event.calls, List.filterMap_flatMap]
    rfl
  · rwa [List.length_map] at hprofiles
  · intro segment hsegment
    obtain ⟨added, left, hserved, _⟩ := hall.segment segment hsegment
    exact hserved.inTurns
  · have hbound := hall.calls_le (Nat.le_add_right _ _) before.service.le_reach
    rw [hcalls]
    exact Nat.le_trans (Nat.le_add_right _ _) hbound

end Repository
end ParameterConfig
