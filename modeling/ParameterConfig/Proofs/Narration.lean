import ParameterConfig.Proofs.Closing
import ParameterConfig.Proofs.Decoding
import ParameterConfig.Proofs.LogLines
import ParameterConfig.Proofs.Succession

/-!
# What requests log

The log of a request tells its segments one after the other: whose credentials were sent, how many parameters and pages were read, and how many properties came of them. A segment that fails has told no more than what it came to, and warns when it was a page that could not be read. Only a request of which nothing fails closes with a line of its own. `Narrated` says so of a segment and `Narration` of a request, in terms of what was replied to it and of the calls it made.
-/

namespace ParameterConfig

open Serving

/-! ### Lines -/

namespace Log.Line

/-- Of a key id there are no more than its first four characters, and none if it has no more than these. -/
def credentials (credentials : SessionCredentials) : Line where
  level := .debug
  event := "client_credentials_resolved"
  fields :=
    [("access_key_id", .string
      (if credentials.accessKeyId.toList.length ≤ 4 then "***"
        else String.ofList (credentials.accessKeyId.toList.take 4) ++ "***"))]

def parametersFetched (path : String) (count pages : Nat) : Line where
  level := .debug
  event := "parameters_fetched"
  fields := [("path", .string path), ("count", .ofNat count), ("pages", .ofNat pages)]

/-- The warning for a refusal of the service or a fault of the transport. Other failures have none. -/
def fetchFailed? (path : String) : Failure → Option Line
  | .refused code => some
    { level := .warning
      event := "parameter_fetch_failed"
      fields := [("path", .string path), ("error_code", code)] }
  | .transport fault => some
    { level := .warning
      event := "parameter_fetch_failed"
      fields := [("path", .string path), ("error", .string fault.name)] }
  | _ => none

def propertySourceBuilt (query : Query) (path : String) (kind : SourceKind) (properties : Nat) :
    Line where
  level := .debug
  event := "property_source_built"
  fields :=
    [("application", .string query.application), ("label", .ofOptional query.label),
     ("path", .string path), ("credentials", .string kind.name), ("properties", .ofNat properties)]

def environmentResolved (query : Query) (profiles : Nat) : Line where
  level := .debug
  event := "environment_resolved"
  fields :=
    [("application", .string query.application), ("label", .ofOptional query.label),
     ("profiles", .ofNat profiles)]

end Log.Line

open Log (Line)

/-- One line that is due, or none when no line is. -/
inductive Once (due : Line → Prop) : List Line → Prop
  | told {line : Line} (hdue : due line) : Once due [line]
  | silent (hnever : ∀ line, ¬ due line) : Once due []

theorem Once.congr {due other : Line → Prop} {told : List Line}
    (hsame : ∀ line, due line ↔ other line) (honce : Once due told) : Once other told := by
  cases honce with
  | told hdue => exact .told ((hsame _).mp hdue)
  | silent hnever => exact .silent fun line hdue => hnever line ((hsame line).mpr hdue)

namespace Repository

variable {repository : Repository} {query : Query}

/-! ### What a segment tells -/

namespace Segment

variable (repository : Repository) (query : Query) (segment : Segment)

def path : String :=
  repository.properties.path query.application segment.profile

def Completed : Prop :=
  ∃ propertySource, segment.outcome = .ok propertySource

/-- The token that the segment takes is decoded, to these credentials. -/
def Decodes (credentials : SessionCredentials) : Prop :=
  ∃ token, segment.before.token = some token ∧ SessionCredentials.decode token = .ok credentials

/-- All pages are read, and these are the parameters on them. -/
def Brings (parameters : List Parameter) : Prop :=
  ∃ source built, repository.sourceFor segment.before.token = .ok source ∧
    segment.before.service.connect (source.session repository.properties.region) = .ok built ∧
    Service.Brings (segment.path repository query) segment.before.service none parameters

def calls : Nat :=
  (Event.calls segment.events).length

def SentLine (line : Line) : Prop :=
  ∃ credentials, segment.Decodes credentials ∧ line = .credentials credentials

def FetchedLine (line : Line) : Prop :=
  ∃ parameters, segment.Brings repository query parameters ∧
    line = .parametersFetched (segment.path repository query) parameters.length segment.calls

/-- The warning for a request for a page that is refused or does not reach the service. -/
def WarnedLine (line : Line) : Prop :=
  ∃ failure, segment.RaisedByPage repository query failure ∧
    Line.fetchFailed? (segment.path repository query) failure = some line

end Segment

/-- What the log tells of a segment. -/
inductive Narrated (repository : Repository) (query : Query) (segment : Segment) :
    List Line → Prop
  | completed {source : Source} {parameters : List Parameter} {propertySource : PropertySource}
      {sent : List Line} (houtcome : segment.outcome = .ok propertySource)
      (hsource : repository.sourceFor segment.before.token = .ok source)
      (hbrings : segment.Brings repository query parameters)
      (hcount : propertySource.source.size ≤ parameters.length)
      (hsent : Once (fun line => ∃ credentials, source = .token credentials ∧
        line = .credentials credentials) sent) :
      Narrated repository query segment
        (sent ++
          [.parametersFetched (segment.path repository query) parameters.length segment.calls,
           .propertySourceBuilt query (segment.path repository query) source.kind
            propertySource.source.size])
  | failed {failure : Failure} {sent fetched warned : List Line}
      (houtcome : segment.outcome = .error failure)
      (hsent : Once segment.SentLine sent)
      (hfetched : Once (segment.FetchedLine repository query) fetched)
      (hwarned : Once (segment.WarnedLine repository query) warned) :
      Narrated repository query segment (sent ++ fetched ++ warned)

/-! ### Credentials that were sent -/

theorem decodes_iff {segment : Segment} {credentials : SessionCredentials} :
    segment.Decodes credentials ↔
      sentCredentials segment.before.token = .ok (some credentials) := by
  unfold Segment.Decodes
  constructor
  · rintro ⟨token, htoken, hdecode⟩
    rw [htoken]
    exact sentCredentials_of_read (SessionCredentials.decode_eq_ok.mp hdecode)
  · intro hsent
    cases htoken : segment.before.token with
    | none =>
      rw [htoken] at hsent
      cases hsent
    | some token =>
      rw [htoken] at hsent
      unfold sentCredentials at hsent
      dsimp only at hsent
      split at hsent
      · cases hsent
      · cases hdecode : SessionCredentials.decode token with
        | error failure => exact nomatch hdecode ▸ hsent
        | ok other =>
          rw [hdecode] at hsent
          exact ⟨token, rfl, by rw [hdecode, Option.some.inj (Except.ok.inj hsent)]⟩

theorem localSource_ne_token (repository : Repository) (credentials : SessionCredentials) :
    repository.localSource ≠ .token credentials := by
  unfold localSource
  split
  · split <;> exact fun hsame => nomatch congrArg Source.kind hsame
  · exact fun hsame => nomatch congrArg Source.kind hsame

/-- Credentials were sent just when the source is a token with them. -/
theorem sentCredentials_eq_some_iff {token : Option String} {source : Source}
    {credentials : SessionCredentials} (hsource : repository.sourceFor token = .ok source) :
    sentCredentials token = .ok (some credentials) ↔ source = .token credentials := by
  unfold sourceFor at hsource
  cases hsent : sentCredentials token with
  | error failure =>
    rw [hsent] at hsource
    cases hsource
  | ok sent =>
    rw [hsent] at hsource
    obtain rfl := Except.ok.inj hsource
    cases sent with
    | none => simp [localSource_ne_token]
    | some other => simp [Source.token]

theorem tokenRecords_told (segment : Segment) :
    ∃ sent, Once segment.SentLine sent ∧
      tokenRecords segment.before.token = sent.map Line.record := by
  unfold Segment.SentLine tokenRecords
  simp only [decodes_iff]
  cases hsent : sentCredentials segment.before.token with
  | error failure => exact ⟨[], .silent (by simp), rfl⟩
  | ok sent =>
    cases sent with
    | none => exact ⟨[], .silent (by simp), rfl⟩
    | some credentials => exact ⟨_, .told ⟨credentials, rfl, rfl⟩, rfl⟩

/-! ### Readings -/

theorem records_of_error {path : String} {reading : Reading} {failure : Failure}
    (hpages : reading.outcome = .error failure) :
    Fetch.records path reading = (Line.fetchFailed? path failure).toList.map Line.record := by
  unfold Fetch.records
  rw [hpages]
  cases failure <;> rfl

theorem size_ofParameters_le {path : String} {parameters : List Parameter}
    {propertySource : PropertySource}
    (hbuilt : PropertySource.ofParameters path parameters = .ok propertySource) :
    propertySource.source.size ≤ parameters.length := by
  unfold PropertySource.ofParameters at hbuilt
  cases hpairs : parameters.mapM (fun parameter =>
      (parameter.key path).map fun key => (key, parameter.value)) with
  | error failure =>
    rw [hpairs] at hbuilt
    cases hbuilt
  | ok pairs =>
    rw [hpairs] at hbuilt
    obtain rfl := Except.ok.inj hbuilt
    rw [(forall₂_of_mapM_ok hpairs).length_eq]
    exact OrderedMap.size_ofList_le_length pairs

/-- The segment has a source and a client for it, and comes to this reading. -/
structure Segment.Reads (repository : Repository) (query : Query) (segment : Segment)
    (source : Source) (reading : Reading) : Prop where
  resolved : repository.sourceFor segment.before.token = .ok source
  admitted : ∃ built,
    segment.before.service.connect (source.session repository.properties.region) = .ok built
  pages : reading.outcome =
    (segment.before.service.readPages (segment.path repository query) none).outcome
  calls : segment.calls = reading.requests.length
  outcome : segment.outcome = sourceRead (segment.path repository query) reading.outcome

namespace Segment.Reads

variable {segment : Segment} {source : Source} {reading : Reading} {parameters : List Parameter}
  {failure : Failure}

theorem brings_iff (hreads : segment.Reads repository query source reading) :
    segment.Brings repository query parameters ↔ reading.outcome = .ok parameters := by
  obtain ⟨built, hconnect⟩ := hreads.admitted
  rw [hreads.pages, ← Service.brings_iff]
  exact ⟨fun ⟨_, _, _, _, hbrings⟩ => hbrings,
    fun hbrings => ⟨source, built, hreads.resolved, hconnect, hbrings⟩⟩

theorem raisedByPage_iff (hreads : segment.Reads repository query source reading) :
    segment.RaisedByPage repository query failure ↔ reading.outcome = .error failure := by
  obtain ⟨built, hconnect⟩ := hreads.admitted
  rw [hreads.pages, ← Service.raises_iff]
  exact ⟨fun ⟨_, _, _, _, hraises⟩ => hraises,
    fun hraises => ⟨source, built, hreads.resolved, hconnect, hraises⟩⟩

theorem fetched (hreads : segment.Reads repository query source reading)
    (hpages : reading.outcome = .ok parameters) :
    Once (segment.FetchedLine repository query)
      [.parametersFetched (segment.path repository query) parameters.length segment.calls] :=
  .told ⟨parameters, hreads.brings_iff.mpr hpages, rfl⟩

theorem unfetched (hreads : segment.Reads repository query source reading)
    (hpages : reading.outcome = .error failure) :
    Once (segment.FetchedLine repository query) [] := by
  refine .silent fun line ⟨parameters, hbrings, _⟩ => ?_
  exact nomatch hpages.symm.trans (hreads.brings_iff.mp hbrings)

theorem warned (hreads : segment.Reads repository query source reading)
    (hpages : reading.outcome = .error failure) :
    Once (segment.WarnedLine repository query)
      (Line.fetchFailed? (segment.path repository query) failure).toList := by
  cases hwarning : Line.fetchFailed? (segment.path repository query) failure with
  | some line => exact .told ⟨failure, hreads.raisedByPage_iff.mpr hpages, hwarning⟩
  | none =>
    refine .silent fun line ⟨raised, hraised, hline⟩ => ?_
    obtain rfl := Except.error.inj (hpages.symm.trans (hreads.raisedByPage_iff.mp hraised))
    exact nomatch hwarning.symm.trans hline

theorem unwarned (hreads : segment.Reads repository query source reading)
    (hpages : reading.outcome = .ok parameters) :
    Once (segment.WarnedLine repository query) [] := by
  refine .silent fun line ⟨raised, hraised, _⟩ => ?_
  exact nomatch hpages.symm.trans (hreads.raisedByPage_iff.mp hraised)

theorem records_of_ok (hreads : segment.Reads repository query source reading)
    (hpages : reading.outcome = .ok parameters) :
    Fetch.records (segment.path repository query) reading =
      [(Line.parametersFetched (segment.path repository query) parameters.length
        segment.calls).record] := by
  rw [Fetch.records, hpages, hreads.calls]
  rfl

/-- A segment that comes to reading its pages tells what they bring, or which failure ends the reading. -/
theorem narrated (hreads : segment.Reads repository query source reading) :
    ∃ told, Narrated repository query segment told ∧
      tokenRecords segment.before.token ++
        readingRecords query (segment.path repository query) source reading =
          told.map Line.record := by
  obtain ⟨sent, hsent, hrecords⟩ := tokenRecords_told segment
  have houtcome := hreads.outcome
  rw [hrecords, readingRecords]
  cases hpages : reading.outcome with
  | error failure =>
    rw [hpages] at houtcome
    obtain ⟨other, hother⟩ : ∃ other, sourceRead (segment.path repository query)
        (.error failure) = .error other := by
      cases failure <;> exact ⟨_, rfl⟩
    refine ⟨_, .failed (houtcome.trans hother) hsent (hreads.unfetched hpages)
      (hreads.warned hpages), ?_⟩
    rw [hother, records_of_error hpages]
    simp only [List.append_nil, List.map_append]
  | ok parameters =>
    rw [hpages] at houtcome
    rw [hreads.records_of_ok hpages]
    cases hbuilt : PropertySource.ofParameters (segment.path repository query) parameters with
    | error failure =>
      have hfailure : sourceRead (segment.path repository query) (.ok parameters) =
        .error failure := hbuilt
      refine ⟨_, .failed (houtcome.trans hfailure) hsent (hreads.fetched hpages)
        (hreads.unwarned hpages), ?_⟩
      rw [hfailure]
      simp only [List.append_nil, List.map_append, List.map_singleton]
    | ok propertySource =>
      have hsuccess : sourceRead (segment.path repository query) (.ok parameters) =
        .ok propertySource := hbuilt
      have hcredentials := hsent.congr fun line => exists_congr fun credentials =>
        and_congr_left fun _ => decodes_iff.trans (sentCredentials_eq_some_iff hreads.resolved)
      refine ⟨_, .completed (houtcome.trans hsuccess) hreads.resolved
        (hreads.brings_iff.mpr hpages) (size_ofParameters_le hbuilt) hcredentials, ?_⟩
      rw [hsuccess, List.map_append]
      rfl

end Segment.Reads

/-! ### Segments -/

section

variable {state after : ServingState} {events : List Event} {built : List Client}

/-- A segment that fails before it asks for a page tells at most of the credentials that were sent. -/
theorem narrated_unread {segment : Segment} {failure : Failure}
    (houtcome : segment.outcome = .error failure)
    (hunread : ∀ source built, repository.sourceFor segment.before.token = .ok source →
      segment.before.service.connect (source.session repository.properties.region) ≠ .ok built) :
    ∃ told, Narrated repository query segment told ∧
      tokenRecords segment.before.token = told.map Line.record := by
  obtain ⟨sent, hsent, hrecords⟩ := tokenRecords_told segment
  refine ⟨_, .failed houtcome hsent (.silent ?_) (.silent ?_), ?_⟩
  · rintro line ⟨parameters, ⟨source, built, hsource, hconnect, _⟩, _⟩
    exact hunread source built hsource hconnect
  · rintro line ⟨raised, ⟨source, built, hsource, hconnect, _⟩, _⟩
    exact hunread source built hsource hconnect
  · rw [List.append_nil, List.append_nil, hrecords]

theorem Served.narrated {profile : String} {outcome : Except Failure PropertySource}
    (hserved : Served repository query profile state outcome events built after)
    (havailable : Available repository.properties.region state) (last : ServingState) :
    ∃ told, Narrated repository query
        { profile, before := state, outcome, events, after := last } told ∧
      Event.records events = told.map Line.record := by
  cases hserved with
  | unresolved hsource =>
    obtain ⟨told, hnarrated, hrecords⟩ := @narrated_unread repository query
      { profile, before := state, outcome := .error _, events := [], after := last } _ rfl
      fun source built hother => nomatch hsource.symm.trans hother
    refine ⟨told, hnarrated, ?_⟩
    rw [← hrecords, tokenRecords_of_error hsource]
    rfl
  | @unconnected source failure opened _ _ hsource hacquired =>
    have hadmission : .error failure =
        state.service.admission (source.session repository.properties.region) :=
      hacquired.outcome_eq havailable.tokenTaken
    have hunread : ∀ other built, repository.sourceFor state.token = .ok other →
        state.service.connect (other.session repository.properties.region) ≠ .ok built := by
      rintro other ⟨client, service⟩ hother hconnect
      obtain rfl := Except.ok.inj (hsource.symm.trans hother)
      exact nomatch hadmission.trans (Service.admission_of_connect hconnect)
    obtain ⟨told, hnarrated, hrecords⟩ := @narrated_unread repository query
      { profile, before := state, outcome := .error failure
        events := (tokenRecords state.token).map .logged ++ opened, after := last } _ rfl hunread
    refine ⟨told, hnarrated, ?_⟩
    rw [Event.records_append, Event.records_logged, hacquired.records_eq_nil, List.append_nil,
      ← hrecords]
  | @read source client opened _ middle path reading hsource hacquired hpath hreading =>
    have hadmission : .ok () =
        state.service.admission (source.session repository.properties.region) :=
      hacquired.outcome_eq havailable.tokenTaken
    have hconnect := state.service.connect_eq (source.session repository.properties.region)
    rw [← hadmission] at hconnect
    have hpages : reading.outcome = (state.service.readPages path none).outcome := by
      obtain ⟨count, shared, held, rfl⟩ := hacquired.after_eq
      rw [hreading]
      exact (state.service.readPages_built count path none).2.1
    subst hpath
    let segment : Segment :=
      { profile, before := state, after := last
        outcome := sourceRead (repository.properties.path query.application profile) reading.outcome
        events := (tokenRecords state.token).map .logged ++ (opened ++
          (reading.requests.map (.called client) ++ (readingRecords query
            (repository.properties.path query.application profile) source reading).map .logged)) }
    have hcalls : segment.calls = reading.requests.length := by
      simp [segment, Segment.calls, hacquired.calls_eq_nil]
    have hreads : segment.Reads repository query source reading :=
      ⟨hsource, ⟨_, hconnect⟩, hpages, hcalls, rfl⟩
    obtain ⟨told, hnarrated, hrecords⟩ := hreads.narrated
    refine ⟨told, hnarrated, ?_⟩
    rw [← hrecords]
    simp only [Event.records_append, Event.records_logged, Event.records_called,
      hacquired.records_eq_nil, List.nil_append]
    rfl

theorem ServedAll.narrated {profiles : List String} {all : List Segment}
    {outcome : Except Failure (List PropertySource)}
    (hall : ServedAll repository query profiles state all built outcome after)
    (havailable : Available repository.properties.region state) :
    ∃ told, List.Forall₂ (Narrated repository query) all told ∧
      Event.records (all.flatMap Segment.events) = told.flatten.map Line.record := by
  induction hall with
  | nil => exact ⟨[], .nil, rfl⟩
  | stop hserved =>
    obtain ⟨told, hnarrated, hrecords⟩ := hserved.narrated havailable _
    refine ⟨[told], .cons hnarrated .nil, ?_⟩
    rw [List.flatMap_singleton, hrecords, List.flatten_singleton]
  | next hserved hrest ih =>
    obtain ⟨told, hnarrated, hrecords⟩ := hserved.narrated havailable _
    obtain ⟨later, hlater, hmore⟩ := ih ((hserved.available havailable).of_same_clients rfl rfl
      rfl fun _ hentry => hentry)
    refine ⟨told :: later, .cons hnarrated hlater, ?_⟩
    rw [List.flatMap_cons, Event.records_append, hrecords, hmore, List.flatten_cons,
      List.map_append]

end

/-! ### Requests -/

def ClosesAll (service : Service) (observed : Observed Environment) : Prop :=
  ∀ client ∈ Event.closings observed.events, service.failsToClose client = false

/-- What the log tells of a request: its segments in their order, of which only the last may have failed, and the environment when nothing fails. -/
inductive Narration (repository : Repository) (query : Query) (before : ServingState)
    (observed : Observed Environment) : List Line → Prop
  | intro {told : List (List Line)} {ending : List Line}
      (hprofiles : ((repository.segments query before).map Segment.profile).IsPrefix
        (splitProfiles query.profiles))
      (hearlier : ∀ segment ∈ (repository.segments query before).dropLast, segment.Completed)
      (htold : List.Forall₂ (Narrated repository query) (repository.segments query before) told)
      (hending : Once (fun line =>
        (∀ segment ∈ repository.segments query before, segment.Completed) ∧
          ClosesAll before.service observed ∧
          line = .environmentResolved query (repository.segments query before).length) ending) :
      Narration repository query before observed (told.flatten ++ ending)

theorem forall_closedInTurn_iff {service : Service} {clients : List Client} :
    (∀ client ∈ Clients.closedInTurn service clients, service.failsToClose client = false) ↔
      ∀ client ∈ clients, service.failsToClose client = false := by
  constructor
  · intro hclosed
    induction clients with
    | nil => exact hclosed
    | cons client rest ih =>
      rw [Clients.closedInTurn, List.forall_mem_cons] at hclosed
      rw [if_neg (by rw [hclosed.1]; decide)] at hclosed
      exact List.forall_mem_cons.mpr ⟨hclosed.1, ih hclosed.2⟩
  · intro hcloses client hclient
    exact hcloses client ((Clients.isPrefix_closedInTurn _ _).subset hclient)

section

variable {profiles : List String} {state after : ServingState} {all : List Segment}
  {built : List Client} {outcome : Except Failure (List PropertySource)}

theorem ServedAll.completed_iff
    (hall : ServedAll repository query profiles state all built outcome after) :
    (∀ segment ∈ all, segment.Completed) ↔ ∃ propertySources, outcome = .ok propertySources := by
  rcases hall.cases_outcome with ⟨failure, front, last, rfl, rfl, hlast, _⟩ |
    ⟨propertySources, rfl, _, houtcomes⟩
  · refine iff_of_false (fun hcompleted => ?_) fun ⟨_, hsources⟩ => nomatch hsources
    obtain ⟨propertySource, hsource⟩ := hcompleted last (by simp)
    exact nomatch hlast.symm.trans hsource
  · refine iff_of_true (fun segment hsegment => ?_) ⟨propertySources, rfl⟩
    have houtcome : segment.outcome ∈ propertySources.map .ok :=
      houtcomes ▸ List.mem_map_of_mem hsegment
    obtain ⟨propertySource, _, hsource⟩ := List.mem_map.mp houtcome
    exact ⟨propertySource, hsource.symm⟩

/-- Only the last segment may have failed. -/
theorem ServedAll.completed_of_mem_dropLast
    (hall : ServedAll repository query profiles state all built outcome after) :
    ∀ segment ∈ all.dropLast, segment.Completed := by
  cases houtcome : outcome with
  | ok propertySources =>
    have hcompleted := hall.completed_iff.mpr ⟨propertySources, houtcome⟩
    exact fun segment hsegment => hcompleted segment (List.dropLast_subset _ hsegment)
  | error failure =>
    rcases hall.cases_outcome with ⟨_, front, last, _, rfl, _, hfront⟩ | ⟨_, hanswer, _⟩
    · rwa [List.dropLast_concat]
    · exact nomatch houtcome.symm.trans hanswer

theorem ServedAll.length_eq {propertySources : List PropertySource}
    (hall : ServedAll repository query profiles state all built (.ok propertySources) after) :
    all.length = profiles.length := by
  rcases hall.cases_outcome with ⟨_, _, _, hfailed, _⟩ | ⟨_, _, hprofiles, _⟩
  · cases hfailed
  · rw [← hprofiles, List.length_map]

end

theorem of_concluded_eq_ok {middle : ServingState} {served : Except Failure (List PropertySource)}
    {environment : Environment} (houtcome : concluded query middle served = .ok environment) :
    (∃ propertySources, served = .ok propertySources) ∧
      ∀ client ∈ Clients.tokenClients middle.held.entries,
        middle.service.failsToClose client = false := by
  unfold concluded at houtcome
  constructor
  · cases served with
    | ok propertySources => exact ⟨propertySources, rfl⟩
    | error failure => split at houtcome <;> cases houtcome
  · intro client hclient
    cases hfails : middle.service.failsToClose client with
    | false => rfl
    | true =>
      rw [Clients.closingOutcome_eq_error (List.any_eq_true.mpr ⟨client, hclient, hfails⟩)]
        at houtcome
      cases houtcome

/-- A request logs its segments, then the environment when these are completed and all clients closed. -/
theorem exists_narration (repository : Repository) (query : Query) (before : ServingState)
    (havailable : Available repository.properties.region before) :
    ∃ told, Narration repository query before (observe (repository.findOne query) before).1 told ∧
      Event.records (observe (repository.findOne query) before).1.events =
        told.map Line.record := by
  obtain ⟨built, served, middle, hall, hruns⟩ := exists_runs_findOne repository query before
  obtain ⟨told, htold, hrecords⟩ := hall.narrated
    (havailable.of_same_clients rfl rfl rfl fun _ hentry => nomatch hentry)
  have hclosings : Event.closings (observe (repository.findOne query) before).1.events =
      Clients.closedInTurn middle.service (Clients.tokenClients middle.held.entries) := by
    rw [hruns.observe, Event.closings_ending, hall.closings_eq_nil, List.nil_append]
  have hfails : before.service.failsToClose = middle.service.failsToClose := by
    obtain ⟨script, count, hservice⟩ := hall.service_eq
    exact Service.failsToClose_congr (by rw [hservice])
  have hcloses : ClosesAll before.service (observe (repository.findOne query) before).1 ↔
      ∀ client ∈ Clients.tokenClients middle.held.entries,
        middle.service.failsToClose client = false := by
    rw [ClosesAll, hclosings, hfails]
    exact forall_closedInTurn_iff
  have hended : Event.records (observe (repository.findOne query) before).1.events =
      told.flatten.map Line.record ++ endingRecords query (concluded query middle served) := by
    rw [hruns.observe, Event.records_append, Event.records_append, Event.records_closed,
      Event.records_logged, List.nil_append]
    exact congrArg (· ++ _) hrecords
  have hprofiles : ((repository.segments query before).map Segment.profile).IsPrefix
      (splitProfiles query.profiles) := segmentsFrom_profiles _ _
  by_cases hdone : (∀ segment ∈ repository.segments query before, segment.Completed) ∧
      ClosesAll before.service (observe (repository.findOne query) before).1
  case pos =>
    obtain ⟨propertySources, rfl⟩ := hall.completed_iff.mp hdone.1
    refine ⟨_, .intro hprofiles hall.completed_of_mem_dropLast htold
      (.told ⟨hdone.1, hdone.2, rfl⟩), ?_⟩
    rw [hended, concluded, Clients.closingOutcome_eq_ok (hcloses.mp hdone.2), List.map_append,
      hall.length_eq]
    rfl
  case neg =>
    refine ⟨_, .intro hprofiles hall.completed_of_mem_dropLast htold
      (.silent fun line hline => hdone ⟨hline.1, hline.2.1⟩), ?_⟩
    cases houtcome : concluded query middle served with
    | error failure =>
      rw [hended, houtcome, List.append_nil]
      exact List.append_nil _
    | ok environment =>
      obtain ⟨hserved, hclosed⟩ := of_concluded_eq_ok houtcome
      exact absurd ⟨hall.completed_iff.mpr hserved, hcloses.mpr hclosed⟩ hdone

/-- After every run, each request logs what its segments come to, and of these lines those are emitted whose level reaches the threshold: all of them at the level of debugging. -/
theorem lines_narrated (repository : Repository) (service : Service) (provider : TokenProvider)
    (bindings : Bindings) (steps : List Step) (query : Query) :
    let before := (repository.run steps { service, provider, bindings }).2
    let observed := (observe (repository.findOne query) before).1
    let records := Event.records observed.events
    ∃ told, Narration repository query before observed told ∧
      ∀ (settings : Log.Settings) (time : String),
        (Log.threshold (.string "DEBUG") = .ok settings.threshold →
          settings.Emits time records (told.map (Line.written settings time))) ∧
        settings.Emits time records
          ((told.filter fun line => line.level.passes settings.threshold).map
            (Line.written settings time)) := by
  intro before observed records
  have havailable : Available repository.properties.region before :=
    repository.run_available (.start service provider bindings) steps
  obtain ⟨told, hnarration, hrecords⟩ := exists_narration repository query before havailable
  refine ⟨told, hnarration, fun settings time => ⟨fun hdebug => ?_, ?_⟩⟩
  · have hthreshold : settings.threshold = Log.Level.debug.weight :=
      (Except.ok.inj hdebug).symm
    rw [show records = told.map Line.record from hrecords]
    exact settings.emits_record_of_debug time told hthreshold
  · rw [show records = told.map Line.record from hrecords]
    exact settings.emits_record time told

end Repository
end ParameterConfig
