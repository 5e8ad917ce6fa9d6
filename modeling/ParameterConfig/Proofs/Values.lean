import ParameterConfig.Proofs.Causes
import ParameterConfig.Proofs.Json.Writable
import ParameterConfig.Proofs.OrderedMap

/-!
# Where values come from

The values of an environment are texts from the store or stand in a response that was prepared: `known_of_findOne`. What is told of an environment can therefore be written if the prepared responses can.
-/

namespace ParameterConfig

open Serving

/-- A value that a service may bring: a text, or what stands somewhere in a prepared response. -/
inductive Json.Known (service : Service) (value : Json) : Prop
  | text (s : String) (htext : value = .string s)
  | prepared {response : Json} (hprepared : .response response ∈ service.script)
      (hoccurs : Occurs value response)

theorem Json.Known.of_subset {service before : Service} {value : Json}
    (hknown : value.Known service) (hscript : service.script ⊆ before.script) :
    value.Known before := by
  cases hknown with
  | text s htext => exact .text s htext
  | prepared hprepared hoccurs => exact .prepared (hscript hprepared) hoccurs

theorem Json.Known.short {service : Service} {value : Json} (hknown : value.Known service)
    (hshort : ∀ response, .response response ∈ service.script → ¬ response.TooLong) :
    ¬ value.TooLong := by
  cases hknown with
  | text s htext => exact htext ▸ not_tooLong_string s
  | prepared hprepared hoccurs => exact fun hlong => hshort _ hprepared (hlong.of_occurs hoccurs)

/-! ### Pages -/

theorem Json.mem_of_member? {name : String} {members : List (String × Json)} {value : Json}
    (hmember : member? name members = some value) : ∃ member ∈ members, member.2 = value := by
  obtain ⟨member, hfound, rfl⟩ := Option.map_eq_some_iff.mp hmember
  exact ⟨member, List.mem_of_find?_eq_some hfound, rfl⟩

theorem Page.occurs_of_parameter? {item : Json} {parameter : Parameter}
    (hread : parameter? item = .ok parameter) : Json.Occurs parameter.value item := by
  unfold parameter? at hread
  split at hread
  · split at hread
    · rename_i hvalue
      obtain rfl := Except.ok.inj hread
      obtain ⟨member, hmem, hsame⟩ := Json.mem_of_member? hvalue
      exact .member hmem (hsame ▸ .here)
    · cases hread
  · cases hread

/-- What is made a parameter is an element of the list of parameters, as texts have no members. -/
theorem Page.occurs_of_parameterList {listed item : Json} {items : List Json}
    {parameter : Parameter} (hitems : parameterList listed = .ok items) (hitem : item ∈ items)
    (hread : parameter? item = .ok parameter) : Json.Occurs item listed := by
  unfold parameterList at hitems
  split at hitems
  · obtain rfl := Except.ok.inj hitems
    exact .item hitem .here
  · obtain rfl := Except.ok.inj hitems
    obtain ⟨_, _, rfl⟩ := List.mem_map.mp hitem
    cases hread
  · obtain rfl := Except.ok.inj hitems
    obtain ⟨_, _, rfl⟩ := List.mem_map.mp hitem
    cases hread
  · cases hitems

theorem Page.occurs_of_ofResponse {response : Json} {page : Page} {parameter : Parameter}
    (hread : ofResponse response = .ok page) (hparameter : parameter ∈ page.parameters) :
    Json.Occurs parameter.value response := by
  cases response with
  | object members =>
    cases hitems : parameterList ((Json.member? "Parameters" members).getD (.array [])) with
    | error failure =>
      simp only [ofResponse, hitems] at hread
      cases hread
    | ok items =>
      cases hparameters : items.mapM parameter? with
      | error failure =>
        simp only [ofResponse, hitems, bind, Except.bind, hparameters] at hread
        cases hread
      | ok parameters =>
        simp only [ofResponse, hitems, bind, Except.bind, hparameters] at hread
        obtain rfl := Except.ok.inj hread
        obtain ⟨item, hitem, hvalue⟩ := exists_of_mem_mapM_ok hparameters hparameter
        have hinner := (occurs_of_parameter? hvalue).trans
          (occurs_of_parameterList hitems hitem hvalue)
        cases hlisted : Json.member? "Parameters" members with
        | none =>
          rw [hlisted] at hitems
          obtain rfl := Except.ok.inj hitems
          cases hitem
        | some listed =>
          rw [hlisted] at hinner
          obtain ⟨member, hmem, hsame⟩ := Json.mem_of_member? hlisted
          exact .member hmem (hsame ▸ hinner)
  | _ => cases hread

namespace Service

variable {service : Service}

theorem known_of_storeReply {request : Request} {page : Page} {parameter : Parameter}
    (hreply : service.storeReply request = .ok page) (hparameter : parameter ∈ page.parameters) :
    parameter.value.Known service := by
  unfold storeReply at hreply
  cases hstart : startOf request.token with
  | error failure =>
    rw [hstart] at hreply
    cases hreply
  | ok start =>
    rw [hstart] at hreply
    obtain rfl := Except.ok.inj hreply
    obtain ⟨entry, _, rfl⟩ := List.mem_map.mp hparameter
    exact .text entry.2 rfl

theorem known_of_reply {request : Request} {page : Page} {parameter : Parameter}
    (hreply : (service.reply request).1 = .ok page) (hparameter : parameter ∈ page.parameters) :
    parameter.value.Known service := by
  unfold reply at hreply
  split at hreply
  · exact known_of_storeReply hreply hparameter
  · rename_i prepared script hscript
    cases prepared with
    | failure failure => cases hreply
    | response response =>
      exact .prepared (hscript ▸ List.mem_cons_self) (Page.occurs_of_ofResponse hreply hparameter)
    | fromStore =>
      refine (known_of_storeReply hreply hparameter).of_subset ?_
      rw [hscript]
      exact List.subset_cons_self _ _

theorem known_of_readPages {path : String} {token : Option PageToken}
    {parameters : List Parameter} (houtcome : (service.readPages path token).outcome = .ok parameters) :
    ∀ parameter ∈ parameters, parameter.value.Known service := by
  have hbrings := brings_iff.mpr houtcome
  clear houtcome
  induction hbrings with
  | last hreply hlast => exact fun parameter => known_of_reply hreply
  | next hreply hnext hlater ih =>
    intro parameter hparameter
    rcases List.mem_append.mp hparameter with hnow | hparameter
    · exact known_of_reply hreply hnow
    · exact (ih parameter hparameter).of_subset (reply_script_subset _ _)

end Service

/-! ### Property sources -/

theorem PropertySource.exists_of_ofParameters {path : String} {parameters : List Parameter}
    {propertySource : PropertySource} (hbuilt : ofParameters path parameters = .ok propertySource)
    {entry : String × Json} (hentry : entry ∈ propertySource.source.entries) :
    ∃ parameter ∈ parameters, entry.2 = parameter.value := by
  unfold ofParameters at hbuilt
  cases hpairs : parameters.mapM (fun parameter =>
      (parameter.key path).map fun key => (key, parameter.value)) with
  | error failure =>
    rw [hpairs] at hbuilt
    cases hbuilt
  | ok pairs =>
    rw [hpairs] at hbuilt
    obtain rfl := Except.ok.inj hbuilt
    obtain ⟨parameter, hparameter, hpair⟩ :=
      exists_of_mem_mapM_ok hpairs (OrderedMap.entries_ofList_subset pairs hentry)
    refine ⟨parameter, hparameter, ?_⟩
    cases hkey : parameter.key path with
    | error failure =>
      rw [hkey] at hpair
      cases hpair
    | ok key =>
      rw [hkey] at hpair
      obtain rfl := Except.ok.inj hpair
      rfl

namespace Repository

variable {repository : Repository} {query : Query} {state after : ServingState}
  {events : List Event} {built : List Client}

theorem Served.known {profile : String} {propertySource : PropertySource}
    (hserved : Served repository query profile state (.ok propertySource) events built after) :
    ∀ entry ∈ propertySource.source.entries, entry.2.Known state.service := by
  generalize houtcome : (.ok propertySource : Except Failure PropertySource) = outcome at hserved
  cases hserved with
  | unresolved hsource => cases houtcome
  | unconnected hsource hacquired => cases houtcome
  | @read source client _ _ middle path reading hsource hacquired hpath hreading =>
    obtain ⟨count, shared, held, rfl⟩ := hacquired.after_eq
    intro entry hentry
    unfold sourceRead at houtcome
    cases hread : reading.outcome with
    | error failure =>
      rw [hread] at houtcome
      cases failure <;> cases houtcome
    | ok parameters =>
      rw [hread] at houtcome
      obtain ⟨parameter, hparameter, hvalue⟩ :=
        PropertySource.exists_of_ofParameters houtcome.symm hentry
      rw [hreading] at hread
      rw [hvalue]
      exact (Service.known_of_readPages hread parameter hparameter).of_subset (List.Subset.refl _)

theorem ServedAll.known {profiles : List String} {all : List Segment}
    {outcome : Except Failure (List PropertySource)} {propertySources : List PropertySource}
    (hall : ServedAll repository query profiles state all built outcome after)
    (houtcome : outcome = .ok propertySources) :
    ∀ propertySource ∈ propertySources,
      ∀ entry ∈ propertySource.source.entries, entry.2.Known state.service := by
  induction hall generalizing propertySources with
  | nil =>
    obtain rfl := Except.ok.inj houtcome
    exact fun _ hmem => nomatch hmem
  | stop hserved => cases houtcome
  | @next _ _ _ _ _ _ _ _ _ _ outcome hserved hrest ih =>
    cases outcome with
    | error failure => cases houtcome
    | ok later =>
      obtain rfl := Except.ok.inj houtcome
      refine List.forall_mem_cons.mpr ⟨hserved.known, fun other hother entry hentry => ?_⟩
      exact (ih rfl other hother entry hentry).of_subset hserved.script_subset

/-- All values of the environment that a request is answered with were brought by the service. -/
theorem known_of_findOne {before : ServingState} {environment : Environment}
    (hanswered : (observe (repository.findOne query) before).1.outcome = .ok environment) :
    ∀ propertySource ∈ environment.propertySources,
      ∀ entry ∈ propertySource.source.entries, entry.2.Known before.service := by
  obtain ⟨built, served, middle, hall, hruns⟩ := exists_runs_findOne repository query before
  rw [hruns.observe] at hanswered
  change concluded query middle served = _ at hanswered
  unfold concluded at hanswered
  cases hclosing : Clients.closingOutcome middle.service
      (Clients.tokenClients middle.held.entries) with
  | error failure =>
    rw [hclosing] at hanswered
    cases hanswered
  | ok closed =>
    rw [hclosing] at hanswered
    cases served with
    | error failure => cases hanswered
    | ok propertySources =>
      obtain rfl := Except.ok.inj hanswered
      exact hall.known rfl

end Repository

/-! ### What is told of an environment -/

/-- An environment is short when its values are, as all else in it is text. -/
theorem Environment.not_tooLong_toJson {environment : Environment}
    (hshort : ∀ propertySource ∈ environment.propertySources,
      ∀ entry ∈ propertySource.source.entries, ¬ entry.2.TooLong) :
    ¬ environment.toJson.TooLong := by
  have hoptional : ∀ text, ¬ (Json.ofOptional text).TooLong := by
    rintro (_ | text) ⟨_, _, hoccurs⟩ <;> cases hoccurs
  rw [Environment.toJson, Json.tooLong_object]
  rintro ⟨member, hmem, hlong⟩
  simp only [List.mem_cons, List.not_mem_nil, or_false] at hmem
  rcases hmem with rfl | rfl | rfl | rfl | rfl | rfl
  · exact Json.not_tooLong_string _ hlong
  · obtain ⟨item, hitem, hlong⟩ := Json.tooLong_array.mp hlong
    obtain ⟨profile, _, rfl⟩ := List.mem_map.mp hitem
    exact Json.not_tooLong_string profile hlong
  · exact hoptional _ hlong
  · exact hoptional _ hlong
  · exact hoptional _ hlong
  · obtain ⟨item, hitem, hlong⟩ := Json.tooLong_array.mp hlong
    obtain ⟨propertySource, hsource, rfl⟩ := List.mem_map.mp hitem
    rw [PropertySource.toJson, Json.tooLong_object] at hlong
    obtain ⟨part, hpart, hlong⟩ := hlong
    simp only [List.mem_cons, List.not_mem_nil, or_false] at hpart
    rcases hpart with rfl | rfl
    · exact Json.not_tooLong_string _ hlong
    · obtain ⟨entry, hentry, hlong⟩ := Json.tooLong_object.mp hlong
      exact hshort propertySource hsource entry hentry hlong

end ParameterConfig
