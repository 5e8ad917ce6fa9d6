import ParameterConfig.Proofs.Shown

/-!
# Requests and what went before them

A request depends on the circumstances it meets and on nothing else, and what went before it leaves nothing in them but what it was meant to change: the store, the replies that are prepared, and the headers that are bound. Clients that are shared by now, requests that failed half-way, replies used up and headers bound further out are not among them. So when no prepared replies are left, a request shows what it would show to a repository just built over the same store, which is what `HistoryFree` says.
-/

namespace ParameterConfig
namespace Repository

open Serving

variable {repository : Repository} {query : Query} {service : Service}
  {provider : TokenProvider} {state : ServingState}

/-! ### What no step changes -/

/-- The service is the one that the run started with, but for its store and its prepared replies, and tokens come from where they came from. -/
structure Settled (repository : Repository) (service : Service) (provider : TokenProvider)
    (state : ServingState) : Prop where
  available : Available repository.properties.region state
  service : ∃ store script built, state.service = { service with store, script, built }
  provider : state.provider = provider

theorem Settled.start (repository : Repository) (service : Service) (provider : TokenProvider)
    (bindings : Bindings) : Settled repository service provider { service, provider, bindings } where
  available := .start service provider bindings
  service := ⟨service.store, service.script, service.built, rfl⟩
  provider := rfl

theorem Settled.run (hsettled : Settled repository service provider state)
    (hprovider : ∀ tokens, provider ≠ .sequence tokens) (steps : List Step) :
    Settled repository service provider (repository.run steps state).2 := by
  obtain ⟨_, _, _, hbefore⟩ := hsettled.service
  obtain ⟨store, script, built, hservice⟩ := repository.run_service_eq steps state
  have hsame := repository.run_provider_eq steps (hsettled.provider ▸ hprovider)
  refine ⟨run_available hsettled.available steps, ⟨store, script, built, ?_⟩, ?_⟩
  · rw [hservice, hbefore]
  · rw [hsame, hsettled.provider]

theorem Settled.closes (hsettled : Settled repository service provider state)
    (hcloses : service.failingCloses = []) : state.service.failingCloses = [] := by
  obtain ⟨store, script, built, hservice⟩ := hsettled.service
  rw [hservice]
  exact hcloses

theorem Settled.circumstances_eq (hsettled : Settled repository service provider state)
    (hscript : state.service.script = []) :
    state.circumstances =
      { service := { service with store := state.service.store, script := [], built := 0 }
        provider, headers := state.bindings.innermost } := by
  obtain ⟨store, script, built, hservice⟩ := hsettled.service
  rw [hservice] at hscript
  dsimp only at hscript
  unfold ServingState.circumstances
  rw [hservice, hsettled.provider, hscript]

/-- Two states of the same repository that agree on the store and on the headers bound innermost, with no replies left, show the same of every request. -/
theorem Settled.shows_eq {other : ServingState}
    (hsettled : Settled repository service provider state)
    (hother : Settled repository service provider other) (hcloses : service.failingCloses = [])
    (hscript : state.service.script = []) (hscriptOther : other.service.script = [])
    (hstore : other.service.store = state.service.store)
    (hheaders : other.bindings.innermost = state.bindings.innermost) (query : Query) :
    repository.shows query other = repository.shows query state := by
  rw [Repository.shows_eq hsettled.available (hsettled.closes hcloses),
    Repository.shows_eq hother.available (hother.closes hcloses),
    hsettled.circumstances_eq hscript, hother.circumstances_eq hscriptOther, hstore, hheaders]

/-! ### Bindings that come to an end -/

/-- Steps in which all that is bound is unbound again, with requests in between. -/
inductive Balanced : List Step → Prop
  | nil : Balanced []
  | request (query : Query) {rest : List Step} (hrest : Balanced rest) :
      Balanced (.findOne query :: rest)
  | nest (headers : Option Headers) {inner rest : List Step} (hinner : Balanced inner)
      (hrest : Balanced rest) : Balanced (.bind headers :: (inner ++ .unbind :: rest))

/-- Bindings and store are what they were, and no replies have been prepared. -/
structure Restored (state after : ServingState) : Prop where
  bindings : after.bindings = state.bindings
  store : after.service.store = state.service.store
  script : state.service.script = [] → after.service.script = []

theorem Restored.trans {middle after : ServingState} (hfirst : Restored state middle)
    (hsecond : Restored middle after) : Restored state after where
  bindings := hsecond.bindings.trans hfirst.bindings
  store := hsecond.store.trans hfirst.store
  script := fun hnone => hsecond.script (hfirst.script hnone)

theorem restored_findOne (repository : Repository) (query : Query) (state : ServingState) :
    Restored state (observe (Step.perform repository (.findOne query)) state).2 := by
  obtain ⟨outcome, events, built, after, hrequested, hruns⟩ :=
    exists_requested repository query state
  obtain ⟨script, count, hservice⟩ := hrequested.service_eq
  have hstep : (observe (Step.perform repository (.findOne query)) state).2 =
      { after with trace := events } := congrArg Prod.snd (hruns.map some).observe
  rw [hstep]
  refine ⟨hrequested.bindings_eq, ?_, hrequested.script_eq_nil⟩
  dsimp only
  rw [hservice]

theorem Balanced.restored {group : List Step} (hgroup : Balanced group) (repository : Repository)
    (state : ServingState) : Restored state (repository.run group state).2 := by
  induction hgroup generalizing state with
  | nil => exact ⟨rfl, rfl, id⟩
  | request query hrest ih =>
    rw [run_cons]
    exact (restored_findOne repository query state).trans (ih _)
  | @nest headers inner rest hinner hrest ihInner ihRest =>
    have hbind : (observe (Step.perform repository (.bind headers)) state).2 =
        { state with bindings := headers :: state.bindings, trace := [] } :=
      congrArg Prod.snd (runs_changeBindings state).observe
    have hunbind : ∀ middle : ServingState,
        (observe (Step.perform repository .unbind) middle).2 =
          { middle with bindings := middle.bindings.tail, trace := [] } :=
      fun middle => congrArg Prod.snd (runs_changeBindings middle).observe
    rw [run_cons, hbind, run_append, run_cons, hunbind]
    have hbound := ihInner { state with bindings := headers :: state.bindings, trace := [] }
    generalize (repository.run inner
      { state with bindings := headers :: state.bindings, trace := [] }).2 = middle at hbound ⊢
    have hunbound : Restored state
        { middle with bindings := middle.bindings.tail, trace := [] } :=
      ⟨congrArg List.tail hbound.bindings, hbound.store, hbound.script⟩
    exact hunbound.trans (ihRest _)

/-! ### Independence of history -/

/-- What has been reached tells nothing of how it was reached but the store and the headers bound innermost. -/
structure HistoryFree (repository : Repository) (service : Service) (provider : TokenProvider)
    (query : Query) (reached : ServingState) : Prop where
  /-- A request shows what it shows to a repository just built over the same store. -/
  fresh : repository.shows query reached =
    repository.shows query
      { service := { service with store := reached.service.store, script := [], built := 0 }
        provider, bindings := reached.bindings.take 1 }
  /-- It shows the same again while the store and the headers are the same. -/
  again : ∀ steps, (repository.run steps reached).2.service.script = [] →
    (repository.run steps reached).2.service.store = reached.service.store →
      (repository.run steps reached).2.bindings.innermost = reached.bindings.innermost →
        repository.shows query (repository.run steps reached).2 = repository.shows query reached
  /-- It shows the same after all that has been bound since is unbound. -/
  balanced : ∀ group, Balanced group →
    repository.shows query (repository.run group reached).2 = repository.shows query reached

/-- Once no prepared replies are left, whatever happened before, a request shows only what the store and the headers bound innermost say. -/
theorem findOne_independent_of_history (repository : Repository) (service : Service)
    (provider : TokenProvider) (bindings : Bindings) (steps : List Step) (query : Query)
    (hprovider : ∀ tokens, provider ≠ .sequence tokens) (hcloses : service.failingCloses = [])
    (hscript : (repository.run steps { service, provider, bindings }).2.service.script = []) :
    HistoryFree repository service provider query
      (repository.run steps { service, provider, bindings }).2 := by
  generalize hrun : (repository.run steps { service, provider, bindings }).2 = reached at *
  have hreached : Settled repository service provider reached :=
    hrun ▸ (Settled.start repository service provider bindings).run hprovider steps
  constructor
  case fresh =>
    have hfresh : Settled repository service provider
        { service := { service with store := reached.service.store, script := [], built := 0 }
          provider, bindings := reached.bindings.take 1 } :=
      { available := .start _ provider _
        service := ⟨reached.service.store, [], 0, rfl⟩
        provider := rfl }
    exact hfresh.shows_eq hreached hcloses rfl hscript rfl
      reached.bindings.innermost_take.symm query
  case again =>
    intro more hnone hstore hheaders
    exact hreached.shows_eq (hreached.run hprovider more) hcloses hscript hnone hstore hheaders
      query
  case balanced =>
    intro group hgroup
    have hrestored := hgroup.restored repository reached
    exact hreached.shows_eq (hreached.run hprovider group) hcloses hscript
      (hrestored.script hscript) hrestored.store
      (congrArg Bindings.innermost hrestored.bindings) query

/-- A request that was cut short used up the reply that did it and left a client behind. -/
theorem findOne_independent_of_interruption :
    let repository : Repository := { properties := {} }
    let query : Query := { application := "a", profiles := some "p" }
    let service : Service := { store := .ofList [("/a/p/x", "1")], script := [.failure .interrupted] }
    let reached := (repository.run [.findOne query, .put "/a/p/y" "2"]
      { service, provider := .fixed none }).2
    reached.service.script = [] ∧ HistoryFree repository service (.fixed none) query reached := by
  intro repository query service reached
  have hread := @Service.readPages_of_error service "/a/p/" none .interrupted rfl
  have hsource : repository.sourceFor none = .ok .ambient := rfl
  have hadmitted : service.admission (Source.ambient.session none) = .ok () := rfl
  have hleft : (showRequest repository query
      { service, provider := .fixed none, headers := none }).2.service.script = [] := by
    have hsplit : splitProfiles (some "p") = ["p"] := by decide
    have hpath : repository.properties.path "a" "p" = "/a/p/" := by decide
    have htoken : Circumstances.token { service, provider := .fixed none, headers := none } =
        none := rfl
    simp only [showRequest, hsplit, showProfiles, showProfile, htoken, hsource, hadmitted, hpath,
      hread, query, repository]
    rfl
  have hscript : reached.service.script = [] := by
    have hfound : (observe (Step.perform repository (.findOne query))
        { service, provider := .fixed none }).2.circumstances = _ :=
      circumstances_findOne (.start service (.fixed none) []) rfl
    exact (congrArg (fun given => given.service.script) hfound).trans hleft
  have hprovider : ∀ tokens, TokenProvider.fixed none ≠ .sequence tokens := by
    intro tokens hsequence
    cases hsequence
  exact ⟨hscript, findOne_independent_of_history repository service (.fixed none) [] _ query
    hprovider rfl hscript⟩

end Repository
end ParameterConfig
