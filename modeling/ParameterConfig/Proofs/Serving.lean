import ParameterConfig.Serving

/-!
# What actions do

An action is known by what it does from a state: its outcome, the events it adds, and the state it leaves. None of them depends on the events that were there before, so an action that is made of others does what they do one after the other. All other proofs reach the monad of actions only through `Runs` and its rules.
-/

namespace ParameterConfig
namespace Serving

variable {α β : Type}

def exec (action : Serving α) (state : ServingState) : Except Failure α × ServingState :=
  action.run.run state

theorem exec_bind_ok {action : Serving α} {next : α → Serving β} {state middle : ServingState}
    {value : α} (haction : exec action state = (.ok value, middle)) :
    exec (action >>= next) state = exec (next value) middle := by
  simp only [exec, ExceptT.run, StateT.run] at haction ⊢
  simp only [bind, ExceptT.bind, ExceptT.mk, StateT.bind, haction, ExceptT.bindCont]

theorem exec_bind_error {action : Serving α} {next : α → Serving β}
    {state middle : ServingState} {failure : Failure}
    (haction : exec action state = (.error failure, middle)) :
    exec (action >>= next) state = (.error failure, middle) := by
  simp only [exec, ExceptT.run, StateT.run] at haction ⊢
  simp only [bind, ExceptT.bind, ExceptT.mk, StateT.bind, haction, ExceptT.bindCont]
  rfl

theorem exec_get (state : ServingState) : exec get state = (.ok state, state) := rfl

theorem exec_ofExcept (result : Except Failure α) (state : ServingState) :
    exec (ofExcept result) state = (result, state) := by
  cases result <;> rfl

theorem exec_ensuring (action : Serving α) (cleanup : Serving Unit) (state : ServingState) :
    exec (ensuring action cleanup) state =
      match exec cleanup (exec action state).2 with
      | (.error failure, after) => (.error failure, after)
      | (.ok (), after) => ((exec action state).1, after) := rfl

/-- From this state the action has this outcome, adds these events, and leaves this state, whatever events were there before. -/
def Runs (action : Serving α) (state : ServingState) (outcome : Except Failure α)
    (events : List Event) (after : ServingState) : Prop :=
  ∀ trace, exec action { state with trace } = (outcome, { after with trace := trace ++ events })

namespace Runs

variable {action : Serving α} {next : α → Serving β} {state middle after : ServingState}
  {outcome : Except Failure α} {first second events : List Event} {value : α} {failure : Failure}

theorem pure (value : α) (state : ServingState) : Runs (pure value) state (.ok value) [] state := by
  intro trace
  rw [List.append_nil]
  rfl

theorem throw (failure : Failure) (state : ServingState) :
    Runs (throw failure : Serving α) state (.error failure) [] state := by
  intro trace
  rw [List.append_nil]
  rfl

theorem ofExcept (result : Except Failure α) (state : ServingState) :
    Runs (ofExcept result) state result [] state := by
  intro trace
  rw [exec_ofExcept, List.append_nil]

theorem emit (events : List Event) (state : ServingState) :
    Runs (emit events) state (.ok ()) events state := by
  intro trace
  rfl

theorem log (level : Log.Level) (event : String) (bound call : List (String × Json))
    (state : ServingState) :
    Runs (log level event bound call) state (.ok ()) [.logged (.of level event bound call)]
      state :=
  emit _ _

theorem modify {change : ServingState → ServingState}
    (hchange : ∀ trace, change { state with trace } = { after with trace }) :
    Runs (modify change) state (.ok ()) [] after := by
  intro trace
  show (Except.ok (), change { state with trace }) = _
  rw [hchange, List.append_nil]

theorem bind {outcome : Except Failure β} (haction : Runs action state (.ok value) first middle)
    (hnext : Runs (next value) middle outcome second after) :
    Runs (action >>= next) state outcome (first ++ second) after := by
  intro trace
  rw [exec_bind_ok (haction trace), hnext, List.append_assoc]

/-- What follows may add no events of its own. -/
theorem bind_quiet {outcome : Except Failure β}
    (haction : Runs action state (.ok value) events middle)
    (hnext : Runs (next value) middle outcome [] after) :
    Runs (action >>= next) state outcome events after := by
  have hbind := bind haction hnext
  rwa [List.append_nil] at hbind

theorem quiet_bind {outcome : Except Failure β} (haction : Runs action state (.ok value) [] middle)
    (hnext : Runs (next value) middle outcome events after) :
    Runs (action >>= next) state outcome events after :=
  bind haction hnext

theorem bind_error (haction : Runs action state (.error failure) events after) :
    Runs (action >>= next) state (.error failure) events after := by
  intro trace
  exact exec_bind_error (haction trace)

theorem get_bind {next : ServingState → Serving β} {outcome : Except Failure β}
    (hnext : ∀ trace, Runs (next { state with trace }) state outcome events after) :
    Runs (get >>= next) state outcome events after := by
  intro trace
  rw [exec_bind_ok (exec_get _)]
  exact hnext trace trace

theorem map (f : α → β) (haction : Runs action state outcome events after) :
    Runs (f <$> action) state (outcome.map f) events after := by
  rw [map_eq_pure_bind]
  cases outcome with
  | error failure => exact bind_error haction
  | ok value => exact bind_quiet haction (pure (f value) after)

/-- The cleanup runs after the action, whatever its outcome, which stands if the cleanup succeeds. -/
theorem ensuring {cleanup : Serving Unit} (haction : Runs action state outcome first middle)
    (hcleanup : Runs cleanup middle (.ok ()) second after) :
    Runs (ensuring action cleanup) state outcome (first ++ second) after := by
  intro trace
  rw [exec_ensuring, haction, hcleanup, List.append_assoc]

/-- A failure of the cleanup takes the place of the outcome. -/
theorem ensuring_error {cleanup : Serving Unit}
    (haction : Runs action state outcome first middle)
    (hcleanup : Runs cleanup middle (.error failure) second after) :
    Runs (Serving.ensuring action cleanup) state (.error failure) (first ++ second) after := by
  intro trace
  rw [exec_ensuring, haction, hcleanup, List.append_assoc]

/-- What an observer learns of an action is its outcome and the events it adds. -/
theorem observe (haction : Runs action state outcome events after) :
    Serving.observe action state = ({ outcome, events }, { after with trace := events }) := by
  have hexec := haction []
  simp only [exec] at hexec
  simp only [Serving.observe, hexec, List.nil_append]

end Runs

/-! ### Steps one after the other -/

section Chronicle

variable {Step : Type} (perform : Step → Serving α)

/-- Steps performed one after the other, each with what an observer learns of it, and the state after them. -/
def chronicle (steps : List Step) (start : ServingState) :
    List (Step × Observed α) × ServingState :=
  (steps.zip (observeAll (steps.map perform) start).1, (observeAll (steps.map perform) start).2)

theorem chronicle_cons (step : Step) (steps : List Step) (start : ServingState) :
    chronicle perform (step :: steps) start =
      ((step, (observe (perform step) start).1) ::
          (chronicle perform steps (observe (perform step) start).2).1,
        (chronicle perform steps (observe (perform step) start).2).2) := rfl

theorem chronicle_concat (steps : List Step) (step : Step) (start : ServingState) :
    chronicle perform (steps ++ [step]) start =
      ((chronicle perform steps start).1 ++
          [(step, (observe (perform step) (chronicle perform steps start).2).1)],
        (observe (perform step) (chronicle perform steps start).2).2) := by
  induction steps generalizing start with
  | nil => rfl
  | cons first steps ih => rw [List.cons_append, chronicle_cons, ih, chronicle_cons, List.cons_append]

/-- All events of steps, in order. -/
def eventsOf (history : List (Step × Observed α)) : List Event :=
  history.flatMap fun entry => entry.2.events

theorem eventsOf_concat (history : List (Step × Observed α)) (entry : Step × Observed α) :
    eventsOf (history ++ [entry]) = eventsOf history ++ entry.2.events := by
  simp [eventsOf]

end Chronicle

end Serving

/-! ### What events tell -/

namespace Event

def session? : Event → Option Session
  | .opened session => some session
  | _ => none

def call? : Event → Option (Client × Request)
  | .called client request => some (client, request)
  | _ => none

def closing? : Event → Option Client
  | .closed client => some client
  | _ => none

def record? : Event → Option Log.Record
  | .logged record => some record
  | _ => none

def sessions (events : List Event) : List Session :=
  events.filterMap session?

/-- The requests made and the clients they went through, in order. -/
def calls (events : List Event) : List (Client × Request) :=
  events.filterMap call?

def requests (events : List Event) : List Request :=
  (calls events).map Prod.snd

def closings (events : List Event) : List Client :=
  events.filterMap closing?

def records (events : List Event) : List Log.Record :=
  events.filterMap record?

variable (first second : List Event)

@[simp] theorem sessions_append : sessions (first ++ second) = sessions first ++ sessions second :=
  List.filterMap_append

@[simp] theorem calls_append : calls (first ++ second) = calls first ++ calls second :=
  List.filterMap_append

@[simp] theorem requests_append : requests (first ++ second) = requests first ++ requests second := by
  simp [requests]

@[simp] theorem closings_append : closings (first ++ second) = closings first ++ closings second :=
  List.filterMap_append

@[simp] theorem records_append : records (first ++ second) = records first ++ records second :=
  List.filterMap_append

/-! #### Events of one kind -/

variable (session : Session) (client : Client) (made : List Request) (closed : List Client)
  (entered : List Log.Record)

@[simp] theorem sessions_opened : sessions [.opened session] = [session] := rfl

@[simp] theorem calls_opened : calls [.opened session] = [] := rfl

@[simp] theorem sessions_called : sessions (made.map (.called client)) = [] := by
  simp [sessions, session?, List.filterMap_eq_nil_iff]

@[simp] theorem calls_called :
    calls (made.map (.called client)) = made.map fun request => (client, request) := by
  simp [calls, call?, List.filterMap_map, Function.comp_def]

@[simp] theorem requests_called : requests (made.map (.called client)) = made := by
  rw [requests, calls_called, List.map_map]
  exact List.map_id made

@[simp] theorem records_called : records (made.map (.called client)) = [] := by
  simp [records, record?, List.filterMap_eq_nil_iff]

@[simp] theorem closings_called : closings (made.map (.called client)) = [] := by
  simp [closings, closing?, List.filterMap_eq_nil_iff]

@[simp] theorem sessions_closed : sessions (closed.map .closed) = [] := by
  simp [sessions, session?, List.filterMap_eq_nil_iff]

@[simp] theorem calls_closed : calls (closed.map .closed) = [] := by
  simp [calls, call?, List.filterMap_eq_nil_iff]

@[simp] theorem requests_closed : requests (closed.map .closed) = [] := by
  rw [requests, calls_closed, List.map_nil]

@[simp] theorem records_closed : records (closed.map .closed) = [] := by
  simp [records, record?, List.filterMap_eq_nil_iff]

@[simp] theorem closings_closed : closings (closed.map .closed) = closed := by
  simp [closings, closing?, List.filterMap_map, Function.comp_def]

@[simp] theorem sessions_logged : sessions (entered.map .logged) = [] := by
  simp [sessions, session?, List.filterMap_eq_nil_iff]

@[simp] theorem calls_logged : calls (entered.map .logged) = [] := by
  simp [calls, call?, List.filterMap_eq_nil_iff]

@[simp] theorem requests_logged : requests (entered.map .logged) = [] := by
  rw [requests, calls_logged, List.map_nil]

@[simp] theorem records_logged : records (entered.map .logged) = entered := by
  simp [records, record?, List.filterMap_map, Function.comp_def]

@[simp] theorem closings_logged : closings (entered.map .logged) = [] := by
  simp [closings, closing?, List.filterMap_eq_nil_iff]

/-! #### Clients closed and records made at the end -/

theorem sessions_ending :
    sessions (first ++ (closed.map .closed ++ entered.map .logged)) = sessions first := by
  rw [sessions_append, sessions_append, sessions_closed, sessions_logged, List.append_nil,
    List.append_nil]

theorem calls_ending :
    calls (first ++ (closed.map .closed ++ entered.map .logged)) = calls first := by
  rw [calls_append, calls_append, calls_closed, calls_logged, List.append_nil, List.append_nil]

theorem closings_ending :
    closings (first ++ (closed.map .closed ++ entered.map .logged)) =
      closings first ++ closed := by
  rw [closings_append, closings_append, closings_closed, closings_logged, List.append_nil]

end Event
end ParameterConfig
