import ParameterConfig.Service

/-!
# Reading all pages

The pages below a path are asked for one after the other until one names no next page or a request fails. The reading ends because every request either uses up a prepared reply or moves on in the store by at least one entry.
-/

namespace ParameterConfig

/-- What reading all pages amounts to: the requests made, all parameters or the first failure, and the service afterwards. -/
structure Reading where
  requests : List Request
  outcome : Except Failure (List Parameter)
  service : Service

namespace Service

/-- How many entries below the path lie at or behind the place that the token names. -/
def remaining (service : Service) (path : String) (token : Option PageToken) : Nat :=
  match startOf token with
  | .ok start => ((service.entriesBelow path).length - start).toNat
  | .error _ => 0

/-- A page of the store that names a next one leaves a whole page less to read. -/
theorem remaining_of_storeReply {service : Service} {request : Request} {page : Page}
    {next : PageToken} (hreply : service.storeReply request = .ok page)
    (hnext : page.next = some next) :
    service.remaining request.path (some next) + service.pageSize ≤
      service.remaining request.path request.token := by
  unfold storeReply at hreply
  cases hstart : startOf request.token with
  | error failure => simp [hstart, Except.map] at hreply
  | ok start =>
    simp only [hstart, Except.map, Except.ok.injEq] at hreply
    subst hreply
    simp only [storePage] at hnext
    split at hnext
    · rename_i hstop
      cases hnext
      have hbefore : service.remaining request.path request.token =
          ((service.entriesBelow request.path).length - start).toNat := by
        simp [remaining, hstart]
      have hafter : service.remaining request.path (some (.offset (start + service.pageSize))) =
          ((service.entriesBelow request.path).length - (start + service.pageSize)).toNat := rfl
      rw [hbefore, hafter]
      omega
    · cases hnext

/-- Each page that names a next one brings the reading closer to its end. -/
theorem reply_progress {service : Service} {request : Request} {page : Page} {next : PageToken}
    (hreply : (service.reply request).1 = .ok page) (hnext : page.next = some next) :
    Prod.Lex (· < ·) (· < ·)
      ((service.reply request).2.script.length,
        (service.reply request).2.remaining request.path (some next))
      (service.script.length, service.remaining request.path request.token) := by
  cases hscript : service.script with
  | nil =>
    have hresult : service.reply request = (service.storeReply request, service) := by
      simp [reply, hscript]
    rw [hresult] at hreply ⊢
    simp only [hscript]
    have hsize := service.pageSize_pos
    have hless := remaining_of_storeReply hreply hnext
    exact Prod.Lex.right _ (by omega)
  | cons prepared script =>
    apply Prod.Lex.left
    cases prepared <;> simp [reply, hscript]

/-- All pages below a path, from the place that the token names. -/
def readPages (service : Service) (path : String) (token : Option PageToken) : Reading :=
  let request : Request := { path, token }
  match hreply : (service.reply request).1 with
  | .error failure =>
    { requests := [request], outcome := .error failure, service := (service.reply request).2 }
  | .ok page =>
    match hnext : page.next with
    | none =>
      { requests := [request], outcome := .ok page.parameters
        service := (service.reply request).2 }
    | some next =>
      have := reply_progress hreply hnext
      let later := (service.reply request).2.readPages path (some next)
      { requests := request :: later.requests
        outcome := later.outcome.map fun parameters => page.parameters ++ parameters
        service := later.service }
termination_by (service.script.length, service.remaining path token)
decreasing_by exact this

end Service
end ParameterConfig
