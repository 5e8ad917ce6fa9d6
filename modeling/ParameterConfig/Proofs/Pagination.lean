import Mathlib.Algebra.Order.Floor.Div
import ParameterConfig.Proofs.Fetching
import ParameterConfig.Proofs.Numeral

/-!
# Fetching page by page from the store

With no replies prepared, the store cuts what it has below a path into pages of its own size, and each page but the last names the place where the next one starts. A fetch follows these places from page to page. `fetch_paginated` says that nothing is lost or repeated on the way, how many requests it takes, and which place each of them names; the size of a page makes no difference to what is fetched.
-/

namespace ParameterConfig

open Serving

namespace Service

variable {service : Service} {path : String}

theorem startOf_written {place : Nat} (hplace : (Nat.toDigits 10 place).length ≤ Text.mostDigits) :
    startOf (some (.given (PageToken.offset place).toJson)) = startOf (some (.offset place)) := by
  show integerToken (.string (toString place)) = _
  rw [integerToken, Text.integer_toString hplace]
  rfl

theorem place_lt {entries turn size : Nat} (hsize : 0 < size) (hturn : turn ≠ 0)
    (hpages : turn < max 1 (entries ⌈/⌉ size)) : turn * size < entries := by
  have hfull : turn < entries ⌈/⌉ size := by omega
  rw [Nat.mul_comm]
  exact Nat.lt_of_not_le fun hle => Nat.not_le_of_lt hfull ((ceilDiv_le_iff_le_mul hsize).mpr hle)

/-- From one place on there is one request for the page there and one for each full page before the last. -/
theorem requests_readPages_store (path : String) (hscript : service.script = [])
    {token : Option PageToken} {start : Nat} (hstart : startOf token = .ok start) :
    (service.readPages path token).requests = { path, token } ::
      (List.range (((service.entriesBelow path).length - start - 1) / service.pageSize)).map
        fun turn => { path, token := some (.offset (start + (turn + 1) * service.pageSize : Nat)) } := by
  have hsize := service.pageSize_pos
  fun_induction readPages service path token generalizing start with
  | case1 service token request failure hreply =>
    rw [reply_store hscript hstart] at hreply
    cases hreply
  | case2 service token request page hreply hnext =>
    rw [reply_store hscript hstart] at hreply
    obtain rfl := Except.ok.inj hreply
    rw [next_storePage] at hnext
    split at hnext
    · cases hnext
    · rw [Nat.div_eq_of_lt (by omega)]
      rfl
  | case3 service token request page hreply next hnext hprogress later =>
    rename_i ih
    have hsame : (service.reply request).2 = service := by rw [reply_store hscript hstart]
    rw [reply_store hscript hstart] at hreply
    obtain rfl := Except.ok.inj hreply
    rw [next_storePage] at hnext
    split at hnext
    · rename_i hstop
      obtain rfl := Option.some.inj hnext
      have hlater := ih (by rw [hsame]; exact hscript) rfl (by rw [hsame]; exact hsize)
      rw [hsame] at hlater
      have hcount : ((service.entriesBelow path).length - start - 1) / service.pageSize =
          ((service.entriesBelow path).length - (start + service.pageSize) - 1) /
            service.pageSize + 1 := by
        rw [← Nat.add_div_right _ hsize]
        congr 1
        omega
      have hplace : ∀ turn, start + service.pageSize + (turn + 1) * service.pageSize =
          start + (turn + 1 + 1) * service.pageSize := by
        intro turn
        rw [Nat.add_mul (turn + 1) 1, Nat.one_mul]
        omega
      dsimp only [later]
      rw [hsame, hlater, hcount, List.range_succ_eq_map]
      refine List.cons_eq_cons.mpr ⟨rfl, ?_⟩
      simp [hplace, Function.comp_def]
    · cases hnext

theorem pages_eq (entries : Nat) {size : Nat} (hsize : 0 < size) :
    (entries - 1) / size + 1 = max 1 (entries ⌈/⌉ size) := by
  rw [Nat.ceilDiv_eq_add_pred_div]
  cases entries with
  | zero =>
    rw [Nat.div_eq_of_lt (by omega), Nat.div_eq_of_lt (by omega)]
    rfl
  | succ entries =>
    rw [show entries + 1 + size - 1 = entries + size by omega, Nat.add_div_right _ hsize]
    simp

theorem requests_readPages (path : String) (hscript : service.script = []) :
    (service.readPages path none).requests =
      (List.range (max 1 ((service.entriesBelow path).length ⌈/⌉ service.pageSize))).map
        fun turn =>
          { path
            token := if turn = 0 then none else some (.offset (turn * service.pageSize : Nat)) } := by
  rw [requests_readPages_store path hscript (show startOf none = .ok 0 from rfl),
    ← pages_eq _ service.pageSize_pos, List.range_succ_eq_map]
  simp [Function.comp_def]

end Service

namespace Fetch

/-- How a fetch from the store goes, page by page. -/
structure Paginated (service : Service) (path : String)
    (observed : Observed (Option (List Parameter))) : Prop where
  /-- It brings exactly the entries whose name starts with the path, each once, by name. -/
  parameters : ∃ entries : List (String × String),
    observed.outcome = .ok (some (entries.map fun entry => .ofText entry.1 entry.2)) ∧
      entries.Perm (service.store.entries.filter fun entry =>
        path.toList.isPrefixOf entry.1.toList) ∧
      entries.Pairwise fun first second => first.1 < second.1
  /-- The requests name the places where their pages start, and the first one names none. -/
  requests : (Event.requests observed.events).map Request.toJson =
    (List.range (max 1 ((service.store.entries.filter fun entry =>
        path.toList.isPrefixOf entry.1.toList).length ⌈/⌉ service.pageSize))).map fun turn =>
      .object
        ([("Path", .string path), ("Recursive", .bool true), ("WithDecryption", .bool true)] ++
          if turn = 0 then [] else [("NextToken", .string (toString (turn * service.pageSize)))])
  /-- They are places of entries, and written out they are read as the same places, unless there are so many entries that a number is too long to be read. -/
  places : ∀ request ∈ Event.requests observed.events, ∀ token, request.token = some token →
    ∃ place : Nat, token = .offset place ∧
      place < (service.store.entries.filter fun entry =>
        path.toList.isPrefixOf entry.1.toList).length ∧
      ((Nat.toDigits 10 place).length ≤ 4300 →
        Service.startOf (some (.given token.toJson)) = Service.startOf (some token))

/-- From a store without prepared replies a fetch brings all entries below the path, in as many requests as there are pages, and the same entries whatever the size of a page. -/
theorem fetch_paginated (region : Option String) (path : String) (source : Source) (holding : Bool)
    (state : ServingState) (hscript : state.service.script = [])
    (hbuildable : ∃ built, state.service.connect (source.session region) = .ok built) :
    let fetch := Step.perform region (.fetch path source holding)
    Paginated state.service path (observe fetch state).1 ∧
      ∀ pageSize pageSize_pos,
        (observe fetch
          { state with service := { state.service with pageSize, pageSize_pos } }).1.outcome =
            (observe fetch state).1.outcome := by
  intro fetch
  have hperm := state.service.entriesBelow_perm path
  obtain ⟨client, houtcome, hcalls, _⟩ := exists_observed path holding state hbuildable
  have hread := (Service.readPages_all path hscript).1
  rw [hread] at houtcome
  have hrequests : Event.requests (observe fetch state).1.events =
      (state.service.readPages path none).requests := by
    rw [Event.requests, hcalls]
    simp
  rw [Service.requests_readPages path hscript] at hrequests
  refine ⟨{ parameters := ?_, requests := ?_, places := ?_ }, ?_⟩
  · exact ⟨_, houtcome, hperm, state.service.entriesBelow_sorted path⟩
  · rw [hrequests, hperm.length_eq, List.map_map]
    apply List.map_congr_left
    intro turn _
    by_cases hfirst : turn = 0
    · simp [Request.toJson, hfirst]
    · simp only [Function.comp, Request.toJson, if_neg hfirst]
      rfl
  · intro request hrequest token htoken
    rw [hrequests] at hrequest
    obtain ⟨turn, hturn, rfl⟩ := List.mem_map.mp hrequest
    dsimp only at htoken
    split at htoken
    · cases htoken
    · rename_i hfirst
      obtain rfl := Option.some.inj htoken
      have hplace := Service.place_lt state.service.pageSize_pos hfirst (List.mem_range.mp hturn)
      rw [hperm.length_eq] at hplace
      exact ⟨_, rfl, hplace, Service.startOf_written⟩
  · intro pageSize pageSize_pos
    have hbuildable' : ∃ built, ({ state.service with pageSize, pageSize_pos } : Service).connect
        (source.session region) = .ok built := by
      rw [Service.exists_connect_iff] at hbuildable ⊢
      exact hbuildable
    obtain ⟨_, hother, _⟩ := exists_observed path holding
      { state with service := { state.service with pageSize, pageSize_pos } } hbuildable'
    have hscript' : ({ state.service with pageSize, pageSize_pos } : Service).script = [] := hscript
    have hreadOther := (Service.readPages_all path hscript').1
    rw [hother, hreadOther, houtcome]
    rfl

/-- Two of three entries lie below the path, so pages of one entry take two requests. -/
theorem fetch_paginated_single_entries :
    let state : ServingState :=
      { service :=
          { store := .ofList [("/a/y", "2"), ("/b/x", "3"), ("/a/x", "1")], pageSize := 1 } }
    let observed := observe (Step.perform none (.fetch "/a/" .ambient true)) state
    state.service.script = [] ∧
      (∃ built, state.service.connect (Source.session .ambient none) = .ok built) ∧
      Paginated state.service "/a/" observed.1 ∧
      (Event.requests observed.1.events).length = 2 := by
  intro state observed
  have hbuildable : ∃ built, state.service.connect (Source.session .ambient none) = .ok built :=
    ⟨_, rfl⟩
  have hpaginated := (fetch_paginated none "/a/" .ambient true state rfl hbuildable).1
  have hbelow : (state.service.store.entries.filter fun entry =>
      "/a/".toList.isPrefixOf entry.1.toList).length = 2 := by decide
  have hlength := congrArg List.length hpaginated.requests
  rw [hbelow, List.length_map, List.length_map, List.length_range] at hlength
  exact ⟨rfl, hbuildable, hpaginated, hlength.trans (by decide)⟩

end Fetch
end ParameterConfig
