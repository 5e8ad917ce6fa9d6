import Mathlib.Data.List.Forall2
import ParameterConfig.Proofs.OrderedMap
import ParameterConfig.Service.Pages

/-!
# Reading pages

What reading all pages does to the service, and what it brings when no replies are prepared.
-/

namespace ParameterConfig

/-- When going through a list succeeds, each result comes of the item in its place. -/
theorem forall₂_of_mapM_ok {α : Type u} {β : Type v} {ε : Type w} {f : α → Except ε β}
    {items : List α} {results : List β} (hmapped : items.mapM f = .ok results) :
    List.Forall₂ (fun item result => f item = .ok result) items results := by
  induction items generalizing results with
  | nil =>
    obtain rfl := Except.ok.inj hmapped
    exact .nil
  | cons item rest ih =>
    rw [List.mapM_cons] at hmapped
    cases hitem : f item with
    | error failure =>
      rw [hitem] at hmapped
      cases hmapped
    | ok result =>
      cases hrest : rest.mapM f with
      | error failure =>
        rw [hitem, hrest] at hmapped
        cases hmapped
      | ok more =>
        rw [hitem, hrest] at hmapped
        obtain rfl := Except.ok.inj hmapped
        exact .cons hitem (ih hrest)

theorem exists_of_mem_mapM_ok {α : Type u} {β : Type v} {ε : Type w} {f : α → Except ε β}
    {items : List α} {results : List β} {result : β} (hmapped : items.mapM f = .ok results)
    (hresult : result ∈ results) : ∃ item ∈ items, f item = .ok result := by
  have hall := forall₂_of_mapM_ok hmapped
  clear hmapped
  induction hall with
  | nil => cases hresult
  | cons hitem hrest ih =>
    rcases List.mem_cons.mp hresult with rfl | hresult
    · exact ⟨_, List.mem_cons_self, hitem⟩
    · obtain ⟨item, hmem, heq⟩ := ih hresult
      exact ⟨item, List.mem_cons_of_mem _ hmem, heq⟩

namespace Service

theorem reply_service (service : Service) (request : Request) :
    ∃ script, (service.reply request).2 = { service with script } := by
  unfold reply
  cases hscript : service.script with
  | nil => exact ⟨service.script, rfl⟩
  | cons prepared script => cases prepared <;> exact ⟨script, rfl⟩

/-- Reading uses up prepared replies and changes nothing else. -/
theorem readPages_service (service : Service) (path : String) (token : Option PageToken) :
    ∃ script, (service.readPages path token).service = { service with script } := by
  fun_induction readPages service path token with
  | case1 service token request failure hreply => exact reply_service service request
  | case2 service token request page hreply hnext => exact reply_service service request
  | case3 service token request page hreply next hnext hprogress later ih =>
    obtain ⟨script, hservice⟩ := reply_service service request
    obtain ⟨rest, hlater⟩ := ih
    refine ⟨rest, ?_⟩
    dsimp only
    rw [hlater, hservice]

theorem requests_readPages_ne_nil (service : Service) (path : String) (token : Option PageToken) :
    (service.readPages path token).requests ≠ [] := by
  fun_cases readPages service path token <;> exact List.cons_ne_nil _ _

/-! ### One reply after the other -/

section

variable {service : Service} {path : String}

theorem readPages_of_error {token : Option PageToken} {failure : Failure}
    (hreply : (service.reply { path, token }).1 = .error failure) :
    service.readPages path token =
      { requests := [{ path, token }], outcome := .error failure
        service := (service.reply { path, token }).2 } := by
  fun_cases readPages service path token with
  | case1 request other hother =>
    rw [show request = { path, token } from rfl, hreply] at hother
    cases hother
    rfl
  | case2 request page hpage hnext => exact nomatch hpage.symm.trans hreply
  | case3 request page hpage next hnext hprogress later => exact nomatch hpage.symm.trans hreply

theorem readPages_of_last {token : Option PageToken} {page : Page}
    (hreply : (service.reply { path, token }).1 = .ok page) (hlast : page.next = none) :
    service.readPages path token =
      { requests := [{ path, token }], outcome := .ok page.parameters
        service := (service.reply { path, token }).2 } := by
  fun_cases readPages service path token with
  | case1 request other hother => exact nomatch hother.symm.trans hreply
  | case2 request other hother hnext =>
    obtain rfl := Except.ok.inj (hother.symm.trans hreply)
    rfl
  | case3 request other hother next hnext hprogress later =>
    obtain rfl := Except.ok.inj (hother.symm.trans hreply)
    exact nomatch hnext.symm.trans hlast

theorem readPages_of_next {token : Option PageToken} {page : Page} {next : PageToken}
    (hreply : (service.reply { path, token }).1 = .ok page) (hnext : page.next = some next) :
    service.readPages path token =
      { requests := { path, token } ::
          ((service.reply { path, token }).2.readPages path (some next)).requests
        outcome := ((service.reply { path, token }).2.readPages path (some next)).outcome.map
          fun parameters => page.parameters ++ parameters
        service := ((service.reply { path, token }).2.readPages path (some next)).service } := by
  fun_cases readPages service path token with
  | case1 request other hother => exact nomatch hother.symm.trans hreply
  | case2 request other hother hlast =>
    obtain rfl := Except.ok.inj (hother.symm.trans hreply)
    exact nomatch hnext.symm.trans hlast
  | case3 request other hother other' hother' hprogress later =>
    obtain rfl := Except.ok.inj (hother.symm.trans hreply)
    obtain rfl := Option.some.inj (hother'.symm.trans hnext)
    rfl

end

/-! ### Entries below a path -/

theorem entriesBelow_perm (service : Service) (path : String) :
    (service.entriesBelow path).Perm
      (service.store.entries.filter fun entry => below path entry.1) :=
  List.mergeSort_perm _ _

theorem entriesBelow_sorted (service : Service) (path : String) :
    (service.entriesBelow path).Pairwise fun first second => first.1 < second.1 :=
  pairwise_lt_mergeSort (service.store.distinct.sublist (List.filter_sublist.map Prod.fst))

/-! ### Reading from the store alone -/

variable {service : Service} {path : String}

theorem reply_of_no_script (hscript : service.script = []) (request : Request) :
    service.reply request = (service.storeReply request, service) := by
  simp only [reply, hscript]

theorem position_natCast (length index : Nat) : position length index = min index length := by
  unfold position
  rw [if_neg (by omega), Int.toNat_natCast]

theorem window_natCast {α : Type} (items : List α) (start size : Nat) :
    window items start (start + size : Nat) = (items.drop start).take size := by
  unfold window
  rw [position_natCast, position_natCast, List.drop_take]
  by_cases hstart : start ≤ items.length
  · rw [Nat.min_eq_left hstart, List.take_eq_take_iff, List.length_drop]
    omega
  · have hbehind : items.length ≤ start := by omega
    rw [Nat.min_eq_right hbehind, List.drop_length, List.drop_eq_nil_of_le hbehind,
      List.take_nil, List.take_nil]

theorem parameters_storePage (service : Service) (path : String) (start : Nat) :
    (service.storePage path start).parameters =
      (((service.entriesBelow path).drop start).take service.pageSize).map fun entry =>
        .ofText entry.1 entry.2 := by
  unfold storePage
  dsimp only
  rw [← Int.natCast_add, window_natCast]

theorem next_storePage (service : Service) (path : String) (start : Nat) :
    (service.storePage path start).next =
      if start + service.pageSize < (service.entriesBelow path).length then
        some (.offset (start + service.pageSize : Nat))
      else none := by
  unfold storePage
  dsimp only
  rw [← Int.natCast_add]
  simp only [Int.ofNat_lt]

theorem reply_store (hscript : service.script = []) {token : Option PageToken} {start : Nat}
    (hstart : startOf token = .ok start) :
    service.reply { path, token } = (.ok (service.storePage path start), service) := by
  rw [reply_of_no_script hscript]
  simp only [storeReply, hstart, Except.map]

/-- With no replies prepared, what all pages bring together are the entries from the first place on, whatever the size of a page. -/
theorem readPages_store (path : String) (hscript : service.script = [])
    {token : Option PageToken} {start : Nat} (hstart : startOf token = .ok start) :
    (service.readPages path token).outcome =
        .ok (((service.entriesBelow path).drop start).map fun entry => .ofText entry.1 entry.2) ∧
      (service.readPages path token).service = service := by
  fun_induction readPages service path token generalizing start with
  | case1 service token request failure hreply =>
    rw [reply_store hscript hstart] at hreply
    cases hreply
  | case2 service token request page hreply hnext =>
    rw [reply_store hscript hstart] at hreply ⊢
    obtain rfl := Except.ok.inj hreply
    refine ⟨?_, rfl⟩
    rw [next_storePage] at hnext
    split at hnext
    · cases hnext
    · rename_i hlast
      rw [parameters_storePage, List.take_of_length_le]
      rw [List.length_drop]
      omega
  | case3 service token request page hreply next hnext hprogress later =>
    rename_i ih
    have hsame : (service.reply request).2 = service := by rw [reply_store hscript hstart]
    rw [reply_store hscript hstart] at hreply
    obtain rfl := Except.ok.inj hreply
    rw [next_storePage] at hnext
    split at hnext
    · obtain rfl := Option.some.inj hnext
      obtain ⟨hlater, hservice⟩ := ih (by rw [hsame]; exact hscript) rfl
      refine ⟨?_, hservice.trans hsame⟩
      dsimp only [later]
      rw [hlater, parameters_storePage, hsame]
      simp only [Except.map, ← List.map_append, ← List.drop_drop, List.take_append_drop]
    · cases hnext

theorem readPages_all (path : String) (hscript : service.script = []) :
    (service.readPages path none).outcome =
        .ok ((service.entriesBelow path).map fun entry => .ofText entry.1 entry.2) ∧
      (service.readPages path none).service = service := by
  have hstart : startOf none = .ok ((0 : Nat) : Int) := rfl
  have hread := readPages_store path hscript hstart
  rwa [List.drop_zero] at hread

/-! ### Failures on the way -/

/-- One of the requests for pages, made one after the other, is replied to with this failure. -/
inductive Raises (path : String) : Service → Option PageToken → Failure → Prop
  | now {service : Service} {token : Option PageToken} {failure : Failure}
      (hreply : (service.reply { path, token }).1 = .error failure) :
      Raises path service token failure
  | later {service : Service} {token : Option PageToken} {failure : Failure} {page : Page}
      {next : PageToken} (hreply : (service.reply { path, token }).1 = .ok page)
      (hnext : page.next = some next)
      (hlater : Raises path (service.reply { path, token }).2 (some next) failure) :
      Raises path service token failure

/-- A failure that is raised by a request ends the reading, and nothing else does. -/
theorem raises_iff {token : Option PageToken} {failure : Failure} :
    Raises path service token failure ↔
      (service.readPages path token).outcome = .error failure := by
  constructor
  · intro hraises
    induction hraises with
    | now hreply => rw [readPages_of_error hreply]
    | later hreply hnext hlater ih =>
      rw [readPages_of_next hreply hnext]
      dsimp only
      rw [ih]
      rfl
  · intro houtcome
    fun_induction readPages service path token with
    | case1 service token request other hreply =>
      obtain rfl := Except.error.inj houtcome
      exact .now hreply
    | case2 service token request page hreply hnext => cases houtcome
    | case3 service token request page hreply next hnext hprogress later =>
      rename_i ih
      refine .later hreply hnext (ih ?_)
      cases hlater : later.outcome with
      | error other =>
        rw [hlater] at houtcome
        exact congrArg _ (Except.error.inj houtcome)
      | ok parameters =>
        rw [hlater] at houtcome
        cases houtcome

/-! ### Pages up to the last -/

/-- All requests for pages, made one after the other, are replied to, and these are the parameters of all pages together. -/
inductive Brings (path : String) : Service → Option PageToken → List Parameter → Prop
  | last {service : Service} {token : Option PageToken} {page : Page}
      (hreply : (service.reply { path, token }).1 = .ok page) (hlast : page.next = none) :
      Brings path service token page.parameters
  | next {service : Service} {token : Option PageToken} {page : Page} {next : PageToken}
      {later : List Parameter} (hreply : (service.reply { path, token }).1 = .ok page)
      (hnext : page.next = some next)
      (hlater : Brings path (service.reply { path, token }).2 (some next) later) :
      Brings path service token (page.parameters ++ later)

theorem brings_iff {token : Option PageToken} {parameters : List Parameter} :
    Brings path service token parameters ↔
      (service.readPages path token).outcome = .ok parameters := by
  constructor
  · intro hbrings
    induction hbrings with
    | last hreply hlast => rw [readPages_of_last hreply hlast]
    | next hreply hnext hlater ih =>
      rw [readPages_of_next hreply hnext]
      dsimp only
      rw [ih]
      rfl
  · intro houtcome
    fun_induction readPages service path token generalizing parameters
    case case1 => cases houtcome
    case case2 service token request page hreply hlast =>
      obtain rfl := Except.ok.inj houtcome
      exact .last hreply hlast
    case case3 service token request page hreply next hnext hprogress later ih =>
      cases hlater : later.outcome with
      | error failure =>
        rw [hlater] at houtcome
        cases houtcome
      | ok rest =>
        rw [hlater] at houtcome
        obtain rfl := Except.ok.inj houtcome
        exact .next hreply hnext (ih hlater)

end Service
end ParameterConfig
