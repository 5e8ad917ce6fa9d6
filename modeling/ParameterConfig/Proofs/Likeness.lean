import Mathlib.Data.List.Forall2
import ParameterConfig.Environment
import ParameterConfig.Proofs.OrderedMap
import ParameterConfig.Proofs.Pages

/-!
# Stores side by side

Two stores are alike when they hold the same names in the same order and values that may stand for each other; which values those are is left open. Whatever is done with a store by name goes the same way in both: entries are written and deleted, those below a path are found and sorted, pages are cut, read one after the other, and made into a property source. What comes out is alike again, and what fails fails the same way. Where values may only stand for themselves, alike means the same.
-/

namespace ParameterConfig

abbrev EntriesAlike {α : Type u} {β : Type v} (like : β → β → Prop) :
    List (α × β) → List (α × β) → Prop :=
  List.Forall₂ fun first second => first.1 = second.1 ∧ like first.2 second.2

namespace EntriesAlike

variable {α : Type u} {β : Type v} {like : β → β → Prop} {first second : List (α × β)}

theorem keys_eq (halike : EntriesAlike like first second) :
    first.map Prod.fst = second.map Prod.fst := by
  induction halike with
  | nil => rfl
  | cons hentry hrest ih => rw [List.map_cons, List.map_cons, hentry.1, ih]

theorem exists_pairs (halike : EntriesAlike like first second) :
    ∃ pairs : List ((α × β) × (α × β)), pairs.map Prod.fst = first ∧ pairs.map Prod.snd = second ∧
      ∀ pair ∈ pairs, pair.1.1 = pair.2.1 ∧ like pair.1.2 pair.2.2 := by
  induction halike with
  | nil => exact ⟨[], rfl, rfl, fun pair hpair => nomatch hpair⟩
  | @cons entry other _ _ hentry hrest ih =>
    obtain ⟨pairs, hfirst, hsecond, hpairs⟩ := ih
    refine ⟨(entry, other) :: pairs, by rw [List.map_cons, hfirst],
      by rw [List.map_cons, hsecond], ?_⟩
    intro pair hpair
    rcases List.mem_cons.mp hpair with rfl | hlater
    · exact hentry
    · exact hpairs pair hlater

theorem of_pairs {pairs : List ((α × β) × (α × β))}
    (hpairs : ∀ pair ∈ pairs, pair.1.1 = pair.2.1 ∧ like pair.1.2 pair.2.2) :
    EntriesAlike like (pairs.map Prod.fst) (pairs.map Prod.snd) := by
  rw [EntriesAlike, List.forall₂_map_left_iff, List.forall₂_map_right_iff, List.forall₂_same]
  exact hpairs

theorem filter (halike : EntriesAlike like first second) (chosen : α → Bool) :
    EntriesAlike like (first.filter fun entry => chosen entry.1)
      (second.filter fun entry => chosen entry.1) := by
  refine List.rel_filter (fun entry other hentry => ?_) halike
  simp only [hentry.1]

theorem mergeSort (halike : EntriesAlike like first second) (before : α → α → Bool) :
    EntriesAlike like (first.mergeSort fun entry other => before entry.1 other.1)
      (second.mergeSort fun entry other => before entry.1 other.1) := by
  obtain ⟨pairs, rfl, rfl, hpairs⟩ := halike.exists_pairs
  have hfirst : (pairs.map Prod.fst).mergeSort (fun entry other => before entry.1 other.1) =
      (pairs.mergeSort fun pair other => before pair.1.1 other.1.1).map Prod.fst := by
    rw [List.map_mergeSort]
    exact fun _ _ _ _ => rfl
  have hsecond : (pairs.map Prod.snd).mergeSort (fun entry other => before entry.1 other.1) =
      (pairs.mergeSort fun pair other => before pair.1.1 other.1.1).map Prod.snd := by
    rw [List.map_mergeSort]
    intro pair hpair other hother
    rw [(hpairs pair hpair).1, (hpairs other hother).1]
  rw [hfirst, hsecond]
  refine of_pairs fun pair hpair => hpairs pair ?_
  exact List.mem_mergeSort.mp hpair

theorem eq_of_same (hsame : ∀ value other, like value other → value = other)
    (halike : EntriesAlike like first second) : first = second := by
  induction halike with
  | nil => rfl
  | cons hentry hrest ih => rw [ih, Prod.ext hentry.1 (hsame _ _ hentry.2)]

end EntriesAlike

/-! ### Ordered maps -/

namespace OrderedMap

variable {α : Type u} {β : Type v} [DecidableEq α] {like : β → β → Prop}
  {first second : OrderedMap α β}

omit [DecidableEq α] in
theorem ext_entries (hentries : first.entries = second.entries) : first = second := by
  obtain ⟨entries, distinct⟩ := first
  obtain ⟨others, distinctOthers⟩ := second
  cases hentries
  rfl

theorem insert_alike (halike : EntriesAlike like first.entries second.entries) (key : α)
    {value other : β} (hvalue : like value other) :
    EntriesAlike like (first.insert key value).entries (second.insert key other).entries := by
  have hkeys : first.keys = second.keys := halike.keys_eq
  unfold insert
  by_cases hkey : key ∈ first.keys
  · rw [dif_pos hkey, dif_pos (hkeys ▸ hkey)]
    dsimp only [replaced]
    rw [EntriesAlike, List.forall₂_map_left_iff, List.forall₂_map_right_iff]
    refine halike.imp fun entry otherEntry hentry => ⟨hentry.1, ?_⟩
    dsimp only
    by_cases hplace : entry.1 = key
    · rw [if_pos hplace, if_pos (hentry.1 ▸ hplace)]
      exact hvalue
    · rw [if_neg hplace, if_neg (hentry.1 ▸ hplace)]
      exact hentry.2
  · rw [dif_neg hkey, dif_neg (hkeys ▸ hkey)]
    exact List.rel_append halike (.cons ⟨rfl, hvalue⟩ .nil)

theorem erase_alike (halike : EntriesAlike like first.entries second.entries) (key : α) :
    EntriesAlike like (first.erase key).entries (second.erase key).entries :=
  halike.filter fun name => decide (name ≠ key)

theorem ofList_alike {pairs others : List (α × β)} (halike : EntriesAlike like pairs others) :
    EntriesAlike like (ofList pairs).entries (ofList others).entries := by
  have hfold : ∀ first second : OrderedMap α β, EntriesAlike like first.entries second.entries →
      EntriesAlike like (pairs.foldl (fun map pair => map.insert pair.1 pair.2) first).entries
        (others.foldl (fun map pair => map.insert pair.1 pair.2) second).entries := by
    induction halike with
    | nil => exact fun first second hstart => hstart
    | @cons pair other _ _ hpair hrest ih =>
      intro first second hstart
      rw [List.foldl_cons, List.foldl_cons, ← hpair.1]
      exact ih _ _ (insert_alike hstart pair.1 hpair.2)
  exact hfold empty empty .nil

end OrderedMap

/-! ### Values, parameters and outcomes -/

/-- Values that may stand for each other: the same value, or two texts of which that is said. -/
inductive ValueAlike (like : String → String → Prop) : Json → Json → Prop
  | same (value : Json) : ValueAlike like value value
  | text {first second : String} (hlike : like first second) :
      ValueAlike like (.string first) (.string second)

theorem ValueAlike.eq_of_same {like : String → String → Prop} {first second : Json}
    (hsame : ∀ value other, like value other → value = other)
    (halike : ValueAlike like first second) : first = second := by
  cases halike with
  | same => rfl
  | text hlike => rw [hsame _ _ hlike]

def ParameterAlike (like : String → String → Prop) (first second : Parameter) : Prop :=
  first.name = second.name ∧ ValueAlike like first.value second.value

theorem parameters_eq_of_same {like : String → String → Prop} {parameters others : List Parameter}
    (hsame : ∀ value other, like value other → value = other)
    (halike : List.Forall₂ (ParameterAlike like) parameters others) : parameters = others := by
  rw [← List.forall₂_eq_eq_eq]
  refine halike.imp fun parameter other hparameter => ?_
  obtain ⟨name, value⟩ := parameter
  obtain ⟨hname, hvalue⟩ := hparameter
  dsimp only at hname hvalue
  rw [hname, hvalue.eq_of_same hsame]

inductive OutcomeAlike {α : Type u} (alike : α → α → Prop) :
    Except Failure α → Except Failure α → Prop
  | error (failure : Failure) : OutcomeAlike alike (.error failure) (.error failure)
  | ok {first second : α} (hresult : alike first second) :
      OutcomeAlike alike (.ok first) (.ok second)

namespace OutcomeAlike

variable {α : Type u} {β : Type v} {alike : α → α → Prop} {alikeNext : β → β → Prop}
  {first second : Except Failure α}

theorem refl (halike : ∀ result, alike result result) (outcome : Except Failure α) :
    OutcomeAlike alike outcome outcome := by
  cases outcome with
  | error failure => exact .error failure
  | ok result => exact .ok (halike result)

theorem map {f g : α → β} (houtcome : OutcomeAlike alike first second)
    (hmap : ∀ result other, alike result other → alikeNext (f result) (g other)) :
    OutcomeAlike alikeNext (first.map f) (second.map g) := by
  cases houtcome with
  | error failure => exact .error failure
  | ok hresult => exact .ok (hmap _ _ hresult)

theorem bind {f g : α → Except Failure β} (houtcome : OutcomeAlike alike first second)
    (hnext : ∀ result other, alike result other →
      OutcomeAlike alikeNext (f result) (g other)) :
    OutcomeAlike alikeNext (first.bind f) (second.bind g) := by
  cases houtcome with
  | error failure => exact .error failure
  | ok hresult => exact hnext _ _ hresult

theorem eq_of_same (hsame : ∀ result other, alike result other → result = other)
    (houtcome : OutcomeAlike alike first second) : first = second := by
  cases houtcome with
  | error failure => rfl
  | ok hresult => rw [hsame _ _ hresult]

theorem exists_ok (houtcome : OutcomeAlike alike first second) {result : α}
    (hfirst : first = .ok result) : ∃ other, second = .ok other ∧ alike result other := by
  cases houtcome with
  | error failure => cases hfirst
  | ok hresult =>
    obtain rfl := Except.ok.inj hfirst
    exact ⟨_, rfl, hresult⟩

theorem error_iff (houtcome : OutcomeAlike alike first second) (failure : Failure) :
    first = .error failure ↔ second = .error failure := by
  cases houtcome with
  | error other => exact Iff.rfl
  | ok hresult => simp

end OutcomeAlike

/-! ### Reading below a path -/

namespace Service

variable {like : String → String → Prop} {path : String} {first second : Service}

/-- Two services that cannot be told apart below a path but by values. -/
structure AlikeBelow (like : String → String → Prop) (path : String) (first second : Service) :
    Prop where
  pageSize : first.pageSize = second.pageSize
  script : first.script = second.script
  entries : EntriesAlike like (first.entriesBelow path) (second.entriesBelow path)

theorem entriesBelow_alike (halike : EntriesAlike like first.store.entries second.store.entries)
    (path : String) : EntriesAlike like (first.entriesBelow path) (second.entriesBelow path) :=
  (halike.filter (below path)).mergeSort fun name other => decide (name ≤ other)

def PageAlike (like : String → String → Prop) (page other : Page) : Prop :=
  List.Forall₂ (ParameterAlike like) page.parameters other.parameters ∧ page.next = other.next

theorem storePage_alike (halike : AlikeBelow like path first second) (start : Int) :
    PageAlike like (first.storePage path start) (second.storePage path start) := by
  have hlength := halike.entries.length_eq
  unfold storePage
  constructor
  · dsimp only [window]
    rw [hlength, halike.pageSize, List.forall₂_map_left_iff, List.forall₂_map_right_iff]
    refine (List.forall₂_drop _ (List.forall₂_take _ halike.entries)).imp ?_
    intro entry other hentry
    refine ⟨?_, .text hentry.2⟩
    dsimp only [Parameter.ofText]
    rw [hentry.1]
  · dsimp only
    rw [hlength, halike.pageSize]

theorem storeReply_alike (halike : AlikeBelow like path first second) (token : Option PageToken) :
    OutcomeAlike (PageAlike like) (first.storeReply { path, token })
      (second.storeReply { path, token }) := by
  have hstart : OutcomeAlike Eq (startOf token) (startOf token) := .refl (fun _ => rfl) _
  refine hstart.map fun start other hsame => ?_
  rw [← hsame]
  exact storePage_alike halike start

theorem reply_alike (halike : AlikeBelow like path first second) (token : Option PageToken) :
    OutcomeAlike (PageAlike like) (first.reply { path, token }).1
        (second.reply { path, token }).1 ∧
      AlikeBelow like path (first.reply { path, token }).2 (second.reply { path, token }).2 := by
  have hsame : ∀ page : Page, PageAlike like page page := fun page =>
    ⟨List.forall₂_same.mpr fun parameter _ => ⟨rfl, .same _⟩, rfl⟩
  unfold reply
  rw [← halike.script]
  cases hscript : first.script with
  | nil => exact ⟨storeReply_alike halike token, halike⟩
  | cons prepared script =>
    have hrest : AlikeBelow like path { first with script } { second with script } :=
      ⟨halike.pageSize, rfl, halike.entries⟩
    cases prepared with
    | failure failure => exact ⟨.error failure, hrest⟩
    | response response => exact ⟨.refl hsame _, hrest⟩
    | fromStore => exact ⟨storeReply_alike hrest token, hrest⟩

/-- Reading all pages makes the same requests in both, and uses up the same replies. -/
theorem readPages_alike (halike : AlikeBelow like path first second) (token : Option PageToken) :
    (first.readPages path token).requests = (second.readPages path token).requests ∧
      OutcomeAlike (List.Forall₂ (ParameterAlike like)) (first.readPages path token).outcome
        (second.readPages path token).outcome ∧
      (first.readPages path token).service.script =
        (second.readPages path token).service.script := by
  fun_induction readPages first path token generalizing second with
  | case1 first token request failure =>
    rename_i hreply
    obtain ⟨houtcome, hservice⟩ := reply_alike halike token
    rw [readPages_of_error ((houtcome.error_iff failure).mp hreply)]
    exact ⟨rfl, .error failure, hservice.script⟩
  | case2 first token request page hreply =>
    rename_i hlast
    obtain ⟨houtcome, hservice⟩ := reply_alike halike token
    obtain ⟨other, hother, hpage⟩ := houtcome.exists_ok hreply
    rw [readPages_of_last hother (hpage.2 ▸ hlast)]
    exact ⟨rfl, .ok hpage.1, hservice.script⟩
  | case3 first token request page hreply next hnext hprogress later =>
    rename_i ih
    obtain ⟨houtcome, hservice⟩ := reply_alike halike token
    obtain ⟨other, hother, hpage⟩ := houtcome.exists_ok hreply
    obtain ⟨hrequests, hlater, hscript⟩ := ih hservice
    rw [readPages_of_next hother (hpage.2 ▸ hnext)]
    refine ⟨?_, hlater.map fun parameters others hothers => ?_, hscript⟩
    · exact congrArg (request :: ·) hrequests
    · exact List.rel_append hpage.1 hothers

/-- Where the entries below a path are the same, so is all that is read there, and each service is left but for the replies used up. -/
theorem readPages_congr (hsame : AlikeBelow Eq path first second) (token : Option PageToken) :
    (first.readPages path token).requests = (second.readPages path token).requests ∧
      (first.readPages path token).outcome = (second.readPages path token).outcome ∧
      (first.readPages path token).service =
        { first with script := (second.readPages path token).service.script } := by
  obtain ⟨hrequests, houtcome, hscript⟩ := readPages_alike hsame token
  obtain ⟨script, hservice⟩ := readPages_service first path token
  refine ⟨hrequests, houtcome.eq_of_same fun _ _ => ?_, ?_⟩
  · exact parameters_eq_of_same fun _ _ hvalue => hvalue
  · rw [← hscript, hservice]

theorem readPages_built (service : Service) (count : Nat) (path : String)
    (token : Option PageToken) :
    (({ service with built := count } : Service).readPages path token).requests =
        (service.readPages path token).requests ∧
      (({ service with built := count } : Service).readPages path token).outcome =
        (service.readPages path token).outcome ∧
      (({ service with built := count } : Service).readPages path token).service =
        { (service.readPages path token).service with built := count } := by
  have hsame : AlikeBelow Eq path { service with built := count } service :=
    ⟨rfl, rfl, List.forall₂_same.mpr fun _ _ => ⟨rfl, rfl⟩⟩
  obtain ⟨hrequests, houtcome, hservice⟩ := readPages_congr hsame token
  obtain ⟨script, hleft⟩ := readPages_service service path token
  refine ⟨hrequests, houtcome, ?_⟩
  rw [hservice, hleft]

end Service

/-! ### What is made of parameters -/

section

variable {like : String → String → Prop}

def PropertySourceAlike (like : String → String → Prop) (first second : PropertySource) : Prop :=
  first.name = second.name ∧ EntriesAlike (ValueAlike like) first.source.entries second.source.entries

/-- Environments that say the same but for values that may stand for each other. -/
structure EnvironmentAlike (like : String → String → Prop) (first second : Environment) : Prop where
  name : first.name = second.name
  profiles : first.profiles = second.profiles
  label : first.label = second.label
  version : first.version = second.version
  state : first.state = second.state
  propertySources :
    List.Forall₂ (PropertySourceAlike like) first.propertySources second.propertySources

theorem ofParameters_alike {parameters others : List Parameter}
    (halike : List.Forall₂ (ParameterAlike like) parameters others) (path : String) :
    OutcomeAlike (PropertySourceAlike like) (PropertySource.ofParameters path parameters)
      (PropertySource.ofParameters path others) := by
  have hpairs : OutcomeAlike (EntriesAlike (ValueAlike like))
      (parameters.mapM fun parameter =>
        (parameter.key path).map fun key => (key, parameter.value))
      (others.mapM fun parameter =>
        (parameter.key path).map fun key => (key, parameter.value)) := by
    induction halike with
    | nil => exact .ok .nil
    | @cons parameter other _ _ hparameter hrest ih =>
      have hkey : OutcomeAlike Eq (parameter.key path) (other.key path) := by
        unfold Parameter.key
        rw [hparameter.1]
        exact .refl (fun _ => rfl) _
      have hpair : OutcomeAlike
          (fun first second => first.1 = second.1 ∧ ValueAlike like first.2 second.2)
          ((parameter.key path).map fun key => (key, parameter.value))
          ((other.key path).map fun key => (key, other.value)) :=
        hkey.map fun key otherKey hname => ⟨hname, hparameter.2⟩
      rw [List.mapM_cons, List.mapM_cons]
      refine hpair.bind fun pair otherPair hpairs => ih.bind fun rest otherRest hrests => ?_
      exact .ok (.cons hpairs hrests)
  refine hpairs.bind fun pairs otherPairs halike => .ok ⟨rfl, ?_⟩
  exact OrderedMap.ofList_alike halike

variable (hsame : ∀ value other, like value other → value = other)
include hsame

theorem PropertySourceAlike.eq_of_same {first second : PropertySource}
    (halike : PropertySourceAlike like first second) : first = second := by
  obtain ⟨name, source⟩ := first
  obtain ⟨otherName, otherSource⟩ := second
  obtain ⟨hname, hsource⟩ := halike
  obtain rfl : name = otherName := hname
  have hentries : source.entries = otherSource.entries :=
    hsource.eq_of_same fun _ _ => ValueAlike.eq_of_same hsame
  rw [OrderedMap.ext_entries hentries]

theorem EnvironmentAlike.eq_of_same {first second : Environment}
    (halike : EnvironmentAlike like first second) : first = second := by
  obtain ⟨name, profiles, label, version, state, propertySources⟩ := first
  obtain ⟨hname, hprofiles, hlabel, hversion, hstate, hsources⟩ := halike
  have hequal : propertySources = second.propertySources := by
    rw [← List.forall₂_eq_eq_eq]
    exact hsources.imp fun _ _ => PropertySourceAlike.eq_of_same hsame
  dsimp only at hname hprofiles hlabel hversion hstate
  rw [hname, hprofiles, hlabel, hversion, hstate, hequal]

end
end ParameterConfig
