import ParameterConfig.Path
import ParameterConfig.Service

/-!
# Profiles, keys and paths

Cutting a text at commas and joining it again are inverse to each other, so the profiles of a list are the only ones it can stand for. The key of a parameter is what its name has below the path, with dots for slashes. A name below the path of a profile tells the application and the profile, if neither holds the mark that ends it: `Properties.eq_of_below`.
-/

namespace ParameterConfig

namespace Text

theorem split_eq_splitOn (mark : Char) (cs : List Char) : split mark cs = cs.splitOn mark := by
  have hpieces := List.splitOn_intercalate mark (fun piece => not_mem_of_mem_split)
    (split_ne_nil mark cs)
  rw [intercalate_split] at hpieces
  exact hpieces.symm

/-- Pieces without the mark are what their joining is cut into. -/
theorem split_intercalate {mark : Char} {pieces : List (List Char)} (hne : pieces ≠ [])
    (hpieces : ∀ piece ∈ pieces, mark ∉ piece) : split mark ([mark].intercalate pieces) = pieces := by
  rw [split_eq_splitOn, List.splitOn_intercalate mark hpieces hne]

end Text

theorem splitProfiles_ne_nil (text : String) : splitProfiles (some text) ≠ [] := by
  simp only [splitProfiles, ne_eq, List.map_eq_nil_iff]
  exact Text.split_ne_nil ',' text.toList

theorem comma_not_mem_splitProfiles {text profile : String}
    (hprofile : profile ∈ splitProfiles (some text)) : ',' ∉ profile.toList := by
  obtain ⟨piece, hpiece, rfl⟩ := List.mem_map.mp hprofile
  rw [String.toList_ofList]
  exact Text.not_mem_of_mem_split hpiece

theorem intercalate_splitProfiles (text : String) :
    ",".intercalate (splitProfiles (some text)) = text := by
  apply String.toList_injective
  simp only [splitProfiles, String.toList_intercalate, List.map_map, Function.comp_def,
    String.toList_ofList, List.map_id']
  exact Text.intercalate_split ',' text.toList

theorem splitProfiles_intercalate {profiles : List String} (hne : profiles ≠ [])
    (hprofiles : ∀ profile ∈ profiles, ',' ∉ profile.toList) :
    splitProfiles (some (",".intercalate profiles)) = profiles := by
  have hpieces : ∀ piece ∈ profiles.map String.toList, ',' ∉ piece := by
    intro piece hpiece
    obtain ⟨profile, hprofile, rfl⟩ := List.mem_map.mp hpiece
    exact hprofiles profile hprofile
  have hsplit := Text.split_intercalate (by simpa using hne) hpieces
  simp only [splitProfiles, String.toList_intercalate]
  show List.map String.ofList (Text.split ',' ([','].intercalate _)) = profiles
  rw [hsplit]
  simp [Function.comp_def]

theorem flattenName_append (path rest : String) :
    flattenName path (path ++ rest) = String.ofList (dotted rest.toList) := by
  simp [flattenName, belowPath]

/-! ### What a name tells of its path -/

/-- A text can be read up to the first mark in only one way. -/
theorem Text.eq_of_append_mark {mark : Char} {first second rest other : List Char}
    (hfirst : mark ∉ first) (hsecond : mark ∉ second)
    (hsame : first ++ mark :: rest = second ++ mark :: other) : first = second ∧ rest = other := by
  induction first generalizing second with
  | nil =>
    cases second with
    | nil => exact ⟨rfl, (List.cons.inj hsame).2⟩
    | cons c more =>
      obtain ⟨rfl, _⟩ := List.cons.inj hsame
      exact absurd List.mem_cons_self hsecond
  | cons c more ih =>
    cases second with
    | nil =>
      obtain ⟨rfl, _⟩ := List.cons.inj hsame
      exact absurd List.mem_cons_self hfirst
    | cons d others =>
      obtain ⟨rfl, hrest⟩ := List.cons.inj hsame
      obtain ⟨rfl, hother⟩ :=
        ih (List.not_mem_of_not_mem_cons hfirst) (List.not_mem_of_not_mem_cons hsecond) hrest
      exact ⟨rfl, hother⟩

/-- The character that ends the application in a path: a separator has a first character. -/
def Properties.endMark (properties : Properties) : Char :=
  (orSlash properties.profileSeparator).toList.headD '/'

theorem Properties.exists_separator (properties : Properties) :
    ∃ rest, (orSlash properties.profileSeparator).toList = properties.endMark :: rest := by
  have hne : (orSlash properties.profileSeparator).toList ≠ [] := by
    unfold orSlash
    by_cases hempty : properties.profileSeparator.isEmpty = true
    · rw [if_pos hempty]
      decide
    · rw [if_neg hempty]
      simpa using hempty
  obtain ⟨mark, rest, hseparator⟩ := List.exists_cons_of_ne_nil hne
  unfold endMark
  rw [hseparator]
  exact ⟨rest, rfl⟩

theorem Properties.exists_of_below {properties : Properties} {application profile name : String}
    (hbelow : Service.below (properties.path application profile) name) :
    ∃ rest, name.toList = (orSlash properties.pathPrefix).toList ++ (application.toList ++
      ((orSlash properties.profileSeparator).toList ++ (profile.toList ++ '/' :: rest))) := by
  obtain ⟨rest, hname⟩ := List.isPrefixOf_iff_prefix.mp hbelow
  refine ⟨rest, ?_⟩
  rw [← hname]
  simp [Properties.path]

/-- A name stands below the path of one application and profile only, where the application does not hold the mark that ends it and the profile no slash. -/
theorem Properties.eq_of_below {properties : Properties}
    {application other profile otherProfile name : String}
    (happlication : properties.endMark ∉ application.toList)
    (hother : properties.endMark ∉ other.toList)
    (hprofile : '/' ∉ profile.toList) (hotherProfile : '/' ∉ otherProfile.toList)
    (hbelow : Service.below (properties.path application profile) name)
    (hbelowOther : Service.below (properties.path other otherProfile) name) :
    application = other ∧ profile = otherProfile := by
  obtain ⟨more, hseparator⟩ := properties.exists_separator
  obtain ⟨rest, hname⟩ := exists_of_below hbelow
  obtain ⟨otherRest, hnameOther⟩ := exists_of_below hbelowOther
  have hafterPrefix := List.append_cancel_left (hname.symm.trans hnameOther)
  rw [hseparator, List.cons_append, List.cons_append] at hafterPrefix
  obtain ⟨hsame, hafterMark⟩ := Text.eq_of_append_mark happlication hother hafterPrefix
  obtain ⟨hsameProfile, _⟩ :=
    Text.eq_of_append_mark hprofile hotherProfile (List.append_cancel_left hafterMark)
  exact ⟨String.toList_injective hsame, String.toList_injective hsameProfile⟩

end ParameterConfig
