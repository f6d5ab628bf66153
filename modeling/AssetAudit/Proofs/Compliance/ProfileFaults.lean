import AssetAudit.Compliance.ColorProfile
import AssetAudit.Proofs.Compliance.Standard

namespace AssetAudit

/-! The faults of colour profiles exclude each other, since every profile that counts as outdated
counts as recommended as well.  So no image has two issues. -/

/-- Is this wrong with the colour profile of an image, which may have none? -/
def ProfileFault.Holds : ProfileFault → Option String → Prop
  | missing, profile => profile = none
  | incompatible, profile => ∃ text, profile = some text ∧
      ∀ name ∈ ColorProfile.recommendedProfiles, ¬ name.toList <:+: text.toList
  | outdated, profile => ∃ text, profile = some text ∧
      ∃ name ∈ ColorProfile.outdatedProfiles, name.toList <:+: text.toList

/-- What an issue says to be wrong with the colour profile. -/
def Issue.profileFault? (issue : Issue) : Option ProfileFault :=
  match issue.finding with
  | .colorProfile fault _ _ => some fault
  | _ => none

namespace ColorProfile

theorem mentions_iff {names : List String} {profile : String} :
    mentions names profile = true ↔ ∃ name ∈ names, name.toList <:+: profile.toList := by
  simp only [mentions, List.any_eq_true, Text.occursIn_iff]

/-- A profile that bears one of the names bears what the name itself bears. -/
theorem mentions_of_mentions {names others : List String}
    (covers : ∀ name ∈ names, mentions others name = true) {profile : String}
    (mentioned : mentions names profile = true) : mentions others profile = true := by
  obtain ⟨name, listed, within⟩ := mentions_iff.mp mentioned
  obtain ⟨other, known, part⟩ := mentions_iff.mp (covers name listed)
  exact mentions_iff.mpr ⟨other, known, part.trans within⟩

theorem isRecommended_outdatedProfiles :
    ∀ name ∈ outdatedProfiles, isRecommended name = true := by
  decide

theorem isRecommended_of_isOutdated {profile : String} (outdated : isOutdated profile = true) :
    isRecommended profile = true :=
  mentions_of_mentions isRecommended_outdatedProfiles outdated

/-- Of the four answers to the two questions about a profile, three occur. -/
theorem profile_cases (profile : String) :
    (isOutdated profile = true ∧ isRecommended profile = true) ∨
      isOutdated profile = false ∧ (isRecommended profile = true ∨ isRecommended profile = false) := by
  cases outdated : isOutdated profile with
  | true => exact Or.inl ⟨rfl, isRecommended_of_isOutdated outdated⟩
  | false => exact Or.inr ⟨rfl, Bool.eq_false_or_eq_true _⟩

/-- The fault of a profile, if it has one. -/
def fault? : Option String → Option ProfileFault
  | none => some .missing
  | some profile =>
      if isOutdated profile then some .outdated
      else if isRecommended profile then none
      else some .incompatible

theorem holds_iff {fault : ProfileFault} {profile : Option String} :
    fault.Holds profile ↔ fault? profile = some fault := by
  cases profile with
  | none => cases fault <;> simp [ProfileFault.Holds, fault?]
  | some profile =>
      have outdated : ProfileFault.outdated.Holds (some profile) ↔ isOutdated profile = true := by
        simp [ProfileFault.Holds, isOutdated, mentions_iff]
      have incompatible : ProfileFault.incompatible.Holds (some profile) ↔
          ¬ isRecommended profile = true := by
        simp [ProfileFault.Holds, isRecommended, mentions_iff]
      have present : ¬ ProfileFault.missing.Holds (some profile) := by
        simp [ProfileFault.Holds]
      rcases profile_cases profile with ⟨old, known⟩ | ⟨recent, known | unknown⟩
      · cases fault <;> simp [fault?, outdated, incompatible, present, old, known]
      · cases fault <;> simp [fault?, outdated, incompatible, present, recent, known]
      · cases fault <;> simp [fault?, outdated, incompatible, present, recent, unknown]

/-- Is anything wrong with the profile? -/
def IsFaulty (profile : Option String) : Prop := ∃ fault : ProfileFault, fault.Holds profile

theorem isFaulty_iff {profile : Option String} :
    IsFaulty profile ↔ (fault? profile).isSome = true := by
  simp only [IsFaulty, holds_iff, Option.isSome_iff_exists]

instance : DecidablePred IsFaulty := fun _ => decidable_of_iff _ isFaulty_iff.symm

/-- The issue is about a fault that the profile of the image has. -/
structure IsReport (issue : Issue) (asset : Asset) : Prop where
  image : issue.asset = asset
  faulty : ∃ fault, issue.profileFault? = some fault ∧ fault.Holds asset.colorProfile

/-- An image has one issue if its profile has a fault, else none. -/
theorem issuesOf_cases (asset : Asset) :
    (IsFaulty asset.colorProfile ∧ ∃ issue, issuesOf asset = [issue] ∧ IsReport issue asset) ∨
      ¬ IsFaulty asset.colorProfile ∧ issuesOf asset = [] := by
  simp only [isFaulty_iff, issuesOf]
  cases profile : asset.colorProfile with
  | none => exact Or.inl ⟨rfl, _, rfl, rfl, .missing, rfl, profile⟩
  | some text =>
      rcases profile_cases text with ⟨old, known⟩ | ⟨recent, known | unknown⟩
      · refine Or.inl ⟨?_, outdatedIssue asset text, ?_, rfl, .outdated, rfl, ?_⟩
        · simp [fault?, old]
        · simp [old, known]
        · simp [holds_iff, profile, fault?, old]
      · exact Or.inr ⟨by simp [fault?, recent, known], by simp [recent, known]⟩
      · refine Or.inl ⟨?_, incompatibleIssue asset text, ?_, rfl, .incompatible, rfl, ?_⟩
        · simp [fault?, recent, unknown]
        · simp [recent, unknown]
        · simp [holds_iff, profile, fault?, recent, unknown]

theorem issues_images (assets : List Asset) :
    (issues assets).map (·.asset) = assets.filter fun asset => IsFaulty asset.colorProfile := by
  induction assets with
  | nil => rfl
  | cons asset rest ih =>
      have step : issues (asset :: rest) = issuesOf asset ++ issues rest := List.flatMap_cons
      rw [step, List.map_append, ih]
      rcases issuesOf_cases asset with ⟨faulty, issue, only, isReport⟩ | ⟨faultless, none⟩
      · rw [only, List.filter_cons_of_pos (by simpa using faulty), List.map_singleton,
          isReport.image, List.singleton_append]
      · rw [none, List.filter_cons_of_neg (by simpa using faultless), List.map_nil, List.nil_append]

theorem isReport_of_mem_issues {assets : List Asset} {issue : Issue}
    (raised : issue ∈ issues assets) : ∃ asset ∈ assets, IsReport issue asset := by
  obtain ⟨asset, member, ofAsset⟩ := List.mem_flatMap.mp raised
  refine ⟨asset, member, ?_⟩
  rcases issuesOf_cases asset with ⟨-, only', only, isReport⟩ | ⟨-, none⟩
  · rw [only] at ofAsset
    rwa [List.mem_singleton.mp ofAsset]
  · rw [none] at ofAsset
    cases ofAsset

end ColorProfile

/-- The rule for colour profiles raises one issue for each image whose profile has a fault, in the
order of the images and as often as they are listed, and no other.  No two faults go together, and
no outdated profile is without a recommended name. -/
theorem one_profile_issue_each (assets : List Asset) :
    (∃ found, ColorProfile.rule.issues assets = .ok found ∧
      found.map (·.asset) = assets.filter (fun asset =>
        ColorProfile.IsFaulty asset.colorProfile) ∧
      ∀ issue ∈ found, ∃ asset ∈ assets, ColorProfile.IsReport issue asset) ∧
    (∀ profile (fault other : ProfileFault), fault.Holds profile → other.Holds profile →
      fault = other) ∧
    ∀ profile, ColorProfile.isOutdated profile = true →
      ColorProfile.isRecommended profile = true := by
  refine ⟨⟨ColorProfile.issues assets, Rule.issues_eq_ok rfl rfl colorProfile_family,
    ColorProfile.issues_images assets, fun issue => ColorProfile.isReport_of_mem_issues⟩, ?_,
    fun profile => ColorProfile.isRecommended_of_isOutdated⟩
  intro profile fault other holds holdsOther
  rw [ColorProfile.holds_iff] at holds holdsOther
  exact Option.some.inj (holds.symm.trans holdsOther)

/-- Images with the profiles of all kinds, one of them listed twice. -/
def profiledImages : List Asset :=
  [some "sRGB IEC61966-2.1", none, some "Adobe RGB (1998)", some "Gray", some "Adobe RGB (1998)"].map
    fun profile => ⟨"img", "img.png", 1, .png, "png", none, none, none, profile, none⟩

/-- An outdated profile has one issue each time, although two checks look at it. -/
theorem profiledImages_issues :
    (∃ found, ColorProfile.rule.issues profiledImages = .ok found ∧
      found.map (·.asset.colorProfile) =
        [none, some "Adobe RGB (1998)", some "Gray", some "Adobe RGB (1998)"]) ∧
    ProfileFault.outdated.Holds (some "Adobe RGB (1998)") ∧
    ∀ fault : ProfileFault, fault.Holds (some "Adobe RGB (1998)") → fault = .outdated := by
  obtain ⟨⟨found, run, images, -⟩, unique, -⟩ := one_profile_issue_each profiledImages
  have outdated : ProfileFault.outdated.Holds (some "Adobe RGB (1998)") :=
    ColorProfile.holds_iff.mpr (by decide)
  refine ⟨⟨found, run, ?_⟩, outdated, fun fault holds => unique _ _ _ holds outdated⟩
  have profiles := congrArg (List.map (·.colorProfile)) images
  rw [List.map_map] at profiles
  exact profiles.trans (by decide)

end AssetAudit
