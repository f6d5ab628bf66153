import AssetAudit.Compliance.Catalog
import AssetAudit.Proofs.Text.CanonicalSet
import Mathlib.Data.List.Basic

namespace AssetAudit.Catalog

/-! What the catalog rule says of one image set depends on the variants of that set alone.  A
further variant never makes it worse and is not seen elsewhere. -/

variable {assets front back variants more : List Asset} {group : String} {issue : Issue}

theorem mem_groups : group ∈ groups assets ↔ ∃ asset ∈ assets, asset.catalogGroup = some group := by
  simp [groups]

theorem mem_variantsOf {asset : Asset} :
    asset ∈ variantsOf assets group ↔ asset ∈ assets ∧ asset.catalogGroup = some group := by
  simp [variantsOf]

theorem variantsOf_append (assets others : List Asset) (group : String) :
    variantsOf (assets ++ others) group = variantsOf assets group ++ variantsOf others group :=
  List.filter_append ..

theorem of_mem_missingIssues {first : Asset} (member : issue ∈ missingIssues first variants) :
    issue.asset = first ∧ missingScales variants ≠ [] ∧
      issue.finding = .catalog .missingScale (missingScales variants) := by
  simp only [missingIssues, List.isEmpty_iff] at member
  split at member
  · cases member
  · rename_i lacks
    obtain rfl := List.mem_singleton.mp member
    exact ⟨rfl, lacks, rfl⟩

theorem of_mem_orphanedIssues (member : issue ∈ orphanedIssues variants) :
    variants = [issue.asset] ∧ ∃ label, issue.finding = .catalog .orphanedScale [label] := by
  unfold orphanedIssues at member
  split at member
  · split at member
    · split at member
      · obtain rfl := List.mem_singleton.mp member
        exact ⟨rfl, _, rfl⟩
      · cases member
    · cases member
  · cases member

/-- An issue of a set is about one of its variants. -/
theorem of_mem_groupIssues (member : issue ∈ groupIssues variants) :
    issue.asset ∈ variants ∧ ∀ scales, issue.finding = .catalog .missingScale scales →
      scales = missingScales variants ∧ scales ≠ [] := by
  cases variants with
  | nil => cases member
  | cons first rest =>
      rcases List.mem_append.mp member with missing | orphaned
      · obtain ⟨named, lacks, finding⟩ := of_mem_missingIssues missing
        refine ⟨by simp [named], fun scales found => ?_⟩
        rw [finding] at found
        cases found
        exact ⟨rfl, lacks⟩
      · obtain ⟨lone, label, finding⟩ := of_mem_orphanedIssues orphaned
        refine ⟨by simp [lone], fun scales found => ?_⟩
        rw [finding] at found
        cases found

theorem group_of_mem_groupIssues (member : issue ∈ groupIssues (variantsOf assets group)) :
    issue.asset.catalogGroup = some group :=
  (mem_variantsOf.mp (of_mem_groupIssues member).1).2

/-- The issues of a set that has two variants or more are those of its missing scales. -/
theorem orphanedIssues_eq_nil (several : 2 ≤ variants.length) : orphanedIssues variants = [] := by
  match variants with
  | [] | [_] => simp at several
  | _ :: _ :: _ => rfl

theorem missingScales_sublist (kept : variants ⊆ more) :
    (missingScales more).Sublist (missingScales variants) := by
  refine (List.monotone_filter_right _ fun scale absent => ?_).map scaleLabel
  rw [Bool.not_eq_true', List.any_eq_false] at absent ⊢
  exact fun variant member => absent variant (kept member)

theorem length_groupIssues (nonempty : variants ≠ []) :
    (groupIssues variants).length =
      (if missingScales variants = [] then 0 else 1) + (orphanedIssues variants).length := by
  obtain ⟨first, rest, rfl⟩ := List.exists_cons_of_ne_nil nonempty
  rw [groupIssues, List.length_append, missingIssues]
  simp only [List.isEmpty_iff]
  split <;> rfl

/-- Further variants remove missing scales, and the set has no lone variant any more. -/
theorem length_groupIssues_le (kept : variants ⊆ more) (nonempty : variants ≠ [])
    (several : 2 ≤ more.length) : (groupIssues more).length ≤ (groupIssues variants).length := by
  have filled : more ≠ [] := List.ne_nil_of_length_pos (by omega)
  rw [length_groupIssues nonempty, length_groupIssues filled, orphanedIssues_eq_nil several]
  by_cases complete : missingScales variants = []
  · have fewer := missingScales_sublist kept
    rw [complete, List.sublist_nil] at fewer
    simp [fewer]
  · rw [if_neg complete, List.length_nil]
    split <;> omega

theorem missing_mem_groupIssues (nonempty : variants ≠ []) (lacks : missingScales variants ≠ []) :
    ∃ issue ∈ groupIssues variants,
      issue.finding = .catalog .missingScale (missingScales variants) := by
  obtain ⟨first, rest, rfl⟩ := List.exists_cons_of_ne_nil nonempty
  have raised : missingIssues first (first :: rest) ≠ [] := by
    simp [missingIssues, lacks]
  obtain ⟨issue, member⟩ := List.exists_mem_of_ne_nil _ raised
  exact ⟨issue, List.mem_append_left _ member, (of_mem_missingIssues member).2.2⟩

/-- A set with all scales has three variants at least. -/
theorem groupIssues_complete
    (complete : ∀ scale ∈ requiredScales, ∃ variant ∈ variants, variant.scale = some scale) :
    groupIssues variants = [] := by
  have none : missingScales variants = [] := by
    rw [missingScales, List.map_eq_nil_iff, List.filter_eq_nil_iff]
    intro scale required
    obtain ⟨variant, member, same⟩ := complete scale required
    simp only [Bool.not_eq_true', Bool.not_eq_false, List.any_eq_true, decide_eq_true_eq]
    exact ⟨variant, member, same⟩
  obtain ⟨one, oneIn, oneScale⟩ := complete 1 (by decide)
  obtain ⟨two, twoIn, twoScale⟩ := complete 2 (by decide)
  have several : 2 ≤ variants.length := by
    have different : one ≠ two := by
      rintro rfl
      rw [oneScale] at twoScale
      cases twoScale
    match variants with
    | [] => cases oneIn
    | [only] =>
        exact absurd ((List.mem_singleton.mp oneIn).trans (List.mem_singleton.mp twoIn).symm)
          different
    | _ :: _ :: _ => simp
  have length := length_groupIssues (List.ne_nil_of_mem oneIn)
  rw [if_pos none, orphanedIssues_eq_nil several] at length
  exact List.eq_nil_of_length_eq_zero length

section Insertion

variable {variant : Asset} (inGroup : variant.catalogGroup = some group)

include inGroup

theorem groups_insert (present : ∃ asset ∈ front ++ back, asset.catalogGroup = some group) :
    groups (front ++ variant :: back) = groups (front ++ back) := by
  refine Text.sortedSet_eq_of_mem_iff fun other => ?_
  simp only [List.mem_filterMap, List.mem_append, List.mem_cons] at present ⊢
  grind

theorem variantsOf_insert_same :
    variantsOf (front ++ variant :: back) group =
      variantsOf front group ++ variant :: variantsOf back group := by
  simp [variantsOf, inGroup]

theorem variantsOf_subset_insert :
    variantsOf (front ++ back) group ⊆ variantsOf (front ++ variant :: back) group := by
  rw [variantsOf_insert_same inGroup, variantsOf_append]
  exact ((List.sublist_cons_self variant _).append_left _).subset

/-- A set that is there has several variants afterwards. -/
theorem several_insert (present : variantsOf (front ++ back) group ≠ []) :
    2 ≤ (variantsOf (front ++ variant :: back) group).length := by
  have positive := List.length_pos_iff.mpr present
  rw [variantsOf_append, List.length_append] at positive
  rw [variantsOf_insert_same inGroup, List.length_append, List.length_cons]
  omega

theorem variantsOf_insert_other {other : String} (different : other ≠ group) :
    variantsOf (front ++ variant :: back) other = variantsOf (front ++ back) other := by
  simp [variantsOf, inGroup, Ne.symm different]

end Insertion

/-- The issues whose image belongs to a set. -/
def issuesIn (group : String) (issues : List Issue) : List Issue :=
  issues.filter (·.asset.catalogGroup = some group)

/-- The issues of other sets and of images outside of sets. -/
def issuesOutside (group : String) (issues : List Issue) : List Issue :=
  issues.filter (·.asset.catalogGroup ≠ some group)

/-- The misplaced images outside catalogs. -/
def misplaced (assets : List Asset) : List Asset :=
  assets.filter fun asset => !asset.isCatalogVariant && belongsInCatalog asset

theorem flatMap_issuesIn (assets : List Asset) {groups : List String} (distinct : groups.Nodup)
    (group : String) :
    issuesIn group (groups.flatMap fun group => groupIssues (variantsOf assets group)) =
      if group ∈ groups then groupIssues (variantsOf assets group) else [] := by
  induction groups with
  | nil => rfl
  | cons other rest ih =>
      obtain ⟨absent, distinct⟩ := List.nodup_cons.mp distinct
      have rest := ih distinct
      rw [issuesIn] at rest ⊢
      rw [List.flatMap_cons, List.filter_append, rest]
      by_cases same : other = group
      · subst same
        have own : (groupIssues (variantsOf assets other)).filter
            (·.asset.catalogGroup = some other) = groupIssues (variantsOf assets other) :=
          List.filter_eq_self.mpr fun issue member =>
            decide_eq_true (group_of_mem_groupIssues member)
        simp [own, absent]
      · have none : (groupIssues (variantsOf assets other)).filter
            (·.asset.catalogGroup = some group) = [] :=
          List.filter_eq_nil_iff.mpr fun issue member => by
            simp [group_of_mem_groupIssues member, same]
        simp [none, Ne.symm same]

/-- A set draws the issues of its variants, besides those of misplaced images that claim to be in
it. -/
theorem issuesIn_issues (assets : List Asset) (group : String) :
    issuesIn group (issues assets) =
      issuesIn group ((misplaced assets).map misplacedIssue) ++
        groupIssues (variantsOf assets group) := by
  have grouped := flatMap_issuesIn assets
    (Text.sortedSet_nodup (assets.filterMap (·.catalogGroup))) group
  rw [issuesIn, issues, List.filter_append]
  refine congrArg (_ ++ ·) (grouped.trans ?_)
  split
  · rfl
  · rename_i unknown
    have none : variantsOf assets group = [] := by
      refine List.eq_nil_iff_forall_not_mem.mpr fun asset member => unknown ?_
      exact mem_groups.mpr ⟨asset, mem_variantsOf.mp member⟩
    rw [none]
    rfl

theorem issuesOutside_issues (assets : List Asset) (group : String) :
    issuesOutside group (issues assets) =
      issuesOutside group ((misplaced assets).map misplacedIssue) ++
        (groups assets).flatMap fun other =>
          if other = group then [] else groupIssues (variantsOf assets other) := by
  rw [issuesOutside, issues, List.filter_append, List.filter_flatMap]
  refine congrArg (_ ++ ·) (List.flatMap_congr fun other _ => ?_)
  split
  · rename_i same
    exact List.filter_eq_nil_iff.mpr fun issue member => by
      simp [group_of_mem_groupIssues member, same]
  · rename_i different
    exact List.filter_eq_self.mpr fun issue member => by
      simp [group_of_mem_groupIssues member, different]

/-- One set has no more issues than before and lacks no other scales; all else has the same. -/
structure Improves (group : String) (before after : List Issue) : Prop where
  fewer : (issuesIn group after).length ≤ (issuesIn group before).length
  missing : ∀ issue ∈ issuesIn group after, ∀ scales,
    issue.finding = .catalog .missingScale scales →
      ∃ old ∈ issuesIn group before, ∃ more,
        old.finding = .catalog .missingScale more ∧ scales.Sublist more
  outside : issuesOutside group after = issuesOutside group before

/-- A further variant makes a set that is there no worse, wherever it is put. -/
theorem improves_insert {variant : Asset} (isVariant : variant.isCatalogVariant = true)
    (inGroup : variant.catalogGroup = some group)
    (present : ∃ asset ∈ front ++ back, asset.catalogGroup = some group) :
    Improves group (issues (front ++ back)) (issues (front ++ variant :: back)) := by
  have samePlaced : misplaced (front ++ variant :: back) = misplaced (front ++ back) := by
    simp [misplaced, isVariant]
  have nonempty : variantsOf (front ++ back) group ≠ [] := by
    obtain ⟨asset, member, named⟩ := present
    exact List.ne_nil_of_mem (mem_variantsOf.mpr ⟨member, named⟩)
  have kept : variantsOf (front ++ back) group ⊆ variantsOf (front ++ variant :: back) group :=
    variantsOf_subset_insert inGroup
  refine ⟨?_, fun issue member scales found => ?_, ?_⟩
  · rw [issuesIn_issues, issuesIn_issues, samePlaced, List.length_append, List.length_append]
    exact Nat.add_le_add_left
      (length_groupIssues_le kept nonempty (several_insert inGroup nonempty)) _
  · rw [issuesIn_issues] at member
    rcases List.mem_append.mp member with placed | grouped
    · obtain ⟨asset, -, rfl⟩ := List.mem_map.mp (List.mem_filter.mp placed).1
      cases found
    · obtain ⟨rfl, lacks⟩ := (of_mem_groupIssues grouped).2 scales found
      have fewer := missingScales_sublist kept
      have lacked : missingScales (variantsOf (front ++ back) group) ≠ [] := by
        intro none
        rw [none, List.sublist_nil] at fewer
        exact lacks fewer
      obtain ⟨old, oldMember, oldFound⟩ := missing_mem_groupIssues nonempty lacked
      refine ⟨old, ?_, _, oldFound, fewer⟩
      rw [issuesIn_issues]
      exact List.mem_append_right _ oldMember
  · rw [issuesOutside_issues, issuesOutside_issues, samePlaced, groups_insert inGroup present]
    refine congrArg (_ ++ ·) (List.flatMap_congr fun other _ => ?_)
    split
    · rfl
    · rename_i different
      rw [variantsOf_insert_other inGroup different]

/-- Where the variants are the images with a set, no misplaced image claims to be in one. -/
theorem issuesIn_misplaced
    (classified : ∀ asset ∈ assets, asset.isCatalogVariant = asset.catalogGroup.isSome)
    (group : String) : issuesIn group ((misplaced assets).map misplacedIssue) = [] := by
  refine List.filter_eq_nil_iff.mpr fun issue member => ?_
  obtain ⟨asset, among, rfl⟩ := List.mem_map.mp member
  obtain ⟨listed, chosen⟩ := List.mem_filter.mp among
  have standalone : asset.catalogGroup.isSome = false := by
    rw [← classified asset listed]
    simpa using (Bool.and_eq_true_iff.mp chosen).1
  intro claimed
  rw [show asset.catalogGroup = some group from of_decide_eq_true claimed] at standalone
  cases standalone

/-- A further variant of a set that is there makes that set no worse and nothing else different,
wherever it is put.  A set with all scales draws no issue. -/
theorem scale_sets_improve :
    (∀ (front back : List Asset) (variant : Asset) (group : String),
      variant.isCatalogVariant = true → variant.catalogGroup = some group →
      (∃ asset ∈ front ++ back, asset.catalogGroup = some group) →
        Improves group (issues (front ++ back)) (issues (front ++ variant :: back))) ∧
    ∀ (assets : List Asset) (group : String),
      (∀ asset ∈ assets, asset.isCatalogVariant = asset.catalogGroup.isSome) →
      (∀ scale ∈ requiredScales, ∃ asset ∈ assets,
        asset.catalogGroup = some group ∧ asset.scale = some scale) →
        issuesIn group (issues assets) = [] := by
  constructor
  · intro front back variant group isVariant inGroup present
    exact improves_insert isVariant inGroup present
  · intro assets group classified complete
    rw [issuesIn_issues, issuesIn_misplaced classified, List.nil_append]
    refine groupIssues_complete fun scale required => ?_
    obtain ⟨asset, listed, named, same⟩ := complete scale required
    exact ⟨asset, mem_variantsOf.mpr ⟨listed, named⟩, same⟩

def starSet : String := "Art.xcassets/star.imageset"

def starVariant (scale : Int) : Asset :=
  ⟨"star", starSet ++ "/star.png", 1, .catalogVariant, "png", some scale, none, none, none,
    some starSet⟩

def okButton : Asset :=
  ⟨"ok_button", "ok_button.png", 1, .png, "png", some 1, none, none, none, none⟩

theorem star_set_improves :
    (starVariant 1).isCatalogVariant = true ∧ (starVariant 1).catalogGroup = some starSet ∧
      (∃ asset ∈ [starVariant 2] ++ [okButton], asset.catalogGroup = some starSet) ∧
      Improves starSet (issues ([starVariant 2] ++ [okButton]))
        (issues ([starVariant 2] ++ starVariant 1 :: [okButton])) ∧
      issuesIn starSet (issues [starVariant 3, okButton, starVariant 1, starVariant 2]) = [] := by
  have present : ∃ asset ∈ [starVariant 2] ++ [okButton], asset.catalogGroup = some starSet :=
    ⟨starVariant 2, by simp, rfl⟩
  refine ⟨rfl, rfl, present, scale_sets_improve.1 _ _ _ _ rfl rfl present, ?_⟩
  exact scale_sets_improve.2 _ _ (by decide) (by decide)

end AssetAudit.Catalog
