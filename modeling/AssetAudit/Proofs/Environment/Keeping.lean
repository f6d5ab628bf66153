import AssetAudit.Proofs.Environment.Applying
import AssetAudit.Proofs.Files.Joining

namespace AssetAudit

/-! Settings fill the gaps of an environment and leave the rest of it alone, so applying them once
more changes nothing. -/

/-- A path as a directory can have it. -/
structure CleanPath.IsNulFree (path : CleanPath) : Prop where
  root : '\x00' ∉ path.root.toList
  parts : ∀ part ∈ path.parts, '\x00' ∉ part.toList

theorem CleanPath.IsNulFree.text {path : CleanPath} (plain : path.IsNulFree) :
    '\x00' ∉ path.text.toList := by
  have shown : '\x00' ∉ (path.root ++ String.intercalate "/" path.parts).toList := by
    rw [String.toList_append]
    exact List.not_mem_append plain.root (nulFree_intercalate plain.parts)
  rw [CleanPath.text]
  split
  · decide
  · exact shown

theorem nulFree_pathParts {path part : String} (plain : '\x00' ∉ path.toList)
    (member : part ∈ pathParts path) : '\x00' ∉ part.toList := by
  obtain ⟨piece, listed, rfl⟩ := List.mem_map.mp member
  rw [String.toList_ofList]
  exact fun within => plain ((Text.sublist_of_mem_pieces listed).subset within)

theorem CleanPath.IsNulFree.join {base : CleanPath} {path : String} (plain : base.IsNulFree)
    (relative : isAbsolutePath path = false) (pathPlain : '\x00' ∉ path.toList) :
    (base.join (.ofText path)).IsNulFree := by
  rw [ofText_relative relative]
  refine ⟨plain.root, fun part member => ?_⟩
  rcases List.mem_append.mp member with above | below
  · exact plain.parts part above
  · exact nulFree_pathParts pathPlain (List.mem_of_mem_filter below)

namespace Environment

variable {base : CleanPath} {environment : Environment} {settings : List (String × String)}
  {name : String}

/-- Variables that the settings do not name, and those of other programs, stay as they are. -/
theorem get?_apply_aside (aside : name ∉ KeyedList.names settings ∨ isOwn name = false) :
    KeyedList.get? (environment.apply base settings).environment name =
      KeyedList.get? environment name := by
  induction settings generalizing environment with
  | nil => rfl
  | cons setting rest ih =>
      obtain ⟨known, value⟩ := setting
      have later : name ∉ KeyedList.names rest ∨ isOwn name = false :=
        aside.imp_left fun absent member => absent (List.mem_cons_of_mem known member)
      obtain ⟨-, passed⟩ | ⟨-, -, passed⟩ | ⟨-, -, failure, -, refused⟩ | ⟨own, -, -, entered⟩ :=
        apply_cons_cases base environment known value rest
      · rw [passed]
        exact ih later
      · rw [passed]
        exact ih later
      · rw [refused]
      · have other : name ≠ known := by
          intro same
          subst same
          simp [KeyedList.names, own] at aside
        rw [entered]
        exact (ih later).trans (KeyedList.get?_put_other environment _ other)

/-- The variables that are set are those of the program that the environment lacked. -/
theorem names_apply (distinct : (KeyedList.names settings).Nodup)
    (accepted : (environment.apply base settings).failure? = none) :
    (environment.apply base settings).names =
      (KeyedList.names settings).filter fun name =>
        isOwn name && !KeyedList.contains environment name := by
  induction settings generalizing environment with
  | nil => rfl
  | cons setting rest ih =>
      obtain ⟨known, value⟩ := setting
      obtain ⟨once, restDistinct⟩ := List.nodup_cons.mp distinct
      rw [KeyedList.names_cons]
      obtain ⟨foreign, passed⟩ | ⟨-, set, passed⟩ | ⟨-, -, failure, -, refused⟩ |
        ⟨own, unset, -, entered⟩ := apply_cons_cases base environment known value rest
      · rw [passed] at accepted ⊢
        rw [List.filter_cons_of_neg (by simp [foreign])]
        exact ih restDistinct accepted
      · have present : KeyedList.contains environment known = true :=
          Option.isSome_iff_ne_none.mpr set
        rw [passed] at accepted ⊢
        rw [List.filter_cons_of_neg (by simp [present])]
        exact ih restDistinct accepted
      · rw [refused] at accepted
        cases accepted
      · have absent := KeyedList.contains_eq_false.mpr unset
        rw [entered] at accepted ⊢
        rw [List.filter_cons_of_pos (by simp [own, absent]), ih restDistinct accepted]
        refine congrArg (known :: ·) (List.filter_congr fun name later => ?_)
        have other : name ≠ known := fun same => once (same ▸ later)
        rw [KeyedList.contains, KeyedList.contains, KeyedList.get?_put_other _ _ other]

/-- Where no variable of the program is missing there is nothing to set. -/
theorem apply_filled (filled : ∀ name ∈ KeyedList.names settings, isOwn name = true →
      KeyedList.get? environment name ≠ none) :
    (environment.apply base settings).environment = environment ∧
      (environment.apply base settings).names = [] ∧
        (environment.apply base settings).failure? = none := by
  induction settings with
  | nil => exact ⟨rfl, rfl, rfl⟩
  | cons setting rest ih =>
      obtain ⟨known, value⟩ := setting
      obtain ⟨here, later⟩ := List.forall_mem_cons.mp filled
      obtain ⟨-, passed⟩ | ⟨-, -, passed⟩ | ⟨own, unset, -⟩ | ⟨own, unset, -⟩ :=
        apply_cons_cases base environment known value rest
      · rw [passed]
        exact ih later
      · rw [passed]
        exact ih later
      · exact absurd unset (here own)
      · exact absurd unset (here own)

/-- Settings as a file or a caller may state them: names without equals signs, each once, and no
null characters. -/
structure IsLegal (settings : List (String × String)) : Prop where
  distinct : (KeyedList.names settings).Nodup
  noEquals : ∀ setting ∈ settings, '=' ∉ setting.1.toList
  nulFree : ∀ setting ∈ settings, '\x00' ∉ setting.1.toList ∧ '\x00' ∉ setting.2.toList

theorem IsLegal.accepted (legal : IsLegal settings) (basePlain : base.IsNulFree) :
    (environment.apply base settings).failure? = none := by
  refine Decidable.byContradiction fun refused => ?_
  obtain ⟨name, value, own, -, stated, illegal⟩ := apply_fails_iff.mp refused
  have listed := KeyedList.mem_of_get? stated
  obtain ⟨noNul, plain⟩ := legal.nulFree _ listed
  have noEquals := legal.noEquals _ listed
  have nonempty : name ≠ "" := by
    intro empty
    subst empty
    cases own
  have plainValue : '\x00' ∉ (valueOf base name value).toList := by
    unfold valueOf
    split
    · rename_i path
      have relative : isAbsolutePath value = false := by simpa using path.2.2
      exact (basePlain.join relative plain).text
    · exact plain
  exact illegal (by simp [SettingFailure.ofSetting?, noNul, noEquals, plainValue, nonempty])

/-- What settings make of the variables that were set before. -/
structure IsFilledBy (before : Environment) (base : CleanPath) (settings : List (String × String))
    (applied : AppliedSettings) : Prop where
  accepted : applied.failure? = none
  kept : ∀ name value, KeyedList.get? before name = some value →
    KeyedList.get? applied.environment name = some value
  aside : ∀ name, name ∉ KeyedList.names settings ∨ isOwn name = false →
    KeyedList.get? applied.environment name = KeyedList.get? before name
  added : ∀ name value, KeyedList.get? settings name = some value → isOwn name = true →
    KeyedList.get? before name = none →
      name ≠ configVariable ∨ value = "" ∨ isAbsolutePath value = true →
        KeyedList.get? applied.environment name = some value
  /-- The path of the configuration leads from the directory of the settings. -/
  joined : ∀ value, KeyedList.get? settings configVariable = some value →
    KeyedList.get? before configVariable = none → value ≠ "" → isAbsolutePath value = false →
      KeyedList.get? applied.environment configVariable = some (base.join (.ofText value)).text
  names : applied.names = (KeyedList.names settings).filter fun name =>
    isOwn name && !KeyedList.contains before name

theorem IsLegal.isFilledBy (legal : IsLegal settings) (basePlain : base.IsNulFree) :
    environment.IsFilledBy base settings (environment.apply base settings) := by
  have accepted : (environment.apply base settings).failure? = none := legal.accepted basePlain
  have filled : ∀ {name value}, KeyedList.get? settings name = some value → isOwn name = true →
      KeyedList.get? environment name = none →
        KeyedList.get? (environment.apply base settings).environment name =
          some (valueOf base name value) := by
    intro name value stated own unset
    rw [get?_apply own accepted, unset, Option.none_or, stated, Option.map_some]
  constructor
  case accepted => exact accepted
  case kept =>
    intro name value set
    cases own : isOwn name with
    | false => rw [get?_apply_aside (Or.inr own), set]
    | true => rw [get?_apply own accepted, set, Option.some_or]
  case aside => exact fun name => get?_apply_aside
  case added =>
    intro name value stated own unset plain
    rw [filled stated own unset, valueOf, if_neg]
    intro path
    obtain ⟨isPath, nonempty, relative⟩ := path
    rcases plain with other | empty | absolute
    · exact other isPath
    · exact nonempty empty
    · simp [absolute] at relative
  case joined =>
    intro value stated unset nonempty relative
    rw [filled stated (by decide) unset, valueOf, if_pos ⟨rfl, nonempty, by simp [relative]⟩]
  case names => exact names_apply legal.distinct accepted

/-- Settings become variables just where the program lacks one.  Whatever settings of the same names
are applied after them, from whatever directory, change nothing more. -/
theorem settings_fill_gaps {base : CleanPath} (basePlain : base.IsNulFree)
    {settings : List (String × String)} (legal : IsLegal settings) (environment : Environment) :
    environment.IsFilledBy base settings (environment.apply base settings) ∧
      ∀ otherBase others, KeyedList.names others ⊆ KeyedList.names settings →
        let filled := (environment.apply base settings).environment
        (filled.apply otherBase others).environment = filled ∧
          (filled.apply otherBase others).names = [] ∧
            (filled.apply otherBase others).failure? = none := by
  have filledBy : environment.IsFilledBy base settings (environment.apply base settings) :=
    legal.isFilledBy basePlain
  refine ⟨filledBy, fun otherBase others among => ?_⟩
  refine apply_filled fun name member own => ?_
  rw [get?_apply own filledBy.accepted]
  intro unset
  obtain ⟨-, unstated⟩ := Option.or_eq_none_iff.mp unset
  exact KeyedList.get?_eq_none.mp (Option.map_eq_none_iff.mp unstated) (among member)

/-- A shop's settings with a path, a variable of another program, one that is set already and one
without a value. -/
def shopSettings : List (String × String) :=
  [("ASSET_TOOL_CONFIG", "tools//audit.json"), ("PATH", "/bin"), ("ASSET_TOOL_WORKERS", "4"),
    ("ASSET_TOOL_HUE", "")]

theorem shopSettings_fill_gaps :
    let before : Environment := [("ASSET_TOOL_WORKERS", ""), ("HOME", "/shop")]
    let applied := before.apply (.ofText "/shop/src") shopSettings
    KeyedList.get? applied.environment "ASSET_TOOL_CONFIG" = some "/shop/src/tools/audit.json" ∧
      KeyedList.get? applied.environment "ASSET_TOOL_WORKERS" = some "" ∧
      KeyedList.get? applied.environment "PATH" = none ∧
      applied.names = ["ASSET_TOOL_CONFIG", "ASSET_TOOL_HUE"] ∧
      (applied.environment.apply (.ofText "/") [("ASSET_TOOL_HUE", "red")]).environment =
        applied.environment := by
  intro before applied
  have legal : IsLegal shopSettings := by
    constructor <;> decide
  have plain : (CleanPath.ofText "/shop/src").IsNulFree := by
    constructor <;> decide
  obtain ⟨filledBy, again⟩ := settings_fill_gaps plain legal before
  have path := filledBy.joined "tools//audit.json" (by decide) (by decide) (by decide) (by decide)
  refine ⟨path.trans (by decide), filledBy.kept _ _ (by decide), ?_, ?_, ?_⟩
  · rw [filledBy.aside "PATH" (Or.inr (by decide))]
    decide
  · rw [filledBy.names]
    decide
  · exact (again (.ofText "/") [("ASSET_TOOL_HUE", "red")] (by decide)).1

end Environment

end AssetAudit
