import AssetAudit.Environment.Settings
import AssetAudit.Proofs.KeyedList

namespace AssetAudit.Environment

/-! What settings make of an environment, variable by variable. -/

variable {base : CleanPath} {environment : Environment} {settings : List (String × String)}
  {name known value : String} {rest : List (String × String)}

/-! One setting is passed over, or refused, or it becomes a variable. -/

theorem apply_foreign (foreign : isOwn known = false) :
    apply base environment ((known, value) :: rest) =
      { apply base environment rest with
        ignored := known :: (apply base environment rest).ignored } := by
  rw [apply, if_pos (by simp [foreign])]

theorem apply_known (own : isOwn known = true) (set : KeyedList.get? environment known ≠ none) :
    apply base environment ((known, value) :: rest) = apply base environment rest := by
  have present : KeyedList.contains environment known = true := Option.isSome_iff_ne_none.mpr set
  rw [apply, if_neg (by simp [own]), if_pos present]

theorem apply_refused {failure : SettingFailure} (own : isOwn known = true)
    (unset : KeyedList.get? environment known = none)
    (refused : SettingFailure.ofSetting? known (valueOf base known value) = some failure) :
    apply base environment ((known, value) :: rest) = ⟨environment, [], [], some failure⟩ := by
  have absent := KeyedList.contains_eq_false.mpr unset
  rw [apply, if_neg (by simp [own]), if_neg (by simp [absent])]
  simp only [refused]

theorem apply_fresh (own : isOwn known = true) (unset : KeyedList.get? environment known = none)
    (legal : SettingFailure.ofSetting? known (valueOf base known value) = none) :
    let later := apply base (KeyedList.put environment known (valueOf base known value)) rest
    apply base environment ((known, value) :: rest) =
      { later with names := known :: later.names } := by
  have absent := KeyedList.contains_eq_false.mpr unset
  rw [apply, if_neg (by simp [own]), if_neg (by simp [absent])]
  simp only [legal]

theorem apply_cons_cases (base : CleanPath) (environment : Environment) (known value : String)
    (rest : List (String × String)) :
    (isOwn known = false ∧ apply base environment ((known, value) :: rest) =
      { apply base environment rest with
        ignored := known :: (apply base environment rest).ignored }) ∨
    (isOwn known = true ∧ KeyedList.get? environment known ≠ none ∧
      apply base environment ((known, value) :: rest) = apply base environment rest) ∨
    (isOwn known = true ∧ KeyedList.get? environment known = none ∧
      ∃ failure, SettingFailure.ofSetting? known (valueOf base known value) = some failure ∧
        apply base environment ((known, value) :: rest) = ⟨environment, [], [], some failure⟩) ∨
    (isOwn known = true ∧ KeyedList.get? environment known = none ∧
      SettingFailure.ofSetting? known (valueOf base known value) = none ∧
        let later := apply base (KeyedList.put environment known (valueOf base known value)) rest
        apply base environment ((known, value) :: rest) =
          { later with names := known :: later.names }) := by
  cases own : isOwn known with
  | false => exact Or.inl ⟨rfl, apply_foreign own⟩
  | true =>
      by_cases unset : KeyedList.get? environment known = none
      · cases legal : SettingFailure.ofSetting? known (valueOf base known value) with
        | some failure =>
            exact Or.inr (Or.inr (Or.inl ⟨rfl, unset, failure, rfl, apply_refused own unset legal⟩))
        | none => exact Or.inr (Or.inr (Or.inr ⟨rfl, unset, rfl, apply_fresh own unset legal⟩))
      · exact Or.inr (Or.inl ⟨rfl, unset, apply_known own unset⟩)

theorem ne_of_foreign (foreign : isOwn known = false) (own : isOwn name = true) :
    known ≠ name := by
  rintro rfl
  rw [own] at foreign
  cases foreign

/-- A variable of the program has the value that it had, or else the one in the settings. -/
theorem get?_apply (own : isOwn name = true)
    (accepted : (apply base environment settings).failure? = none) :
    KeyedList.get? (apply base environment settings).environment name =
      (KeyedList.get? environment name).or
        ((KeyedList.get? settings name).map (valueOf base name)) := by
  -- a setting that becomes a variable stands in the environment of those behind it
  induction settings generalizing environment with
  | nil => simp [apply, KeyedList.get?]
  | cons setting rest ih =>
      obtain ⟨known, value⟩ := setting
      obtain ⟨foreign, passed⟩ | ⟨-, set, passed⟩ | ⟨-, -, failure, -, refused⟩ |
        ⟨-, unset, -, entered⟩ := apply_cons_cases base environment known value rest
      · rw [passed] at accepted ⊢
        rw [KeyedList.get?, if_neg (ne_of_foreign foreign own)]
        exact ih accepted
      · rw [passed] at accepted ⊢
        rw [ih accepted]
        by_cases same : known = name
        · obtain ⟨old, found⟩ := Option.ne_none_iff_exists'.mp (same ▸ set)
          rw [found, Option.some_or, Option.some_or]
        · rw [KeyedList.get?, if_neg same]
      · rw [refused] at accepted
        cases accepted
      · rw [entered] at accepted ⊢
        rw [ih accepted]
        by_cases same : known = name
        · subst same
          rw [KeyedList.get?_put_same, unset, KeyedList.get?, if_pos rfl]
          rfl
        · rw [KeyedList.get?_put_other _ _ (Ne.symm same), KeyedList.get?, if_neg same]

/-- Settings are refused for one of them that would become a variable. -/
theorem apply_fails_iff :
    (apply base environment settings).failure? ≠ none ↔
      ∃ name value, isOwn name = true ∧ KeyedList.get? environment name = none ∧
        KeyedList.get? settings name = some value ∧
          SettingFailure.ofSetting? name (valueOf base name value) ≠ none := by
  induction settings generalizing environment with
  | nil => simp [apply, KeyedList.get?]
  | cons setting rest ih =>
      obtain ⟨known, value⟩ := setting
      obtain ⟨foreign, passed⟩ | ⟨-, set, passed⟩ | ⟨knownOwn, unset, failure, illegal, refused⟩ |
        ⟨-, unset, legal, entered⟩ := apply_cons_cases base environment known value rest
      · rw [passed, ih]
        refine exists_congr fun name => exists_congr fun stated => and_congr_right fun own => ?_
        rw [KeyedList.get?, if_neg (ne_of_foreign foreign own)]
      · rw [passed, ih]
        refine exists_congr fun name => exists_congr fun stated =>
          and_congr_right fun own => and_congr_right fun unsetHere => ?_
        have other : known ≠ name := by
          intro same
          exact set (same ▸ unsetHere)
        rw [KeyedList.get?, if_neg other]
      · rw [refused]
        have stated : KeyedList.get? ((known, value) :: rest) known = some value := if_pos rfl
        have isRefused : SettingFailure.ofSetting? known (valueOf base known value) ≠ none :=
          fun none => Option.some_ne_none failure (illegal.symm.trans none)
        exact iff_of_true (Option.some_ne_none failure)
          ⟨known, value, knownOwn, unset, stated, isRefused⟩
      · rw [entered, ih]
        refine exists_congr fun name => exists_congr fun stated => and_congr_right fun own => ?_
        by_cases same : known = name
        · subst same
          rw [KeyedList.get?_put_same, KeyedList.get?, if_pos rfl]
          refine iff_of_false (fun set => Option.some_ne_none _ set.1) ?_
          intro found
          exact found.2.2 (Option.some.inj found.2.1 ▸ legal)
        · rw [KeyedList.get?_put_other _ _ (Ne.symm same), KeyedList.get?, if_neg same]

end AssetAudit.Environment
