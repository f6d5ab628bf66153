namespace AssetAudit

/-! Steps that may fail: a chain of them succeeds, or fails, for one reason only. -/

variable {made : Except ε α} {next : α → Except ε β} {failure : ε} {wrap : ε → δ}

theorem bind_eq_ok {result : β} :
    (made >>= next) = .ok result ↔ ∃ value, made = .ok value ∧ next value = .ok result := by
  cases made with
  | error failure => simp [bind, Except.bind]
  | ok value => simp [bind, Except.bind]

theorem bind_eq_error :
    (made >>= next) = .error failure ↔
      made = .error failure ∨ ∃ value, made = .ok value ∧ next value = .error failure := by
  cases made with
  | error failure => simp [bind, Except.bind]
  | ok value => simp [bind, Except.bind]

theorem mapError_eq_ok {value : α} : made.mapError wrap = .ok value ↔ made = .ok value := by
  cases made with
  | error failure =>
      constructor <;> intro same <;> cases same
  | ok made =>
      constructor <;> rintro ⟨⟩ <;> rfl

theorem mapError_eq_error {wrapped : δ} :
    made.mapError wrap = .error wrapped ↔
      ∃ failure, made = .error failure ∧ wrap failure = wrapped := by
  cases made with
  | error failure =>
      constructor
      · intro same
        exact ⟨failure, rfl, Except.error.inj same⟩
      · rintro ⟨_, same, rfl⟩
        obtain rfl := Except.error.inj same
        rfl
  | ok value =>
      constructor
      · intro same
        cases same
      · rintro ⟨_, same, _⟩
        cases same

theorem toOption_eq_some {value : α} : made.toOption = some value ↔ made = .ok value := by
  cases made with
  | error failure => simp [Except.toOption]
  | ok value => simp [Except.toOption]

theorem map_some_eq_ok {found? : Option α} :
    made.map some = .ok found? ↔ ∃ found, made = .ok found ∧ found? = some found := by
  cases made with
  | error failure => simp [Except.map]
  | ok found => simp [Except.map, eq_comm]

theorem bind_succeeds (first : ∃ value, made = .ok value)
    (second : ∀ value, ∃ result, next value = .ok result) :
    ∃ result, (made >>= next) = .ok result := by
  obtain ⟨value, made⟩ := first
  obtain ⟨result, ended⟩ := second value
  exact ⟨result, bind_eq_ok.mpr ⟨value, made, ended⟩⟩

theorem return_succeeds {f : α → β} :
    (∃ result, (do return f (← made)) = Except.ok result) ↔ ∃ value, made = .ok value := by
  cases made with
  | error failure => simp [bind, Except.bind]
  | ok value => simp [bind, Except.bind, pure, Except.pure]

section MapM

variable {f : α → Except ε β} {items : List α} {results : List β}

theorem mapM_cons_eq_ok {item : α} :
    (item :: items).mapM f = .ok results ↔
      ∃ first rest, f item = .ok first ∧ items.mapM f = .ok rest ∧ results = first :: rest := by
  rw [List.mapM_cons]
  cases f item with
  | error failure => simp [bind, Except.bind]
  | ok first =>
      cases items.mapM f with
      | error failure => simp [bind, Except.bind]
      | ok rest => simp [bind, Except.bind, pure, Except.pure, eq_comm]

theorem mem_of_mapM (made : items.mapM f = .ok results) {result : β} :
    result ∈ results ↔ ∃ item ∈ items, f item = .ok result := by
  induction items generalizing results with
  | nil =>
      obtain rfl := Except.ok.inj made
      simp
  | cons item items ih =>
      obtain ⟨first, rest, here, later, rfl⟩ := mapM_cons_eq_ok.mp made
      rw [List.mem_cons, ih later]
      constructor
      · intro found
        rcases found with rfl | ⟨other, among, there⟩
        · exact ⟨item, by simp, here⟩
        · exact ⟨other, List.mem_cons_of_mem item among, there⟩
      · intro found
        obtain ⟨other, among, there⟩ := found
        rcases List.mem_cons.mp among with rfl | behind
        · exact Or.inl (Except.ok.inj (there.symm.trans here))
        · exact Or.inr ⟨other, behind, there⟩

theorem ok_of_mapM (made : items.mapM f = .ok results) {item : α} (member : item ∈ items) :
    ∃ result ∈ results, f item = .ok result := by
  induction items generalizing results with
  | nil => cases member
  | cons head items ih =>
      obtain ⟨first, rest, here, later, rfl⟩ := mapM_cons_eq_ok.mp made
      rcases List.mem_cons.mp member with rfl | behind
      · exact ⟨first, by simp, here⟩
      · obtain ⟨result, among, there⟩ := ih later behind
        exact ⟨result, List.mem_cons_of_mem first among, there⟩

theorem pairwise_of_mapM {before : α → α → Prop} {after : β → β → Prop}
    (ordered : items.Pairwise before) (made : items.mapM f = .ok results)
    (transfer : ∀ item ∈ items, ∀ other ∈ items, before item other → ∀ result second,
      f item = .ok result → f other = .ok second → after result second) :
    results.Pairwise after := by
  induction items generalizing results with
  | nil =>
      obtain rfl := Except.ok.inj made
      exact List.Pairwise.nil
  | cons item items ih =>
      obtain ⟨first, rest, here, later, rfl⟩ := mapM_cons_eq_ok.mp made
      obtain ⟨ahead, restOrdered⟩ := List.pairwise_cons.mp ordered
      refine List.pairwise_cons.mpr ⟨fun second member => ?_, ih restOrdered later ?_⟩
      · obtain ⟨other, among, there⟩ := (mem_of_mapM later).mp member
        exact transfer item (by simp) other (List.mem_cons_of_mem item among) (ahead other among)
          first second here there
      · intro one among other alsoAmong
        exact transfer one (List.mem_cons_of_mem item among) other
          (List.mem_cons_of_mem item alsoAmong)

theorem mapM_succeeds (each : ∀ item ∈ items, ∃ result, f item = .ok result) :
    ∃ results, items.mapM f = .ok results := by
  induction items with
  | nil => exact ⟨[], rfl⟩
  | cons item rest ih =>
      rw [List.mapM_cons]
      refine bind_succeeds (each item (by simp)) fun first => ?_
      exact bind_succeeds (ih fun other later => each other (List.mem_cons_of_mem item later))
        fun others => ⟨first :: others, rfl⟩

theorem mapM_eq_ok_map {g : α → β} (given : ∀ item result, f item = .ok result → result = g item)
    (made : items.mapM f = .ok results) : results = items.map g := by
  induction items generalizing results with
  | nil =>
      obtain rfl := Except.ok.inj made
      rfl
  | cons item items ih =>
      obtain ⟨first, rest, here, later, rfl⟩ := mapM_cons_eq_ok.mp made
      rw [List.map_cons, ← given item first here, ← ih later]

/-- The steps up to the first failure are made, and those behind it are not. -/
theorem mapM_eq_error :
    items.mapM f = .error failure ↔
      ∃ before item after, items = before ++ item :: after ∧
        (∀ other ∈ before, ∃ result, f other = .ok result) ∧ f item = .error failure := by
  induction items with
  | nil => simp [pure, Except.pure]
  | cons first rest ih =>
      rw [List.mapM_cons, bind_eq_error]
      constructor
      · intro failed
        rcases failed with here | ⟨result, here, later⟩
        · exact ⟨[], first, rest, rfl, by simp, here⟩
        · rcases bind_eq_error.mp later with there | ⟨results, _, made⟩
          · obtain ⟨before, item, after, rfl, passed, failed⟩ := ih.mp there
            exact ⟨first :: before, item, after, rfl,
              List.forall_mem_cons.mpr ⟨⟨result, here⟩, passed⟩, failed⟩
          · cases made
      · intro found
        obtain ⟨before, item, after, cut, passed, failed⟩ := found
        cases before with
        | nil =>
            obtain ⟨rfl, rfl⟩ := List.cons.inj cut
            exact Or.inl failed
        | cons head before =>
            obtain ⟨rfl, rfl⟩ := List.cons.inj cut
            obtain ⟨⟨result, here⟩, passed⟩ := List.forall_mem_cons.mp passed
            have there := ih.mpr ⟨before, item, after, rfl, passed, failed⟩
            exact Or.inr ⟨result, here, bind_eq_error.mpr (Or.inl there)⟩

end MapM

/-- The step does not succeed. -/
def Fails (made : Except ε α) : Prop := ∃ failure, made = .error failure

theorem not_fails_iff : ¬ Fails made ↔ ∃ value, made = .ok value := by
  cases made with
  | error failure => simp [Fails]
  | ok value => simp [Fails]

theorem fails_bind :
    Fails (made >>= next) ↔ Fails made ∨ ∃ value, made = .ok value ∧ Fails (next value) := by
  cases made with
  | error failure => simp [Fails, bind, Except.bind]
  | ok value => simp [Fails, bind, Except.bind]

theorem fails_bind_pure {change : α → β} :
    Fails (do return change (← made)) ↔ Fails made := by
  cases made with
  | error failure => simp [Fails, bind, Except.bind]
  | ok value => simp [Fails, bind, Except.bind, pure, Except.pure]

theorem fails_both {second : Except ε β} {combine : α → β → γ} :
    Fails (do return combine (← made) (← second)) ↔ Fails made ∨ Fails second := by
  cases made with
  | error failure => simp [Fails, bind, Except.bind]
  | ok value =>
      cases second with
      | error failure => simp [Fails, bind, Except.bind]
      | ok other => simp [Fails, bind, Except.bind, pure, Except.pure]

theorem fails_map {change : α → β} : Fails (made.map change) ↔ Fails made := by
  cases made with
  | error failure => simp [Fails, Except.map]
  | ok value => simp [Fails, Except.map]

theorem fails_mapM {items : List α} :
    Fails (items.mapM next) ↔ ∃ item ∈ items, Fails (next item) := by
  induction items with
  | nil => simp [Fails, pure, Except.pure]
  | cons item rest ih =>
      rw [List.mapM_cons, fails_bind]
      simp only [fails_bind, ih, List.mem_cons, exists_eq_or_imp]
      cases next item with
      | error failure => simp [Fails]
      | ok first => simp [Fails, pure, Except.pure]

end AssetAudit
