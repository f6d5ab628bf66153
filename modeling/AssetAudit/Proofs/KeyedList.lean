import AssetAudit.KeyedList
import AssetAudit.Proofs.FirstAppearance

namespace AssetAudit.KeyedList

/-! Names in a keyed list.  Putting a value adds its name if it is new, and never makes one appear
twice. -/

variable {entries : List (String × α)} {name : String} {value : α}

theorem mem_names_put {known : String} :
    known ∈ names (put entries name value) ↔ known ∈ names entries ∨ known = name := by
  induction entries with
  | nil => simp [put, names]
  | cons entry rest ih =>
      by_cases same : entry.1 = name
      · simp only [put, if_pos same, names, List.map_cons, List.mem_cons]
        constructor
        · exact Or.inl
        · intro found
          rcases found with old | rfl
          · exact old
          · exact Or.inl same.symm
      · have further := ih
        simp only [names] at further
        simp only [put, if_neg same, names, List.map_cons, List.mem_cons, further, or_assoc]

theorem nodup_names_put (distinct : (names entries).Nodup) (name : String) (value : α) :
    (names (put entries name value)).Nodup := by
  induction entries with
  | nil => simp [put, names]
  | cons entry rest ih =>
      obtain ⟨fresh, restDistinct⟩ := List.nodup_cons.mp distinct
      by_cases same : entry.1 = name
      · simpa [put, same, names] using distinct
      · rw [put, if_neg same]
        refine List.nodup_cons.mpr ⟨fun known => ?_, ih restDistinct⟩
        rcases mem_names_put.mp known with old | new
        · exact fresh old
        · exact same new

theorem mem_names_ofList {entries : List (String × α)} :
    name ∈ names (ofList entries) ↔ name ∈ names entries := by
  suffices grown : ∀ before : List (String × α),
      name ∈ names (entries.foldl (fun before entry => put before entry.1 entry.2) before) ↔
        name ∈ names before ∨ name ∈ names entries
    from (grown []).trans (by simp [names])
  induction entries with
  | nil => simp [names]
  | cons entry rest ih =>
      intro before
      rw [List.foldl_cons, ih, mem_names_put, or_assoc]
      simp [names]

theorem mem_of_get? (found : get? entries name = some value) : (name, value) ∈ entries := by
  induction entries with
  | nil => cases found
  | cons entry rest ih =>
      obtain ⟨known, old⟩ := entry
      by_cases same : known = name
      · simp only [get?, if_pos same, Option.some.injEq] at found
        simp [same, found]
      · rw [get?, if_neg same] at found
        exact List.mem_cons_of_mem _ (ih found)

theorem get?_eq_none : get? entries name = none ↔ name ∉ names entries := by
  induction entries with
  | nil => simp [get?, names]
  | cons entry rest ih =>
      by_cases same : entry.1 = name
      · simp [get?, same, names]
      · rw [get?, if_neg same, ih]
        simp [names, Ne.symm same]

theorem get?_of_mem (distinct : (names entries).Nodup) {entry : String × α}
    (listed : entry ∈ entries) : get? entries entry.1 = some entry.2 := by
  induction entries with
  | nil => cases listed
  | cons other rest ih =>
      obtain ⟨fresh, restDistinct⟩ := List.nodup_cons.mp distinct
      rcases List.mem_cons.mp listed with rfl | later
      · rw [get?, if_pos rfl]
      · have different : other.1 ≠ entry.1 := fun same =>
          fresh (List.mem_map.mpr ⟨entry, later, same.symm⟩)
        rw [get?, if_neg different, ih restDistinct later]

theorem contains_eq_false : contains entries name = false ↔ get? entries name = none := by
  rw [contains, Option.isSome_eq_false_iff, Option.isNone_iff_eq_none]

theorem get?_append (entries more : List (String × α)) (name : String) :
    get? (entries ++ more) name = (get? entries name).or (get? more name) := by
  induction entries with
  | nil => rfl
  | cons entry rest ih =>
      rw [List.cons_append, get?, get?, ih]
      split <;> rfl

theorem put_ne_nil (entries : List (String × α)) (name : String) (value : α) :
    put entries name value ≠ [] := by
  cases entries with
  | nil => exact List.cons_ne_nil _ _
  | cons entry rest =>
      rw [put]
      split <;> exact List.cons_ne_nil _ _

theorem put_of_get? (found : get? entries name = some value) : put entries name value = entries := by
  induction entries with
  | nil => cases found
  | cons entry rest ih =>
      obtain ⟨known, old⟩ := entry
      by_cases same : known = name
      · rw [get?, if_pos same] at found
        rw [put, if_pos same, Option.some.inj found]
      · rw [get?, if_neg same] at found
        rw [put, if_neg same, ih found]

theorem names_cons (entry : String × α) (rest : List (String × α)) :
    names (entry :: rest) = entry.1 :: names rest := rfl

theorem names_put (entries : List (String × α)) (name : String) (value : α) :
    names (put entries name value) =
      if name ∈ names entries then names entries else names entries ++ [name] := by
  induction entries with
  | nil => rfl
  | cons entry rest ih =>
      obtain ⟨known, old⟩ := entry
      by_cases same : known = name
      · simp [put, same, names]
      · rw [put, if_neg same, names_cons, names_cons, ih]
        by_cases present : name ∈ names rest
        · rw [if_pos present, if_pos (List.mem_cons_of_mem known present)]
        · rw [if_neg present, if_neg (List.not_mem_cons_of_ne_of_not_mem (Ne.symm same) present),
            List.cons_append]

theorem ofList_concat (entries : List (String × α)) (entry : String × α) :
    ofList (entries ++ [entry]) = put (ofList entries) entry.1 entry.2 := by
  rw [ofList, List.foldl_append]
  rfl

theorem names_ofList (entries : List (String × α)) :
    names (ofList entries) = (names entries).eraseDups := by
  induction entries using List.reverseRecOn with
  | nil => rfl
  | append_singleton entries entry ih =>
      have known : entry.1 ∈ names (ofList entries) ↔ entry.1 ∈ names entries := mem_names_ofList
      have last : names (entries ++ [entry]) = names entries ++ [entry.1] := List.map_append
      rw [ofList_concat, names_put, last, eraseDups_concat, ih]
      simp only [← ih, known]

/-- The last value of a name counts. -/
theorem get?_ofList (entries : List (String × α)) (name : String) :
    get? (ofList entries) name = get? entries.reverse name := by
  induction entries using List.reverseRecOn with
  | nil => rfl
  | append_singleton entries entry ih =>
      rw [ofList_concat, List.reverse_append, List.reverse_singleton, List.singleton_append]
      by_cases same : entry.1 = name
      · rw [← same, get?_put_same, get?, if_pos rfl]
      · rw [get?_put_other _ _ (Ne.symm same), ih, get?, if_neg same]

/-- Where no name comes twice, the order does not count. -/
theorem get?_reverse (distinct : (names entries).Nodup) (name : String) :
    get? entries.reverse name = get? entries name := by
  induction entries with
  | nil => rfl
  | cons entry rest ih =>
      obtain ⟨known, value⟩ := entry
      obtain ⟨fresh, restDistinct⟩ := List.nodup_cons.mp distinct
      rw [List.reverse_cons, get?_append, ih restDistinct]
      by_cases same : known = name
      · subst same
        rw [get?_eq_none.mpr fresh, Option.none_or]
        simp only [get?, if_true]
      · simp only [get?, if_neg same, Option.or_none]

theorem nodup_names_ofList (entries : List (String × α)) : (names (ofList entries)).Nodup :=
  names_ofList entries ▸ nodup_eraseDups _

theorem mem_of_mem_ofList {entry : String × α} (listed : entry ∈ ofList entries) :
    entry ∈ entries := by
  have found := get?_of_mem (nodup_names_ofList entries) listed
  rw [get?_ofList] at found
  exact List.mem_reverse.mp (mem_of_get? found)

/-- The second list overrides the first. -/
theorem get?_ofList_append {first second : List (String × α)} (firstDistinct : (names first).Nodup)
    (secondDistinct : (names second).Nodup) (name : String) :
    get? (ofList (first ++ second)) name = (get? second name).or (get? first name) := by
  rw [get?_ofList, List.reverse_append, get?_append, get?_reverse firstDistinct,
    get?_reverse secondDistinct]

end AssetAudit.KeyedList
