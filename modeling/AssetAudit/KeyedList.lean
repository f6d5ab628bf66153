namespace AssetAudit.KeyedList

/-! Lists of named values, in the order in which the names first appeared. -/

/-- Puts a value under a name: in the place of the old one, or at the end. -/
def put (entries : List (String × α)) (name : String) (value : α) : List (String × α) :=
  match entries with
  | [] => [(name, value)]
  | (known, old) :: rest =>
      if known = name then (known, value) :: rest else (known, old) :: put rest name value

/-- The value under a name. -/
def get? (entries : List (String × α)) (name : String) : Option α :=
  match entries with
  | [] => none
  | (known, value) :: rest => if known = name then some value else get? rest name

def contains (entries : List (String × α)) (name : String) : Bool := (get? entries name).isSome

def names (entries : List (String × α)) : List String := entries.map (·.1)

/-- The list that arises when the values are put one after the other. -/
def ofList (entries : List (String × α)) : List (String × α) :=
  entries.foldl (fun entries (name, value) => put entries name value) []

theorem get?_put_same (entries : List (String × α)) (name : String) (value : α) :
    get? (put entries name value) name = some value := by
  induction entries with
  | nil => simp [put, get?]
  | cons entry rest ih =>
      obtain ⟨known, old⟩ := entry
      by_cases same : known = name
      · simp [put, get?, same]
      · simp [put, get?, same, ih]

theorem get?_put_other (entries : List (String × α)) {name other : String} (value : α)
    (different : other ≠ name) : get? (put entries name value) other = get? entries other := by
  induction entries with
  | nil => simp [put, get?, Ne.symm different]
  | cons entry rest ih =>
      obtain ⟨known, old⟩ := entry
      by_cases same : known = name
      · subst same
        simp [put, get?, Ne.symm different]
      · simp [put, get?, same, ih]

end AssetAudit.KeyedList
