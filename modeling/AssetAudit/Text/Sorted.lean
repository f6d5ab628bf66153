namespace AssetAudit.Text

/-! Texts in ascending order by code point. -/

def sorted (texts : List String) : List String := texts.mergeSort (· ≤ ·)

/-- A text that is equal to the next one is left out. -/
def dropRepeats : List String → List String
  | first :: second :: rest =>
      if first = second then dropRepeats (second :: rest)
      else first :: dropRepeats (second :: rest)
  | texts => texts

/-- The distinct texts in ascending order: the canonical list of a set of texts. -/
def sortedSet (texts : List String) : List String := dropRepeats (sorted texts)

theorem mem_dropRepeats {text : String} {texts : List String} :
    text ∈ dropRepeats texts ↔ text ∈ texts := by
  induction texts with
  | nil => simp [dropRepeats]
  | cons first rest ih =>
      cases rest with
      | nil => simp [dropRepeats]
      | cons second rest =>
          by_cases same : first = second
          · rw [dropRepeats, if_pos same, ih]
            simp [same]
          · rw [dropRepeats, if_neg same, List.mem_cons, ih]
            simp

@[simp] theorem mem_sortedSet {text : String} {texts : List String} :
    text ∈ sortedSet texts ↔ text ∈ texts := by
  rw [sortedSet, mem_dropRepeats, sorted, (List.mergeSort_perm texts (· ≤ ·)).mem_iff]

end AssetAudit.Text
