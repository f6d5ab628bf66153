namespace AssetAudit.Text

/-- Is `code` in one of the closed ranges?  The ranges ascend. -/
def inRanges (code : Nat) : List (Nat × Nat) → Bool
  | [] => false
  | (first, last) :: rest =>
      if code < first then false else code ≤ last || inRanges code rest

end AssetAudit.Text
