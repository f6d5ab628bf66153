import AssetAudit.Json.Reader
import AssetAudit.Proofs.KeyedList
import AssetAudit.Proofs.Outcome

namespace AssetAudit.Json

/-! Objects that are read have no name twice: a later member takes the place of an earlier one. -/

theorem readMembers_distinct {fuel : Nat} {before members : List (String × Value)}
    {text behind : List Char} (distinct : (KeyedList.names before).Nodup)
    (read : readMembers fuel before text = .ok (members, behind)) :
    (KeyedList.names members).Nodup := by
  -- the members before are the ones read so far, so they change from step to step
  induction fuel generalizing before text with
  | zero =>
      rw [readMembers] at read
      cases read
  | succ fuel ih =>
      unfold readMembers at read
      split at read
      · cases read
      · rename_i left rest same
        obtain rfl := Nat.succ.inj same
        obtain ⟨⟨name, afterName⟩, nameRead, read⟩ := bind_eq_ok.mp read
        simp only at read
        split at read
        · obtain ⟨⟨value, afterValue⟩, valueRead, read⟩ := bind_eq_ok.mp read
          have grown := KeyedList.nodup_names_put distinct (String.ofList name) value
          simp only at read
          split at read
          · obtain ⟨rfl, rfl⟩ := Prod.mk.inj (Except.ok.inj read)
            exact grown
          · exact ih grown read
          · cases read
        · cases read
      · cases read

theorem readNumber_ne_object {members : List (String × Value)} {text behind : List Char} :
    readNumber text ≠ .ok (.object members, behind) := by
  intro read
  unfold readNumber at read
  simp only at read
  split at read
  · cases read
  · split at read
    · split at read
      · cases read
      · cases read
    · cases read

theorem readKeyword?_ne_object {members : List (String × Value)} {text behind : List Char} :
    readKeyword? text ≠ some (.object members, behind) := by
  intro found
  obtain ⟨⟨word, value⟩, among, same⟩ := Option.map_eq_some_iff.mp found
  have listed := List.mem_of_find?_eq_some among
  obtain ⟨rfl, -⟩ := Prod.mk.inj same
  simp [keywords] at listed

theorem readValue_distinct {fuel : Nat} {members : List (String × Value)} {text behind : List Char}
    (read : readValue fuel text = .ok (.object members, behind)) :
    (KeyedList.names members).Nodup := by
  unfold readValue at read
  split at read
  · cases read
  · obtain ⟨⟨chars, rest⟩, stringRead, read⟩ := bind_eq_ok.mp read
    cases read
  · split at read
    · cases read
      exact List.nodup_nil
    · obtain ⟨⟨found, rest⟩, membersRead, read⟩ := bind_eq_ok.mp read
      cases read
      have empty : (KeyedList.names ([] : List (String × Value))).Nodup := List.nodup_nil
      exact readMembers_distinct empty membersRead
  · split at read
    · cases read
    · obtain ⟨⟨items, rest⟩, itemsRead, read⟩ := bind_eq_ok.mp read
      cases read
  · split at read
    · rename_i found
      obtain rfl := Except.ok.inj read
      exact absurd found readKeyword?_ne_object
    · exact absurd read readNumber_ne_object

theorem read_distinct {text : List Char} {members : List (String × Value)}
    (read : read text = .ok (.object members)) : (KeyedList.names members).Nodup := by
  have textRead := mapError_eq_ok.mp read
  unfold readText at textRead
  split at textRead
  · cases textRead
  · obtain ⟨⟨value, behind⟩, valueRead, textRead⟩ := bind_eq_ok.mp textRead
    simp only at textRead
    split at textRead
    · cases textRead
      exact readValue_distinct valueRead
    · cases textRead

end AssetAudit.Json
