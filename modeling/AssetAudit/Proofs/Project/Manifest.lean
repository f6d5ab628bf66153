import AssetAudit.Project.Manifest
import Mathlib.Data.List.Induction

namespace AssetAudit.Manifest

/-! What a manifest says of a file.  The last well-formed record of the file counts, whatever stands
around it. -/

/-- A statement of a scale in a record, or the lack of one, and the scale that it means. -/
inductive StatesScale : Option Json.Value → Int → Prop
  | unstated : StatesScale none 1
  | single {text : String} (written : Text.strip text.toList = ['1', 'x']) :
      StatesScale (some (.string text)) 1
  | double {text : String} (written : Text.strip text.toList = ['2', 'x']) :
      StatesScale (some (.string text)) 2
  | triple {text : String} (written : Text.strip text.toList = ['3', 'x']) :
      StatesScale (some (.string text)) 3

/-- A well-formed record of a file. -/
structure Gives (record : Json.Value) (fileName : String) (scale : Int) : Prop where
  named : record.member? "filename" = some (.string fileName)
  nonempty : fileName ≠ ""
  scaled : StatesScale (record.member? "scale") scale

/-- The last well-formed record of a file gives it this scale. -/
def LastGives (records : List Json.Value) (fileName : String) (scale : Int) : Prop :=
  ∃ before record after, records = before ++ record :: after ∧ Gives record fileName scale ∧
    ∀ later ∈ after, ∀ other, ¬ Gives later fileName other

/-- The manifest in a directory can be read and has these records. -/
def Lists (workspace : Workspace) (directory : String) (records : List Json.Value) : Prop :=
  ∃ text value, workspace.readText (joinPaths directory fileName) = .ok text ∧
    Json.read text = .ok value ∧ value.member? "images" = some (.array records)

theorem StatesScale.bounds {stated : Option Json.Value} {scale : Int}
    (states : StatesScale stated scale) : scale = 1 ∨ scale = 2 ∨ scale = 3 := by
  cases states <;> simp

theorem scaleOf?_eq_some {text : String} {scale : Int} :
    scaleOf? text = some scale ↔ StatesScale (some (.string text)) scale := by
  constructor
  · intro read
    unfold scaleOf? at read
    split at read
    · rename_i written
      exact Option.some.inj read ▸ .single written
    · rename_i written
      exact Option.some.inj read ▸ .double written
    · rename_i written
      exact Option.some.inj read ▸ .triple written
    · cases read
  · intro states
    unfold scaleOf?
    cases states with
    | single written =>
        rw [written]
        rfl
    | double written =>
        rw [written]
        rfl
    | triple written =>
        rw [written]
        rfl

theorem recordScale?_eq_some {record : Json.Value} {scale : Int} :
    recordScale? record = some scale ↔ StatesScale (record.member? "scale") scale := by
  unfold recordScale?
  cases record.member? "scale" with
  | none =>
      constructor
      · intro read
        exact Option.some.inj read ▸ .unstated
      · intro states
        cases states
        rfl
  | some stated =>
      cases stated with
      | string text => exact scaleOf?_eq_some
      | _ =>
          constructor
          · intro read
            cases read
          · intro states
            cases states

theorem record?_eq_some {record : Json.Value} {fileName : String} {scale : Int} :
    record? record = some (fileName, scale) ↔ Gives record fileName scale := by
  constructor
  · intro read
    obtain ⟨named, found, rest⟩ := Option.bind_eq_some_iff.mp read
    obtain ⟨name, text, guarded⟩ := Option.bind_eq_some_iff.mp rest
    obtain ⟨_, nonempty, scaled⟩ := Option.bind_eq_some_iff.mp guarded
    obtain ⟨other, stated, same⟩ := Option.bind_eq_some_iff.mp scaled
    obtain ⟨rfl, rfl⟩ := Prod.mk.inj (Option.some.inj same)
    cases named with
    | string written =>
        obtain rfl := Option.some.inj text
        refine ⟨found, ?_, recordScale?_eq_some.mp stated⟩
        rintro rfl
        cases nonempty
    | _ => cases text
  · intro gives
    simp [record?, gives.named, Json.Value.string?, guard, gives.nonempty,
      recordScale?_eq_some.mpr gives.scaled]

theorem ofRecords_concat (records : List Json.Value) (record : Json.Value) :
    ofRecords (records ++ [record]) =
      match record? record with
      | none => ofRecords records
      | some (fileName, scale) => KeyedList.put (ofRecords records) fileName scale := by
  unfold ofRecords KeyedList.ofList
  rw [List.filterMap_append, List.foldl_append]
  cases read : record? record with
  | none => simp [read]
  | some entry => simp [read]

theorem not_lastGives_nil {fileName : String} {scale : Int} : ¬ LastGives [] fileName scale := by
  rintro ⟨before, record, after, same, _⟩
  simp at same

theorem lastGives_concat {records : List Json.Value} {record : Json.Value} {fileName : String}
    {scale : Int} :
    LastGives (records ++ [record]) fileName scale ↔
      Gives record fileName scale ∨
        (∀ other, ¬ Gives record fileName other) ∧ LastGives records fileName scale := by
  constructor
  · intro last
    obtain ⟨before, giver, after, same, gives, alone⟩ := last
    rcases List.eq_nil_or_concat after with rfl | ⟨between, final, rfl⟩
    · obtain ⟨_, equal⟩ := List.append_inj' same rfl
      exact Or.inl ((List.cons.inj equal).1 ▸ gives)
    · rw [List.concat_eq_append] at same alone
      rw [← List.cons_append, ← List.append_assoc] at same
      obtain ⟨rfl, equal⟩ := List.append_inj' same rfl
      have silent := alone final (by simp)
      rw [← (List.cons.inj equal).1] at silent
      exact Or.inr ⟨silent, before, giver, between, rfl, gives, fun later member =>
        alone later (List.mem_append_left _ member)⟩
  · intro found
    rcases found with gives | ⟨silent, before, giver, after, rfl, gives, alone⟩
    · exact ⟨records, record, [], rfl, gives, by simp⟩
    · refine ⟨before, giver, after ++ [record], by simp, gives, ?_⟩
      intro later member other
      rcases List.mem_append.mp member with among | final
      · exact alone later among other
      · exact List.mem_singleton.mp final ▸ silent other

/-- The scale of a file is that of its last well-formed record. -/
theorem get?_ofRecords {records : List Json.Value} {fileName : String} {scale : Int} :
    KeyedList.get? (ofRecords records) fileName = some scale ↔
      LastGives records fileName scale := by
  -- from the end: the last record either gives the scale or leaves it to those before it
  induction records using List.reverseRecOn with
  | nil =>
      constructor
      · intro found
        cases found
      · intro last
        exact (not_lastGives_nil last).elim
  | append_singleton records record ih =>
      rw [lastGives_concat, ofRecords_concat, ← ih]
      cases read : record? record with
      | none =>
          have silent : ∀ other, ¬ Gives record fileName other := by
            intro other gives
            rw [record?_eq_some.mpr gives] at read
            cases read
          simp [silent]
      | some entry =>
          obtain ⟨name, given⟩ := entry
          have gives := record?_eq_some.mp read
          by_cases same : fileName = name
          · subst same
            simp only [KeyedList.get?_put_same, Option.some.injEq]
            constructor
            · rintro rfl
              exact Or.inl gives
            · intro found
              rcases found with other | ⟨silent, _⟩
              · rw [record?_eq_some.mpr other] at read
                exact (Prod.mk.inj (Option.some.inj read)).2.symm
              · exact (silent given gives).elim
          · have silent : ∀ other, ¬ Gives record fileName other := by
              intro other stated
              rw [record?_eq_some.mpr stated] at read
              exact same (Prod.mk.inj (Option.some.inj read)).1
            simp [KeyedList.get?_put_other _ _ same, silent]

theorem read_eq_ok {workspace : Workspace} {directory : String} {scales : Manifest} :
    read workspace directory = .ok scales ↔
      ∃ records, Lists workspace directory records ∧ scales = ofRecords records := by
  unfold read
  constructor
  · intro found
    split at found
    · cases found
    · rename_i text content
      split at found
      · cases found
      · rename_i value parsed
        unfold ofValue at found
        split at found
        · rename_i records images
          obtain ⟨listed, member, array⟩ := Option.bind_eq_some_iff.mp images
          cases listed with
          | array items =>
              obtain rfl := Option.some.inj array
              exact ⟨items, ⟨text, value, content, parsed, member⟩, (Except.ok.inj found).symm⟩
          | _ => cases array
        · cases found
  · rintro ⟨records, ⟨text, value, content, parsed, member⟩, rfl⟩
    simp only [content, parsed, ofValue, member, Option.bind_some, Json.Value.array?]

end AssetAudit.Manifest
