import AssetAudit.Files.TextFile
import AssetAudit.Proofs.Files.Proper
import AssetAudit.Proofs.Outcome

namespace AssetAudit

/-! What the file at the end of a path holds, and what keeps it from being read. -/

section Content

variable {tree : FileTree} {directory : Location} {path : String}

theorem isFile_iff {location : Location} :
    tree.isFile location = true ↔ ∃ bytes, tree.entry? location = some (.file bytes) := by
  unfold FileTree.isFile
  split
  · rename_i bytes found
    exact iff_of_true rfl ⟨bytes, found⟩
  · rename_i notFile
    refine iff_of_false Bool.false_ne_true ?_
    rintro ⟨bytes, found⟩
    exact notFile bytes found

theorem content_eq_ok {bytes : List UInt8} :
    tree.content directory path = .ok bytes ↔
      ∃ location, tree.locate directory path = .ok location ∧
        tree.entry? location = some (.file bytes) := by
  unfold FileTree.content
  rw [bind_eq_ok]
  refine exists_congr fun location => and_congr_right fun located => ?_
  split
  · rename_i absent
    simp [absent, throw, throwThe, MonadExceptOf.throw]
  · rename_i found
    simp [found, throw, throwThe, MonadExceptOf.throw]
  · rename_i bytes' found
    simp [found, pure, Except.pure]

theorem content_eq_error {failure : AccessFailure} :
    tree.content directory path = .error failure ↔
      tree.locate directory path = .error failure ∨
        ∃ location, tree.locate directory path = .ok location ∧
          (tree.entry? location = none ∧ failure = .notFound ∨
            tree.entry? location = some .directory ∧ failure = .isADirectory) := by
  unfold FileTree.content
  rw [bind_eq_error]
  refine or_congr_right (exists_congr fun location => and_congr_right fun located => ?_)
  split
  · rename_i absent
    simp [absent, throw, throwThe, MonadExceptOf.throw, eq_comm]
  · rename_i found
    simp [found, throw, throwThe, MonadExceptOf.throw, eq_comm]
  · rename_i bytes found
    simp [found, pure, Except.pure]

theorem step_ne_embeddedNul (here : Location) (part : String) :
    tree.step here part ≠ .error .embeddedNul := by
  unfold FileTree.step
  split
  · exact fun same => by cases same
  · exact fun same => by cases same
  · split
    · exact fun same => by cases same
    · exact fun same => by cases same

theorem foldlM_step_ne_embeddedNul (here : Location) (parts : List String) :
    parts.foldlM tree.step here ≠ .error .embeddedNul := by
  induction parts generalizing here with
  | nil => exact fun same => by cases same
  | cons part rest ih =>
      intro failed
      rw [List.foldlM_cons] at failed
      rcases bind_eq_error.mp failed with first | ⟨there, -, later⟩
      · exact step_ne_embeddedNul here part first
      · exact ih there later

/-- Only a null character in a path makes it unusable as such. -/
theorem content_ne_embeddedNul (nulFree : '\x00' ∉ path.toList) :
    tree.content directory path ≠ .error .embeddedNul := by
  intro failed
  rcases content_eq_error.mp failed with unlocated | ⟨location, -, ⟨-, same⟩ | ⟨-, same⟩⟩
  · unfold FileTree.locate at unlocated
    rw [if_neg (by simpa using nulFree)] at unlocated
    split at unlocated
    · cases unlocated
    · split at unlocated
      · cases unlocated
      · exact foldlM_step_ne_embeddedNul _ _ unlocated
  · cases same
  · cases same

/-- What is read from a file is in the tree. -/
theorem mem_entries_of_content {bytes : List UInt8}
    (read : tree.content directory path = .ok bytes) :
    ∃ place, (place, Entry.file bytes) ∈ tree.entries := by
  obtain ⟨location, -, found⟩ := content_eq_ok.mp read
  have listed : ¬ (location = [] ∨ location.getLast? = some "") := by
    intro top
    rw [FileTree.entry?, if_pos (by simpa using top)] at found
    cases found
  obtain ⟨nonempty, last⟩ := not_or.mp listed
  exact ⟨location, FileTree.mem_entries_of_found nonempty last found⟩

end Content

variable {workspace : Workspace} {path : String}

theorem readText_eq_ok {text : List Char} :
    workspace.readText path = .ok text ↔
      ∃ bytes, workspace.files.content workspace.directory path = .ok bytes ∧
        decodeText bytes = .ok text := by
  unfold Workspace.readText
  split
  · rename_i failed
    simp [failed]
  · rename_i read
    simp [read]

theorem readText_eq_decoding {error : Text.Utf8.DecodeError} :
    workspace.readText path = .error (.decoding error) ↔
      ∃ bytes, workspace.files.content workspace.directory path = .ok bytes ∧
        decodeText bytes = .error (.decoding error) := by
  unfold Workspace.readText
  split
  · rename_i failed
    simp [failed]
  · rename_i read
    simp [read]

theorem readText_of_content {bytes : List UInt8}
    (read : workspace.files.content workspace.directory path = .ok bytes) :
    workspace.readText path = decodeText bytes := by
  unfold Workspace.readText
  rw [read]

theorem decodeText_eq_error {bytes : List UInt8} {failure : TextFailure}
    (failed : decodeText bytes = .error failure) : ∃ error, failure = .decoding error := by
  unfold decodeText at failed
  split at failed
  · cases failed
  · rename_i error _
    exact ⟨error, (Except.error.inj failed).symm⟩

theorem Text.Utf8.decodeFrom_ascii {bytes : List UInt8} (ascii : ∀ byte ∈ bytes, byte < 0x80)
    (offset : Nat) :
    decodeFrom offset none bytes = .ok (bytes.map fun byte => Char.ofNat byte.toNat) := by
  induction bytes generalizing offset with
  | nil => rfl
  | cons byte rest ih =>
      rw [decodeFrom, if_pos (ascii byte (by simp)),
        ih fun other later => ascii other (List.mem_cons_of_mem byte later)]
      rfl

theorem Text.normalizeNewlines_eq_self {text : List Char} (plain : '\r' ∉ text) :
    normalizeNewlines text = text := by
  fun_induction normalizeNewlines text with
  | case1 => rfl
  | case2 rest ih => simp at plain
  | case3 c rest notPair ih =>
      rw [List.mem_cons, not_or] at plain
      obtain ⟨differs, later⟩ := plain
      rw [ih later, if_neg (Ne.symm differs)]

theorem decodeText_ascii {bytes : List UInt8} (ascii : ∀ byte ∈ bytes, byte < 0x80)
    (plain : '\r' ∉ bytes.map fun byte => Char.ofNat byte.toNat) :
    decodeText bytes = .ok (bytes.map fun byte => Char.ofNat byte.toNat) := by
  rw [decodeText, Text.Utf8.decode, Text.Utf8.decodeFrom_ascii ascii]
  simp only [Text.normalizeNewlines_eq_self plain]

/-- A text that cannot be read is none, or it is not there. -/
theorem readText_eq_access {failure : AccessFailure} :
    workspace.readText path = .error (.access failure) ↔
      workspace.files.content workspace.directory path = .error failure := by
  unfold Workspace.readText
  split
  · rename_i failed
    simp [failed]
  · rename_i bytes read
    rw [read]
    refine iff_of_false (fun failed => ?_) (fun failed => by cases failed)
    obtain ⟨error, same⟩ := decodeText_eq_error failed
    cases same

end AssetAudit
