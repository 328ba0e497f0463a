import MacroStubs.Host.Files
import MacroStubs.Proofs.Outcome

/-! # Files that others are written beside

Writing a file and making directories change nothing under the names of another file, and no directory
goes. What a path leads to is told by its names alone, whatever else lies in the tree.
-/

namespace MacroStubs

/-- The names that a path leads to, if it leads anywhere. -/
def Path.namesFrom (cwd p : Path) : List String := (cwd.resolve p).parts

namespace Files

variable {fs fs' fs'' : Files} {p : Path} {names dest : List String} {content : String}

/-- One tree has become another one that has the same under these names and all directories. -/
structure Spares (dest : List String) (fs fs' : Files) : Prop where
  cwd : fs'.cwd = fs.cwd
  node : fs'.node? dest = fs.node? dest
  directories : ∀ names, fs.node? names = some .directory → fs'.node? names = some .directory

namespace Spares

theorem refl (dest : List String) (fs : Files) : Spares dest fs fs := ⟨rfl, rfl, fun _ h => h⟩

theorem trans (h : Spares dest fs fs') (h' : Spares dest fs' fs'') : Spares dest fs fs'' where
  cwd := h'.cwd.trans h.cwd
  node := h'.node.trans h.node
  directories names hd := h'.directories names (h.directories names hd)

end Spares

/-- At the root there is a directory. -/
theorem ne_nil_of_node? (h : fs.node? names ≠ some .directory) : names ≠ [] := by
  rintro rfl
  exact h rfl

theorem node?_put_self (hn : names ≠ []) (node : Node) :
    node? { fs with nodes := fs.nodes.put names node } names = some node := by
  rw [node?, if_neg (by simpa using hn)]
  exact Table.get?_put_self _ _ _

theorem node?_put_of_ne (hn : names ≠ dest) (node : Node) :
    node? { fs with nodes := fs.nodes.put names node } dest = fs.node? dest := by
  rw [node?, node?]
  split
  · rfl
  · exact Table.get?_put_of_ne _ _ hn

/-- What is put where no directory is spares all else. -/
theorem spares_put (hn : names ≠ dest) (hd : fs.node? names ≠ some .directory) (node : Node) :
    Spares dest fs { fs with nodes := fs.nodes.put names node } where
  cwd := rfl
  node := node?_put_of_ne hn node
  directories other ho := by
    rw [node?_put_of_ne]
    · exact ho
    · rintro rfl
      exact hd ho

theorem walk_eq {here parts : List String} (h : fs.walk here parts = .ok names) :
    names = parts.foldl (fun done p => if p = ".." then done.dropLast else done ++ [p]) here := by
  induction parts generalizing here with
  | nil => exact (Except.ok.inj h).symm
  | cons part rest ih =>
    rw [walk] at h
    rw [List.foldl_cons]
    split at h
    · cases h
    · cases h
    · split at h
      · cases h
      · split at h
        · rw [if_pos ‹_›]
          exact ih h
        · rw [if_neg ‹_›]
          exact ih h

/-- A path leads nowhere but to its names. -/
theorem locate_eq (h : fs.locate p = .ok names) : names = fs.cwd.namesFrom p := by
  rw [locate] at h
  split at h
  · cases h
  · exact walk_eq h

theorem walk_of_directories
    (hd : ∀ names, fs.node? names = some .directory → fs'.node? names = some .directory)
    {here parts : List String} (h : fs.walk here parts = .ok names) :
    fs'.walk here parts = .ok names := by
  induction parts generalizing here with
  | nil => exact h
  | cons part rest ih =>
    rw [walk] at h ⊢
    split at h
    · cases h
    · cases h
    · rename_i hhere
      rw [hd here hhere]
      split at h
      · cases h
      · rename_i hlong
        rw [if_neg hlong]
        split at h
        · rw [if_pos ‹_›]
          exact ih h
        · rw [if_neg ‹_›]
          exact ih h

/-- A path that leads somewhere still does where no directory has gone. -/
theorem locate_of_directories (hcwd : fs'.cwd = fs.cwd)
    (hd : ∀ names, fs.node? names = some .directory → fs'.node? names = some .directory)
    (h : fs.locate p = .ok names) : fs'.locate p = .ok names := by
  rw [Files.locate] at h ⊢
  split at h
  · cases h
  · rw [if_neg ‹_›, hcwd]
    exact walk_of_directories hd h

/-- What is done where a path leads. -/
theorem located_eq_ok {k : List String → Except Failure Files}
    (h : (do
      if hasNull p then throw Failure.embeddedNull
      match fs.locate p with
      | .error e => throw (lost p e)
      | .ok names => k names) = .ok fs') :
    hasNull p = false ∧ ∃ names, fs.locate p = .ok names ∧ k names = .ok fs' := by
  cases hnull : hasNull p with
  | true =>
    rw [hnull] at h
    cases h
  | false =>
    rw [hnull, if_neg Bool.false_ne_true] at h
    cases hl : fs.locate p with
    | error e =>
      rw [hl] at h
      cases h
    | ok names =>
      rw [hl] at h
      exact ⟨rfl, names, rfl, h⟩

/-- A file is written where its path leads, unless that is a directory or nothing can be there. -/
theorem write_eq_ok (h : fs.write p content = .ok fs') :
    hasNull p = false ∧ ∃ names, fs.locate p = .ok names ∧ fs.node? names ≠ some .directory ∧
      fs' = { fs with nodes := fs.nodes.put names (.file content) } := by
  obtain ⟨hnull, names, hl, h⟩ := located_eq_ok h
  refine ⟨hnull, names, hl, ?_⟩
  cases hnode : fs.node? names with
  | none =>
    rw [hnode] at h
    dsimp only at h
    split at h
    · exact ⟨nofun, (Except.ok.inj h).symm⟩
    · cases h
    · cases h
  | some node =>
    rw [hnode] at h
    cases node with
    | directory => cases h
    | file old => exact ⟨nofun, (Except.ok.inj h).symm⟩

theorem write_of_file {old : String} (hnull : hasNull p = false) (hl : fs.locate p = .ok names)
    (hnode : fs.node? names = some (.file old)) (content : String) :
    fs.write p content = .ok { fs with nodes := fs.nodes.put names (.file content) } := by
  rw [write, hnull, if_neg Bool.false_ne_true, hl]
  dsimp only [bind, Except.bind]
  rw [hnode]
  rfl

/-- What is written lies where the path leads. -/
theorem node?_write (h : fs.write p content = .ok fs') :
    fs'.node? (fs.cwd.namesFrom p) = some (.file content) := by
  obtain ⟨-, names, hl, hd, rfl⟩ := write_eq_ok h
  obtain rfl := locate_eq hl
  exact node?_put_self (ne_nil_of_node? hd) _

/-- One tree has become another one in which some files have text put behind their content. -/
structure Grows (fs fs' : Files) : Prop where
  cwd : fs'.cwd = fs.cwd
  directories : ∀ names, fs.node? names = some .directory → fs'.node? names = some .directory
  files : ∀ names text, fs.node? names = some (.file text) →
    ∃ more, fs'.node? names = some (.file (text ++ more))

namespace Grows

theorem refl (fs : Files) : Grows fs fs :=
  ⟨rfl, fun _ h => h, fun _ text h => ⟨"", by rw [h, String.append_empty]⟩⟩

theorem trans (h : Grows fs fs') (h' : Grows fs' fs'') : Grows fs fs'' where
  cwd := h'.cwd.trans h.cwd
  directories names hd := h'.directories names (h.directories names hd)
  files names text hf := by
    obtain ⟨more, hmore⟩ := h.files names text hf
    obtain ⟨last, hlast⟩ := h'.files names _ hmore
    exact ⟨more ++ last, by rw [hlast, String.append_assoc]⟩

end Grows

/-- Writing a file that begins as the one that lies there only adds to it. -/
theorem grows_write (h : fs.write p content = .ok fs')
    (hold : ∀ old, fs.find? p = some (.file old) → ∃ more, content = old ++ more) :
    Grows fs fs' := by
  obtain ⟨-, names, hl, hd, rfl⟩ := write_eq_ok h
  have hspares (other : List String) (hn : names ≠ other) := spares_put hn hd (.file content)
  refine ⟨rfl, fun other ho => ?_, fun other text ho => ?_⟩
  · exact (hspares other (fun hn => hd (hn ▸ ho))).node.trans ho
  · by_cases hn : names = other
    · subst hn
      obtain ⟨more, rfl⟩ := hold text (by rw [find?, hl]; exact ho)
      exact ⟨more, node?_put_self (ne_nil_of_node? hd) _⟩
    · exact ⟨"", by rw [(hspares other hn).node, ho, String.append_empty]⟩

theorem grows_append (h : fs.append p content = .ok fs') : Grows fs fs' := by
  rw [append] at h
  split at h
  · rename_i old hold
    refine grows_write h fun text htext => ?_
    obtain rfl := Node.file.inj (Option.some.inj (hold.symm.trans htext))
    exact ⟨content, rfl⟩
  · rename_i hnone
    exact grows_write h fun text htext => absurd htext (hnone text)

/-- Where a file was written, another text can be written in its place. -/
theorem write_again (h : fs.write p content = .ok fs') (hg : Grows fs' fs'') (text : String) :
    ∃ fs₃, fs''.write p text = .ok fs₃ := by
  obtain ⟨more, hnode⟩ := hg.files _ _ (node?_write h)
  obtain ⟨hnull, names, hl, hd, rfl⟩ := write_eq_ok h
  obtain rfl := locate_eq hl
  -- the path still leads there, since no directory has become a file
  have hroot := spares_put (ne_nil_of_node? hd) hd (.file content)
  have hcwd : fs''.cwd = fs.cwd := hg.cwd.trans hroot.cwd
  have hl' := locate_of_directories hcwd
    (fun names hn => hg.directories names (hroot.directories names hn)) hl
  exact ⟨_, write_of_file hnull hl' hnode text⟩

theorem spares_write (h : fs.write p content = .ok fs') (hp : fs.cwd.namesFrom p ≠ dest) :
    Spares dest fs fs' := by
  obtain ⟨-, names, hl, hd, rfl⟩ := write_eq_ok h
  exact spares_put (locate_eq hl ▸ hp) hd _

theorem spares_append (h : fs.append p content = .ok fs') (hp : fs.cwd.namesFrom p ≠ dest) :
    Spares dest fs fs' := by
  rw [append] at h
  split at h <;> exact spares_write h hp

/-- A directory is made where its path leads and nothing is. -/
theorem makeOne_eq_ok (h : fs.makeOne p = .ok fs') :
    ∃ names, fs.locate p = .ok names ∧ fs.node? names = none ∧
      fs' = { fs with nodes := fs.nodes.put names .directory } := by
  obtain ⟨-, names, hl, h⟩ := located_eq_ok h
  refine ⟨names, hl, ?_⟩
  cases hnode : fs.node? names with
  | none =>
    rw [hnode] at h
    dsimp only at h
    split at h
    · exact ⟨rfl, (Except.ok.inj h).symm⟩
    · cases h
    · cases h
  | some node =>
    rw [hnode] at h
    cases h

theorem spares_makeOne (h : fs.makeOne p = .ok fs')
    (hp : fs.node? dest = none → fs.cwd.namesFrom p ≠ dest) : Spares dest fs fs' := by
  obtain ⟨names, hl, hn, rfl⟩ := makeOne_eq_ok h
  refine spares_put ?_ (by rw [hn]; nofun) _
  rintro rfl
  exact hp hn (locate_eq hl).symm

/-- Directories that are made with those above them spare what is no such place. -/
theorem spares_makeAll {n : Nat} (h : fs.makeAll p n = .ok fs')
    (hp : fs.node? dest = none → ∀ k, fs.cwd.namesFrom { p with parts := p.parts.take k } ≠ dest) :
    Spares dest fs fs' := by
  induction n generalizing p fs' with
  | zero => cases h
  | succ n ih =>
    have hself : fs.node? dest = none → fs.cwd.namesFrom p ≠ dest := by
      intro hn
      have htake := hp hn p.parts.length
      rwa [List.take_length] at htake
    rw [makeAll] at h
    split at h
    · rename_i hone
      obtain rfl := Except.ok.inj h
      exact spares_makeOne hone hself
    · split at h
      · cases h
      · obtain ⟨above, habove, h⟩ := bind_eq_ok.mp h
        have hfirst : Spares dest fs above := by
          refine ih habove fun hn k => ?_
          rw [Path.parent, List.dropLast_eq_take, List.take_take]
          exact hp hn _
        split at h
        · rename_i hone
          obtain rfl := Except.ok.inj h
          refine hfirst.trans (spares_makeOne hone ?_)
          rw [hfirst.node, hfirst.cwd]
          exact hself
        · split at h
          · obtain rfl := Except.ok.inj h
            exact hfirst
          · cases h
    · split at h
      · obtain rfl := Except.ok.inj h
        exact .refl _ _
      · cases h

end Files
end MacroStubs
