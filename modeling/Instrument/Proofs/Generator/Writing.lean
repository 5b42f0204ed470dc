import Instrument.Generator.Run
import Instrument.Proofs.File.Keeping

/-!
How generated files are written. Main statements: files with different names that are written
without a refusal are all there with what they hold, and no other file changes; and files that are
there as they would be written can be written again, which changes nothing.
-/

namespace Instrument.Generator

open Success

/-- The path of a generated file in a directory. -/
def Artifact.pathIn (directory : String) (artifact : Artifact) : List Char :=
  Path.join directory.toList artifact.path.toList

/-- What a generated file holds. -/
def Artifact.bytes (artifact : Artifact) : Bytes := Text.utf8 artifact.contents

/-- Whether the paths of generated files are names. -/
def HaveNames (artifacts : List Artifact) : Prop :=
  ∀ artifact ∈ artifacts, Path.IsFileName artifact.path.toList

/-- Whether one of some generated files goes to a location. -/
def IsTarget (t : FileTree) (directory : String) (artifacts : List Artifact) (l : Location) :
    Prop :=
  ∃ artifact ∈ artifacts, t.locate (artifact.pathIn directory) = .ok l

/-- Whether a generated file is in a directory, with what it holds. -/
def IsWritten (t : FileTree) (directory : String) (artifact : Artifact) : Prop :=
  ∃ l, t.locate (artifact.pathIn directory) = .ok l ∧ t.node? l = some (.file artifact.bytes)

section

variable {directory : String} {artifact : Artifact} {artifacts rest : List Artifact}
  {t t' : FileTree} {a a' : Aftermath} {l : Location}

theorem IsWritten.read (h : IsWritten t directory artifact) :
    t.read (artifact.pathIn directory) = .ok artifact.bytes :=
  FileTree.read_eq_ok_iff.2 h

/-- A generated file keeps its name where it goes. -/
theorem exists_of_isTarget (hnames : HaveNames artifacts) (h : IsTarget t directory artifacts l) :
    ∃ artifact ∈ artifacts, l.names.head? = some artifact.path := by
  obtain ⟨artifact, hartifact, hl⟩ := h
  have hname := hnames artifact hartifact
  obtain ⟨-, d, -, henter⟩ := (FileTree.locate_join_iff hname).1 hl
  obtain ⟨-, -, rfl⟩ := (FileTree.enter_eq_ok_iff hname).1 henter
  exact ⟨artifact, hartifact, by simp [Location.child]⟩

/-! ### One run -/

/-- The directory is made, then the files are written. -/
theorem writeArtifacts_eq_none_iff : writeArtifacts directory artifacts t = (none, a) ↔
    ∃ t', t.makeDirectories directory.toList = (none, t') ∧
      writeAll directory artifacts ⟨t', []⟩ = (none, a) := by
  rw [writeArtifacts]
  obtain ⟨refused, t'⟩ := t.makeDirectories directory.toList
  cases refused <;> simp

/-- The first file is written, then come the others. -/
theorem writeAll_cons_eq_none_iff :
    writeAll directory (artifact :: rest) a = (none, a') ↔
      ∃ t, a.files.write (artifact.pathIn directory) artifact.bytes = .ok t ∧
        writeAll directory rest ⟨t, a.written ++ [String.ofList (artifact.pathIn directory)]⟩ =
          (none, a') := by
  rw [Artifact.pathIn, Artifact.bytes, writeAll.eq_def]
  dsimp only
  cases a.files.write (Path.join directory.toList artifact.path.toList)
    (Text.utf8 artifact.contents) <;> simp

theorem write_pathIn_eq_ok_iff (hname : Path.IsFileName artifact.path.toList) :
    t.write (artifact.pathIn directory) artifact.bytes = .ok t' ↔
      ∃ l, t.locate (artifact.pathIn directory) = .ok l ∧ t.node? l ≠ some .directory ∧
        t' = t.put l (.file artifact.bytes) :=
  FileTree.write_eq_ok_iff (Path.getLast?_join hname)

theorem written_of_writeAll (h : writeAll directory artifacts a = (none, a')) :
    a'.written =
      a.written ++ artifacts.map fun artifact => String.ofList (artifact.pathIn directory) := by
  induction artifacts generalizing a with
  | nil =>
    cases h
    simp
  | cons artifact rest ih =>
    obtain ⟨t, -, hrest⟩ := writeAll_cons_eq_none_iff.1 h
    simp [ih hrest]

/-- Only the files that are written change. -/
theorem keeps_writeAll (hnames : HaveNames artifacts)
    (h : writeAll directory artifacts a = (none, a')) :
    FileTree.Keeps (IsTarget a'.files directory artifacts) a.files a'.files := by
  induction artifacts generalizing a with
  | nil =>
    cases h
    exact .refl _ _
  | cons artifact rest ih =>
    rw [HaveNames, List.forall_mem_cons] at hnames
    obtain ⟨t, hwrite, hrest⟩ := writeAll_cons_eq_none_iff.1 h
    obtain ⟨l, hl, hnode, rfl⟩ := (write_pathIn_eq_ok_iff hnames.1).1 hwrite
    have hput : FileTree.Keeps (· = l) a.files (a.files.put l (.file artifact.bytes)) :=
      FileTree.keeps_put_file hnode
    have hkeeps := ih hnames.2 hrest
    refine (hput.mono ?_).trans (hkeeps.mono ?_)
    · rintro _ rfl
      exact ⟨artifact, List.mem_cons_self .., hkeeps.locate (hput.locate hl)⟩
    · rintro l' ⟨other, hother, hl'⟩
      exact ⟨other, List.mem_cons_of_mem _ hother, hl'⟩

/-- All files are there in the end: no later one goes where an earlier one is. -/
theorem isWritten_of_writeAll (hnames : HaveNames artifacts)
    (hnodup : (artifacts.map (·.path)).Nodup)
    (h : writeAll directory artifacts a = (none, a')) :
    ∀ artifact ∈ artifacts, IsWritten a'.files directory artifact := by
  induction artifacts generalizing a with
  | nil => simp
  | cons artifact rest ih =>
    rw [List.map_cons, List.nodup_cons] at hnodup
    obtain ⟨t, hwrite, hrest⟩ := writeAll_cons_eq_none_iff.1 h
    have hrestNames : HaveNames rest := fun other hother =>
      hnames other (List.mem_cons_of_mem _ hother)
    rw [List.forall_mem_cons]
    refine ⟨?_, ih hrestNames hnodup.2 hrest⟩
    have hname := hnames artifact (List.mem_cons_self ..)
    obtain ⟨l, hl, hnode, rfl⟩ := (write_pathIn_eq_ok_iff hname).1 hwrite
    have hkeeps := keeps_writeAll hrestNames hrest
    have hl' := hkeeps.locate ((FileTree.keeps_put_file hnode).locate hl)
    refine ⟨l, hl', (hkeeps.file l ?_ _).2 (FileTree.node?_put_self ?_)⟩
    · rintro ⟨other, hother, hsame⟩
      have hpath := FileTree.eq_of_locate_join hname (hrestNames other hother) hl' hsame
      rw [String.toList_inj] at hpath
      exact hnodup.1 (hpath ▸ List.mem_map_of_mem hother)
    · intro hnil
      exact hnode (if_pos (List.isEmpty_iff.2 hnil))

/-! ### One more run -/

/-- Writing a file again that is there changes nothing. -/
theorem exists_of_isWritten (hname : Path.IsFileName artifact.path.toList)
    (h : IsWritten t directory artifact) :
    ∃ t', t.write (artifact.pathIn directory) artifact.bytes = .ok t' ∧
      ∀ l, t'.node? l = t.node? l := by
  obtain ⟨l, hl, hnode⟩ := h
  refine ⟨_, (write_pathIn_eq_ok_iff hname).2 ⟨l, hl, ?_, rfl⟩, FileTree.node?_put_of_eq hnode⟩
  rw [hnode]
  simp

/-- Files that are there are written again without a refusal, and nothing changes. -/
theorem writeAll_of_isWritten (hnames : HaveNames artifacts)
    (h : ∀ artifact ∈ artifacts, IsWritten a.files directory artifact) :
    ∃ a', writeAll directory artifacts a = (none, a') ∧
      ∀ l, a'.files.node? l = a.files.node? l := by
  induction artifacts generalizing a with
  | nil => exact ⟨a, rfl, fun _ => rfl⟩
  | cons artifact rest ih =>
    rw [HaveNames, List.forall_mem_cons] at hnames
    rw [List.forall_mem_cons] at h
    obtain ⟨t, hwrite, hsame⟩ := exists_of_isWritten hnames.1 h.1
    have hkeeps : FileTree.Keeps (fun _ => False) a.files t := .of_node? hsame
    obtain ⟨a', hrest, hsame'⟩ := ih (a := ⟨t, _⟩) hnames.2 fun other hother => by
      obtain ⟨l, hl, hnode⟩ := h.2 other hother
      exact ⟨l, hkeeps.locate hl, (hsame l).trans hnode⟩
    exact ⟨a', writeAll_cons_eq_none_iff.2 ⟨t, hwrite, hrest⟩,
      fun l => (hsame' l).trans (hsame l)⟩

end

end Instrument.Generator
