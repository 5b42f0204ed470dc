import Instrument.Proofs.Discovery
import Instrument.Proofs.Generator.Writing
import Instrument.Proofs.Interface.Numbering
import Instrument.Proofs.Text.Case

/-!
What is made of the headers before anything is written. Main statements: making it fails just if a
header fails at some stage or the devices of all headers cannot be numbered; it hangs on nothing
but the texts of the headers, their names and their order; and the files that are made have names
that can stand in any directory.
-/

namespace Instrument.Generator

open Interface (Description DeviceTable)
open Success

section

variable {files files' : FileTree} {settings : Settings} {word path : String} {g : Generated}

/-! ### Failures -/

/-- Whether a header fails, by the stage at which it does. -/
inductive HeaderFails (files : FileTree) (word path : String) : Prop where
  | reading {e : SystemError} (h : files.readText path.toList = .error e)
  | tokenizing {source : String} {e : Header.ParseError}
    (hsource : files.readText path.toList = .ok source)
    (h : Header.tokens source.toList = .error e)
  | parsing {source : String} {e : Header.ParseError}
    (hsource : files.readText path.toList = .ok source)
    (h : Header.classes source.toList = .error e)
  /-- The header declares no class. -/
  | empty {source : String}
    (hsource : files.readText path.toList = .ok source)
    (h : Header.classes source.toList = .ok [])
  | describing {source : String} {classes : List Header.Class} {c : Header.Class}
    {e : Interface.DeclarationError}
    (hsource : files.readText path.toList = .ok source)
    (hclasses : Header.classes source.toList = .ok classes) (hc : c ∈ classes)
    (h : Description.ofClass (Interface.pragmas word.toList source.toList) c = .error e)

/-- Whether the headers of a run cannot be made into a table of devices. -/
def HeadersFail (files : FileTree) (settings : Settings) : Prop :=
  (∃ path ∈ settings.headers, HeaderFails files settings.word path) ∨
    ∃ found e, readHeaders files settings.word settings.headers = .ok found ∧
      DeviceTable.ofDescriptions (found.map (·.1)) = .error e

theorem exists_descriptions_eq_error_iff {source : String} :
    (∃ e, Interface.descriptions word path source = .error e) ↔
      (∃ e, Header.classes source.toList = .error e) ∨ Header.classes source.toList = .ok [] ∨
        ∃ classes, Header.classes source.toList = .ok classes ∧ ∃ c ∈ classes, ∃ e,
          Description.ofClass (Interface.pragmas word.toList source.toList) c = .error e := by
  unfold Interface.descriptions
  split
  · next e hclasses => simp [hclasses]
  · next hclasses => simp [hclasses]
  · next classes hne hclasses =>
    simp [hclasses, show classes ≠ [] from hne, exists_mapM_eq_error_iff]

/-- A header is not read just if it fails. -/
theorem exists_readHeader_eq_error_iff :
    (∃ e, readHeader files word path = .error e) ↔ HeaderFails files word path := by
  simp only [readHeader, exists_bind_eq_error_iff, exists_mapError_eq_error_iff,
    mapError_eq_ok_iff, exists_descriptions_eq_error_iff, pure, Except.pure, reduceCtorEq,
    exists_false, and_false, or_false]
  constructor
  · rintro (⟨e, h⟩ | ⟨source, hsource, ⟨e, h⟩ | h | ⟨classes, hclasses, c, hc, e, h⟩⟩)
    · exact .reading h
    · exact .parsing hsource h
    · exact .empty hsource h
    · exact .describing hsource hclasses hc h
  · intro h
    cases h with
    | reading h => exact .inl ⟨_, h⟩
    | @tokenizing _ e hsource h =>
      refine .inr ⟨_, hsource, .inl ⟨e, ?_⟩⟩
      rw [Header.classes, h]
      rfl
    | parsing hsource h => exact .inr ⟨_, hsource, .inl ⟨_, h⟩⟩
    | empty hsource h => exact .inr ⟨_, hsource, .inr (.inl h)⟩
    | describing hsource hclasses hc h =>
      exact .inr ⟨_, hsource, .inr (.inr ⟨_, hclasses, _, hc, _, h⟩)⟩

/-- Nothing is made just if the headers fail. -/
theorem exists_build_eq_error_iff :
    (∃ e, build files settings = .error e) ↔ HeadersFail files settings := by
  have hread : (∃ e, readHeaders files settings.word settings.headers = .error e) ↔
      ∃ path ∈ settings.headers, HeaderFails files settings.word path := by
    simp only [readHeaders, map_eq_error_iff, exists_mapM_eq_error_iff,
      exists_readHeader_eq_error_iff]
  simp only [build, exists_bind_eq_error_iff, exists_mapError_eq_error_iff, hread, pure,
    Except.pure, reduceCtorEq, exists_false, and_false, or_false]
  exact or_congr_right (exists_congr fun found => exists_and_left.symm)

/-! ### What is read -/

/-- What is made hangs on the texts of the headers alone. -/
theorem build_congr (output : String)
    (h : ∀ path ∈ settings.headers, files'.readText path.toList = files.readText path.toList) :
    build files' { settings with output := output } = build files settings := by
  have hheaders : settings.headers.mapM (readHeader files' settings.word) =
      settings.headers.mapM (readHeader files settings.word) := by
    refine mapM_congr fun path hpath => ?_
    rw [readHeader, readHeader, h path hpath]
  simp only [build, readHeaders, hheaders]

/-- What is made comes from headers that can be read. -/
theorem exists_readText_of_build (h : build files settings = .ok g) :
    ∀ path ∈ settings.headers, ∃ source, files.readText path.toList = .ok source := by
  intro path hpath
  cases hread : files.readText path.toList with
  | ok source => exact ⟨source, rfl⟩
  | error e =>
    obtain ⟨e', hfails⟩ := exists_build_eq_error_iff.2 (.inl ⟨path, hpath, .reading hread⟩)
    rw [h] at hfails
    cases hfails

/-! ### Names -/

theorem areDeclared_of_readHeaders {paths : List String} {found : List (Description × String)}
    (h : readHeaders files word paths = .ok found) : Interface.AreDeclared (found.map (·.1)) := by
  obtain ⟨all, hall, rfl⟩ := map_eq_ok_iff.1 h
  intro d hd
  obtain ⟨entry, hentry, rfl⟩ := List.mem_map.1 hd
  obtain ⟨ofHeader, hmem, hentry⟩ := List.mem_flatten.1 hentry
  obtain ⟨path, -, hread⟩ := exists_of_mapM hall ofHeader hmem
  simp only [readHeader, bind_eq_ok_iff, mapError_eq_ok_iff, pure_eq_ok_iff] at hread
  obtain ⟨source, -, declared, hdeclared, rfl⟩ := hread
  obtain ⟨d, hmem, rfl⟩ := List.mem_map.1 hentry
  exact Interface.areDeclared_of_descriptions hdeclared d hmem

/-- Files are made for the devices of a table and for the table. -/
theorem mem_artifacts_of_build (h : build files settings = .ok g) :
    ∃ found, Interface.AreDeclared found ∧ DeviceTable.ofDescriptions found = .ok g.table ∧
      ∀ artifact ∈ g.artifacts, artifact ∈ tableArtifacts g.table ∨
        ∃ d ∈ g.table.users, ∃ header, artifact ∈ deviceArtifacts d header := by
  simp only [build, bind_eq_ok_iff, mapError_eq_ok_iff, pure_eq_ok_iff] at h
  obtain ⟨found, hfound, table, htable, rfl⟩ := h
  refine ⟨_, areDeclared_of_readHeaders hfound, htable, fun artifact hartifact => ?_⟩
  rcases List.mem_append.1 hartifact with hmem | hmem
  · obtain ⟨⟨d, header⟩, hzip, hmem⟩ := List.mem_flatMap.1 hmem
    exact .inr ⟨d, (List.of_mem_zip hzip).1, header, hmem⟩
  · exact .inl hmem

theorem artifacts_ne_nil_of_build (h : build files settings = .ok g) : g.artifacts ≠ [] := by
  simp only [build, bind_eq_ok_iff, pure_eq_ok_iff] at h
  obtain ⟨found, -, table, -, rfl⟩ := h
  exact List.append_ne_nil_of_right_ne_nil _ (List.cons_ne_nil _ _)

/-- The tag of a class holds no slash, as its name holds none. -/
theorem slash_not_mem_deviceTag {name : String} (h : Header.IsName name) :
    '/' ∉ (deviceTag name).toList := by
  intro hmem
  rcases Discovery.exists_of_mem_deviceTag hmem with heq | ⟨c, hc, heq⟩
  · exact absurd heq (by decide)
  · have hword := h.isWordChar c hc
    have hslash : c = '/' := by
      rcases heq with heq | heq
      · exact heq.symm
      · exact Text.eq_slash_of_toUpper heq.symm
    rw [hslash] at hword
    exact absurd hword (by decide)

theorem isFileName_append {stem : String} (h : '/' ∉ stem.toList) {ending : String}
    (hslash : '/' ∉ ending.toList) (hlong : 2 < ending.toList.length) :
    Path.IsFileName (stem ++ ending).toList where
  slash := by
    rw [String.toList_append, List.mem_append, not_or]
    exact ⟨h, hslash⟩
  long := by
    rw [String.toList_append, List.length_append]
    omega

/-- The files of a device have names that can stand in any directory. -/
theorem isFileName_fileStem {d : Description} (h : Header.IsName d.name)
    (htag : d.tag = deviceTag d.name) {ending : String} (hending : '/' ∉ ending.toList) :
    Path.IsFileName (fileStem d ++ ending).toList := by
  have hlower : '/' ∉ (lowerTag d).toList := by
    rw [lowerTag, String.toList_ofList, htag]
    exact Text.slash_not_mem_lower (slash_not_mem_deviceTag h)
  rw [fileStem, String.append_assoc]
  refine isFileName_append hlower ?_ ?_
  · rw [String.toList_append, List.mem_append, not_or]
    exact ⟨by decide, hending⟩
  · rw [String.toList_append, List.length_append]
    have : "_device".toList.length = 7 := by decide
    omega

/-- The files that are made have names that can stand in any directory. -/
theorem haveNames_of_build (h : build files settings = .ok g) : HaveNames g.artifacts := by
  obtain ⟨found, hfound, htable, hfrom⟩ := mem_artifacts_of_build h
  intro artifact hartifact
  rcases hfrom artifact hartifact with hmem | ⟨d, hd, header, hmem⟩
  · have hname : artifact.path = "devices_table.hpp" ∨ artifact.path = "devices.json" := by
      rcases List.mem_cons.1 hmem with rfl | hmem
      · exact .inl rfl
      · exact .inr (List.mem_singleton.1 hmem ▸ rfl)
    rcases hname with hname | hname <;> rw [hname] <;> constructor <;> decide
  · obtain ⟨d', ⟨_, c, hnamed, hof⟩, id, rfl⟩ :=
      DeviceTable.exists_of_mem hfound htable (List.mem_cons_of_mem _ hd)
    obtain ⟨hname, htag⟩ := Interface.fields_of_ofClass hof
    have hd' : Header.IsName d'.name := hname ▸ hnamed.name
    rcases List.mem_cons.1 hmem with rfl | hmem
    · exact isFileName_fileStem hd' htag (by decide)
    · rw [List.mem_singleton.1 hmem]
      exact isFileName_fileStem hd' htag (by decide)

end

end Instrument.Generator
