import Instrument.Proofs.Generator.Building
import Instrument.Proofs.Interface.OperationNames

/-!
What a run of the generator leaves behind. Main statement: a run whose headers fail changes
nothing; one that succeeds leaves each file that it makes with what it holds and changes no other,
and running it again changes nothing more; and the files that are made hang on the headers alone,
not on what was in the directory before.
-/

namespace Instrument.Generator

open Success

section

variable {files files' : FileTree} {settings : Settings} {output : String} {g g' : Generated}
  {a a' : Aftermath}

theorem generate_eq_ok_iff : generate files settings = (.ok g, a) ↔
    build files settings = .ok g ∧
      writeArtifacts settings.output g.artifacts files = (none, a) := by
  rw [generate]
  cases build files settings with
  | error e => simp
  | ok made =>
    dsimp only
    constructor
    · intro h
      split at h
      · cases h
      · next hwrite =>
        cases h
        exact ⟨rfl, hwrite⟩
    · rintro ⟨hsame, hwrite⟩
      cases hsame
      simp only [hwrite]

/-- Headers that fail leave everything as it is. -/
theorem generate_of_headersFail (h : HeadersFail files settings) :
    ∃ e, generate files settings = (.error e, ⟨files, []⟩) := by
  obtain ⟨e, hfails⟩ := exists_build_eq_error_iff.2 h
  exact ⟨e, generate_of_build_error hfails⟩

/-- Only the files that are made change. -/
theorem keeps_generate (h : generate files settings = (.ok g, a)) :
    FileTree.Keeps (IsTarget a.files settings.output g.artifacts) files a.files := by
  obtain ⟨hbuild, hwrite⟩ := generate_eq_ok_iff.1 h
  obtain ⟨t, hmade, hall⟩ := writeArtifacts_eq_none_iff.1 hwrite
  have hdirectories := FileTree.keeps_makeDirectories files settings.output.toList
  rw [hmade] at hdirectories
  exact (hdirectories.mono fun _ => False.elim).trans
    (keeps_writeAll (haveNames_of_build hbuild) hall)

/-- All files that are made are there. -/
theorem isWritten_of_generate (h : generate files settings = (.ok g, a))
    (hnodup : (g.artifacts.map (·.path)).Nodup) :
    ∀ artifact ∈ g.artifacts, IsWritten a.files settings.output artifact := by
  obtain ⟨hbuild, hwrite⟩ := generate_eq_ok_iff.1 h
  obtain ⟨t, -, hall⟩ := writeArtifacts_eq_none_iff.1 hwrite
  exact isWritten_of_writeAll (haveNames_of_build hbuild) hnodup hall

/-- Two runs with the same texts of headers make the same. -/
theorem eq_of_generate (h : generate files settings = (.ok g, a))
    (hsame : ∀ header ∈ settings.headers,
      files'.readText header.toList = files.readText header.toList)
    (h' : generate files' { settings with output := output } = (.ok g', a')) : g' = g := by
  have hbuild := (generate_eq_ok_iff.1 h).1
  have hbuild' := (generate_eq_ok_iff.1 h').1
  rw [build_congr output hsame, hbuild] at hbuild'
  exact (Except.ok.inj hbuild').symm

/-- A run that writes over no header can be repeated, and the second one changes nothing. -/
theorem generate_again (h : generate files settings = (.ok g, a))
    (hnodup : (g.artifacts.map (·.path)).Nodup)
    (hheaders : ∀ header ∈ settings.headers, ∀ l, a.files.locate header.toList = .ok l →
      ¬IsTarget a.files settings.output g.artifacts l) :
    ∃ a', generate a.files settings = (.ok g, a') ∧ a'.written = a.written ∧
      ∀ l, a'.files.node? l = a.files.node? l := by
  have hwritten := isWritten_of_generate h hnodup
  have hkeeps := keeps_generate h
  obtain ⟨hbuild, hwrite⟩ := generate_eq_ok_iff.1 h
  obtain ⟨t, -, hall⟩ := writeArtifacts_eq_none_iff.1 hwrite
  have hnames := haveNames_of_build hbuild
  have hbuild' : build a.files settings = .ok g := by
    rw [← hbuild]
    refine build_congr settings.output fun header hheader => ?_
    obtain ⟨source, hsource⟩ := exists_readText_of_build hbuild header hheader
    rw [hsource, hkeeps.readText (hheaders header hheader) hsource]
  have hdirectories : a.files.makeDirectories settings.output.toList = (none, a.files) := by
    obtain ⟨artifact, hartifact⟩ := List.exists_mem_of_ne_nil _ (artifacts_ne_nil_of_build hbuild)
    obtain ⟨l, hl, -⟩ := hwritten artifact hartifact
    exact FileTree.makeDirectories_of_locate_join (hnames artifact hartifact) hl
  obtain ⟨a', hall', hsame⟩ := writeAll_of_isWritten (a := ⟨a.files, []⟩) hnames hwritten
  refine ⟨a', generate_eq_ok_iff.2 ⟨hbuild', ?_⟩, ?_, hsame⟩
  · exact writeArtifacts_eq_none_iff.2 ⟨a.files, hdirectories, hall'⟩
  · rw [written_of_writeAll hall', written_of_writeAll hall]

end

/-- A run changes nothing if a header cannot be read, taken apart or described, or the devices
cannot be numbered. If it succeeds and the files that it makes have different names, each of them
is there with what it holds, and no other file has changed. If no header is among them, a second
run makes the same and changes nothing. A run anywhere else with the same texts of headers leaves
the same files, whatever was there before. -/
theorem generate_all_or_nothing (files : FileTree) (settings : Settings) :
    (HeadersFail files settings → ∃ e, generate files settings = (.error e, ⟨files, []⟩)) ∧
    ∀ g a, generate files settings = (.ok g, a) → (g.artifacts.map (·.path)).Nodup →
      (∀ artifact ∈ g.artifacts,
        a.files.read (artifact.pathIn settings.output) = .ok artifact.bytes) ∧
      FileTree.Keeps (IsTarget a.files settings.output g.artifacts) files a.files ∧
      ((∀ header ∈ settings.headers, ∀ l, a.files.locate header.toList = .ok l →
          ¬IsTarget a.files settings.output g.artifacts l) →
        ∃ a', generate a.files settings = (.ok g, a') ∧ a'.written = a.written ∧
          ∀ l, a'.files.node? l = a.files.node? l) ∧
      ∀ files' output g' a',
        (∀ header ∈ settings.headers,
          files'.readText header.toList = files.readText header.toList) →
        generate files' { settings with output := output } = (.ok g', a') →
          g' = g ∧ ∀ artifact ∈ g.artifacts,
            a'.files.read (artifact.pathIn output) = .ok artifact.bytes := by
  refine ⟨generate_of_headersFail, fun g a h hnodup => ⟨?_, keeps_generate h,
    generate_again h hnodup, ?_⟩⟩
  · exact fun artifact hartifact => (isWritten_of_generate h hnodup artifact hartifact).read
  · intro files' output g' a' hsame h'
    obtain rfl := eq_of_generate h hsame h'
    exact ⟨rfl, fun artifact hartifact => (isWritten_of_generate h' hnodup artifact hartifact).read⟩

/-- Settings for some headers. -/
def pumpSettings (headers : List String) : Settings := ⟨"out", headers, "devlink"⟩

/-- The header of a pump, and some files besides. -/
def pumpFiles (more : List (Location × FileNode)) : FileTree :=
  ⟨(⟨.above 0, ["pump.hpp"]⟩, .file (Text.utf8 Interface.pumpSource)) :: more⟩

/-- What an older run may have left. -/
def staleFiles : List (Location × FileNode) :=
  [(⟨.above 0, ["out"]⟩, .directory), (⟨.above 0, ["pump_device.hpp", "out"]⟩, .file [0])]

/-- The files that are made for a pump. -/
def pumpNames : List String :=
  ["pump_device.hpp", "pump_device.cpp", "devices_table.hpp", "devices.json"]

theorem readText_pumpFiles : ∀ more ∈ [[], staleFiles],
    (pumpFiles more).readText "pump.hpp".toList = .ok Interface.pumpSource := by
  simp only [← toOption_eq_some_iff]
  decide +kernel

theorem names_generate_pumpFiles : ∀ more ∈ [[], staleFiles],
    (generate (pumpFiles more) (pumpSettings ["pump.hpp"])).1.toOption.map
      (·.artifacts.map (·.path)) = some pumpNames := by
  decide +kernel

theorem exists_generate_pumpFiles (more : List (Location × FileNode))
    (h : more ∈ [[], staleFiles]) :
    ∃ g a, generate (pumpFiles more) (pumpSettings ["pump.hpp"]) = (.ok g, a) ∧
      g.artifacts.map (·.path) = pumpNames := by
  obtain ⟨g, hg, hnames⟩ := Option.map_eq_some_iff.1 (names_generate_pumpFiles more h)
  exact ⟨g, _, Prod.ext (toOption_eq_some_iff.1 hg) rfl, hnames⟩

/-- No file that is made for the pump goes where its header is. -/
theorem not_isTarget_pump {g : Generated} {a : Aftermath}
    (h : generate (pumpFiles []) (pumpSettings ["pump.hpp"]) = (.ok g, a))
    (hnames : g.artifacts.map (·.path) = pumpNames) :
    ∀ l, a.files.locate "pump.hpp".toList = .ok l → ¬IsTarget a.files "out" g.artifacts l := by
  have hpump : (pumpFiles []).locate "pump.hpp".toList = .ok ⟨.above 0, ["pump.hpp"]⟩ := by
    rw [← toOption_eq_some_iff]
    decide +kernel
  intro l hl htarget
  obtain rfl := Except.ok.inj (((keeps_generate h).locate hpump).symm.trans hl)
  obtain ⟨artifact, hartifact, hname⟩ :=
    exists_of_isTarget (haveNames_of_build (generate_eq_ok_iff.1 h).1) htarget
  have hmem : artifact.path ∈ pumpNames := hnames ▸ List.mem_map_of_mem hartifact
  rw [← Option.some.inj hname] at hmem
  exact absurd hmem (by decide)

/-- A missing header keeps the files for the other one from being written; without it they are
written, also over older ones, and are the same if they are written again. -/
theorem generate_all_or_nothing_pump :
    (∃ e, generate (pumpFiles []) (pumpSettings ["pump.hpp", "valve.hpp"]) =
      (.error e, ⟨pumpFiles [], []⟩)) ∧
    ∃ g a, generate (pumpFiles []) (pumpSettings ["pump.hpp"]) = (.ok g, a) ∧
      g.artifacts.map (·.path) = pumpNames ∧
      (∀ artifact ∈ g.artifacts, a.files.read (artifact.pathIn "out") = .ok artifact.bytes) ∧
      (∃ a', generate a.files (pumpSettings ["pump.hpp"]) = (.ok g, a') ∧
        ∀ l, a'.files.node? l = a.files.node? l) ∧
      ∃ a', generate (pumpFiles staleFiles) (pumpSettings ["pump.hpp"]) = (.ok g, a') ∧
        ∀ artifact ∈ g.artifacts, a'.files.read (artifact.pathIn "out") = .ok artifact.bytes := by
  have hmissing : HeadersFail (pumpFiles []) (pumpSettings ["pump.hpp", "valve.hpp"]) := by
    refine .inl ⟨"valve.hpp", by simp [pumpSettings], .reading (e := .notFound) ?_⟩
    decide +kernel
  obtain ⟨g, a, h, hnames⟩ := exists_generate_pumpFiles [] (by simp)
  obtain ⟨g', a', h', -⟩ := exists_generate_pumpFiles staleFiles (by simp)
  have hnodup : (g.artifacts.map (·.path)).Nodup := by
    rw [hnames]
    decide
  obtain ⟨hread, -, hagain, helsewhere⟩ :=
    (generate_all_or_nothing (pumpFiles []) (pumpSettings ["pump.hpp"])).2 g a h hnodup
  have hheader : ∀ header ∈ (pumpSettings ["pump.hpp"]).headers,
      (pumpFiles staleFiles).readText header.toList = (pumpFiles []).readText header.toList := by
    intro header hheader
    rw [List.mem_singleton.1 hheader, readText_pumpFiles staleFiles (by simp),
      readText_pumpFiles [] (by simp)]
  obtain ⟨rfl, hread'⟩ := helsewhere (pumpFiles staleFiles) "out" g' a' hheader h'
  refine ⟨(generate_all_or_nothing _ _).1 hmissing, g', a, h, hnames, hread, ?_, a', h', hread'⟩
  obtain ⟨a'', hrun, -, hsame⟩ := hagain fun header hheader => by
    rw [List.mem_singleton.1 hheader]
    exact not_isTarget_pump h hnames
  exact ⟨a'', hrun, hsame⟩

end Instrument.Generator
