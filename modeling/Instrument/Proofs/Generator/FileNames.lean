import Instrument.Proofs.Generator.Generating

/-!
The paths of generated files. Main statement: no two files of a run have the same path just if the
tags of its devices differ in lower case as well; and those of classes whose names hold no capital
beyond ASCII do.
-/

namespace Instrument.Generator

open Interface (Description DeviceTable)
open Success

/-! ### The names of the files -/

/-- The paths of the files of a device. -/
def devicePaths (d : Description) : List String := [fileStem d ++ ".hpp", fileStem d ++ ".cpp"]

/-- The paths of the files of all devices together. -/
def tablePaths : List String := ["devices_table.hpp", "devices.json"]

/-- The files of a run are those of each device, in the order of the devices, and those of the
table. -/
theorem paths_of_build {files : FileTree} {settings : Settings} {g : Generated}
    (h : build files settings = .ok g) :
    g.artifacts.map (·.path) = g.table.users.flatMap devicePaths ++ tablePaths := by
  simp only [build, bind_eq_ok_iff, mapError_eq_ok_iff, pure_eq_ok_iff] at h
  obtain ⟨found, -, table, htable, rfl⟩ := h
  have hlength : table.users.length = (found.map (·.2)).length := by
    rw [Interface.length_numberFrom (DeviceTable.users_of_ofDescriptions htable), List.length_map,
      List.length_map]
  have husers : (table.users.zip (found.map (·.2))).map Prod.fst = table.users :=
    List.map_fst_zip (Nat.le_of_eq hlength)
  calc ((table.users.zip (found.map (·.2))).flatMap
        (fun entry => deviceArtifacts entry.1 entry.2) ++ tableArtifacts table).map (·.path)
      = (table.users.zip (found.map (·.2))).flatMap (fun entry => devicePaths entry.1) ++
          tablePaths := by
        rw [List.map_append, List.map_flatMap]
        rfl
    _ = ((table.users.zip (found.map (·.2))).map Prod.fst).flatMap devicePaths ++ tablePaths := by
        rw [List.flatMap_map]
    _ = table.users.flatMap devicePaths ++ tablePaths := by rw [husers]

/-- A path of a device is its tag in lower case with one of two endings. -/
theorem exists_of_mem_devicePaths {d : Description} {path : String} (h : path ∈ devicePaths d) :
    ∃ ending ∈ ["_device.hpp".toList, "_device.cpp".toList],
      path.toList = (lowerTag d).toList ++ ending := by
  have hpath (ending : String) : (fileStem d ++ ending).toList =
      (lowerTag d).toList ++ ("_device".toList ++ ending.toList) := by
    rw [fileStem, String.toList_append, String.toList_append, List.append_assoc]
  rcases List.mem_pair.1 h with rfl | rfl
  · exact ⟨_, List.mem_cons_self .., hpath ".hpp"⟩
  · exact ⟨_, List.mem_cons_of_mem _ (List.mem_cons_self ..), hpath ".cpp"⟩

theorem nodup_devicePaths (d : Description) : (devicePaths d).Nodup := by
  rw [devicePaths, List.nodup_cons, List.mem_singleton]
  refine ⟨fun hsame => ?_, List.nodup_singleton _⟩
  have hending := congrArg String.toList hsame
  rw [String.toList_append, String.toList_append] at hending
  exact absurd (List.append_cancel_left hending) (by decide)

/-- Devices share a path just if their tags are the same in lower case. -/
theorem disjoint_devicePaths_iff {d d' : Description} :
    List.Disjoint (devicePaths d) (devicePaths d') ↔ lowerTag d ≠ lowerTag d' := by
  constructor
  · intro hdisjoint hsame
    refine hdisjoint (List.mem_cons_self ..) ?_
    rw [devicePaths, fileStem, fileStem, hsame]
    exact List.mem_cons_self ..
  · intro hne path hpath hpath'
    obtain ⟨ending, hending, heq⟩ := exists_of_mem_devicePaths hpath
    obtain ⟨ending', hending', heq'⟩ := exists_of_mem_devicePaths hpath'
    have hlength : ∀ e ∈ ["_device.hpp".toList, "_device.cpp".toList], e.length = 11 := by decide
    have htags := List.append_inj_left' (heq.symm.trans heq')
      ((hlength ending hending).trans (hlength ending' hending').symm)
    exact hne (String.toList_injective htags)

/-- No device has a path of the table. -/
theorem not_mem_tablePaths {d : Description} {path : String} (h : path ∈ devicePaths d) :
    path ∉ tablePaths := by
  obtain ⟨ending, hending, heq⟩ := exists_of_mem_devicePaths h
  have hends : ∀ e ∈ ["_device.hpp".toList, "_device.cpp".toList], ∀ shared ∈ tablePaths,
      ¬e <:+ shared.toList := by decide
  exact fun hmem => hends ending hending path hmem ⟨_, heq.symm⟩

theorem nodup_paths_of_build {files : FileTree} {settings : Settings} {g : Generated}
    (h : build files settings = .ok g) :
    (g.artifacts.map (·.path)).Nodup ↔ (g.table.users.map lowerTag).Nodup := by
  have hshared : List.Disjoint (g.table.users.flatMap devicePaths) tablePaths := by
    intro path hpath
    obtain ⟨d, -, hmem⟩ := List.mem_flatMap.1 hpath
    exact not_mem_tablePaths hmem
  have htable : tablePaths.Nodup := by decide
  rw [paths_of_build h, List.nodup_append', List.nodup_flatMap, List.Nodup, List.pairwise_map]
  constructor
  · rintro ⟨⟨-, hpairwise⟩, -⟩
    exact hpairwise.imp fun hdisjoint => disjoint_devicePaths_iff.1 hdisjoint
  · intro hpairwise
    exact ⟨⟨fun d _ => nodup_devicePaths d, hpairwise.imp fun hne =>
      disjoint_devicePaths_iff.2 hne⟩, htable, hshared⟩

/-! ### Tags in lower case -/

/-- No small ASCII letter is left in a tag. -/
theorem map_toUpper_deviceTag (name : String) :
    (deviceTag name).toList.map Char.toUpper = (deviceTag name).toList := by
  unfold deviceTag
  split
  · rfl
  · next c cs _ =>
    rw [String.toList_ofList, List.map_cons, Text.toUpper_toUpper, List.map_flatMap]
    congr 1
    refine List.flatMap_congr fun d _ => ?_
    split
    · next hupper =>
      have hsame : d.toUpper = d := by
        by_cases hd : d.toNat < 128
        · revert hupper
          exact Text.forall_ascii (P := fun d => d.isUpper = true → d.toUpper = d)
            (by decide) hd
        · exact Text.toUpper_of_not_ascii hd
      rw [List.map_cons, List.map_singleton, hsame]
      rfl
    · rw [List.map_singleton, Text.toUpper_toUpper]

/-- A tag keeps its case beyond ASCII if the name of the class does. -/
theorem keepsCase_deviceTag {name : String} (h : ∀ c ∈ name.toList, Text.KeepsCase c) :
    ∀ x ∈ (deviceTag name).toList, Text.KeepsCase x := by
  intro x hx
  rcases Discovery.exists_of_mem_deviceTag hx with rfl | ⟨c, hc, rfl | rfl⟩
  · decide
  · exact h x hc
  · by_cases hascii : c.toNat < 128
    · exact Text.forall_ascii (P := fun c => Text.KeepsCase c.toUpper) (by decide) hascii
    · rw [Text.toUpper_of_not_ascii hascii]
      exact h c hc

/-- Tags of classes whose names keep their case beyond ASCII differ in lower case as well. -/
theorem nodup_lowerTag {found : List Description} {t : DeviceTable}
    (hfound : Interface.AreDeclared found) (h : DeviceTable.ofDescriptions found = .ok t)
    (hcase : ∀ d ∈ t.users, ∀ c ∈ d.name.toList, Text.KeepsCase c) :
    (t.users.map lowerTag).Nodup := by
  have htag {d : Description} (hd : d ∈ t.users) : d.tag = deviceTag d.name :=
    DeviceTable.tag_of_mem hfound h (List.mem_cons_of_mem _ hd)
  have hnodup : t.users.Nodup :=
    (List.nodup_cons.1 (DeviceTable.nodup_ids h).of_map).2
  refine hnodup.map_on fun d hd d' hd' hlower => ?_
  have htags : d.tag.toList = d'.tag.toList := by
    rw [lowerTag, lowerTag, htag hd, htag hd'] at hlower
    rw [htag hd, htag hd']
    exact Text.eq_of_lower_eq (keepsCase_deviceTag (hcase d hd))
      (keepsCase_deviceTag (hcase d' hd')) (map_toUpper_deviceTag _) (map_toUpper_deviceTag _)
      (String.ofList_injective hlower)
  exact DeviceTable.eq_of_tag_eq h (List.mem_cons_of_mem _ hd) (List.mem_cons_of_mem _ hd')
    (String.toList_injective htags)

/-! ### Files that do not replace each other -/

/-- The files of a run have different paths just if the tags of its devices differ in lower case,
which they do if the names of the classes hold no capital of another script than ASCII. -/
theorem nodup_paths_iff {files : FileTree} {settings : Settings} {g : Generated}
    (h : build files settings = .ok g) :
    ((g.artifacts.map (·.path)).Nodup ↔ (g.table.users.map lowerTag).Nodup) ∧
      ((∀ d ∈ g.table.users, ∀ c ∈ d.name.toList, Text.KeepsCase c) →
        (g.artifacts.map (·.path)).Nodup) := by
  have hiff := nodup_paths_of_build h
  obtain ⟨found, hfound, htable, -⟩ := mem_artifacts_of_build h
  exact ⟨hiff, fun hcase => hiff.2 (nodup_lowerTag hfound htable hcase)⟩

/-- A header with two empty classes. -/
def twoClasses (first second : String) : String :=
  "class " ++ first ++ " \x7b\x7d;\nclass " ++ second ++ " \x7b\x7d;\n"

/-- The only file there is, a header with two empty classes. -/
def twoClassFiles (first second : String) : FileTree :=
  ⟨[(⟨.above 0, ["pumps.hpp"]⟩, .file (Text.utf8 (twoClasses first second)))]⟩

/-- The names of the classes and the paths of the files of a run. -/
def outline (files : FileTree) : Option (List String × List String) :=
  (build files (pumpSettings ["pumps.hpp"])).toOption.map fun g =>
    (g.table.users.map (·.name), g.artifacts.map (·.path))

theorem exists_build_of_outline {files : FileTree} {names paths : List String}
    (h : outline files = some (names, paths)) :
    ∃ g, build files (pumpSettings ["pumps.hpp"]) = .ok g ∧ g.table.users.map (·.name) = names ∧
      g.artifacts.map (·.path) = paths := by
  obtain ⟨g, hg, heq⟩ := Option.map_eq_some_iff.1 h
  cases heq
  exact ⟨g, toOption_eq_some_iff.1 hg, rfl, rfl⟩

theorem outline_pumps : outline (twoClassFiles "PumpA" "Pumpé") =
    some (["PumpA", "Pumpé"], ["pump_a_device.hpp", "pump_a_device.cpp", "pumpé_device.hpp",
      "pumpé_device.cpp", "devices_table.hpp", "devices.json"]) := by
  decide +kernel

theorem outline_accents : outline (twoClassFiles "É" "é") =
    some (["É", "é"], ["é_device.hpp", "é_device.cpp", "é_device.hpp", "é_device.cpp",
      "devices_table.hpp", "devices.json"]) := by
  decide +kernel

/-- A small letter of another script keeps the files apart. -/
theorem nodup_paths_iff_pumps :
    ∃ g, build (twoClassFiles "PumpA" "Pumpé") (pumpSettings ["pumps.hpp"]) = .ok g ∧
      g.table.users.map (·.name) = ["PumpA", "Pumpé"] ∧ (g.artifacts.map (·.path)).Nodup := by
  obtain ⟨g, hg, hnames, -⟩ := exists_build_of_outline outline_pumps
  refine ⟨g, hg, hnames, (nodup_paths_iff hg).2 fun d hd => ?_⟩
  have hkept : ∀ name ∈ ["PumpA", "Pumpé"], ∀ c ∈ name.toList, Text.KeepsCase c := by
    decide
  exact hkept d.name (hnames ▸ List.mem_map_of_mem hd)

/-- Of two classes whose names differ in the case of such a letter, the second one writes over the
files of the first. -/
theorem not_nodup_paths_accents :
    ∃ g, build (twoClassFiles "É" "é") (pumpSettings ["pumps.hpp"]) = .ok g ∧
      g.table.users.map (·.name) = ["É", "é"] ∧ ¬(g.artifacts.map (·.path)).Nodup := by
  obtain ⟨g, hg, hnames, hpaths⟩ := exists_build_of_outline outline_accents
  refine ⟨g, hg, hnames, ?_⟩
  rw [hpaths]
  decide

end Instrument.Generator
