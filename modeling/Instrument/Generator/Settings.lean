import Instrument.File.Tree
import Instrument.Generator.SettingsText
import Instrument.Interface.Error
import Instrument.Text.Letter

/-!
The settings of a run of the generator: which headers are read, under which word annotations are
looked for, and where the generated files go. Main statement: settings that are loaded are valid.
-/

namespace Instrument.Generator

/-- Why some text holds no settings, or none that are valid. -/
inductive SettingsFault where
  | malformed
  | noHeader
  | invalidWord (name : String)
deriving DecidableEq, Repr

/-- The reason in words. -/
def SettingsFault.message : SettingsFault → String
  | malformed => "malformed settings"
  | noHeader => "no device header listed"
  | invalidWord name => "invalid pragma namespace '" ++ name ++ "'"

/-- Why a run fails. -/
inductive GeneratorError where
  | declaration (e : Interface.DeclarationError)
  | file (path : String) (e : SystemError)
  | settings (fault : SettingsFault)
deriving DecidableEq, Repr

/-- The error in words. -/
def GeneratorError.message : GeneratorError → String
  | declaration e => e.message
  | file path e => path ++ ": " ++ e.message
  | settings fault => "configuration error: " ++ fault.message

/-- The settings of a run. -/
structure Settings where
  output : String
  /-- The headers in the order of the numbers that their devices get. -/
  headers : List String
  /-- The word in front of every annotation. -/
  word : String := "devlink"
deriving DecidableEq, Repr

namespace Settings

/-- Whether annotations can begin with a word. -/
def isWord (name : String) : Bool :=
  !name.isEmpty && name.toList.all fun c => Text.isAlphanumeric c || c == '_'

/-- Settings under which a run makes sense. -/
def IsValid (s : Settings) : Prop := s.headers ≠ [] ∧ isWord s.word = true

/-- Refuses settings that are not valid. -/
def check (s : Settings) : Except SettingsFault Settings :=
  if s.headers.isEmpty then .error .noHeader
  else if !isWord s.word then .error (.invalidWord s.word)
  else .ok s

/-- The settings with given names and values; there are no others. -/
def ofValues? (found : List (String × SettingValue)) : Option Settings :=
  if found.all fun (name, _) => ["output_dir", "headers", "pragma"].contains name then
    match found.lookup "output_dir", found.lookup "headers", found.lookup "pragma" with
    | some (.text output), some (.texts headers), none => some { output, headers }
    | some (.text output), some (.texts headers), some (.text name) =>
      some ⟨output, headers, name⟩
    | _, _, _ => none
  else none

/-- The settings that a text holds. -/
def ofText (text : String) : Except SettingsFault Settings :=
  match (settings? text).bind ofValues? with
  | some s => s.check
  | none => .error .malformed

/-- The settings with their paths counted from a directory. -/
def within (s : Settings) (directory : List Char) : Settings :=
  let join (path : String) := String.ofList (Path.join directory path.toList)
  { s with output := join s.output, headers := s.headers.map join }

/-- The settings in a file. Paths in them are counted from its directory. -/
def load (files : FileTree) (path : String) : Except GeneratorError Settings := do
  let text ← (files.readText path.toList).mapError (.file path)
  let s ← (ofText text).mapError .settings
  return s.within ((Path.parent? path.toList).getD [])

theorem check_eq_ok_iff {s t : Settings} : s.check = .ok t ↔ s = t ∧ s.IsValid := by
  simp only [check, IsValid]
  split
  · simp_all
  · split <;> simp_all

theorem isValid_of_ofText {text : String} {s : Settings} (h : ofText text = .ok s) :
    s.IsValid := by
  simp only [ofText] at h
  split at h
  · obtain ⟨rfl, hvalid⟩ := check_eq_ok_iff.1 h
    exact hvalid
  · simp at h

theorem isValid_within {s : Settings} (h : s.IsValid) (directory : List Char) :
    (s.within directory).IsValid := by
  simpa [IsValid, within] using h

theorem isValid_of_load {files : FileTree} {path : String} {s : Settings}
    (h : load files path = .ok s) : s.IsValid := by
  simp only [load, bind, Except.bind] at h
  split at h
  · simp at h
  · split at h
    · simp at h
    · next found hfound =>
      cases h
      refine isValid_within ?_ _
      cases htext : ofText _ with
      | error e => rw [htext] at hfound; cases hfound
      | ok t =>
        rw [htext] at hfound
        cases hfound
        exact isValid_of_ofText htext

end Settings

end Instrument.Generator
