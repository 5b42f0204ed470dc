import Instrument.CommandLine.Generate
import Instrument.Proofs.Success

/-!
The settings that a command line of the generator comes to. Main statement: settings are valid when
they come from a file or from the arguments, but a word that is given for the annotations replaces
theirs unchecked, whatever it is; and without settings no header has a say in how the run ends.
-/

namespace Instrument.CommandLine.Generate

open Generator Success

variable {files files' : FileTree} {arguments : List String} {o o' : Options} {s : Settings}

/-- The settings under which arguments have the headers read, if they do. -/
def reached? (files : FileTree) (arguments : List String) : Option Settings :=
  match read arguments with
  | .ok (.run o) => (settings files o).toOption
  | _ => none

theorem reached?_eq_some_iff : reached? files arguments = some s ↔
    ∃ o, read arguments = .ok (.run o) ∧ settings files o = .ok s := by
  unfold reached?
  split
  · next o h =>
    rw [toOption_eq_some_iff, h]
    simp
  · next h =>
    constructor
    · nofun
    · rintro ⟨o, ho, -⟩
      exact (h o ho).elim

/-! ### What the arguments say -/

/-- The options in front of the word of the annotations. -/
def wordOptions : List String := ["--pragma", "-p"]

/-- Some text is given for the word of the annotations. -/
def GivesWord (arguments : List String) (word : String) : Prop :=
  ∃ option ∈ wordOptions, [option, word] <:+: arguments

theorem GivesWord.cons {word : String} (h : GivesWord arguments word) (first : String) :
    GivesWord (first :: arguments) word := by
  obtain ⟨option, hoption, hinfix⟩ := h
  exact ⟨option, hoption, hinfix.trans (List.suffix_cons first arguments).isInfix⟩

/-- A word that is known at the end was known before or is given. -/
theorem word?_of_readMore {word : String} (h : readMore o arguments = .ok (.run o'))
    (hword : o'.word? = some word) : o.word? = some word ∨ GivesWord arguments word := by
  fun_induction readMore o arguments with
  | case1 o =>
    cases h
    exact .inl hword
  | case2 o argument _ value rest ih =>
    exact (ih h).imp_right fun hgives => (hgives.cons value).cons argument
  | case4 o argument _ _ value rest ih =>
    exact (ih h).imp_right fun hgives => (hgives.cons value).cons argument
  | case6 o argument _ _ hoption value rest ih =>
    refine .inr ?_
    obtain hsame | hgives := ih h
    · cases hsame
      exact ⟨argument, by simpa [wordOptions] using hoption, [], rest, rfl⟩
    · exact (hgives.cons value).cons argument
  | case8 o argument rest _ _ _ _ ih => exact (ih h).imp_right fun hgives => hgives.cons argument
  | case9 => simp at h
  | case11 o argument rest _ _ _ _ _ _ ih =>
    exact (ih h).imp_right fun hgives => hgives.cons argument
  | case3 => cases h
  | case5 => cases h
  | case7 => cases h
  | case10 => cases h

/-- A word can be given after all other arguments, and then it counts. -/
theorem readMore_append_word (h : readMore o arguments = .ok (.run o')) (word : String) :
    readMore o (arguments ++ ["--pragma", word]) = .ok (.run { o' with word? := some word }) := by
  -- by the options in their order; the word that is added is read last
  fun_induction readMore o arguments with
  | case1 o =>
    cases h
    rfl
  | case2 o argument hoption value rest ih =>
    rw [List.cons_append, List.cons_append, readMore, if_pos hoption]
    exact ih h
  | case4 o argument hconfig hoption value rest ih =>
    rw [List.cons_append, List.cons_append, readMore, if_neg hconfig, if_pos hoption]
    exact ih h
  | case6 o argument hconfig houtput hoption value rest ih =>
    rw [List.cons_append, List.cons_append, readMore, if_neg hconfig, if_neg houtput,
      if_pos hoption]
    exact ih h
  | case8 o argument rest hconfig houtput hword hoption ih =>
    rw [List.cons_append, readMore.eq_def]
    dsimp only
    rw [if_neg hconfig, if_neg houtput, if_neg hword, if_pos hoption]
    exact ih h
  | case9 => simp at h
  | case11 o argument rest hconfig houtput hword hverbose hhelp hunknown ih =>
    rw [List.cons_append, readMore.eq_def]
    dsimp only
    rw [if_neg hconfig, if_neg houtput, if_neg hword, if_neg hverbose, if_neg hhelp,
      if_neg hunknown]
    exact ih h
  | case3 => cases h
  | case5 => cases h
  | case7 => cases h
  | case10 => cases h

/-! ### The settings of a run -/

/-- Some files hold the same text where the arguments say that the settings are. -/
def HoldSameSettings (files files' : FileTree) (arguments : List String) : Prop :=
  ∀ o path, read arguments = .ok (.run o) → o.config? = some path →
    files'.readText path.toList = files.readText path.toList

theorem settings_congr (h : ∀ path, o.config? = some path →
    files'.readText path.toList = files.readText path.toList) :
    settings files' o = settings files o := by
  simp only [settings]
  split
  · next path hpath _ _ => simp only [Settings.load, h path hpath]
  all_goals rfl

/-- Settings are valid but for a word that the arguments give. -/
theorem settings_eq_ok (h : settings files o = .ok s) :
    s.headers ≠ [] ∧ (s.IsValid ∨ o.word? = some s.word) := by
  obtain ⟨found, hfound, rfl⟩ := map_eq_ok_iff.1 h
  have hvalid : found.IsValid := by
    split at hfound
    · exact Settings.isValid_of_load (mapError_eq_ok_iff.1 hfound)
    · cases hfound
      exact ⟨List.cons_ne_nil _ _, (by decide : Settings.isWord "devlink" = true)⟩
    · cases hfound
  refine ⟨hvalid.1, ?_⟩
  cases hword : o.word? with
  | none => exact .inl hvalid
  | some word => exact .inr rfl

theorem settings_override (h : settings files o = .ok s) (word : String) :
    settings files { o with word? := some word } = .ok { s with word := word } := by
  obtain ⟨found, hfound, rfl⟩ := map_eq_ok_iff.1 h
  exact map_eq_ok_iff.2 ⟨found, hfound, rfl⟩

/-- A run that has settings leaves the files that they make of the headers. -/
theorem files_outcome_of_reached? (h : reached? files arguments = some s) :
    (outcome files arguments).files = (generate files s).2.files := by
  obtain ⟨o, hread, hsettings⟩ := reached?_eq_some_iff.1 h
  simp only [outcome, answer, hread, run, hsettings]
  split <;> rfl

/-- There are no settings if the arguments make no sense, ask for help, or name none. -/
theorem reached?_eq_none (h : reached? files arguments = none) :
    (∃ fault, read arguments = .error fault) ∨ read arguments = .ok .help ∨
      ∃ o e, read arguments = .ok (.run o) ∧ settings files o = .error e := by
  cases hread : read arguments with
  | error fault => exact .inl ⟨fault, rfl⟩
  | ok request =>
    cases request with
    | help => exact .inr (.inl rfl)
    | run o =>
      cases hsettings : settings files o with
      | ok s =>
        rw [reached?_eq_some_iff.2 ⟨o, hread, hsettings⟩] at h
        cases h
      | error e => exact .inr (.inr ⟨o, e, rfl, hsettings⟩)

/-- Without settings a run tells how the program is used, or what is wrong. -/
theorem outcome_of_reached?_eq_none (h : reached? files arguments = none) :
    read arguments = .ok .help ∧ outcome files arguments = ⟨.exit 0, usage, [], files⟩ ∨
      ∃ output line, outcome files arguments = ⟨.exit 2, output, ["error: " ++ line], files⟩ := by
  obtain ⟨fault, hread⟩ | hread | ⟨o, e, hread, hsettings⟩ := reached?_eq_none h
  · exact .inr ⟨usage, fault.message, by rw [outcome, hread, answer]⟩
  · exact .inl ⟨hread, by rw [outcome, hread, answer]⟩
  · refine .inr ⟨"", e.message, ?_⟩
    simp only [outcome, hread, answer, run, hsettings]

/-- Whether a run has settings hangs on no file but that of the settings. -/
theorem reached?_congr (h : HoldSameSettings files files' arguments) :
    reached? files' arguments = reached? files arguments := by
  unfold reached?
  split
  · next o hread => rw [settings_congr fun path => h o path hread]
  · rfl

/-- How a run without settings ends hangs on no file but that of the settings. -/
theorem outcome_congr (h : HoldSameSettings files files' arguments)
    (hnone : reached? files arguments = none) :
    outcome files' arguments = { outcome files arguments with files := files' } := by
  obtain ⟨fault, hread⟩ | hread | ⟨o, e, hread, hsettings⟩ := reached?_eq_none hnone
  · simp only [outcome, hread, answer]
  · simp only [outcome, hread, answer]
  · have hsettings' := (settings_congr fun path => h o path hread).trans hsettings
    simp only [outcome, hread, answer, run, hsettings, hsettings']

/-! ### Annotations -/

/-- What is left behind a blank does not begin with a blank. -/
theorem eq_nil_of_afterBlank? {cs rest rest' : List Char}
    (h : Interface.afterBlank? cs = some rest) (h' : Interface.afterBlank? rest = some rest') :
    rest = [] := by
  cases cs with
  | nil =>
    cases h
    rfl
  | cons c cs =>
    rw [Interface.afterBlank?] at h
    split at h
    · cases h
      have hhead := List.head?_dropWhile_not Text.isBlank (c :: cs)
      rw [← Text.trimStart] at hhead
      cases htrimmed : Text.trimStart (c :: cs) with
      | nil => rfl
      | cons d ds =>
        rw [htrimmed] at hhead h'
        have hd : ¬Text.isBlank d = true := by simpa using hhead
        rw [Interface.afterBlank?, if_neg hd] at h'
        cases h'
    · cases h

/-- Where annotations begin with no word at all, a line that is read as one holds nothing. -/
theorem directiveOn?_nil {line directive : List Char}
    (h : Interface.directiveOn? [] line = some directive) : directive = [] := by
  simp only [Interface.directiveOn?, bind, Option.bind_eq_some_iff] at h
  obtain ⟨sign, -, keyword, -, h⟩ := h
  split at h
  · cases h
  simp only [Option.bind_eq_some_iff] at h
  obtain ⟨name, hname, text, htext, rest, hrest, hdirective⟩ := h
  obtain rfl := Option.some.inj htext
  obtain rfl := eq_nil_of_afterBlank? hname hrest
  cases hrest
  cases hdirective
  rfl

/-- Where annotations begin with no word at all, none asks for anything. -/
theorem directive_of_mem_pragmasFrom_nil {line : Nat} {texts : List (List Char)}
    {p : Interface.Pragma} (h : p ∈ Interface.pragmasFrom [] line texts) : p.directive = "" := by
  induction texts generalizing line with
  | nil => cases h
  | cons text texts ih =>
    rw [Interface.pragmasFrom, List.mem_append] at h
    rcases h with h | h
    · obtain ⟨directive, hdirective, rfl⟩ := Option.map_eq_some_iff.1 (Option.mem_toList.1 h)
      rw [directiveOn?_nil hdirective, String.ofList_nil]
    · exact ih h

/-! ### Command lines and settings -/

/-- Settings under which the headers are read name a header; their word is one that annotations can
begin with, or it is given among the arguments. Any text at all can be given so: after the other
arguments it replaces the word, and if it is empty no annotation asks for anything. A command line
without settings asks for help or ends with an error, leaves all files, and no file but that of the
settings has a say in it. -/
theorem reached_valid_unless_word_given (files : FileTree) (arguments : List String) :
    (∀ s, reached? files arguments = some s →
      s.headers ≠ [] ∧ (s.IsValid ∨ GivesWord arguments s.word) ∧
      (outcome files arguments).files = (generate files s).2.files ∧
      ∀ word, reached? files (arguments ++ ["--pragma", word]) =
        some { s with word := word }) ∧
    (∀ source, ∀ p ∈ Interface.pragmas "".toList source, p.directive = "") ∧
    (reached? files arguments = none →
      (read arguments = .ok .help ∧ outcome files arguments = ⟨.exit 0, usage, [], files⟩ ∨
        ∃ output line, outcome files arguments = ⟨.exit 2, output, ["error: " ++ line], files⟩) ∧
      ∀ files', HoldSameSettings files files' arguments →
        reached? files' arguments = none ∧
        outcome files' arguments = { outcome files arguments with files := files' }) := by
  refine ⟨fun s h => ?_, fun source p hp => directive_of_mem_pragmasFrom_nil hp, fun h => ?_⟩
  · obtain ⟨o, hread, hsettings⟩ := reached?_eq_some_iff.1 h
    obtain ⟨hheaders, hvalid⟩ := settings_eq_ok hsettings
    refine ⟨hheaders, hvalid.imp_right fun hword => ?_, files_outcome_of_reached? h,
      fun word => ?_⟩
    · obtain hnone | hgives := word?_of_readMore hread hword
      · cases hnone
      · exact hgives
    · exact reached?_eq_some_iff.2
        ⟨_, readMore_append_word hread word, settings_override hsettings word⟩
  · exact ⟨outcome_of_reached?_eq_none h, fun files' hsame =>
      ⟨(reached?_congr hsame).trans h, outcome_congr hsame h⟩⟩

/-- A pump with a method that is not to be an operation. -/
def resetFiles : FileTree :=
  ⟨[(⟨.above 0, ["pump.hpp"]⟩, .file (Text.utf8
    "class Pump \x7b\n  public:\n    void start();\n    #pragma devlink exclude\n    void reset();\n\x7d;\n"))]⟩

/-- The settings for the pump. -/
def resetSettings (word : String) : Settings := ⟨"out", ["pump.hpp"], word⟩

/-- A word for the pump can be given, whatever the headers are; without files there are no
settings to load. -/
theorem reached_valid_unless_word_given_pump :
    reached? resetFiles ["--output", "out", "pump.hpp"] = some (resetSettings "devlink") ∧
      reached? resetFiles (["--output", "out", "pump.hpp"] ++ ["--pragma", "a b"]) =
        some (resetSettings "a b") ∧
      reached? resetFiles ["-c", "devgen.toml"] = none ∧
      outcome ⟨[]⟩ ["-c", "devgen.toml"] =
        { outcome resetFiles ["-c", "devgen.toml"] with files := ⟨[]⟩ } := by
  have hreached : reached? resetFiles ["--output", "out", "pump.hpp"] =
      some (resetSettings "devlink") := by
    decide
  have hnone : reached? resetFiles ["-c", "devgen.toml"] = none := by
    decide +kernel
  obtain ⟨-, -, -, hgiven⟩ := (reached_valid_unless_word_given resetFiles _).1 _ hreached
  obtain ⟨-, hsame⟩ := (reached_valid_unless_word_given resetFiles _).2.2 hnone
  refine ⟨hreached, hgiven "a b", hnone, (hsame ⟨[]⟩ ?_).2⟩
  rintro o path hread hpath
  cases hread
  cases hpath
  rfl

/-- With an empty word the pump is generated without an error, and the method that is not to be an
operation is one. -/
theorem not_isValid_reset_pump :
    reached? resetFiles ["--output", "out", "--pragma", "", "pump.hpp"] =
        some (resetSettings "") ∧
      ¬(resetSettings "").IsValid ∧
      (outcome resetFiles ["--output", "out", "--pragma", "", "pump.hpp"]).ending = .exit 0 ∧
      (outcome resetFiles ["--output", "out", "--pragma", "", "pump.hpp"]).output =
        "#2 PUMP (2 operations)\nOutput: out\n" ∧
      (outcome resetFiles ["--output", "out", "pump.hpp"]).output =
        "#2 PUMP (1 operations)\nOutput: out\n" := by
  refine ⟨by decide, fun h => absurd h.2 (by decide), ?_⟩
  decide +kernel

end Instrument.CommandLine.Generate
