import Instrument.File.Tree
import Instrument.Proofs.Success
import Instrument.Proofs.Text.Pieces
import Mathlib.Data.List.Induction

/-!
What changes to a tree of files keep. Main statements: a path that leads somewhere leads there as
long as no directory is taken away; making directories takes none away and changes no file; writing
a file changes no other; and a directory in which a file can be written need not be made.
-/

namespace Instrument

open Success

/-! ### Paths into a directory -/

namespace Path

variable {directory name : List Char}

theorem pieces_append_slash (a b : List Char) : pieces (a ++ '/' :: b) = pieces a ++ pieces b :=
  Text.pieces_append_sep rfl a b

/-- Whether a name can be that of a file in any directory. -/
structure IsFileName (name : List Char) : Prop where
  slash : '/' ∉ name
  long : 2 < name.length

theorem IsFileName.ne (h : IsFileName name) :
    isVoid name = false ∧ (name == ['.', '.']) = false ∧ name ≠ [] := by
  obtain ⟨-, hlong⟩ := h
  refine ⟨?_, ?_, ?_⟩
  · rw [isVoid, Bool.or_eq_false_iff, List.isEmpty_eq_false_iff, beq_eq_false_iff_ne]
    constructor <;> rintro rfl <;> simp at hlong
  · rw [beq_eq_false_iff_ne]
    rintro rfl
    simp at hlong
  · rintro rfl
    simp at hlong

/-- The names on the way to what is in a directory. -/
def namesTo (directory : List Char) : List (List Char) :=
  if directory.isEmpty then []
  else if directory.getLast? == some '/' then pieces directory.dropLast
  else pieces directory

theorem IsFileName.isAbsolute (h : IsFileName name) : isAbsolute name = false := by
  rw [Path.isAbsolute, beq_eq_false_iff_ne]
  intro hhead
  exact h.slash (List.mem_of_mem_head? hhead)

theorem join_eq (h : IsFileName name) :
    join directory name =
      (if directory.isEmpty then name
      else if directory.getLast? == some '/' then directory ++ name
      else directory ++ '/' :: name) := by
  simp [join, h.isAbsolute]

/-- The path to a file in a directory. -/
theorem pieces_join (h : IsFileName name) :
    pieces (join directory name) = namesTo directory ++ [name] := by
  have hname : pieces name = [name] :=
    Text.pieces_of_forall fun c hc => by simpa using fun heq : c = '/' => h.slash (heq ▸ hc)
  rw [join_eq h, namesTo]
  split
  · exact hname
  split
  · next hlast =>
    obtain ⟨before, rfl⟩ := List.getLast?_eq_some_iff.1 (beq_iff_eq.1 hlast)
    rw [List.append_assoc, List.singleton_append, pieces_append_slash, hname,
      List.dropLast_concat]
  · rw [pieces_append_slash, hname]

theorem prefix_join (h : IsFileName name) : directory <+: join directory name := by
  rw [join_eq h]
  split
  · next hempty =>
    rw [List.isEmpty_iff.1 hempty]
    exact List.nil_prefix
  split
  · exact List.prefix_append _ _
  · exact List.prefix_append _ _

/-- No slash ends the path to a file in a directory. -/
theorem getLast?_join (h : IsFileName name) : (join directory name).getLast? ≠ some '/' := by
  have hlast : name.getLast? ≠ some '/' := fun hlast => h.slash (List.mem_of_getLast? hlast)
  have happend (front : List Char) : (front ++ name).getLast? ≠ some '/' := by
    rw [List.getLast?_append, List.getLast?_eq_some_getLast h.ne.2.2, Option.some_or]
    exact List.getLast?_eq_some_getLast h.ne.2.2 ▸ hlast
  rw [join_eq h]
  split
  · exact hlast
  split
  · exact happend directory
  · simpa using happend (directory ++ ['/'])

theorem isAbsolute_of_prefix {a b : List Char} (hne : a ≠ []) (h : a <+: b) :
    isAbsolute b = isAbsolute a := by
  obtain ⟨rest, rfl⟩ := h
  obtain ⟨c, a, rfl⟩ := List.exists_cons_of_ne_nil hne
  rfl

end Path

namespace FileTree

variable {t t' t'' : FileTree} {P Q : Location → Prop} {l l' d : Location}
  {path directory name : List Char} {bytes : Bytes}

theorem node?_put_self {node : FileNode} (h : l.names ≠ []) :
    (t.put l node).node? l = some node := by
  have hnone : (t.entries.filter (·.1 ≠ l)).lookup l = none := by
    rw [List.lookup_eq_none_iff]
    intro entry hentry
    have hne : entry.1 ≠ l := of_decide_eq_true (List.mem_filter.1 hentry).2
    exact bne_iff_ne.2 hne.symm
  rw [node?, if_neg (by simpa using h), put, List.lookup_append, hnone]
  simp

/-- What is put where it is already changes nothing. -/
theorem node?_put_of_eq {node : FileNode} (h : t.node? l = some node) (l' : Location) :
    (t.put l node).node? l' = t.node? l' := by
  by_cases heq : l' = l
  · subst heq
    by_cases hnames : l'.names = []
    · rw [node?, node?, if_pos (List.isEmpty_iff.2 hnames), if_pos (List.isEmpty_iff.2 hnames)]
    · rw [node?_put_self hnames, h]
  · exact node?_put_of_ne heq

/-! ### What is kept -/

/-- Whether directories stay directories, and files stay as they are but at some locations, where
files may also come or go. -/
structure Keeps (P : Location → Prop) (t t' : FileTree) : Prop where
  directory : ∀ l, t.node? l = some .directory → t'.node? l = some .directory
  file : ∀ l, ¬P l → ∀ bytes, t'.node? l = some (.file bytes) ↔ t.node? l = some (.file bytes)

namespace Keeps

theorem refl (P : Location → Prop) (t : FileTree) : Keeps P t t :=
  ⟨fun _ => id, fun _ _ _ => Iff.rfl⟩

/-- A tree with the same at every location. -/
theorem of_node? (h : ∀ l, t'.node? l = t.node? l) : Keeps P t t' where
  directory l hl := (h l).trans hl
  file l _ bytes := by rw [h l]

theorem trans (h : Keeps P t t') (h' : Keeps P t' t'') : Keeps P t t'' :=
  ⟨fun l hl => h'.directory l (h.directory l hl),
    fun l hl bytes => (h'.file l hl bytes).trans (h.file l hl bytes)⟩

theorem mono (h : Keeps P t t') (hPQ : ∀ l, P l → Q l) : Keeps Q t t' :=
  ⟨h.directory, fun l hl => h.file l (mt (hPQ l) hl)⟩

theorem enter (h : Keeps P t t') {name : List Char} (hl : t.enter l name = .ok l') :
    t'.enter l name = .ok l' := by
  unfold FileTree.enter at hl ⊢
  cases hnode : t.node? l with
  | none =>
    rw [hnode] at hl
    cases hl
  | some node =>
    cases node with
    | file bytes =>
      rw [hnode] at hl
      cases hl
    | directory =>
      rw [hnode] at hl
      rwa [h.directory l hnode]

theorem foldlM_enter (h : Keeps P t t') {names : List (List Char)}
    (hl : names.foldlM t.enter l = .ok l') : names.foldlM t'.enter l = .ok l' := by
  induction names generalizing l with
  | nil => exact hl
  | cons name names ih =>
    rw [List.foldlM_cons, bind_eq_ok_iff] at hl ⊢
    obtain ⟨next, hnext, hrest⟩ := hl
    exact ⟨next, h.enter hnext, ih hrest⟩

end Keeps

/-! ### Where paths lead -/

/-- Where a path begins. -/
def start (path : List Char) : Location := if Path.isAbsolute path then ⟨.root, []⟩ else .here

/-- Whether a path can lead anywhere. -/
structure IsPath (path : List Char) : Prop where
  nul : '\x00' ∉ path
  ne_nil : path ≠ []
  short : (Text.utf8 (String.ofList path)).length ≤ maxPath

theorem locate_eq_ok_iff : t.locate path = .ok l ↔
    IsPath path ∧ (Path.pieces path).foldlM t.enter (start path) = .ok l := by
  constructor
  · intro h
    unfold locate at h
    split at h
    · cases h
    next hnul =>
    split at h
    · cases h
    next hempty =>
    split at h
    · cases h
    next hlong =>
    exact ⟨⟨mt List.contains_iff_mem.2 hnul, mt List.isEmpty_iff.2 hempty, Nat.not_lt.1 hlong⟩, h⟩
  · rintro ⟨⟨hnul, hne, hshort⟩, h⟩
    rw [locate, if_neg (mt List.contains_iff_mem.1 hnul), if_neg (mt List.isEmpty_iff.1 hne),
      if_neg (Nat.not_lt.2 hshort)]
    exact h

/-- A path leads where it led as long as no directory is taken away. -/
theorem Keeps.locate (h : Keeps P t t') (hl : t.locate path = .ok l) : t'.locate path = .ok l := by
  rw [locate_eq_ok_iff] at hl ⊢
  exact ⟨hl.1, h.foldlM_enter hl.2⟩

theorem read_eq_ok_iff : t.read path = .ok bytes ↔
    ∃ l, t.locate path = .ok l ∧ t.node? l = some (.file bytes) := by
  rw [read, bind_eq_ok_iff]
  refine exists_congr fun l => and_congr_right fun _ => ?_
  cases t.node? l with
  | none => simp [throw, throwThe, MonadExceptOf.throw]
  | some node => cases node <;> simp [throw, throwThe, MonadExceptOf.throw, pure, Except.pure]

/-- What a path reads stays, unless it may change where the path leads. -/
theorem Keeps.readText {text : String} (h : Keeps P t t')
    (hkept : ∀ l, t'.locate path = .ok l → ¬P l) (hread : t.readText path = .ok text) :
    t'.readText path = .ok text := by
  simp only [FileTree.readText, bind_eq_ok_iff] at hread ⊢
  obtain ⟨bytes, hbytes, htext⟩ := hread
  obtain ⟨l, hl, hnode⟩ := read_eq_ok_iff.1 hbytes
  have hl' := h.locate hl
  exact ⟨bytes, read_eq_ok_iff.2 ⟨l, hl', (h.file l (hkept l hl') bytes).2 hnode⟩, htext⟩

theorem IsPath.of_prefix {part : List Char} (h : IsPath path) (hpart : part <+: path)
    (hne : part ≠ []) : IsPath part := by
  obtain ⟨rest, rfl⟩ := hpart
  refine ⟨fun hmem => h.nul (List.mem_append_left _ hmem), hne, ?_⟩
  have hshort := h.short
  rw [Text.utf8, String.toList_ofList, List.flatMap_append, List.length_append] at hshort
  rw [Text.utf8, String.toList_ofList]
  omega

/-! ### The steps that change a tree -/

theorem keeps_put_directory (h : t.node? l = none) :
    Keeps (fun _ => False) t (t.put l .directory) where
  directory := by
    intro l' hl'
    rwa [node?_put_of_ne]
    rintro rfl
    rw [h] at hl'
    cases hl'
  file := by
    intro l' _ bytes
    by_cases heq : l' = l
    · subst heq
      have hnames : l'.names ≠ [] := by
        intro hnil
        rw [node?, if_pos (List.isEmpty_iff.2 hnil)] at h
        cases h
      rw [node?_put_self hnames, h]
      simp
    · rw [node?_put_of_ne heq]

theorem keeps_put_file (h : t.node? l ≠ some .directory) :
    Keeps (· = l) t (t.put l (.file bytes)) where
  directory := by
    intro l' hl'
    rwa [node?_put_of_ne]
    rintro rfl
    exact h hl'
  file := by
    intro l' hne bytes'
    rw [node?_put_of_ne hne]

theorem makeDirectory_eq_ok (h : t.makeDirectory path = .ok t') :
    ∃ l, t.node? l = none ∧ t' = t.put l .directory := by
  unfold makeDirectory at h
  extract_lets stripped at h
  rw [bind_eq_ok_iff] at h
  obtain ⟨l, -, h⟩ := h
  split at h
  · exact absurd h throw_bind_ne_ok
  · next hfree =>
    rw [Bool.or_eq_true, not_or, Option.not_isSome_iff_eq_none] at hfree
    exact ⟨l, hfree.2, (pure_eq_ok_iff.1 h).symm⟩

theorem keeps_makeDirectory (h : t.makeDirectory path = .ok t') : Keeps (fun _ => False) t t' := by
  obtain ⟨l, hfree, rfl⟩ := makeDirectory_eq_ok h
  exact keeps_put_directory hfree

/-- Making directories changes no file, whether it succeeds or not. -/
theorem keeps_makeFirst (t : FileTree) (paths : List (List Char)) :
    Keeps (fun _ => False) t (t.makeFirst paths).2 := by
  have hgive (t : FileTree) (path : List Char) (e : SystemError) :
      (if t.isDirectory path then (none, t) else (some e, t)).2 = t := by
    split <;> rfl
  induction paths generalizing t with
  | nil => exact .refl _ t
  | cons path around ih =>
    have haround := ih t
    rw [makeFirst]
    split
    · exact .refl _ t
    split
    · next t' hmade => exact keeps_makeDirectory hmade
    · split
      · next e t' hfirst =>
        rw [hfirst] at haround
        exact haround
      · next t' hfirst =>
        rw [hfirst] at haround
        split
        · next t'' hmade => exact haround.trans (keeps_makeDirectory hmade)
        · rw [hgive]
          exact haround
    · rw [hgive]
      exact .refl _ t

theorem keeps_makeDirectories (t : FileTree) (path : List Char) :
    Keeps (fun _ => False) t (t.makeDirectories path).2 :=
  keeps_makeFirst t _

/-- A file is written where its path leads, unless that is a directory. -/
theorem write_eq_ok_iff (hlast : path.getLast? ≠ some '/') : t.write path bytes = .ok t' ↔
    ∃ l, t.locate path = .ok l ∧ t.node? l ≠ some .directory ∧ t' = t.put l (.file bytes) := by
  have hstripped : Text.dropEndWhile (· == '/') path = path :=
    Text.dropEndWhile_eq_self fun c hc => by
      rw [beq_eq_false_iff_ne]
      rintro rfl
      exact hlast hc
  have hstay : (if path.isEmpty then path else path) = path := ite_self path
  simp only [write, hstripped, hstay, bind_eq_ok_iff]
  refine exists_congr fun l => and_congr_right fun _ => ?_
  rw [if_neg (by simpa using hlast)]
  cases t.node? l with
  | none => simpa [pure_eq_ok_iff] using eq_comm
  | some node =>
    cases node with
    | file bytes' => simpa [pure_eq_ok_iff] using eq_comm
    | directory => simp

/-! ### The directory of some files -/

/-- The location of the directory that names are joined to. -/
def base (t : FileTree) (directory : List Char) : Except SystemError Location :=
  (Path.namesTo directory).foldlM t.enter (start directory)

theorem start_join (h : Path.IsFileName name) :
    start (Path.join directory name) = start directory := by
  cases directory with
  | nil =>
    rw [Path.join_nil, start, h.isAbsolute]
    rfl
  | cons c rest =>
    rw [start, start, Path.isAbsolute_of_prefix (List.cons_ne_nil c rest) (Path.prefix_join h)]

theorem enter_eq_ok_iff (h : Path.IsFileName name) : t.enter d name = .ok l ↔
    t.node? d = some .directory ∧ (Text.utf8 (String.ofList name)).length ≤ maxName ∧
      l = d.child (String.ofList name) := by
  obtain ⟨hvoid, hup, -⟩ := h.ne
  rw [enter]
  cases t.node? d with
  | none => simp
  | some node =>
    cases node with
    | file bytes => simp
    | directory =>
      simp only [hvoid, hup, Bool.false_eq_true, if_false, true_and]
      split
      · next hlong => simp [Nat.not_le.2 hlong]
      · next hshort => simpa [Nat.not_lt.1 hshort] using eq_comm

/-- A file of a directory is where the directory is. -/
theorem locate_join_iff (h : Path.IsFileName name) :
    t.locate (Path.join directory name) = .ok l ↔
      IsPath (Path.join directory name) ∧
        ∃ d, t.base directory = .ok d ∧ t.enter d name = .ok l := by
  rw [locate_eq_ok_iff, Path.pieces_join h, start_join h, List.foldlM_append, bind_eq_ok_iff]
  simp only [List.foldlM_cons, List.foldlM_nil, bind_pure, base]

/-- Files of a directory that have different names are at different locations. -/
theorem eq_of_locate_join {name' : List Char} (h : Path.IsFileName name)
    (h' : Path.IsFileName name') (hl : t.locate (Path.join directory name) = .ok l)
    (hl' : t.locate (Path.join directory name') = .ok l) : name = name' := by
  obtain ⟨-, d, hd, henter⟩ := (locate_join_iff h).1 hl
  obtain ⟨-, d', hd', henter'⟩ := (locate_join_iff h').1 hl'
  obtain rfl : d = d' := Except.ok.inj (hd.symm.trans hd')
  obtain ⟨-, -, rfl⟩ := (enter_eq_ok_iff h).1 henter
  have hchild := ((enter_eq_ok_iff h').1 henter').2.2
  have hname : String.ofList name = String.ofList name' := by simpa [Location.child] using hchild
  simpa using congrArg String.toList hname

/-- A directory is there if one of its files can be. -/
theorem locate_of_locate_join (h : Path.IsFileName name) (hne : directory ≠ [])
    (hl : t.locate (Path.join directory name) = .ok l) :
    ∃ d, t.locate directory = .ok d ∧ t.node? d = some .directory := by
  obtain ⟨hpath, d, hbase, henter⟩ := (locate_join_iff h).1 hl
  have hnode := ((enter_eq_ok_iff h).1 henter).1
  refine ⟨d, locate_eq_ok_iff.2 ⟨hpath.of_prefix (Path.prefix_join h) hne, ?_⟩, hnode⟩
  rw [base, Path.namesTo, if_neg (mt List.isEmpty_iff.1 hne)] at hbase
  split at hbase
  · next hlast =>
    obtain ⟨before, rfl⟩ := List.getLast?_eq_some_iff.1 (beq_iff_eq.1 hlast)
    rw [List.dropLast_concat] at hbase
    have hvoid : t.enter d [] = .ok d := by
      rw [enter, hnode]
      rfl
    rw [Path.pieces_append_slash, List.foldlM_append, bind_eq_ok_iff]
    exact ⟨d, hbase, by simpa [Path.pieces, Text.pieces] using hvoid⟩
  · exact hbase

/-! ### A directory that is there -/

theorem locate_of_concat_slash (hne : path ≠ []) (h : t.locate (path ++ ['/']) = .ok l) :
    t.locate path = .ok l := by
  obtain ⟨hpath, hfold⟩ := locate_eq_ok_iff.1 h
  refine locate_eq_ok_iff.2 ⟨hpath.of_prefix (List.prefix_append _ _) hne, ?_⟩
  have hstart : start (path ++ ['/']) = start path := by
    rw [start, start, Path.isAbsolute_of_prefix hne (List.prefix_append _ _)]
  rw [hstart, Path.pieces_append_slash, List.foldlM_append, bind_eq_ok_iff] at hfold
  obtain ⟨d, hd, hvoid⟩ := hfold
  have henter : t.enter d [] = .ok l := by simpa [Path.pieces, Text.pieces] using hvoid
  rw [enter] at henter
  split at henter
  · cases henter
  · cases henter
  · obtain rfl : d = l := Except.ok.inj henter
    exact hd

/-- Slashes at the end of a path do not matter. -/
theorem locate_dropEndWhile (h : t.locate path = .ok l)
    (hne : Text.dropEndWhile (· == '/') path ≠ []) :
    t.locate (Text.dropEndWhile (· == '/') path) = .ok l := by
  induction path using List.reverseRecOn with
  | nil => exact absurd rfl hne
  | append_singleton path c ih =>
    by_cases hc : c = '/'
    · subst hc
      rw [Text.dropEndWhile_append (by simp)] at hne ⊢
      refine ih (locate_of_concat_slash ?_ h) hne
      rintro rfl
      exact hne rfl
    · rwa [Text.dropEndWhile_eq_self]
      intro d hd
      rw [List.getLast?_concat] at hd
      obtain rfl := Option.some.inj hd
      simpa using hc

theorem makeDirectory_of_locate (h : t.locate path = .ok l)
    (hnode : t.node? l = some .directory) : t.makeDirectory path = .error .alreadyExists := by
  unfold makeDirectory
  extract_lets stripped
  have hstripped : t.locate stripped = .ok l := by
    simp only [stripped]
    split
    · exact h
    · next hall => exact locate_dropEndWhile h (mt Text.all_of_dropEndWhile_eq_nil hall)
  rw [hstripped]
  simp [hnode, bind, Except.bind, throw, throwThe, MonadExceptOf.throw]

/-- A directory that is there need not be made. -/
theorem makeDirectories_of_locate (h : t.locate path = .ok l)
    (hnode : t.node? l = some .directory) : t.makeDirectories path = (none, t) := by
  have hthere : t.isDirectory path = true := by simp [isDirectory, h, hnode]
  obtain ⟨around, haround⟩ : ∃ around, Path.ancestors path.length path = path :: around := by
    cases path.length with
    | zero => exact ⟨_, rfl⟩
    | succ n => exact ⟨_, rfl⟩
  rw [makeDirectories, haround, makeFirst]
  split
  · rfl
  · rw [makeDirectory_of_locate h hnode]
    simp [hthere]

/-- The directory of a file that can be written need not be made. -/
theorem makeDirectories_of_locate_join (h : Path.IsFileName name)
    (hl : t.locate (Path.join directory name) = .ok l) :
    t.makeDirectories directory = (none, t) := by
  by_cases hne : directory = []
  · subst hne
    rfl
  · obtain ⟨d, hd, hnode⟩ := locate_of_locate_join h hne hl
    exact makeDirectories_of_locate hd hnode

end FileTree

end Instrument
