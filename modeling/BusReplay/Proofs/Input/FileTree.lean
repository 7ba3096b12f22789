import BusReplay.Config
import BusReplay.Input.FileTree
import BusReplay.Proofs.Except
import BusReplay.Proofs.Text.Fields

/-!
# What paths lead to in a tree of files

An absolute path of proper names leads to what the entries with these names lead to, one in the
other. So a file that is put into a tree is opened by its path, and all other paths open what they
opened before.
-/

namespace BusReplay.FileTree

/-- What is found behind names, each of them that of an entry in the directory before. -/
def at? : List String → FileTree → Option FileTree
  | [], tree => some tree
  | _ :: _, file _ => none
  | name :: names, directory entries => (entries.lookup name).bind (at? names)

/-- A name that an entry can have, and that does not lead back to where it is used. -/
structure IsEntryName (name : String) : Prop where
  ne_empty : name ≠ ""
  ne_dot : name ≠ "."
  ne_dots : name ≠ ".."
  noSlash : '/' ∉ name.toList
  noNul : '\x00' ∉ name.toList
  size_le : name.utf8ByteSize ≤ maxName

def absolutePath (names : List String) : String :=
  .ofList ('/' :: ['/'].intercalate (names.map String.toList))

variable {root tree : FileTree} {names other : List String}

/-! ## Paths -/

theorem toList_absolutePath (names : List String) :
    (absolutePath names).toList = '/' :: ['/'].intercalate (names.map String.toList) :=
  String.toList_ofList

theorem fields_absolutePath (hnames : ∀ name ∈ names, IsEntryName name) (hne : names ≠ []) :
    Text.fields '/' (absolutePath names).toList = [] :: names.map String.toList := by
  have hfree : ∀ part ∈ names.map String.toList, '/' ∉ part := by
    simpa using fun name hname ↦ (hnames name hname).noSlash
  rw [toList_absolutePath, ← List.nil_append ('/' :: _), Text.fields_append_cons,
    Text.fields_intercalate hfree (by simpa using hne)]
  rfl

theorem step_eq_ok_iff {name : String} (hname : IsEntryName name) {place next : Place} :
    place.step name = .ok next ↔ ∃ entries tree, place.here = directory entries ∧
      entries.lookup name = some tree ∧ next = ⟨tree, place.here :: place.above⟩ := by
  obtain ⟨here, above⟩ := place
  cases here with
  | file bytes => simp [Place.step]
  | directory entries =>
    simp only [Place.step, hname.ne_empty, hname.ne_dot, hname.ne_dots, or_self, if_false,
      Nat.not_lt.2 hname.size_le]
    cases hlookup : entries.lookup name with
    | none => simp [hlookup]
    | some tree => simp [hlookup, eq_comm]

/-- From any place proper names lead to what is found behind them there. -/
theorem foldlM_step_eq_ok_iff (hnames : ∀ name ∈ names, IsEntryName name) (place : Place) :
    (∃ above, names.foldlM Place.step place = .ok ⟨tree, above⟩) ↔
      place.here.at? names = some tree := by
  induction names generalizing place with
  | nil =>
    obtain ⟨here, above⟩ := place
    simp [at?, pure, Except.pure]
  | cons name names ih =>
    obtain ⟨hname, hnames⟩ := List.forall_mem_cons.1 hnames
    simp only [List.foldlM_cons, bind_eq_ok_iff, step_eq_ok_iff hname]
    obtain ⟨here, above⟩ := place
    cases here with
    | file bytes => simp [at?]
    | directory entries =>
      cases hlookup : entries.lookup name with
      | none => simp [at?, hlookup]
      | some inner =>
        simpa [at?, hlookup] using ih hnames ⟨inner, directory entries :: above⟩

theorem nul_notMem_absolutePath (hnames : ∀ name ∈ names, IsEntryName name) (hne : names ≠ []) :
    '\x00' ∉ (absolutePath names).toList := by
  intro hmem
  obtain ⟨field, hfield, hnul⟩ :=
    Text.exists_mem_fields_iff.2 ⟨hmem, (by decide : '\x00' ≠ '/')⟩
  rw [fields_absolutePath hnames hne] at hfield
  rcases List.mem_cons.1 hfield with rfl | hfield
  · cases hnul
  · obtain ⟨name, hname, rfl⟩ := List.mem_map.1 hfield
    exact (hnames name hname).noNul hnul

/-- An absolute path is followed from the root, and its first step stays there. -/
theorem resolve_absolutePath (hnames : ∀ name ∈ names, IsEntryName name) (hne : names ≠ [])
    (hsize : (absolutePath names).utf8ByteSize < maxPath) (workingDirectory : String) :
    root.resolve workingDirectory (absolutePath names) =
      (("" :: names).foldlM Place.step ⟨root, []⟩).map Place.here := by
  have hempty : absolutePath names ≠ "" := fun h ↦ by simpa [h] using toList_absolutePath names
  have habsolute : Path.isAbsolute (absolutePath names).toList = true := by
    rw [toList_absolutePath]
    rfl
  have hparts : (Text.fields '/' (absolutePath names).toList).map String.ofList = "" :: names := by
    simp [fields_absolutePath hnames hne]
  unfold resolve
  simp only [List.contains_iff_mem, hempty, nul_notMem_absolutePath hnames hne,
    Nat.not_le.2 hsize, habsolute, hparts, if_true, if_false, pure_bind]
  cases ("" :: names).foldlM Place.step ⟨root, []⟩ <;> rfl

/-- An absolute path leads to what is found behind its names. -/
theorem resolve_absolutePath_eq_ok_iff (hnames : ∀ name ∈ names, IsEntryName name)
    (hne : names ≠ []) (hsize : (absolutePath names).utf8ByteSize < maxPath)
    (workingDirectory : String) :
    root.resolve workingDirectory (absolutePath names) = .ok tree ↔ root.at? names = some tree := by
  rw [resolve_absolutePath hnames hne hsize, map_eq_ok_iff]
  cases root with
  | file bytes =>
    cases names with
    | nil => exact absurd rfl hne
    | cons name names => simp [Place.step, at?, bind_eq_ok_iff]
  | directory entries =>
    have hstart : ("" :: names).foldlM Place.step ⟨directory entries, []⟩ =
        names.foldlM Place.step ⟨directory entries, []⟩ := rfl
    rw [hstart, ← foldlM_step_eq_ok_iff hnames ⟨directory entries, []⟩]
    constructor
    · rintro ⟨place, hplace, rfl⟩
      exact ⟨place.above, hplace⟩
    · rintro ⟨above, hplace⟩
      exact ⟨_, hplace, rfl⟩

/-! ## Putting a tree into another one -/

theorem lookup_filter_ne {α : Type} {name other : String} (h : other ≠ name)
    (entries : List (String × α)) :
    (entries.filter fun entry ↦ entry.1 ≠ name).lookup other = entries.lookup other := by
  induction entries with
  | nil => rfl
  | cons entry entries ih =>
    by_cases hentry : entry.1 = name
    · have hother : (other == entry.1) = false := by simpa [hentry] using h
      rw [List.filter_cons_of_neg (by simp [hentry]), ih, List.lookup_cons, hother]
    · rw [List.filter_cons_of_pos (by simp [hentry]), List.lookup_cons, List.lookup_cons, ih]

theorem at?_insert (tree : FileTree) (names : List String) (here : FileTree) :
    (insert tree names here).at? names = some tree := by
  induction names generalizing here with
  | nil => rfl
  | cons name names ih => simp [insert, at?, ih]

/-- Nothing changes but what is at the names, above and below. -/
theorem at?_insert_of_not_prefix (hbelow : ¬ names <+: other) (habove : ¬ other <+: names)
    (here : FileTree) : (insert tree names here).at? other = here.at? other := by
  induction names generalizing other here with
  | nil => exact absurd List.nil_prefix hbelow
  | cons name names ih =>
    cases other with
    | nil => exact absurd List.nil_prefix habove
    | cons first other =>
      by_cases hfirst : first = name
      · subst hfirst
        have hinner (inner : FileTree) : (insert tree names inner).at? other = inner.at? other :=
          ih (fun h ↦ hbelow (by simpa using h)) (fun h ↦ habove (by simpa using h)) inner
        have hempty : empty.at? other = none := by
          cases other with
          | nil => exact absurd (by simp) habove
          | cons => rfl
        cases here with
        | file bytes => simp [insert, at?, hinner, hempty]
        | directory entries =>
          cases hlookup : entries.lookup first <;> simp [insert, at?, hinner, hlookup, hempty]
      · have hbeq : (first == name) = false := by simpa using hfirst
        cases here with
        | file bytes => simp [insert, at?, List.lookup_cons, hbeq]
        | directory entries =>
          simp only [insert, at?, List.lookup_cons, hbeq, lookup_filter_ne hfirst]

/-- A file that is put into a tree is opened by its path, and the paths that lead elsewhere open
what they did before. -/
theorem openFile_insert (bytes : List UInt8) (workingDirectory : String)
    (hnames : ∀ name ∈ names, IsEntryName name) (hne : names ≠ [])
    (hsize : (absolutePath names).utf8ByteSize < maxPath) :
    (insert (file bytes) names root).openFile workingDirectory (absolutePath names) =
        .ok (.ofBytes bytes) ∧
      ∀ other stream, (∀ name ∈ other, IsEntryName name) → other ≠ [] →
        (absolutePath other).utf8ByteSize < maxPath → ¬ names <+: other → ¬ other <+: names →
        ((insert (file bytes) names root).openFile workingDirectory (absolutePath other) =
            .ok stream ↔
          root.openFile workingDirectory (absolutePath other) = .ok stream) := by
  constructor
  · rw [openFile, bind_eq_ok_iff]
    have hresolve := (resolve_absolutePath_eq_ok_iff hnames hne hsize workingDirectory).2
      (at?_insert (file bytes) names root)
    exact ⟨file bytes, hresolve, rfl⟩
  · intro other stream hother hotherNe hotherSize hbelow habove
    simp only [openFile, bind_eq_ok_iff,
      resolve_absolutePath_eq_ok_iff hother hotherNe hotherSize workingDirectory,
      at?_insert_of_not_prefix hbelow habove]

/-! ## The configuration in a tree -/

/-- No slash ends a path of names, so the file of the configuration is one name more. -/
theorem fileIn_absolutePath (hnames : ∀ name ∈ names, IsEntryName name) (hne : names ≠ []) :
    Config.fileIn (absolutePath names) = absolutePath (names ++ ["config.toml"]) := by
  have hlast : (absolutePath names).toList.getLast? ≠ some '/' := by
    intro h
    obtain ⟨front, hfront⟩ := List.getLast?_eq_some_iff.1 h
    have hfields := fields_absolutePath hnames hne
    rw [hfront, Text.fields_append_cons] at hfields
    have hmem : [] ∈ names.map String.toList := by
      have hends := congrArg List.getLast? hfields
      rw [List.getLast?_cons_of_ne_nil (by simpa using hne), List.getLast?_append_of_ne_nil _
        (Text.fields_ne_nil _ _)] at hends
      exact List.mem_of_getLast? hends.symm
    obtain ⟨name, hname, hnil⟩ := List.mem_map.1 hmem
    exact (hnames name hname).ne_empty (String.toList_eq_nil_iff.1 hnil)
  have hempty : (absolutePath names).toList ≠ [] := by simp [toList_absolutePath]
  obtain ⟨first, others, rfl⟩ := List.exists_cons_of_ne_nil hne
  have hjoin : Path.join (absolutePath (first :: others)).toList "config.toml".toList =
      (absolutePath (first :: others)).toList ++ '/' :: "config.toml".toList := by
    rw [Path.join, if_neg (by simp [hempty, Path.isAbsolute]), if_neg hlast]
  rw [Config.fileIn, hjoin, toList_absolutePath, absolutePath]
  simp [Text.intercalate_cons]

/-- The configuration that is put into a directory of a tree is loaded from it. -/
theorem load_insert {bytes : List UInt8} {text : List Char} (workingDirectory : String)
    (htext : Text.Utf8.decode? bytes = some text) (hnames : ∀ name ∈ names, IsEntryName name)
    (hne : names ≠ [])
    (hsize : (absolutePath (names ++ ["config.toml"])).utf8ByteSize < maxPath) :
    Config.load ((insert (file bytes) (names ++ ["config.toml"]) root).fileSystem workingDirectory)
      (absolutePath names) = Config.parse (.ofList text) := by
  have hall : ∀ name ∈ names ++ ["config.toml"], IsEntryName name := by
    have hconfig : IsEntryName "config.toml" := by constructor <;> decide
    simpa [or_imp, forall_and] using ⟨hnames, hconfig⟩
  let files := (insert (file bytes) (names ++ ["config.toml"]) root).fileSystem workingDirectory
  have hresolve := (resolve_absolutePath_eq_ok_iff hall (by simp) hsize workingDirectory).2
    (at?_insert (file bytes) (names ++ ["config.toml"]) root)
  have hpresent : files.present (absolutePath (names ++ ["config.toml"])) = true :=
    congrArg Except.isOk hresolve
  have hread : files.readText (absolutePath (names ++ ["config.toml"])) = .ok (.ofList text) := by
    have hopen : files.openFile (absolutePath (names ++ ["config.toml"])) = .ok (.ofBytes bytes) :=
      (openFile_insert bytes workingDirectory hall (by simp) hsize).1
    have hbytes : (Stream.ofBytes bytes).readText = .ok (.ofList text) := by
      simp [Stream.readText, Stream.ofBytes, htext]
    exact bind_eq_ok_iff.2 ⟨_, hopen, hbytes⟩
  rw [Config.load, fileIn_absolutePath hnames hne, if_pos hpresent, hread]

end BusReplay.FileTree
