import BusReplay.CommandLine.Parser
import Mathlib.Data.List.Basic

/-!
# What two parts of a command line give together

Options and files of a later part are taken over on top of those of an earlier one: a single value
is replaced, filters and files are added up, flags stay set, and a bus that is selected again
counts as selected last. Whether an option or a file is accepted does not depend on what was given
before it, so it acts on a whole command line as it acts on its own part.
-/

namespace BusReplay.CommandLine

namespace Given

/-- What is given by two parts of a command line, one behind the other. -/
def append (g later : Given) : Given where
  scopes := g.scopes.filter (· ∉ later.scopes) ++ later.scopes
  name := later.name.or g.name
  target := later.target.or g.target
  filter := g.filter ++ later.filter
  files := g.files ++ later.files
  logFormat := later.logFormat.or g.logFormat
  debug := g.debug || later.debug
  completions := later.completions.or g.completions
  manPage := g.manPage || later.manPage

instance : Append Given := ⟨append⟩

variable (g h k : Given)

@[simp]
theorem scopes_append : (g ++ h).scopes = g.scopes.filter (· ∉ h.scopes) ++ h.scopes := rfl

@[simp]
theorem name_append : (g ++ h).name = h.name.or g.name := rfl

@[simp]
theorem target_append : (g ++ h).target = h.target.or g.target := rfl

@[simp]
theorem filter_append : (g ++ h).filter = g.filter ++ h.filter := rfl

@[simp]
theorem files_append : (g ++ h).files = g.files ++ h.files := rfl

@[simp]
theorem logFormat_append : (g ++ h).logFormat = h.logFormat.or g.logFormat := rfl

@[simp]
theorem debug_append : (g ++ h).debug = (g.debug || h.debug) := rfl

@[simp]
theorem completions_append : (g ++ h).completions = h.completions.or g.completions := rfl

@[simp]
theorem manPage_append : (g ++ h).manPage = (g.manPage || h.manPage) := rfl

@[simp]
theorem nothing_append : nothing ++ g = g := by
  ext : 1 <;> simp [nothing]

@[simp]
theorem append_nothing : g ++ nothing = g := by
  ext : 1 <;> simp [nothing]

theorem append_assoc : g ++ h ++ k = g ++ (h ++ k) := by
  ext : 1
  case scopes =>
    have hseen : (g.scopes.filter (· ∉ h.scopes)).filter (· ∉ k.scopes) =
        g.scopes.filter (· ∉ h.scopes.filter (· ∉ k.scopes) ++ k.scopes) := by
      rw [List.filter_filter]
      apply List.filter_congr
      intro scope _
      by_cases hlater : scope ∈ k.scopes <;> simp [hlater]
    rw [scopes_append, scopes_append, scopes_append, scopes_append, List.filter_append, hseen,
      List.append_assoc]
  case filter => exact List.append_assoc _ _ _
  case files => exact List.append_assoc _ _ _
  case debug => exact Bool.or_assoc _ _ _
  case manPage => exact Bool.or_assoc _ _ _
  all_goals exact Option.or_assoc.symm

def onlyFiles (files : List String) : Given := { nothing with files := files }

theorem append_onlyFiles (files : List String) :
    g ++ onlyFiles files = { g with files := g.files ++ files } := by
  ext : 1 <;> simp [onlyFiles, nothing]

theorem onlyFiles_append (files others : List String) :
    onlyFiles (files ++ others) = onlyFiles files ++ onlyFiles others := by
  ext : 1 <;> simp [onlyFiles, nothing]

theorem addFiles_eq_ok {files : List String} (hfiles : "" ∉ files) :
    g.addFiles files = .ok (g ++ onlyFiles files) := by
  rw [addFiles, if_neg hfiles, append_onlyFiles]

variable {g} in
theorem of_addFiles_eq_ok {files : List String} {next : Given} (h : g.addFiles files = .ok next) :
    "" ∉ files ∧ next = g ++ onlyFiles files := by
  by_cases hfiles : "" ∈ files
  · rw [addFiles, if_pos hfiles] at h
    cases h
  · rw [addFiles_eq_ok g hfiles] at h
    exact ⟨hfiles, (Except.ok.inj h).symm⟩

/-! ## Taking over options and files -/

theorem addScope_append (scope : BusScope) : (g ++ h).addScope scope = g ++ h.addScope scope := by
  ext : 1
  case scopes =>
    have hseen : (g.scopes.filter (· ∉ h.scopes)).filter (· ≠ scope) =
        g.scopes.filter (· ∉ h.scopes.filter (· ≠ scope) ++ [scope]) := by
      rw [List.filter_filter]
      apply List.filter_congr
      intro other _
      by_cases hsame : other = scope <;> simp [hsame]
    simp only [addScope, scopes_append, List.filter_append, hseen, List.append_assoc]
  all_goals rfl

theorem addFlag_append (key : OptionKey) : (g ++ h).addFlag key = g ++ h.addFlag key := by
  cases key with
  | scope scope => exact addScope_append g h scope
  | debug => ext : 1 <;> simp [addFlag]
  | manPage => ext : 1 <;> simp [addFlag]
  | _ => rfl

/-- An option changes what its own part of the command line gives. -/
theorem addOption_append (key : OptionKey) (values : List String) :
    (g ++ h).addOption key values = (h.addOption key values).map (g ++ ·) := by
  cases values with
  | nil => rfl
  | cons value rest =>
    cases key with
    | name => rfl
    | target =>
      simp only [addOption]
      cases readChoice .target .target value <;> rfl
    | filter =>
      simp only [addOption]
      cases (value :: rest).mapM (readChoice .filter .resultClass) with
      | error e => rfl
      | ok classes =>
        refine congrArg Except.ok ?_
        ext : 1 <;> simp
    | logFormat =>
      simp only [addOption]
      cases readChoice .logFormat .logFormat value <;> rfl
    | completions =>
      simp only [addOption]
      cases readChoice .completions .shell value <;> rfl
    | _ => rfl

theorem addFiles_append (files : List String) :
    (g ++ h).addFiles files = (h.addFiles files).map (g ++ ·) := by
  unfold addFiles
  split
  · rfl
  · refine congrArg Except.ok ?_
    ext : 1 <;> simp

end Given

end BusReplay.CommandLine
