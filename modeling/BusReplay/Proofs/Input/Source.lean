import BusReplay.Proofs.Input.Path
import BusReplay.Proofs.Record.Name
import BusReplay.Proofs.Record.Named
import BusReplay.Run.SourceRun

/-!
# The bus name of a file

A file takes its bus name from its path alone: it is the name that the path ends in, if this is one
that can stand on a command line. Neither the directories in front of it nor slashes behind it
matter, and the name that is given for standard input does not matter either.
-/

namespace BusReplay

namespace Source

/-- The expression `[A-Za-z0-9_.:-]+`. -/
def busNamePattern : Language Char :=
  oneOrMore (oneOf fun c ↦ NameKind.IsWordChar c ∨ c = '.' ∨ c = ':' ∨ c = '-')

theorem isBusNameChar_iff {c : Char} :
    isBusNameChar c = true ↔ NameKind.IsWordChar c ∨ c = '.' ∨ c = ':' ∨ c = '-' := by
  have hsplit : isBusNameChar c = (NameKind.isWord c || c == '.' || c == ':' || c == '-') := rfl
  rw [hsplit, ← NameKind.isWord_iff]
  simp only [Bool.or_eq_true, beq_iff_eq, or_assoc]

theorem isBusName_iff {cs : List Char} : isBusName cs = true ↔ cs ∈ busNamePattern := by
  rw [busNamePattern, mem_oneOrMore_oneOf]
  simp [isBusName, isBusNameChar_iff]

variable {path other : String} {name : List Char} {stdinName otherName : Option String}

/-! ## Standard input and files -/

/-- Standard input is named by a dash, whatever slashes and single dots trail it. -/
theorem ofPath_eq_stdin_iff : ofPath path = stdin ↔ Path.withoutTrail path.toList = ['-'] := by
  rw [← Path.components_eq_name_iff (by decide) (by decide), ofPath]
  split <;> simp_all

theorem ofPath_eq_file (h : Path.withoutTrail path.toList ≠ ['-']) : ofPath path = file path := by
  rw [Ne, ← Path.components_eq_name_iff (by decide) (by decide)] at h
  rw [ofPath, if_neg h]

/-- A path with a directory in front of it is a file. -/
theorem ofPath_of_directory (directory : String) (h : Path.EndsIn path.toList name) :
    ofPath (directory ++ "/" ++ path) = file (directory ++ "/" ++ path) := by
  have hchars : (directory ++ "/" ++ path).toList = directory.toList ++ '/' :: path.toList := by
    simp
  rw [ofPath, hchars, if_neg (Path.components_append_cons_ne _ _ h.steps_ne_nil)]

/-! ## Names -/

/-- The bus name of a file is the last name in its path. Standard input has no part in it. -/
theorem busName_file (path : String) (stdinName : Option String) :
    (file path).busName stdinName =
      match Path.fileName? path.toList with
      | some name => if isBusName name then .ok (.ofList name)
        else .error (.invalidBusName (.ofList name))
      | none => .error (.invalidBusName path) := by
  unfold busName
  cases hname : Path.fileName? path.toList with
  | none =>
    have hclaimed : (file path).claimedName stdinName = .error (.invalidBusName path) := by
      rw [claimedName, hname]
    rw [hclaimed]
    rfl
  | some name =>
    have hclaimed : (file path).claimedName stdinName = .ok (.ofList name) := by
      rw [claimedName, hname]
    rw [hclaimed]
    change (validateBusName (.ofList name) >>= fun _ ↦ .ok (String.ofList name)) = _
    rw [validateBusName, String.toList_ofList]
    dsimp only
    split <;> rfl

/-- Files whose paths end in the same name have the same bus name, whatever standard input has. -/
theorem busName_file_congr (h : Path.EndsIn path.toList name)
    (hother : Path.EndsIn other.toList name) (stdinName otherName : Option String) :
    (file path).busName stdinName = (file other).busName otherName := by
  rw [busName_file, busName_file, Path.fileName?_eq_some_iff_endsIn.2 h,
    Path.fileName?_eq_some_iff_endsIn.2 hother]

/-- A file has a bus name exactly when its path ends in a proper one. -/
theorem busName_file_eq_ok_iff {name : String} :
    (file path).busName stdinName = .ok name ↔
      Path.EndsIn path.toList name.toList ∧ name.toList ∈ busNamePattern := by
  rw [busName_file, ← isBusName_iff, ← Path.fileName?_eq_some_iff_endsIn]
  cases Path.fileName? path.toList with
  | none => simp
  | some last =>
    obtain ⟨last, rfl⟩ : ∃ text : String, text.toList = last := ⟨.ofList last, String.toList_ofList⟩
    by_cases hsame : last = name
    · simp [hsame]
    · by_cases hvalid : isBusName last.toList = true
      · simp [hvalid, String.toList_inj, hsame]
      · simp [hvalid, String.toList_inj, hsame]

/-- A file has no bus name if the name at the end of its path is not proper, or there is none. -/
theorem busName_file_eq_error_iff {e : RunError} :
    (file path).busName stdinName = .error e ↔
      (∃ name : String, Path.EndsIn path.toList name.toList ∧ name.toList ∉ busNamePattern ∧
        .invalidBusName name = e) ∨
      (¬ ∃ name, Path.EndsIn path.toList name) ∧ .invalidBusName path = e := by
  simp only [busName_file, ← isBusName_iff, ← Path.fileName?_eq_some_iff_endsIn]
  cases Path.fileName? path.toList with
  | none => simp
  | some last =>
    obtain ⟨last, rfl⟩ : ∃ text : String, text.toList = last := ⟨.ofList last, String.toList_ofList⟩
    by_cases hvalid : isBusName last.toList = true
    · simp [hvalid, String.toList_inj]
    · simp [hvalid, String.toList_inj]

/-- Two names for standard input leave a file with the same bus name, and with the same run. It is
the name that the path ends in, and if that is no bus name, or if there is none, the name or the
path is refused. A directory in front of the path and slashes behind it change nothing. -/
theorem busName_of_file (hfile : ofPath path = file path) (stdinName otherName : Option String) :
    (ofPath path).busName stdinName = (ofPath path).busName otherName ∧
    (∀ (ctx : SourceContext) (stdin : Stream),
      ({ ctx with stdinName := stdinName } : SourceContext).run stdin (ofPath path) =
        ({ ctx with stdinName := otherName } : SourceContext).run stdin (ofPath path)) ∧
    (∀ name : String, (ofPath path).busName stdinName = .ok name ↔
      Path.EndsIn path.toList name.toList ∧ name.toList ∈ busNamePattern) ∧
    (∀ e, (ofPath path).busName stdinName = .error e ↔
      (∃ name : String, Path.EndsIn path.toList name.toList ∧ name.toList ∉ busNamePattern ∧
        .invalidBusName name = e) ∨
      (¬ ∃ name, Path.EndsIn path.toList name) ∧ .invalidBusName path = e) ∧
    ∀ name, Path.EndsIn path.toList name →
      (∀ directory, (ofPath (directory ++ "/" ++ path)).busName stdinName =
        (ofPath path).busName otherName) ∧
      ∀ count, (ofPath (path ++ .ofList (List.replicate count '/'))).busName stdinName =
        (ofPath path).busName otherName := by
  rw [hfile]
  refine ⟨rfl, fun _ _ ↦ rfl, fun name ↦ busName_file_eq_ok_iff,
    fun e ↦ busName_file_eq_error_iff, fun name hends ↦ ⟨fun directory ↦ ?_, fun count ↦ ?_⟩⟩
  · rw [ofPath_of_directory directory hends]
    apply busName_file_congr _ hends
    simpa using hends.in_directory directory.toList
  · have hlonger : (path ++ .ofList (List.replicate count '/')).toList =
        path.toList ++ List.replicate count '/' := by
      rw [String.toList_append, String.toList_ofList]
    have hdash : Path.withoutTrail path.toList ≠ ['-'] := by
      rw [Ne, ← ofPath_eq_stdin_iff, hfile]
      simp
    rw [ofPath_eq_file (by rwa [hlonger, Path.withoutTrail_append _ (Path.isTrail_slashes count)])]
    apply busName_file_congr _ hends
    rw [hlonger]
    exact hends.append_trail (Path.isTrail_slashes count)

/-- A path that goes up and down, with a dot at its end, in a directory and with slashes behind it;
and one that ends in a step up. -/
theorem busName_of_file_dotted :
    ofPath "./../a b//q.Q/." = file "./../a b//q.Q/." ∧
      Path.EndsIn "./../a b//q.Q/.".toList "q.Q".toList ∧
      (ofPath "./../a b//q.Q/.").busName (some "r.R") = .ok "q.Q" ∧
      (ofPath ("/var/log" ++ "/" ++ "./../a b//q.Q/.")).busName none = .ok "q.Q" ∧
      (ofPath ("./../a b//q.Q/." ++ .ofList (List.replicate 3 '/'))).busName none = .ok "q.Q" ∧
      (ofPath "q.Q/..").busName (some "r.R") = .error (.invalidBusName "q.Q/..") := by
  have hfile : ofPath "./../a b//q.Q/." = file "./../a b//q.Q/." := by decide +kernel
  have hparent : ofPath "q.Q/.." = file "q.Q/.." := by decide +kernel
  have hends : Path.EndsIn "./../a b//q.Q/.".toList "q.Q".toList :=
    Path.fileName?_eq_some_iff_endsIn.1 (by decide +kernel)
  have hnone : ¬ ∃ name, Path.EndsIn "q.Q/..".toList name :=
    Path.fileName?_eq_none_iff.1 (by decide +kernel)
  obtain ⟨hsame, -, hok, -, hmore⟩ := busName_of_file hfile none (some "r.R")
  have hname : (ofPath "./../a b//q.Q/.").busName (some "r.R") = .ok "q.Q" :=
    hsame ▸ (hok _).2 ⟨hends, isBusName_iff.1 (by decide +kernel)⟩
  obtain ⟨hdirectory, hslashes⟩ := hmore _ hends
  obtain ⟨-, -, -, herror, -⟩ := busName_of_file hparent (some "r.R") none
  exact ⟨hfile, hends, hname, (hdirectory _).trans hname, (hslashes 3).trans hname,
    (herror _).2 (.inr ⟨hnone, rfl⟩)⟩

end Source

end BusReplay
