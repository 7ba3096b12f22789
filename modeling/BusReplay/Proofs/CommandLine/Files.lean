import BusReplay.Proofs.CommandLine.Defaults
import BusReplay.Proofs.CommandLine.Reader

/-!
# The files of a command line

The files are tokens of the command line in their order, and if all tokens are files nothing else
is given, which is not enough for a run. Configured options add a file for each lone dash among
them, since that is standard input and no option. Two dashes among them make files of all that
stands on the command line.
-/

namespace BusReplay.CommandLine

theorem Given.files_addFlag (g : Given) (key : OptionKey) : (g.addFlag key).files = g.files := by
  cases key <;> rfl

theorem Given.files_of_addOption {g next : Given} {key : OptionKey} {values : List String}
    (h : g.addOption key values = .ok next) : next.files = g.files := by
  cases values with
  | nil => cases h
  | cons value rest =>
    cases key with
    | target | filter | logFormat | completions =>
      obtain ⟨chosen, -, h⟩ := bind_eq_ok_iff.1 h
      obtain rfl := Except.ok.inj h
      rfl
    | _ =>
      obtain rfl := Except.ok.inj h
      rfl

namespace Reader

/-- The files read so far, with those of a row that has not ended. -/
def files (r : Reader) : List String :=
  r.given.files ++ match r.pending with
    | some (.files paths) => paths
    | _ => []

variable {r next : Reader}

theorem files_of_settled {given : Given} (h : r.settled = .ok given) : given.files = r.files := by
  obtain ⟨before, pending, takesWord⟩ := r
  rcases pending with _ | (⟨key, values⟩ | paths)
  · obtain rfl := Except.ok.inj h
    exact (List.append_nil _).symm
  · exact (Given.files_of_addOption h).trans (List.append_nil _).symm
  · obtain ⟨-, rfl⟩ := Given.of_addFiles_eq_ok h
    rfl

theorem files_of_file {path : String} (h : r.file path = .ok next) :
    next.files = r.files ++ [path] := by
  by_cases hrow : ∃ paths, r.pending = some (.files paths)
  · obtain ⟨given, pending, takesWord⟩ := r
    obtain ⟨paths, rfl⟩ := hrow
    obtain rfl := Except.ok.inj h
    exact (List.append_assoc _ _ _).symm
  · rw [not_exists] at hrow
    rw [file_of_no_row r hrow, bind_eq_ok_iff] at h
    obtain ⟨given, hgiven, h⟩ := h
    obtain rfl := Except.ok.inj h
    exact congrArg (· ++ [path]) (files_of_settled hgiven)

theorem files_of_foldlM_file {paths : List String} (h : paths.foldlM file r = .ok next) :
    next.files = r.files ++ paths := by
  induction paths generalizing r with
  | nil =>
    obtain rfl := Except.ok.inj h
    exact (List.append_nil _).symm
  | cons path paths ih =>
    rw [List.foldlM_cons, bind_eq_ok_iff] at h
    obtain ⟨between, hbetween, h⟩ := h
    rw [ih h, files_of_file hbetween, List.append_assoc, List.singleton_append]

/-- A word is a file, or the value of an option. -/
theorem files_of_word {text : String} (h : r.word text = .ok next) :
    r.file text = .ok next ∨ next.files = r.files := by
  unfold word at h
  split at h
  · next key values hpending _ =>
    obtain rfl := Except.ok.inj h
    right
    simp [files, hpending]
  · exact .inl h

/-- A token is a word that is a file, or it changes nothing about the files. -/
theorem files_of_token {text : String} (h : r.token text = .ok next) :
    Token.ofText text = .word ∧ r.file text = .ok next ∨ next.files = r.files := by
  rw [token_eq_act] at h
  cases htoken : Token.ofText text with
  | flag key isLong =>
    rw [htoken] at h
    obtain ⟨given, hgiven, rfl⟩ := exists_of_flag r h
    right
    rw [← files_of_settled hgiven, ← given.files_addFlag key]
    exact List.append_nil _
  | attached key value =>
    rw [htoken] at h
    obtain ⟨given, more, hgiven, hmore, rfl⟩ := exists_of_attached r h
    right
    rw [← files_of_settled hgiven, ← Given.files_of_addOption hmore]
    exact List.append_nil _
  | opened key =>
    rw [htoken] at h
    obtain ⟨given, hgiven, rfl⟩ := exists_of_opened r h
    right
    rw [← files_of_settled hgiven]
    exact List.append_nil _
  | word =>
    rw [htoken] at h
    exact (files_of_word h).imp_left fun hfile ↦ ⟨rfl, hfile⟩
  | fault failure =>
    rw [htoken] at h
    cases h

/-- The files are some of the tokens. If they are all of them, each token was read as a file. -/
theorem exists_sublist_of_tokens {texts : List String} {last : Reader}
    (h : r.tokens texts = .ok last) :
    ∃ taken, taken.Sublist texts ∧ last.files = r.files ++ taken ∧
      (taken = texts → texts.foldlM file r = .ok last) := by
  induction texts generalizing r with
  | nil =>
    obtain rfl := Except.ok.inj h
    exact ⟨[], .slnil, (List.append_nil _).symm, fun _ ↦ rfl⟩
  | cons text texts ih =>
    -- Two dashes, and a token that is no file, leave fewer files than tokens.
    have hshorter : ∀ taken : List String, taken.Sublist texts → taken ≠ text :: texts := by
      intro taken hsublist heq
      have hlength := hsublist.length_le
      rw [heq, List.length_cons] at hlength
      omega
    unfold tokens at h
    split at h
    · have hsublist := List.Sublist.refl texts
      exact ⟨texts, hsublist.cons text, files_of_foldlM_file h,
        fun heq ↦ absurd heq (hshorter texts hsublist)⟩
    · rw [bind_eq_ok_iff] at h
      obtain ⟨next, hnext, h⟩ := h
      obtain ⟨taken, hsublist, hfiles, hall⟩ := ih h
      rcases files_of_token hnext with ⟨-, hfile⟩ | hsame
      · refine ⟨text :: taken, hsublist.cons_cons text, ?_, ?_⟩
        · rw [hfiles, files_of_file hfile, List.append_assoc, List.singleton_append]
        · intro heq
          rw [List.foldlM_cons, hfile]
          exact hall (List.cons.inj heq).2
      · exact ⟨taken, hsublist.cons text, hsame ▸ hfiles,
          fun heq ↦ absurd heq (hshorter taken hsublist)⟩

end Reader

namespace Given

variable {given : Given} {texts : List String}

/-- Behind two dashes everything is a file. -/
theorem ofTokens_dashes (texts : List String) :
    ofTokens ("--" :: texts) = nothing.addFiles texts := by
  have hfiles := Reader.foldlM_file_row nothing [] texts
  unfold ofTokens Reader.tokens
  rw [if_pos rfl]
  exact (congrArg (· >>= Reader.settled) hfiles).trans (Reader.settled_row nothing texts)

/-- The files are tokens in their order. If all tokens are files, nothing else is given. -/
theorem files_sublist_of_ofTokens (h : ofTokens texts = .ok given) :
    given.files.Sublist texts ∧ (given.files = texts → given = onlyFiles texts) := by
  unfold ofTokens at h
  rw [bind_eq_ok_iff] at h
  obtain ⟨last, hlast, hgiven⟩ := h
  obtain ⟨taken, hsublist, hfiles, hall⟩ := Reader.exists_sublist_of_tokens hlast
  obtain rfl : given.files = taken := (Reader.files_of_settled hgiven).trans hfiles
  refine ⟨hsublist, fun heq ↦ ?_⟩
  have hrow : last = ⟨nothing, Reader.row texts, false⟩ :=
    Except.ok.inj ((hall heq).symm.trans (Reader.foldlM_file_row nothing [] texts))
  rw [hrow, Reader.settled_row] at hgiven
  rw [(of_addFiles_eq_ok hgiven).2, nothing_append]

theorem files_of_ofTokens_single {text : String} (hkept : IsKept text) (hdashes : text ≠ "--")
    (h : ofTokens [text] = .ok given) : given.files = [text].filter (· = "-") := by
  unfold ofTokens Reader.tokens at h
  rw [if_neg hdashes, bind_assoc, bind_eq_ok_iff] at h
  obtain ⟨next, hnext, h⟩ := h
  rw [Reader.files_of_settled h]
  by_cases hdash : text = "-"
  · obtain rfl := hdash
    obtain rfl := Except.ok.inj hnext
    rfl
  · rcases Reader.files_of_token hnext with ⟨hword, -⟩ | hsame
    · exact absurd (Token.eq_dash_of_word hkept.dashed hword) hdash
    · rw [hsame]
      simp [hdash, Reader.files, Reader.initial, nothing]

/-- Configured tokens give a file for each lone dash among them. -/
theorem files_of_ofTokens_kept (hkept : ∀ text ∈ texts, IsKept text) (hdashes : "--" ∉ texts)
    (h : ofTokens texts = .ok given) : given.files = texts.filter (· = "-") := by
  induction texts generalizing given with
  | nil =>
    obtain rfl := Except.ok.inj h
    rfl
  | cons text texts ih =>
    rw [List.forall_mem_cons] at hkept
    rw [List.mem_cons, not_or] at hdashes
    have hclosed : ∀ other ∈ [text], Token.IsClosed other := by
      intro other hother
      rw [List.mem_singleton.1 hother]
      exact .of_isKept hkept.1 (Ne.symm hdashes.1)
    rw [← List.singleton_append, ofTokens_append hclosed, bind_eq_ok_iff] at h
    obtain ⟨first, hfirst, h⟩ := h
    obtain ⟨rest, hrest, h⟩ := bind_eq_ok_iff.1 h
    obtain rfl := Except.ok.inj h
    rw [files_append, files_of_ofTokens_single hkept.1 (Ne.symm hdashes.1) hfirst,
      ih hkept.2 hdashes.2 hrest, ← List.filter_append, List.singleton_append]

theorem eq_complete_of_check {args : Arguments} (h : given.check = .ok args) :
    args = given.complete := by
  unfold check at h
  split at h
  · cases h
  · split at h
    · exact (Except.ok.inj h).symm
    · cases h

/-- Files alone are not enough for a run. -/
theorem check_onlyFiles_ne_ok (files : List String) (args : Arguments) :
    (onlyFiles files).check ≠ .ok args := by
  simp [check, onlyFiles, nothing, missing, isStandalone]

/-- Behind two dashes among kept tokens every token is a file. -/
theorem ofTokens_kept_dashes (hkept : ∀ text ∈ texts, IsKept text) (hdashes : "--" ∉ texts)
    (files : List String) :
    ofTokens (texts ++ "--" :: files) = ofTokens texts >>= fun given ↦ given.addFiles files := by
  rw [ofTokens_append (Token.forall_isClosed hkept hdashes), ofTokens_dashes]
  refine congrArg (ofTokens texts >>= ·) (funext fun given ↦ ?_)
  calc (nothing.addFiles files >>= fun h ↦ .ok (given ++ h))
      = (nothing.addFiles files).map (given ++ ·) := by cases nothing.addFiles files <;> rfl
    _ = given.addFiles files := by rw [← addFiles_append, append_nothing]

end Given

/-- Arguments are read in two steps: what the tokens give, and a check of that. -/
theorem exists_given_of_parse {commandLine : List String} {args : Arguments}
    (h : parse commandLine = .ok args) :
    ∃ given, Given.ofTokens (commandLine.drop 1) = .ok given ∧ given.check = .ok args :=
  bind_eq_ok_iff.1 h

/-- A command line that is accepted names the program. -/
theorem ne_nil_of_parse {commandLine : List String} {args : Arguments}
    (h : parse commandLine = .ok args) : commandLine ≠ [] := by
  rintro rfl
  exact Given.check_onlyFiles_ne_ok [] args h

namespace Defaults

variable {entries commandLine : List String} {own merged : Arguments}
  (hown : parse commandLine = .ok own)
  (hmerged : parse ((ofEntries entries).merge commandLine) = .ok merged)

include hown hmerged

/-- Without two dashes among the entries, each lone dash is a file ahead of the others. -/
theorem files_merge_of_notMem_dashes (hdashes : "--" ∉ entries) :
    merged.files = entries.filter (· = "-") ++ own.files := by
  have hflags : "--" ∉ (ofEntries entries).flagsFor commandLine := fun hmem ↦
    hdashes ((dashes_mem_flagsFor_iff entries commandLine).1 hmem)
  have hkept : ∀ text ∈ (ofEntries entries).flagsFor commandLine, IsKept text := fun _ ↦
    isKept_of_mem_flagsFor entries commandLine
  obtain ⟨given, hgiven, hcheck⟩ := exists_given_of_parse hown
  obtain ⟨all, hall, hcheckAll⟩ := exists_given_of_parse hmerged
  rw [drop_merge _ (ne_nil_of_parse hown),
    Given.ofTokens_append (Token.forall_isClosed hkept hflags), hgiven, bind_eq_ok_iff] at hall
  obtain ⟨configured, hconfigured, hall⟩ := hall
  obtain rfl := Except.ok.inj hall
  calc merged.files = configured.files ++ given.files := by
        rw [Given.eq_complete_of_check hcheckAll, Given.complete, Given.files_append]
    _ = entries.filter (· = "-") ++ own.files := by
        rw [Given.files_of_ofTokens_kept hkept hflags hconfigured,
          filter_flagsFor_ofEntries entries commandLine IsKept.dash (by decide) (by decide),
          Given.eq_complete_of_check hcheck, Given.complete]

/-- With two dashes among the entries, all of the command line's own tokens are files. -/
theorem exists_files_merge_of_mem_dashes (hdashes : "--" ∈ entries) :
    ∃ ahead, merged.files = ahead ++ commandLine.drop 1 := by
  obtain ⟨before, behind, hflags, hbefore⟩ :=
    List.eq_append_cons_of_mem ((dashes_mem_flagsFor_iff entries commandLine).2 hdashes)
  have hkept : ∀ text ∈ before, IsKept text := fun text htext ↦
    isKept_of_mem_flagsFor entries commandLine (hflags ▸ List.mem_append_left _ htext)
  obtain ⟨all, hall, hcheckAll⟩ := exists_given_of_parse hmerged
  rw [drop_merge _ (ne_nil_of_parse hown), hflags, List.append_assoc, List.cons_append,
    Given.ofTokens_kept_dashes hkept hbefore, bind_eq_ok_iff] at hall
  obtain ⟨configured, -, hall⟩ := hall
  obtain ⟨-, rfl⟩ := Given.of_addFiles_eq_ok hall
  refine ⟨configured.files ++ behind, ?_⟩
  rw [Given.eq_complete_of_check hcheckAll, Given.complete, List.append_assoc]
  rfl

omit hmerged

/-- An accepted command line has a token that is no file. -/
theorem append_drop_ne_files (ahead : List String) : ahead ++ commandLine.drop 1 ≠ own.files := by
  intro heq
  obtain ⟨given, hgiven, hcheck⟩ := exists_given_of_parse hown
  have hfiles : given.files = ahead ++ commandLine.drop 1 := by
    rw [heq, Given.eq_complete_of_check hcheck, Given.complete]
  obtain ⟨hsublist, honly⟩ := Given.files_sublist_of_ofTokens hgiven
  -- There are no more files than tokens, so the tokens are all the files.
  have hahead : ahead = [] := by
    have hlength := hsublist.length_le
    rw [hfiles, List.length_append] at hlength
    exact List.length_eq_zero_iff.1 (by omega)
  rw [hahead, List.nil_append] at hfiles
  rw [honly hfiles] at hcheck
  exact Given.check_onlyFiles_ne_ok _ _ hcheck

include hmerged

/-- Configured entries leave the files alone exactly when neither a lone dash nor two dashes are
among them. A lone dash is a file ahead of the others. Two dashes make files of all tokens that
stand on the command line. -/
theorem files_merge_eq_iff :
    (merged.files = own.files ↔ "-" ∉ entries ∧ "--" ∉ entries) ∧
      ("--" ∉ entries → merged.files = entries.filter (· = "-") ++ own.files) ∧
      ("--" ∈ entries → ∃ ahead, merged.files = ahead ++ commandLine.drop 1) := by
  refine ⟨?_, files_merge_of_notMem_dashes hown hmerged,
    exists_files_merge_of_mem_dashes hown hmerged⟩
  by_cases hdashes : "--" ∈ entries
  · obtain ⟨ahead, hahead⟩ := exists_files_merge_of_mem_dashes hown hmerged hdashes
    have hne : merged.files ≠ own.files := hahead ▸ append_drop_ne_files hown ahead
    simp [hne, hdashes]
  · have hfiles := files_merge_of_notMem_dashes hown hmerged hdashes
    simp [hfiles, hdashes, List.forall_mem_ne']

omit hown hmerged

/-- Standard input is read ahead of a log that the command line names. -/
theorem files_merge_eq_iff_dash :
    ∃ own merged : Arguments,
      parse ["dbus-reprogen", "--session", "org.x.L"] = .ok own ∧
      parse ((ofEntries ["--name=q.Q", "-"]).merge ["dbus-reprogen", "--session", "org.x.L"]) =
        .ok merged ∧
      merged.files = ["-"] ++ own.files ∧ merged.files ≠ own.files := by
  have hown : parse ["dbus-reprogen", "--session", "org.x.L"] = .ok
      ⟨false, true, none, .dbusSend, [.crash], ["org.x.L"], none, false, none, false⟩ := by
    decide +kernel
  have hmerged : parse ((ofEntries ["--name=q.Q", "-"]).merge
      ["dbus-reprogen", "--session", "org.x.L"]) = .ok
        ⟨false, true, some "q.Q", .dbusSend, [.crash], ["-", "org.x.L"], none, false, none,
          false⟩ := by
    decide +kernel
  obtain ⟨hiff, hdash, -⟩ := files_merge_eq_iff hown hmerged
  refine ⟨_, _, hown, hmerged, hdash (by decide), fun heq ↦ ?_⟩
  exact absurd (hiff.1 heq).1 (by decide)

/-- A lone dash that is configured is one file more. -/
theorem not_forall_files_merge_eq :
    ¬ ∀ (entries commandLine : List String) (own merged : Arguments),
      parse commandLine = .ok own → parse ((ofEntries entries).merge commandLine) = .ok merged →
      merged.files = own.files := by
  intro h
  have hfiles := h ["--name=q.Q", "-"] ["dbus-reprogen", "--session", "org.x.L"]
    ⟨false, true, none, .dbusSend, [.crash], ["org.x.L"], none, false, none, false⟩
    ⟨false, true, some "q.Q", .dbusSend, [.crash], ["-", "org.x.L"], none, false, none, false⟩
    (by decide +kernel) (by decide +kernel)
  exact absurd hfiles (by decide)

end Defaults

end BusReplay.CommandLine
