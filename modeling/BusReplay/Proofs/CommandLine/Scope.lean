import BusReplay.Proofs.CommandLine.Occurrence

/-!
# The bus that a command line selects

A flag selects a bus only before the two dashes; behind them it is the name of a file. A configured
bus is given up for a flag anywhere on the command line. So the configured bus is lost exactly when
a file has the spelling of such a flag, and a command line that names only files is completed by
the configured bus exactly when no file has.
-/

namespace BusReplay.CommandLine

/-- Whether a flag that selects a bus is read: one that stands before the two dashes. -/
def SelectsScope (texts : List String) : Prop :=
  ∃ text ∈ texts.takeWhile (· ≠ "--"), ∃ scope isLong,
    Token.ofText text = .flag (.scope scope) isLong

/-- Whether tokens name files and nothing else: words, and whatever stands behind two dashes. -/
structure NamesOnlyFiles (texts : List String) : Prop where
  words : ∀ text ∈ texts.takeWhile (· ≠ "--"), Token.ofText text = .word
  nonempty : "" ∉ texts
  exists_file : texts.erase "--" ≠ []

namespace Token

theorem ofText_flag (scope : BusScope) : ofText scope.flag = flag (.scope scope) true := by
  cases scope <;> rfl

/-- Only the flag itself selects a bus, since there is no letter for it. -/
theorem eq_flag_of_scope {text : String} {scope : BusScope} {isLong : Bool}
    (h : ofText text = flag (.scope scope) isLong) : text = scope.flag := by
  unfold ofText at h
  split at h
  · next body htext =>
    split at h
    · exact absurd (of_ofLong_eq_flag h).2 (by simp)
    · obtain ⟨hkey, -⟩ := of_ofLong_eq_flag h
      have hname : scope.name = String.ofList body := OptionKey.long_of_ofLong? hkey
      apply String.toList_injective
      simp [htext, BusScope.flag, hname]
  · next c rest hlong htext =>
    have hletter := List.find?_some (of_ofLetter_eq_flag h)
    simp [OptionKey.letter?] at hletter
  · cases h

end Token

theorem selectsScope_iff {texts : List String} :
    SelectsScope texts ↔ ∃ scope : BusScope, scope.flag ∈ texts.takeWhile (· ≠ "--") := by
  constructor
  · rintro ⟨text, htext, scope, isLong, hflag⟩
    exact ⟨scope, Token.eq_flag_of_scope hflag ▸ htext⟩
  · rintro ⟨scope, hscope⟩
    exact ⟨scope.flag, hscope, scope, true, Token.ofText_flag scope⟩

theorem not_selectsScope_dashes (texts : List String) : ¬ SelectsScope ("--" :: texts) := by
  rintro ⟨text, htext, -⟩
  simp at htext

theorem selectsScope_cons {text : String} (hdashes : text ≠ "--") (texts : List String) :
    SelectsScope (text :: texts) ↔
      (∃ scope isLong, Token.ofText text = .flag (.scope scope) isLong) ∨ SelectsScope texts := by
  simp [SelectsScope, hdashes]

theorem selectsScope_append {texts others : List String} (h : SelectsScope (texts ++ others)) :
    (∃ scope : BusScope, scope.flag ∈ texts) ∨ SelectsScope others := by
  induction texts with
  | nil => exact .inr h
  | cons text texts ih =>
    by_cases hdashes : text = "--"
    · rw [hdashes] at h
      exact absurd h (not_selectsScope_dashes _)
    · rcases (selectsScope_cons hdashes _).1 h with ⟨scope, isLong, hflag⟩ | h
      · exact .inl ⟨scope, Token.eq_flag_of_scope hflag ▸ List.mem_cons_self⟩
      · exact (ih h).imp_left fun ⟨scope, hscope⟩ ↦ ⟨scope, List.mem_cons_of_mem text hscope⟩

theorem selectsScope_iff_gives {texts : List String} :
    SelectsScope texts ↔ ∃ scope, Gives texts (.scope scope) := by
  constructor
  · rintro ⟨text, htext, scope, isLong, hflag⟩
    exact ⟨scope, text, htext, by rw [hflag, Token.key?]⟩
  · rintro ⟨scope, text, htext, hkey⟩
    exact ⟨text, htext, scope, Token.exists_eq_flag_of_key? (Token.isFit_ofText text) hkey rfl⟩

/-- A bus is selected exactly when a flag for it is read. -/
theorem Given.scopes_ne_nil_iff {given : Given} {texts : List String}
    (h : ofTokens texts = .ok given) : given.scopes ≠ [] ↔ SelectsScope texts := by
  have hgives (scope : BusScope) : scope ∈ given.scopes ↔ Gives texts (.scope scope) :=
    has_iff_gives h (.scope scope)
  simp only [selectsScope_iff_gives, ← hgives]
  constructor
  · exact List.exists_mem_of_ne_nil given.scopes
  · rintro ⟨scope, hscope⟩
    exact List.ne_nil_of_mem hscope

/-! ## Command lines of files -/

theorem Reader.tokens_words {g : Given} {texts : List String}
    (hwords : ∀ text ∈ texts.takeWhile (· ≠ "--"), Token.ofText text = .word)
    (taken : List String) :
    tokens ⟨g, row taken, false⟩ texts = .ok ⟨g, row (taken ++ texts.erase "--"), false⟩ := by
  induction texts generalizing taken with
  | nil => rw [List.erase_nil, List.append_nil]; rfl
  | cons text texts ih =>
    unfold tokens
    split
    · next hdashes => rw [hdashes, List.erase_cons_head, foldlM_file_row]
    · next hdashes =>
      rw [List.takeWhile_cons_of_pos (by simp [hdashes]), List.forall_mem_cons] at hwords
      rw [token_eq_act, hwords.1, act, word_row, List.erase_cons_tail (by simp [hdashes])]
      exact (ih hwords.2 (taken ++ [text])).trans (by rw [List.append_assoc, List.singleton_append])

namespace NamesOnlyFiles

variable {own : List String} (hfiles : NamesOnlyFiles own)

include hfiles

/-- Where only files are named, all tokens are files but the first two dashes. -/
theorem ofTokens_eq : Given.ofTokens own = .ok (Given.onlyFiles (own.erase "--")) := by
  have hempty : "" ∉ own.erase "--" := fun hmem ↦ hfiles.nonempty (List.mem_of_mem_erase hmem)
  calc Given.ofTokens own
      = Reader.settled ⟨.nothing, Reader.row (own.erase "--"), false⟩ :=
        congrArg (· >>= Reader.settled) (Reader.tokens_words hfiles.words [])
    _ = .ok (Given.nothing ++ Given.onlyFiles (own.erase "--")) := by
        rw [Reader.settled_row, Given.addFiles_eq_ok _ hempty]
    _ = .ok (Given.onlyFiles (own.erase "--")) := by rw [Given.nothing_append]

/-- Files behind kept tokens add to what these give, whether or not two dashes are among them. -/
theorem exists_ofTokens_append {flags : List String} {configured : Given}
    (hkept : ∀ text ∈ flags, IsKept text) (hconfigured : Given.ofTokens flags = .ok configured) :
    ∃ files, files ≠ [] ∧
      Given.ofTokens (flags ++ own) = .ok (configured ++ Given.onlyFiles files) := by
  by_cases hdashes : "--" ∈ flags
  -- All that follows the two dashes is one row of files, with the command line at its end.
  · obtain ⟨before, behind, rfl, hbefore⟩ := List.eq_append_cons_of_mem hdashes
    have hkeptBefore : ∀ text ∈ before, IsKept text := fun text htext ↦
      hkept text (List.mem_append_left _ htext)
    rw [Given.ofTokens_kept_dashes hkeptBefore hbefore, bind_eq_ok_iff] at hconfigured
    obtain ⟨given, hgiven, hconfigured⟩ := hconfigured
    obtain ⟨hbehind, rfl⟩ := Given.of_addFiles_eq_ok hconfigured
    have hall : "" ∉ behind ++ own := by simp [hbehind, hfiles.nonempty]
    refine ⟨own, ?_, ?_⟩
    · rintro rfl
      exact hfiles.exists_file rfl
    · rw [List.append_assoc, List.cons_append, Given.ofTokens_kept_dashes hkeptBefore hbefore,
        hgiven, Given.append_assoc, ← Given.onlyFiles_append]
      exact Given.addFiles_eq_ok given hall
  · refine ⟨own.erase "--", hfiles.exists_file, ?_⟩
    rw [Given.ofTokens_append (Token.forall_isClosed hkept hdashes), hconfigured,
      hfiles.ofTokens_eq]
    rfl

theorem not_selectsScope : ¬ SelectsScope own := by
  rintro ⟨text, htext, scope, isLong, hflag⟩
  rw [hfiles.words text htext] at hflag
  cases hflag

end NamesOnlyFiles

namespace Given

/-- With one bus and a file nothing is missing. -/
theorem check_append_onlyFiles {given : Given} {scope : BusScope} (hscope : given.scopes = [scope])
    {files : List String} (hfiles : files ≠ []) :
    (given ++ onlyFiles files).check = .ok (given ++ onlyFiles files).complete := by
  have hscopes : (given ++ onlyFiles files).scopes = [scope] := by
    simp [hscope, onlyFiles, nothing]
  have hmissing : (given ++ onlyFiles files).missing = [] := by
    have hall : (given ++ onlyFiles files).files ≠ [] := by simp [onlyFiles, hfiles]
    simp only [missing, hscopes, List.isEmpty_iff, hall]
    simp
  simp only [check, hscopes, hmissing]
  rfl

end Given

namespace Defaults

theorem namesScope_iff {commandLine : List String} :
    namesScope commandLine ↔ ∃ scope : BusScope, scope.flag ∈ commandLine.drop 1 := by
  unfold namesScope
  rw [List.any_eq_true]
  constructor
  · rintro ⟨token, htoken, hscope⟩
    obtain ⟨scope, rfl⟩ := isScopeFlag_iff.1 hscope
    exact ⟨scope, htoken⟩
  · rintro ⟨scope, hscope⟩
    exact ⟨scope.flag, hscope, isScopeFlag_iff.2 ⟨scope, rfl⟩⟩

/-- The configured flags that select a bus. -/
def scopeFlags (defaults : Defaults) : List String := defaults.flags.filter isScopeFlag

/-- Those of them that are put in front of a command line. -/
def scopeFlagsFor (defaults : Defaults) (commandLine : List String) : List String :=
  (defaults.flagsFor commandLine).filter isScopeFlag

theorem scopeFlagsFor_of_namesScope (defaults : Defaults) {commandLine : List String}
    (hnames : namesScope commandLine) : defaults.scopeFlagsFor commandLine = [] := by
  unfold scopeFlagsFor flagsFor
  rw [if_pos hnames, List.filter_filter, List.filter_eq_nil_iff]
  simp

theorem scopeFlagsFor_of_not_namesScope (defaults : Defaults) {commandLine : List String}
    (hnames : ¬ namesScope commandLine) :
    defaults.scopeFlagsFor commandLine = defaults.scopeFlags := by
  unfold scopeFlagsFor flagsFor
  rw [if_neg hnames, scopeFlags]

variable {entries commandLine : List String} (hfiles : NamesOnlyFiles (commandLine.drop 1))

include hfiles

theorem drop_merge_of_files :
    ((ofEntries entries).merge commandLine).drop 1 =
      (ofEntries entries).flagsFor commandLine ++ commandLine.drop 1 := by
  apply drop_merge
  rintro rfl
  exact hfiles.exists_file rfl

/-- The configured bus completes a command line of files. -/
theorem exists_parse_merge {configured : Given} {scope : BusScope}
    (hconfigured : Given.ofTokens (ofEntries entries).flags = .ok configured)
    (hscope : configured.scopes = [scope]) (hnames : ¬ namesScope commandLine) :
    ∃ args, parse ((ofEntries entries).merge commandLine) = .ok args ∧
      args.system = (scope == .system) ∧ args.session = (scope == .session) := by
  obtain ⟨files, hne, hall⟩ :=
    hfiles.exists_ofTokens_append (fun _ ↦ isKept_of_mem_flags none entries) hconfigured
  have hscopes : (configured ++ Given.onlyFiles files).scopes = [scope] := by
    simp [hscope, Given.onlyFiles, Given.nothing]
  refine ⟨(configured ++ Given.onlyFiles files).complete, ?_, ?_, ?_⟩
  · unfold parse readTokens
    rw [drop_merge_of_files hfiles, flagsFor, if_neg hnames]
    exact (congrArg (· >>= Given.check) hall).trans (Given.check_append_onlyFiles hscope hne)
  · rw [Given.complete, hscopes]
    cases scope <;> rfl
  · rw [Given.complete, hscopes]
    cases scope <;> rfl

/-- Without the configured bus a command line of files selects none. -/
theorem not_selected_of_parse_merge (hnames : namesScope commandLine) {args : Arguments}
    (hargs : parse ((ofEntries entries).merge commandLine) = .ok args) :
    args.system = false ∧ args.session = false := by
  obtain ⟨given, hgiven, hcheck⟩ := exists_given_of_parse hargs
  rw [drop_merge_of_files hfiles] at hgiven
  -- The configured flags are taken away, and what follows them are words and files.
  have hflags : ∀ scope : BusScope, scope.flag ∉ (ofEntries entries).flagsFor commandLine := by
    intro scope hscope
    have hmem : scope.flag ∈ (ofEntries entries).scopeFlagsFor commandLine :=
      List.mem_filter.2 ⟨hscope, isScopeFlag_iff.2 ⟨scope, rfl⟩⟩
    rw [scopeFlagsFor_of_namesScope _ hnames] at hmem
    exact List.not_mem_nil hmem
  have hscopes : given.scopes = [] := by
    by_contra hne
    rcases selectsScope_append ((Given.scopes_ne_nil_iff hgiven).1 hne) with ⟨scope, hscope⟩ | hown
    · exact hflags scope hscope
    · exact hfiles.not_selectsScope hown
  rw [Given.eq_complete_of_check hcheck, Given.complete, hscopes]
  exact ⟨rfl, rfl⟩

omit hfiles

/-- A configured bus is given up whenever the command line selects one. Otherwise it is kept unless
the flag of a bus is the name of a file, and a command line that names only files runs on the
configured bus exactly when no file has such a name. -/
theorem scopeFlagsFor_eq_iff (entries commandLine : List String) :
    (∀ given, Given.ofTokens (commandLine.drop 1) = .ok given →
      (given.scopes ≠ [] ↔ SelectsScope (commandLine.drop 1))) ∧
    (SelectsScope (commandLine.drop 1) → (ofEntries entries).scopeFlagsFor commandLine = []) ∧
    (¬ SelectsScope (commandLine.drop 1) →
      ((ofEntries entries).scopeFlagsFor commandLine = (ofEntries entries).scopeFlags ↔
        (ofEntries entries).scopeFlags = [] ∨
          ∀ scope : BusScope, scope.flag ∉ commandLine.drop 1)) ∧
    ∀ configured scope, NamesOnlyFiles (commandLine.drop 1) →
      Given.ofTokens (ofEntries entries).flags = .ok configured → configured.scopes = [scope] →
      ((∃ args, parse ((ofEntries entries).merge commandLine) = .ok args ∧
          args.system = (scope == .system) ∧ args.session = (scope == .session)) ↔
        ∀ scope : BusScope, scope.flag ∉ commandLine.drop 1) := by
  have hnames : ¬ namesScope commandLine ↔ ∀ scope : BusScope, scope.flag ∉ commandLine.drop 1 := by
    rw [namesScope_iff, not_exists]
  refine ⟨fun given ↦ Given.scopes_ne_nil_iff, ?_, ?_, ?_⟩
  · intro hselects
    obtain ⟨scope, hscope⟩ := selectsScope_iff.1 hselects
    apply scopeFlagsFor_of_namesScope
    exact namesScope_iff.2 ⟨scope, List.takeWhile_subset _ hscope⟩
  · intro _
    rw [← hnames]
    by_cases h : namesScope commandLine
    · rw [scopeFlagsFor_of_namesScope _ h]
      exact ⟨fun heq ↦ .inl heq.symm, fun hor ↦ (hor.resolve_right (not_not_intro h)).symm⟩
    · rw [scopeFlagsFor_of_not_namesScope _ h]
      simp [h]
  · intro configured scope hfiles hconfigured hscope
    rw [← hnames]
    constructor
    · rintro ⟨args, hargs, hsystem, hsession⟩ h
      obtain ⟨hnoSystem, hnoSession⟩ := not_selected_of_parse_merge hfiles h hargs
      rw [hnoSystem] at hsystem
      rw [hnoSession] at hsession
      cases scope with
      | system => cases hsystem
      | session => cases hsession
    · exact exists_parse_merge hfiles hconfigured hscope

/-- The configured bus completes a command line of one file, unless the file has the spelling of a
flag: then the bus is lost, and with it the run. -/
theorem scopeFlagsFor_eq_iff_file :
    (∃ args, parse ((ofEntries ["--system"]).merge ["dbus-reprogen", "--", "org.x.L"]) =
        .ok args ∧ args.system = true ∧ args.session = false) ∧
      (ofEntries ["--system"]).scopeFlagsFor ["dbus-reprogen", "--", "--session"] ≠
        (ofEntries ["--system"]).scopeFlags ∧
      ¬ ∃ args, parse ((ofEntries ["--system"]).merge ["dbus-reprogen", "--", "--session"]) =
        .ok args ∧ args.system = true ∧ args.session = false := by
  have hconfigured : Given.ofTokens (ofEntries ["--system"]).flags = .ok
      ⟨[.system], none, none, [], [], none, false, none, false⟩ := by decide +kernel
  have hlog : NamesOnlyFiles ["--", "org.x.L"] := ⟨by simp, by decide, by decide⟩
  have hfiles : NamesOnlyFiles ["--", "--session"] := ⟨by simp, by decide, by decide⟩
  have hplain : ∀ scope : BusScope, scope.flag ∉ ["--", "org.x.L"] := by
    intro scope
    cases scope <;> decide
  have hflag : ¬ ∀ scope : BusScope, scope.flag ∉ ["--", "--session"] := fun h ↦
    h .session (by decide)
  obtain ⟨-, -, -, hacceptedLog⟩ :=
    scopeFlagsFor_eq_iff ["--system"] ["dbus-reprogen", "--", "org.x.L"]
  obtain ⟨-, -, hkept, haccepted⟩ :=
    scopeFlagsFor_eq_iff ["--system"] ["dbus-reprogen", "--", "--session"]
  refine ⟨(hacceptedLog _ .system hlog hconfigured rfl).2 hplain, ?_,
    fun h ↦ hflag ((haccepted _ .system hfiles hconfigured rfl).1 h)⟩
  intro heq
  rcases (hkept hfiles.not_selectsScope).1 heq with hnone | hnames
  · exact absurd hnone (by decide)
  · exact hflag hnames

/-- A file that is spelled like a flag takes away the configured bus. -/
theorem not_forall_scopeFlagsFor_eq :
    ¬ ∀ entries commandLine : List String, ¬ SelectsScope (commandLine.drop 1) →
      (ofEntries entries).scopeFlagsFor commandLine = (ofEntries entries).scopeFlags := by
  intro h
  have hkept := h ["--system"] ["dbus-reprogen", "--", "--session"] (not_selectsScope_dashes _)
  exact absurd hkept (by decide)

end Defaults

end BusReplay.CommandLine
