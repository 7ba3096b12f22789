import BusReplay.Proofs.CommandLine.Scope
import BusReplay.Proofs.CommandLine.Values
import BusReplay.Proofs.Record.Filter

/-!
# Typed options and configured ones

Configured options stand in front of the typed ones. So a typed value takes the place of a
configured one, and a configured value counts where none is typed. A filter adds its classes to
those before it, so the classes of a configured filter stay wanted beside the typed ones.
-/

namespace BusReplay.CommandLine

theorem Gives.flag_mem {texts : List String} {scope : BusScope} (h : Gives texts (.scope scope)) :
    scope.flag ∈ texts.takeWhile (· ≠ "--") := by
  obtain ⟨text, htext, hkey⟩ := h
  obtain ⟨isLong, hflag⟩ := Token.exists_eq_flag_of_key? (Token.isFit_ofText text) hkey rfl
  exact Token.eq_flag_of_scope hflag ▸ htext

namespace Defaults

/-! ## Flags that a typed bus takes away -/

theorem takeWhile_filter_scopeFlags (texts : List String) :
    (texts.filter fun text ↦ !isScopeFlag text).takeWhile (· ≠ "--") =
      (texts.takeWhile (· ≠ "--")).filter fun text ↦ !isScopeFlag text := by
  induction texts with
  | nil => rfl
  | cons text texts ih =>
    by_cases hdashes : text = "--"
    · have hscope : isScopeFlag "--" = false := by decide
      simp [hdashes, hscope]
    · by_cases hscope : isScopeFlag text = true
      · simpa [hdashes, hscope] using ih
      · simpa [hdashes, hscope] using ih

variable (defaults : Defaults) (commandLine : List String)

/-- No value is lost with the flags that are taken away. -/
theorem attachedValues_flagsFor (key : OptionKey) :
    attachedValues (defaults.flagsFor commandLine) key = attachedValues defaults.flags key := by
  unfold flagsFor
  split
  · unfold attachedValues
    rw [takeWhile_filter_scopeFlags, List.filterMap_filter]
    apply List.filterMap_congr
    intro text _
    by_cases hscope : isScopeFlag text = true
    · obtain ⟨scope, rfl⟩ := isScopeFlag_iff.1 hscope
      simp [hscope, Token.ofText_flag, Token.value?]
    · simp [hscope]
  · rfl

/-- Only the selection of a bus depends on the command line. -/
theorem gives_flagsFor_iff {key : OptionKey} (hkey : ∀ scope, key ≠ .scope scope) :
    Gives (defaults.flagsFor commandLine) key ↔ Gives defaults.flags key := by
  unfold flagsFor
  split
  · unfold Gives
    rw [takeWhile_filter_scopeFlags]
    constructor
    · rintro ⟨text, htext, hgives⟩
      exact ⟨text, List.mem_of_mem_filter htext, hgives⟩
    · rintro ⟨text, htext, hgives⟩
      refine ⟨text, List.mem_filter.2 ⟨htext, ?_⟩, hgives⟩
      rw [Bool.not_eq_true']
      by_contra hscope
      obtain ⟨scope, rfl⟩ := isScopeFlag_iff.1 (Bool.not_eq_false _ ▸ hscope)
      rw [Token.ofText_flag] at hgives
      exact hkey scope (Option.some.inj hgives).symm
  · rfl

/-- A typed bus leaves no configured one. -/
theorem not_gives_scope_flagsFor {commandLine : List String} {typed : BusScope}
    (htyped : Gives (commandLine.drop 1) (.scope typed)) (scope : BusScope) :
    ¬ Gives (defaults.flagsFor commandLine) (.scope scope) := by
  intro hgives
  have hnames : namesScope commandLine :=
    namesScope_iff.2 ⟨typed, List.takeWhile_subset _ htyped.flag_mem⟩
  have hmem : scope.flag ∈ defaults.scopeFlagsFor commandLine :=
    List.mem_filter.2 ⟨List.takeWhile_subset _ hgives.flag_mem, isScopeFlag_iff.2 ⟨scope, rfl⟩⟩
  rw [scopeFlagsFor_of_namesScope _ hnames] at hmem
  cases hmem

/-! ## What a merged command line gives -/

variable {entries commandLine : List String} {own merged : Arguments}
  (hown : parse commandLine = .ok own)
  (hmerged : parse ((ofEntries entries).merge commandLine) = .ok merged)

include hown hmerged

/-- Without two dashes among the entries, the configured flags and the typed tokens are read each by
themselves. -/
theorem exists_given_of_merge (hdashes : "--" ∉ entries) :
    ∃ configured given,
      (∀ text ∈ (ofEntries entries).flagsFor commandLine, Token.IsClosed text) ∧
      Given.ofTokens ((ofEntries entries).flagsFor commandLine) = .ok configured ∧
      Given.ofTokens (commandLine.drop 1) = .ok given ∧
      own = given.complete ∧ merged = (configured ++ given).complete := by
  have hflags : "--" ∉ (ofEntries entries).flagsFor commandLine := fun hmem ↦
    hdashes ((dashes_mem_flagsFor_iff entries commandLine).1 hmem)
  have hclosed : ∀ text ∈ (ofEntries entries).flagsFor commandLine, Token.IsClosed text :=
    Token.forall_isClosed (fun _ ↦ isKept_of_mem_flagsFor entries commandLine) hflags
  obtain ⟨given, hgiven, hcheck⟩ := exists_given_of_parse hown
  obtain ⟨all, hall, hcheckAll⟩ := exists_given_of_parse hmerged
  rw [drop_merge _ (ne_nil_of_parse hown), Given.ofTokens_append hclosed, hgiven, bind_eq_ok_iff]
    at hall
  obtain ⟨configured, hconfigured, hall⟩ := hall
  obtain rfl := Except.ok.inj hall
  exact ⟨configured, given, hclosed, hconfigured, hgiven, Given.eq_complete_of_check hcheck,
    Given.eq_complete_of_check hcheckAll⟩

/-- With two dashes among the entries, the configured flags before them give all that is given but
the files. -/
theorem exists_given_of_merge_dashes (hdashes : "--" ∈ entries) :
    ∃ before configured files, (∀ text ∈ before, Token.IsClosed text) ∧
      before = ((ofEntries entries).flagsFor commandLine).takeWhile (· ≠ "--") ∧
      Given.ofTokens before = .ok configured ∧
      merged = (configured ++ Given.onlyFiles files).complete := by
  obtain ⟨before, behind, hflags, hbefore⟩ :=
    List.eq_append_cons_of_mem ((dashes_mem_flagsFor_iff entries commandLine).2 hdashes)
  have hkept : ∀ text ∈ before, IsKept text := fun text htext ↦
    isKept_of_mem_flagsFor entries commandLine (hflags ▸ List.mem_append_left _ htext)
  obtain ⟨all, hall, hcheckAll⟩ := exists_given_of_parse hmerged
  rw [drop_merge _ (ne_nil_of_parse hown), hflags, List.append_assoc, List.cons_append,
    Given.ofTokens_kept_dashes hkept hbefore, bind_eq_ok_iff] at hall
  obtain ⟨configured, hconfigured, hall⟩ := hall
  obtain ⟨-, rfl⟩ := Given.of_addFiles_eq_ok hall
  refine ⟨before, configured, _, Token.forall_isClosed hkept hbefore, ?_, hconfigured,
    Given.eq_complete_of_check hcheckAll⟩
  rw [hflags, List.takeWhile_append_of_pos]
  · simp
  · intro text htext
    simpa using ne_of_mem_of_not_mem htext hbefore

omit hown hmerged

/-! ## Options with one value -/

end Defaults

/-- Whether a value is the typed one if the option is typed, and else the configured one. -/
def SingleOption.Prefers {α : Type} (o : SingleOption α) (typed flags : List String)
    (own merged : Option α) : Prop :=
  (Gives typed o.key → merged = own) ∧ (¬ Gives typed o.key → o.HasValue flags merged)

theorem SingleOption.hasValue_flagsFor_iff {α : Type} (o : SingleOption α) (defaults : Defaults)
    (commandLine : List String) {value : Option α} :
    o.HasValue (defaults.flagsFor commandLine) value ↔ o.HasValue defaults.flags value := by
  cases value <;> simp only [HasValue, Defaults.attachedValues_flagsFor]

/-- A typed value is preferred, and without one the configured value holds. -/
theorem SingleOption.prefers_given {α : Type} (o : SingleOption α) {typed flags : List String}
    {configured given : Given} (hgiven : Given.ofTokens typed = .ok given)
    (hvalue : o.HasValue flags (o.given configured)) :
    o.Prefers typed flags (o.given given) (o.given (configured ++ given)) := by
  have hgives : Gives typed o.key ↔ o.given given ≠ none :=
    (Given.has_iff_gives hgiven o.key).symm.trans (o.has_iff given)
  rw [o.given_append]
  constructor
  · intro h
    obtain ⟨value, hsome⟩ := Option.ne_none_iff_exists'.1 (hgives.1 h)
    rw [hsome, Option.some_or]
  · intro h
    rw [not_not.1 (mt hgives.2 h), Option.none_or]
    exact hvalue

namespace Defaults

variable {entries commandLine : List String} {own merged : Arguments}

/-- A typed bus is the only one. -/
theorem scopes_of_typed {configured given : Given}
    (hconfigured : Given.ofTokens ((ofEntries entries).flagsFor commandLine) = .ok configured)
    {typed : BusScope} (htyped : Gives (commandLine.drop 1) (.scope typed)) :
    (configured ++ given).scopes = given.scopes := by
  have hnone : configured.scopes = [] := by
    refine List.eq_nil_iff_forall_not_mem.2 fun scope hscope ↦ ?_
    exact not_gives_scope_flagsFor _ htyped scope
      ((Given.has_iff_gives hconfigured (.scope scope)).1 hscope)
  rw [Given.scopes_append, hnone, List.filter_nil, List.nil_append]

/-- A typed option wins over the configured ones, and the last configured value counts where none
is typed. A typed bus is the only one, and a flag is set if it is typed or configured. -/
theorem prefers_typed_of_merge (hdashes : "--" ∉ entries) (hown : parse commandLine = .ok own)
    (hmerged : parse ((ofEntries entries).merge commandLine) = .ok merged) :
    let typed := commandLine.drop 1
    let flags := (ofEntries entries).flags
    (∃ target, SingleOption.target.Prefers typed flags (some own.target) target ∧
      merged.target = target.getD .dbusSend) ∧
    SingleOption.name.Prefers typed flags own.name merged.name ∧
    SingleOption.logFormat.Prefers typed flags own.logFormat merged.logFormat ∧
    SingleOption.completions.Prefers typed flags own.completions merged.completions ∧
    ((∃ scope, Gives typed (.scope scope)) → merged.busScope = own.busScope) ∧
    (merged.debug = true ↔ own.debug = true ∨ Gives flags .debug) ∧
    (merged.manPage = true ↔ own.manPage = true ∨ Gives flags .manPage) := by
  intro typed flags
  obtain ⟨configured, given, hclosed, hconfigured, hgiven, rfl, rfl⟩ :=
    exists_given_of_merge hown hmerged hdashes
  have hprefers {α : Type} (o : SingleOption α) :
      o.Prefers typed flags (o.given given) (o.given (configured ++ given)) := by
    apply o.prefers_given hgiven
    rw [← o.hasValue_flagsFor_iff _ commandLine]
    exact o.hasValue_of_ofTokens hclosed hconfigured
  have hset (key : OptionKey) (hkey : ∀ scope, key ≠ .scope scope) :
      configured.Has key ↔ Gives flags key :=
    (Given.has_iff_gives hconfigured key).trans (gives_flagsFor_iff _ commandLine hkey)
  refine ⟨⟨(configured ++ given).target, ?_, rfl⟩, hprefers .name, hprefers .logFormat,
    hprefers .completions, ?_, ?_, ?_⟩
  · obtain ⟨htyped, hrest⟩ := hprefers .target
    refine ⟨fun hgives ↦ ?_, hrest⟩
    have hsome : given.target ≠ none := (Given.has_iff_gives hgiven .target).2 hgives
    obtain ⟨target, htarget⟩ := Option.ne_none_iff_exists'.1 hsome
    rw [show (configured ++ given).target = given.target from htyped hgives]
    simp [Given.complete, htarget]
  · rintro ⟨scope, hscope⟩
    have hsystem : (configured ++ given).complete.system = given.complete.system :=
      congrArg (fun scopes : List BusScope ↦ scopes.contains .system)
        (scopes_of_typed hconfigured hscope)
    rw [Arguments.busScope, Arguments.busScope, hsystem]
  · rw [← hset .debug (by simp)]
    simp [Given.complete, Given.Has, or_comm]
  · rw [← hset .manPage (by simp)]
    simp [Given.complete, Given.Has, or_comm]

/-- A configured target and the last of two configured formats fill in the rest, and a configured
name and a configured bus give way to typed ones. -/
theorem prefers_typed_of_merge_mixed :
    let entries := ["-t", "gdbus", "-n", "q.Q", "--session", "--log-format=text", "--log-format",
      "json", "--debug"]
    let commandLine := ["dbus-reprogen", "--system", "--name=r.R", "org.x.L"]
    "--" ∉ entries ∧ ∃ own merged : Arguments, parse commandLine = .ok own ∧
      parse ((ofEntries entries).merge commandLine) = .ok merged ∧
      (∃ target, SingleOption.target.HasValue (ofEntries entries).flags target ∧
        merged.target = target.getD .dbusSend) ∧
      merged.name = own.name ∧
      SingleOption.logFormat.HasValue (ofEntries entries).flags merged.logFormat ∧
      merged.busScope = own.busScope ∧ merged.debug = true := by
  intro entries commandLine
  have hdashes : "--" ∉ entries := by decide
  have hown : parse commandLine = .ok
      ⟨true, false, some "r.R", .dbusSend, [.crash], ["org.x.L"], none, false, none, false⟩ := by
    decide +kernel
  have hmerged : parse ((ofEntries entries).merge commandLine) = .ok
      ⟨true, false, some "r.R", .gdbus, [.crash], ["org.x.L"], some .json, true, none, false⟩ := by
    decide +kernel
  obtain ⟨⟨target, htarget, hmergedTarget⟩, hname, hformat, -, hscope, hdebug, -⟩ :=
    prefers_typed_of_merge hdashes hown hmerged
  exact ⟨hdashes, _, _, hown, hmerged, ⟨target, htarget.2 (by decide +kernel), hmergedTarget⟩,
    hname.1 (by decide +kernel), hformat.2 (by decide +kernel),
    hscope ⟨.system, by decide +kernel⟩, hdebug.2 (.inr (by decide +kernel))⟩

/-! ## Filters -/

theorem filterClasses_flagsFor (defaults : Defaults) (commandLine : List String) :
    filterClasses (defaults.flagsFor commandLine) = filterClasses defaults.flags := by
  unfold filterClasses
  rw [attachedValues_flagsFor]

/-- The configured classes come in front of the typed ones. -/
theorem filter_merge_of_notMem_dashes (hown : parse commandLine = .ok own)
    (hmerged : parse ((ofEntries entries).merge commandLine) = .ok merged)
    (htyped : Gives (commandLine.drop 1) .filter) (hdashes : "--" ∉ entries) :
    merged.filter = filterClasses (ofEntries entries).flags ++ own.filter := by
  obtain ⟨configured, given, hclosed, hconfigured, hgiven, rfl, rfl⟩ :=
    exists_given_of_merge hown hmerged hdashes
  have hne : given.filter ≠ [] := (Given.has_iff_gives hgiven .filter).2 htyped
  have hclasses : configured.filter = filterClasses (ofEntries entries).flags :=
    (Given.filter_of_ofTokens hclosed hconfigured).trans (filterClasses_flagsFor _ commandLine)
  simp [Given.complete, hclasses, hne]

/-- Behind configured two dashes nothing that is typed is an option. -/
theorem filter_merge_of_mem_dashes (hown : parse commandLine = .ok own)
    (hmerged : parse ((ofEntries entries).merge commandLine) = .ok merged)
    (hdashes : "--" ∈ entries) :
    merged.filter = if filterClasses (ofEntries entries).flags = [] then [.crash]
      else filterClasses (ofEntries entries).flags := by
  obtain ⟨before, configured, files, hclosed, hbefore, hconfigured, rfl⟩ :=
    exists_given_of_merge_dashes hown hmerged hdashes
  have hclasses : configured.filter = filterClasses (ofEntries entries).flags := by
    rw [Given.filter_of_ofTokens hclosed hconfigured, hbefore, filterClasses,
      attachedValues_takeWhile]
    exact filterClasses_flagsFor _ commandLine
  simp [Given.complete, Given.onlyFiles, Given.nothing, hclasses]

/-- A typed filter adds to the configured one. Both accept the same labels exactly when no class is
configured that is not typed. Behind two dashes among the entries no filter is typed at all. -/
theorem accepts_merge_eq_iff (hown : parse commandLine = .ok own)
    (hmerged : parse ((ofEntries entries).merge commandLine) = .ok merged)
    (htyped : Gives (commandLine.drop 1) .filter) :
    let classes := filterClasses (ofEntries entries).flags
    ("--" ∉ entries → merged.filter = classes ++ own.filter ∧
      ((∀ label, merged.resultFilter.accepts label = own.resultFilter.accepts label) ↔
        ∀ c ∈ classes, c ∈ own.filter)) ∧
    ("--" ∈ entries → merged.filter = if classes = [] then [.crash] else classes) := by
  intro classes
  refine ⟨fun hdashes ↦ ?_, filter_merge_of_mem_dashes hown hmerged⟩
  have hfilter : merged.filter = classes ++ own.filter :=
    filter_merge_of_notMem_dashes hown hmerged htyped hdashes
  refine ⟨hfilter, ?_⟩
  unfold Arguments.resultFilter
  rw [ResultFilter.accepts_ofList_eq_iff, hfilter]
  simp only [List.mem_append, or_iff_right_iff_imp]

/-- A typed class does not replace a configured one. -/
theorem accepts_merge_eq_iff_crash :
    ∃ own merged : Arguments,
      parse ["dbus-reprogen", "--session", "-f", "Success", "--", "org.x.L"] = .ok own ∧
      parse ((ofEntries ["--filter", "Crash"]).merge
        ["dbus-reprogen", "--session", "-f", "Success", "--", "org.x.L"]) = .ok merged ∧
      Gives ["--session", "-f", "Success", "--", "org.x.L"] .filter ∧
      merged.filter = [.crash] ++ own.filter ∧
      ¬ ∀ label, merged.resultFilter.accepts label = own.resultFilter.accepts label := by
  have hown : parse ["dbus-reprogen", "--session", "-f", "Success", "--", "org.x.L"] = .ok
      ⟨false, true, none, .dbusSend, [.success], ["org.x.L"], none, false, none, false⟩ := by
    decide +kernel
  have hmerged : parse ((ofEntries ["--filter", "Crash"]).merge
      ["dbus-reprogen", "--session", "-f", "Success", "--", "org.x.L"]) = .ok
        ⟨false, true, none, .dbusSend, [.crash, .success], ["org.x.L"], none, false, none,
          false⟩ := by
    decide +kernel
  have htyped : Gives ["--session", "-f", "Success", "--", "org.x.L"] .filter := by decide +kernel
  obtain ⟨hfilter, hiff⟩ := (accepts_merge_eq_iff hown hmerged htyped).1 (by decide)
  refine ⟨_, _, hown, hmerged, htyped, hfilter, fun hsame ↦ ?_⟩
  exact absurd (hiff.1 hsame .crash (by decide +kernel)) (by decide)

/-- A configured class stays wanted, although another one is typed. -/
theorem not_forall_accepts_merge_eq :
    ¬ ∀ (entries commandLine : List String) (own merged : Arguments),
      parse commandLine = .ok own → parse ((ofEntries entries).merge commandLine) = .ok merged →
      Gives (commandLine.drop 1) .filter →
      ∀ label, merged.resultFilter.accepts label = own.resultFilter.accepts label := by
  intro h
  have hcrash := h ["--filter", "Crash"]
    ["dbus-reprogen", "--session", "--filter=Success", "org.x.L"]
    ⟨false, true, none, .dbusSend, [.success], ["org.x.L"], none, false, none, false⟩
    ⟨false, true, none, .dbusSend, [.crash, .success], ["org.x.L"], none, false, none, false⟩
    (by decide +kernel) (by decide +kernel) (by decide +kernel) "Crash"
  exact absurd hcrash (by decide +kernel)

end Defaults

end BusReplay.CommandLine
