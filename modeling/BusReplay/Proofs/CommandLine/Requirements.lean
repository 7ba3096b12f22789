import BusReplay.Proofs.CommandLine.Scope
import BusReplay.Proofs.Record.Filter

/-!
# What every accepted command line has

Whatever is taken over while a command line is read keeps some properties of what is given, such as
that no file name is empty. In the end it is checked that no two buses are selected, and that a bus
and a file are there unless a text is all that is to be generated. So an accepted command line
names one bus, the typed one, and something to do.
-/

namespace BusReplay.CommandLine

namespace Given

/-- A property of what is given that is kept by all that is taken over. -/
structure IsInvariant (P : Given → Prop) : Prop where
  flag {g : Given} (hg : P g) (key : OptionKey) : P (g.addFlag key)
  option {g next : Given} {key : OptionKey} {values : List String} (hg : P g)
    (h : g.addOption key values = .ok next) : P next
  files {g next : Given} {files : List String} (hg : P g) (h : g.addFiles files = .ok next) : P next

end Given

namespace Reader

variable {P : Given → Prop} (hP : Given.IsInvariant P) {r next : Reader} (hr : P r.given)

include hP hr

theorem invariant_of_settled {given : Given} (h : r.settled = .ok given) : P given := by
  unfold settled at h
  split at h
  · exact Except.ok.inj h ▸ hr
  · exact hP.option hr h
  · exact hP.files hr h

theorem invariant_of_file {path : String} (h : r.file path = .ok next) : P next.given := by
  unfold file at h
  split at h
  · exact Except.ok.inj h ▸ hr
  · obtain ⟨given, hgiven, h⟩ := bind_eq_ok_iff.1 h
    exact Except.ok.inj h ▸ invariant_of_settled hP hr hgiven

theorem invariant_of_word {text : String} (h : r.word text = .ok next) : P next.given := by
  unfold word at h
  split at h
  · exact Except.ok.inj h ▸ hr
  · exact invariant_of_file hP hr h

/-- A token keeps an invariant. -/
theorem invariant_of_token {text : String} (h : r.token text = .ok next) : P next.given := by
  rw [token_eq_act] at h
  cases htoken : Token.ofText text with
  | flag key isLong =>
    rw [htoken] at h
    obtain ⟨given, hgiven, rfl⟩ := exists_of_flag r h
    exact hP.flag (invariant_of_settled hP hr hgiven) key
  | attached key value =>
    rw [htoken] at h
    obtain ⟨given, more, hgiven, hmore, rfl⟩ := exists_of_attached r h
    exact hP.option (invariant_of_settled hP hr hgiven) hmore
  | opened key =>
    rw [htoken] at h
    obtain ⟨given, hgiven, rfl⟩ := exists_of_opened r h
    exact invariant_of_settled hP hr hgiven
  | word =>
    rw [htoken] at h
    exact invariant_of_word hP hr h
  | fault failure =>
    rw [htoken] at h
    cases h

/-- An invariant of what is given holds of all that tokens give. -/
theorem invariant_of_tokens {texts : List String} (h : r.tokens texts = .ok next) :
    P next.given := by
  induction texts generalizing r with
  | nil => exact Except.ok.inj h ▸ hr
  | cons text texts ih =>
    unfold tokens at h
    split at h
    · refine foldlM_invariant (P := fun reader ↦ P reader.given) ?_ hr h
      exact fun _ _ _ hbefore hafter ↦ invariant_of_file hP hbefore hafter
    · rw [bind_eq_ok_iff] at h
      obtain ⟨between, hbetween, h⟩ := h
      exact ih (invariant_of_token hP hr hbetween) h

end Reader

namespace Given

variable {given : Given} {texts : List String}

/-- What holds of nothing and is kept by all that is taken over holds of what tokens give. -/
theorem IsInvariant.of_ofTokens {P : Given → Prop} (hP : IsInvariant P) (hnothing : P nothing)
    (h : ofTokens texts = .ok given) : P given := by
  unfold ofTokens at h
  rw [bind_eq_ok_iff] at h
  obtain ⟨last, hlast, hgiven⟩ := h
  exact Reader.invariant_of_settled hP (Reader.invariant_of_tokens hP hnothing hlast) hgiven

/-- No file with an empty name is taken over. -/
theorem isInvariant_files_nonempty : IsInvariant fun g ↦ "" ∉ g.files where
  flag {g} hg key := by rwa [g.files_addFlag key]
  option hg h := by rwa [files_of_addOption h]
  files {g next files} hg h := by
    obtain ⟨hfiles, rfl⟩ := of_addFiles_eq_ok h
    simp [onlyFiles, hg, hfiles]

/-- What is checked in the end: at most one bus is selected, and nothing is missing. -/
theorem of_check_eq_ok {args : Arguments} (h : given.check = .ok args) :
    (∃ selected : Option BusScope, given.scopes = selected.toList) ∧ given.missing = [] := by
  unfold check at h
  split at h
  · cases h
  · next hscopes =>
    constructor
    · match hgiven : given.scopes with
      | [] => exact ⟨none, rfl⟩
      | [scope] => exact ⟨some scope, rfl⟩
      | first :: second :: rest => exact (hscopes first second rest hgiven).elim
    · split at h
      · next hmissing => exact List.isEmpty_iff.1 hmissing
      · cases h

/-- Unless a text is to be generated, a bus and a file are there when nothing is missing. -/
theorem ne_nil_of_missing_eq_nil (h : given.missing = []) (hcompletions : given.completions = none)
    (hmanPage : given.manPage = false) : given.scopes ≠ [] ∧ given.files ≠ [] := by
  simpa [missing, isStandalone, hcompletions, hmanPage] using h

end Given

theorem Given.filter_complete_ne_nil (given : Given) : given.complete.filter ≠ [] := by
  unfold complete
  by_cases hfilter : given.filter = []
  · simp [hfilter]
  · simp [hfilter]

theorem Given.complete_of_scopes {given : Given} {selected : Option BusScope}
    (h : given.scopes = selected.toList) :
    given.complete.system = (selected == some .system) ∧
      given.complete.session = (selected == some .session) := by
  have hcontains (scope : BusScope) : given.scopes.contains scope = (selected == some scope) := by
    rw [h]
    rcases selected with _ | (_ | _) <;> cases scope <;> rfl
  exact ⟨hcontains .system, hcontains .session⟩

theorem Given.busScope_complete {given : Given} {scope : BusScope} (h : given.scopes = [scope]) :
    given.complete.busScope = scope := by
  have hselected : given.scopes = (some scope).toList := h
  rw [Arguments.busScope, (complete_of_scopes hselected).1]
  cases scope <;> rfl

/-- An accepted command line selects one bus at most, names no empty file and wants some label. If
it asks for no generated text, it names a file, and it selects the one bus that the run is for. -/
theorem requirements_of_parse {commandLine : List String} {args : Arguments}
    (h : parse commandLine = .ok args) :
    let typed := commandLine.drop 1
    ¬ (args.system = true ∧ args.session = true) ∧ "" ∉ args.files ∧
    (args.filter ≠ [] ∧ ∃ label, args.resultFilter.accepts label = true) ∧
    (¬ Gives typed .completions → ¬ Gives typed .manPage →
      args.system = !args.session ∧
      (∀ scope, Gives typed (.scope scope) ↔ scope = args.busScope) ∧
      args.files ≠ []) := by
  intro typed
  obtain ⟨given, hgiven, hcheck⟩ := exists_given_of_parse h
  obtain ⟨⟨selected, hselected⟩, hmissing⟩ := Given.of_check_eq_ok hcheck
  obtain rfl := Given.eq_complete_of_check hcheck
  have hgives (key : OptionKey) : given.Has key ↔ Gives typed key :=
    Given.has_iff_gives hgiven key
  have hnonempty : "" ∉ given.files :=
    Given.isInvariant_files_nonempty.of_ofTokens List.not_mem_nil hgiven
  obtain ⟨hsystem, hsession⟩ := Given.complete_of_scopes hselected
  refine ⟨?_, hnonempty, ⟨given.filter_complete_ne_nil, ?_⟩, fun hcompletions hmanPage ↦ ?_⟩
  · rw [hsystem, hsession]
    rcases selected with _ | (_ | _) <;> decide
  · obtain ⟨c, others, hfilter⟩ := List.exists_cons_of_ne_nil given.filter_complete_ne_nil
    refine ⟨c.label, ResultFilter.accepts_ofList_iff.2 ⟨c, ?_, rfl⟩⟩
    rw [hfilter]
    exact List.mem_cons_self
  · have hnoShell : given.completions = none := not_not.1 (mt (hgives .completions).1 hcompletions)
    have hnoPage : given.manPage = false := Bool.eq_false_iff.2 (mt (hgives .manPage).1 hmanPage)
    obtain ⟨hscopes, hfiles⟩ := Given.ne_nil_of_missing_eq_nil hmissing hnoShell hnoPage
    obtain ⟨scope, rfl⟩ : ∃ scope, selected = some scope :=
      Option.ne_none_iff_exists'.1 fun hnone ↦ hscopes (by rw [hselected, hnone]; rfl)
    refine ⟨?_, fun other ↦ ?_, hfiles⟩
    · rw [hsystem, hsession]
      cases scope <;> rfl
    · rw [Given.busScope_complete hselected, ← hgives, Given.Has, hselected, Option.toList_some,
        List.mem_singleton]

/-- A bus typed twice, and the other one only where files are expected. -/
theorem requirements_of_parse_repeated :
    ∃ args,
      parse ["dbus-reprogen", "--session", "a", "-fSuccess", "--session", "--", "--system", "-"] =
        .ok args ∧
      args.busScope = .session ∧ args.files = ["a", "--system", "-"] ∧
      (∃ label, args.resultFilter.accepts label = true) ∧
      ¬ Gives ["--session", "a", "-fSuccess", "--session", "--", "--system", "-"]
        (.scope .system) := by
  have hparse : parse ["dbus-reprogen", "--session", "a", "-fSuccess", "--session", "--",
      "--system", "-"] = .ok ⟨false, true, none, .dbusSend, [.success], ["a", "--system", "-"],
        none, false, none, false⟩ := by
    decide +kernel
  obtain ⟨-, -, ⟨-, hlabel⟩, hrequired⟩ := requirements_of_parse hparse
  obtain ⟨-, hscope, -⟩ := hrequired (by decide +kernel) (by decide +kernel)
  refine ⟨_, hparse, rfl, rfl, hlabel, fun hsystem ↦ ?_⟩
  exact absurd ((hscope .system).1 hsystem) (by decide)

end BusReplay.CommandLine
