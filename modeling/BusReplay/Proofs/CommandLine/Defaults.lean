import BusReplay.Proofs.CommandLine.Token

/-!
# Tokens from configured options

Every token that configured entries are sorted into starts with a dash and opens no option, since
values are attached to the option before them. So what stands behind such tokens is read as it is
by itself, unless one of them is two dashes. A text that starts with a dash and opens no option is
kept as often as it is configured. The lone dash and the two dashes are such texts.
-/

namespace BusReplay.CommandLine

theorem OptionKey.equals_notMem_long (key : OptionKey) : '=' ∉ key.long.toList := by
  cases key with
  | scope scope => cases scope <;> decide
  | _ => decide

theorem OptionKey.ofLong?_eq_none {long : String} (hequals : '=' ∈ long.toList) :
    OptionKey.ofLong? long = none := by
  rw [ofLong?, List.find?_eq_none]
  intro key _ hkey
  exact key.equals_notMem_long ((beq_iff_eq.1 hkey).symm ▸ hequals)

/-- Whether an entry is kept as a token by itself: it starts with a dash and opens no option. -/
structure IsKept (text : String) : Prop where
  dashed : isDashed text
  opens_none : OpenOption.ofEntry? text = none

namespace IsKept

theorem dash : IsKept "-" := ⟨by decide, by decide⟩

theorem dashes : IsKept "--" := ⟨by decide, by decide⟩

theorem attached (key : OptionKey) (value : String) : IsKept (key.flag ++ "=" ++ value) := by
  have htext : (key.flag ++ "=" ++ value).toList =
      '-' :: '-' :: (key.long.toList ++ '=' :: value.toList) := by
    simp [OptionKey.flag]
  have hlong : OptionKey.ofLong? (.ofList (key.long.toList ++ '=' :: value.toList)) = none :=
    OptionKey.ofLong?_eq_none (by simp)
  constructor
  · simp [isDashed, htext]
  · simp only [OpenOption.ofEntry?, OptionKey.ofSpelling?, htext, hlong]

end IsKept

/-- A taken value is attached to its option. -/
theorem OpenOption.eq_of_take? {o next : OpenOption} {value token : String}
    (h : o.take? value = some (token, next)) : token = o.key.flag ++ "=" ++ value := by
  unfold take? at h
  split at h
  · exact (Prod.mk.inj (Option.some.inj h)).1.symm
  · cases h
  · exact (Prod.mk.inj (Option.some.inj h)).1.symm

namespace Token

/-- A token that opens an option is an entry that opens it. -/
theorem ofEntry?_of_opened {text : String} {key : OptionKey} (h : ofText text = opened key) :
    OpenOption.ofEntry? text = some ⟨key, key.arity.limit⟩ := by
  unfold OpenOption.ofEntry? OptionKey.ofSpelling?
  unfold ofText at h
  split at h
  · next body htext =>
    split at h
    · exact absurd (of_ofLong_eq_opened h).2.2 (by simp)
    · obtain ⟨hkey, hflag, -⟩ := of_ofLong_eq_opened h
      simp only [htext, hkey, if_neg hflag]
  · next c rest hlong htext =>
    obtain ⟨hkey, hflag, rfl⟩ := of_ofLetter_eq_opened h
    simp only [htext, hkey, if_neg hflag]
  · cases h

/-- Kept entries other than two dashes change nothing in the tokens behind them. -/
theorem IsClosed.of_isKept {text : String} (hkept : IsKept text) (hdashes : text ≠ "--") :
    IsClosed text where
  ne_dashes := hdashes
  ne_empty := by
    rintro rfl
    exact absurd hkept.dashed (by decide)
  not_opened key h := by
    have hopens := ofEntry?_of_opened h
    rw [hkept.opens_none] at hopens
    cases hopens

theorem forall_isClosed {texts : List String} (hkept : ∀ text ∈ texts, IsKept text)
    (hdashes : "--" ∉ texts) : ∀ text ∈ texts, IsClosed text := fun text htext ↦
  .of_isKept (hkept text htext) (ne_of_mem_of_not_mem htext hdashes)

/-- The only word that starts with a dash is the lone dash. -/
theorem eq_dash_of_word {text : String} (hdashed : isDashed text) (h : ofText text = word) :
    text = "-" := by
  unfold ofText at h
  split at h
  · split at h
    · exact absurd h (ofLong_ne_word _ _)
    · exact absurd h (ofLong_ne_word _ _)
  · exact absurd h (ofLetter_ne_word _ _)
  · next hlong hletters =>
    unfold isDashed at hdashed
    cases htext : text.toList with
    | nil => simp [htext] at hdashed
    | cons first rest =>
      obtain rfl : first = '-' := by simpa [htext] using hdashed
      cases rest with
      | nil => exact String.toList_injective htext
      | cons c rest => exact (hletters c rest htext).elim

end Token

namespace Defaults

variable (opened : Option OpenOption) (entries : List String)

/-- Every token that entries are sorted into would be kept as an entry. -/
theorem isKept_of_mem_flags {token : String} (h : token ∈ (sort opened entries).flags) :
    IsKept token := by
  fun_induction sort opened entries with
  | case1 => cases h
  | case2 opened entry entries hdashed next hopens ih => exact ih h
  | case3 opened entry entries hdashed hopens rest ih =>
    rcases List.mem_cons.1 h with rfl | h
    · exact ⟨hdashed, hopens⟩
    · exact ih h
  | case4 opened entry entries hdashed attached next htake rest ih =>
    rcases List.mem_cons.1 h with rfl | h
    · obtain ⟨o, -, ho⟩ := Option.bind_eq_some_iff.1 htake
      exact OpenOption.eq_of_take? ho ▸ IsKept.attached o.key entry
    · exact ih h
  | case5 opened entry entries hdashed htake rest ih => exact ih h

/-- An entry that is kept, and is no option with its value, is kept as often as it stands there. -/
theorem filter_flags {text : String} (hkept : IsKept text) (hequals : '=' ∉ text.toList) :
    (sort opened entries).flags.filter (· = text) = entries.filter (· = text) := by
  fun_induction sort opened entries with
  | case1 => rfl
  | case2 opened entry entries hdashed next hopens ih =>
    have hne : entry ≠ text := by
      rintro rfl
      rw [hkept.opens_none] at hopens
      cases hopens
    simpa [hne] using ih
  | case3 opened entry entries hdashed hopens rest ih =>
    rw [List.filter_cons, List.filter_cons, ih]
  | case4 opened entry entries hdashed attached next htake rest ih =>
    have hne : entry ≠ text := by
      rintro rfl
      exact hdashed hkept.dashed
    have hne' : attached ≠ text := by
      rintro rfl
      obtain ⟨o, -, ho⟩ := Option.bind_eq_some_iff.1 htake
      rw [OpenOption.eq_of_take? ho] at hequals
      simp at hequals
    simpa [hne, hne'] using ih
  | case5 opened entry entries hdashed htake rest ih =>
    have hne : entry ≠ text := by
      rintro rfl
      exact hdashed hkept.dashed
    simpa [hne] using ih

theorem isScopeFlag_iff {token : String} :
    isScopeFlag token ↔ ∃ scope : BusScope, token = scope.flag := by
  unfold isScopeFlag
  rw [Bool.or_eq_true, beq_iff_eq, beq_iff_eq]
  constructor
  · rintro (h | h)
    · exact ⟨.system, h⟩
    · exact ⟨.session, h⟩
  · rintro ⟨scope, h⟩
    cases scope with
    | system => exact .inl h
    | session => exact .inr h

variable (defaults : Defaults) (commandLine : List String)

theorem mem_flags_of_mem_flagsFor {token : String} (h : token ∈ defaults.flagsFor commandLine) :
    token ∈ defaults.flags := by
  unfold flagsFor at h
  split at h
  · exact List.mem_of_mem_filter h
  · exact h

/-- The selection of a bus on the command line takes away nothing else. -/
theorem filter_flagsFor {text : String} (hscope : isScopeFlag text = false) :
    (defaults.flagsFor commandLine).filter (· = text) = defaults.flags.filter (· = text) := by
  unfold flagsFor
  split
  · rw [List.filter_filter]
    apply List.filter_congr
    intro flag _
    by_cases hflag : flag = text <;> simp [hflag, hscope]
  · rfl

theorem isKept_of_mem_flagsFor {token : String}
    (h : token ∈ (ofEntries entries).flagsFor commandLine) : IsKept token :=
  isKept_of_mem_flags none entries (mem_flags_of_mem_flagsFor _ commandLine h)

theorem filter_flagsFor_ofEntries {text : String} (hkept : IsKept text)
    (hequals : '=' ∉ text.toList) (hscope : isScopeFlag text = false) :
    ((ofEntries entries).flagsFor commandLine).filter (· = text) = entries.filter (· = text) :=
  (filter_flagsFor _ commandLine hscope).trans (filter_flags none entries hkept hequals)

/-- Two dashes are put in front of a command line exactly when they are configured. -/
theorem dashes_mem_flagsFor_iff :
    "--" ∈ (ofEntries entries).flagsFor commandLine ↔ "--" ∈ entries := by
  have hfilter := filter_flagsFor_ofEntries entries commandLine .dashes (by decide) (by decide)
  have hmem := congrArg ("--" ∈ ·) hfilter
  simpa using hmem

/-- Behind the name of the program the configured tokens come first. -/
theorem drop_merge {commandLine : List String} (hne : commandLine ≠ []) :
    (defaults.merge commandLine).drop 1 =
      defaults.flagsFor commandLine ++ commandLine.drop 1 := by
  cases commandLine with
  | nil => exact absurd rfl hne
  | cons program own => rfl

end Defaults

end BusReplay.CommandLine
