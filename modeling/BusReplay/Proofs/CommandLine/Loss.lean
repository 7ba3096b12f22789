import BusReplay.Proofs.CommandLine.Splitting

/-!
# Which configured entries are lost

An entry is accounted for when it is a token, is a value in a token, opens an option that gets a
value, is reported as set aside, or selects a bus in place of which the command line names one. An
option that takes values and has none behind it is none of these: it is lost, and the entries are
sorted as if it were not there.
-/

namespace BusReplay.CommandLine

/-- No flag that selects a bus opens an option. -/
theorem not_isOpenedBy_of_isScopeFlag {key : OptionKey} {entry : String}
    (hscope : Defaults.isScopeFlag entry) : ¬ key.IsOpenedBy entry := by
  obtain ⟨scope, rfl⟩ := Defaults.isScopeFlag_iff.1 hscope
  have hnone : OpenOption.ofEntry? scope.flag = none := by cases scope <;> decide
  exact OpenOption.ofEntry?_eq_none_iff.1 hnone key

theorem isScopeFlag_attached (key : OptionKey) (value : String) :
    Defaults.isScopeFlag (key.flag ++ "=" ++ value) = false := by
  rw [Bool.eq_false_iff]
  intro hscope
  obtain ⟨scope, hflag⟩ := Defaults.isScopeFlag_iff.1 hscope
  have hequals : '=' ∈ scope.flag.toList := by simp [← hflag]
  cases scope <;> exact absurd hequals (by decide)

/-- Whether the entry between `front` and `back` has an effect that a user can see. -/
inductive IsAccounted (commandLine front : List String) (entry : String) (back : List String) : Prop
  /-- The entry is a token in front of the command line. -/
  | token (hmem : entry ∈ (Defaults.ofEntries (front ++ entry :: back)).flagsFor commandLine)
  /-- The entry is the value in a token. -/
  | value {key : OptionKey} {start between : List String} {opener : String}
    (hfront : front = start ++ opener :: between) (hvalue : IsAttached key opener between entry)
    (hmem : key.flag ++ "=" ++ entry ∈
      (Defaults.ofEntries (front ++ entry :: back)).flagsFor commandLine)
  /-- The entry is an option, and one of its values is in a token. -/
  | opener {key : OptionKey} {between rest : List String} {value : String}
    (hback : back = between ++ value :: rest) (hvalue : IsAttached key entry between value)
    (hmem : key.flag ++ "=" ++ value ∈
      (Defaults.ofEntries (front ++ entry :: back)).flagsFor commandLine)
  /-- The entry is reported as set aside. -/
  | reported (hmem : entry ∈ (Defaults.ofEntries (front ++ entry :: back)).positional)
  /-- The entry selects a bus, and the command line names one. -/
  | replaced (hnames : Defaults.namesScope commandLine) (hscope : Defaults.isScopeFlag entry)

/-- Whether an entry opens an option that has no value behind it. -/
def IsBare (entry : String) (back : List String) : Prop :=
  (∃ key : OptionKey, key.IsOpenedBy entry) ∧ ∀ next ∈ back.head?, isDashed next

namespace Defaults

variable {opened : Option OpenOption} {entries front back : List String} {entry token : String}
  {commandLine : List String}

theorem undashed_of_mem_positional (h : entry ∈ (sort opened entries).positional) :
    isDashed entry = false := by
  fun_induction sort opened entries with
  | case1 => cases h
  | case2 opened first entries hdashed next hopens ih => exact ih h
  | case3 opened first entries hdashed hopens rest ih => exact ih h
  | case4 opened first entries hdashed attached next htake rest ih => exact ih h
  | case5 opened first entries hdashed htake rest ih =>
    rcases List.mem_cons.1 h with rfl | h
    · simpa using hdashed
    · exact ih h

theorem mem_flagsFor_of_mem_flags {defaults : Defaults} (hmem : token ∈ defaults.flags)
    (hscope : isScopeFlag token = false) : token ∈ defaults.flagsFor commandLine := by
  unfold flagsFor
  split
  · exact List.mem_filter.2 ⟨hmem, by simp [hscope]⟩
  · exact hmem

/-- The entries are sorted as if an option without a value were not there. -/
theorem ofEntries_of_isBare (h : IsBare entry back) :
    ofEntries (front ++ entry :: back) = ofEntries (front ++ back) := by
  obtain ⟨⟨key, hkey⟩, hback⟩ := h
  rw [ofEntries, sort_append_cons front hkey.dashed, sort_cons_of_opened hkey]
  cases back with
  | nil => rw [append_sort_nil, List.append_nil, ofEntries]
  | cons next back =>
    have hnext : isDashed next := hback next rfl
    rw [ofEntries, sort_append_cons front hnext, ← List.nil_append (next :: back),
      sort_append_cons [] hnext]
    rfl

/-- An entry without a dash is a value of an option before it, or is set aside. -/
theorem attached_or_mem_positional (front back : List String) (hentry : isDashed entry = false) :
    (∃ key start opener between, front = start ++ opener :: between ∧
      IsAttached key opener between entry) ∨
        entry ∈ (ofEntries (front ++ entry :: back)).positional := by
  obtain ⟨lead, groups, hflatten, hlead, hgroups⟩ := exists_isGrouping front
  -- What the entry is depends on the last entry with a dash before it.
  rcases List.eq_nil_or_concat groups with rfl | ⟨groups, ⟨opener, between⟩, rfl⟩
  · right
    have hsort := sort_none_append (undashed_append_singleton hlead hentry) back
    rw [List.append_assoc, List.singleton_append] at hsort
    rw [hflatten, List.flatMap_nil, List.append_nil, ofEntries, hsort]
    simp [append_def]
  · obtain ⟨hopener, hbetween⟩ := hgroups ⟨opener, between⟩ (by simp)
    have hundashed := undashed_append_singleton hbetween hentry
    obtain ⟨start, rfl⟩ : ∃ start, front = start ++ opener :: between :=
      ⟨lead ++ groups.flatMap Group.entries, by simp [hflatten, Group.entries]⟩
    have hsplit : ofEntries (start ++ opener :: between ++ entry :: back) =
        sort none start ++ sort none (opener :: ((between ++ [entry]) ++ back)) := by
      rw [ofEntries, ← sort_append_cons start hopener]
      simp
    rw [hsplit]
    by_cases hkept : ∀ key : OptionKey, ¬ key.IsOpenedBy opener
    · right
      rw [sort_cons_of_kept hopener hkept, sort_none_append hundashed]
      simp [append_def]
    · obtain ⟨key, hkey⟩ : ∃ key : OptionKey, key.IsOpenedBy opener := by simpa using hkept
      by_cases hroom : ∀ limit, key.arity.limit = some limit → between.length < limit
      · exact .inl ⟨key, start, opener, between, rfl, hkey, hbetween, hentry, hroom⟩
      · right
        obtain ⟨limit, hlimit, hlength⟩ :
            ∃ limit, key.arity.limit = some limit ∧ limit ≤ between.length := by
          simpa using hroom
        have hleft : entry ∈ key.opening.left (between ++ [entry]) := by
          simp [OpenOption.left, OptionKey.opening, hlimit, List.drop_append_of_le_length hlength]
        rw [sort_cons_of_opened hkey, sort_some_append key.opening hundashed]
        exact List.mem_append_right _ (List.mem_append_left _ hleft)

end Defaults

namespace IsAccounted

open Defaults

variable {commandLine front back : List String} {entry : String}

theorem of_undashed (hentry : isDashed entry = false) :
    IsAccounted commandLine front entry back := by
  rcases attached_or_mem_positional front back hentry with
    ⟨key, start, opener, between, rfl, hvalue⟩ | hmem
  · have hattaches : Attaches (start ++ opener :: between ++ entry :: back) key entry :=
      ⟨start, opener, between, back, by simp, hvalue⟩
    exact .value rfl hvalue
      (mem_flagsFor_of_mem_flags (mem_flags_of_attaches hattaches) (isScopeFlag_attached key entry))
  · exact .reported hmem

theorem of_kept (hdashed : isDashed entry) (hkept : ∀ key : OptionKey, ¬ key.IsOpenedBy entry) :
    IsAccounted commandLine front entry back := by
  have hmem : entry ∈ (ofEntries (front ++ entry :: back)).flags :=
    mem_flags_of_mem_entries (by simp) hdashed hkept
  by_cases hscope : isScopeFlag entry
  · by_cases hnames : namesScope commandLine
    · exact .replaced hnames hscope
    · apply token
      rwa [flagsFor, if_neg hnames]
  · exact .token (mem_flagsFor_of_mem_flags hmem (by simpa using hscope))

theorem of_opened {key : OptionKey} {value : String} {rest : List String}
    (hkey : key.IsOpenedBy entry) (hvalue : isDashed value = false) :
    IsAccounted commandLine front entry (value :: rest) := by
  have hattached := hkey.isAttached hvalue
  have hattaches : Attaches (front ++ entry :: value :: rest) key value :=
    ⟨front, entry, [], rest, rfl, hattached⟩
  exact .opener rfl hattached
    (mem_flagsFor_of_mem_flags (mem_flags_of_attaches hattaches) (isScopeFlag_attached key value))

/-- What has an effect is no option without a value. -/
theorem not_isBare (h : IsAccounted commandLine front entry back) : ¬ IsBare entry back := by
  rintro ⟨⟨key, hkey⟩, hback⟩
  have hdashed := hkey.dashed
  cases h with
  | token hmem =>
    have hkept := isKept_of_mem_flagsFor _ commandLine hmem
    exact OpenOption.ofEntry?_eq_none_iff.1 hkept.opens_none key hkey
  | value hfront hvalue hmem => exact absurd hdashed (by simp [hvalue.undashed])
  | @opener key' between rest value hbehind hvalue hmem =>
    have hnext : ∃ next ∈ back.head?, isDashed next = false := by
      cases between with
      | nil => exact ⟨value, by simp [hbehind], hvalue.undashed⟩
      | cons next between =>
        exact ⟨next, by simp [hbehind], hvalue.between_undashed next (by simp)⟩
    obtain ⟨next, hnext, hundashed⟩ := hnext
    exact absurd (hback next hnext) (by simp [hundashed])
  | reported hmem => exact absurd hdashed (by simp [undashed_of_mem_positional hmem])
  | replaced hnames hscope => exact not_isOpenedBy_of_isScopeFlag hscope hkey

/-- All entries but options without a value have an effect. -/
theorem of_not_isBare (h : ¬ IsBare entry back) : IsAccounted commandLine front entry back := by
  cases hdashed : isDashed entry with
  | false => exact of_undashed hdashed
  | true =>
    by_cases hkept : ∀ key : OptionKey, ¬ key.IsOpenedBy entry
    · exact of_kept hdashed hkept
    · obtain ⟨key, hkey⟩ : ∃ key : OptionKey, key.IsOpenedBy entry := by simpa using hkept
      cases back with
      | nil => exact absurd ⟨⟨key, hkey⟩, by simp⟩ h
      | cons next rest =>
        have hnext : isDashed next = false := by
          rw [Bool.eq_false_iff]
          intro hnext
          exact h ⟨⟨key, hkey⟩, by simpa using hnext⟩
        exact of_opened hkey hnext

end IsAccounted

/-- The entries that are lost are the options without a value, and each of them is lost without a
trace. -/
theorem isAccounted_iff (commandLine front : List String) (entry : String) (back : List String) :
    (IsAccounted commandLine front entry back ↔ ¬ IsBare entry back) ∧
      (¬ IsAccounted commandLine front entry back →
        Defaults.ofEntries (front ++ entry :: back) = Defaults.ofEntries (front ++ back)) := by
  have hiff : IsAccounted commandLine front entry back ↔ ¬ IsBare entry back :=
    ⟨IsAccounted.not_isBare, IsAccounted.of_not_isBare⟩
  refine ⟨hiff, fun hlost ↦ ?_⟩
  rw [hiff, not_not] at hlost
  exact Defaults.ofEntries_of_isBare hlost

/-- The option of a name with another option behind it. It might as well not be configured. -/
theorem isAccounted_iff_name :
    IsAccounted [] [] "-t" ["gdbus", "-n", "--system"] ∧
      ¬ IsAccounted [] ["-t", "gdbus"] "-n" ["--system"] ∧
      Defaults.ofEntries ["-t", "gdbus", "-n", "--system"] =
        Defaults.ofEntries ["-t", "gdbus", "--system"] := by
  have htarget := isAccounted_iff [] [] "-t" ["gdbus", "-n", "--system"]
  have hname := isAccounted_iff [] ["-t", "gdbus"] "-n" ["--system"]
  have hvalue : ¬ IsBare "-t" ["gdbus", "-n", "--system"] := fun h ↦
    absurd (h.2 "gdbus" rfl) (by decide)
  have hbare : IsBare "-n" ["--system"] :=
    ⟨⟨.name, .inr ⟨'n', rfl, by decide⟩, by decide⟩, by simp; decide⟩
  have hlost := not_imp_not.2 hname.1.1 (not_not.2 hbare)
  exact ⟨htarget.1.2 hvalue, hlost, hname.2 hlost⟩

/-- An option without a value can be the only configured entry. -/
theorem not_forall_isAccounted :
    ¬ ∀ (commandLine front : List String) (entry : String) (back : List String),
      IsAccounted commandLine front entry back := by
  intro h
  have hbare : IsBare "--target" [] := ⟨⟨.target, .inl rfl, by decide⟩, by simp⟩
  exact (h ["dbus-reprogen", "--session", "org.x.L"] [] "--target" []).not_isBare hbare

end BusReplay.CommandLine
