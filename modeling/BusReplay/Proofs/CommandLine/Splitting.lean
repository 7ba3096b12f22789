import BusReplay.Proofs.CommandLine.Defaults

/-!
# How configured options are split

Configured entries fall into groups: an entry that starts with a dash, and the entries without a
dash that follow it. Each group is sorted on its own. An option that takes values becomes one token
for each value that it has room for, and any other entry with a dash is a token by itself; the
entries that are left over are set aside. A token never opens an option, so splitting the tokens
again changes nothing.
-/

namespace BusReplay.CommandLine

/-! ## Spellings of options -/

namespace OptionKey

/-- Whether an entry spells an option: its long name or its letter, with nothing attached. -/
def IsSpelledBy (key : OptionKey) (entry : String) : Prop :=
  entry = key.flag ∨ ∃ letter, key.letter? = some letter ∧ entry.toList = ['-', letter]

/-- Whether the entries after an entry are values of an option. -/
structure IsOpenedBy (key : OptionKey) (entry : String) : Prop where
  spelled : key.IsSpelledBy entry
  takesValues : key.arity ≠ .flag

variable {key : OptionKey} {entry : String}

theorem toList_flag (key : OptionKey) : key.flag.toList = '-' :: '-' :: key.long.toList := by
  simp [flag]

theorem letter?_ne_dash (key : OptionKey) : key.letter? ≠ some '-' := by
  cases key <;> simp [letter?]

theorem ofLetter?_eq_some_iff {letter : Char} :
    ofLetter? letter = some key ↔ key.letter? = some letter := by
  constructor
  · intro h
    unfold ofLetter? at h
    have hletter := List.find?_some h
    exact beq_iff_eq.1 hletter
  · intro h
    cases key with
    | scope | logFormat | debug | completions | manPage => cases h
    | name | target | filter | help | version =>
      obtain rfl := Option.some.inj h
      decide

theorem ofSpelling?_eq_some_iff : ofSpelling? entry = some key ↔ key.IsSpelledBy entry := by
  unfold ofSpelling? IsSpelledBy
  split
  · next long htext =>
    constructor
    · intro h
      left
      apply String.toList_injective
      rw [htext, toList_flag, long_of_ofLong? h, String.toList_ofList]
    · rintro (rfl | ⟨letter, hletter, hentry⟩)
      · have hlong : key.long.toList = long := by simpa [toList_flag] using htext
        rw [← hlong, String.ofList_toList, ofLong?_long]
      · rw [htext, List.cons.injEq, List.cons.injEq] at hentry
        rw [← hentry.2.1] at hletter
        exact absurd hletter (letter?_ne_dash key)
  · next letter hdash htext =>
    have hflag : entry ≠ key.flag := by
      rintro rfl
      rw [toList_flag, List.cons.injEq, List.cons.injEq] at htext
      exact hdash htext.2.1.symm
    rw [ofLetter?_eq_some_iff, htext]
    simp [hflag]
  · next hlong hletter =>
    constructor
    · nofun
    · rintro (rfl | ⟨letter, -, hentry⟩)
      · exact (hlong _ (toList_flag key)).elim
      · exact (hletter letter hentry).elim

theorem IsOpenedBy.dashed (h : key.IsOpenedBy entry) : isDashed entry := by
  unfold isDashed
  rcases h.spelled with rfl | ⟨letter, -, hentry⟩
  · simp [toList_flag]
  · simp [hentry]

/-- The option when an entry has just opened it. -/
def opening (key : OptionKey) : OpenOption := ⟨key, key.arity.limit⟩

end OptionKey

namespace OpenOption

theorem ofEntry?_eq_some_iff {entry : String} {o : OpenOption} :
    ofEntry? entry = some o ↔ ∃ key : OptionKey, key.IsOpenedBy entry ∧ o = key.opening := by
  unfold ofEntry?
  constructor
  · intro h
    split at h
    · next key hkey =>
      split at h
      · cases h
      · next hflag =>
        have hspelled := OptionKey.ofSpelling?_eq_some_iff.1 hkey
        exact ⟨key, ⟨hspelled, hflag⟩, (Option.some.inj h).symm⟩
    · cases h
  · rintro ⟨key, ⟨hspelled, hflag⟩, rfl⟩
    simp only [OptionKey.ofSpelling?_eq_some_iff.2 hspelled, if_neg hflag, OptionKey.opening]

theorem ofEntry?_eq_none_iff {entry : String} :
    ofEntry? entry = none ↔ ∀ key : OptionKey, ¬ key.IsOpenedBy entry := by
  constructor
  · intro h key hkey
    have hopens := ofEntry?_eq_some_iff.2 ⟨key, hkey, rfl⟩
    rw [h] at hopens
    cases hopens
  · intro h
    rw [Option.eq_none_iff_forall_ne_some]
    intro o ho
    obtain ⟨key, hkey, -⟩ := ofEntry?_eq_some_iff.1 ho
    exact h key hkey

variable (o : OpenOption) (values : List String)

/-- The values that an option takes of the entries after it. -/
def taken : List String := o.room.elim values values.take

/-- The entries that an option has no room for. -/
def left : List String := o.room.elim [] values.drop

/-- The option with the room that is left after entries. -/
def after : OpenOption := ⟨o.key, o.room.map (· - values.length)⟩

/-- An option takes the first entries that it has room for. -/
theorem mem_taken_iff {value : String} : value ∈ o.taken values ↔
    ∃ before behind, values = before ++ value :: behind ∧
      ∀ room, o.room = some room → before.length < room := by
  unfold taken
  cases o.room with
  | none =>
    simp [List.mem_iff_append]
  | some room =>
    constructor
    · intro h
      obtain ⟨before, behind, htake⟩ := List.append_of_mem (show value ∈ values.take room from h)
      refine ⟨before, behind ++ values.drop room, ?_, ?_⟩
      · rw [← List.cons_append, ← List.append_assoc, ← htake, List.take_append_drop]
      · rintro _ ⟨⟩
        have hlength := congrArg List.length htake
        simp at hlength
        omega
    · rintro ⟨before, behind, rfl, hroom⟩
      obtain ⟨extra, rfl⟩ := Nat.exists_eq_add_of_lt (hroom room rfl)
      show value ∈ (before ++ value :: behind).take (before.length + extra + 1)
      rw [Nat.add_assoc, List.take_length_add_append, List.take_succ_cons]
      simp

end OpenOption

/-! ## Sorting piece by piece -/

theorem undashed_append_singleton {entries : List String} {entry : String}
    (hentries : ∀ entry ∈ entries, isDashed entry = false) (hentry : isDashed entry = false) :
    ∀ entry' ∈ entries ++ [entry], isDashed entry' = false := by
  simpa [or_imp, forall_and, hentry] using hentries

namespace Defaults

/-- Two sorted lists of entries after one another. -/
instance : Append Defaults :=
  ⟨fun d d' ↦ ⟨d.flags ++ d'.flags, d.positional ++ d'.positional⟩⟩

theorem append_def (d d' : Defaults) :
    d ++ d' = ⟨d.flags ++ d'.flags, d.positional ++ d'.positional⟩ := rfl

variable {opened : Option OpenOption} {entry : String} {values entries : List String}

theorem sort_cons_of_kept (hdashed : isDashed entry)
    (hkept : ∀ key : OptionKey, ¬ key.IsOpenedBy entry) :
    sort opened (entry :: entries) = ⟨[entry], []⟩ ++ sort none entries := by
  rw [sort, if_pos hdashed, OpenOption.ofEntry?_eq_none_iff.2 hkept]
  rfl

theorem sort_cons_of_opened {key : OptionKey} (hkey : key.IsOpenedBy entry) :
    sort opened (entry :: entries) = sort (some key.opening) entries := by
  rw [sort, if_pos hkey.dashed, OpenOption.ofEntry?_eq_some_iff.2 ⟨key, hkey, rfl⟩]

theorem sort_none_append (hvalues : ∀ value ∈ values, isDashed value = false)
    (rest : List String) :
    sort none (values ++ rest) = ⟨[], values⟩ ++ sort none rest := by
  induction values with
  | nil => rfl
  | cons value values ih =>
    obtain ⟨hvalue, hvalues⟩ := List.forall_mem_cons.1 hvalues
    rw [List.cons_append, sort, if_neg (by simp [hvalue]), ih hvalues]
    rfl

/-- An open option takes the values that it has room for, and stays open with the room left. -/
theorem sort_some_append (o : OpenOption) (hvalues : ∀ value ∈ values, isDashed value = false)
    (rest : List String) :
    sort (some o) (values ++ rest) =
      ⟨(o.taken values).map (o.key.flag ++ "=" ++ ·), o.left values⟩ ++
        sort (some (o.after values)) rest := by
  induction values generalizing o with
  | nil =>
    obtain ⟨key, room⟩ := o
    cases room <;> simp [OpenOption.taken, OpenOption.left, OpenOption.after, append_def]
  | cons value values ih =>
    obtain ⟨hvalue, hvalues⟩ := List.forall_mem_cons.1 hvalues
    obtain ⟨key, room⟩ := o
    rw [List.cons_append, sort, if_neg (by simp [hvalue])]
    cases room with
    | none =>
      simp only [Option.bind_some, OpenOption.take?, ih ⟨key, none⟩ hvalues]
      rfl
    | some room =>
      cases room with
      | zero =>
        simp only [Option.bind_some, OpenOption.take?, ih ⟨key, some 0⟩ hvalues]
        simp [OpenOption.taken, OpenOption.left, OpenOption.after, append_def]
      | succ room =>
        simp only [Option.bind_some, OpenOption.take?, ih ⟨key, some room⟩ hvalues]
        simp [OpenOption.taken, OpenOption.left, OpenOption.after, append_def]

theorem append_sort_nil (d : Defaults) : d ++ sort opened [] = d := by
  simp [append_def, sort]

theorem sort_none_values (hvalues : ∀ value ∈ values, isDashed value = false) :
    sort none values = ⟨[], values⟩ := by
  have h := sort_none_append hvalues []
  rwa [List.append_nil, append_sort_nil] at h

/-- An open option takes the values that it has room for, and the others are set aside. -/
theorem sort_some_values (o : OpenOption) (hvalues : ∀ value ∈ values, isDashed value = false) :
    sort (some o) values = ⟨(o.taken values).map (o.key.flag ++ "=" ++ ·), o.left values⟩ := by
  have h := sort_some_append o hvalues []
  rwa [List.append_nil, append_sort_nil] at h

/-- An entry that starts with a dash is sorted alike whatever stands before it. -/
theorem sort_append_cons (front : List String) (hdashed : isDashed entry) :
    sort opened (front ++ entry :: entries) =
      sort opened front ++ sort none (entry :: entries) := by
  fun_induction sort opened front with
  | case1 opened =>
    rw [List.nil_append, sort, sort, if_pos hdashed, if_pos hdashed]
    rfl
  | case2 opened first front hfirst next hopens ih =>
    rw [List.cons_append, sort, if_pos hfirst, hopens]
    exact ih
  | case3 opened first front hfirst hopens rest ih =>
    rw [List.cons_append, sort, if_pos hfirst, hopens]
    simp only [ih]
    rfl
  | case4 opened first front hfirst attached next htake rest ih =>
    rw [List.cons_append, sort, if_neg hfirst, htake]
    simp only [ih]
    rfl
  | case5 opened first front hfirst htake rest ih =>
    rw [List.cons_append, sort, if_neg hfirst, htake]
    simp only [ih]
    rfl

/-- Splitting tokens again changes nothing. -/
theorem sort_none_of_kept (hkept : ∀ entry ∈ entries, IsKept entry) :
    sort none entries = ⟨entries, []⟩ := by
  induction entries with
  | nil => rfl
  | cons entry entries ih =>
    obtain ⟨hentry, hentries⟩ := List.forall_mem_cons.1 hkept
    rw [sort, if_pos hentry.dashed, hentry.opens_none, ih hentries]

end Defaults

/-! ## Groups of entries -/

/-- An entry that starts with a dash, and the entries without a dash behind it. -/
structure Group where
  head : String
  values : List String

namespace Group

def entries (group : Group) : List String := group.head :: group.values

structure IsWellFormed (group : Group) : Prop where
  dashed : isDashed group.head
  undashed : ∀ value ∈ group.values, isDashed value = false

inductive Becomes : Group → Defaults → Prop
  /-- The first entry is a token by itself, and all others are set aside. -/
  | kept {head : String} {values : List String} (hkept : ∀ key : OptionKey, ¬ key.IsOpenedBy head) :
    Becomes ⟨head, values⟩ ⟨[head], values⟩
  /-- The first entry is an option, with a token for each value that it takes. -/
  | opened {head : String} {values : List String} {key : OptionKey} (hkey : key.IsOpenedBy head) :
    Becomes ⟨head, values⟩
      ⟨(key.arity.limit.elim values values.take).map (key.flag ++ "=" ++ ·),
        key.arity.limit.elim [] values.drop⟩

theorem IsWellFormed.becomes {group : Group} (h : group.IsWellFormed) :
    group.Becomes (Defaults.sort none group.entries) := by
  obtain ⟨head, values⟩ := group
  unfold entries
  by_cases hkept : ∀ key : OptionKey, ¬ key.IsOpenedBy head
  · rw [Defaults.sort_cons_of_kept h.dashed hkept, Defaults.sort_none_values h.undashed]
    exact .kept hkept
  · obtain ⟨key, hkey⟩ : ∃ key : OptionKey, key.IsOpenedBy head := by simpa using hkept
    rw [Defaults.sort_cons_of_opened hkey, Defaults.sort_some_values key.opening h.undashed]
    exact .opened hkey

end Group

/-- A division of entries into the entries without a dash that stand first, and groups. -/
structure IsGrouping (entries lead : List String) (groups : List Group) : Prop where
  flatten : entries = lead ++ groups.flatMap Group.entries
  undashed : ∀ entry ∈ lead, isDashed entry = false
  wellFormed : ∀ group ∈ groups, group.IsWellFormed

/-- All entries can be grouped. -/
theorem exists_isGrouping (entries : List String) :
    ∃ lead groups, IsGrouping entries lead groups := by
  induction entries with
  | nil => exact ⟨[], [], rfl, by simp, by simp⟩
  | cons entry entries ih =>
    obtain ⟨lead, groups, hflatten, hlead, hgroups⟩ := ih
    cases hdashed : isDashed entry with
    | true =>
      refine ⟨[], ⟨entry, lead⟩ :: groups, ?_, by simp, ?_⟩
      · simp [Group.entries, hflatten]
      · exact List.forall_mem_cons.2 ⟨⟨hdashed, hlead⟩, hgroups⟩
    | false =>
      refine ⟨entry :: lead, groups, by simp [hflatten], ?_, hgroups⟩
      exact List.forall_mem_cons.2 ⟨hdashed, hlead⟩

namespace Defaults

/-- Groups are sorted each on its own. -/
theorem sort_append_groups {opened : Option OpenOption} {groups : List Group}
    (hgroups : ∀ group ∈ groups, group.IsWellFormed) (front : List String) :
    sort opened (front ++ groups.flatMap Group.entries) =
      sort opened front ++
        ⟨groups.flatMap fun group ↦ (sort none group.entries).flags,
          groups.flatMap fun group ↦ (sort none group.entries).positional⟩ := by
  induction groups generalizing front with
  | nil => simp [append_def]
  | cons group groups ih =>
    obtain ⟨hgroup, hgroups⟩ := List.forall_mem_cons.1 hgroups
    calc
      sort opened (front ++ (group :: groups).flatMap Group.entries)
        = sort opened ((front ++ group.entries) ++ groups.flatMap Group.entries) := by simp
      _ = sort opened (front ++ group.entries) ++ _ := ih hgroups _
      _ = _ := by
        rw [Group.entries, sort_append_cons front hgroup.dashed]
        simp [append_def, Group.entries]

/-- Each group is sorted on its own, in order. -/
theorem ofEntries_of_isGrouping {entries lead : List String} {groups : List Group}
    (h : IsGrouping entries lead groups) :
    ofEntries entries =
      ⟨groups.flatMap fun group ↦ (sort none group.entries).flags,
        lead ++ groups.flatMap fun group ↦ (sort none group.entries).positional⟩ := by
  rw [ofEntries, h.flatten, sort_append_groups h.wellFormed, sort_none_values h.undashed]
  rfl

end Defaults

/-- Whether an entry is a value of the option that an entry before it opens, with only values of
the same option between the two. -/
structure IsAttached (key : OptionKey) (opener : String) (between : List String)
    (value : String) : Prop where
  opened : key.IsOpenedBy opener
  between_undashed : ∀ entry ∈ between, isDashed entry = false
  undashed : isDashed value = false
  room : ∀ limit, key.arity.limit = some limit → between.length < limit

theorem OptionKey.IsOpenedBy.isAttached {key : OptionKey} {opener value : String}
    (hkey : key.IsOpenedBy opener) (hvalue : isDashed value = false) :
    IsAttached key opener [] value where
  opened := hkey
  between_undashed := by simp
  undashed := hvalue
  room limit hlimit := by
    cases harity : key.arity with
    | flag => exact absurd harity hkey.takesValues
    | one =>
      rw [harity] at hlimit
      obtain rfl := Option.some.inj hlimit
      decide
    | many =>
      rw [harity] at hlimit
      cases hlimit

/-- Whether an option has a value somewhere in entries. -/
def Attaches (entries : List String) (key : OptionKey) (value : String) : Prop :=
  ∃ front opener between back, entries = front ++ opener :: (between ++ value :: back) ∧
    IsAttached key opener between value

namespace Defaults

variable {entries : List String} {token : String}

/-- An entry with a dash that opens no option is kept as it is. -/
theorem mem_flags_of_mem_entries (hmem : token ∈ entries) (hdashed : isDashed token)
    (hkept : ∀ key : OptionKey, ¬ key.IsOpenedBy token) : token ∈ (ofEntries entries).flags := by
  obtain ⟨front, back, rfl⟩ := List.append_of_mem hmem
  rw [ofEntries, sort_append_cons front hdashed, sort_cons_of_kept hdashed hkept]
  simp [append_def]

/-- A value of an option is kept in one token with it. -/
theorem mem_flags_of_attaches {key : OptionKey} {value : String}
    (h : Attaches entries key value) : key.flag ++ "=" ++ value ∈ (ofEntries entries).flags := by
  obtain ⟨front, opener, between, back, rfl, hkey, hbetween, hvalue, hroom⟩ := h
  have hundashed := undashed_append_singleton hbetween hvalue
  have htaken : value ∈ key.opening.taken (between ++ [value]) :=
    (key.opening.mem_taken_iff _).2 ⟨between, [], rfl, hroom⟩
  have hsort := sort_some_append key.opening hundashed back
  rw [List.append_assoc, List.singleton_append] at hsort
  rw [ofEntries, sort_append_cons front hkey.dashed, sort_cons_of_opened hkey, hsort]
  have htoken : key.flag ++ "=" ++ value ∈
      (key.opening.taken (between ++ [value])).map (key.flag ++ "=" ++ ·) :=
    List.mem_map_of_mem htaken
  exact List.mem_append_right _ (List.mem_append_left _ htoken)

/-- What the tokens are: entries that open no option, and options with their values. -/
theorem mem_flags_iff : token ∈ (ofEntries entries).flags ↔
    (token ∈ entries ∧ isDashed token ∧ ∀ key : OptionKey, ¬ key.IsOpenedBy token) ∨
      ∃ key value, Attaches entries key value ∧ token = key.flag ++ "=" ++ value := by
  constructor
  · intro h
    obtain ⟨lead, groups, hgrouping⟩ := exists_isGrouping entries
    rw [ofEntries_of_isGrouping hgrouping] at h
    obtain ⟨group, hgroup, htoken⟩ := List.mem_flatMap.1 h
    obtain ⟨before, behind, rfl⟩ := List.append_of_mem hgroup
    have hwellFormed := hgrouping.wellFormed group hgroup
    have hentries := hgrouping.flatten
    generalize hpart : sort none group.entries = part at htoken
    have hbecomes := hpart ▸ hwellFormed.becomes
    cases hbecomes with
    | @kept head values hkept =>
      obtain rfl := List.mem_singleton.1 htoken
      left
      refine ⟨?_, hwellFormed.dashed, hkept⟩
      rw [hentries]
      simp [Group.entries]
    | @opened head values key hkey =>
      obtain ⟨value, hvalue, rfl⟩ := List.mem_map.1 htoken
      obtain ⟨between, after, rfl, hroom⟩ := (key.opening.mem_taken_iff values).1 hvalue
      right
      have hundashed := hwellFormed.undashed
      refine ⟨key, value, ⟨lead ++ before.flatMap Group.entries, head, between,
        after ++ behind.flatMap Group.entries, ?_, hkey, ?_, ?_, hroom⟩, rfl⟩
      · rw [hentries]
        simp [Group.entries]
      · exact fun entry hentry ↦ hundashed entry (by simp [hentry])
      · exact hundashed value (by simp)
  · rintro (⟨hmem, hdashed, hkept⟩ | ⟨key, value, hattaches, rfl⟩)
    · exact mem_flags_of_mem_entries hmem hdashed hkept
    · exact mem_flags_of_attaches hattaches

/-- Entries are split group by group and in order; every token is complete by itself, and splitting
the tokens again gives the same tokens. -/
theorem ofEntries_splits (entries : List String) :
    (∃ lead groups, IsGrouping entries lead groups) ∧
      (∀ lead groups, IsGrouping entries lead groups →
        ∃ parts, List.Forall₂ Group.Becomes groups parts ∧
          ofEntries entries = ⟨parts.flatMap flags, lead ++ parts.flatMap positional⟩) ∧
      (∀ token, token ∈ (ofEntries entries).flags ↔
        (token ∈ entries ∧ isDashed token ∧ ∀ key : OptionKey, ¬ key.IsOpenedBy token) ∨
          ∃ key value, Attaches entries key value ∧ token = key.flag ++ "=" ++ value) ∧
      ofEntries (ofEntries entries).flags = ⟨(ofEntries entries).flags, []⟩ := by
  refine ⟨exists_isGrouping entries, ?_, fun token ↦ mem_flags_iff, ?_⟩
  · intro lead groups h
    refine ⟨groups.map fun group ↦ sort none group.entries, ?_, ?_⟩
    · rw [List.forall₂_map_right_iff, List.forall₂_same]
      exact fun group hgroup ↦ (h.wellFormed group hgroup).becomes
    · rw [ofEntries_of_isGrouping h, List.flatMap_map, List.flatMap_map]
  · exact sort_none_of_kept fun token ↦ isKept_of_mem_flags none entries

example : ofEntries ["-f", "Success", "Crash", "--system", "stray", "-t", "gdbus", "extra"] =
    ⟨["--filter=Success", "--filter=Crash", "--system", "--target=gdbus"], ["stray", "extra"]⟩ := by
  decide +kernel

end Defaults

end BusReplay.CommandLine
