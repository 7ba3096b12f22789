import BusReplay.Proofs.CommandLine.Given
import BusReplay.Proofs.CommandLine.Token

/-!
# Reading a command line part by part

What stands before a token decides what a word is for, and nothing else: reading adds to what is
given in the same way whatever has been given before. So a command line whose first part leaves no
option open gives what the first part and the rest give by themselves, one behind the other.
-/

namespace BusReplay.CommandLine

open Given (nothing)

namespace Reader

/-- The same state of reading with more given before. -/
def after (r : Reader) (g : Given) : Reader := { r with given := g ++ r.given }

variable (r : Reader) (g : Given)

theorem settled_after : (r.after g).settled = r.settled.map (g ++ ·) := by
  obtain ⟨given, pending, takesWord⟩ := r
  rcases pending with _ | (⟨key, values⟩ | paths)
  · rfl
  · exact Given.addOption_append g given key values
  · exact Given.addFiles_append g given paths

theorem flag_after (key : OptionKey) (isLong : Bool) :
    (r.after g).flag key isLong = (r.flag key isLong).map (·.after g) := by
  unfold flag
  rw [settled_after]
  apply map_bind_eq_map
  intro given
  have hflag : (g ++ given).addFlag key = g ++ given.addFlag key := Given.addFlag_append g given key
  cases key with
  | help => rfl
  | version => rfl
  | _ => exact congrArg (fun given ↦ Except.ok (Reader.mk given none false)) hflag

theorem attached_after (key : OptionKey) (value : String) :
    (r.after g).attached key value = (r.attached key value).map (·.after g) := by
  unfold attached
  rw [settled_after]
  apply map_bind_eq_map
  intro given
  rw [Given.addOption_append]
  exact map_bind_eq_map fun _ ↦ rfl

theorem opened_after (key : OptionKey) :
    (r.after g).opened key = (r.opened key).map (·.after g) := by
  unfold opened
  rw [settled_after]
  exact map_bind_eq_map fun _ ↦ rfl

/-- The state behind the first of a row of files. -/
def ofRow (given : Given) (path : String) : Reader := ⟨given, some (.files [path]), false⟩

/-- A file begins a row unless there is one. -/
theorem file_of_no_row (hrow : ∀ paths, r.pending ≠ some (.files paths)) (path : String) :
    r.file path = r.settled >>= fun given ↦ .ok (ofRow given path) := by
  unfold file
  split
  · next paths hpending => exact absurd hpending (hrow paths)
  · rfl

theorem file_after (path : String) : (r.after g).file path = (r.file path).map (·.after g) := by
  by_cases hrow : ∃ paths, r.pending = some (.files paths)
  · obtain ⟨given, pending, takesWord⟩ := r
    obtain ⟨paths, rfl⟩ := hrow
    rfl
  · rw [not_exists] at hrow
    rw [file_of_no_row r hrow, file_of_no_row (r.after g) hrow, settled_after]
    exact map_bind_eq_map fun _ ↦ rfl

theorem word_after (text : String) : (r.after g).word text = (r.word text).map (·.after g) := by
  have hfile := r.file_after g text
  obtain ⟨given, pending, takesWord⟩ := r
  rcases pending with _ | (⟨key, values⟩ | paths)
  · exact hfile
  · cases takesWord with
    | true => rfl
    | false => exact hfile
  · exact hfile

theorem token_after (text : String) : (r.after g).token text = (r.token text).map (·.after g) := by
  rw [token_eq_act, token_eq_act]
  cases Token.ofText text with
  | flag key isLong => exact r.flag_after g key isLong
  | attached key value => exact r.attached_after g key value
  | opened key => exact r.opened_after g key
  | word => exact r.word_after g text
  | fault failure => rfl

theorem foldlM_file_after (paths : List String) :
    paths.foldlM file (r.after g) = (paths.foldlM file r).map (·.after g) := by
  induction paths generalizing r with
  | nil => rfl
  | cons path paths ih =>
    rw [List.foldlM_cons, List.foldlM_cons, file_after]
    exact map_bind_eq_map ih

/-- Tokens are read in the same way, whatever was given before them. -/
theorem tokens_after (texts : List String) :
    (r.after g).tokens texts = (r.tokens texts).map (·.after g) := by
  induction texts generalizing r with
  | nil => rfl
  | cons text texts ih =>
    unfold tokens
    split
    · exact r.foldlM_file_after g texts
    · rw [token_after]
      exact map_bind_eq_map ih

/-- Read tokens to the end of a command line. -/
def finish (texts : List String) : Except Failure Given := r.tokens texts >>= settled

theorem finish_after (texts : List String) :
    (r.after g).finish texts = (r.finish texts).map (g ++ ·) := by
  rw [finish, tokens_after]
  exact map_bind_eq_map fun next ↦ next.settled_after g

theorem initial_after : initial.after g = ⟨g, none, false⟩ := by
  rw [after, initial, Given.append_nothing]

/-! ## Rows of files -/

/-- A row of files, which is none if it is empty. -/
def row : List String → Option Pending
  | [] => none
  | paths => some (.files paths)

theorem settled_row (g : Given) (paths : List String) :
    settled ⟨g, row paths, false⟩ = g.addFiles paths := by
  cases paths with
  | nil =>
    rw [Given.addFiles_eq_ok g List.not_mem_nil, Given.append_onlyFiles, List.append_nil]
    rfl
  | cons path paths => rfl

theorem file_row (g : Given) (taken : List String) (path : String) :
    file ⟨g, row taken, false⟩ path = .ok ⟨g, row (taken ++ [path]), false⟩ := by
  cases taken <;> rfl

theorem word_row (g : Given) (taken : List String) (text : String) :
    word ⟨g, row taken, false⟩ text = .ok ⟨g, row (taken ++ [text]), false⟩ := by
  cases taken <;> rfl

theorem foldlM_file_row (g : Given) (taken paths : List String) :
    paths.foldlM file ⟨g, row taken, false⟩ = .ok ⟨g, row (taken ++ paths), false⟩ := by
  induction paths generalizing taken with
  | nil => rw [List.append_nil]; rfl
  | cons path paths ih =>
    rw [List.foldlM_cons, file_row]
    exact (ih (taken ++ [path])).trans (by rw [List.append_assoc, List.singleton_append])

variable {g} {before : List String} (hbefore : "" ∉ before)

include hbefore

/-- The beginning of a row may as well have been taken over already. -/
theorem settled_row_append (taken : List String) :
    settled ⟨g, row (before ++ taken), false⟩ =
      settled ⟨g ++ Given.onlyFiles before, row taken, false⟩ := by
  rw [settled_row, settled_row]
  by_cases htaken : "" ∈ taken
  · rw [Given.addFiles, Given.addFiles, if_pos (List.mem_append_right before htaken), if_pos htaken]
  · have hall : "" ∉ before ++ taken := by simp [hbefore, htaken]
    rw [Given.addFiles_eq_ok _ hall, Given.addFiles_eq_ok _ htaken, Given.onlyFiles_append,
      Given.append_assoc]

theorem act_row_append (taken : List String) (text : String) {token : Token}
    (hword : token ≠ .word) :
    act ⟨g, row (before ++ taken), false⟩ text token =
      act ⟨g ++ Given.onlyFiles before, row taken, false⟩ text token := by
  cases token with
  | flag key isLong => simp only [act, flag, settled_row_append hbefore]
  | attached key value => simp only [act, attached, settled_row_append hbefore]
  | opened key => simp only [act, opened, settled_row_append hbefore]
  | word => exact absurd rfl hword
  | fault failure => rfl

/-- The first files of a row may be taken over before the others are read. -/
theorem finish_row_append (taken texts : List String) :
    finish ⟨g, row (before ++ taken), false⟩ texts =
      finish ⟨g ++ Given.onlyFiles before, row taken, false⟩ texts := by
  induction texts generalizing taken with
  | nil => exact settled_row_append hbefore taken
  | cons text texts ih =>
    unfold finish tokens
    split
    · rw [foldlM_file_row, foldlM_file_row, List.append_assoc]
      exact settled_row_append hbefore (taken ++ texts)
    · rw [token_eq_act, token_eq_act]
      by_cases hword : Token.ofText text = .word
      · rw [hword, act, act, word_row, word_row, List.append_assoc]
        exact ih (taken ++ [text])
      · rw [act_row_append hbefore taken text hword]

omit hbefore

/-! ## What a token can do -/

theorem exists_of_flag {key : OptionKey} {isLong : Bool} {next : Reader}
    (h : r.flag key isLong = .ok next) :
    ∃ given, r.settled = .ok given ∧ next = ⟨given.addFlag key, none, false⟩ := by
  unfold flag at h
  obtain ⟨given, hgiven, h⟩ := bind_eq_ok_iff.1 h
  refine ⟨given, hgiven, ?_⟩
  cases key with
  | help => cases h
  | version => cases h
  | _ => exact (Except.ok.inj h).symm

theorem exists_of_attached {key : OptionKey} {value : String} {next : Reader}
    (h : r.attached key value = .ok next) :
    ∃ given more, r.settled = .ok given ∧ given.addOption key [value] = .ok more ∧
      next = ⟨more, none, false⟩ := by
  unfold attached at h
  obtain ⟨given, hgiven, h⟩ := bind_eq_ok_iff.1 h
  obtain ⟨more, hmore, h⟩ := bind_eq_ok_iff.1 h
  exact ⟨given, more, hgiven, hmore, (Except.ok.inj h).symm⟩

theorem exists_of_opened {key : OptionKey} {next : Reader} (h : r.opened key = .ok next) :
    ∃ given, r.settled = .ok given ∧ next = ⟨given, some (.option key []), true⟩ := by
  unfold opened at h
  obtain ⟨given, hgiven, h⟩ := bind_eq_ok_iff.1 h
  exact ⟨given, hgiven, (Except.ok.inj h).symm⟩

/-! ## Parts of a command line -/

/-- Tokens without two dashes can be read on their own. -/
theorem tokens_append {texts : List String} (htexts : "--" ∉ texts) (others : List String) :
    r.tokens (texts ++ others) = r.tokens texts >>= fun next ↦ next.tokens others := by
  induction texts generalizing r with
  | nil => rfl
  | cons text texts ih =>
    rw [List.mem_cons, not_or] at htexts
    rw [List.cons_append, tokens, tokens, if_neg (Ne.symm htexts.1), if_neg (Ne.symm htexts.1)]
    cases r.token text with
    | error e => rfl
    | ok next => exact ih next htexts.2

/-- Behind closed tokens no option is open. -/
theorem exists_row_of_token {text : String} (hclosed : Token.IsClosed text) {taken : List String}
    (htaken : "" ∉ taken) {next : Reader} (h : token ⟨g, row taken, false⟩ text = .ok next) :
    ∃ more others, "" ∉ others ∧ next = ⟨more, row others, false⟩ := by
  rw [token_eq_act] at h
  cases htoken : Token.ofText text with
  | flag key isLong =>
    rw [htoken] at h
    obtain ⟨given, -, rfl⟩ := exists_of_flag _ h
    exact ⟨_, [], List.not_mem_nil, rfl⟩
  | attached key value =>
    rw [htoken] at h
    obtain ⟨given, more, -, -, rfl⟩ := exists_of_attached _ h
    exact ⟨_, [], List.not_mem_nil, rfl⟩
  | opened key => exact absurd htoken (hclosed.not_opened key)
  | word =>
    rw [htoken, act, word_row] at h
    refine ⟨g, taken ++ [text], ?_, (Except.ok.inj h).symm⟩
    simp [htaken, Ne.symm hclosed.ne_empty]
  | fault failure =>
    rw [htoken] at h
    cases h

theorem exists_row_of_tokens {texts : List String} (hclosed : ∀ text ∈ texts, Token.IsClosed text)
    (taken : List String) (htaken : "" ∉ taken) {last : Reader}
    (h : tokens ⟨g, row taken, false⟩ texts = .ok last) :
    ∃ more others, "" ∉ others ∧ last = ⟨more, row others, false⟩ := by
  induction texts generalizing g taken with
  | nil => exact ⟨g, taken, htaken, (Except.ok.inj h).symm⟩
  | cons text texts ih =>
    rw [List.forall_mem_cons] at hclosed
    rw [tokens, if_neg hclosed.1.ne_dashes, bind_eq_ok_iff] at h
    obtain ⟨next, hnext, h⟩ := h
    obtain ⟨more, others, hothers, rfl⟩ := exists_row_of_token hclosed.1 htaken hnext
    exact ih hclosed.2 others hothers h

end Reader

/-- A part that leaves no option open gives what it gives by itself, and so does the rest. -/
theorem Given.ofTokens_append {texts : List String}
    (hclosed : ∀ text ∈ texts, Token.IsClosed text) (others : List String) :
    ofTokens (texts ++ others) = (do
      let g ← ofTokens texts
      let h ← ofTokens others
      return g ++ h) := by
  have hdashes : "--" ∉ texts := fun hmem ↦ (hclosed _ hmem).ne_dashes rfl
  unfold ofTokens
  rw [Reader.tokens_append _ hdashes]
  cases htexts : Reader.initial.tokens texts with
  | error e => rfl
  | ok last =>
    obtain ⟨g, taken, htaken, rfl⟩ := Reader.exists_row_of_tokens hclosed []
      List.not_mem_nil htexts
    -- The row of files that is still open is taken over first, and the rest adds to the result.
    have hsettled : Reader.settled ⟨g, Reader.row taken, false⟩ = .ok (g ++ onlyFiles taken) := by
      rw [Reader.settled_row, addFiles_eq_ok g htaken]
    have hfinish := Reader.finish_row_append (g := g) htaken [] others
    rw [List.append_nil, Reader.row, ← Reader.initial_after, Reader.finish_after] at hfinish
    calc Reader.finish ⟨g, Reader.row taken, false⟩ others
        = (Reader.initial.finish others).map (g ++ onlyFiles taken ++ ·) := hfinish
      _ = Reader.settled ⟨g, Reader.row taken, false⟩ >>= fun part ↦
            Reader.initial.finish others >>= fun h ↦ .ok (part ++ h) := by
          rw [hsettled]
          cases Reader.initial.finish others <;> rfl

end BusReplay.CommandLine
