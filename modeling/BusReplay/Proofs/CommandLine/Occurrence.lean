import BusReplay.Proofs.CommandLine.Files

/-!
# Options that a command line gives

An option is given exactly when one of the tokens before the two dashes spells it, whatever stands
around that token. The reader keeps this in step: each token adds the option that it spells, and
taking over values or files adds none.
-/

namespace BusReplay.CommandLine

namespace Token

/-- The option that a token spells, with or without a value attached. -/
def key? : Token → Option OptionKey
  | flag key _ => some key
  | attached key _ => some key
  | opened key => some key
  | word => none
  | fault _ => none

/-- Whether a flag has no value and every other option has one. -/
def IsFit : Token → Prop
  | flag key _ => key.arity = .flag
  | attached key _ => key.arity ≠ .flag
  | opened key => key.arity ≠ .flag
  | word => True
  | fault _ => True

theorem isFit_ofLong (spelling : String) (value : Option String) :
    (ofLong spelling value).IsFit := by
  unfold ofLong
  split
  · trivial
  · next key _ => cases hkey : key.arity <;> cases value <;> simp [IsFit, hkey]

theorem isFit_ofLetter (c : Char) (rest : List Char) : (ofLetter c rest).IsFit := by
  unfold ofLetter
  split
  · trivial
  · next key _ =>
    cases hkey : key.arity with
    | flag => exact hkey
    | one | many => cases rest with
      | nil => simp [IsFit, hkey]
      | cons d rest => by_cases hd : d = '=' <;> simp [IsFit, hkey, hd]

theorem isFit_ofText (text : String) : (ofText text).IsFit := by
  unfold ofText
  split
  · split
    · exact isFit_ofLong _ _
    · exact isFit_ofLong _ _
  · exact isFit_ofLetter _ _
  · trivial

theorem exists_eq_flag_of_key? {token : Token} {key : OptionKey} (hfit : token.IsFit)
    (hkey : token.key? = some key) (hflag : key.arity = .flag) :
    ∃ isLong, token = flag key isLong := by
  cases token with
  | flag other isLong =>
    obtain rfl := Option.some.inj hkey
    exact ⟨isLong, rfl⟩
  | attached other value =>
    obtain rfl := Option.some.inj hkey
    exact absurd hflag hfit
  | opened other =>
    obtain rfl := Option.some.inj hkey
    exact absurd hflag hfit
  | word => cases hkey
  | fault failure => cases hkey

end Token

/-- Whether tokens give an option: one of those before the two dashes spells it. -/
def Gives (texts : List String) (key : OptionKey) : Prop :=
  ∃ text ∈ texts.takeWhile (· ≠ "--"), (Token.ofText text).key? = some key

instance (texts : List String) (key : OptionKey) : Decidable (Gives texts key) :=
  inferInstanceAs
    (Decidable (∃ text ∈ texts.takeWhile (· ≠ "--"), (Token.ofText text).key? = some key))

theorem not_gives_dashes (texts : List String) (key : OptionKey) : ¬ Gives ("--" :: texts) key := by
  rintro ⟨text, htext, -⟩
  simp at htext

theorem gives_cons {text : String} (hdashes : text ≠ "--") (texts : List String) (key : OptionKey) :
    Gives (text :: texts) key ↔ (Token.ofText text).key? = some key ∨ Gives texts key := by
  simp [Gives, hdashes]

namespace Given

/-- Whether an option is among what is given. Help and the version never are: asking for them
ends the reading. -/
def Has (g : Given) : OptionKey → Prop
  | .scope scope => scope ∈ g.scopes
  | .name => g.name ≠ none
  | .target => g.target ≠ none
  | .filter => g.filter ≠ []
  | .logFormat => g.logFormat ≠ none
  | .debug => g.debug = true
  | .completions => g.completions ≠ none
  | .manPage => g.manPage = true
  | .help => False
  | .version => False

variable {g next : Given} {key : OptionKey}

theorem not_has_nothing (key : OptionKey) : ¬ nothing.Has key := by
  cases key <;> simp [Has, nothing]

/-- A flag adds itself and nothing else. -/
theorem has_addFlag_iff (hflag : key.arity = .flag) (hhelp : key ≠ .help)
    (hversion : key ≠ .version) (other : OptionKey) :
    (g.addFlag key).Has other ↔ g.Has other ∨ key = other := by
  cases key with
  | scope scope =>
    cases other with
    | scope other =>
      by_cases hsame : scope = other
      · simp [addFlag, addScope, Has, hsame]
      · simp [addFlag, addScope, Has, hsame, Ne.symm hsame]
    | _ => simp [addFlag, addScope, Has]
  | debug => cases other <;> simp [addFlag, Has]
  | manPage => cases other <;> simp [addFlag, Has]
  | help => exact absurd rfl hhelp
  | version => exact absurd rfl hversion
  | name | target | filter | logFormat | completions => cases hflag

/-- An option with a value is taken over; a flag is not taken over in this way. -/
theorem has_of_addOption {values : List String} (h : g.addOption key values = .ok next)
    (other : OptionKey) : next.Has other ↔ g.Has other ∨ key.arity ≠ .flag ∧ key = other := by
  cases values with
  | nil => cases h
  | cons value rest =>
    cases key with
    | name =>
      obtain rfl := Except.ok.inj h
      cases other <;> simp [Has, OptionKey.arity]
    | target | logFormat | completions =>
      obtain ⟨chosen, -, h⟩ := bind_eq_ok_iff.1 h
      obtain rfl := Except.ok.inj h
      cases other <;> simp [Has, OptionKey.arity]
    | filter =>
      obtain ⟨classes, hclasses, h⟩ := bind_eq_ok_iff.1 h
      obtain rfl := Except.ok.inj h
      have hne : classes ≠ [] := by
        rintro rfl
        cases mapM_eq_ok_iff.1 hclasses
      cases other <;> simp [Has, OptionKey.arity, hne]
    | scope | debug | manPage | help | version =>
      obtain rfl := Except.ok.inj h
      simp [OptionKey.arity]

theorem has_of_addFiles {files : List String} (h : g.addFiles files = .ok next)
    (other : OptionKey) : next.Has other ↔ g.Has other := by
  obtain ⟨-, rfl⟩ := of_addFiles_eq_ok h
  rw [append_onlyFiles]
  cases other <;> rfl

end Given

namespace Reader

/-- Whether an option has been given, or will be once its values are taken over. -/
def Has (r : Reader) (key : OptionKey) : Prop :=
  r.given.Has key ∨ key.arity ≠ .flag ∧ ∃ values, r.pending = some (.option key values)

variable {r next : Reader} {key : OptionKey}

theorem has_idle_iff {given : Given} : Has ⟨given, none, false⟩ key ↔ given.Has key := by
  simp [Has]

theorem has_of_settled {given : Given} (h : r.settled = .ok given) :
    given.Has key ↔ r.Has key := by
  obtain ⟨before, pending, takesWord⟩ := r
  rcases pending with _ | (⟨other, values⟩ | paths)
  · obtain rfl := Except.ok.inj h
    simp [Has]
  · rw [Given.has_of_addOption h key]
    by_cases hsame : other = key <;> simp [Has, hsame]
  · rw [Given.has_of_addFiles h key]
    simp [Has]

theorem has_of_file {path : String} (h : r.file path = .ok next) : next.Has key ↔ r.Has key := by
  by_cases hrow : ∃ paths, r.pending = some (.files paths)
  · obtain ⟨given, pending, takesWord⟩ := r
    obtain ⟨paths, rfl⟩ := hrow
    obtain rfl := Except.ok.inj h
    simp [Has]
  · rw [not_exists] at hrow
    rw [file_of_no_row r hrow, bind_eq_ok_iff] at h
    obtain ⟨given, hgiven, h⟩ := h
    obtain rfl := Except.ok.inj h
    rw [← has_of_settled hgiven]
    simp [Has, ofRow]

theorem has_of_foldlM_file {paths : List String} (h : paths.foldlM file r = .ok next) :
    next.Has key ↔ r.Has key := by
  refine foldlM_invariant (P := fun reader ↦ reader.Has key ↔ r.Has key) ?_ Iff.rfl h
  intro before path after hbefore hafter
  exact (has_of_file hafter).trans hbefore

theorem has_of_word {text : String} (h : r.word text = .ok next) : next.Has key ↔ r.Has key := by
  unfold word at h
  split at h
  · next other values hpending _ =>
    obtain rfl := Except.ok.inj h
    simp [Has, hpending]
  · exact has_of_file h

/-- A token adds the option that it spells. -/
theorem has_of_token {text : String} (h : r.token text = .ok next) :
    next.Has key ↔ r.Has key ∨ (Token.ofText text).key? = some key := by
  have hfit := Token.isFit_ofText text
  rw [token_eq_act] at h
  cases htoken : Token.ofText text with
  | flag other isLong =>
    rw [htoken] at h hfit
    have hasks : other ≠ .help ∧ other ≠ .version := by
      obtain ⟨given, -, h⟩ := bind_eq_ok_iff.1 h
      constructor <;> rintro rfl <;> cases h
    obtain ⟨given, hgiven, rfl⟩ := exists_of_flag r h
    rw [has_idle_iff, Given.has_addFlag_iff hfit hasks.1 hasks.2, has_of_settled hgiven]
    simp [Token.key?]
  | attached other value =>
    rw [htoken] at h hfit
    obtain ⟨given, more, hgiven, hmore, rfl⟩ := exists_of_attached r h
    have hvalued : other.arity ≠ .flag := hfit
    rw [has_idle_iff, Given.has_of_addOption hmore, has_of_settled hgiven]
    simp [Token.key?, hvalued]
  | opened other =>
    rw [htoken] at h hfit
    obtain ⟨given, hgiven, rfl⟩ := exists_of_opened r h
    have hvalued : other.arity ≠ .flag := hfit
    rw [← has_of_settled hgiven]
    by_cases hsame : other = key
    · simp [Has, Token.key?, ← hsame, hvalued]
    · simp [Has, Token.key?, hsame]
  | word =>
    rw [htoken] at h
    rw [has_of_word h]
    simp [Token.key?]
  | fault failure =>
    rw [htoken] at h
    cases h

/-- Tokens add the options that they give and no others. -/
theorem has_of_tokens {texts : List String} {last : Reader} (h : r.tokens texts = .ok last) :
    last.Has key ↔ r.Has key ∨ Gives texts key := by
  induction texts generalizing r with
  | nil =>
    obtain rfl := Except.ok.inj h
    simp [Gives]
  | cons text texts ih =>
    unfold tokens at h
    split at h
    · next hdashes =>
      rw [has_of_foldlM_file h, hdashes]
      simp [not_gives_dashes]
    · next hdashes =>
      rw [bind_eq_ok_iff] at h
      obtain ⟨next, hnext, h⟩ := h
      rw [ih h, has_of_token hnext, gives_cons hdashes, or_assoc]

end Reader

/-- An option is given exactly when a token that spells it is read. -/
theorem Given.has_iff_gives {given : Given} {texts : List String} (h : ofTokens texts = .ok given)
    (key : OptionKey) : given.Has key ↔ Gives texts key := by
  unfold ofTokens at h
  rw [bind_eq_ok_iff] at h
  obtain ⟨last, hlast, hgiven⟩ := h
  rw [Reader.has_of_settled hgiven, Reader.has_of_tokens hlast, Reader.initial,
    Reader.has_idle_iff]
  simp [not_has_nothing]

end BusReplay.CommandLine
