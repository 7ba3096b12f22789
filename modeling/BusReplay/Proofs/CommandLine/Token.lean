import BusReplay.CommandLine.Defaults
import BusReplay.CommandLine.Parser
import BusReplay.Proofs.Except

/-!
# Tokens by themselves

What a token before the two dashes is can be told without looking at what stands before it: a
flag, an option with its value attached, an option whose values follow, a word, or a fault. What a
word is for depends on the options before it. The reader acts on a token by what the token is.
-/

namespace BusReplay.CommandLine

theorem OptionKey.long_of_ofLong? {long : String} {key : OptionKey} (h : ofLong? long = some key) :
    key.long = long := by
  unfold ofLong? at h
  have hlong := List.find?_some h
  exact beq_iff_eq.1 hlong

theorem OptionKey.ofLong?_long (key : OptionKey) : ofLong? key.long = some key := by
  cases key with
  | scope scope => cases scope <;> decide
  | _ => decide

inductive Token
  | flag (key : OptionKey) (isLong : Bool)
  | attached (key : OptionKey) (value : String)
  | opened (key : OptionKey)
  | word
  | fault (failure : Failure)

namespace Token

def ofLong (spelling : String) (value : Option String) : Token :=
  match OptionKey.ofLong? spelling with
  | none => fault (.unknown ("--" ++ spelling))
  | some key =>
    match key.arity, value with
    | .flag, none => flag key true
    | .flag, some value => fault (.unneededValue value key.label)
    | _, some value => attached key value
    | _, none => opened key

def ofLetter (c : Char) (rest : List Char) : Token :=
  match OptionKey.ofLetter? c with
  | none => fault (.unknown ("-" ++ c.toString))
  | some key =>
    match key.arity, rest with
    | .flag, _ => flag key false
    | _, [] => opened key
    | _, '=' :: value => attached key (.ofList value)
    | _, value => attached key (.ofList value)

def ofText (text : String) : Token :=
  match text.toList with
  | '-' :: '-' :: body =>
    match body.span (· ≠ '=') with
    | (spelling, '=' :: value) => ofLong (.ofList spelling) (some (.ofList value))
    | _ => ofLong (.ofList body) none
  | '-' :: c :: rest => ofLetter c rest
  | _ => word

/-! What a spelling has to be for a token of a kind -/

theorem of_ofLong_eq_flag {spelling : String} {value : Option String} {key : OptionKey}
    {isLong : Bool} (h : ofLong spelling value = flag key isLong) :
    OptionKey.ofLong? spelling = some key ∧ value = none := by
  unfold ofLong at h
  split at h
  · cases h
  · next found hfound =>
    split at h
    · cases h
      exact ⟨hfound, rfl⟩
    · cases h
    · cases h
    · cases h

theorem of_ofLetter_eq_flag {c : Char} {rest : List Char} {key : OptionKey} {isLong : Bool}
    (h : ofLetter c rest = flag key isLong) : OptionKey.ofLetter? c = some key := by
  unfold ofLetter at h
  split at h
  · cases h
  · next found hfound =>
    split at h
    · cases h
      exact hfound
    · cases h
    · cases h
    · cases h

theorem of_ofLong_eq_opened {spelling : String} {value : Option String} {key : OptionKey}
    (h : ofLong spelling value = opened key) :
    OptionKey.ofLong? spelling = some key ∧ key.arity ≠ .flag ∧ value = none := by
  unfold ofLong at h
  split at h
  · cases h
  · next found hfound =>
    split at h
    · cases h
    · cases h
    · cases h
    · next hflag =>
      cases h
      exact ⟨hfound, hflag, rfl⟩

theorem of_ofLetter_eq_opened {c : Char} {rest : List Char} {key : OptionKey}
    (h : ofLetter c rest = opened key) :
    OptionKey.ofLetter? c = some key ∧ key.arity ≠ .flag ∧ rest = [] := by
  unfold ofLetter at h
  split at h
  · cases h
  · next found hfound =>
    split at h
    · cases h
    · next hflag =>
      cases h
      exact ⟨hfound, hflag, rfl⟩
    · cases h
    · cases h

theorem ofLong_ne_word (spelling : String) (value : Option String) :
    ofLong spelling value ≠ word := by
  unfold ofLong
  split
  · nofun
  · split <;> nofun

theorem ofLetter_ne_word (c : Char) (rest : List Char) : ofLetter c rest ≠ word := by
  unfold ofLetter
  split
  · nofun
  · split <;> nofun

/-- Whether a token can stand in front of others without a change to them: it does not end the
options, leaves no option open, and names no empty file. -/
structure IsClosed (text : String) : Prop where
  ne_dashes : text ≠ "--"
  ne_empty : text ≠ ""
  not_opened : ∀ key, ofText text ≠ opened key

end Token

namespace Reader

variable (r : Reader)

def act (text : String) : Token → Except Failure Reader
  | .flag key isLong => r.flag key isLong
  | .attached key value => r.attached key value
  | .opened key => r.opened key
  | .word => r.word text
  | .fault failure => .error failure

theorem long_eq_act (text spelling : String) (value : Option String) :
    r.long spelling value = r.act text (.ofLong spelling value) := by
  unfold long Token.ofLong
  cases OptionKey.ofLong? spelling with
  | none => rfl
  | some key =>
    dsimp only
    cases key.arity <;> cases value <;> rfl

/-- The flags that have a letter end the reading. -/
theorem exists_flag_eq_error {key : OptionKey} {c : Char}
    (hletter : OptionKey.ofLetter? c = some key) (hflag : key.arity = .flag) (isLong : Bool) :
    ∃ e, r.flag key isLong = .error e := by
  have hsome : key.letter? = some c := by simpa using List.find?_some hletter
  unfold flag
  cases r.settled with
  | error e => exact ⟨e, rfl⟩
  | ok given =>
    cases key with
    | help => exact ⟨_, rfl⟩
    | version => exact ⟨_, rfl⟩
    | name | target | filter | logFormat | completions => cases hflag
    | scope | debug | manPage => cases hsome

theorem letters_eq_act (text : String) (c : Char) (rest : List Char) :
    r.letters (c :: rest) = r.act text (.ofLetter c rest) := by
  unfold letters Token.ofLetter
  cases hletter : OptionKey.ofLetter? c with
  | none => rfl
  | some key =>
    dsimp only
    cases hkey : key.arity with
    | flag =>
      obtain ⟨e, he⟩ := r.exists_flag_eq_error hletter hkey false
      simp [act, he, bind, Except.bind]
    | one => cases rest with
      | nil => rfl
      | cons d rest => by_cases hd : d = '=' <;> simp [act, hd]
    | many => cases rest with
      | nil => rfl
      | cons d rest => by_cases hd : d = '=' <;> simp [act, hd]

/-- The reader acts on a token by what the token is. -/
theorem token_eq_act (text : String) : r.token text = r.act text (.ofText text) := by
  unfold token
  fun_cases Token.ofText text with
  | case1 body htext spelling value hspan =>
    simp only [htext, hspan]
    exact r.long_eq_act text _ _
  | case2 body htext hspan =>
    simp only [htext]
    exact r.long_eq_act text _ _
  | case3 c rest hletter htext =>
    simp only [htext]
    exact r.letters_eq_act text _ _
  | case4 hlong hletters =>
    split
    · next body htext => exact (hlong body htext).elim
    · next c rest _ htext => exact (hletters c rest htext).elim
    · rfl

end Reader

end BusReplay.CommandLine
